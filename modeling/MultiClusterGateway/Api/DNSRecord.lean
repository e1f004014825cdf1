import Mathlib

set_option autoImplicit false

/-! # The DNSRecord API (`pkg/apis/v1alpha1/dnsrecord_types.go`)

The endpoint of a DNS record set with its provider specific properties, and the `DNSRecord` object
as the controllers read and write it: the metadata that decides what an API call does (key, labels,
generation, resource version, deletion mark, finalizers), the spec, and the status with its
conditions.

Labels are association lists in which the first entry for a key counts, with `Labels.set` as the
assignment to a map. Conditions have no transition times, which nothing depends on. Properties of an
endpoint are a list in the source as well: setting one overwrites the first of its name and appends
it if there is none, so that the properties that an endpoint had before stay where they were. The
few lemmas here are what the results about endpoints rewrite with. -/

namespace MultiClusterGateway

/-! ## Object metadata -/

/-- A `map[string]string` of labels or annotations. -/
abbrev Labels := List (String × String)

/-- The value stored under `key`; the first entry of the list counts. -/
def Labels.get? (l : Labels) (key : String) : Option String :=
  (l.find? (fun kv => kv.1 == key)).map (·.2)

/-- `l[key] = value`. -/
def Labels.set (l : Labels) (key value : String) : Labels :=
  (key, value) :: l.filter (fun kv => kv.1 != key)

/-- `labels.SelectorFromSet(selector).Matches(l)`: `l` has every label of the selector. -/
def Labels.matches (l selector : Labels) : Bool :=
  selector.all (fun kv => l.get? kv.1 == some kv.2)

theorem Labels.get?_set_of_ne {l : Labels} {key key' value : String} (h : key' ≠ key) :
    (Labels.set l key value).get? key' = l.get? key' := by
  unfold Labels.get? Labels.set
  rw [List.find?_cons_of_neg (by simpa using fun heq => h heq.symm), List.find?_filter]
  congr 2
  funext kv
  by_cases hkv : kv.1 = key'
  · simp [hkv, h]
  · simp [hkv]

/-- `types.NamespacedName`. -/
structure ObjectKey where
  ns : String
  name : String
deriving DecidableEq, Repr

/-- The part of `ObjectMeta` that the controllers read or write. -/
structure ObjectMeta where
  name : String
  ns : String
  labels : Labels := []
  annotations : Labels := []
  generation : Nat := 0
  resourceVersion : Nat := 0
  /-- The object is marked for deletion. -/
  deletionTimestamp : Bool := false
  finalizers : List String := []
  /-- The object that `SetControllerReference` recorded as the controller of this one. -/
  controllerRef : Option String := none
deriving DecidableEq, Repr

/-- The namespaced name. -/
def ObjectMeta.key (m : ObjectMeta) : ObjectKey := ⟨m.ns, m.name⟩

/-! ## Conditions -/

/-- `metav1.Condition`, without its transition time. -/
structure Condition where
  type : String
  status : Bool
  reason : String
  message : String
  observedGeneration : Nat
deriving DecidableEq, Repr

/-- `meta.SetStatusCondition`: replace the condition of the same type, or add it. -/
def setStatusCondition (conditions : List Condition) (c : Condition) : List Condition :=
  if conditions.any (·.type == c.type) then
    conditions.map (fun d => if d.type == c.type then c else d)
  else
    conditions ++ [c]

/-- `meta.IsStatusConditionTrue`. -/
def isStatusConditionTrue (conditions : List Condition) (type : String) : Bool :=
  (conditions.find? (·.type == type)).any (·.status)

/-- A condition that was set is the one that is read. -/
theorem isStatusConditionTrue_set (conditions : List Condition) (c : Condition) :
    isStatusConditionTrue (setStatusCondition conditions c) c.type = c.status := by
  unfold isStatusConditionTrue setStatusCondition
  split
  · rename_i hany
    have hfind : (conditions.map (fun d => if d.type == c.type then c else d)).find?
        (·.type == c.type) = some c := by
      induction conditions with
      | nil => simp at hany
      | cons d rest ih =>
          by_cases hd : d.type = c.type
          · simp [hd]
          · have hrest : rest.any (·.type == c.type) = true := by simpa [hd] using hany
            simpa [hd] using ih hrest
    rw [hfind]
    rfl
  · rename_i hany
    have hnone : conditions.find? (·.type == c.type) = none := by
      simpa using hany
    simp [List.find?_append, hnone]

/-- `ConditionTypeReady`. -/
def conditionTypeReady : String := "Ready"

/-! ## Endpoints -/

/-- `ProviderSpecificProperty`: a name and a value that a provider makes something of. -/
structure ProviderSpecificProperty where
  name : String
  value : String
deriving DecidableEq, Repr

/-- The record types of the API; the field itself is a string, so other values can occur. -/
inductive DNSRecordType where
  | CNAME
  | A
  | NS
  | other (name : String)
deriving DecidableEq, Repr

/-- `Endpoint`, without the labels, which the code never sets or reads. -/
structure Endpoint where
  dnsName : String
  targets : List String
  recordType : DNSRecordType
  setIdentifier : String
  recordTTL : Int
  providerSpecific : List ProviderSpecificProperty
deriving DecidableEq, Repr

instance : Inhabited Endpoint := ⟨⟨"", [], .other "", "", 0, []⟩⟩

namespace Endpoint

/-- `SetID` returns an id that should be unique across a set of endpoints. -/
def setID (e : Endpoint) : String := e.dnsName ++ e.setIdentifier

/-- `GetProviderSpecificProperty`: the first property of the name. -/
def getProviderSpecificProperty (e : Endpoint) (key : String) : Option ProviderSpecificProperty :=
  e.providerSpecific.find? (fun p => p.name == key)

/-- The loop of `SetProviderSpecific`: overwrite the first property of that name, or append. -/
def setProperty (name value : String) :
    List ProviderSpecificProperty → List ProviderSpecificProperty
  | [] => [⟨name, value⟩]
  | p :: rest => if p.name = name then ⟨p.name, value⟩ :: rest else p :: setProperty name value rest

/-- `SetProviderSpecific`: the first property of the name gets the value, or a new one is added. -/
def setProviderSpecific (name value : String) (e : Endpoint) : Endpoint :=
  { e with providerSpecific := setProperty name value e.providerSpecific }

theorem find?_setProperty (name value : String) (l : List ProviderSpecificProperty) :
    (setProperty name value l).find? (fun p => p.name == name) = some ⟨name, value⟩ := by
  induction l with
  | nil => simp [setProperty]
  | cons p rest ih =>
      unfold setProperty
      by_cases hp : p.name = name
      · simp [hp]
      · simp [hp, ih]

/-- Reading back a property that was just set. -/
@[simp] theorem getProviderSpecificProperty_set (name value : String) (e : Endpoint) :
    (e.setProviderSpecific name value).getProviderSpecificProperty name = some ⟨name, value⟩ :=
  find?_setProperty name value e.providerSpecific

theorem find?_setProperty_of_ne {name name' : String} (h : name' ≠ name) (value : String)
    (l : List ProviderSpecificProperty) :
    (setProperty name value l).find? (fun p => p.name == name')
      = l.find? (fun p => p.name == name') := by
  induction l with
  | nil => simp [setProperty, h.symm]
  | cons p rest ih =>
      unfold setProperty
      by_cases hp : p.name = name
      · simp [hp, h.symm]
      · simp [hp, List.find?_cons, ih]

/-- Setting a property does not touch the others. -/
theorem getProviderSpecificProperty_set_of_ne {name name' : String} (h : name' ≠ name)
    (value : String) (e : Endpoint) :
    (e.setProviderSpecific name value).getProviderSpecificProperty name'
      = e.getProviderSpecificProperty name' :=
  find?_setProperty_of_ne h value e.providerSpecific

@[simp] theorem setProviderSpecific_dnsName (name value : String) (e : Endpoint) :
    (e.setProviderSpecific name value).dnsName = e.dnsName := rfl

@[simp] theorem setProviderSpecific_targets (name value : String) (e : Endpoint) :
    (e.setProviderSpecific name value).targets = e.targets := rfl

@[simp] theorem setProviderSpecific_recordType (name value : String) (e : Endpoint) :
    (e.setProviderSpecific name value).recordType = e.recordType := rfl

@[simp] theorem setProviderSpecific_setIdentifier (name value : String) (e : Endpoint) :
    (e.setProviderSpecific name value).setIdentifier = e.setIdentifier := rfl

/-- `GetProviderSpecific`, the value only. -/
def getProviderSpecific (e : Endpoint) (name : String) : Option String :=
  (e.getProviderSpecificProperty name).map (·.value)

/-- `DeleteProviderSpecific`: all properties of the name go. -/
def deleteProviderSpecific (name : String) (e : Endpoint) : Endpoint :=
  { e with providerSpecific := e.providerSpecific.filter (fun p => p.name != name) }

/-- The address of an endpoint, which is empty when there is none. -/
def getAddress (e : Endpoint) : String × Bool :=
  if e.setIdentifier = "" then ("", false)
  else match e.targets with
    | [] => ("", false)
    | target :: _ => (target, true)

@[simp] theorem setProviderSpecific_getAddress (name value : String) (e : Endpoint) :
    (e.setProviderSpecific name value).getAddress = e.getAddress := rfl

end Endpoint

/-! ## The DNSRecord object -/

/-- `DNSRecordSpec`; the zone is given by its name. -/
structure DNSRecordSpec where
  managedZoneRef : String
  endpoints : List Endpoint
deriving DecidableEq, Repr

/-- `DNSRecordStatus`. -/
structure DNSRecordStatus where
  conditions : List Condition := []
  observedGeneration : Nat := 0
  /-- The last endpoints that were successfully published by the provider. -/
  endpoints : List Endpoint := []
deriving DecidableEq, Repr

/-- A DNSRecord object. -/
structure DNSRecord where
  metadata : ObjectMeta
  spec : DNSRecordSpec
  status : DNSRecordStatus := {}
deriving DecidableEq, Repr

end MultiClusterGateway
