import MultiClusterGateway.Api.DnsObjects

set_option autoImplicit false

/-! # The managed zone controller (`pkg/controllers/managedzone/managedzone_controller.go`)

A managed zone is published through its provider, and if it has a parent zone, an NS record there
delegates to its name servers. Each failure is kept for the condition that is written at the end;
the steps after it are still made. Other clients may change DNS records before every call: what they
do is given with the state.

The steps are small programs over the zones and records behind the server, with the texts of the
conditions as the source has them. The answers of the provider are given for one reconcile. The
check whether the NS record is ready reads it again and takes a missing one for ready, and the
record is created when it is not there but not updated when it is; what this means for a zone that
says that it is ready is the subject of `ManagedZone.Delegation`. -/

namespace MultiClusterGateway.ManagedZoneController

/-- `ManagedZoneFinalizer`. -/
def managedZoneFinalizer : String := "kuadrant.io/managed-zone"

/-- The zones and records on the hub. -/
structure Cluster where
  zones : Objects managedZoneKind := ∅
  records : Objects dnsRecordKind := ∅
  /-- what others do to the records before each of the next calls -/
  others : List (Objects dnsRecordKind → Objects dnsRecordKind) := []

/-- `ManagedZoneOutput`. -/
structure ManagedZoneOutput where
  id : String := ""
  nameServers : List (Option String) := []
  recordCount : Int := 0
deriving DecidableEq, Repr

/-- What the provider answers in one reconcile: when it is set up, and to the call for the zone. -/
structure Answers where
  factory : Except String Unit := .ok ()
  ensureManagedZone : Except String ManagedZoneOutput := .ok {}
  deleteManagedZone : Except String Unit := .ok ()

/-! ## API calls -/

/-- The zones. -/
def zonesPart : Part Cluster (Objects managedZoneKind) where
  get := Cluster.zones
  set s zones := { s with zones := zones }
  get_set _ _ := rfl
  set_get _ := rfl
  set_set _ _ _ := rfl

/-- The records, among them those for the name servers of child zones. -/
def recordsPart : Part Cluster (Objects dnsRecordKind) where
  get := Cluster.records
  set s records := { s with records := records }
  get_set _ _ := rfl
  set_get _ := rfl
  set_set _ _ _ := rfl

/-- The state after the others' turn. -/
def Cluster.turn (s : Cluster) : Cluster :=
  match s.others with
  | [] => s
  | change :: rest => { s with records := change s.records, others := rest }

/-- The others' turn, then a call. -/
def afterOthers {α : Type} (x : Api Cluster α) : Api Cluster α := fun w =>
  x { w with state := w.state.turn }

/-- `Get` for a zone. -/
def getZone (k : ObjectKey) : Api Cluster ManagedZoneObject := afterOthers (Api.get zonesPart k)

/-- `Update` for a zone. -/
def updateZone (zone : ManagedZoneObject) : Api Cluster Unit :=
  afterOthers (Api.update zonesPart zone)

/-- `Status().Update`: only the status is written. -/
def updateStatus (zone : ManagedZoneObject) : Api Cluster Unit :=
  afterOthers (Api.write zonesPart fun zones =>
    match zones.get zone.metadata.key with
    | some stored => .ok (zones.put { stored with status := zone.status })
    | none => .error (Objects.notFound zone.metadata.key))

/-- `Get` for a record. -/
def getRecord (k : ObjectKey) : Api Cluster DNSRecord := afterOthers (Api.get recordsPart k)

/-- `Create` for a record. -/
def createRecord (r : DNSRecord) : Api Cluster Unit := afterOthers (Api.create recordsPart r)

/-- `Delete` for a record. -/
def deleteRecord (k : ObjectKey) : Api Cluster Unit := afterOthers (Api.delete recordsPart k)

/-! ## The provider -/

/-- `publishManagedZone`. -/
def publishManagedZone (answers : Answers) (zone : ManagedZoneObject) :
    Except String ManagedZoneObject := do
  answers.factory
  let output ← answers.ensureManagedZone
  return { zone with status := { zone.status with
    id := output.id, recordCount := output.recordCount, nameServers := output.nameServers } }

/-- `deleteManagedZone`. The condition it sets on a failure is never written. -/
def deleteManagedZone (answers : Answers) (zone : ManagedZoneObject) : Except String Unit :=
  if zone.spec.id ≠ "" then .ok ()
  else do
    answers.factory
    match answers.deleteManagedZone with
    | .ok _ => .ok ()
    | .error text =>
      if Text.contains text "was not found" || Text.contains text "notFound" then .ok ()
      else .error text

/-! ## The parent zone -/

/-- `getParentZone`, `none` for a nil pointer. -/
def getParentZone (zone : ManagedZoneObject) : Api Cluster (Option ManagedZoneObject) :=
  match zone.spec.parentManagedZone with
  | none => pure none
  | some parent => do
    let parentZone ← getZone ⟨zone.metadata.ns, parent⟩
    return some parentZone

/-- The parent zone where an error is passed through `IgnoreNotFound`: a zone that is not found is
    returned empty, so its namespace is empty too. -/
def getParentNamespace (zone : ManagedZoneObject) : Api Cluster (Option String) := do
  match ← Effect.attempt (getParentZone zone) with
  | .ok parentZone => return parentZone.map (·.metadata.ns)
  | .error e => if e.kind = .notFound then return some "" else Effect.fail e

/-- `controllerutil.SetControllerReference`. -/
def setControllerReference (owner : String) (m : ObjectMeta) : Except ApiError ObjectMeta :=
  match m.controllerRef with
  | none => .ok { m with controllerRef := some owner }
  | some other =>
    if other = owner then .ok m
    else .error ⟨.other, "Object " ++ m.ns ++ "/" ++ m.name ++
      " is already owned by another ManagedZone controller " ++ other⟩

/-- `setParentZoneOwner`. -/
def setParentZoneOwner (zone : ManagedZoneObject) : Api Cluster ManagedZoneObject := do
  match ← getParentZone zone with
  | none => return zone
  | some parentZone =>
    match setControllerReference parentZone.metadata.name zone.metadata with
    | .ok m => return { zone with metadata := m }
    | .error e => Effect.fail e

/-- The name servers behind the pointers. -/
def dereference : List (Option String) → Except ApiError (List String)
  | [] => .ok []
  | none :: _ => .error nilPointer
  | some nameServer :: rest => (dereference rest).map (nameServer :: ·)

/-- The record that delegates a domain, in the zone with the key `parent`. -/
def nsRecord (parent : ObjectKey) (domainName : String) (targets : List String) : DNSRecord where
  metadata := { name := domainName, ns := parent.ns, controllerRef := some parent.name }
  spec := {
    managedZoneRef := parent.name
    endpoints := [{
      dnsName := domainName, targets := targets, recordType := .NS, setIdentifier := "",
      recordTTL := 172800, providerSpecific := [] }] }

/-- `createParentZoneNSRecord`. -/
def createParentZoneNSRecord (zone : ManagedZoneObject) : Api Cluster Unit := do
  match ← getParentZone zone with
  | none => return ()
  | some parentZone =>
    match dereference zone.status.nameServers with
    | .error e => Effect.fail e
    | .ok targets =>
      let record := nsRecord parentZone.metadata.key zone.spec.domainName targets
      match ← Effect.attempt (createRecord record) with
      | .ok _ => return ()
      | .error e => if e.kind = .alreadyExists then return () else Effect.fail e

/-- `deleteParentZoneNSRecord`. -/
def deleteParentZoneNSRecord (zone : ManagedZoneObject) : Api Cluster Unit := do
  match ← getParentNamespace zone with
  | none => return ()
  | some ns =>
    match ← Effect.attempt (getRecord ⟨ns, zone.spec.domainName⟩) with
    | .ok r => deleteRecord r.metadata.key
    | .error e => if e.kind = .notFound then return () else Effect.fail e

/-- The record that the ready check reads. -/
def findParentZoneNSRecord (zone : ManagedZoneObject) : Api Cluster (Option DNSRecord) := do
  match ← getParentNamespace zone with
  | none => return none
  | some ns =>
    match ← Effect.attempt (getRecord ⟨ns, zone.spec.domainName⟩) with
    | .ok r => return some r
    | .error e => if e.kind = .notFound then return none else Effect.fail e

/-- `parentZoneNSRecordReady`: no record is as good as a ready one. -/
def parentZoneNSRecordReady (zone : ManagedZoneObject) : Api Cluster Unit := do
  match ← findParentZoneNSRecord zone with
  | none => return ()
  | some r =>
    if isRecordReady r then return ()
    else Effect.fail ⟨.other, "the ns record is not in a ready state : " ++ r.metadata.name⟩

/-! ## Reconcile -/

/-- The zone in hand, and the condition that is to be written. -/
structure Draft where
  zone : ManagedZoneObject
  status : Bool
  reason : String
  message : String

/-- The deletion of a zone. -/
def reconcileDeleted (answers : Answers) (zone : ManagedZoneObject) : Api Cluster Unit := do
  deleteParentZoneNSRecord zone
  match deleteManagedZone answers zone with
  | .error text => Effect.fail ⟨.other, text⟩
  | .ok _ =>
    let finalizers := zone.metadata.finalizers.filter (· ≠ managedZoneFinalizer)
    updateZone { zone with metadata := { zone.metadata with finalizers := finalizers } }

/-- The finalizer and the owner of a new zone. -/
def withFinalizer (zone : ManagedZoneObject) : Api Cluster ManagedZoneObject := do
  if managedZoneFinalizer ∈ zone.metadata.finalizers then return zone
  else
    let finalizers := zone.metadata.finalizers ++ [managedZoneFinalizer]
    let owned ← setParentZoneOwner
      { zone with metadata := { zone.metadata with finalizers := finalizers } }
    updateZone owned
    return owned

/-- Publish the managed zone. -/
def publish (answers : Answers) (zone : ManagedZoneObject) : Api Cluster Draft := do
  match publishManagedZone answers zone with
  | .ok published =>
    return ⟨published, true, "ProviderSuccess", "Provider ensured the managed zone"⟩
  | .error text =>
    updateStatus zone
    return ⟨zone, false, "ProviderError",
      "The DNS provider failed to ensure the managed zone: " ++ text⟩

/-- A step that may fail: the failure is kept, and what the zone in hand has is written. -/
def Draft.attempt (draft : Draft) (reason text : String) (step : ManagedZoneObject → Api Cluster Unit) :
    Api Cluster Draft := do
  match ← Api.outcome (step draft.zone) with
  | .ok _ => return draft
  | .error e =>
    updateStatus draft.zone
    return { draft with status := false, reason := reason, message := text ++ e.message }

/-- `setManagedZoneCondition`. -/
def setManagedZoneCondition (zone : ManagedZoneObject) (type : String) (status : Bool)
    (reason message : String) : ManagedZoneObject :=
  let cond : Condition := ⟨type, status, reason, message, zone.metadata.generation⟩
  { zone with status := { zone.status with
      conditions := setStatusCondition zone.status.conditions cond } }

/-- The zone with the condition. -/
def Draft.final (draft : Draft) : ManagedZoneObject :=
  setManagedZoneCondition
    { draft.zone with status := { draft.zone.status with
        observedGeneration := draft.zone.metadata.generation } }
    conditionTypeReady draft.status draft.reason draft.message

/-- `Reconcile` up to the ready check. -/
def beforeCheck (answers : Answers) (key : ObjectKey) : Api Cluster (Option Draft) := do
  match ← Effect.attempt (getZone key) with
  | .error e => if e.kind = .notFound then return none else Effect.fail e
  | .ok previous =>
    if previous.metadata.deletionTimestamp then
      reconcileDeleted answers previous
      return none
    else
      let zone ← withFinalizer previous
      let published ← publish answers zone
      let draft ← published.attempt "ParentZoneNSRecordError"
        "Failed to create the NS record in the parent managed zone: " createParentZoneNSRecord
      return some draft

/-- `Reconcile`. -/
def reconcile (answers : Answers) (key : ObjectKey) : Api Cluster Unit := do
  match ← beforeCheck answers key with
  | none => return ()
  | some draft =>
    let checked ← draft.attempt "ParentZoneNSRecordNotReady" "NS Record ready status check failed: "
      parentZoneNSRecordReady
    updateStatus checked.final

end MultiClusterGateway.ManagedZoneController
