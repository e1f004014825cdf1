import MultiClusterGateway.Gateway.Bundle
import MultiClusterGateway.Lib.Fallible

set_option autoImplicit false

/-! # Gateways for the event of a secret (`pkg/controllers/gateway/cluster_eventhandler.go`)

When a cluster secret changes, the Gateways that refer to it are put into the queue. The search goes
through the certificate references of the HTTPS listeners, up to the first one that decides. It
reads the namespace of a reference with the name of the secret, also when the reference has none,
while `getTLSSecrets` takes the namespace of the Gateway then. `getGatewaysFor_iff` says when the
search finds the right Gateways; in every other case the program stops. -/

namespace MultiClusterGateway.GatewayController

open Placement

/-! ## The handler -/

/-- `CLUSTER_SECRET_LABEL`. -/
def clusterSecretLabel : String := "argocd.argoproj.io/secret-type"
/-- `CLUSTER_SECRET_LABEL_VALUE`. -/
def clusterSecretLabelValue : String := "cluster"

/-- `IsClusterSecret`. -/
def isClusterSecret (secret : Secret) : Bool :=
  secret.metadata.labels.get? clusterSecretLabel == some clusterSecretLabelValue

/-- The loop over the references of a listener. -/
def anyRefersTo (secret : Secret) : List SecretObjectReference → Except ApiError Bool
  | [] => .ok false
  | ref :: rest =>
    if ref.name = secret.metadata.name then
      match ref.ns with
      | none => .error nilPointer
      | some ns => if ns = secret.metadata.ns then .ok true else anyRefersTo secret rest
    else anyRefersTo secret rest

/-- The loop over the listeners of a Gateway. -/
def anyListenerRefersTo (secret : Secret) : List GatewayListener → Except ApiError Bool
  | [] => .ok false
  | l :: rest =>
    if l.protocol ≠ "HTTPS" then anyListenerRefersTo secret rest
    else match l.tls with
      | none => anyListenerRefersTo secret rest
      | some tls => do
        if ← anyRefersTo secret tls.certificateRefs then return true
        anyListenerRefersTo secret rest

/-- `slice.Filter` with the two loops as the predicate. -/
def filterGateways (secret : Secret) : List GatewayObject → Except ApiError (List GatewayObject)
  | [] => .ok []
  | gw :: rest => do
    let refers ← anyListenerRefersTo secret gw.spec.listeners
    let found ← filterGateways secret rest
    return if refers then gw :: found else found

/-- `getGatewaysFor`: Gateways in the namespace of the secret, as `filterGateways` selects them. -/
def getGatewaysFor (secret : Secret) : Api Hub (List GatewayObject) := do
  let gateways ← Api.list gatewaysPart (fun gw => gw.metadata.ns = secret.metadata.ns)
  match filterGateways secret gateways with
  | .ok found => pure found
  | .error e => Effect.fail e

/-- The requests that are added to the queue. -/
def enqueueForObject (secret : Secret) : Api Hub (List ObjectKey) := do
  if !isClusterSecret secret then return []
  match ← Api.outcome (getGatewaysFor secret) with
  | .ok gateways => return gateways.map (·.metadata.key)
  | .error _ => return []

/-! ## The references of a Gateway -/

/-- The references that the search looks at. -/
def httpsRefs (listeners : List GatewayListener) : List SecretObjectReference :=
  listeners.flatMap fun l =>
    if l.protocol = "HTTPS" then (l.tls.map (·.certificateRefs)).getD [] else []

/-- The reference, in a Gateway of the namespace, denotes the secret. -/
def refersToSecret (secret : Secret) (ns : String) (ref : SecretObjectReference) : Bool :=
  denotes ns ref = secret.metadata.key

/-- The Gateway has an HTTPS listener that refers to the secret. -/
def uses (secret : Secret) (gw : GatewayObject) : Bool :=
  (httpsRefs gw.spec.listeners).any (refersToSecret secret gw.metadata.ns)

/-- The first reference to the secret says its namespace. -/
def NamespaceGiven (secret : Secret) (gw : GatewayObject) : Prop :=
  ∀ ref, (httpsRefs gw.spec.listeners).find? (refersToSecret secret gw.metadata.ns) = some ref →
    ref.ns ≠ none

section
variable {secret : Secret} {ns : String}

theorem anyRefersTo_append (refs refs' : List SecretObjectReference) :
    anyRefersTo secret (refs ++ refs') = (anyRefersTo secret refs >>= fun found =>
      if found then pure true else anyRefersTo secret refs') := by
  induction refs with
  | nil => rfl
  | cons ref rest ih =>
      simp only [List.cons_append, anyRefersTo]
      split
      · split
        · rfl
        · split
          · rfl
          · exact ih
      · exact ih

/-- The two loops go over the references one after the other. -/
theorem anyListenerRefersTo_eq (listeners : List GatewayListener) :
    anyListenerRefersTo secret listeners = anyRefersTo secret (httpsRefs listeners) := by
  induction listeners with
  | nil => rfl
  | cons l rest ih =>
      have hcons : httpsRefs (l :: rest) = (if l.protocol = "HTTPS"
          then (l.tls.map (·.certificateRefs)).getD [] else []) ++ httpsRefs rest :=
        List.flatMap_cons
      rw [hcons, anyRefersTo_append, anyListenerRefersTo, ih]
      by_cases hprotocol : l.protocol = "HTTPS"
      · rw [if_neg (not_not.2 hprotocol), if_pos hprotocol]
        cases l.tls with
        | none => rfl
        | some tls => rfl
      · rw [if_pos hprotocol, if_neg hprotocol]
        rfl

theorem refersToSecret_iff (hns : ns = secret.metadata.ns) {ref : SecretObjectReference} :
    refersToSecret secret ns ref = true ↔ ref.name = secret.metadata.name ∧
      (ref.ns = none ∨ ref.ns = some secret.metadata.ns) := by
  have hkey : denotes ns ref = secret.metadata.key
      ↔ ref.ns.getD ns = secret.metadata.ns ∧ ref.name = secret.metadata.name := by
    simp [denotes, ObjectMeta.key]
  rw [refersToSecret, decide_eq_true_iff, hkey, and_comm]
  cases ref.ns with
  | none => simp [hns]
  | some refNs => simp

/-- The first reference to the secret decides. -/
theorem anyRefersTo_eq (hns : ns = secret.metadata.ns) (refs : List SecretObjectReference) :
    anyRefersTo secret refs = match refs.find? (refersToSecret secret ns) with
      | none => .ok false
      | some ref => if ref.ns = none then .error nilPointer else .ok true := by
  induction refs with
  | nil => rfl
  | cons ref rest ih =>
      rw [anyRefersTo, ih]
      by_cases href : refersToSecret secret ns ref = true
      · obtain ⟨hname, hnone | hsome⟩ := (refersToSecret_iff hns).1 href
        · simp [List.find?_cons_of_pos href, hname, hnone]
        · simp [List.find?_cons_of_pos href, hname, hsome]
      · rw [List.find?_cons_of_neg href]
        rw [refersToSecret_iff hns] at href
        by_cases hname : ref.name = secret.metadata.name
        · rw [if_pos hname]
          cases hrefNs : ref.ns with
          | none => exact absurd ⟨hname, .inl hrefNs⟩ href
          | some refNs =>
              have hne : refNs ≠ secret.metadata.ns := by
                rintro rfl
                exact href ⟨hname, .inr hrefNs⟩
              simp only [if_neg hne]
        · rw [if_neg hname]

open Classical in
/-- The search in one Gateway. -/
theorem anyListenerRefersTo_gateway {gw : GatewayObject}
    (hns : gw.metadata.ns = secret.metadata.ns) :
    anyListenerRefersTo secret gw.spec.listeners
      = if NamespaceGiven secret gw then .ok (uses secret gw) else .error nilPointer := by
  rw [anyListenerRefersTo_eq, anyRefersTo_eq hns, NamespaceGiven, uses, ← List.isSome_find?]
  cases (httpsRefs gw.spec.listeners).find? (refersToSecret secret gw.metadata.ns) with
  | none => simp
  | some ref => simp

open Classical in
theorem filterGateways_eq {gateways : List GatewayObject}
    (hns : ∀ gw ∈ gateways, gw.metadata.ns = secret.metadata.ns) :
    filterGateways secret gateways = if ∀ gw ∈ gateways, NamespaceGiven secret gw
      then .ok (gateways.filter (uses secret)) else .error nilPointer := by
  induction gateways with
  | nil => simp [filterGateways]
  | cons gw rest ih =>
      obtain ⟨hgw, hrest⟩ := List.forall_mem_cons.1 hns
      rw [filterGateways, anyListenerRefersTo_gateway hgw, ih hrest, List.filter_cons]
      by_cases hgiven : NamespaceGiven secret gw
      · by_cases hothers : ∀ gw ∈ rest, NamespaceGiven secret gw
        · simp only [List.forall_mem_cons, hgiven, true_and, if_pos hothers, if_true]
          rfl
        · simp only [List.forall_mem_cons, hgiven, true_and, if_neg hothers, if_true]
          rfl
      · simp only [List.forall_mem_cons, hgiven, false_and, if_false]
        rfl

end

/-! ## The right Gateways -/

/-- The Gateways of a namespace. -/
def gatewaysIn (ns : String) (hub : Hub) : List GatewayObject :=
  hub.gateways.entries.filter fun gw => gw.metadata.ns = ns

theorem getGatewaysFor_of_no_faults (secret : Secret) (hub : Hub) :
    getGatewaysFor secret ⟨hub, []⟩
      = (filterGateways secret (gatewaysIn secret.metadata.ns hub), ⟨hub, []⟩) := by
  have hlist : Api.list gatewaysPart (fun gw => gw.metadata.ns = secret.metadata.ns) ⟨hub, []⟩
      = (.ok (gatewaysIn secret.metadata.ns hub), ⟨hub, []⟩) := Api.list_of_no_faults _ hub
  rw [getGatewaysFor, Effect.bind_of_ok hlist]
  cases filterGateways secret (gatewaysIn secret.metadata.ns hub) with
  | ok found => rfl
  | error e => rfl

/-- The search returns the Gateways that refer to the secret when each of them, or rather its first
    reference, gives the namespace; otherwise it dereferences a nil pointer. -/
theorem getGatewaysFor_iff (secret : Secret) (hub : Hub) :
    ((getGatewaysFor secret ⟨hub, []⟩).1
        = .ok ((gatewaysIn secret.metadata.ns hub).filter (uses secret)) ↔
      ∀ gw ∈ gatewaysIn secret.metadata.ns hub, NamespaceGiven secret gw) ∧
    ((getGatewaysFor secret ⟨hub, []⟩).1 = .error nilPointer ↔
      ∃ gw ∈ gatewaysIn secret.metadata.ns hub, ¬ NamespaceGiven secret gw) := by
  classical
  have hns : ∀ gw ∈ gatewaysIn secret.metadata.ns hub, gw.metadata.ns = secret.metadata.ns :=
    fun gw hgw => of_decide_eq_true (List.mem_filter.1 hgw).2
  rw [getGatewaysFor_of_no_faults, filterGateways_eq hns]
  by_cases hgiven : ∀ gw ∈ gatewaysIn secret.metadata.ns hub, NamespaceGiven secret gw
  · rw [if_pos hgiven]
    refine ⟨⟨fun _ => hgiven, fun _ => rfl⟩, ⟨(fun h => nomatch h), ?_⟩⟩
    rintro ⟨gw, hgw, hnot⟩
    exact absurd (hgiven gw hgw) hnot
  · rw [if_neg hgiven]
    refine ⟨⟨(fun h => nomatch h), fun h => absurd h hgiven⟩, ⟨fun _ => ?_, fun _ => rfl⟩⟩
    simpa using hgiven

/-- An HTTPS listener whose certificate is in the secret `tls`. -/
def webListener (ns : Option String) : GatewayListener where
  name := "web"
  hostname := some "app.example.com"
  protocol := "HTTPS"
  tls := some { certificateRefs := [{ name := "tls", ns := ns }] }

/-- A Gateway with `webListener`. -/
def webGateway (ns : Option String) : GatewayObject where
  metadata := { name := "gw", ns := "a" }
  spec := { listeners := [webListener ns] }

/-- A reference without a namespace stops the program, although it denotes the secret. -/
theorem getGatewaysFor_nil_namespace :
    uses ⟨{ name := "tls", ns := "a" }, "kubernetes.io/tls", []⟩ (webGateway none) = true ∧
    (getGatewaysFor ⟨{ name := "tls", ns := "a" }, "kubernetes.io/tls", []⟩
      ⟨{ gateways := Objects.empty.put (webGateway none) }, []⟩).1 = .error nilPointer :=
  ⟨by decide, by decide⟩

end MultiClusterGateway.GatewayController
