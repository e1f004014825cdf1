import MultiClusterGateway.DnsPolicy.Conflict
import MultiClusterGateway.DnsPolicy.Coverage
import MultiClusterGateway.Policy.Lifecycle

set_option autoImplicit false

/-! # The deletion of a DNS policy

`Reconcile` and `deleteResources` of the DNS policy controller
(`pkg/controllers/dnspolicy/dnspolicy_controller.go`). The policy is read from the cache. If it is not
marked its finalizer is added and its resources are reconciled; if its target is gone, or if it is
marked, its resources are deleted, and the finalizer of a marked policy is removed after that.

The resources of a policy are found by their labels. `deletion_exact` says what a reconcile of a marked
policy deletes: the DNSRecords and probes that are labelled with it and with a Gateway that it no longer
refers to, and no others. What this means for a policy over its whole life is in
`DnsPolicy/Lifecycle.lean`.

The functions that the controller embeds from the kuadrant-operator are given by a `DNSPolicyCall`, as
answers or as programs that call the server. -/

namespace MultiClusterGateway

/-! ## The controller -/

/-- The spec of a DNS policy. -/
structure DNSPolicySpec where
  targetRef : PolicyTargetReference
  healthCheck : Option HealthCheckSpec := none
  loadBalancing : Option LoadBalancingSpec := none

/-- The part of the policy that its resources are reconciled from. -/
def PolicyObject.toDNSPolicy (p : PolicyObject DNSPolicySpec) : DNSPolicy where
  name := p.metadata.name
  ns := p.metadata.ns
  targetRef := p.spec.targetRef
  healthCheck := p.spec.healthCheck
  loadBalancing := p.spec.loadBalancing

/-- `DNSPolicyFinalizer`. -/
def dnsPolicyFinalizer : String := "kuadrant.io/dns-policy"

/-- What one reconcile is answered: by the reconciler that the controller embeds, and how its calls
    to the server fare. -/
structure DNSPolicyCall where
  ctx : PolicyContext
  base : BaseReconciler DNSPolicySpec PolicyHub
  fetchValidTargetRef : Except ApiError GatewayObject
  /-- the answer after the resources are deleted -/
  computeGatewayDiffsAgain : Except ApiError GatewayDiff
  deleteTargetBackReference : Api (Objects gatewayKind) Unit
  /-- an error of the cache -/
  getErr : Option ApiError := none
  faults : List (Option Fault) := []

/-- The part of `deleteResources` that concerns the Gateways. -/
def deleteReferences (call : DNSPolicyCall) (targetNetworkObject : Option GatewayObject) :
    Api PolicyHub Unit := do
  (if targetNetworkObject.isSome then
    Api.zoom policyGatewaysPart call.deleteTargetBackReference else pure ())
  match call.computeGatewayDiffsAgain with
  | .error err => Effect.fail err
  | .ok gatewayDiffObj =>
    Api.zoom policyGatewaysPart call.ctx.reconcileGatewayPolicyReferences
    updateGatewayCondition policyGatewaysPart (removedCondition dnsPolicyAffected) gatewayDiffObj

/-- `deleteResources`. -/
def deleteResources (call : DNSPolicyCall) (dnsPolicy : DNSPolicy)
    (targetNetworkObject : Option GatewayObject) : Api PolicyHub Unit :=
  match call.ctx.computeGatewayDiffs with
  | .error err => Effect.fail err
  | .ok gatewayDiffObj => do
    Api.zoom dnsPart (reconcileDNSRecords call.ctx dnsPolicy gatewayDiffObj)
    Api.zoom dnsPart (reconcileHealthChecks dnsPolicy gatewayDiffObj)
    deleteReferences call targetNetworkObject

/-- The branch of `Reconcile` for a policy without a target: if the target is gone the resources are
    deleted, and the policy stays. -/
def reconcileWithoutTarget (call : DNSPolicyCall) (dnsPolicy : DNSPolicy) (err : ApiError) :
    PolicyApi DNSPolicySpec PolicyHub (PolicyResult ResourcesError) :=
  if err.kind = .notFound then do
    match ← Api.outcome (Api.zoom ownedRest (deleteResources call dnsPolicy none)) with
    | .ok _ => return {}
    | .error err => return { err := some (.api err) }
  else return { err := some (.api err) }

/-- The branch of `Reconcile` for a policy with its target. -/
def reconcileWithTarget (call : DNSPolicyCall) (previous : Versioned (PolicyObject DNSPolicySpec))
    (targetNetworkObject : GatewayObject) :
    PolicyApi DNSPolicySpec PolicyHub (PolicyResult ResourcesError) := do
  let dnsPolicy := previous.value.toDNSPolicy
  let added ← (if dnsPolicyFinalizer ∈ previous.value.metadata.finalizers then
    pure (.ok previous) else Api.outcome (call.base.addFinalizer dnsPolicyFinalizer previous))
  match added with
  | .error err => return { requeue := err.kind ≠ .notFound, err := some (.api err) }
  | .ok policy =>
    reconcilePolicy "DNS" dnsPolicy.targetRef.kind ResourcesError.message
      (reconcileResources call.ctx targetNetworkObject dnsPolicy) previous policy

/-- `Reconcile`, given what the cache answers. -/
def reconcileDNSPolicy (call : DNSPolicyCall)
    (answer : Except ApiError (Versioned (PolicyObject DNSPolicySpec))) :
    PolicyApi DNSPolicySpec PolicyHub (PolicyResult ResourcesError) :=
  match answer with
  | .error err => return { err := if err.kind = .notFound then none else some (.api err) }
  | .ok previous =>
    match previous.value.metadata.deletionTimestamp, call.fetchValidTargetRef with
    | true, fetched =>
      cleanUpPolicy call.base dnsPolicyFinalizer
        (deleteResources call previous.value.toDNSPolicy fetched.toOption) previous
    | false, .error err => reconcileWithoutTarget call previous.value.toDNSPolicy err
    | false, .ok targetNetworkObject => reconcileWithTarget call previous targetNetworkObject

/-- The server after a reconcile. -/
def DNSPolicyCall.run (apKey : ObjectKey) (call : DNSPolicyCall)
    (cached : Option (Versioned (PolicyObject DNSPolicySpec)))
    (owned : Owned (PolicyObject DNSPolicySpec) PolicyHub) :
    Owned (PolicyObject DNSPolicySpec) PolicyHub :=
  (reconcileDNSPolicy call (getPolicy call.getErr apKey cached) ⟨owned, call.faults⟩).2.state

/-! ## What a deletion leaves -/

section
variable {call : DNSPolicyCall} {dnsPolicy : DNSPolicy} {diff : GatewayDiff} {apKey : ObjectKey}
  {hub : DnsHub} {target : Option GatewayObject}

theorem keeps_deleteReferences : Api.Keeps PolicyHub.dns (deleteReferences call target) := by
  have hzoom (x : Api (Objects gatewayKind) Unit) :
      Api.Keeps PolicyHub.dns (Api.zoom policyGatewaysPart x) := fun _ => rfl
  refine Api.Keeps.bind ?_ fun _ => ?_
  · split
    · exact hzoom _
    · exact Api.keeps_pure ()
  · split
    · exact Api.keeps_fail _
    · exact (hzoom _).bind fun _ => keeps_updateGatewayCondition (fun _ _ => rfl) _ _

/-- The steps of `deleteResources`. -/
theorem triple_deleteResources {P M Q R E : PolicyHub → Prop}
    (hrecords : ∀ diff, call.ctx.computeGatewayDiffs = .ok diff → Api.Triple P
      (Api.zoom dnsPart (reconcileDNSRecords call.ctx dnsPolicy diff)) (fun _ => M) (fun _ => E))
    (hchecks : ∀ diff, call.ctx.computeGatewayDiffs = .ok diff → Api.Triple M
      (Api.zoom dnsPart (reconcileHealthChecks dnsPolicy diff)) (fun _ => Q) (fun _ => E))
    (hrest : Api.Triple Q (deleteReferences call target) (fun _ => R) (fun _ => E))
    (hP : ∀ s, P s → E s) :
    Api.Triple P (deleteResources call dnsPolicy target) (fun _ => R) (fun _ => E) := by
  unfold deleteResources
  cases hdiffs : call.ctx.computeGatewayDiffs with
  | error err => exact Effect.Spec.fail hP
  | ok diff =>
      exact (hrecords diff hdiffs).bind (fun _ _ h => h) fun _ =>
        (hchecks diff hdiffs).bind (fun _ _ h => h) fun _ => hrest

/-- The records and probes that are labelled with the policy and one of the Gateways are deleted,
    nothing else is. -/
structure RemovedFor (dnsPolicy : DNSPolicy) (gateways : List GatewayObject) (hub hub' : DnsHub) :
    Prop where
  records : ∀ k, hub'.records.get k
    = dnsRecordKind.deleteIf (recordOfAny dnsPolicy gateways) (hub.records.get k)
  probes : ∀ k, hub'.probes.get k
    = probeKind.deleteIf (probeOfAny dnsPolicy gateways) (hub.probes.get k)
  zones : hub'.zones = hub.zones

theorem triple_deleteResources_removed (hdiffs : call.ctx.computeGatewayDiffs = .ok diff)
    (hreferred : diff.referred = []) :
    Api.Triple (fun s : PolicyHub => s.dns = hub) (deleteResources call dnsPolicy target)
      (fun _ s => RemovedFor dnsPolicy diff.gatewaysWithInvalidPolicyRef hub s.dns)
      (fun _ _ => True) := by
  let removed (s : DnsHub) : Prop := Api.Altered recordsPart (fun _ => dnsRecordKind.deleteIf
    (recordOfAny dnsPolicy diff.gatewaysWithInvalidPolicyRef)) hub s
  have hrecords : Api.Triple (fun s => s = hub) (reconcileDNSRecords call.ctx dnsPolicy diff)
      (fun _ => removed) (fun _ _ => True) := by
    unfold reconcileDNSRecords
    rw [hreferred]
    exact (triple_deleteRecords _ hub).bind (fun _ _ h => h) fun _ => Effect.Spec.pure fun _ h => h
  have hchecks : Api.Triple removed (reconcileHealthChecks dnsPolicy diff)
      (fun _ => RemovedFor dnsPolicy diff.gatewaysWithInvalidPolicyRef hub) (fun _ _ => True) := by
    unfold reconcileHealthChecks
    rw [hreferred]
    have hnone : Api.Preserves removed (Effect.forEach ([] : List GatewayObject) fun gw =>
        reconcileGatewayProbes gw.view dnsPolicy) := Api.preserves_pure ()
    refine Effect.Spec.bind hnone (fun _ _ _ => trivial) fun _ => ?_
    refine Effect.Spec.of_state fun hub₁ hhub₁ =>
      (triple_deleteProbes _ hub₁).mono (fun _ h => h) (fun _ s hs => ?_) fun _ _ h => h
    obtain ⟨records, rfl, hrecords⟩ := hhub₁
    obtain ⟨probes, rfl, hprobes⟩ := hs
    exact ⟨hrecords, hprobes, rfl⟩
  refine triple_deleteResources (M := fun s => removed s.dns) (fun diff' h => ?_) (fun diff' h => ?_)
    ((keeps_deleteReferences.triple fun s => RemovedFor dnsPolicy
      diff.gatewaysWithInvalidPolicyRef hub s).mono (fun _ h => h) (fun _ _ h => h)
        fun _ _ _ => trivial) fun _ _ => trivial
  · obtain rfl : diff = diff' := Except.ok.inj (hdiffs.symm.trans h)
    exact triple_zoom dnsPart hrecords
  · obtain rfl : diff = diff' := Except.ok.inj (hdiffs.symm.trans h)
    exact triple_zoom dnsPart hchecks

end

theorem reconcileDNSPolicy_marked {call : DNSPolicyCall}
    {policy : Versioned (PolicyObject DNSPolicySpec)}
    (h : policy.value.metadata.deletionTimestamp = true) :
    reconcileDNSPolicy call (.ok policy) = cleanUpPolicy call.base dnsPolicyFinalizer
      (deleteResources call policy.value.toDNSPolicy call.fetchValidTargetRef.toOption) policy := by
  simp only [reconcileDNSPolicy, h]

/-- A reconcile of a marked policy deletes the DNSRecords and probes that are labelled with the policy
    and a Gateway that it no longer refers to, and nothing else. Only then it removes the finalizer;
    if it fails before, the policy is as it was. -/
theorem deletion_exact (call : DNSPolicyCall) (policy : Versioned (PolicyObject DNSPolicySpec))
    (diff : GatewayDiff) (w w' : Served (Owned (PolicyObject DNSPolicySpec) PolicyHub))
    (result : PolicyResult ResourcesError) (hbase : call.base.Documented)
    (hmarked : policy.value.metadata.deletionTimestamp = true)
    (hfin : dnsPolicyFinalizer ∈ policy.value.metadata.finalizers)
    (hseen : w.state.cell.Seen policy) (hdiffs : call.ctx.computeGatewayDiffs = .ok diff)
    (hreferred : diff.referred = [])
    (hrun : reconcileDNSPolicy call (.ok policy) w = (.ok result, w')) :
    let deletedRecord := recordOfAny policy.value.toDNSPolicy diff.gatewaysWithInvalidPolicyRef
    let deletedProbe := probeOfAny policy.value.toDNSPolicy diff.gatewaysWithInvalidPolicyRef
    (result.err ≠ none → w'.state.cell = w.state.cell) ∧
    (result.err = none →
      (∀ stored, w'.state.cell.stored = some stored →
        dnsPolicyFinalizer ∉ stored.value.metadata.finalizers) ∧
      (∀ k record, w'.state.rest.dns.records.get k = some record → deletedRecord record = true →
        record.metadata.deletionTimestamp = true) ∧
      (∀ k record, deletedRecord record = false →
        (w'.state.rest.dns.records.get k = some record ↔
          w.state.rest.dns.records.get k = some record)) ∧
      (∀ k p, w'.state.rest.dns.probes.get k = some p → deletedProbe p = true →
        p.metadata.deletionTimestamp = true) ∧
      ∀ k p, deletedProbe p = false →
        (w'.state.rest.dns.probes.get k = some p ↔ w.state.rest.dns.probes.get k = some p)) := by
  intro deletedRecord deletedProbe
  rw [reconcileDNSPolicy_marked hmarked] at hrun
  have hexact := (triple_cleanUpPolicy_exact hbase hfin hseen
    ((triple_deleteResources_removed hdiffs hreferred).mono (fun _ h => congrArg PolicyHub.dns h)
      (fun _ _ h => h) fun _ _ h => h)).of_ok rfl hrun
  rcases hexact with ⟨herr, hcell⟩ | ⟨herr, hremoved, hgone⟩
  · exact ⟨fun _ => hcell, fun h => absurd h herr⟩
  · refine ⟨fun h => absurd herr h, fun _ => ⟨hgone, ?_, ?_, ?_, ?_⟩⟩
    · intro k record hget hdeleted
      rw [hremoved.records] at hget
      exact Kind.marked_of_deleteIf hget hdeleted
    · intro k record hother
      rw [hremoved.records]
      exact Kind.deleteIf_eq_some_iff (fun _ => rfl) hother
    · intro k p hget hdeleted
      rw [hremoved.probes] at hget
      exact Kind.marked_of_deleteIf hget hdeleted
    · intro k p hother
      rw [hremoved.probes]
      exact Kind.deleteIf_eq_some_iff (fun _ => rfl) hother

namespace ConflictSample

open ReferenceSample

/-- The annotation that lists the policies. -/
def dnsPoliciesBackRef : String := "kuadrant.io/dnspolicies"

/-- The policy `probing` as an object, marked or not. -/
def probingObject (marked : Bool) (finalizers : List String) : PolicyObject DNSPolicySpec where
  metadata := {
    name := "probing"
    ns := "testns"
    finalizers := finalizers
    deletionTimestamp := marked }
  spec := { targetRef := probingPolicy.targetRef, healthCheck := probingPolicy.healthCheck }

/-- A reconcile that is told of these Gateways, with the target claimed and the references written like
    this. -/
def callWith (diff : GatewayDiff) (claim references : Api (Objects gatewayKind) Unit) :
    DNSPolicyCall where
  ctx := { contextWith probingPolicy (fun _ => 1) with
    computeGatewayDiffs := .ok diff
    reconcileTargetBackReference := claim
    reconcileGatewayPolicyReferences := references }
  base := .updating
  fetchValidTargetRef := .ok claimedGateway
  computeGatewayDiffsAgain := .ok diff
  deleteTargetBackReference := pure ()

/-- A Gateway with the condition of the policy. -/
def withCondition (reason : PolicyReason) (err : Option ApiError) (gw : GatewayObject) :
    GatewayObject :=
  { gw with
    status := { claimedGateway.status with
      conditions := GatewayController.setCondition claimedGateway.status.conditions
        (buildPolicyAffectedCondition dnsPolicyAffected "kuadrant.io/v1alpha1, Kind=DNSPolicy"
          probingPolicy.key claimedGateway.metadata reason err) } }

/-- The Gateway once it lists the policy and has its condition. -/
def listedGateway : GatewayObject :=
  withCondition .accepted none (noted dnsPoliciesBackRef claimedGateway)

/-- What the first reconcile leaves. -/
def madeHub : PolicyHub where
  dns := probedHub
  gateways := ((Objects.put ∅ claimedGateway).put (noted dnsPoliciesBackRef claimedGateway)).put
    listedGateway

/-- The reconcile of the marked policy, which finds that the Gateway lists it. -/
def lastCall : DNSPolicyCall :=
  callWith { gatewaysWithInvalidPolicyRef := [listedGateway] } (pure ())
    (Api.update allGateways { listedGateway with metadata := claimedGateway.metadata })

/-- The record and the probe of the policy are deleted, and the policy goes. -/
theorem deletion_exact_probing : ∃ result w',
    reconcileDNSPolicy lastCall (.ok ⟨0, probingObject true [dnsPolicyFinalizer]⟩)
      ⟨⟨Cell.empty.write (probingObject true [dnsPolicyFinalizer]), madeHub⟩, []⟩
      = (.ok result, w') ∧
    madeHub.dns.records.get (dnsRecordKey probedGateway "test") = some claimedRecord ∧
    (∀ record, w'.state.rest.dns.records.get (dnsRecordKey probedGateway "test") = some record →
      recordOfAny probingPolicy [listedGateway] record = true →
      record.metadata.deletionTimestamp = true) ∧
    ∀ stored, w'.state.cell.stored = some stored →
      dnsPolicyFinalizer ∉ stored.value.metadata.finalizers := by
  let marked := probingObject true [dnsPolicyFinalizer]
  have hok : ((reconcileDNSPolicy lastCall (.ok ⟨0, marked⟩)
      ⟨⟨Cell.empty.write marked, madeHub⟩, []⟩).1.map fun result => result.err.isNone) = .ok true := by
    rfl
  rcases hrun : reconcileDNSPolicy lastCall (.ok ⟨0, marked⟩)
      ⟨⟨Cell.empty.write marked, madeHub⟩, []⟩ with ⟨e | result, w'⟩
  · rw [hrun] at hok
    cases hok
  · rw [hrun] at hok
    have hnone : result.err = none := Option.isNone_iff_eq_none.1 (Except.ok.inj hok)
    obtain ⟨hgone, hmarked, -⟩ := (deletion_exact lastCall ⟨0, marked⟩
      { gatewaysWithInvalidPolicyRef := [listedGateway] } _ w' result
      BaseReconciler.documented_updating rfl (by decide) (Cell.seen_of_stored rfl) rfl rfl
      hrun).2 hnone
    exact ⟨result, w', rfl, rfl, hmarked _, hgone⟩

end ConflictSample

end MultiClusterGateway
