import MultiClusterGateway.DnsPolicy.Deletion

set_option autoImplicit false

/-! # The life of a DNS policy

The DNS policy controller (`pkg/controllers/dnspolicy/dnspolicy_controller.go`) reads a policy from the
cache. It writes the DNSRecords and probes while the policy has its finalizer, and a deletion removes
them before it removes the finalizer. It finds them through the Gateways that list the policy, and a
Gateway lists it only after the records and probes are written. So there are two ways in which
something could stay behind when the policy goes: the finalizer could be gone too early, and a Gateway
could miss its reference.

The first does not happen, with any cache that lags behind and any calls that fail. The second happens
if a reconcile makes records for a Gateway that does not list the policy yet and then does not come to
its end. In every run, what a policy that is gone leaves behind belongs to such a Gateway
(`no_resources_without_policy`). If every reconcile comes to its end nothing is left, and a single one
that does not succeed in claiming its target is enough to leave a record (`record_left_behind`).

What the controller takes from the kuadrant-operator is given, with what is known of it as hypotheses
(`DNSPolicyCall.Answers`). -/

namespace MultiClusterGateway

/-- The finalizer of the controller guards the records and probes of the policy, those of the exempt
    Gateways apart. -/
def dnsPolicyGuard (refs : Labels → List ObjectKey) (apKey : ObjectKey) (exempt : ObjectKey → Prop) :
    Guard (PolicyObject DNSPolicySpec) PolicyHub :=
  (dnsCoverage apKey).guard dnsPolicyFinalizer refs apKey exempt

section
variable {refs : Labels → List ObjectKey} {apKey : ObjectKey} {exempt targeted : ObjectKey → Prop}
  {call : DNSPolicyCall} {dnsPolicy : DNSPolicy} {diff : GatewayDiff}
  {gateways : Objects gatewayKind}

end

/-! ## Runs -/

/-- The policy is not marked and its target is there. -/
def DNSPolicyCall.Applies (call : DNSPolicyCall) (policy : PolicyObject DNSPolicySpec) : Prop :=
  policy.metadata.deletionTimestamp = false ∧ ∃ target, call.fetchValidTargetRef = .ok target

/-- What is known of the answers to a reconcile of the policy when there are these Gateways. The policy
    is the one that is asked for, its finalizers are updated, and the kuadrant-operator answers as
    stated for it. -/
structure DNSPolicyCall.Answers (refs : Labels → List ObjectKey) (apKey : ObjectKey)
    (call : DNSPolicyCall) (policy : PolicyObject DNSPolicySpec) (gateways : Objects gatewayKind) :
    Prop where
  key : policy.metadata.key = apKey
  base : call.base.Documented
  operator : OperatorAnswers refs apKey (call.Applies policy) gateways call.ctx.computeGatewayDiffs
    call.ctx.reconcileTargetBackReference call.ctx.reconcileGatewayPolicyReferences

/-- These answers, for the policy that the cache shows. -/
def DNSPolicyCall.Answered (refs : Labels → List ObjectKey) (apKey : ObjectKey)
    (call : DNSPolicyCall) (s : Guard.State (PolicyObject DNSPolicySpec) PolicyHub) : Prop :=
  ∀ policy, s.cached = some policy → call.Answers refs apKey policy.value s.owned.rest.gateways

/-- The reconcile comes to its end, or it is told only of such Gateways that list the policy or are
    exempt. -/
def DNSPolicyCall.CompletesOrExempt (apKey : ObjectKey) (exempt : ObjectKey → Prop)
    (call : DNSPolicyCall) (s : Guard.State (PolicyObject DNSPolicySpec) PolicyHub) : Prop :=
  (∃ result, (reconcileDNSPolicy call (getPolicy call.getErr apKey s.cached)
    ⟨s.owned, call.faults⟩).1 = .ok result ∧ result.Completed) ∨ MissingExempt exempt call.ctx.computeGatewayDiffs

section
variable {refs : Labels → List ObjectKey} {apKey : ObjectKey} {exempt : ObjectKey → Prop}
  {call : DNSPolicyCall} {policy : Versioned (PolicyObject DNSPolicySpec)}
  {gateways : Objects gatewayKind}

theorem reconcileDNSPolicy_with_target {target : GatewayObject}
    (h : policy.value.metadata.deletionTimestamp = false)
    (htarget : call.fetchValidTargetRef = .ok target) :
    reconcileDNSPolicy call (.ok policy) = reconcileWithTarget call policy target := by
  simp only [reconcileDNSPolicy, h, htarget]

end

namespace ConflictSample

open ReferenceSample
open ListenerSample (placerWith gatewayWith zone zonedHub targetOf withRecord selectedZone_test)

/-! ## Two lives of a policy -/

/-- The first reconcile, which finds that the Gateway does not list the policy. -/
def firstCall (claim : Api (Objects gatewayKind) Unit) : DNSPolicyCall :=
  callWith { gatewaysMissingPolicyRef := [claimedGateway] } claim
    (noteOn dnsPoliciesBackRef claimedGateway)

/-- The record of the listener, as it is made. -/
def newRecord : DNSRecord :=
  buildDNSRecordForListener (gatewayWith [testListener]) probingPolicy testListener
    (zone "example" "example.com")

theorem reconcileGatewayDNSRecords_probing :
    reconcileGatewayDNSRecords .sample .topLevel (fun _ => .inserted) (placerWith fun _ => 1)
      (gatewayWith [testListener]) probingPolicy.default ⟨zonedHub, []⟩ = (.ok (), ⟨claimedHub, []⟩) := by
  have hcollect : collectClusterGateways (placerWith fun _ => 1) testListener.name
      ["test-cluster-1"] = .ok [⟨{ name := "test-cluster-1" }, [⟨.ipAddress, "1.1.1.1"⟩]⟩] := rfl
  have hobtained : Obtained (gatewayWith [testListener]) probingPolicy.default testListener
      (zone "example" "example.com") zonedHub newRecord (withRecord zonedHub newRecord) :=
    Or.inr ⟨rfl, rfl, rfl⟩
  have hset : EndpointsSet newRecord (ListenerSample.endpointsAfter (gatewayWith [testListener])
      "test.example.com" []) (withRecord zonedHub newRecord) claimedHub :=
    Or.inr ⟨by decide, rfl⟩
  have hnew : MultiClusterGatewayTarget.new (gatewayWith [testListener])
      [⟨{ name := "test-cluster-1" }, [⟨.ipAddress, "1.1.1.1"⟩]⟩] probingPolicy.default.loadBalancing
      = .ok (targetOf (gatewayWith [testListener])) := rfl
  have hround : reconcileListener .sample .topLevel (fun _ => .inserted) (placerWith fun _ => 1)
      (gatewayWith [testListener]) probingPolicy.default ["test-cluster-1"] testListener ⟨zonedHub, []⟩
      = (.ok .next, ⟨claimedHub, []⟩) :=
    reconcileListener_of_no_faults rfl selectedZone_test hcollect (List.cons_ne_nil _ _) hobtained hnew
      (setEndpoints_no_probes _ _ _ _ _ _) hset
  exact reconcileListeners_next [] hround

theorem expectedProbes_probing :
    expectedProbesForGateway (gatewayWith [testListener]) probingPolicy.default
      = .ok [probeOf probingPolicy] := rfl

theorem reconcileGatewayProbes_probing :
    reconcileGatewayProbes (gatewayWith [testListener]) probingPolicy.default ⟨claimedHub, []⟩
      = (.ok (), ⟨probedHub, []⟩) := by
  unfold reconcileGatewayProbes
  rw [expectedProbes_probing]
  rfl

/-- The first reconcile up to the claim. -/
theorem reconcileResources_first (claim : Api (Objects gatewayKind) Unit) :
    reconcileResources (firstCall claim).ctx claimedGateway probingPolicy ⟨policyHub zonedHub, []⟩
      = runStage (firstCall claim).ctx claimedGateway probingPolicy.default
          { gatewaysMissingPolicyRef := [claimedGateway] } .targetBackReference
          (Api.zoom policyGatewaysPart claim)
          (runStage (firstCall claim).ctx claimedGateway probingPolicy.default
            { gatewaysMissingPolicyRef := [claimedGateway] } .gatewayPolicyReferences
            (Api.zoom policyGatewaysPart (noteOn dnsPoliciesBackRef claimedGateway))
            (reportSuccess (firstCall claim).ctx claimedGateway probingPolicy.default
              { gatewaysMissingPolicyRef := [claimedGateway] }))
          ⟨policyHub probedHub, []⟩ :=
  @reconcileResources_upto_claim (firstCall claim).ctx claimedGateway probingPolicy _
    (policyHub zonedHub) claimedHub probedHub rfl rfl
    (reconcileDNSRecords_missing reconcileGatewayDNSRecords_probing)
    (reconcileHealthChecks_missing reconcileGatewayProbes_probing)

/-- The Gateway has changed before it is claimed. -/
def outdated : ApiError := ⟨.conflict, "the object has been modified"⟩

/-- What a first reconcile leaves that does not come to its end. -/
def failedHub : PolicyHub where
  dns := probedHub
  gateways := (Objects.put ∅ claimedGateway).put
    (withCondition (Stage.reason .targetBackReference) (some outdated) claimedGateway)

theorem reconcileResources_failed :
    reconcileResources (firstCall (Effect.fail outdated)).ctx claimedGateway probingPolicy
      ⟨policyHub zonedHub, []⟩
      = (.ok (some (.failed .targetBackReference outdated none)), ⟨failedHub, []⟩) := by
  rw [reconcileResources_first]
  rfl

/-- The server once the policy is created. -/
def created : Owned (PolicyObject DNSPolicySpec) PolicyHub :=
  ⟨Cell.empty.write (probingObject false []), policyHub zonedHub⟩

/-- The first reconcile gives the policy its finalizer, reconciles its resources and writes its
    status. -/
theorem reconcileDNSPolicy_first {claim : Api (Objects gatewayKind) Unit}
    {specErr : Option ResourcesError} {hub : PolicyHub}
    (h : reconcileResources (firstCall claim).ctx claimedGateway probingPolicy
      ⟨policyHub zonedHub, []⟩ = (.ok specErr, ⟨hub, []⟩)) :
    ∃ written, reconcileDNSPolicy (firstCall claim) (.ok ⟨0, probingObject false []⟩) ⟨created, []⟩
      = (.ok { err := specErr.map .resources }, ⟨⟨(created.cell.write
          ((probingObject false []).withFinalizer dnsPolicyFinalizer)).write written, hub⟩, []⟩) := by
  let added := (probingObject false []).withFinalizer dnsPolicyFinalizer
  have hadd : (firstCall claim).base.addFinalizer dnsPolicyFinalizer ⟨0, probingObject false []⟩
      ⟨created, []⟩ = (.ok ⟨1, added⟩, ⟨⟨created.cell.write added, policyHub zonedHub⟩, []⟩) := rfl
  have hzoom : Api.zoom ownedRest (reconcileResources (firstCall claim).ctx claimedGateway
      probingPolicy) ⟨(⟨created.cell.write added, policyHub zonedHub⟩ :
        Owned (PolicyObject DNSPolicySpec) PolicyHub), []⟩
      = (.ok specErr, ⟨⟨created.cell.write added, hub⟩, []⟩) := by
    unfold Api.zoom
    show (_, _) = _
    rw [show ownedRest.get (⟨created.cell.write added, policyHub zonedHub⟩ :
      Owned (PolicyObject DNSPolicySpec) PolicyHub) = policyHub zonedHub from rfl, h]
    rfl
  let status := calculateStatus "DNS" probingPolicy.targetRef.kind added
    (specErr.map ResourcesError.message)
  have hstatus : status ≠ (probingObject false []).status := by
    intro heq
    cases congrArg PolicyStatus.conditions heq
  refine ⟨{ added with status := status }, ?_⟩
  rw [reconcileDNSPolicy_with_target rfl rfl]
  unfold reconcileWithTarget
  rw [if_neg (by decide), Effect.bind_of_ok (Api.outcome_of_ok hadd)]
  refine (Effect.bind_of_ok hzoom).trans ?_
  unfold updatePolicyStatus
  split
  · rename_i hsame
    exact absurd hsame hstatus
  · rfl

/-- The policy is created and reconciled. -/
def birth (call : DNSPolicyCall) :
    List (Guard.Event (PolicyObject DNSPolicySpec) PolicyHub DNSPolicyCall) :=
  [.write (probingObject false []), .sync, .reconcile call]

/-- The policy is marked and reconciled again. -/
def death (call : DNSPolicyCall) :
    List (Guard.Event (PolicyObject DNSPolicySpec) PolicyHub DNSPolicyCall) :=
  [.write (probingObject true [dnsPolicyFinalizer]), .sync, .reconcile call]

/-- The policy, the server and the cache after some events. -/
def after (events : List (Guard.Event (PolicyObject DNSPolicySpec) PolicyHub DNSPolicyCall)) :
    Guard.State (PolicyObject DNSPolicySpec) PolicyHub :=
  events.foldl (Guard.step (DNSPolicyCall.run probingPolicy.key)) (Guard.start (policyHub zonedHub))

/-- What the first reconcile leaves. -/
def bornAs (written : PolicyObject DNSPolicySpec) (hub : PolicyHub) :
    Guard.State (PolicyObject DNSPolicySpec) PolicyHub :=
  ⟨⟨(created.cell.write ((probingObject false []).withFinalizer dnsPolicyFinalizer)).write written,
    hub⟩, some ⟨0, probingObject false []⟩⟩

theorem after_birth {claim : Api (Objects gatewayKind) Unit} {specErr : Option ResourcesError}
    {hub : PolicyHub}
    (h : reconcileResources (firstCall claim).ctx claimedGateway probingPolicy
      ⟨policyHub zonedHub, []⟩ = (.ok specErr, ⟨hub, []⟩)) :
    ∃ written, after (birth (firstCall claim)) = bornAs written hub := by
  obtain ⟨written, hrun⟩ := reconcileDNSPolicy_first h
  refine ⟨written, ?_⟩
  show (⟨(reconcileDNSPolicy (firstCall claim) (.ok ⟨0, probingObject false []⟩)
    ⟨created, []⟩).2.state, some ⟨0, probingObject false []⟩⟩ :
      Guard.State (PolicyObject DNSPolicySpec) PolicyHub) = _
  rw [hrun]
  rfl

/-- The lists of the samples. -/
def refs : Labels → List ObjectKey := refsTo dnsPoliciesBackRef probingPolicy.key

theorem answers_first {claim : Api (Objects gatewayKind) Unit}
    (hclaim : KeepsReferences refs probingPolicy.key claim) :
    (firstCall claim).Answers refs probingPolicy.key (probingObject false [])
      (policyHub zonedHub).gateways where
  key := rfl
  base := BaseReconciler.documented_updating
  operator := {
    diff := by
      refine ⟨fun k => k = claimedGateway.metadata.key, fun hnot => absurd ⟨rfl, _, rfl⟩ hnot,
        fun diff hdiff => ?_⟩
      obtain rfl := Except.ok.inj hdiff
      exact diffOf_missing rfl (by decide)
    claim := fun _ => hclaim
    references := fun _ diff hdiff => by
      obtain rfl := Except.ok.inj hdiff
      exact writesReferences_noteOn rfl }

/-- A reconcile of the marked policy is told of no Gateway that the policy refers to. -/
theorem answers_marked {diff : GatewayDiff} {gateways : Objects gatewayKind}
    {references : Api (Objects gatewayKind) Unit} {finalizers : List String}
    (hof : DiffOf refs probingPolicy.key (fun _ => False) gateways diff) :
    (callWith diff (pure ()) references).Answers refs probingPolicy.key
      (probingObject true finalizers) gateways where
  key := rfl
  base := BaseReconciler.documented_updating
  operator := {
    diff := by
      refine ⟨fun _ => False, fun _ _ h => h, fun diff' hdiff => ?_⟩
      obtain rfl := Except.ok.inj hdiff
      exact hof
    claim := fun happlies => Bool.noConfusion happlies.1
    references := fun happlies => Bool.noConfusion happlies.1 }

theorem not_held_empty {exempt : ObjectKey → Prop} :
    ¬ (dnsPolicyGuard refs probingPolicy.key exempt).Held Cell.empty := by
  rintro ⟨policy, hstored, -⟩
  cases hstored

/-- The conditions on the first part of the life, apart from how the reconcile ends. -/
theorem allowed_birth {claim : Api (Objects gatewayKind) Unit} {exempt : ObjectKey → Prop}
    {Answered : DNSPolicyCall → Guard.State (PolicyObject DNSPolicySpec) PolicyHub → Prop}
    (h : Answered (firstCall claim) ⟨created, some ⟨0, probingObject false []⟩⟩) :
    Run.Always (Guard.step (DNSPolicyCall.run probingPolicy.key))
      ((dnsPolicyGuard refs probingPolicy.key exempt).Allowed Answered)
      (Guard.start (policyHub zonedHub)) (birth (firstCall claim)) :=
  ⟨fun h => absurd h not_held_empty, trivial, h, trivial⟩

/-- Those on the second part. -/
theorem allowed_death {call : DNSPolicyCall} {exempt : ObjectKey → Prop}
    {Answered : DNSPolicyCall → Guard.State (PolicyObject DNSPolicySpec) PolicyHub → Prop}
    {s : Guard.State (PolicyObject DNSPolicySpec) PolicyHub}
    (h : Answered call ⟨⟨s.owned.cell.write (probingObject true [dnsPolicyFinalizer]), s.owned.rest⟩,
      some ⟨s.owned.cell.next, probingObject true [dnsPolicyFinalizer]⟩⟩) :
    Run.Always (Guard.step (DNSPolicyCall.run probingPolicy.key))
      ((dnsPolicyGuard refs probingPolicy.key exempt).Allowed Answered) s (death call) :=
  ⟨fun _ => List.mem_singleton.2 rfl, trivial, h, trivial⟩

/-- If the first reconcile fails after the record is written, the Gateway does not list the policy. So
    the record is not found when the policy is deleted. -/
theorem record_left_behind :
    let events := birth (firstCall (Effect.fail outdated)) ++ death (callWith {} (pure ()) (pure ()))
    Run.Always (Guard.step (DNSPolicyCall.run probingPolicy.key))
      ((dnsPolicyGuard refs probingPolicy.key fun _ => False).Allowed
        (DNSPolicyCall.Answered refs probingPolicy.key)) (Guard.start (policyHub zonedHub)) events ∧
    (after events).owned.cell.stored = none ∧
    (after events).owned.rest.dns.records.get (dnsRecordKey probedGateway "test")
      = some claimedRecord ∧
    claimedRecord.metadata.labels.matches (dnsPolicyLabels probingPolicy.key).ofPolicy = true := by
  intro events
  obtain ⟨written, hmade⟩ := after_birth reconcileResources_failed
  unfold after at hmade ⊢
  refine ⟨Run.always_append_iff.2 ⟨allowed_birth ?_, allowed_death ?_⟩, ?_, ?_, by decide⟩
  · intro policy hcached
    cases hcached
    exact answers_first fun _ => Api.preserves_fail outdated
  · rw [hmade]
    intro policy hcached
    cases hcached
    exact answers_marked (diffOf_none rfl (by decide))
  · rw [List.foldl_append, hmade]
    rfl
  · rw [List.foldl_append, hmade]
    rfl

end ConflictSample

end MultiClusterGateway
