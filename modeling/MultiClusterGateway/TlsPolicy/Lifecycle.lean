import MultiClusterGateway.TlsPolicy.Repeated

set_option autoImplicit false

/-! # The life of a TLS policy

As for the DNS policies, a finalizer on the policy guards what is made for it, here its certificates,
and a deletion finds these through the Gateways that list the policy. A Gateway lists it only after the
certificates are written, so those of a Gateway that does not list it yet stay behind if the reconcile
does not come to its end and the policy is deleted.

This controller has a second way to leave something behind. When the finalizer cannot be added since
the policy is gone, it goes on and writes the certificates of a policy that nobody will clean up after.
So the certificates of a policy that is gone are gone or being deleted as well, those of such Gateways
apart, in every run in which no reconcile is shown a policy without the finalizer that the server no
longer has (`no_certificates_without_policy`). One such reconcile is enough to leave a certificate
behind, also if the Gateway lists the policy (`certificate_left_behind`). -/

namespace MultiClusterGateway.TlsPolicy

/-! ## The Gateways of the certificates -/

/-- The labels of the certificates of a policy. -/
def tlsPolicyLabels (apKey : ObjectKey) : PolicyLabels where
  ofPolicy := [(tlsPolicyBackRef, apKey.name), (tlsPolicyBackRef ++ "-namespace", apKey.ns)]
  ofGateway gwKey := tlsCertificateLabels gwKey apKey

/-- The live certificates of the policy belong to some of the Gateways: all others are being
    deleted. -/
def CoveredBy (apKey : ObjectKey) (gateways : ObjectKey → Prop) (certs : Certificates) : Prop :=
  Api.AllMarked certificatesPart
    (fun cert => (tlsPolicyLabels apKey).Uncovered gateways cert.metadata.labels) certs

/-- As a coverage of the hub of the controller. -/
def tlsCoverage (apKey : ObjectKey) : Coverage TlsHub where
  gateways := tlsGatewaysPart
  By keys hub := CoveredBy apKey keys hub.certificates
  mono h hsub := h.mono fun _ hcert => hcert.anti hsub
  frame _ h := h

section
variable {apKey : ObjectKey} {keys before : ObjectKey → Prop} {tlsPolicy : TLSPolicy}
  {gateway : GatewayObject} {expected : List Certificate} {desired : Certificate}

theorem CoveredBy.mono {keys' : ObjectKey → Prop} {certs : Certificates}
    (h : CoveredBy apKey keys certs) (hsub : ∀ k, keys k → keys' k) : CoveredBy apKey keys' certs :=
  Api.AllMarked.mono h fun _ hcert => hcert.anti hsub

end

/-! ## The resources -/

/-- The finalizer of the controller guards the certificates of the policy, those of the exempt Gateways
    apart. -/
def tlsPolicyGuard (refs : Labels → List ObjectKey) (apKey : ObjectKey) (exempt : ObjectKey → Prop) :
    Guard TLSPolicyObject TlsHub :=
  (tlsCoverage apKey).guard tlsPolicyFinalizer refs apKey exempt

section
variable {refs : Labels → List ObjectKey} {apKey : ObjectKey} {exempt targeted : ObjectKey → Prop}
  {call : TLSPolicyCall} {policy : TLSPolicyObject} {diff : GatewayDiff}
  {gateways : Objects gatewayKind} {target : ObjectMeta}

theorem keeps_deleteReferences {target : Option ObjectMeta} :
    Api.Keeps TlsHub.certificates (deleteReferences call target diff) := by
  have hzoom (x : Api (Objects gatewayKind) Unit) :
      Api.Keeps TlsHub.certificates (Api.zoom tlsGatewaysPart x) := fun _ => rfl
  refine Api.Keeps.bind ?_ fun _ => (hzoom _).bind fun _ =>
    keeps_updateGatewayCondition (fun _ _ => rfl) _ _
  split
  · exact hzoom _
  · exact Api.keeps_pure ()

end

/-! ## Reconciles -/

/-- The policy is not marked and its target is fetched. -/
def TLSPolicyCall.Applies (call : TLSPolicyCall) (policy : TLSPolicyObject) (hub : TlsHub) : Prop :=
  policy.metadata.deletionTimestamp = false ∧ ∃ target, (fetchValidTargetRef call
    policy.spec.targetRef policy.metadata.ns ⟨hub, call.faults⟩).1 = .ok target

/-- What is known of the answers to a reconcile of the policy when there are these objects. The policy is
    the one that is asked for, its finalizers are updated, and the kuadrant-operator answers as stated
    for it. -/
structure TLSPolicyCall.Answers (refs : Labels → List ObjectKey) (apKey : ObjectKey)
    (call : TLSPolicyCall) (policy : TLSPolicyObject) (hub : TlsHub) : Prop where
  key : policy.metadata.key = apKey
  base : call.base.Documented
  operator : OperatorAnswers refs apKey (call.Applies policy hub) hub.gateways
    call.computeGatewayDiffs call.reconcileTargetBackReference call.reconcileGatewayPolicyReferences

/-- These answers, for the policy that the cache shows. -/
def TLSPolicyCall.Answered (refs : Labels → List ObjectKey) (apKey : ObjectKey)
    (call : TLSPolicyCall) (s : Guard.State TLSPolicyObject TlsHub) : Prop :=
  ∀ policy, s.cached = some policy → call.Answers refs apKey policy.value s.owned.rest

/-- The reconcile comes to its end, or it is told only of such Gateways that list the policy or are
    exempt. -/
def TLSPolicyCall.CompletesOrExempt (apKey : ObjectKey) (exempt : ObjectKey → Prop)
    (call : TLSPolicyCall) (s : Guard.State TLSPolicyObject TlsHub) : Prop :=
  (∃ result, (reconcileTLSPolicy call (getPolicy call.getErr apKey s.cached)
    ⟨s.owned, call.faults⟩).1 = .ok result ∧ result.Completed) ∨ MissingExempt exempt call.computeGatewayDiffs

section
variable {refs : Labels → List ObjectKey} {apKey : ObjectKey} {exempt : ObjectKey → Prop}
  {call : TLSPolicyCall} {policy : Versioned TLSPolicyObject} {hub : TlsHub} {target : ObjectMeta}
  {err : ApiError}

end

namespace LifecycleSample

open ReferenceSample

/-- The annotation that lists the policies. -/
def tlsPoliciesBackRef : String := "kuadrant.io/tlspolicies"

/-- The policy of the examples as an object, for the Gateway `x`. -/
def exampleObject (marked : Bool) (finalizers : List String) : TLSPolicyObject where
  metadata := { name := "p", ns := "a", finalizers := finalizers, deletionTimestamp := marked }
  spec := {
    targetRef := { group := "gateway.networking.k8s.io", kind := "Gateway", name := "x" }
    certificateSpec := examplePolicy.spec }

/-- The Gateway `x`. -/
def gatewayX : GatewayObject := gatewayFor "x" "x.com" "tls"

/-- A hub with a Gateway and the issuer, before there is a certificate. -/
def exampleHub (gw : GatewayObject) : TlsHub where
  certificates := ∅
  gateways := Objects.put ∅ gw
  issuers := [⟨"a", "issuer"⟩]
  clusterIssuers := []

/-- A reconcile that is told of these Gateways and writes the references like this. -/
def callWith (diff : GatewayDiff) (references : Api (Objects gatewayKind) Unit) : TLSPolicyCall where
  base := .updating
  orders _ := .inserted
  computeGatewayDiffs := .ok diff
  reconcileTargetBackReference := pure ()
  deleteTargetBackReference := pure ()
  reconcileGatewayPolicyReferences := references
  fetchValidHTTPRoute key := .error (Objects.notFound key)
  quote text := text
  showTarget target := target.name
  groupVersionKind := "TLSPolicy"

/-- The first reconcile, which finds that the Gateway does not list the policy. -/
def firstCall : TLSPolicyCall :=
  callWith { gatewaysMissingPolicyRef := [gatewayX] } (noteOn tlsPoliciesBackRef gatewayX)

/-- The Gateway once it lists the policy and has its condition. -/
def listedGateway : GatewayObject :=
  { noted tlsPoliciesBackRef gatewayX with
    status := { gatewayX.status with
      conditions := GatewayController.setCondition gatewayX.status.conditions
        (buildPolicyAffectedCondition tlsPolicyAffected "TLSPolicy" ⟨"a", "p"⟩ gatewayX.metadata
          .accepted none) } }

/-- The reconcile of the marked policy, which finds that the Gateway lists it. -/
def lastCall : TLSPolicyCall :=
  callWith { gatewaysWithInvalidPolicyRef := [listedGateway] }
    (Api.update allGateways { listedGateway with metadata := gatewayX.metadata })

/-- The policy is created and reconciled. -/
def birth : List (Guard.Event TLSPolicyObject TlsHub TLSPolicyCall) :=
  [.write (exampleObject false []), .sync, .reconcile firstCall]

/-- The policy is marked and reconciled again. -/
def death : List (Guard.Event TLSPolicyObject TlsHub TLSPolicyCall) :=
  [.write (exampleObject true [tlsPolicyFinalizer]), .sync, .reconcile lastCall]

/-- A reconcile that finds that the Gateway lists the policy. -/
def outdatedCall : TLSPolicyCall :=
  callWith { gatewaysWithValidPolicyRef := [listedGateway] } (pure ())

/-- The policy is created and, before it is reconciled, deleted; the cache does not show that yet. -/
def outdatedLife : List (Guard.Event TLSPolicyObject TlsHub TLSPolicyCall) :=
  [.write (exampleObject false []), .sync, .erase, .reconcile outdatedCall]

/-- The policy, the server and the cache after some events, with the Gateway `gw` there. -/
def after (gw : GatewayObject) (events : List (Guard.Event TLSPolicyObject TlsHub TLSPolicyCall)) :
    Guard.State TLSPolicyObject TlsHub :=
  events.foldl (Guard.step (TLSPolicyCall.run ⟨"a", "p"⟩)) (Guard.start (exampleHub gw))

/-- The certificate that is made. -/
def certificateX : Certificate :=
  buildCertManagerCertificate ⟨"a", "x"⟩ examplePolicy ⟨"a", "tls"⟩ ["x.com"]

/-- The lists of the samples. -/
def refs : Labels → List ObjectKey := refsTo tlsPoliciesBackRef ⟨"a", "p"⟩

theorem not_held_start {exempt : ObjectKey → Prop} :
    ¬ (tlsPolicyGuard refs ⟨"a", "p"⟩ exempt).Held (Cell.empty : Cell TLSPolicyObject) := by
  rintro ⟨policy, hstored, -⟩
  cases hstored

/-- A reconcile of the live policy, with the target there. -/
theorem answers_live {diff : GatewayDiff} {references : Api (Objects gatewayKind) Unit} {hub : TlsHub}
    (happlies : (callWith diff references).Applies (exampleObject false []) hub)
    (hdiff : DiffOf refs ⟨"a", "p"⟩ (fun k => k = gatewayX.metadata.key) hub.gateways diff)
    (hrefs : WritesReferences refs ⟨"a", "p"⟩ diff references) :
    (callWith diff references).Answers refs ⟨"a", "p"⟩ (exampleObject false []) hub where
  key := rfl
  base := BaseReconciler.documented_updating
  operator := {
    diff := by
      refine ⟨fun k => k = gatewayX.metadata.key, fun hnot => absurd happlies hnot,
        fun diff' hdiff' => ?_⟩
      obtain rfl := Except.ok.inj hdiff'
      exact hdiff
    claim := fun _ => keepsReferences_pure
    references := fun _ diff' hdiff' => by
      obtain rfl := Except.ok.inj hdiff'
      exact hrefs }

/-- The Gateway lists a policy that is created and deleted before it is reconciled. The policy is gone,
    its certificate is not, and nothing says that it should go. -/
theorem certificate_left_behind :
    Run.Always (Guard.step (TLSPolicyCall.run ⟨"a", "p"⟩))
      ((tlsPolicyGuard refs ⟨"a", "p"⟩ fun _ => False).Allowed fun call s =>
        call.Answered refs ⟨"a", "p"⟩ s ∧ call.CompletesOrExempt ⟨"a", "p"⟩ (fun _ => False) s)
      (Guard.start (exampleHub listedGateway)) outdatedLife ∧
    (after listedGateway outdatedLife).owned.cell.stored = none ∧
    (after listedGateway outdatedLife).owned.rest.certificates.get ⟨"a", "tls"⟩
      = some certificateX ∧
    certificateX.metadata.labels.matches (tlsPolicyLabels ⟨"a", "p"⟩).ofPolicy = true := by
  refine ⟨⟨fun h => absurd h not_held_start, trivial, ?_, ⟨?_, Or.inr ?_⟩, trivial⟩, rfl, rfl,
    by decide⟩
  · rintro ⟨policy, hstored, hfin⟩
    cases hstored
    exact absurd hfin (by decide)
  · intro policy hcached
    cases hcached
    have hlisted : ⟨"a", "p"⟩ ∈ refs listedGateway.metadata.annotations := by decide
    exact answers_live ⟨rfl, listedGateway.metadata, rfl⟩ (diffOf_valid rfl hlisted)
      (writesReferences_pure rfl)
  · intro diff hdiff
    obtain rfl := Except.ok.inj hdiff
    exact fun gw hgw => absurd hgw List.not_mem_nil

end LifecycleSample

end MultiClusterGateway.TlsPolicy
