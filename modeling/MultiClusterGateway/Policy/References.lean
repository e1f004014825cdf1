import MultiClusterGateway.Policy.Controller

set_option autoImplicit false

/-! # The references of a policy on the Gateways

A policy controller notes its policy on the Gateways that the policy refers to, in an annotation that
lists policies (`kuadrant.io/dnspolicies`, `kuadrant.io/tlspolicies`). When it has to clean up it asks
`ComputeGatewayDiffs` for the Gateways that have the policy in their list but are no longer referred
to. So it finds what it has made for a Gateway if the Gateway lists the policy, and the list is what
connects one reconcile with the next.

The annotation is read and written by the kuadrant-operator. How its text lists the policies is a
parameter here, and what is known of the three functions that the controllers call is stated as a
property of each of them. -/

namespace MultiClusterGateway

section
variable (refs : Labels → List ObjectKey) (apKey : ObjectKey)

/-- The annotations of the Gateway list the policy. -/
def Listed (gateways : Objects gatewayKind) (gwKey : ObjectKey) : Prop :=
  ∃ gw, gateways.get gwKey = some gw ∧ apKey ∈ refs gw.metadata.annotations

/-- The Gateways that list the policy, and the exempt ones. -/
abbrev ListedOr (gateways : Objects gatewayKind) (exempt : ObjectKey → Prop) (gwKey : ObjectKey) :
    Prop :=
  Listed refs apKey gateways gwKey ∨ exempt gwKey

/-- What `ComputeGatewayDiffs` answers when there are these Gateways and the policy refers to the
    targeted ones of them: which of those do not list the policy yet, which of them do, and which
    other ones do. -/
structure DiffOf (targeted : ObjectKey → Prop) (gateways : Objects gatewayKind) (diff : GatewayDiff) :
    Prop where
  missing : ∀ gw, gw ∈ diff.gatewaysMissingPolicyRef ↔ gw ∈ gateways.entries ∧
    targeted gw.metadata.key ∧ apKey ∉ refs gw.metadata.annotations
  valid : ∀ gw, gw ∈ diff.gatewaysWithValidPolicyRef ↔ gw ∈ gateways.entries ∧
    targeted gw.metadata.key ∧ apKey ∈ refs gw.metadata.annotations
  invalid : ∀ gw, gw ∈ diff.gatewaysWithInvalidPolicyRef ↔ gw ∈ gateways.entries ∧
    ¬ targeted gw.metadata.key ∧ apKey ∈ refs gw.metadata.annotations

/-- The policy is still listed wherever it was, except on the Gateways that it no longer refers to. -/
def StaysListed (diff : GatewayDiff) (gateways gateways' : Objects gatewayKind) : Prop :=
  ∀ gwKey, Listed refs apKey gateways gwKey →
    gwKey ∉ diff.gatewaysWithInvalidPolicyRef.map (·.metadata.key) → Listed refs apKey gateways' gwKey

/-- What `ReconcileGatewayPolicyReferences` does: the policy is taken from the lists of the Gateways
    that it no longer refers to and added to the lists it is missing in. If it fails, not all of that
    is done. -/
def WritesReferences (diff : GatewayDiff) (x : Api (Objects gatewayKind) Unit) : Prop :=
  ∀ gateways, Api.Triple (fun s => s = gateways) x
    (fun _ s => StaysListed refs apKey diff gateways s ∧
      ∀ gw ∈ diff.gatewaysMissingPolicyRef, Listed refs apKey s gw.metadata.key)
    (fun _ s => StaysListed refs apKey diff gateways s)

/-- What `ReconcileTargetBackReference` does not do: it writes another annotation of the target, and
    takes the policy from no list. -/
def KeepsReferences (x : Api (Objects gatewayKind) Unit) : Prop :=
  ∀ gwKey, Api.Triple (fun s => Listed refs apKey s gwKey) x (fun _ s => Listed refs apKey s gwKey)
    (fun _ s => Listed refs apKey s gwKey)

end

/-- What is known of the three when there are these Gateways. A policy that does not apply, since it is
    marked or has no target, refers to no Gateway; the other two matter if it does. -/
structure OperatorAnswers (refs : Labels → List ObjectKey) (apKey : ObjectKey) (applies : Prop)
    (gateways : Objects gatewayKind) (computeGatewayDiffs : Except ApiError GatewayDiff)
    (reconcileTargetBackReference reconcileGatewayPolicyReferences : Api (Objects gatewayKind) Unit) :
    Prop where
  diff : ∃ targeted : ObjectKey → Prop, (¬ applies → ∀ k, ¬ targeted k) ∧
    ∀ diff, computeGatewayDiffs = .ok diff → DiffOf refs apKey targeted gateways diff
  claim : applies → KeepsReferences refs apKey reconcileTargetBackReference
  references : applies → ∀ diff, computeGatewayDiffs = .ok diff →
    WritesReferences refs apKey diff reconcileGatewayPolicyReferences

/-- The Gateways that do not list the policy yet are exempt. -/
def MissingExempt (exempt : ObjectKey → Prop) (computeGatewayDiffs : Except ApiError GatewayDiff) :
    Prop :=
  ∀ diff, computeGatewayDiffs = .ok diff →
    ∀ gw ∈ diff.gatewaysMissingPolicyRef, exempt gw.metadata.key

/-- The Gateways that there may be something for in the course of it. -/
def GatewayDiff.With (diff : GatewayDiff) (before : ObjectKey → Prop) (gwKey : ObjectKey) : Prop :=
  before gwKey ∨ gwKey ∈ diff.referred.map (·.metadata.key)

/-- A policy that refers to no Gateway makes nothing. -/
theorem GatewayDiff.With.before {diff : GatewayDiff} {before : ObjectKey → Prop} {gwKey : ObjectKey}
    (h : diff.With before gwKey) (hreferred : diff.referred = []) : before gwKey := by
  unfold GatewayDiff.With at h
  rw [hreferred] at h
  exact h.resolve_right List.not_mem_nil

section
variable {refs : Labels → List ObjectKey} {apKey : ObjectKey} {targeted exempt : ObjectKey → Prop}
  {gateways gateways' : Objects gatewayKind} {diff : GatewayDiff} {gwKey : ObjectKey}

/-- What is listed at one time and still referred to is listed after the references are written. -/
theorem WritesReferences.triple {x : Api (Objects gatewayKind) Unit}
    (h : WritesReferences refs apKey diff x) (gateways : Objects gatewayKind) :
    Api.Triple (fun s => ∀ k, Listed refs apKey gateways k → Listed refs apKey s k) x
      (fun _ s => StaysListed refs apKey diff gateways s ∧
        ∀ gw ∈ diff.gatewaysMissingPolicyRef, Listed refs apKey s gw.metadata.key)
      (fun _ s => StaysListed refs apKey diff gateways s) := by
  refine Effect.Spec.of_state fun s hs => (h s).mono (fun _ h => h) (fun _ _ h => ⟨?_, h.2⟩)
    fun _ _ h => ?_
  · exact fun k hk hnot => h.1 k (hs k hk) hnot
  · exact fun k hk hnot => h k (hs k hk) hnot

namespace DiffOf

end DiffOf

end

/-! ## One policy and one Gateway -/

namespace ReferenceSample

/-- The annotation, if it is there, lists the one policy. -/
def refsTo (annotationKey : String) (apKey : ObjectKey) (annotations : Labels) : List ObjectKey :=
  if (annotations.get? annotationKey).isSome then [apKey] else []

/-- The Gateway with the annotation. -/
def noted (annotationKey : String) (gw : GatewayObject) : GatewayObject :=
  { gw with metadata := { gw.metadata with
      annotations := Labels.set gw.metadata.annotations annotationKey "listed" } }

/-- The Gateways are all there is. -/
def allGateways : Part (Objects gatewayKind) (Objects gatewayKind) where
  get gateways := gateways
  set _ gateways := gateways
  get_set _ _ := rfl
  set_get _ := rfl
  set_set _ _ _ := rfl

/-- The references for a diff in which one Gateway misses the policy. -/
def noteOn (annotationKey : String) (gw : GatewayObject) : Api (Objects gatewayKind) Unit :=
  Api.update allGateways (noted annotationKey gw)

variable {annotationKey : String} {apKey : ObjectKey}

theorem mem_refsTo_noted (gw : GatewayObject) :
    apKey ∈ refsTo annotationKey apKey (noted annotationKey gw).metadata.annotations := by
  have hget : (Labels.set gw.metadata.annotations annotationKey "listed").get? annotationKey
      = some "listed" := by simp [Labels.get?, Labels.set]
  unfold refsTo noted
  simp [hget]

theorem writesReferences_noteOn {gw : GatewayObject} (hlive : gw.metadata.deletionTimestamp = false) :
    WritesReferences (refsTo annotationKey apKey) apKey { gatewaysMissingPolicyRef := [gw] }
      (noteOn annotationKey gw) := by
  intro gateways
  refine Api.triple_update.mono (fun _ h => h) ?_ ?_
  · rintro _ _ ⟨s, rfl, -, rfl⟩
    have hlisted : Listed (refsTo annotationKey apKey) apKey (s.put (noted annotationKey gw))
        gw.metadata.key :=
      ⟨_, Objects.get_put_live rfl hlive, mem_refsTo_noted gw⟩
    refine ⟨fun k hk _ => ?_, fun gw' hgw' => ?_⟩
    · by_cases hkey : k = gw.metadata.key
      · rw [hkey]
        exact hlisted
      · obtain ⟨gw', hget, hrefs⟩ := hk
        exact ⟨gw', (Objects.get_put_of_ne hkey).trans hget, hrefs⟩
    · rw [List.mem_singleton.1 hgw']
      exact hlisted
  · rintro _ s rfl k hk _
    exact hk

theorem keepsReferences_pure {refs : Labels → List ObjectKey} :
    KeepsReferences refs apKey (pure ()) :=
  fun _ => Api.preserves_pure ()

section
variable {refs : Labels → List ObjectKey} {gateways : Objects gatewayKind} {gw : GatewayObject}

/-- No Gateway misses the policy, so there is nothing to write. -/
theorem writesReferences_pure {diff : GatewayDiff} (hmissing : diff.gatewaysMissingPolicyRef = []) :
    WritesReferences refs apKey diff (pure ()) := by
  intro gateways
  refine Effect.Spec.pure ?_
  rintro _ rfl
  refine ⟨fun _ hk _ => hk, fun gw hgw => ?_⟩
  rw [hmissing] at hgw
  cases hgw

/-- A policy for the only Gateway, which does not list it. -/
theorem diffOf_missing (hentries : gateways.entries = [gw])
    (hnot : apKey ∉ refs gw.metadata.annotations) :
    DiffOf refs apKey (fun k => k = gw.metadata.key) gateways
      { gatewaysMissingPolicyRef := [gw] } where
  missing gw' := by
    rw [hentries]
    refine ⟨fun h => ⟨h, ?_⟩, fun h => h.1⟩
    rw [List.mem_singleton.1 h]
    exact ⟨rfl, hnot⟩
  valid gw' := by
    refine ⟨fun h => absurd h List.not_mem_nil, fun h => absurd h.2.2 ?_⟩
    rw [hentries] at h
    rwa [List.mem_singleton.1 h.1]
  invalid gw' := by
    refine ⟨fun h => absurd h List.not_mem_nil, fun h => absurd ?_ h.2.1⟩
    rw [hentries] at h
    rw [List.mem_singleton.1 h.1]

/-- A policy for the only Gateway, which lists it. -/
theorem diffOf_valid (hentries : gateways.entries = [gw])
    (hlisted : apKey ∈ refs gw.metadata.annotations) :
    DiffOf refs apKey (fun k => k = gw.metadata.key) gateways
      { gatewaysWithValidPolicyRef := [gw] } where
  missing gw' := by
    refine ⟨fun h => absurd h List.not_mem_nil, fun h => absurd ?_ h.2.2⟩
    rw [hentries] at h
    rwa [List.mem_singleton.1 h.1]
  valid gw' := by
    rw [hentries]
    refine ⟨fun h => ⟨h, ?_⟩, fun h => h.1⟩
    rw [List.mem_singleton.1 h]
    exact ⟨rfl, hlisted⟩
  invalid gw' := by
    refine ⟨fun h => absurd h List.not_mem_nil, fun h => absurd ?_ h.2.1⟩
    rw [hentries] at h
    rw [List.mem_singleton.1 h.1]

/-- A policy for no Gateway, which none lists. -/
theorem diffOf_none (hentries : gateways.entries = [gw])
    (hnot : apKey ∉ refs gw.metadata.annotations) :
    DiffOf refs apKey (fun _ => False) gateways {} where
  missing gw' := ⟨fun h => absurd h List.not_mem_nil, fun h => h.2.1.elim⟩
  valid gw' := ⟨fun h => absurd h List.not_mem_nil, fun h => h.2.1.elim⟩
  invalid gw' := by
    refine ⟨fun h => absurd h List.not_mem_nil, fun h => absurd h.2.2 ?_⟩
    rw [hentries] at h
    rwa [List.mem_singleton.1 h.1]

end

end ReferenceSample

end MultiClusterGateway
