import MultiClusterGateway.Gateway.Reconcile

set_option autoImplicit false

/-! # The resources of a policy on its Gateways

What the controllers of DNS and TLS policies (`pkg/controllers/dnspolicy/dnspolicy_controller.go`,
`pkg/controllers/tlspolicy/tlspolicy_controller.go`) do in the same way when they reconcile the
resources of a policy. They ask which Gateways the policy refers to, and they run a row of steps. If
one of the steps fails, the others are left out and the error is written on the Gateways as a
condition (`pkg/_internal/conditions`); if none fails, the Gateways get the condition that the policy
is accepted.

Each controller has its own hub, so what is shared is stated for a part of it that has the
Gateways. -/

namespace MultiClusterGateway

open GatewayController (setCondition)

/-! ## Gateways -/

/-- `reconcilers.GatewayDiff`. -/
structure GatewayDiff where
  gatewaysMissingPolicyRef : List GatewayObject := []
  gatewaysWithValidPolicyRef : List GatewayObject := []
  gatewaysWithInvalidPolicyRef : List GatewayObject := []

/-- The Gateways that the policy refers to, in the order of the loops. -/
def GatewayDiff.referred (diff : GatewayDiff) : List GatewayObject :=
  diff.gatewaysWithValidPolicyRef ++ diff.gatewaysMissingPolicyRef

/-- A computation on a part of the objects. -/
def Api.zoom {S T α : Type} (part : Part S T) (x : Api T α) : Api S α := fun w =>
  let r := x ⟨part.get w.state, w.faults⟩
  (r.1, ⟨part.set w.state r.2.state, r.2.faults⟩)

/-! ## Conditions -/

/-- `conditions.ConditionReason` of a policy. -/
inductive PolicyReason where
  | accepted
  | invalid
  | unknown
  | conflicted
deriving DecidableEq, Repr

/-- The reason as it is written. -/
def PolicyReason.text : PolicyReason → String
  | .accepted => "Accepted"
  | .invalid => "Invalid"
  | .unknown => "Unknown"
  | .conflicted => "Conflicted"

/-- `BuildPolicyAffectedCondition`; the text of the kind of the policy object is given. -/
def buildPolicyAffectedCondition (conditionType groupVersionKind : String) (policy : ObjectKey)
    (targetRef : ObjectMeta) (reason : PolicyReason) (err : Option ApiError) :
    GatewayCondition where
  type := conditionType
  status := if err.isSome then .false else .true
  reason := reason.text
  message := match err with
    | some e => "policy failed. Object unaffected by policy " ++ groupVersionKind ++
        " in namespace " ++ policy.ns ++ " with name " ++ policy.name ++ " with error " ++ e.message
    | none => "policy success. Object affected by policy " ++ groupVersionKind ++
        " in namespace " ++ policy.ns ++ " with name " ++ policy.name ++ " "
  observedGeneration := targetRef.generation

section
variable {S R : Type} (gateways : Part S (Objects gatewayKind))

/-- The Gateway with its conditions written, if they are others. -/
def updateConditions (gw : GatewayObject) (conditions : List GatewayCondition) : Api S Unit :=
  if conditions = gw.status.conditions then pure ()
  else Api.write gateways fun objects =>
    match objects.get gw.metadata.key with
    | some stored =>
      .ok (objects.put { stored with status := { gw.status with conditions := conditions } })
    | none => .error (Objects.notFound gw.metadata.key)

/-- `updateGatewayCondition`: the condition is set on the Gateways that the policy refers to, and
    removed from those that it no longer refers to. -/
def updateGatewayCondition (condition : GatewayCondition) (gatewayDiff : GatewayDiff) :
    Api S Unit := do
  Effect.forEach gatewayDiff.referred fun gw =>
    updateConditions gateways gw (setCondition gw.status.conditions condition)
  Effect.forEach gatewayDiff.gatewaysWithInvalidPolicyRef fun gw =>
    updateConditions gateways gw
      (gw.status.conditions.filter (fun c => c.type != condition.type))

/-- The condition is written on the Gateways. The result depends on whether that succeeds. -/
def reportOnGateways (condition : GatewayCondition) (gatewayDiff : GatewayDiff)
    (result : Option ApiError → R) : Api S R := do
  match ← Api.outcome (updateGatewayCondition gateways condition gatewayDiff) with
  | .ok _ => return result none
  | .error updateErr => return result (some updateErr)

/-- The condition that is removed; its status is empty, and there is no Gateway that it is set on. -/
def removedCondition (conditionType : String) : GatewayCondition where
  type := conditionType
  status := .unknown
  reason := ""
  message := ""
  observedGeneration := 0

end

/-- A step, and what follows it unless it fails; a failure is reported. -/
def orReport {S R : Type} (x : Api S Unit) (report : ApiError → Api S R) (next : Api S R) :
    Api S R := do
  match ← Api.outcome x with
  | .ok _ => next
  | .error err => report err

/-! ## What these do -/

section
variable {S R A : Type} {gateways : Part S (Objects gatewayKind)} {condition : GatewayCondition}
  {gatewayDiff : GatewayDiff} {result : Option ApiError → R} {w w' : Served S} {r : R}

/-- The conditions of the Gateways are all that is written. -/
theorem keeps_updateGatewayCondition {f : S → A} (hf : ∀ s objects, f (gateways.set s objects) = f s)
    (condition : GatewayCondition) (gatewayDiff : GatewayDiff) :
    Api.Keeps f (updateGatewayCondition gateways condition gatewayDiff) := by
  have hconditions (gw : GatewayObject) (conditions : List GatewayCondition) :
      Api.Keeps f (updateConditions gateways gw conditions) := by
    unfold updateConditions
    split
    · exact Api.keeps_pure ()
    · exact Api.keeps_write hf
  exact (Api.Keeps.forEach fun gw _ => hconditions gw _).bind fun _ =>
    Api.Keeps.forEach fun gw _ => hconditions gw _

theorem keeps_reportOnGateways {f : S → A} (hf : ∀ s objects, f (gateways.set s objects) = f s) :
    Api.Keeps f (reportOnGateways gateways condition gatewayDiff result) := by
  refine (keeps_updateGatewayCondition hf condition gatewayDiff).outcome_bind fun r => ?_
  cases r with
  | ok _ => exact Api.keeps_pure _
  | error updateErr => exact Api.keeps_pure _

theorem triple_reportOnGateways_result :
    Api.Triple (fun _ => True) (reportOnGateways gateways condition gatewayDiff result)
      (fun r _ => ∃ updateErr, r = result updateErr) (fun _ _ => True) :=
  Api.triple_outcome_bind (Effect.Spec.of_ends fun _ h => h) (fun _ _ h => h)
    (fun _ => Effect.Spec.pure fun _ _ => ⟨none, rfl⟩)
    fun updateErr => Effect.Spec.pure fun _ _ => ⟨some updateErr, rfl⟩

/-- What is known of a computation on a part. -/
theorem triple_zoom {T α : Type} (part : Part S T) {x : Api T α} {P : T → Prop} {Q : α → T → Prop}
    {E : ApiError → T → Prop} (hx : Api.Triple P x Q E) :
    Api.Triple (fun s => P (part.get s)) (Api.zoom part x) (fun a s => Q a (part.get s))
      (fun e s => E e (part.get s)) := by
  intro w hw
  have hrun := hx ⟨part.get w.state, w.faults⟩ hw
  have hzoom : Api.zoom part x w = ((x ⟨part.get w.state, w.faults⟩).1,
      ⟨part.set w.state (x ⟨part.get w.state, w.faults⟩).2.state,
        (x ⟨part.get w.state, w.faults⟩).2.faults⟩) := rfl
  rw [hzoom]
  rcases hres : x ⟨part.get w.state, w.faults⟩ with ⟨e | a, w'⟩
  · rw [hres] at hrun
    simpa only [part.get_set] using hrun
  · rw [hres] at hrun
    simpa only [part.get_set] using hrun

/-- The same, with what does not depend on the part beside it. -/
theorem triple_zoom_frame {T α : Type} (part : Part S T) {x : Api T α} {F : S → Prop} {P : T → Prop}
    {Q : α → T → Prop} {E : ApiError → T → Prop} (hF : ∀ s t, F s → F (part.set s t))
    (hx : Api.Triple P x Q E) :
    Api.Triple (fun s => F s ∧ P (part.get s)) (Api.zoom part x) (fun a s => F s ∧ Q a (part.get s))
      (fun e s => F s ∧ E e (part.get s)) := by
  have hkeeps : Api.Preserves F (Api.zoom part x) := Effect.Spec.of_ends fun w hw => hF _ _ hw
  exact (Effect.Spec.mono hkeeps (fun _ h => h.1) (fun _ _ h => h) fun _ _ h => h).and
    ((triple_zoom part hx).mono (fun _ h => h.2) (fun _ _ h => h) fun _ _ h => h)

theorem orReport_of_ok {x : Api S Unit} {report : ApiError → Api S R} {next : Api S R}
    {w w₁ : Served S} (h : x w = (.ok (), w₁)) : orReport x report next w = next w₁ := by
  unfold orReport
  rw [Effect.bind_of_ok (Api.outcome_of_ok h)]

/-- A step succeeds, or its error is reported. -/
theorem orReport_eq_ok {x : Api S Unit} {report : ApiError → Api S R} {next : Api S R}
    (h : orReport x report next w = (.ok r, w')) :
    (∃ w₁, x w = (.ok (), w₁) ∧ next w₁ = (.ok r, w')) ∨
    ∃ err w₁, x w = (.error err, w₁) ∧ report err w₁ = (.ok r, w') := by
  obtain ⟨a, w₁, ha, hnext⟩ := Effect.bind_eq_ok.1 h
  cases a with
  | ok _ => exact Or.inl ⟨w₁, Api.outcome_eq_ok.1 ha, hnext⟩
  | error err => exact Or.inr ⟨err, w₁, Api.outcome_eq_error ha, hnext⟩

end

end MultiClusterGateway
