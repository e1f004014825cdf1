import MultiClusterGateway.Api.Guarded
import MultiClusterGateway.Policy.Coverage

set_option autoImplicit false

/-! # What the controllers of the policies share

The reconcilers of DNS and TLS policies (`pkg/controllers/dnspolicy/dnspolicy_controller.go`,
`pkg/controllers/tlspolicy/tlspolicy_controller.go`) are written alike: a marked policy has its
resources deleted and its finalizer removed, any other one gets the finalizer, has its resources
reconciled and its status written. The parts that are the same are here; each controller puts them
together in its own way.

`AddFinalizer` and `RemoveFinalizer` are those of the reconciler of the kuadrant-operator that both
controllers embed. They are parameters (`BaseReconciler`); what the results need to know of them is
that they update the policy in the version that was read (`BaseReconciler.Documented`). -/

namespace MultiClusterGateway

open GatewayController (setCondition)

/-! ## Policies -/

/-- The status of a policy of either kind. -/
structure PolicyStatus where
  conditions : List GatewayCondition := []
  observedGeneration : Nat := 0
deriving DecidableEq, Repr

/-- A policy of either kind as an object. -/
structure PolicyObject (Spec : Type) where
  metadata : ObjectMeta
  spec : Spec
  status : PolicyStatus := {}

/-- Policies as objects of the server. -/
def policyKind (Spec : Type) : Kind (PolicyObject Spec) where
  get := PolicyObject.metadata
  set p m := { p with metadata := m }
  get_set _ _ := rfl
  set_get _ := rfl
  set_set _ _ _ := rfl

/-- The error of a reconcile: of a call, or of the resources. -/
inductive PolicyError (R : Type) where
  | api (err : ApiError)
  | resources (err : R)

/-- What `Reconcile` returns. -/
structure PolicyResult (R : Type) where
  requeue : Bool := false
  err : Option (PolicyError R) := none

/-- The reconcile has come to its end: no error, and it does not ask to be repeated. -/
def PolicyResult.Completed {R : Type} (result : PolicyResult R) : Prop :=
  result.requeue = false ∧ result.err = none

variable {Spec S R : Type}

/-- `readyCondition`, for `DNS` and `TLS`. -/
def readyCondition (feature targetNetworkObjectectKind : String) (specErr : Option String) :
    GatewayCondition where
  type := "Ready"
  status := if specErr.isSome then .false else .true
  reason := if specErr.isSome then "ReconciliationError"
    else targetNetworkObjectectKind ++ feature ++ "Enabled"
  message := specErr.getD (targetNetworkObjectectKind ++ " is " ++ feature ++ " Enabled")
  observedGeneration := 0

/-- `calculateStatus`: the generation is observed if there was an error. -/
def calculateStatus (feature targetKind : String) (policy : PolicyObject Spec)
    (specErr : Option String) : PolicyStatus where
  conditions := setCondition policy.status.conditions (readyCondition feature targetKind specErr)
  observedGeneration :=
    if specErr.isSome then policy.metadata.generation else policy.status.observedGeneration

/-! ## The parts of Reconcile -/

/-- What a reconcile works on: the policy in its version, and the rest. -/
abbrev PolicyApi (Spec S α : Type) := Api (Owned (PolicyObject Spec) S) α

/-- The policy with one finalizer more. -/
def PolicyObject.withFinalizer (policy : PolicyObject Spec) (finalizer : String) :
    PolicyObject Spec :=
  { policy with metadata := { policy.metadata with
      finalizers := policy.metadata.finalizers ++ [finalizer] } }

/-- The policy without that finalizer. -/
def PolicyObject.withoutFinalizer (policy : PolicyObject Spec) (finalizer : String) :
    PolicyObject Spec :=
  { policy with metadata := { policy.metadata with
      finalizers := policy.metadata.finalizers.filter (fun f => f != finalizer) } }

/-- What a controller takes from the reconciler that it embeds: `AddFinalizer`, answered with the
    policy that was written, and `RemoveFinalizer`. -/
structure BaseReconciler (Spec S : Type) where
  addFinalizer : String → Versioned (PolicyObject Spec) →
    PolicyApi Spec S (Versioned (PolicyObject Spec))
  removeFinalizer : String → Versioned (PolicyObject Spec) → PolicyApi Spec S Unit

/-- Both update the policy with other finalizers. To remove a finalizer of a policy that is gone may
    be no error. -/
structure BaseReconciler.Documented (base : BaseReconciler Spec S) : Prop where
  add : ∀ finalizer policy, Updates (policyKind Spec) ownedCell policy
    (policy.value.withFinalizer finalizer) (base.addFinalizer finalizer policy)
  remove : ∀ finalizer policy, UpdatesOrGone (policyKind Spec) ownedCell policy
    (policy.value.withoutFinalizer finalizer) (base.removeFinalizer finalizer policy)

/-- A policy that is marked for deletion. -/
def cleanUpPolicy (base : BaseReconciler Spec S) (finalizer : String)
    (deleteResources : Api S Unit) (policy : Versioned (PolicyObject Spec)) :
    PolicyApi Spec S (PolicyResult R) :=
  if finalizer ∈ policy.value.metadata.finalizers then do
    match ← Api.outcome (Api.zoom ownedRest deleteResources) with
    | .error err => return { err := some (.api err) }
    | .ok _ =>
      match ← Api.outcome (base.removeFinalizer finalizer policy) with
      | .error err => return { err := some (.api err) }
      | .ok _ => return {}
  else return {}

/-- The status is written if it is another than that of `previous`; a conflict is tried again. -/
def updatePolicyStatus (previous policy : Versioned (PolicyObject Spec)) (status : PolicyStatus)
    (specErr : Option R) : PolicyApi Spec S (PolicyResult R) :=
  if status = previous.value.status then return { err := specErr.map .resources }
  else do
    match ← Api.outcome (Api.updateVersion (policyKind Spec) ownedCell policy
      { policy.value with status := status }) with
    | .ok _ => return { err := specErr.map .resources }
    | .error updateErr =>
      if updateErr.kind = .conflict then return { requeue := true }
      else return { err := some (.api updateErr) }

/-- The rest of a reconcile once the policy has its finalizer. -/
def reconcilePolicy (feature targetKind : String) (message : R → String)
    (reconcileResources : Api S (Option R)) (previous policy : Versioned (PolicyObject Spec)) :
    PolicyApi Spec S (PolicyResult R) := do
  let specErr ← Api.zoom ownedRest reconcileResources
  updatePolicyStatus previous policy
    (calculateStatus feature targetKind policy.value (specErr.map message)) specErr

/-- The policy under a key, as the cache answers. -/
def getPolicy (getErr : Option ApiError) (apKey : ObjectKey)
    (cached : Option (Versioned (PolicyObject Spec))) :
    Except ApiError (Versioned (PolicyObject Spec)) :=
  match getErr, cached with
  | some err, _ => .error err
  | none, some policy => .ok policy
  | none, none => .error (Objects.notFound apKey)

/-! ## The guard -/

/-- The finalizer of the controller guards the resources of the policy, those of the exempt Gateways
    apart. -/
def Coverage.guard (c : Coverage S) (finalizer : String) (refs : Labels → List ObjectKey)
    (apKey : ObjectKey) (exempt : ObjectKey → Prop) : Guard (PolicyObject Spec) S where
  kind := policyKind Spec
  finalizer := finalizer
  Clean := c.By exempt
  Covered := c.Noted refs apKey exempt

/-- The same, with the object beside it. -/
theorem triple_zoom_ownedRest_cell {V α : Type} {x : Api S α} {s₀ : Owned V S}
    {Q : α → S → Prop} {E : ApiError → S → Prop} (hx : Api.Triple (fun s => s = s₀.rest) x Q E) :
    Api.Triple (fun s => s = s₀) (Api.zoom ownedRest x)
      (fun a s => s.cell = s₀.cell ∧ Q a s.rest) (fun e s => s.cell = s₀.cell ∧ E e s.rest) :=
  (triple_zoom_frame ownedRest (fun _ _ h => h) hx).mono
    (fun _ h => ⟨congrArg Owned.cell h, congrArg Owned.rest h⟩) (fun _ _ h => h) fun _ _ h => h

/-- A deletion that fails leaves the policy as it is. One that succeeds has deleted the resources
    and then removed the finalizer from the policy. -/
theorem triple_cleanUpPolicy_exact {base : BaseReconciler Spec S} {finalizer : String}
    {policy : Versioned (PolicyObject Spec)} {deleteResources : Api S Unit}
    {s₀ : Owned (PolicyObject Spec) S} {D : S → Prop} (hbase : base.Documented)
    (hfin : finalizer ∈ policy.value.metadata.finalizers) (hseen : s₀.cell.Seen policy)
    (hdelete : Api.Triple (fun s => s = s₀.rest) deleteResources (fun _ => D) (fun _ _ => True)) :
    Api.Triple (fun s => s = s₀) (cleanUpPolicy (R := R) base finalizer deleteResources policy)
      (fun result s => (result.err ≠ none ∧ s.cell = s₀.cell) ∨
        (result.err = none ∧ D s.rest ∧ ∀ stored, s.cell.stored = some stored →
          finalizer ∉ stored.value.metadata.finalizers))
      (fun _ s => s.cell = s₀.cell) := by
  unfold cleanUpPolicy
  rw [if_pos hfin]
  refine Api.triple_outcome_bind (triple_zoom_ownedRest_cell hdelete) (fun _ _ h => h.1)
    (fun _ => ?_) fun e => Effect.Spec.pure fun _ h => Or.inl ⟨by simp, h.1⟩
  refine Effect.Spec.of_state fun s hs => ?_
  have hremove := hbase.remove finalizer policy s (show s.cell.Seen policy from hs.1 ▸ hseen)
  refine Api.triple_outcome_bind hremove (fun _ _ h => h ▸ hs.1) (fun _ => Effect.Spec.pure ?_)
    fun e => Effect.Spec.pure fun _ h => Or.inl ⟨by simp, h ▸ hs.1⟩
  rintro _ (⟨-, rfl⟩ | ⟨hgone, rfl⟩)
  · refine Or.inr ⟨rfl, hs.2, fun stored hnew => ?_⟩
    have hvalue : stored.value = policy.value.withoutFinalizer finalizer := by
      change ((policyKind Spec).writeTo s.cell _).stored = some stored at hnew
      unfold Kind.writeTo at hnew
      split at hnew
      · cases hnew
      · rw [← Option.some.inj hnew]
    rw [hvalue]
    simp [PolicyObject.withoutFinalizer]
  · refine Or.inr ⟨rfl, hs.2, fun stored hstored => ?_⟩
    cases hgone.symm.trans hstored

section
variable {g : Guard (PolicyObject Spec) S} {finalizer : String}
  {base : BaseReconciler Spec S} {policy previous : Versioned (PolicyObject Spec)} {P : S → Prop}

end

/-! ## An embedded reconciler -/

/-- One that updates the policy by `Update`. -/
def BaseReconciler.updating : BaseReconciler Spec S where
  addFinalizer finalizer policy := Api.updateVersion (policyKind Spec) ownedCell policy
    (policy.value.withFinalizer finalizer)
  removeFinalizer finalizer policy := do
    let _ ← Api.updateVersion (policyKind Spec) ownedCell policy
      (policy.value.withoutFinalizer finalizer)

theorem BaseReconciler.documented_updating :
    (BaseReconciler.updating : BaseReconciler Spec S).Documented where
  add _ _ := updates_updateVersion _ _ _ _
  remove _ _ := (updates_updateVersion _ _ _ _).orGone

end MultiClusterGateway
