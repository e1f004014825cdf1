import MultiClusterGateway.Lib.Run
import MultiClusterGateway.Placement.Changes

set_option autoImplicit false

/-! # Runs of the hub

Between the calls of `Place` the placement decisions and the `ManagedCluster`s change, and the agents
on the clusters report the status of their works and hold them with finalizers. What a step can do
to the works is said once, in `step_preserves`. Every work that `Place` has made for a Gateway says
so in an annotation, and has its name and label from that Gateway (`made_run`).

Everything on the hub but the works is changed freely by others, and of a work the agents change the
status and the finalizers. The clock is read once in each call of `Place`, and is an argument of it.
Calls of `Place` come one after the other. Any call to the server may fail, by the list of faults
that comes with the event. -/

namespace MultiClusterGateway.Placement

/-! ## The machine -/

/-- What may happen next: a call of `Place`, or a change by the others on the hub. -/
inductive Event where
  | place (call : PlaceCall) (faults : List (Option Fault))
  | setDecisions (decisions : List PlacementDecision)
  | setManagedClusters (names : List String)
  /-- The agent on a cluster reports the status of a work. -/
  | report (k : ObjectKey) (status : WorkStatus)
  /-- The agent on a cluster takes hold of a work or lets it go. -/
  | setFinalizers (k : ObjectKey) (finalizers : List String)

/-- A work is changed if it is there. -/
def Hub.edit (hub : Hub) (k : ObjectKey) (f : ManifestWork → ManifestWork) : Hub :=
  match hub.works.get k with
  | some w => hub.putWork (f w)
  | none => hub

/-- The hub after an event. -/
def step (fold : Text.CaseFold) (hub : Hub) : Event → Hub
  | .place c faults => (place fold c ⟨hub, faults⟩).2.state
  | .setDecisions decisions => { hub with decisions := decisions }
  | .setManagedClusters names => { hub with managedClusters := names }
  | .report k status => hub.edit k fun w => { w with status := status }
  | .setFinalizers k finalizers =>
    hub.edit k fun w => { w with metadata := { w.metadata with finalizers := finalizers } }

/-- What an agent does to a work. -/
inductive AgentEdit (k : ObjectKey) (w : ManifestWork) : Event → ManifestWork → Prop
  | report (status : WorkStatus) : AgentEdit k w (.report k status) { w with status := status }
  | setFinalizers (finalizers : List String) : AgentEdit k w (.setFinalizers k finalizers)
      { w with metadata := { w.metadata with finalizers := finalizers } }

variable {fold : Text.CaseFold}

theorem edit_preserves {I : Objects workKind → Prop} {hub : Hub} {k : ObjectKey}
    {f : ManifestWork → ManifestWork} (hI : I hub.works)
    (hf : ∀ w, hub.works.get k = some w → I (hub.works.put (f w))) : I (hub.edit k f).works := by
  unfold Hub.edit
  split
  · rename_i w hw
    exact hf w hw
  · exact hI

/-- A property of the works is kept by a step if the changes of a call and the agents keep it. -/
theorem step_preserves {I : Objects workKind → Prop} {hub : Hub} {e : Event} (hI : I hub.works)
    (hplace : ∀ c faults, e = .place c faults → ∀ works works', I works →
      Change fold c hub works works' → I works')
    (hagent : ∀ k w w', hub.works.get k = some w → AgentEdit k w e w' → I (hub.works.put w')) :
    I (step fold hub e).works := by
  cases e with
  | place c faults =>
      obtain ⟨works, hstate, hsteps⟩ := place_reached fold c ⟨hub, faults⟩
      show I (place fold c ⟨hub, faults⟩).2.state.works
      rw [hstate]
      clear hstate
      induction hsteps with
      | refl => exact hI
      | tail _ hchange ih => exact hplace c faults rfl _ _ ih hchange
  | setDecisions decisions => exact hI
  | setManagedClusters names => exact hI
  | report k status => exact edit_preserves hI fun w hw => hagent k w _ hw (.report status)
  | setFinalizers k finalizers =>
      exact edit_preserves hI fun w hw => hagent k w _ hw (.setFinalizers finalizers)

/-! ## Names -/

theorem workName_of_valid {g : ObjectKey} (h : g.Valid) :
    workName fold g = "gateway-" ++ (g.ns ++ "-" ++ g.name) := by
  have hprefix : Text.toLower fold "Gateway-" = "gateway-" :=
    Text.toLower_of_ascii fold (by simp) (by decide)
  have hdash : Text.toLower fold "-" = "-" := Text.toLower_of_ascii fold (by simp) (by decide)
  calc workName fold g
      = Text.toLower fold ("Gateway-" ++ (g.ns ++ "-" ++ g.name)) := by
        unfold workName gatewayKindName
        simp only [← String.append_assoc]
        rfl
    _ = "gateway-" ++ (g.ns ++ "-" ++ g.name) := by
        rw [Text.toLower_append, Text.toLower_append, Text.toLower_append, hprefix, hdash,
          toLower_of_validName fold h.ns, toLower_of_validName fold h.name]

/-- The names of works only differ if the namespaces and names joined by a dash do. -/
theorem workName_eq_iff {g g' : ObjectKey} (h : g.Valid) (h' : g'.Valid) :
    workName fold g = workName fold g' ↔ g.ns ++ "-" ++ g.name = g'.ns ++ "-" ++ g'.name := by
  rw [workName_of_valid h, workName_of_valid h']
  constructor
  · intro heq
    have hlist := congrArg String.toList heq
    rw [@String.toList_append "gateway-", @String.toList_append "gateway-"] at hlist
    exact String.toList_inj.1 (List.append_cancel_left hlist)
  · intro heq
    rw [heq]

theorem workName_ne_rbacManifest {g : ObjectKey} (h : g.Valid) :
    workName fold g ≠ rbacManifest := by
  rw [workName_of_valid h]
  intro heq
  have hlist := congrArg String.toList heq
  rw [@String.toList_append "gateway-",
    show rbacManifest.toList = "gateway-".toList ++ "rbac".toList by decide] at hlist
  have hrest : (g.ns ++ "-" ++ g.name).toList = "rbac".toList := List.append_cancel_left hlist
  have hdash : '-' ∈ (g.ns ++ "-" ++ g.name).toList := by simp
  rw [hrest] at hdash
  exact absurd hdash (by decide)

theorem metaNamespaceKey_inj {g g' : ObjectKey} (h : g.Valid) (h' : g'.Valid)
    (heq : metaNamespaceKey g = metaNamespaceKey g') : g = g' := by
  unfold metaNamespaceKey at heq
  rw [if_neg h.ns.1, if_neg h'.ns.1] at heq
  have hslash {s : String} (hs : ValidName s) : '/' ∉ s.toList :=
    fun hmem => absurd (List.all_eq_true.1 hs.2 _ hmem) (by decide)
  obtain ⟨hns, hname⟩ := Text.split_at (hslash h.ns) (hslash h'.ns) heq
  cases g
  cases g'
  simp_all

/-! ## Where works come from -/

/-- The Gateway that a work has been made for. -/
def parentOf (w : ManifestWork) : Option String := w.metadata.annotations.get? parentAnnotation

@[simp] theorem parentOf_withGrace (now : Nat) (w : ManifestWork) :
    parentOf (withGrace now w) = parentOf w :=
  Labels.get?_set_of_ne (by decide)

/-- A work that is made for a Gateway has its name and its label. -/
def Made (fold : Text.CaseFold) (w : ManifestWork) : Prop :=
  ∀ v, parentOf w = some v → ∃ g : ObjectKey, g.Valid ∧ v = metaNamespaceKey g ∧
    w.metadata.name = workName fold g ∧
    w.metadata.labels.get? workManifestLabel = some (workName fold g)

/-- The names in an event are valid. -/
def Event.Valid : Event → Prop
  | .place c _ => c.upstream.metadata.key.Valid
  | _ => True

theorem made_put {works : Objects workKind} {w : ManifestWork}
    (h : ∀ k w, works.get k = some w → Made fold w) (hw : Made fold w) :
    ∀ k w', (works.put w).get k = some w' → Made fold w' := by
  intro k w' hw'
  rw [Objects.get_put] at hw'
  split at hw'
  · split at hw'
    · cases hw'
    · cases hw'
      exact hw
  · exact h k w' hw'

theorem made_step {hub : Hub} {e : Event} (h : ∀ k w, hub.works.get k = some w → Made fold w)
    (he : e.Valid) : ∀ k w, (step fold hub e).works.get k = some w → Made fold w := by
  refine step_preserves (I := fun works => ∀ k w, works.get k = some w → Made fold w) h ?_ ?_
  · rintro c faults rfl works works' hworks hchange
    cases hchange with
    | createRBAC cluster => exact made_put hworks fun v hv => nomatch hv
    | updateRBAC cluster mw _ hget => exact made_put hworks (hworks _ mw hget)
    | createWork cluster =>
        refine made_put hworks fun v hv => ⟨c.upstream.metadata.key, he, ?_, rfl, rfl⟩
        cases hv
        rfl
    | updateWork cluster mw _ _ _ hget => exact made_put hworks (hworks _ mw hget)
    | startGrace cluster mw _ _ hget =>
        refine made_put hworks fun v hv => ?_
        rw [parentOf_withGrace] at hv
        exact hworks _ mw hget v hv
    | deleteWork cluster mw _ _ hget => exact made_put hworks (hworks _ mw hget)
    | deleteRBAC cluster mw _ _ _ _ hget => exact made_put hworks (hworks _ mw hget)
  · intro k w w' hget hedit
    cases hedit with
    | report status => exact made_put h (h k w hget)
    | setFinalizers finalizers => exact made_put h (h k w hget)

theorem made_run {hub : Hub} {run : List Event} (h : ∀ k w, hub.works.get k = some w → Made fold w)
    (hrun : ∀ e ∈ run, e.Valid) :
    ∀ k w, (run.foldl (step fold) hub).works.get k = some w → Made fold w := by
  induction run generalizing hub with
  | nil => exact h
  | cons e rest ih =>
      exact ih (made_step h (hrun e List.mem_cons_self))
        fun e' he' => hrun e' (List.mem_cons_of_mem _ he')

/-! ## Two placements in one namespace -/

/-- A call for a Gateway in namespace `a` that follows a placement. -/
def placedBy (now : Nat) (name placement : String) : PlaceCall where
  now := now
  upstream := { metadata := { name := name, ns := "a", labels := [(ocmPlacementLabel, placement)] } }
  downstream := { metadata := { name := name, ns := "kuadrant-a" } }

/-- The clusters of the placements `first` and `second`. -/
def decisionsFor (first second : List String) : Event :=
  .setDecisions [⟨"a", [(ocmPlacementLabel, "first")], first⟩,
    ⟨"a", [(ocmPlacementLabel, "second")], second⟩]

end MultiClusterGateway.Placement
