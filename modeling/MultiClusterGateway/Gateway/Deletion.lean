import MultiClusterGateway.Gateway.Reconcile
import MultiClusterGateway.Placement.Runs

set_option autoImplicit false

/-! # The deletion of a Gateway

When a Gateway is deleted its works are to be deleted before its finalizer is removed. The placer
finds only works that are applied, deletes under the one name, and finds nothing if the placement
decisions are gone, an error that the controller ignores. The works are all gone with the finalizer
exactly if none of this makes a difference.

The reconcile that removes the finalizer is followed through the call of `Place` for a Gateway that
is being deleted (`afterDeletion_of_removed`), whatever calls to the server fail. `withdrawn_iff`
compares what that call deletes with what carries the label of the Gateway. A work that is not
applied yet when the Gateway is deleted is one that stays (`orphaned_before_applied`). -/

namespace MultiClusterGateway.GatewayController

open Placement

variable {fold : Text.CaseFold} {hub : Hub} {gw : GatewayObject}

/-- No work with the label of the Gateway is left, except those being deleted. -/
def Withdrawn (fold : Text.CaseFold) (gw : GatewayObject) (hub : Hub) : Prop :=
  ∀ k w, hub.works.live k = some w →
    w.metadata.labels.get? workManifestLabel ≠ some (workName fold gw.metadata.key)

/-- The works that the placer deletes are gone from the hub. -/
def DeletedFrom (fold : Text.CaseFold) (gw : GatewayObject) (clusters : List String)
    (hub hub' : Hub) : Prop :=
  ∃ works, hub' = { hub with works := works } ∧ ∀ k, works.live k =
    if k.name = workName fold gw.metadata.key ∧ k.ns ∈ clusters then none else hub.works.live k

theorem DeletedFrom.gateways {clusters : List String} {hub' : Hub}
    (h : DeletedFrom fold gw clusters hub hub') : hub'.gateways = hub.gateways := by
  obtain ⟨works, rfl, -⟩ := h
  rfl

/-- A round of the loop over the clusters the Gateway is on. -/
theorem triple_deleteFrom (done : List String) (cluster : String) :
    Api.Triple (DeletedFrom fold gw done hub)
      (Api.ignoreNotFound (deleteWork ⟨cluster, workName fold gw.metadata.key⟩))
      (fun _ => DeletedFrom fold gw (done ++ [cluster]) hub)
      (fun e s => s.gateways = hub.gateways ∧ e.kind ≠ .notFound) := by
  have hlive (works : Objects workKind)
      (hworks : ∀ k, works.live k = if k = ⟨cluster, workName fold gw.metadata.key⟩ then none
        else if k.name = workName fold gw.metadata.key ∧ k.ns ∈ done then none
        else hub.works.live k) (k : ObjectKey) :
      works.live k = if k.name = workName fold gw.metadata.key ∧ k.ns ∈ done ++ [cluster] then none
        else hub.works.live k := by
    rw [hworks k]
    obtain ⟨ns, name⟩ := k
    by_cases hname : name = workName fold gw.metadata.key
    · by_cases hns : ns = cluster
      · simp [hname, hns]
      · simp [hname, hns]
    · simp [hname]
  refine Api.triple_ignoreNotFound (Api.triple_delete.mono (fun s hs => hs) ?_ fun e s hs => hs) ?_
    fun e s hkind hs => ⟨hs.1.gateways, hkind⟩
  · rintro _ _ ⟨s, w, ⟨works, rfl, hworks⟩, hget, rfl⟩
    refine ⟨works.put (workKind.mark true w), rfl, hlive _ fun k => ?_⟩
    rw [Objects.live_put, workKind.key_mark, Objects.key_of_get hget, workKind.marked_mark,
      if_pos rfl, hworks k]
  · rintro e s hkind ⟨⟨works, rfl, hworks⟩, hnone⟩
    refine ⟨works, rfl, hlive works fun k => ?_⟩
    by_cases hk : k = ⟨cluster, workName fold gw.metadata.key⟩
    · have hfree : works.get ⟨cluster, workName fold gw.metadata.key⟩ = none := hnone hkind
      rw [if_pos hk, hk, Objects.live, hfree]
      rfl
    · rw [if_neg hk, hworks k]

/-- The placer deletes the works on all clusters it has found, or fails to find any decision. -/
theorem triple_place_deleting {c : PlaceCall} (hdeleting : c.upstream.metadata.deletionTimestamp = true) :
    Api.Triple (fun s => s = hub) (place fold c)
      (fun _ s => Decided hub c.upstream ∧
        DeletedFrom fold c.upstream (placed fold hub c.upstream.metadata.key) hub s)
      (fun e s => s.gateways = hub.gateways ∧
        (e.kind = .notFound → s = hub ∧ ¬ Decided hub c.upstream)) := by
  refine triple_getClusters.bind (fun e s hs => ⟨hs.1 ▸ rfl, fun hkind => ⟨hs.1, hs.2 hkind⟩⟩)
    fun targets => Effect.Spec.given fun hdecided => ?_
  refine triple_getPlacedClusters.bind (fun e s hs => ⟨hs.1 ▸ rfl, fun hkind => absurd hkind hs.2⟩)
    fun existing => Effect.Spec.given fun hexisting => ?_
  subst hexisting
  rw [hdeleting]
  have hloop : Api.Triple (DeletedFrom fold c.upstream [] hub)
      (Effect.forEach (c.orders.existing.visit (placed fold hub c.upstream.metadata.key)) fun cluster =>
        Api.ignoreNotFound (deleteWork ⟨cluster, workName fold c.upstream.metadata.key⟩))
      (fun _ => DeletedFrom fold c.upstream
        (c.orders.existing.visit (placed fold hub c.upstream.metadata.key)) hub)
      (fun e s => s.gateways = hub.gateways ∧ e.kind ≠ .notFound) :=
    Effect.Spec.forEach_upto fun done cluster rest _ => triple_deleteFrom done cluster
  refine Effect.Spec.bind (hloop.mono ?_ (fun _ _ h => h) fun _ _ h => h)
    (fun e s hs => ⟨hs.1, fun hkind => absurd hkind hs.2⟩) fun _ => Effect.Spec.pure ?_
  · rintro s rfl
    exact ⟨s.works, rfl, fun k => by simp⟩
  · rintro s ⟨works, rfl, hworks⟩
    exact ⟨hdecided.2, works, rfl, fun k => by simp only [hworks k, MapOrder.mem_visit]⟩

/-- What a reconcile that removes the finalizer has done to the works. -/
def AfterDeletion (fold : Text.CaseFold) (gw : GatewayObject) (hub hub' : Hub) : Prop :=
  (Decided hub gw ∧ ∀ k, hub'.works.live k =
    if k.name = workName fold gw.metadata.key ∧ k.ns ∈ placed fold hub gw.metadata.key then none
    else hub.works.live k) ∨
  (¬ Decided hub gw ∧ hub'.works = hub.works)

/-- Either everything was deleted that was found, or there is an error, which is only ignored if
    there was no decision. -/
theorem triple_reconcileDownstream_deleting (input : Input)
    (hdeleting : gw.metadata.deletionTimestamp = true) :
    Api.Triple (fun s => s = hub) (reconcileDownstream (ocmPlacer fold) input none gw)
      (fun downstream s => s.gateways = hub.gateways ∧
        ((∀ e, downstream.err = some e → e.kind = .notFound) → AfterDeletion fold gw hub s))
      (fun _ s => s.gateways = hub.gateways) := by
  unfold reconcileDownstream
  rw [hdeleting, if_pos rfl]
  refine Api.triple_outcome_bind (triple_place_deleting hdeleting) (fun e s hs => hs.1)
    (fun targets => ?_) fun e => ?_
  · refine Effect.Spec.pure ?_
    rintro s ⟨hdecided, hdeleted⟩
    refine ⟨hdeleted.gateways, fun _ => Or.inl ⟨hdecided, ?_⟩⟩
    obtain ⟨works, rfl, hworks⟩ := hdeleted
    exact hworks
  · refine Effect.Spec.pure ?_
    rintro s ⟨hgateways, hnotFound⟩
    refine ⟨hgateways, fun herr => ?_⟩
    obtain ⟨rfl, hundecided⟩ := hnotFound (herr e rfl)
    exact Or.inr ⟨hundecided, rfl⟩

theorem triple_reconcileDeleted (input : Input)
    (hdeleting : gw.metadata.deletionTimestamp = true) :
    Api.Triple (fun s => s = hub) (reconcileDeleted (ocmPlacer fold) input gw)
      (fun _ s => AfterDeletion fold gw hub s) (fun _ s => s.gateways = hub.gateways) := by
  refine (triple_reconcileDownstream_deleting input hdeleting).bind (fun _ _ h => h)
    fun downstream => ?_
  split
  · exact Effect.Spec.fail fun s hs => hs.1
  · rename_i hnone
    have hignored : ∀ e, downstream.err = some e → e.kind = .notFound := by
      intro e he
      rw [he] at hnone
      simpa using hnone
    refine Api.triple_update.attempt_bind (fun _ => Effect.Spec.pure ?_)
      fun e => Effect.Spec.fail fun s hs => hs.1
    rintro _ ⟨s, ⟨-, hafter⟩, -, rfl⟩
    exact hafter hignored

/-- The finalizer is only removed by a reconcile that has deleted what the placer has found. -/
theorem afterDeletion_of_removed (input : Input) (key : ObjectKey) (faults : List (Option Fault))
    (hget : hub.gateways.get key = some gw) (hdeleting : gw.metadata.deletionTimestamp = true)
    (hremoved : (reconcile (ocmPlacer fold) input key ⟨hub, faults⟩).2.state.gateways.get key
      ≠ some gw) :
    AfterDeletion fold gw hub (reconcile (ocmPlacer fold) input key ⟨hub, faults⟩).2.state := by
  have hbefore : Api.Triple (fun s => s = hub) (beforeAddresses (ocmPlacer fold) input key)
      (fun r s => r.isLeft = true ∧ (s.gateways = hub.gateways ∨ AfterDeletion fold gw hub s))
      (fun _ s => s.gateways = hub.gateways ∨ AfterDeletion fold gw hub s) := by
    refine Api.triple_get.attempt_bind (fun previous => ?_) fun e => ?_
    · refine Effect.Spec.mono (P := fun s => s = hub ∧ previous = gw)
        (Effect.Spec.given fun hprevious => ?_) ?_ (fun _ _ h => h) fun _ _ h => h
      · subst hprevious
        show Api.Triple _ (if previous.metadata.deletionTimestamp then _ else _) _ _
        rw [hdeleting, if_pos rfl]
        exact (triple_reconcileDeleted input hdeleting).bind (fun _ s hs => Or.inl hs) fun result =>
          Effect.Spec.pure fun s hs => ⟨rfl, Or.inr hs⟩
      · rintro s ⟨rfl, hprevious⟩
        exact ⟨rfl, Option.some.inj (hprevious.symm.trans hget)⟩
    · show Api.Triple _ (if e.kind = .notFound then pure (Sum.inl ({} : Result)) else Effect.fail e) _ _
      split
      · exact Effect.Spec.pure fun s hs => ⟨rfl, Or.inl (hs.1 ▸ rfl)⟩
      · exact Effect.Spec.fail fun s hs => Or.inl (hs.1 ▸ rfl)
  have htriple : Api.Triple (fun s => s = hub) (reconcile (ocmPlacer fold) input key)
      (fun _ s => s.gateways = hub.gateways ∨ AfterDeletion fold gw hub s)
      (fun _ s => s.gateways = hub.gateways ∨ AfterDeletion fold gw hub s) := by
    refine hbefore.bind (fun _ _ h => h) fun r => ?_
    cases r with
    | inl result => exact Effect.Spec.pure fun s hs => hs.2
    | inr phase => exact fun w hw => nomatch hw.1
  rcases htriple.ends (w := ⟨hub, faults⟩) rfl with hsame | hafter
  · rw [hsame] at hremoved
    exact absurd hget hremoved
  · exact hafter

/-- The works of a Gateway are gone with its finalizer exactly if there are none, or if the placement
    decisions are found and all works are applied and have the name that is deleted. -/
theorem withdrawn_iff (fold : Text.CaseFold) (input : Input) (key : ObjectKey) (hub : Hub)
    (faults : List (Option Fault)) (gw : GatewayObject) (hget : hub.gateways.get key = some gw)
    (hdeleting : gw.metadata.deletionTimestamp = true)
    (hfinalizer : gatewayFinalizer ∈ gw.metadata.finalizers)
    (hremoved : ∀ stored,
      (reconcile (ocmPlacer fold) input key ⟨hub, faults⟩).2.state.gateways.get key = some stored →
        gatewayFinalizer ∉ stored.metadata.finalizers) :
    Withdrawn fold gw (reconcile (ocmPlacer fold) input key ⟨hub, faults⟩).2.state ↔
      Withdrawn fold gw hub ∨ (Decided hub gw ∧ ∀ k w, hub.works.live k = some w →
        w.metadata.labels.get? workManifestLabel = some (workName fold gw.metadata.key) →
          isApplied w = true ∧ k.name = workName fold gw.metadata.key) := by
  have hafter := afterDeletion_of_removed input key faults hget hdeleting
    fun h => hremoved gw h hfinalizer
  generalize (reconcile (ocmPlacer fold) input key ⟨hub, faults⟩).2.state = hub' at hafter
  rcases hafter with ⟨hdecided, hworks⟩ | ⟨hundecided, hworks⟩
  · have hleft {k : ObjectKey} {w : ManifestWork} : hub'.works.live k = some w ↔
        hub.works.live k = some w ∧
          ¬ (k.name = workName fold gw.metadata.key ∧ k.ns ∈ placed fold hub gw.metadata.key) := by
      rw [hworks k]
      split
      · rename_i hgone
        simp [hgone]
      · rename_i hkept
        simp [hkept]
    constructor
    · intro hwithdrawn
      have hfound (k : ObjectKey) (w : ManifestWork) (hlive : hub.works.live k = some w)
          (hlabel : w.metadata.labels.get? workManifestLabel
            = some (workName fold gw.metadata.key)) :
          k.name = workName fold gw.metadata.key ∧ k.ns ∈ placed fold hub gw.metadata.key := by
        by_contra hnot
        exact hwithdrawn k w (hleft.2 ⟨hlive, hnot⟩) hlabel
      refine Or.inr ⟨hdecided, fun k w hlive hlabel => ?_⟩
      obtain ⟨hname, hplaced⟩ := hfound k w hlive hlabel
      -- the applied work on the cluster has the same name, so it is this one
      obtain ⟨k', w', hlive', hns, hlabel', happlied⟩ := mem_placed.1 hplaced
      have hkey : k' = k := by
        have hname' := (hfound k' w' hlive' hlabel').1
        cases k
        cases k'
        simp_all
      subst hkey
      cases hlive.symm.trans hlive'
      exact ⟨happlied, hname⟩
    · rintro (hnone | ⟨-, hall⟩) k w hlive hlabel
      · exact hnone k w (hleft.1 hlive).1 hlabel
      · obtain ⟨hlive, hnot⟩ := hleft.1 hlive
        obtain ⟨happlied, hname⟩ := hall k w hlive hlabel
        exact hnot ⟨hname, mem_placed.2 ⟨k, w, hlive, rfl, hlabel, happlied⟩⟩
  · unfold Withdrawn
    rw [hworks]
    exact ⟨Or.inl, fun h => h.resolve_right fun hright => hundecided hright.1⟩

/-! ## A Gateway that is deleted -/

def deletedGateway : GatewayObject where
  metadata := {
    name := "x", ns := "a", labels := [(ocmPlacementLabel, "first")],
    deletionTimestamp := true, finalizers := [gatewayFinalizer] }

/-- The hub after a run, with the Gateway that is being deleted. -/
def deletedAfter (run : List Event) : Hub :=
  { run.foldl (step .ascii) {} with gateways := (∅ : Objects gatewayKind).put deletedGateway }

/-- The Gateway has been placed on a cluster. -/
def placedRun : List Event := [decisionsFor ["c"] [], .place (placedBy 0 "x" "first") []]

/-- Its work has been applied there. -/
def appliedRun : List Event :=
  placedRun ++ [.report ⟨"c", "gateway-a-x"⟩ { conditions := [⟨manifestApplied, true, "", "", 0⟩] }]

theorem withdrawn_iff_applied :
    Withdrawn .ascii deletedGateway
      (reconcile (ocmPlacer .ascii) {} ⟨"a", "x"⟩ ⟨deletedAfter appliedRun, []⟩).2.state := by
  refine (withdrawn_iff .ascii {} ⟨"a", "x"⟩ (deletedAfter appliedRun) [] deletedGateway rfl rfl
    List.mem_cons_self (fun stored h => nomatch h)).2 (Or.inr ⟨Or.inr (by decide), ?_⟩)
  intro k w hlive hlabel
  have hall : ∀ w ∈ (deletedAfter appliedRun).works.entries,
      w.metadata.labels.get? workManifestLabel = some "gateway-a-x" →
        isApplied w = true ∧ w.metadata.name = "gateway-a-x" := by
    decide
  obtain ⟨hget, -⟩ := Objects.live_eq_some.1 hlive
  have hkey : workKind.key w = k := Objects.key_of_get hget
  obtain ⟨happlied, hname⟩ := hall w (Objects.mem_entries.2 (hkey ▸ hget)) hlabel
  exact ⟨happlied, (congrArg ObjectKey.name hkey).symm.trans hname⟩

/-- The work is not applied yet when the Gateway is deleted: the Gateway goes, the work stays. -/
theorem orphaned_before_applied :
    let hub := (reconcile (ocmPlacer .ascii) {} ⟨"a", "x"⟩ ⟨deletedAfter placedRun, []⟩).2.state
    hub.gateways.get ⟨"a", "x"⟩ = none ∧
      (hub.works.live ⟨"c", "gateway-a-x"⟩).bind parentOf = some "a/x" ∧
      ¬ Withdrawn .ascii deletedGateway hub := by
  refine ⟨rfl, rfl, fun h => ?_⟩
  exact h ⟨"c", "gateway-a-x"⟩ _ rfl rfl

-- The placement decision is gone when the Gateway is deleted: the applied work stays.
example :
    let before := deletedAfter (appliedRun ++ [.setDecisions []])
    let hub := (reconcile (ocmPlacer .ascii) {} ⟨"a", "x"⟩ ⟨before, []⟩).2.state
    hub.gateways.get ⟨"a", "x"⟩ = none ∧
      (hub.works.live ⟨"c", "gateway-a-x"⟩).map isApplied = some true :=
  ⟨rfl, rfl⟩

end MultiClusterGateway.GatewayController
