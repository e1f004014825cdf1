import MultiClusterGateway.Placement.Runs

set_option autoImplicit false

/-! # Gateways and each other's works

A call of `Place` for one Gateway only touches works under the name of that Gateway's work and the
shared permissions. Two Gateways are therefore isolated from each other exactly if their works have
different names, which they have not if their namespaces and names are the same once they are joined
by a dash.

One direction follows from the list of changes: a call writes under one name in the namespace of
each cluster, and every other name is left (`get_step_of_ne`). For the other one there is a run in
which the first Gateway is placed on a cluster and its work applied there, and the second one, whose
work has the same name, then finds it as its own. The shared permissions are not part of this
question; they have a module of their own, `Placement.Permissions`. -/

namespace MultiClusterGateway.Placement

variable {fold : Text.CaseFold}

/-- Calls for one Gateway, and what makes it move between clusters. -/
def Event.On (g : ObjectKey) : Event → Prop
  | .place c _ => c.upstream.metadata.key = g
  | .setDecisions _ => True
  | .setManagedClusters _ => True
  | .report _ _ => False
  | .setFinalizers _ _ => False

/-- Whatever has happened on the hub, calls for `g₁` leave every work of `g₂` as it is, and a cluster
    that is reported for `g₁` has a work that is not one of `g₂`. -/
def Isolated (fold : Text.CaseFold) (g₁ g₂ : ObjectKey) : Prop :=
  ∀ run : List Event, (∀ e ∈ run, e.Valid) →
    (∀ calls : List Event, (∀ e ∈ calls, e.Valid ∧ e.On g₁) →
      ∀ w, parentOf w = some (metaNamespaceKey g₂) →
        (w ∈ ((run ++ calls).foldl (step fold) {}).works.entries ↔
          w ∈ (run.foldl (step fold) {}).works.entries)) ∧
    ∀ faults clusters w', getPlacedClusters fold g₁ ⟨run.foldl (step fold) {}, faults⟩
        = (.ok clusters, w') →
      ∀ cluster ∈ clusters, ∃ w ∈ (run.foldl (step fold) {}).works.entries,
        w.metadata.ns = cluster ∧
        w.metadata.labels.get? workManifestLabel = some (workName fold g₁) ∧
        parentOf w ≠ some (metaNamespaceKey g₂)

/-! ## Different names -/

/-- A change of a call is a write under the name of the work or of the permissions. -/
theorem Change.exists_put {c : PlaceCall} {hub : Hub} {works works' : Objects workKind}
    (h : Change fold c hub works works') : ∃ w, works' = works.put w ∧
      (w.metadata.name = rbacManifest ∨ w.metadata.name = workName fold c.upstream.metadata.key) := by
  have hname {k : ObjectKey} {mw : ManifestWork} (hget : works.get k = some mw) :
      mw.metadata.name = k.name := congrArg ObjectKey.name (Objects.key_of_get hget)
  cases h with
  | createRBAC cluster => exact ⟨_, rfl, Or.inl rfl⟩
  | updateRBAC cluster mw _ hget => exact ⟨_, rfl, Or.inl (hname hget)⟩
  | createWork cluster => exact ⟨_, rfl, Or.inr rfl⟩
  | updateWork cluster mw _ _ _ hget => exact ⟨_, rfl, Or.inr (hname hget)⟩
  | startGrace cluster mw _ _ hget => exact ⟨_, rfl, Or.inr (hname hget)⟩
  | deleteWork cluster mw _ _ hget => exact ⟨_, rfl, Or.inr (hname hget)⟩
  | deleteRBAC cluster mw _ _ _ _ hget => exact ⟨_, rfl, Or.inl (hname hget)⟩

/-- Works under other names stay as they are. -/
theorem get_step_of_ne {g : ObjectKey} {hub : Hub} {e : Event} {k : ObjectKey} (he : e.On g)
    (hrbac : k.name ≠ rbacManifest) (hwork : k.name ≠ workName fold g) :
    (step fold hub e).works.get k = hub.works.get k := by
  refine step_preserves (I := fun works => works.get k = hub.works.get k) rfl ?_ ?_
  · rintro c faults rfl works works' hworks hchange
    obtain ⟨w, rfl, hname⟩ := hchange.exists_put
    rw [Objects.get_put_of_ne, hworks]
    rintro rfl
    rcases hname with hname | hname
    · exact hrbac hname
    · exact hwork (he ▸ hname)
  · intro k' w w' hget hedit
    cases hedit with
    | report status => exact he.elim
    | setFinalizers finalizers => exact he.elim

theorem get_run_of_ne {g : ObjectKey} {hub : Hub} {calls : List Event} {k : ObjectKey}
    (hcalls : ∀ e ∈ calls, e.Valid ∧ e.On g) (hrbac : k.name ≠ rbacManifest)
    (hwork : k.name ≠ workName fold g) :
    (calls.foldl (step fold) hub).works.get k = hub.works.get k := by
  induction calls generalizing hub with
  | nil => rfl
  | cons e rest ih =>
      rw [List.foldl_cons, ih fun e' he' => hcalls e' (List.mem_cons_of_mem _ he')]
      exact get_step_of_ne (hcalls e List.mem_cons_self).2 hrbac hwork

theorem isolated_of_ne {g₁ g₂ : ObjectKey} (h₂ : g₂.Valid)
    (hne : workName fold g₁ ≠ workName fold g₂) : Isolated fold g₁ g₂ := by
  intro run hrun
  -- a work of `g₂` has the name and the label of `g₂`, before and after the calls
  have hname : ∀ calls : List Event, (∀ e ∈ calls, e.Valid ∧ e.On g₁) →
      ∀ w ∈ ((run ++ calls).foldl (step fold) {}).works.entries,
      parentOf w = some (metaNamespaceKey g₂) → w.metadata.name = workName fold g₂ ∧
        w.metadata.labels.get? workManifestLabel = some (workName fold g₂) := by
    intro calls hcalls w hw hparent
    have hvalid : ∀ e ∈ run ++ calls, e.Valid := fun e he =>
      (List.mem_append.1 he).elim (hrun e) fun he => (hcalls e he).1
    have hempty : ∀ k w, ({} : Hub).works.get k = some w → Made fold w :=
      fun k w hget => nomatch hget
    obtain ⟨g, hg, hkey, hname, hlabel⟩ :=
      made_run hempty hvalid _ w (Objects.mem_entries.1 hw) _ hparent
    cases metaNamespaceKey_inj hg h₂ hkey.symm
    exact ⟨hname, hlabel⟩
  have hnone : ∀ e ∈ ([] : List Event), e.Valid ∧ e.On g₁ := fun e he => nomatch he
  constructor
  · intro calls hcalls w hparent
    have hsame (hw : w.metadata.name = workName fold g₂) :
        ((run ++ calls).foldl (step fold) {}).works.get w.metadata.key
          = (run.foldl (step fold) {}).works.get w.metadata.key := by
      rw [List.foldl_append]
      refine get_run_of_ne hcalls ?_ ?_
      · exact fun h => workName_ne_rbacManifest h₂ (hw.symm.trans h)
      · exact fun h => hne (h.symm.trans hw)
    rw [Objects.mem_entries, Objects.mem_entries]
    constructor
    · intro hget
      have := (hname calls hcalls w (Objects.mem_entries.2 hget) hparent).1
      exact (hsame this).symm.trans hget
    · intro hget
      have := (hname [] hnone w (by rwa [List.append_nil, Objects.mem_entries]) hparent).1
      exact (hsame this).trans hget
  · intro faults clusters w' hplaced cluster hcluster
    obtain ⟨-, rfl⟩ := triple_getPlacedClusters.of_ok rfl hplaced
    obtain ⟨k, w, hlive, rfl, hlabel, -⟩ := mem_placed.1 hcluster
    obtain ⟨hget, -⟩ := Objects.live_eq_some.1 hlive
    have hkey : w.metadata.key = k := Objects.key_of_get hget
    have hw : w ∈ (run.foldl (step fold) {}).works.entries := by
      rw [Objects.mem_entries, show workKind.key w = k from hkey]
      exact hget
    refine ⟨w, hw, congrArg ObjectKey.ns hkey, hlabel, fun hparent => hne ?_⟩
    have := (hname [] hnone w (by rwa [List.append_nil]) hparent).2
    exact Option.some.inj (hlabel.symm.trans this)

/-! ## The same name -/

/-- A Gateway with a placement, and its call. -/
def soleCall (g : ObjectKey) : PlaceCall where
  now := 0
  upstream := { metadata := { name := g.name, ns := g.ns, labels := [(ocmPlacementLabel, "p")] } }
  downstream := { metadata := { name := g.name, ns := g.ns } }

/-- The decision to place it on one cluster. -/
def soleDecision (g : ObjectKey) : PlacementDecision :=
  ⟨g.ns, [(ocmPlacementLabel, "p")], ["c"]⟩

/-- The Gateway is placed on the cluster, where its work is applied. -/
def soleRun (fold : Text.CaseFold) (g : ObjectKey) : List Event :=
  [.setDecisions [soleDecision g], .place (soleCall g) [],
    .report ⟨"c", workName fold g⟩ { conditions := [⟨manifestApplied, true, "", "", 0⟩] }]

/-- The work that is created in the run. -/
def soleWork (fold : Text.CaseFold) (g : ObjectKey) : ManifestWork :=
  gatewayWork fold (soleCall g).upstream (soleCall g).downstream [] "c"

theorem createUpdateManifest_of_free {hub : Hub} {m : ManifestWork}
    (hm : workKind.marked m = false) (hfree : hub.works.get (workKind.key m) = none) :
    createUpdateManifest m ⟨hub, []⟩ = (.ok (), ⟨hub.putWork m, []⟩) := by
  have hfind : hub.works.find m.metadata.key = .error (Objects.notFound m.metadata.key) :=
    Objects.find_eq_error.2 ⟨hfree, rfl⟩
  have hget : getWork m.metadata.key ⟨hub, []⟩
      = (.error (Objects.notFound m.metadata.key), ⟨hub, []⟩) := by
    rw [← hfind]
    exact Api.get_of_no_faults _ hub
  unfold createUpdateManifest
  rw [Effect.bind_of_ok (Effect.attempt_apply _ _), hget]
  exact Api.create_of_no_faults hm hfree

theorem addTo_sole {hub : Hub} {g : ObjectKey} (hg : g.Valid) (hempty : hub.works = ∅) :
    addTo fold (soleCall g) "c" ⟨hub, []⟩
      = (.ok (), ⟨(hub.putWork (rbacWork "c")).putWork (soleWork fold g), []⟩) := by
  unfold addTo defaultRBAC
  rw [Effect.bind_of_ok (createUpdateManifest_of_free rfl (by rw [hempty]; rfl))]
  refine createUpdateManifest_of_free rfl ?_
  show (hub.works.put (rbacWork "c")).get (workKey fold (soleCall g).upstream "c") = none
  rw [Objects.get_put_of_ne, hempty]
  · rfl
  · exact fun h => workName_ne_rbacManifest hg (congrArg ObjectKey.name h)

theorem decided_sole {hub : Hub} {g : ObjectKey} (hdecisions : hub.decisions = [soleDecision g]) :
    getClusters (soleCall g).upstream ⟨hub, []⟩ = (.ok ["c"], ⟨hub, []⟩) := by
  have hlabel : selectedPlacement (soleCall g).upstream = "p" := rfl
  have hlist : listDecisions g.ns [(ocmPlacementLabel, "p")] ⟨hub, []⟩
      = (.ok [soleDecision g], ⟨hub, []⟩) := by
    refine (Api.read_of_no_faults _ _).trans ?_
    rw [hdecisions]
    simp [soleDecision, Labels.matches, Labels.get?]
  unfold getClusters
  rw [hlabel, if_neg (by decide)]
  exact Effect.bind_of_ok hlist

theorem step_place_sole {hub : Hub} {g : ObjectKey} (hg : g.Valid) (hempty : hub.works = ∅)
    (hdecisions : hub.decisions = [soleDecision g]) :
    step fold hub (.place (soleCall g) []) =
      (hub.putWork (rbacWork "c")).putWork (soleWork fold g) := by
  have hentries : hub.works.entries = [] := by rw [hempty]; rfl
  have hplaced : getPlacedClusters fold (soleCall g).upstream.metadata.key ⟨hub, []⟩
      = (.ok [], ⟨hub, []⟩) := by
    unfold getPlacedClusters
    rw [Effect.bind_of_ok (Api.list_of_no_faults _ hub)]
    show (Except.ok (List.dedup (List.map _ (List.filter _ (List.filter _ hub.works.entries)))), _) = _
    rw [hentries]
    rfl
  have hadd : Effect.forEach ["c"] (addTo fold (soleCall g)) ⟨hub, []⟩
      = (.ok (), ⟨(hub.putWork (rbacWork "c")).putWork (soleWork fold g), []⟩) :=
    Effect.bind_of_ok (addTo_sole hg hempty)
  show (place fold (soleCall g) ⟨hub, []⟩).2.state = _
  unfold place
  rw [Effect.bind_of_ok (decided_sole hdecisions), Effect.bind_of_ok hplaced]
  exact congrArg (fun r : _ × Served Hub => r.2.state) (Effect.bind_of_ok hadd)

/-- The work at the end of the run. -/
def appliedWork (fold : Text.CaseFold) (g : ObjectKey) : ManifestWork :=
  { soleWork fold g with status := { conditions := [⟨manifestApplied, true, "", "", 0⟩] } }

theorem works_soleRun {g : ObjectKey} (hg : g.Valid) :
    ((soleRun fold g).foldl (step fold) {}).works =
      (((∅ : Objects workKind).put (rbacWork "c")).put (soleWork fold g)).put (appliedWork fold g) := by
  have hplace : step fold { decisions := [soleDecision g] } (.place (soleCall g) []) = _ :=
    step_place_sole hg rfl rfl
  have hget : (((∅ : Objects workKind).put (rbacWork "c")).put (soleWork fold g)).get
      ⟨"c", workName fold g⟩ = some (soleWork fold g) :=
    Objects.get_put_self rfl fun h => nomatch h
  show (step fold (step fold { decisions := [soleDecision g] } (.place (soleCall g) []))
    (.report ⟨"c", workName fold g⟩ (appliedWork fold g).status)).works = _
  rw [hplace]
  unfold step Hub.edit
  simp only [Hub.putWork, hget]
  rfl

theorem not_isolated_of_eq {g₁ g₂ : ObjectKey} (h₂ : g₂.Valid)
    (heq : workName fold g₁ = workName fold g₂) : ¬ Isolated fold g₁ g₂ := by
  intro hisolated
  have hvalid : ∀ e ∈ soleRun fold g₂, e.Valid := by
    intro e he
    simp only [soleRun, List.mem_cons, List.not_mem_nil, or_false] at he
    rcases he with rfl | rfl | rfl
    · trivial
    · exact h₂
    · trivial
  have hworks : ((soleRun fold g₂).foldl (step fold) {}).works = _ := works_soleRun h₂
  generalize hhub : (soleRun fold g₂).foldl (step fold) {} = hub at hworks
  have hreported := (hisolated (soleRun fold g₂) hvalid).2 [] (placed fold hub g₁) ⟨hub, []⟩
  rw [hhub] at hreported
  have hlive : hub.works.live ⟨"c", workName fold g₂⟩ = some (appliedWork fold g₂) := by
    rw [hworks]
    exact Objects.live_put_self rfl rfl
  have hcluster : "c" ∈ placed fold hub g₁ := by
    refine mem_placed.2 ⟨_, _, hlive, rfl, ?_, rfl⟩
    rw [heq]
    rfl
  obtain ⟨w, hw, hns, hlabel, hparent⟩ := hreported
    (Effect.bind_of_ok (Api.list_of_no_faults _ hub)) "c" hcluster
  -- the only other work on the hub has no label
  have hget := Objects.mem_entries.1 hw
  rw [hworks] at hget
  by_cases hkey : workKind.key w = ⟨"c", workName fold g₂⟩
  · rw [hkey] at hget
    have hlast := (Objects.live_eq_some.1 hlive).1
    rw [hworks] at hlast
    cases hget.symm.trans hlast
    exact hparent rfl
  · rw [Objects.get_put_of_ne hkey, Objects.get_put_of_ne hkey, Objects.get_put] at hget
    split at hget
    · cases hget
      cases hlabel
    · cases hget

/-! ## Exactly the Gateways that are told apart -/

/-- Two Gateways are isolated from each other exactly if their namespaces and names still differ
    once they are joined by a dash. -/
theorem isolated_iff (fold : Text.CaseFold) (g₁ g₂ : ObjectKey) (h₁ : g₁.Valid) (h₂ : g₂.Valid) :
    Isolated fold g₁ g₂ ↔ g₁.ns ++ "-" ++ g₁.name ≠ g₂.ns ++ "-" ++ g₂.name := by
  constructor
  · intro hisolated hjoined
    exact not_isolated_of_eq h₂ ((workName_eq_iff h₁ h₂).2 hjoined) hisolated
  · intro hne
    exact isolated_of_ne h₂ fun heq => hne ((workName_eq_iff h₁ h₂).1 heq)

theorem isolated_iff_prod_test :
    Isolated .ascii ⟨"prod", "web"⟩ ⟨"test", "web"⟩ :=
  (isolated_iff .ascii ⟨"prod", "web"⟩ ⟨"test", "web"⟩
    ⟨⟨by decide, by decide⟩, ⟨by decide, by decide⟩⟩
    ⟨⟨by decide, by decide⟩, ⟨by decide, by decide⟩⟩).2 (by decide)

/-- The Gateway `b-c` in namespace `a` is being deleted and has no placement; the work of the Gateway
    `c` in namespace `a-b` goes with it. -/
theorem deleted_with_another :
    let g₁ : ObjectKey := ⟨"a", "b-c"⟩
    let g₂ : ObjectKey := ⟨"a-b", "c"⟩
    let deletion : PlaceCall := {
      now := 0
      upstream := { metadata := { name := "b-c", ns := "a", deletionTimestamp := true } }
      downstream := { metadata := { name := "b-c", ns := "kuadrant-a" } } }
    let before := (soleRun .ascii g₂).foldl (step .ascii) {}
    let after := step .ascii before (.place deletion [])
    g₁ ≠ g₂ ∧ deletion.upstream.metadata.key = g₁ ∧
      (before.works.get ⟨"c", "gateway-a-b-c"⟩).bind parentOf = some (metaNamespaceKey g₂) ∧
      after.works.get ⟨"c", "gateway-a-b-c"⟩ = none := by
  refine ⟨by decide, rfl, rfl, rfl⟩

end MultiClusterGateway.Placement
