import MultiClusterGateway.Placement.Ocm

set_option autoImplicit false

/-! # What a call of `Place` can do

`Change` lists the single changes that a call makes to the works, each with what the call has made
sure of before. A whole call, however it ends, is a sequence of them (`place_reached`), and the
results about runs of calls go through the list and not through the code.

A change creates, updates, annotates or deletes one work: that of the Gateway on a cluster, or the
one with the permissions there. With it stands what the call has looked at before, such as that the
cluster is decided on; or, for a Gateway that stays, that it is not, and that the grace period is
over or the cluster is gone. A result about runs then takes the changes one at a time, and is not
affected by how the loops of `Place` are written, by the order in which sets of clusters are
visited, or by the calls that fail. -/

namespace MultiClusterGateway.Placement

/-! ## What a call finds -/

/-- The clusters that the placement decisions for a Gateway name. -/
def decided (hub : Hub) (gw : GatewayObject) : List String :=
  if selectedPlacement gw = "" then []
  else ((hub.decisions.filter (fun d => d.ns == gw.metadata.ns &&
    d.labels.matches [(ocmPlacementLabel, selectedPlacement gw)])).flatMap (·.clusters)).dedup

/-- The Gateway asks for no placement, or there is a decision for it. -/
def Decided (hub : Hub) (gw : GatewayObject) : Prop :=
  selectedPlacement gw = "" ∨ hub.decisions.filter (fun d => d.ns == gw.metadata.ns &&
    d.labels.matches [(ocmPlacementLabel, selectedPlacement gw)]) ≠ []

/-- The clusters of the applied works with the label of a Gateway. -/
def placed (fold : Text.CaseFold) (hub : Hub) (gw : ObjectKey) : List String :=
  (((hub.works.entries.filter
      (fun w => w.metadata.labels.matches [(workManifestLabel, workName fold gw)])).filter
    (fun w => !w.metadata.deletionTimestamp && isApplied w)).map (·.metadata.ns)).dedup

/-- Where the work of a Gateway for a cluster is. -/
def workKey (fold : Text.CaseFold) (gw : GatewayObject) (cluster : String) : ObjectKey :=
  ⟨cluster, workName fold gw.metadata.key⟩

/-- Where the permissions for a cluster are. -/
def rbacKey (cluster : String) : ObjectKey := ⟨cluster, rbacManifest⟩

/-- The end of the grace period of a work, in seconds, if there is one to be read. -/
def graceEnd (w : ManifestWork) : Option Int :=
  (w.metadata.annotations.get? graceTimestampAnnotation).bind Text.parseInt64

theorem mem_placed {fold : Text.CaseFold} {hub : Hub} {gw : ObjectKey} {cluster : String} :
    cluster ∈ placed fold hub gw ↔ ∃ k w, hub.works.live k = some w ∧ k.ns = cluster ∧
      w.metadata.labels.get? workManifestLabel = some (workName fold gw) ∧ isApplied w = true := by
  unfold placed
  rw [List.mem_dedup, List.mem_map]
  constructor
  · rintro ⟨w, hw, rfl⟩
    obtain ⟨hlabelled, hlive⟩ := List.mem_filter.1 hw
    obtain ⟨hentry, hlabel⟩ := List.mem_filter.1 hlabelled
    rw [Bool.and_eq_true, Bool.not_eq_true'] at hlive
    refine ⟨w.metadata.key, w, Objects.live_eq_some.2 ⟨Objects.mem_entries.1 hentry, hlive.1⟩, rfl,
      ?_, hlive.2⟩
    simpa [Labels.matches] using hlabel
  · rintro ⟨k, w, hlive, rfl, hlabel, happlied⟩
    obtain ⟨hget, hmarked⟩ := Objects.live_eq_some.1 hlive
    have hkey : w.metadata.key = k := Objects.key_of_get hget
    refine ⟨w, List.mem_filter.2 ⟨List.mem_filter.2 ⟨Objects.mem_entries.2 ?_, ?_⟩, ?_⟩, ?_⟩
    · rwa [← hkey] at hget
    · simpa [Labels.matches] using hlabel
    · rw [Bool.and_eq_true, Bool.not_eq_true']
      exact ⟨hmarked, happlied⟩
    · rw [← hkey]
      rfl

/-! ## Changes -/

/-- The hub with a work written. -/
def Hub.putWork (hub : Hub) (w : ManifestWork) : Hub := { hub with works := hub.works.put w }

/-- The grace period of the work is over. -/
def Expired (now : Nat) (w : ManifestWork) : Prop := ∃ t, graceEnd w = some t ∧ t ≤ (unix now : Int)

/-- A single change of the works in a call that begins at `hub`. -/
inductive Change (fold : Text.CaseFold) (c : PlaceCall) (hub : Hub) :
    Objects workKind → Objects workKind → Prop
  | createRBAC {works : Objects workKind} (cluster : String)
      (htarget : cluster ∈ decided hub c.upstream) (hfree : works.get (rbacKey cluster) = none) :
      Change fold c hub works (works.put (rbacWork cluster))
  | updateRBAC {works : Objects workKind} (cluster : String) (mw : ManifestWork)
      (htarget : cluster ∈ decided hub c.upstream) (hget : works.get (rbacKey cluster) = some mw) :
      Change fold c hub works (works.put { mw with spec := (rbacWork cluster).spec })
  | createWork {works : Objects workKind} (cluster : String)
      (htarget : cluster ∈ decided hub c.upstream) (hrbac : works.get (rbacKey cluster) ≠ none)
      (hfree : works.get (workKey fold c.upstream cluster) = none)
      (hkeeps : c.upstream.metadata.deletionTimestamp = false) :
      Change fold c hub works
        (works.put (gatewayWork fold c.upstream c.downstream c.children cluster))
  | updateWork {works : Objects workKind} (cluster : String) (mw : ManifestWork) (spec : WorkSpec)
      (htarget : cluster ∈ decided hub c.upstream) (hrbac : works.get (rbacKey cluster) ≠ none)
      (hget : works.get (workKey fold c.upstream cluster) = some mw) :
      Change fold c hub works (works.put { mw with spec := spec })
  | startGrace {works : Objects workKind} (cluster : String) (mw : ManifestWork)
      (hplaced : cluster ∈ placed fold hub c.upstream.metadata.key)
      (hleft : cluster ∉ decided hub c.upstream)
      (hget : works.get (workKey fold c.upstream cluster) = some mw) (hend : graceEnd mw = none) :
      Change fold c hub works (works.put (withGrace c.now mw))
  | deleteWork {works : Objects workKind} (cluster : String) (mw : ManifestWork)
      (hplaced : cluster ∈ placed fold hub c.upstream.metadata.key)
      (hleft : c.upstream.metadata.deletionTimestamp = false → cluster ∉ decided hub c.upstream ∧
        (cluster ∉ hub.managedClusters ∨ Expired c.now mw))
      (hget : works.get (workKey fold c.upstream cluster) = some mw) :
      Change fold c hub works (works.put (workKind.mark true mw))
  | deleteRBAC {works : Objects workKind} (cluster : String) (mw : ManifestWork)
      (hplaced : cluster ∈ placed fold hub c.upstream.metadata.key)
      (hleft : cluster ∉ decided hub c.upstream)
      (hkeeps : c.upstream.metadata.deletionTimestamp = false)
      (hgone : works.live (workKey fold c.upstream cluster) = none)
      (hget : works.get (rbacKey cluster) = some mw) :
      Change fold c hub works (works.put (workKind.mark true mw))

/-- The hubs that a call which begins at `hub` can leave. -/
def Reached (fold : Text.CaseFold) (c : PlaceCall) (hub hub' : Hub) : Prop :=
  ∃ works, hub' = { hub with works := works } ∧
    Relation.ReflTransGen (Change fold c hub) hub.works works

section

variable {fold : Text.CaseFold} {c : PlaceCall} {hub s : Hub} {cluster : String}

theorem Reached.refl : Reached fold c hub hub := ⟨hub.works, rfl, Relation.ReflTransGen.refl⟩

theorem Reached.tail {w : ManifestWork} (h : Reached fold c hub s)
    (hchange : Change fold c hub s.works (s.works.put w)) : Reached fold c hub (s.putWork w) := by
  obtain ⟨before, rfl, hbefore⟩ := h
  exact ⟨_, rfl, hbefore.tail hchange⟩

theorem Reached.managedClusters (h : Reached fold c hub s) :
    s.managedClusters = hub.managedClusters := by
  obtain ⟨works, rfl, -⟩ := h
  rfl

/-! ## The functions of the placer -/

theorem triple_getClusters {gw : GatewayObject} :
    Api.Triple (fun s => s = hub) (getClusters gw)
      (fun targets s => s = hub ∧ targets = decided hub gw ∧ Decided hub gw)
      (fun e s => s = hub ∧ (e.kind = .notFound → ¬ Decided hub gw)) := by
  unfold getClusters decided Decided
  by_cases hlabel : selectedPlacement gw = ""
  · rw [if_pos hlabel, if_pos hlabel]
    exact Effect.Spec.pure fun s hs => ⟨hs, rfl, Or.inl hlabel⟩
  · rw [if_neg hlabel, if_neg hlabel]
    refine Api.triple_read.bind (fun e s hs => ⟨hs.1, fun he => nomatch hs.2 he⟩) fun items => ?_
    split
    · rename_i hnone
      refine Effect.Spec.fail fun s hs => ?_
      obtain ⟨rfl, hitems⟩ := hs
      cases hitems
      exact ⟨rfl, fun _ h => h.elim hlabel fun hne => hne hnone⟩
    · rename_i hsome
      refine Effect.Spec.pure fun s hs => ?_
      obtain ⟨rfl, hitems⟩ := hs
      cases hitems
      exact ⟨rfl, rfl, Or.inr hsome⟩

theorem triple_getPlacedClusters {gw : ObjectKey} :
    Api.Triple (fun s => s = hub) (getPlacedClusters fold gw)
      (fun existing s => s = hub ∧ existing = placed fold hub gw)
      (fun e s => s = hub ∧ e.kind ≠ .notFound) := by
  refine Api.triple_list.bind (fun e s hs => hs) fun existing => Effect.Spec.pure fun s hs => ?_
  obtain ⟨rfl, rfl⟩ := hs
  exact ⟨rfl, rfl⟩

/-- A manifest is created, updated, or there as it should be. -/
theorem triple_createUpdateManifest {P Q : Hub → Prop} {m : ManifestWork}
    (hm : workKind.marked m = false)
    (hcreate : ∀ s, P s → s.works.get (workKind.key m) = none →
      Q (s.putWork m))
    (hupdate : ∀ s mw, P s → s.works.get (workKind.key m) = some mw →
      Q (s.putWork { mw with spec := m.spec }))
    (hsame : ∀ s mw, P s → s.works.get (workKind.key m) = some mw → mw.spec = m.spec → Q s) :
    Api.Triple P (createUpdateManifest m) (fun _ => Q) (fun _ => P) := by
  refine Api.triple_get.attempt_bind (fun mw => ?_) fun e => ?_
  · show Api.Triple _ (if mw.spec = m.spec then pure () else updateWork _) _ _
    split
    · rename_i hspec
      exact Effect.Spec.pure fun s hs => hsame s mw hs.1 hs.2 hspec
    · refine Api.triple_update.mono (fun s hs => hs) ?_ fun e s hs => hs.1
      rintro _ _ ⟨s, ⟨hP, hget⟩, -, rfl⟩
      exact hupdate s mw hP hget
  · show Api.Triple _ (if e.kind = .notFound then createWork m else Effect.fail _) _ _
    split
    · refine (Api.triple_create hm).mono (fun s hs => hs.1) ?_ fun e s hs => hs.1
      rintro _ _ ⟨s, hP, hfree, rfl⟩
      exact hcreate s hP hfree
    · exact Effect.Spec.fail fun s hs => hs.1

/-- A graceful deletion deletes at the end of the grace period, or begins one and fails. -/
theorem triple_gracefulDelete {P Q E : Hub → Prop} {now : Nat} {k : ObjectKey} {ignoreGrace : Bool}
    (hdeleted : ∀ s mw, P s → s.works.get k = some mw → ignoreGrace = true ∨ Expired now mw →
      Q (s.putWork (workKind.mark true mw)))
    (hstarted : ∀ s mw, P s → s.works.get k = some mw → graceEnd mw = none →
      E (s.putWork (withGrace now mw)))
    (hfailed : ∀ s, P s → E s) :
    Api.Triple P (gracefulDelete now k ignoreGrace) (fun _ => Q) (fun _ => E) := by
  refine Api.triple_get.bind (fun e s hs => hfailed s hs.1) fun mw => ?_
  have hdelete (hdue : ignoreGrace = true ∨ Expired now mw) :
      Api.Triple (fun s => P s ∧ s.works.get k = some mw) (deleteWork k) (fun _ => Q)
        (fun _ => E) := by
    refine Api.triple_delete.mono (fun s hs => hs) ?_ fun e s hs => hfailed s hs.1.1
    rintro _ _ ⟨s, mw', ⟨hP, hget⟩, hget', rfl⟩
    cases hget.symm.trans hget'
    exact hdeleted s mw hP hget hdue
  have hstart (hend : graceEnd mw = none) :
      Api.Triple (fun s => P s ∧ s.works.get k = some mw) (startGracePeriod now mw) (fun _ => Q)
        (fun _ => E) := by
    refine Api.triple_update.bind (fun e s hs => hfailed s hs.1) fun _ => Effect.Spec.fail ?_
    rintro _ ⟨s, ⟨hP, hget⟩, -, rfl⟩
    exact hstarted s mw hP hget hend
  cases ignoreGrace with
  | true => exact hdelete (Or.inl rfl)
  | false =>
      rw [if_neg Bool.false_ne_true]
      split
      · rename_i hnone
        exact hstart (by rw [graceEnd, hnone, Option.bind_none])
      · rename_i value hvalue
        have hend : graceEnd mw = Text.parseInt64 value := by
          rw [graceEnd, hvalue, Option.bind_some]
        split
        · rename_i hparse
          exact hstart (hend.trans hparse)
        · rename_i t hparse
          split
          · rename_i hdue
            exact hdelete (Or.inr ⟨t, hend.trans hparse, hdue⟩)
          · exact Effect.Spec.fail fun s hs => hfailed s hs.1

/-- A round of the loop over the clusters decided on. -/
theorem triple_addTo (htarget : cluster ∈ decided hub c.upstream)
    (hkeeps : c.upstream.metadata.deletionTimestamp = false) :
    Api.Triple (Reached fold c hub) (addTo fold c cluster) (fun _ => Reached fold c hub)
      (fun _ => Reached fold c hub) := by
  have hrbac : Api.Triple (Reached fold c hub) (defaultRBAC cluster)
      (fun _ s => Reached fold c hub s ∧ s.works.get (rbacKey cluster) ≠ none)
      (fun _ => Reached fold c hub) := by
    refine triple_createUpdateManifest rfl ?_ ?_ ?_
    · intro s hs hfree
      refine ⟨hs.tail (.createRBAC cluster htarget hfree), fun h => ?_⟩
      exact nomatch h.symm.trans (Objects.get_put_self rfl fun h => nomatch h)
    · intro s mw hs hget
      refine ⟨hs.tail (.updateRBAC cluster mw htarget hget), fun h => ?_⟩
      exact nomatch h.symm.trans
        (Objects.get_put_self (Objects.key_of_get (v := mw) hget)
          (Objects.finalizers_ne_nil (v := mw) hget))
    · intro s mw hs hget _
      exact ⟨hs, fun h => nomatch h.symm.trans hget⟩
  refine hrbac.bind (fun _ _ h => h) fun _ => ?_
  refine (triple_createUpdateManifest (Q := Reached fold c hub) rfl ?_ ?_ ?_).mono
    (fun s hs => hs) (fun a s hs => hs) fun e s hs => hs.1
  · rintro s ⟨hs, hpresent⟩ hfree
    exact hs.tail (.createWork cluster htarget hpresent hfree hkeeps)
  · rintro s mw ⟨hs, hpresent⟩ hget
    exact hs.tail (.updateWork cluster mw _ htarget hpresent hget)
  · rintro s mw ⟨hs, -⟩ hget _
    exact hs

/-- A round of the loop over the clusters to leave. -/
theorem triple_removeFrom (hkeeps : c.upstream.metadata.deletionTimestamp = false)
    (hplaced : cluster ∈ placed fold hub c.upstream.metadata.key)
    (hleft : cluster ∉ decided hub c.upstream) :
    Api.Triple (Reached fold c hub) (removeFrom fold c cluster) (fun _ => Reached fold c hub)
      (fun _ => Reached fold c hub) := by
  refine Api.triple_get.bind (fun e s hs => hs.1) fun _ => ?_
  -- what follows the look at the `ManagedCluster`: only without it the grace period is ignored
  have hrest (ignoreGrace : Bool) :
      Api.Triple (fun s => Reached fold c hub s ∧ (ignoreGrace = true → cluster ∉ hub.managedClusters))
        (do
          gracefulDelete c.now ⟨cluster, workName fold c.upstream.metadata.key⟩ ignoreGrace
          Api.ignoreNotFound (deleteWork ⟨cluster, rbacManifest⟩))
        (fun _ => Reached fold c hub) (fun _ => Reached fold c hub) := by
    refine Effect.Spec.bind (Q := fun _ s => Reached fold c hub s ∧
      s.works.live (workKey fold c.upstream cluster) = none)
      (triple_gracefulDelete (E := Reached fold c hub) ?_ ?_ ?_) (fun _ _ h => h) fun _ => ?_
    · rintro s mw ⟨hs, hcluster⟩ hget hdue
      refine ⟨hs.tail (.deleteWork cluster mw hplaced (fun _ => ⟨hleft, hdue.imp_left hcluster⟩)
        hget), ?_⟩
      exact Objects.live_put_marked (Objects.key_of_get (v := mw) hget) rfl
    · rintro s mw ⟨hs, -⟩ hget hend
      exact hs.tail (.startGrace cluster mw hplaced hleft hget hend)
    · exact fun s hs => hs.1
    · refine Api.triple_ignoreNotFound (Api.triple_delete.mono (fun s hs => hs) ?_ fun e s hs => hs)
        (fun e s _ hs => hs.1.1) fun e s _ hs => hs.1.1
      rintro _ _ ⟨s, mw, ⟨hs, hgone⟩, hget, rfl⟩
      exact hs.tail (.deleteRBAC cluster mw hplaced hleft hkeeps hgone hget)
  refine Api.triple_read.attempt_bind (fun _ => ?_) fun e => ?_
  · exact (hrest false).mono (fun s hs => ⟨hs.1.1, fun h => nomatch h⟩) (fun _ _ h => h)
      fun _ _ h => h
  · refine (hrest (e.kind == .notFound)).mono ?_ (fun _ _ h => h) fun _ _ h => h
    rintro s ⟨⟨hs, -⟩, hmissing⟩
    refine ⟨hs, fun hkind hpresent => ?_⟩
    have hfind := hmissing (eq_of_beq hkind)
    rw [hs.managedClusters, if_pos hpresent] at hfind
    cases hfind

/-- Deleting the works of a Gateway that is being deleted. -/
theorem triple_deletePlaced (hdeleting : c.upstream.metadata.deletionTimestamp = true)
    (hplaced : cluster ∈ placed fold hub c.upstream.metadata.key) :
    Api.Triple (Reached fold c hub)
      (Api.ignoreNotFound (deleteWork ⟨cluster, workName fold c.upstream.metadata.key⟩))
      (fun _ => Reached fold c hub) (fun _ => Reached fold c hub) := by
  refine Api.triple_ignoreNotFound (Api.triple_delete.mono (fun s hs => hs) ?_ fun e s hs => hs)
    (fun e s _ hs => hs.1) fun e s _ hs => hs.1
  rintro _ _ ⟨s, mw, hs, hget, rfl⟩
  refine hs.tail (.deleteWork cluster mw hplaced (fun h => ?_) hget)
  rw [hdeleting] at h
  cases h

/-- A call of `Place`, however it ends, is a sequence of changes. -/
theorem place_reached (fold : Text.CaseFold) (c : PlaceCall) (w : Served Hub) :
    Reached fold c w.state (place fold c w).2.state := by
  have htriple : Api.Triple (fun s => s = w.state) (place fold c) (fun _ => Reached fold c w.state)
      (fun _ => Reached fold c w.state) := by
    refine triple_getClusters.bind (fun e s hs => hs.1 ▸ Reached.refl) fun targets => ?_
    refine Effect.Spec.given fun htargets => ?_
    obtain ⟨rfl, -⟩ := htargets
    refine triple_getPlacedClusters.bind (fun e s hs => hs.1 ▸ Reached.refl) fun existing => ?_
    refine Effect.Spec.given fun hexisting => ?_
    subst hexisting
    refine Effect.Spec.mono (P := Reached fold c w.state) ?_ (fun s hs => hs ▸ Reached.refl)
      (fun _ _ h => h) fun _ _ h => h
    cases hdeleting : c.upstream.metadata.deletionTimestamp with
    | true =>
        refine (Effect.Spec.forEach fun cluster hcluster => ?_).bind (fun _ _ h => h)
          fun _ => Effect.Spec.pure fun s hs => hs
        exact triple_deletePlaced hdeleting (c.orders.existing.mem_visit.1 hcluster)
    | false =>
        refine (Effect.Spec.forEach fun cluster hcluster => ?_).bind (fun _ _ h => h) fun _ => ?_
        · exact triple_addTo (c.orders.targets.mem_visit.1 hcluster) hdeleting
        refine (Effect.Spec.forEach fun cluster hcluster => ?_).bind (fun _ _ h => h)
          fun _ => Effect.Spec.pure fun s hs => hs
        obtain ⟨hplaced, hleft⟩ := List.mem_filter.1 (c.orders.removals.mem_visit.1 hcluster)
        exact triple_removeFrom hdeleting hplaced (by simpa using hleft)
  exact htriple.ends rfl

end

end MultiClusterGateway.Placement
