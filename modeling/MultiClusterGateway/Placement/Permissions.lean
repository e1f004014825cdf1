import MultiClusterGateway.Placement.Isolation

set_option autoImplicit false

/-! # The permissions that Gateways share

One work in the namespace of a cluster carries the permissions for all Gateways on it. Every call
that adds a Gateway makes sure of it, but a call that takes a Gateway away deletes it without a look
at the others. The permissions stay as long as no Gateway leaves a cluster on which there is another,
and none is added while the permissions are on their way out.

`Careful` is the condition on a call, stated on the hub as the call finds it. The induction goes
over the single changes of `Placement.Changes`: each one keeps the permissions where a Gateway is,
and the rest of the call careful (`Change.permitted`). That the condition is needed is shown by a
run in which two Gateways are on one cluster and the one that leaves takes the permissions of the
other along. -/

namespace MultiClusterGateway.Placement

variable {fold : Text.CaseFold} {works : Objects workKind}

/-- There is a work under the key that was made for a Gateway and is not being deleted. -/
def Used (works : Objects workKind) (k : ObjectKey) : Prop :=
  ∃ w, works.live k = some w ∧ (parentOf w).isSome = true

/-- The permissions for a cluster are there and not being deleted. -/
def Granted (works : Objects workKind) (cluster : String) : Prop :=
  ∃ w, works.live (rbacKey cluster) = some w

/-- Wherever there is a Gateway there are permissions. -/
def Permitted (works : Objects workKind) : Prop := ∀ k, Used works k → Granted works k.ns

/-- A call that is not for the deletion of a Gateway takes it only from clusters without another
    Gateway, and adds it where the permissions are not being deleted. -/
structure Careful (fold : Text.CaseFold) (c : PlaceCall) (hub : Hub) (works : Objects workKind) :
    Prop where
  alone : c.upstream.metadata.deletionTimestamp = false →
    ∀ cluster ∈ placed fold hub c.upstream.metadata.key, cluster ∉ decided hub c.upstream →
      ∀ k, Used works k → k.ns = cluster → k = workKey fold c.upstream cluster
  unmarked : c.upstream.metadata.deletionTimestamp = false →
    ∀ cluster ∈ decided hub c.upstream, works.get (rbacKey cluster) ≠ none → Granted works cluster

/-- The condition on a step. -/
def SharesCarefully (fold : Text.CaseFold) (hub : Hub) : Event → Prop
  | .place c _ => c.upstream.metadata.key.Valid ∧ Careful fold c hub hub.works
  | _ => True

/-! ## Writes -/

theorem used_put_self {w : ManifestWork} {k : ObjectKey} (hkey : workKind.key w = k) :
    Used (works.put w) k ↔ workKind.marked w = false ∧ (parentOf w).isSome = true := by
  unfold Used
  cases hm : workKind.marked w with
  | false => simp [Objects.live_put_self hkey hm]
  | true => simp [Objects.live_put_marked hkey hm]

theorem used_put_of_ne {w : ManifestWork} {k : ObjectKey} (hkey : k ≠ workKind.key w) :
    Used (works.put w) k ↔ Used works k := by
  unfold Used
  rw [Objects.live_put_of_ne hkey]

theorem granted_put_self {w : ManifestWork} {cluster : String}
    (hkey : workKind.key w = rbacKey cluster) :
    Granted (works.put w) cluster ↔ workKind.marked w = false := by
  unfold Granted
  cases hm : workKind.marked w with
  | false => simp [Objects.live_put_self hkey hm]
  | true => simp [Objects.live_put_marked hkey hm]

theorem granted_put_of_ne {w : ManifestWork} {cluster : String}
    (hkey : rbacKey cluster ≠ workKind.key w) :
    Granted (works.put w) cluster ↔ Granted works cluster := by
  unfold Granted
  rw [Objects.live_put_of_ne hkey]

/-- A write that marks a work, or has no Gateway, brings no Gateway to a cluster. -/
theorem used_of_put {w : ManifestWork} {k : ObjectKey}
    (hw : workKind.marked w = true ∨ parentOf w = none) (h : Used (works.put w) k) :
    Used works k := by
  by_cases hkey : k = workKind.key w
  · obtain ⟨hmarked, hparent⟩ := (used_put_self hkey.symm).1 h
    rcases hw with hw | hw
    · exact nomatch hw.symm.trans hmarked
    · rw [hw] at hparent
      cases hparent
  · exact (used_put_of_ne hkey).1 h

/-- Another version of a work in the store changes nothing about who is where. -/
structure SameUse (works works' : Objects workKind) : Prop where
  used : ∀ k, Used works' k ↔ Used works k
  granted : ∀ cluster, Granted works' cluster ↔ Granted works cluster
  absent : ∀ cluster, works'.get (rbacKey cluster) ≠ none → works.get (rbacKey cluster) ≠ none

theorem sameUse_put {k : ObjectKey} {mw mw' : ManifestWork} (hget : works.get k = some mw)
    (hkey : workKind.key mw' = workKind.key mw) (hmarked : workKind.marked mw' = workKind.marked mw)
    (hparent : parentOf mw' = parentOf mw) : SameUse works (works.put mw') := by
  have hk : workKind.key mw = k := Objects.key_of_get hget
  subst hk
  have hlive : works.live (workKind.key mw) = if workKind.marked mw then none else some mw := by
    unfold Objects.live
    rw [hget]
    cases hm : workKind.marked mw with
    | false => simp [hm]
    | true => simp [hm]
  refine ⟨fun k => ?_, fun cluster => ?_, fun cluster hpresent => ?_⟩
  · by_cases hk : k = workKind.key mw
    · subst hk
      rw [used_put_self hkey, hmarked, hparent]
      unfold Used
      rw [hlive]
      cases workKind.marked mw with
      | false => simp
      | true => simp
    · exact used_put_of_ne (hkey ▸ hk)
  · by_cases hk : rbacKey cluster = workKind.key mw
    · rw [granted_put_self (hkey.trans hk.symm), hmarked]
      unfold Granted
      rw [hk, hlive]
      cases workKind.marked mw with
      | false => simp
      | true => simp
    · exact granted_put_of_ne (hkey ▸ hk)
  · by_cases hk : rbacKey cluster = workKind.key mw
    · rw [hk, hget]
      exact Option.some_ne_none mw
    · rwa [Objects.get_put_of_ne (hkey ▸ hk)] at hpresent

theorem SameUse.permitted {works' : Objects workKind} (h : SameUse works works')
    (hpermitted : Permitted works) : Permitted works' :=
  fun k hk => (h.granted k.ns).2 (hpermitted k ((h.used k).1 hk))

theorem SameUse.careful {works' : Objects workKind} {c : PlaceCall} {hub : Hub}
    (h : SameUse works works') (hcareful : Careful fold c hub works) :
    Careful fold c hub works' where
  alone hkeeps cluster hplaced hleft k hk :=
    hcareful.alone hkeeps cluster hplaced hleft k ((h.used k).1 hk)
  unmarked hkeeps cluster hcluster hpresent :=
    (h.granted cluster).2 (hcareful.unmarked hkeeps cluster hcluster (h.absent cluster hpresent))

/-! ## Steps -/

theorem workKey_ne_rbacKey {gw : GatewayObject} (h : gw.metadata.key.Valid)
    (cluster cluster' : String) : workKey fold gw cluster ≠ rbacKey cluster' :=
  fun heq => workName_ne_rbacManifest h (congrArg ObjectKey.name heq)

/-- A change of a careful call keeps the permissions, and the rest of the call careful. -/
theorem Change.permitted {c : PlaceCall} {hub : Hub} {works' : Objects workKind}
    (h : Change fold c hub works works') (hvalid : c.upstream.metadata.key.Valid)
    (hpermitted : Permitted works) (hcareful : Careful fold c hub works) :
    Permitted works' ∧ Careful fold c hub works' := by
  have halike {k : ObjectKey} {mw mw' : ManifestWork} (hget : works.get k = some mw)
      (hkey : workKind.key mw' = workKind.key mw)
      (hmarked : workKind.marked mw' = workKind.marked mw) (hparent : parentOf mw' = parentOf mw) :
      Permitted (works.put mw') ∧ Careful fold c hub (works.put mw') :=
    have hsame := sameUse_put hget hkey hmarked hparent
    ⟨hsame.permitted hpermitted, hsame.careful hcareful⟩
  cases h with
  | createRBAC cluster htarget hfree =>
      have hne {cl : String} (h : cl ≠ cluster) : rbacKey cl ≠ workKind.key (rbacWork cluster) :=
        fun heq => h (congrArg ObjectKey.ns heq)
      have hgranted : ∀ cl, Granted works cl → Granted (works.put (rbacWork cluster)) cl := by
        intro cl hcl
        by_cases heq : cl = cluster
        · exact (granted_put_self (heq ▸ rfl)).2 rfl
        · exact (granted_put_of_ne (hne heq)).2 hcl
      refine ⟨fun k hk => hgranted _ (hpermitted k (used_of_put (Or.inr rfl) hk)),
        fun hkeeps cl hplaced hleft k hk =>
          hcareful.alone hkeeps cl hplaced hleft k (used_of_put (Or.inr rfl) hk),
        fun hkeeps cl hcl hpresent => ?_⟩
      by_cases heq : cl = cluster
      · exact (granted_put_self (heq ▸ rfl)).2 rfl
      · rw [Objects.get_put_of_ne (hne heq)] at hpresent
        exact hgranted cl (hcareful.unmarked hkeeps cl hcl hpresent)
  | updateRBAC cluster mw _ hget => exact halike hget rfl rfl rfl
  | createWork cluster htarget hrbac hfree hkeeps =>
      have hgranted (cl : String) :
          Granted (works.put (gatewayWork fold c.upstream c.downstream c.children cluster)) cl ↔
            Granted works cl :=
        granted_put_of_ne (workKey_ne_rbacKey hvalid cluster cl).symm
      refine ⟨fun k hk => (hgranted _).2 ?_, fun _ cl hplaced hleft k hk hns => ?_,
        fun _ cl hcl hpresent => (hgranted cl).2 (hcareful.unmarked hkeeps cl hcl ?_)⟩
      · by_cases hkey : k = workKey fold c.upstream cluster
        · rw [hkey]
          exact hcareful.unmarked hkeeps cluster htarget hrbac
        · exact hpermitted k ((used_put_of_ne hkey).1 hk)
      · by_cases hkey : k = workKey fold c.upstream cluster
        · rw [hkey] at hns
          exact absurd (hns ▸ htarget) hleft
        · exact hcareful.alone hkeeps cl hplaced hleft k ((used_put_of_ne hkey).1 hk) hns
      · rwa [Objects.get_put_of_ne (workKey_ne_rbacKey hvalid cluster cl).symm] at hpresent
  | updateWork cluster mw spec _ _ hget => exact halike hget rfl rfl rfl
  | startGrace cluster mw _ _ hget => exact halike hget rfl rfl (parentOf_withGrace c.now mw)
  | deleteWork cluster mw _ _ hget =>
      have hne (cl : String) : rbacKey cl ≠ workKind.key (workKind.mark true mw) := by
        rw [workKind.key_mark, Objects.key_of_get hget]
        exact (workKey_ne_rbacKey hvalid cluster cl).symm
      have hused {k : ObjectKey} (hk : Used (works.put (workKind.mark true mw)) k) : Used works k :=
        used_of_put (Or.inl (workKind.marked_mark true mw)) hk
      refine ⟨fun k hk => (granted_put_of_ne (hne _)).2 (hpermitted k (hused hk)),
        fun hkeeps cl hplaced hleft k hk => hcareful.alone hkeeps cl hplaced hleft k (hused hk),
        fun hkeeps cl hcl hpresent => (granted_put_of_ne (hne cl)).2 ?_⟩
      rw [Objects.get_put_of_ne (hne cl)] at hpresent
      exact hcareful.unmarked hkeeps cl hcl hpresent
  | deleteRBAC cluster mw hplaced hleft hkeeps hgone hget =>
      have hne {cl : String} (h : cl ≠ cluster) :
          rbacKey cl ≠ workKind.key (workKind.mark true mw) := by
        rw [workKind.key_mark, Objects.key_of_get hget]
        exact fun heq => h (congrArg ObjectKey.ns heq)
      have hused {k : ObjectKey} (hk : Used (works.put (workKind.mark true mw)) k) : Used works k :=
        used_of_put (Or.inl (workKind.marked_mark true mw)) hk
      -- the work of this Gateway is gone, and there is no other
      have hnone (k : ObjectKey) (hk : Used works k) : k.ns ≠ cluster := by
        intro hns
        have hkey := hcareful.alone hkeeps cluster hplaced hleft k hk hns
        obtain ⟨w, hlive, -⟩ := hk
        rw [hkey, hgone] at hlive
        cases hlive
      refine ⟨fun k hk => (granted_put_of_ne (hne (hnone k (hused hk)))).2 (hpermitted k (hused hk)),
        fun hkeeps cl hplaced hleft k hk => hcareful.alone hkeeps cl hplaced hleft k (hused hk),
        fun hkeeps cl hcl hpresent => ?_⟩
      have hcl' : cl ≠ cluster := fun h => hleft (h ▸ hcl)
      rw [Objects.get_put_of_ne (hne hcl')] at hpresent
      exact (granted_put_of_ne (hne hcl')).2 (hcareful.unmarked hkeeps cl hcl hpresent)

theorem permitted_step {hub : Hub} {e : Event} (h : Permitted hub.works)
    (he : SharesCarefully fold hub e) : Permitted (step fold hub e).works := by
  cases e with
  | place c faults =>
      refine (step_preserves (I := fun works => Permitted works ∧ Careful fold c hub works)
        ⟨h, he.2⟩ ?_ ?_).1
      · intro c' faults' heq works works' hworks hchange
        cases heq
        exact hchange.permitted he.1 hworks.1 hworks.2
      · intro k w w' _ hedit
        cases hedit
  | setDecisions decisions => exact h
  | setManagedClusters names => exact h
  | report k status =>
      exact edit_preserves h fun w hw => SameUse.permitted (sameUse_put hw rfl rfl rfl) h
  | setFinalizers k finalizers =>
      exact edit_preserves h fun w hw => SameUse.permitted (sameUse_put hw rfl rfl rfl) h

/-- In every run of careful calls a Gateway that is on a cluster has its permissions there. -/
theorem permissions_kept (fold : Text.CaseFold) (run : List Event)
    (h : Run.Always (step fold) (SharesCarefully fold) {} run) :
    Permitted (run.foldl (step fold) {}).works := by
  refine Run.invariant (P := fun hub : Hub => Permitted hub.works)
    (fun hub e hhub he => permitted_step hhub he) ?_ h
  rintro k ⟨w, hlive, -⟩
  cases hlive

/-- The condition on a call, checked work by work. -/
theorem careful_of_entries {c : PlaceCall} {hub : Hub}
    (halone : ∀ cluster ∈ placed fold hub c.upstream.metadata.key, cluster ∉ decided hub c.upstream →
      ∀ w ∈ works.entries, (parentOf w).isSome = true → w.metadata.ns = cluster →
        w.metadata.key = workKey fold c.upstream cluster)
    (hunmarked : ∀ cluster ∈ decided hub c.upstream, works.get (rbacKey cluster) ≠ none →
      (works.live (rbacKey cluster)).isSome = true) : Careful fold c hub works where
  alone _ cluster hplaced hleft k hused hns := by
    obtain ⟨w, hlive, hparent⟩ := hused
    have hget := (Objects.live_eq_some.1 hlive).1
    have hkey : w.metadata.key = k := Objects.key_of_get hget
    rw [← hkey]
    refine halone cluster hplaced hleft w (Objects.mem_entries.2 ?_) hparent ?_
    · exact (congrArg works.get hkey).trans hget
    · rw [← hns, ← hkey]
      rfl
  unmarked _ cluster hcluster hpresent :=
    Option.isSome_iff_exists.1 (hunmarked cluster hcluster hpresent)

/-- Two Gateways are on the cluster `c`, and the first one leaves `d`, which it has for itself. -/
def sharingRun : List Event :=
  [decisionsFor ["c", "d"] ["c"], .place (placedBy 0 "x" "first") [],
    .place (placedBy 0 "y" "second") [],
    .report ⟨"d", "gateway-a-x"⟩ { conditions := [⟨manifestApplied, true, "", "", 0⟩] },
    decisionsFor ["c"] ["c"], .place (placedBy 0 "x" "first") []]

/-- Both Gateways have their permissions on `c`, and those on `d` are gone. -/
theorem permissions_kept_shared :
    let works := (sharingRun.foldl (step .ascii) {}).works
    Permitted works ∧ (works.live ⟨"c", "gateway-a-x"⟩).isSome = true ∧
      (works.live ⟨"c", "gateway-a-y"⟩).isSome = true ∧ works.get (rbacKey "d") = none := by
  refine ⟨permissions_kept .ascii sharingRun ⟨trivial, ⟨?_, ?_⟩, ⟨?_, ?_⟩, trivial, trivial, ⟨?_, ?_⟩,
    trivial⟩, by decide, by decide, by decide⟩
  · exact ⟨⟨by decide, by decide⟩, ⟨by decide, by decide⟩⟩
  · exact careful_of_entries (by decide) (by decide)
  · exact ⟨⟨by decide, by decide⟩, ⟨by decide, by decide⟩⟩
  · exact careful_of_entries (by decide) (by decide)
  · exact ⟨⟨by decide, by decide⟩, ⟨by decide, by decide⟩⟩
  · exact careful_of_entries (by decide) (by decide)

/-- The call of an event returns without an error. -/
def Event.succeeds (fold : Text.CaseFold) (hub : Hub) : Event → Bool
  | .place c faults => (Placement.place fold c ⟨hub, faults⟩).1.isOk
  | _ => true

/-- Two Gateways are on a cluster whose `ManagedCluster` is gone; one of them leaves it and takes the
    permissions along. -/
theorem permissions_gone :
    let run := [decisionsFor ["c"] ["c"], .place (placedBy 0 "x" "first") [],
      .place (placedBy 0 "y" "second") [],
      .report ⟨"c", "gateway-a-x"⟩ { conditions := [⟨manifestApplied, true, "", "", 0⟩] },
      decisionsFor [] ["c"], .place (placedBy 0 "x" "first") []]
    let hub := run.foldl (step .ascii) {}
    Run.Always (step .ascii) (fun hub e => e.succeeds .ascii hub = true) {} run ∧
      (hub.works.live ⟨"c", "gateway-a-y"⟩).bind parentOf = some "a/y" ∧
      hub.works.get (rbacKey "c") = none :=
  ⟨⟨rfl, rfl, rfl, rfl, rfl, rfl, trivial⟩, rfl, rfl⟩

end MultiClusterGateway.Placement
