import MultiClusterGateway.Placement.Runs

set_option autoImplicit false

/-! # The grace period of a cluster that a Gateway leaves

Timed runs of the calls for one Gateway that is not being deleted, with the history of what each call
found decided for one cluster. The end of a grace period is written in an annotation when a call
first finds the cluster left, and nothing takes it away when the Gateway comes back. As long as it
never comes back within a grace period, a work is deleted only after a full one: at a resolution of
seconds, the one of the annotation. -/

namespace MultiClusterGateway.Placement

variable {fold : Text.CaseFold} {cluster : String}

/-! ## Timed runs -/

/-- The calls so far, last first: when, and whether the cluster was decided on. -/
abbrev History := List (Nat × Bool)

/-- The hub and the calls that led to it. -/
structure Timed where
  hub : Hub
  history : History := []

/-- A step, with its call written down. -/
def timedStep (fold : Text.CaseFold) (cluster : String) (s : Timed) (e : Event) : Timed where
  hub := step fold s.hub e
  history := match e with
    | .place c _ => (c.now, decide (cluster ∈ decided s.hub c.upstream)) :: s.history
    | _ => s.history

/-- The annotation that says when the work may be deleted. -/
def graceTimeout (w : ManifestWork) : Option String :=
  w.metadata.annotations.get? graceTimestampAnnotation

/-- A call for the Gateway `g`: it is not being deleted, no call was later, the `ManagedCluster` is
    there, and the Gateway is not decided back onto the cluster within a grace period. -/
structure Orderly (fold : Text.CaseFold) (g : ObjectKey) (cluster : String) (s : Timed)
    (c : PlaceCall) : Prop where
  upstream : c.upstream.metadata.key = g
  keeps : c.upstream.metadata.deletionTimestamp = false
  later : ∀ call ∈ s.history, call.1 ≤ c.now
  managed : cluster ∈ s.hub.managedClusters
  settled : cluster ∈ decided s.hub c.upstream →
    ∀ w, s.hub.works.live ⟨cluster, workName fold g⟩ = some w → graceTimeout w = none

/-- All calls are orderly; of other events nothing is asked. -/
def OrderlyStep (fold : Text.CaseFold) (g : ObjectKey) (cluster : String) (s : Timed) :
    Event → Prop
  | .place c _ => Orderly fold g cluster s c
  | _ => True

/-- `DefaultGracePeriod` in seconds. -/
def graceSeconds : Nat := 600

/-- The Gateway has been off the cluster for a whole grace period, in seconds of the clock. -/
def Earned (history : History) (now : Nat) : Prop :=
  (∀ call ∈ history, unix now < unix call.1 + graceSeconds → call.2 = false) ∧
    ∃ call ∈ history, call.2 = false ∧ unix call.1 + graceSeconds ≤ unix now

/-! ## Annotations -/

/-- A work has no end of a grace period, or that of one which began at a call since which the
    Gateway has been off the cluster. -/
def Started (history : History) (w : ManifestWork) : Prop :=
  graceTimeout w = none ∨ ∃ newer older now, history = newer ++ (now, false) :: older ∧
    (∀ call ∈ newer, call.2 = false) ∧ graceTimeout w = some (graceDeadline now)

theorem Started.cons {history : History} {w : ManifestWork} (h : Started history w) (now : Nat) :
    Started ((now, false) :: history) w := by
  rcases h with h | ⟨newer, older, start, rfl, hnewer, h⟩
  · exact Or.inl h
  · refine Or.inr ⟨(now, false) :: newer, older, start, rfl, ?_, h⟩
    intro call hcall
    rcases List.mem_cons.1 hcall with rfl | hcall
    · rfl
    · exact hnewer call hcall

theorem Started.withGrace (history : History) (now : Nat) (w : ManifestWork) :
    Started ((now, false) :: history) (withGrace now w) := by
  refine Or.inr ⟨[], history, now, rfl, fun call hcall => (nomatch hcall), ?_⟩
  simp [graceTimeout, Placement.withGrace, addAnnotation, Labels.get?, Labels.set]

theorem unix_add_gracePeriod (now : Nat) :
    unix (now + defaultGracePeriod) = unix now + graceSeconds := by
  have hsecond : 0 < second := by
    unfold second
    omega
  exact Nat.add_mul_div_right now graceSeconds hsecond

/-- A grace period that is over has lasted its time. -/
theorem Started.earned {history : History} {w : ManifestWork} {now : Nat}
    (h : Started history w) (hsorted : history.Pairwise fun a b => b.1 ≤ a.1)
    (hexpired : Expired now w) : Earned history now := by
  obtain ⟨t, hend, hle⟩ := hexpired
  rcases h with h | ⟨newer, older, start, rfl, hnewer, h⟩
  · unfold graceTimeout at h
    rw [graceEnd, h] at hend
    cases hend
  · have hstart : unix start + graceSeconds ≤ unix now := by
      unfold graceTimeout at h
      rw [graceEnd, h, Option.bind_some, graceDeadline, unix_add_gracePeriod] at hend
      have ht := Text.parseInt64_toString hend
      omega
    refine ⟨fun call hcall hrecent => ?_, (start, false), by simp, rfl, hstart⟩
    rcases List.mem_append.1 hcall with hcall | hcall
    · exact hnewer call hcall
    · rcases List.mem_cons.1 hcall with rfl | hcall
      · rfl
      · -- a call before the start is too long ago
        have holder : call.1 ≤ start :=
          (List.pairwise_cons.1 (List.pairwise_append.1 hsorted).2.1).1 call hcall
        have : unix call.1 ≤ unix start := Nat.div_le_div_right holder
        omega

/-! ## Steps -/

/-- The annotation of the work under `k` stays true to the history, and the work is not deleted
    before its time. -/
structure OnTime (k : ObjectKey) (history : History) (now : Nat) (works works' : Objects workKind) :
    Prop where
  started : ∀ w, works'.live k = some w → Started history w
  earned : (works.live k).isSome = true → (works'.live k).isSome = true ∨ Earned history now

section

variable {k : ObjectKey} {history : History} {now : Nat} {works works' : Objects workKind}
  {mw mw' : ManifestWork}

theorem OnTime.refl (hstarted : ∀ w, works.live k = some w → Started history w) :
    OnTime k history now works works :=
  ⟨hstarted, Or.inl⟩

theorem OnTime.trans {works'' : Objects workKind} (h : OnTime k history now works works')
    (h' : OnTime k history now works' works'') : OnTime k history now works works'' :=
  ⟨h'.started, fun hlive => (h.earned hlive).elim h'.earned Or.inr⟩

theorem OnTime.put_of_ne (hstarted : ∀ w, works.live k = some w → Started history w)
    (hkey : k ≠ workKind.key mw) : OnTime k history now works (works.put mw) := by
  have hlive : (works.put mw).live k = works.live k := Objects.live_put_of_ne hkey
  exact ⟨hlive ▸ hstarted, fun h => Or.inl (hlive ▸ h)⟩

/-- A new work. -/
theorem OnTime.put_new (hkey : workKind.key mw = k) (hmarked : workKind.marked mw = false)
    (hmw : Started history mw) : OnTime k history now works (works.put mw) := by
  have hlive : (works.put mw).live k = some mw := Objects.live_put_self hkey hmarked
  refine ⟨fun w hw => ?_, fun _ => Or.inl (by rw [hlive]; rfl)⟩
  cases hlive.symm.trans hw
  exact hmw

/-- Another version of a work. -/
theorem OnTime.put_version (hget : works.get k = some mw)
    (hkey : workKind.key mw' = workKind.key mw) (hmarked : workKind.marked mw' = workKind.marked mw)
    (hmw : workKind.marked mw = false → Started history mw') :
    OnTime k history now works (works.put mw') := by
  have hk : workKind.key mw' = k := hkey.trans (Objects.key_of_get hget)
  cases hm : workKind.marked mw with
  | false => exact OnTime.put_new hk (hmarked.trans hm) (hmw hm)
  | true =>
      have hnone : works.live k = none := by
        unfold Objects.live
        rw [hget]
        simp [hm]
      refine ⟨fun w hw => ?_, fun hlive => ?_⟩
      · rw [Objects.live_put_marked hk (hmarked.trans hm)] at hw
        cases hw
      · rw [hnone] at hlive
        cases hlive

end

/-- A change of an orderly call is on time. -/
theorem Change.onTime {g : ObjectKey} {s : Timed} {c : PlaceCall} {works works' : Objects workKind}
    {history : History} (h : Change fold c s.hub works works') (hg : g.Valid)
    (hcall : Orderly fold g cluster s c)
    (hhistory : history = (c.now, decide (cluster ∈ decided s.hub c.upstream)) :: s.history)
    (hsorted : history.Pairwise fun a b => b.1 ≤ a.1)
    (hstarted : ∀ w, works.live ⟨cluster, workName fold g⟩ = some w → Started history w) :
    OnTime ⟨cluster, workName fold g⟩ history c.now works works' := by
  have hrbac {cl : String} : (⟨cluster, workName fold g⟩ : ObjectKey) ≠ rbacKey cl :=
    fun h => workName_ne_rbacManifest hg (congrArg ObjectKey.name h)
  have hwork {cl : String} (hne : cl ≠ cluster) :
      (⟨cluster, workName fold g⟩ : ObjectKey) ≠ workKey fold c.upstream cl :=
    fun h => hne (congrArg ObjectKey.ns h).symm
  have hsame : workKey fold c.upstream cluster = ⟨cluster, workName fold g⟩ := by
    rw [workKey, hcall.upstream]
  -- a live work under the key is what the change has read there
  have hread {mw : ManifestWork} (hget : works.get ⟨cluster, workName fold g⟩ = some mw)
      (hmarked : workKind.marked mw = false) : Started history mw :=
    hstarted mw (Objects.live_eq_some.2 ⟨hget, hmarked⟩)
  cases h with
  | createRBAC cl => exact .put_of_ne hstarted hrbac
  | updateRBAC cl mw _ hget => exact .put_of_ne hstarted (Objects.key_of_get hget ▸ hrbac)
  | createWork cl _ _ _ =>
      by_cases hcl : cl = cluster
      · subst hcl
        exact .put_new hsame rfl (Or.inl rfl)
      · exact .put_of_ne hstarted (hwork hcl)
  | updateWork cl mw spec _ _ hget =>
      by_cases hcl : cl = cluster
      · subst hcl
        rw [hsame] at hget
        exact .put_version hget rfl rfl fun hmarked =>
          show Started history mw from hread hget hmarked
      · exact .put_of_ne hstarted (Objects.key_of_get hget ▸ hwork hcl)
  | startGrace cl mw _ hleft hget =>
      by_cases hcl : cl = cluster
      · subst hcl
        rw [hsame] at hget
        refine .put_version hget rfl rfl fun _ => ?_
        rw [hhistory, decide_eq_false hleft]
        exact Started.withGrace s.history c.now mw
      · exact .put_of_ne hstarted (Objects.key_of_get hget ▸ hwork hcl)
  | deleteWork cl mw _ hleft hget =>
      by_cases hcl : cl = cluster
      · subst hcl
        rw [hsame] at hget
        have hgone : (works.put (workKind.mark true mw)).live ⟨cl, workName fold g⟩ = none :=
          Objects.live_put_marked ((workKind.key_mark true mw).trans (Objects.key_of_get hget))
            (workKind.marked_mark true mw)
        refine ⟨fun w hw => ?_, fun hlive => Or.inr ?_⟩
        · rw [hgone] at hw
          cases hw
        · obtain ⟨w, hw⟩ := Option.isSome_iff_exists.1 hlive
          obtain ⟨hget', hmarked⟩ := Objects.live_eq_some.1 hw
          cases hget.symm.trans hget'
          rcases (hleft hcall.keeps).2 with hmissing | hexpired
          · exact absurd hcall.managed hmissing
          · exact (hread hget hmarked).earned hsorted hexpired
      · refine .put_of_ne hstarted ?_
        rw [workKind.key_mark, Objects.key_of_get hget]
        exact hwork hcl
  | deleteRBAC cl mw _ _ _ _ hget =>
      refine .put_of_ne hstarted ?_
      rw [workKind.key_mark, Objects.key_of_get hget]
      exact hrbac

/-! ## Runs -/

/-- What holds of the hub and the history after every step. -/
structure Tracked (fold : Text.CaseFold) (g : ObjectKey) (cluster : String) (s : Timed) : Prop where
  sorted : s.history.Pairwise fun a b => b.1 ≤ a.1
  started : ∀ w, s.hub.works.live ⟨cluster, workName fold g⟩ = some w → Started s.history w

theorem timedStep_onTime {g : ObjectKey} {s : Timed} {c : PlaceCall} {faults : List (Option Fault)}
    (hg : g.Valid) (hs : Tracked fold g cluster s) (hcall : Orderly fold g cluster s c) :
    Tracked fold g cluster (timedStep fold cluster s (.place c faults)) ∧
      OnTime ⟨cluster, workName fold g⟩ (timedStep fold cluster s (.place c faults)).history c.now
        s.hub.works (timedStep fold cluster s (.place c faults)).hub.works := by
  have hsorted : (timedStep fold cluster s (.place c faults)).history.Pairwise
      fun a b => b.1 ≤ a.1 := List.pairwise_cons.2 ⟨hcall.later, hs.sorted⟩
  have hbefore : ∀ w, s.hub.works.live ⟨cluster, workName fold g⟩ = some w →
      Started (timedStep fold cluster s (.place c faults)).history w := by
    intro w hw
    show Started ((c.now, decide (cluster ∈ decided s.hub c.upstream)) :: s.history) w
    by_cases hdecided : cluster ∈ decided s.hub c.upstream
    · exact Or.inl (hcall.settled hdecided w hw)
    · rw [decide_eq_false hdecided]
      exact (hs.started w hw).cons c.now
  have honTime : OnTime ⟨cluster, workName fold g⟩
      (timedStep fold cluster s (.place c faults)).history c.now s.hub.works
      (timedStep fold cluster s (.place c faults)).hub.works := by
    refine step_preserves (I := OnTime ⟨cluster, workName fold g⟩
      (timedStep fold cluster s (.place c faults)).history c.now s.hub.works) (.refl hbefore) ?_ ?_
    · intro c' faults' heq works works' hworks hchange
      cases heq
      exact hworks.trans (hchange.onTime hg hcall rfl hsorted hworks.started)
    · intro k w w' _ hedit
      cases hedit
  exact ⟨⟨hsorted, honTime.started⟩, honTime⟩

theorem tracked_step {g : ObjectKey} {s : Timed} {e : Event} (hg : g.Valid)
    (hs : Tracked fold g cluster s) (he : OrderlyStep fold g cluster s e) :
    Tracked fold g cluster (timedStep fold cluster s e) := by
  -- what an agent writes has the annotations that it has read
  have hedit {k : ObjectKey} {f : ManifestWork → ManifestWork}
      (hf : ∀ w, workKind.key (f w) = workKind.key w ∧ workKind.marked (f w) = workKind.marked w ∧
        graceTimeout (f w) = graceTimeout w) :
      ∀ w, (s.hub.edit k f).works.live ⟨cluster, workName fold g⟩ = some w →
        Started s.history w := by
    refine edit_preserves (I := fun works => ∀ w,
      works.live ⟨cluster, workName fold g⟩ = some w → Started s.history w) hs.started ?_
    intro w hw
    obtain ⟨hkey, hmarked, htimeout⟩ := hf w
    by_cases hk : k = ⟨cluster, workName fold g⟩
    · subst hk
      have hversion : workKind.marked w = false → Started s.history (f w) := by
        intro hlive
        have hstarted := hs.started w (Objects.live_eq_some.2 ⟨hw, hlive⟩)
        unfold Started at hstarted ⊢
        rwa [htimeout]
      have honTime : OnTime _ s.history 0 s.hub.works (s.hub.works.put (f w)) :=
        .put_version hw hkey hmarked hversion
      exact honTime.started
    · rw [Objects.live_put_of_ne]
      · exact hs.started
      · rw [hkey, Objects.key_of_get hw]
        exact fun h => hk h.symm
  cases e with
  | place c faults => exact (timedStep_onTime hg hs he).1
  | setDecisions decisions => exact ⟨hs.sorted, hs.started⟩
  | setManagedClusters names => exact ⟨hs.sorted, hs.started⟩
  | report k status => exact ⟨hs.sorted, hedit fun w => ⟨rfl, rfl, rfl⟩⟩
  | setFinalizers k finalizers => exact ⟨hs.sorted, hedit fun w => ⟨rfl, rfl, rfl⟩⟩

/-- In every run of orderly calls a work is deleted only after a full grace period. -/
theorem full_grace_period (fold : Text.CaseFold) (g : ObjectKey) (hg : g.Valid) (cluster : String)
    (hub : Hub) (hnew : ∀ w, hub.works.live ⟨cluster, workName fold g⟩ = some w →
      graceTimeout w = none)
    (run : List Event) (c : PlaceCall) (faults : List (Option Fault))
    (hrun : Run.Always (timedStep fold cluster) (OrderlyStep fold g cluster) ⟨hub, []⟩
      (run ++ [.place c faults]))
    (hlive : ((run.foldl (timedStep fold cluster) ⟨hub, []⟩).hub.works.live
      ⟨cluster, workName fold g⟩).isSome = true)
    (hdeleted : ((run ++ [Event.place c faults]).foldl (timedStep fold cluster) ⟨hub, []⟩).hub.works.live
      ⟨cluster, workName fold g⟩ = none) :
    Earned ((run ++ [Event.place c faults]).foldl (timedStep fold cluster) ⟨hub, []⟩).history c.now := by
  obtain ⟨hrun, hcall⟩ := Run.always_append.1 hrun
  have htracked : Tracked fold g cluster (run.foldl (timedStep fold cluster) ⟨hub, []⟩) :=
    Run.invariant (P := Tracked fold g cluster) (fun s e hs he => tracked_step hg hs he)
      ⟨List.Pairwise.nil, fun w hw => Or.inl (hnew w hw)⟩ hrun
  rw [List.foldl_append] at hdeleted ⊢
  rcases (timedStep_onTime hg htracked hcall).2.earned hlive with hkept | hearned
  · rw [show (timedStep fold cluster _ (.place c faults)).hub.works.live _ = none from hdeleted]
      at hkept
    cases hkept
  · exact hearned

/-- The Gateway `x` is on cluster `c`, whose work is applied. -/
def onCluster : List Event :=
  [.setManagedClusters ["c"], decisionsFor ["c"] [], .place (placedBy 0 "x" "first") [],
    .report ⟨"c", "gateway-a-x"⟩ { conditions := [⟨manifestApplied, true, "", "", 0⟩] }]

/-- It leaves the cluster at ten seconds. -/
def leaves : List Event :=
  onCluster ++ [decisionsFor [] [], .place (placedBy (10 * second) "x" "first") []]

/-- It comes back at twenty seconds, and is still there at 990 seconds. -/
def comesBack : List Event :=
  leaves ++ [decisionsFor ["c"] [], .place (placedBy (20 * second) "x" "first") [],
    .place (placedBy (990 * second) "x" "first") [], decisionsFor [] []]

theorem full_grace_period_leaves :
    Earned ((leaves ++ [Event.place (placedBy (700 * second) "x" "first") []]).foldl
      (timedStep .ascii "c") ⟨{}, []⟩).history (700 * second) := by
  refine full_grace_period .ascii ⟨"a", "x"⟩ ⟨⟨by decide, by decide⟩, ⟨by decide, by decide⟩⟩ "c" {}
    (fun w hw => nomatch hw) leaves (placedBy (700 * second) "x" "first") []
    ⟨trivial, trivial, ⟨rfl, rfl, ?_, ?_, ?_⟩, trivial, trivial, ⟨rfl, rfl, ?_, ?_, ?_⟩,
      ⟨rfl, rfl, ?_, ?_, ?_⟩, trivial⟩ rfl rfl
  · exact fun call hcall => nomatch hcall
  · decide
  · exact fun _ w hw => nomatch hw
  · decide
  · decide
  · exact fun hdecided => absurd hdecided (by decide)
  · decide
  · decide
  · exact fun hdecided => absurd hdecided (by decide)

/-- When the Gateway leaves the cluster for the second time its work is deleted at once. -/
theorem deleted_at_once :
    let before := comesBack.foldl (timedStep .ascii "c") ⟨{}, []⟩
    let after := timedStep .ascii "c" before (.place (placedBy (1000 * second) "x" "first") [])
    (before.hub.works.live ⟨"c", "gateway-a-x"⟩).isSome = true ∧
      after.hub.works.live ⟨"c", "gateway-a-x"⟩ = none ∧
      (990 * second, true) ∈ after.history ∧ ¬ Earned after.history (1000 * second) := by
  have hcall : (990 * second, true) ∈ (timedStep .ascii "c"
      (comesBack.foldl (timedStep .ascii "c") ⟨{}, []⟩)
      (.place (placedBy (1000 * second) "x" "first") [])).history := by
    decide
  refine ⟨rfl, rfl, hcall, fun h => ?_⟩
  cases h.1 (990 * second, true) hcall (by decide)

end MultiClusterGateway.Placement
