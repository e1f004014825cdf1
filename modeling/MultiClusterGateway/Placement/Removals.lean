import MultiClusterGateway.Lib.Regions
import MultiClusterGateway.Placement.Success

set_option autoImplicit false

/-! # Removals and each other

The state of a cluster that a Gateway is to leave says what should happen to the Gateway's work
there: it goes at once, its grace period begins, or it stays for now. The works of a cluster are a
region of the hub (`Lib/Regions`), and a call without faults makes the changes of the regions it gets
to. It does not get to all of them, since the loop over the clusters to leave ends at the first one
with a grace period that is not over: which of the others are left depends on the order. -/

namespace MultiClusterGateway.Placement

open Regions

/-- The works by their keys. -/
abbrev Works := ObjectKey → Option ManifestWork

/-! ## What the state of a cluster calls for -/

/-- The work is created, or gets the spec. -/
def written (m : ManifestWork) : Option ManifestWork → Option ManifestWork
  | none => some m
  | some mw => some { mw with spec := m.spec }

/-- The work goes, or is marked if it has finalizers. -/
def deleted : Option ManifestWork → Option ManifestWork
  | none => none
  | some mw => if mw.metadata.finalizers = [] then none else some (workKind.mark true mw)

/-- What is to be done about a work on a cluster that the Gateway is to leave. -/
inductive Due where
  | delete
  | start
  | wait
deriving DecidableEq

/-- A work on a cluster that is gone is deleted without a grace period. -/
def due (now : Nat) (gone : Bool) (mw : ManifestWork) : Due :=
  if gone then .delete
  else
    match graceEnd mw with
    | none => .start
    | some t => if t ≤ (unix now : Int) then .delete else .wait

/-- What is then found in place of the work. -/
def Due.apply (now : Nat) : Due → Option ManifestWork → Option ManifestWork
  | .delete => deleted
  | .start => Option.map (withGrace now)
  | .wait => fun found => found

/-- What `GracefulDelete` returns. -/
def Due.result : Due → Except ApiError Unit
  | .delete => .ok ()
  | .start => .error errGracePeriodNotExpired
  | .wait => .error errGracePeriodNotExpired

section

variable (fold : Text.CaseFold) (c : PlaceCall)

/-- What happens on a cluster decided on. -/
def arrival (cluster : String) (works : Works) : Works :=
  alter (workKey fold c.upstream cluster)
    (written (gatewayWork fold c.upstream c.downstream c.children cluster))
    (alter (rbacKey cluster) (written (rbacWork cluster)) works)

/-- What happens on a cluster to leave: the permissions go after the work. -/
def Due.leave (cluster : String) (d : Due) (works : Works) : Works :=
  let left := alter (workKey fold c.upstream cluster) (d.apply c.now) works
  match d with
  | .delete => alter (rbacKey cluster) deleted left
  | .start => left
  | .wait => left

/-- What the state of a cluster to leave calls for. -/
def departure (managed : List String) (cluster : String) (works : Works) : Works :=
  match works (workKey fold c.upstream cluster) with
  | none => works
  | some mw => (due c.now (decide (cluster ∉ managed)) mw).leave fold c cluster works

/-- The clusters to leave. -/
def departures (hub : Hub) : List String :=
  (placed fold hub c.upstream.metadata.key).filter (fun cluster => cluster ∉ decided hub c.upstream)

/-- The work on the cluster has a grace period that is not over, or not begun. -/
def waits (hub : Hub) (cluster : String) : Bool :=
  match hub.works.get (workKey fold c.upstream cluster) with
  | none => false
  | some mw => due c.now (decide (cluster ∉ hub.managedClusters)) mw != .delete

end

/-- The elements up to the first with `p`, which is the last one. -/
def upTo {α : Type} (p : α → Bool) : List α → List α
  | [] => []
  | a :: rest => if p a then [a] else a :: upTo p rest

section

variable {α : Type} {p : α → Bool} {l : List α}

theorem mem_of_mem_upTo {a : α} (h : a ∈ upTo p l) : a ∈ l := by
  induction l with
  | nil => exact h
  | cons b rest ih =>
      unfold upTo at h
      split at h
      · exact List.mem_singleton.1 h ▸ List.mem_cons_self
      · rcases List.mem_cons.1 h with rfl | h
        · exact List.mem_cons_self
        · exact List.mem_cons_of_mem b (ih h)

theorem upTo_cons_of_pos {a : α} (h : p a = true) : upTo p (a :: l) = [a] := if_pos h

/-- All of the list is gone through, or there is an element with `p` among those that are. -/
theorem upTo_eq_or : upTo p l = l ∨ ∃ a ∈ upTo p l, p a = true := by
  induction l with
  | nil => exact Or.inl rfl
  | cons b rest ih =>
      unfold upTo
      split
      · rename_i hb
        exact Or.inr ⟨b, List.mem_singleton_self b, hb⟩
      · rcases ih with h | ⟨a, ha, hpa⟩
        · exact Or.inl (by rw [h])
        · exact Or.inr ⟨a, List.mem_cons_of_mem b ha, hpa⟩

end

/-! ## Changes keep to their cluster -/

section

variable {fold : Text.CaseFold} {c : PlaceCall} {cluster : String}

theorem local_arrival : Local ObjectKey.ns cluster (arrival fold c cluster) := by
  have hrbac : Local ObjectKey.ns cluster (alter (rbacKey cluster) (written (rbacWork cluster))) :=
    Local.alter (k := rbacKey cluster) rfl _
  have hwork : Local ObjectKey.ns cluster (alter (workKey fold c.upstream cluster)
      (written (gatewayWork fold c.upstream c.downstream c.children cluster))) :=
    Local.alter (k := workKey fold c.upstream cluster) rfl _
  exact hrbac.comp hwork

theorem local_leave (d : Due) : Local ObjectKey.ns cluster (d.leave fold c cluster) := by
  have hwork : Local ObjectKey.ns cluster
      (alter (workKey fold c.upstream cluster) (d.apply c.now)) :=
    Local.alter (k := workKey fold c.upstream cluster) rfl _
  have hrbac : Local ObjectKey.ns cluster (alter (rbacKey cluster) deleted) :=
    Local.alter (k := rbacKey cluster) rfl _
  cases d with
  | delete => exact hwork.comp hrbac
  | start => exact hwork
  | wait => exact hwork

theorem local_departure {managed : List String} :
    Local ObjectKey.ns cluster (departure fold c managed cluster) := by
  refine Local.read (k := workKey fold c.upstream cluster) rfl
    (g := fun found works => match found with
      | none => works
      | some mw => (due c.now (decide (cluster ∉ managed)) mw).leave fold c cluster works) ?_
  intro found
  cases found with
  | none => exact Local.id
  | some mw => exact local_leave _

/-! ## Calls that are served -/

/-- With all calls served, the computation returns `r` and leaves `works`. -/
def Leaves (x : Api Hub Unit) (s : Hub) (r : Except ApiError Unit) (works : Works) : Prop :=
  ∃ objects : Objects workKind,
    x ⟨s, []⟩ = (r, ⟨{ s with works := objects }, []⟩) ∧ objects.get = works

theorem leaves_pure (s : Hub) : Leaves (pure ()) s (.ok ()) s.works.get := ⟨s.works, rfl, rfl⟩

theorem Leaves.bind {x y : Api Hub Unit} {s : Hub} {r : Except ApiError Unit} {works works' : Works}
    (hx : Leaves x s (.ok ()) works)
    (hy : ∀ s' : Hub, s'.works.get = works → s'.managedClusters = s.managedClusters →
      Leaves y s' r works') : Leaves (x >>= fun _ => y) s r works' := by
  obtain ⟨objects, hx, hget⟩ := hx
  obtain ⟨objects', hy, hget'⟩ := hy { s with works := objects } hget rfl
  exact ⟨objects', (Effect.bind_of_ok hx).trans hy, hget'⟩

theorem Leaves.bind_error {x : Api Hub Unit} {y : Unit → Api Hub Unit} {s : Hub} {e : ApiError}
    {works : Works} (hx : Leaves x s (.error e) works) : Leaves (x >>= y) s (.error e) works := by
  obtain ⟨objects, hx, hget⟩ := hx
  exact ⟨objects, Effect.bind_of_error hx, hget⟩

variable {s : Hub} {k : ObjectKey} {mw : ManifestWork}

theorem getWork_of_found (hget : s.works.get k = some mw) :
    getWork k ⟨s, []⟩ = (.ok mw, ⟨s, []⟩) := by
  rw [← Objects.find_eq_ok.2 hget]
  exact Api.get_of_no_faults k s

/-- Writing a work that keeps its key, mark and finalizers. -/
theorem get_put_eq_alter {mw' : ManifestWork} {change : Option ManifestWork → Option ManifestWork}
    (hget : s.works.get k = some mw) (hkey : workKind.key mw' = k)
    (hchange : (if workKind.marked mw' = true ∧ workKind.finalizers mw' = [] then none
      else some mw') = change (some mw)) :
    (s.works.put mw').get = alter k change s.works.get := by
  funext k'
  rw [Objects.get_put, alter_apply, hkey, hchange]
  by_cases hk : k' = k
  · rw [if_pos hk, if_pos hk, hk, hget]
  · rw [if_neg hk, if_neg hk]

theorem leaves_updateWork {mw' : ManifestWork}
    {change : Option ManifestWork → Option ManifestWork} (hget : s.works.get k = some mw)
    (hkey : workKind.key mw' = k) (hmarked : workKind.marked mw' = workKind.marked mw)
    (hfinalizers : workKind.finalizers mw' = workKind.finalizers mw)
    (hchange : change (some mw) = some mw') :
    Leaves (updateWork mw') s (.ok ()) (alter k change s.works.get) := by
  have hfound : s.works.get (workKind.key mw') ≠ none := by
    rw [hkey, hget]
    exact Option.some_ne_none mw
  have hkept : ¬ (workKind.marked mw' = true ∧ workKind.finalizers mw' = []) := by
    rw [hmarked, hfinalizers]
    exact fun h => Objects.finalizers_ne_nil hget h.1 h.2
  refine ⟨s.works.put mw', Api.update_of_no_faults hfound, get_put_eq_alter hget hkey ?_⟩
  rw [if_neg hkept, hchange]

theorem leaves_deleteWork (hget : s.works.get k = some mw) :
    Leaves (deleteWork k) s (.ok ()) (alter k deleted s.works.get) := by
  refine ⟨s.works.put (workKind.mark true mw), Api.delete_of_no_faults hget,
    get_put_eq_alter hget ((workKind.key_mark true mw).trans (Objects.key_of_get hget)) ?_⟩
  simp only [workKind.marked_mark, workKind.finalizers_mark, true_and]
  rfl

/-- A deletion that need not find anything. -/
theorem leaves_ignoreNotFound_deleteWork (s : Hub) (k : ObjectKey) :
    Leaves (Api.ignoreNotFound (deleteWork k)) s (.ok ()) (alter k deleted s.works.get) := by
  unfold Api.ignoreNotFound
  cases hget : s.works.get k with
  | none =>
      have hdelete : deleteWork k ⟨s, []⟩ = (.error (Objects.notFound k), ⟨s, []⟩) :=
        Api.delete_of_missing hget
      refine ⟨s.works, ?_, ?_⟩
      · rw [Effect.bind_of_ok (Effect.attempt_apply _ _), hdelete]
        rfl
      · unfold alter
        rw [hget]
        exact (Function.update_eq_self_iff.2 hget.symm).symm
  | some mw =>
      obtain ⟨objects, hdelete, hobjects⟩ := leaves_deleteWork hget
      refine ⟨objects, ?_, hobjects⟩
      rw [Effect.bind_of_ok (Effect.attempt_apply _ _), hdelete]
      rfl

/-! ## The rounds of the loops -/

theorem leaves_createUpdateManifest {m : ManifestWork} (hm : workKind.marked m = false) (s : Hub) :
    Leaves (createUpdateManifest m) s (.ok ())
      (alter (workKind.key m) (written m) s.works.get) := by
  cases hget : s.works.get (workKind.key m) with
  | none =>
      refine ⟨s.works.put m, createUpdateManifest_of_free hm hget, ?_⟩
      funext k
      rw [Objects.get_put, alter_apply, if_neg (c := _ ∧ _) fun h => by simp [hm] at h]
      by_cases hk : k = workKind.key m
      · rw [if_pos hk, if_pos hk, hk, hget]
        rfl
      · rw [if_neg hk, if_neg hk]
  | some mw =>
      have happly : createUpdateManifest m ⟨s, []⟩ = (if mw.spec = m.spec then pure ()
          else updateWork { mw with spec := m.spec } : Api Hub Unit) ⟨s, []⟩ := by
        unfold createUpdateManifest
        rw [Effect.bind_of_ok (Effect.attempt_apply _ _),
          show getWork m.metadata.key ⟨s, []⟩ = _ from getWork_of_found hget]
      unfold Leaves
      rw [happly]
      split
      · rename_i hspec
        refine ⟨s.works, rfl, ?_⟩
        have hsame : written m (some mw) = some mw := by
          rw [written, ← hspec]
        unfold alter
        rw [hget, hsame]
        exact (Function.update_eq_self_iff.2 hget.symm).symm
      · exact leaves_updateWork hget (Objects.key_of_get (v := mw) hget) rfl rfl rfl

theorem leaves_addTo (s : Hub) :
    Leaves (addTo fold c cluster) s (.ok ()) (arrival fold c cluster s.works.get) := by
  refine (leaves_createUpdateManifest rfl s).bind fun s' hs' _ => ?_
  have hwork := leaves_createUpdateManifest
    (m := gatewayWork fold c.upstream c.downstream c.children cluster) rfl s'
  rw [hs'] at hwork
  exact hwork

theorem leaves_gracefulDelete (now : Nat) (gone : Bool) (hget : s.works.get k = some mw) :
    Leaves (gracefulDelete now k gone) s (due now gone mw).result
      (alter k ((due now gone mw).apply now) s.works.get) := by
  have hstart : Leaves (startGracePeriod now mw) s (.error errGracePeriodNotExpired)
      (alter k (Option.map (withGrace now)) s.works.get) := by
    obtain ⟨objects, hupdate, hobjects⟩ : Leaves (updateWork (withGrace now mw)) s (.ok ())
        (alter k (Option.map (withGrace now)) s.works.get) :=
      leaves_updateWork hget (Objects.key_of_get (v := mw) hget) rfl rfl rfl
    exact ⟨objects, Effect.bind_of_ok hupdate, hobjects⟩
  have hwait : Leaves (Effect.fail errGracePeriodNotExpired) s (.error errGracePeriodNotExpired)
      (alter k (fun found => found) s.works.get) :=
    ⟨s.works, rfl, (Function.update_eq_self k s.works.get).symm⟩
  unfold Leaves gracefulDelete
  rw [Effect.bind_of_ok (getWork_of_found hget)]
  unfold due graceEnd
  cases gone with
  | true => exact leaves_deleteWork hget
  | false =>
      rw [if_neg Bool.false_ne_true, if_neg Bool.false_ne_true]
      cases mw.metadata.annotations.get? graceTimestampAnnotation with
      | none => exact hstart
      | some value =>
          dsimp only [Option.bind_some]
          cases Text.parseInt64 value with
          | none => exact hstart
          | some t =>
              by_cases hdue : t ≤ (unix now : Int)
              · simp only [if_pos hdue]
                exact leaves_deleteWork hget
              · simp only [if_neg hdue]
                exact hwait

theorem leaves_removeFrom (hget : s.works.get (workKey fold c.upstream cluster) = some mw) :
    Leaves (removeFrom fold c cluster) s
      (due c.now (decide (cluster ∉ s.managedClusters)) mw).result
      (departure fold c s.managedClusters cluster s.works.get) := by
  have hrest : Leaves
      (do
        gracefulDelete c.now (workKey fold c.upstream cluster)
          (decide (cluster ∉ s.managedClusters))
        Api.ignoreNotFound (deleteWork (rbacKey cluster)))
      s (due c.now (decide (cluster ∉ s.managedClusters)) mw).result
      (departure fold c s.managedClusters cluster s.works.get) := by
    have hgrace := leaves_gracefulDelete c.now (decide (cluster ∉ s.managedClusters)) hget
    unfold departure
    rw [hget]
    dsimp only
    generalize due c.now (decide (cluster ∉ s.managedClusters)) mw = d at hgrace
    cases d with
    | delete =>
        refine hgrace.bind fun s' hs' _ => ?_
        have hrbac := leaves_ignoreNotFound_deleteWork s' (rbacKey cluster)
        rw [hs'] at hrbac
        exact hrbac
    | start => exact hgrace.bind_error
    | wait => exact hgrace.bind_error
  have hfound : getWork ⟨cluster, workName fold c.upstream.metadata.key⟩ ⟨s, []⟩
      = (.ok mw, ⟨s, []⟩) := getWork_of_found hget
  have hcluster : getManagedCluster cluster ⟨s, []⟩ = (if cluster ∈ s.managedClusters then .ok ()
      else .error ⟨.notFound, cluster ++ " not found"⟩, ⟨s, []⟩) := Api.read_of_no_faults _ s
  unfold Leaves removeFrom
  rw [Effect.bind_of_ok hfound, Effect.bind_of_ok (Effect.attempt_apply _ _), hcluster]
  by_cases hmanaged : cluster ∈ s.managedClusters
  · rw [if_pos hmanaged]
    rw [decide_eq_false (not_not.2 hmanaged)] at hrest ⊢
    exact hrest
  · rw [if_neg hmanaged]
    rw [decide_eq_true hmanaged] at hrest ⊢
    exact hrest

/-! ## The loops -/

theorem leaves_addAll {targets : List String} (htargets : targets.Nodup) (s : Hub) :
    Leaves (Effect.forEach targets (addTo fold c)) s (.ok ())
      (each ObjectKey.ns (arrival fold c) targets s.works.get) := by
  induction targets generalizing s with
  | nil =>
      rw [each_nil]
      exact leaves_pure s
  | cons cluster rest ih =>
      obtain ⟨hcluster, hrest⟩ := List.nodup_cons.1 htargets
      refine (leaves_addTo s).bind fun s' hs' _ => ?_
      rw [each_cons (fun _ => local_arrival) hcluster, ← hs']
      exact ih hrest s'

/-- The loop over the clusters to leave gets as far as the first one that waits. -/
theorem leaves_removeAll {hub : Hub} {removals : List String} (hremovals : removals.Nodup)
    (hmanaged : s.managedClusters = hub.managedClusters)
    (hsame : ∀ cluster ∈ removals, s.works.get (workKey fold c.upstream cluster)
      = hub.works.get (workKey fold c.upstream cluster))
    (hfound : ∀ cluster ∈ removals, hub.works.get (workKey fold c.upstream cluster) ≠ none) :
    ∃ r, Leaves (Effect.forEach removals (removeFrom fold c)) s r
        (each ObjectKey.ns (departure fold c hub.managedClusters)
          (upTo (waits fold c hub) removals) s.works.get) ∧
      ∀ e, r = .error e → e = errGracePeriodNotExpired := by
  induction removals generalizing s with
  | nil =>
      refine ⟨.ok (), ?_, fun e he => nomatch he⟩
      rw [upTo, each_nil]
      exact leaves_pure s
  | cons cluster rest ih =>
      obtain ⟨hcluster, hrest⟩ := List.nodup_cons.1 hremovals
      obtain ⟨mw, hmw⟩ := Option.ne_none_iff_exists'.1 (hfound cluster List.mem_cons_self)
      have hget := (hsame cluster List.mem_cons_self).trans hmw
      have hround := leaves_removeFrom hget
      rw [hmanaged] at hround
      by_cases hdue : due c.now (decide (cluster ∉ hub.managedClusters)) mw = .delete
      · have hwaits : waits fold c hub cluster = false := by
          simp only [waits, hmw, hdue, bne_self_eq_false]
        rw [hdue] at hround
        obtain ⟨objects, hround, hobjects⟩ := hround
        have hsame' (cl : String) (hcl : cl ∈ rest) :
            objects.get (workKey fold c.upstream cl) = hub.works.get (workKey fold c.upstream cl) := by
          have hne : (workKey fold c.upstream cl).ns ≠ cluster := fun h => hcluster (h ▸ hcl)
          rw [hobjects, local_departure.outside _ _ hne]
          exact hsame cl (List.mem_cons_of_mem cluster hcl)
        obtain ⟨r, ⟨objects', hrounds, hobjects'⟩, hr⟩ := ih (s := { s with works := objects })
          hrest hmanaged hsame' fun cl hcl => hfound cl (List.mem_cons_of_mem cluster hcl)
        refine ⟨r, ⟨objects', (Effect.bind_of_ok hround).trans hrounds, ?_⟩, hr⟩
        rw [upTo, if_neg (by simp [hwaits]),
          each_cons (fun _ => local_departure) fun h => hcluster (mem_of_mem_upTo h), ← hobjects]
        exact hobjects'
      · have hwaits : waits fold c hub cluster = true := by
          simp only [waits, hmw, bne_iff_ne]
          exact hdue
        rw [upTo_cons_of_pos hwaits, each_cons (fun _ => local_departure) List.not_mem_nil, each_nil]
        refine ⟨.error errGracePeriodNotExpired, ?_, fun e he => (Except.error.inj he).symm⟩
        have hresult : (due c.now (decide (cluster ∉ hub.managedClusters)) mw).result
            = .error errGracePeriodNotExpired := by
          generalize due c.now (decide (cluster ∉ hub.managedClusters)) mw = d at hdue
          cases d with
          | delete => exact absurd rfl hdue
          | start => rfl
          | wait => rfl
        rw [hresult] at hround
        exact hround.bind_error

/-! ## A call without faults -/

theorem listDecisions_served (hub : Hub) (ns : String) (selector : Labels) :
    listDecisions ns selector ⟨hub, []⟩
      = (.ok (hub.decisions.filter (fun d => d.ns == ns && d.labels.matches selector)),
        ⟨hub, []⟩) :=
  Api.read_of_no_faults _ hub

theorem getClusters_served {hub : Hub} {gw : GatewayObject} (h : Decided hub gw) :
    getClusters gw ⟨hub, []⟩ = (.ok (decided hub gw), ⟨hub, []⟩) := by
  unfold getClusters decided
  by_cases hlabel : selectedPlacement gw = ""
  · rw [if_pos hlabel, if_pos hlabel]
    rfl
  · rw [if_neg hlabel, if_neg hlabel, Effect.bind_of_ok (listDecisions_served hub _ _),
      if_neg (h.resolve_left hlabel)]
    rfl

theorem getClusters_undecided {hub : Hub} {gw : GatewayObject} (h : ¬ Decided hub gw) :
    getClusters gw ⟨hub, []⟩ = (.error (noDecisions (selectedPlacement gw)), ⟨hub, []⟩) := by
  obtain ⟨hlabel, hnone⟩ := not_or.1 h
  unfold getClusters
  rw [if_neg hlabel, Effect.bind_of_ok (listDecisions_served hub _ _), if_pos (not_not.1 hnone)]
  rfl

theorem nodup_departures {hub : Hub} : (departures fold c hub).Nodup :=
  (List.nodup_dedup _).filter _

/-- The works once the Gateway has arrived on the clusters decided on. -/
def arrived (fold : Text.CaseFold) (c : PlaceCall) (hub : Hub) : Works :=
  each ObjectKey.ns (arrival fold c) (decided hub c.upstream) hub.works.get

/-- What is left of a call when the Gateway has arrived on the clusters decided on. -/
theorem place_served (fold : Text.CaseFold) {hub : Hub}
    (hkeeps : c.upstream.metadata.deletionTimestamp = false)
    (hdecided : Decided hub c.upstream) :
    ∃ (s : Hub) (clusters : List String), s.works.get = arrived fold c hub ∧
      s.managedClusters = hub.managedClusters ∧
      place fold c ⟨hub, []⟩ = (do
        Effect.forEach (c.orders.removals.visit (departures fold c hub)) (removeFrom fold c)
        return clusters : Api Hub (List String)) ⟨s, []⟩ := by
  have hnodup : (c.orders.targets.visit (decided hub c.upstream)).Nodup := by
    refine (c.orders.targets.perm _).nodup_iff.2 ?_
    unfold decided
    split
    · exact List.nodup_nil
    · exact List.nodup_dedup _
  obtain ⟨objects, hadd, hobjects⟩ : Leaves _ hub _ _ :=
    leaves_addAll (c := c) hnodup hub
  have hplaced : getPlacedClusters fold c.upstream.metadata.key ⟨hub, []⟩
      = (.ok (placed fold hub c.upstream.metadata.key), ⟨hub, []⟩) :=
    Effect.bind_of_ok (Api.list_of_no_faults _ hub)
  refine ⟨{ hub with works := objects },
    ((placed fold hub c.upstream.metadata.key).filter (· ∈ decided hub c.upstream) ++
      decided hub c.upstream).dedup, ?_, rfl, ?_⟩
  · exact hobjects.trans (each_congr fun _ => c.orders.targets.mem_visit)
  · unfold place
    rw [Effect.bind_of_ok (getClusters_served hdecided), Effect.bind_of_ok hplaced, hkeeps,
      if_neg Bool.false_ne_true, Effect.bind_of_ok hadd]
    rfl

/-- Before the loop over them, the clusters to leave are as they were. -/
theorem arrived_of_notMem {hub : Hub} {k : ObjectKey} (hk : k.ns ∉ decided hub c.upstream) :
    arrived fold c hub k = hub.works.get k := each_of_notMem hk

theorem notMem_decided {hub : Hub} (h : cluster ∈ departures fold c hub) :
    cluster ∉ decided hub c.upstream := by
  simpa using (List.mem_filter.1 h).2

/-- A call that finds all it looks for. -/
theorem place_found {hub : Hub} (hkeeps : c.upstream.metadata.deletionTimestamp = false)
    (hdecided : Decided hub c.upstream)
    (hfound : ∀ cluster ∈ departures fold c hub,
      hub.works.get (workKey fold c.upstream cluster) ≠ none) :
    (place fold c ⟨hub, []⟩).2.state.works.get
        = each ObjectKey.ns (departure fold c hub.managedClusters)
          (upTo (waits fold c hub) (c.orders.removals.visit (departures fold c hub)))
          (arrived fold c hub) ∧
      ∀ e, (place fold c ⟨hub, []⟩).1 = .error e → e = errGracePeriodNotExpired := by
  obtain ⟨s, clusters, hs, hmanaged, hplace⟩ := place_served fold hkeeps hdecided
  have hmem {cluster : String} : cluster ∈ c.orders.removals.visit (departures fold c hub) ↔
      cluster ∈ departures fold c hub := c.orders.removals.mem_visit
  obtain ⟨r, ⟨objects, hremove, hobjects⟩, hr⟩ := leaves_removeAll
    ((c.orders.removals.perm (departures fold c hub)).nodup_iff.2 nodup_departures) hmanaged
    (fun cluster hcluster => by
      rw [hs]
      exact arrived_of_notMem (notMem_decided (hmem.1 hcluster)))
    fun cluster hcluster => hfound cluster (hmem.1 hcluster)
  rw [hs] at hobjects
  rw [hplace]
  cases r with
  | ok u =>
      rw [Effect.bind_of_ok hremove]
      exact ⟨hobjects, fun e he => nomatch he⟩
  | error e =>
      rw [Effect.bind_of_error hremove]
      exact ⟨hobjects, fun e' he' => hr e' (congrArg Except.error (Except.error.inj he'))⟩

/-- A call that begins its removals with a cluster without a work under the Gateway's name. -/
theorem place_missing {hub : Hub} {rest : List String}
    (hkeeps : c.upstream.metadata.deletionTimestamp = false) (hdecided : Decided hub c.upstream)
    (hfirst : c.orders.removals.visit (departures fold c hub) = cluster :: rest)
    (hcluster : cluster ∉ decided hub c.upstream)
    (hmissing : hub.works.get (workKey fold c.upstream cluster) = none) :
    (place fold c ⟨hub, []⟩).1 = .error (Objects.notFound (workKey fold c.upstream cluster)) := by
  obtain ⟨s, clusters, hs, -, hplace⟩ := place_served fold hkeeps hdecided
  have hfree : s.works.get (workKey fold c.upstream cluster) = none := by
    rw [hs]
    exact (arrived_of_notMem hcluster).trans hmissing
  have hget : getWork (workKey fold c.upstream cluster) ⟨s, []⟩
      = (.error (Objects.notFound (workKey fold c.upstream cluster)), ⟨s, []⟩) := by
    rw [← Objects.find_eq_error.2 ⟨hfree, rfl⟩]
    exact Api.get_of_no_faults _ s
  have hremove : Effect.forEach (cluster :: rest) (removeFrom fold c) ⟨s, []⟩
      = (.error (Objects.notFound (workKey fold c.upstream cluster)), ⟨s, []⟩) :=
    Effect.bind_of_error (Effect.bind_of_error hget)
  rw [hplace, hfirst, Effect.bind_of_error hremove]

end

/-! ## The orders -/

/-- The call, with the sets gone through in another order. -/
def PlaceCall.inOrder (c : PlaceCall) (orders : Orders) : PlaceCall := { c with orders := orders }

/-- The works after a call without faults. -/
def worksAfter (fold : Text.CaseFold) (c : PlaceCall) (hub : Hub) (orders : Orders) : Works :=
  (place fold (c.inOrder orders) ⟨hub, []⟩).2.state.works.get

/-- In no order does a call fail for another reason than a grace period. -/
def Clean (fold : Text.CaseFold) (c : PlaceCall) (hub : Hub) : Prop :=
  ∀ orders e, (place fold (c.inOrder orders) ⟨hub, []⟩).1 = .error e →
    e.kind = .gracePeriodNotExpired

/-- Whatever the order, the same works are left, and each cluster to leave is as its own state calls
    for. -/
structure RemovalsIndependent (fold : Text.CaseFold) (c : PlaceCall) (hub : Hub) : Prop where
  sameWorks : ∀ orders orders' : Orders,
    worksAfter fold c hub orders = worksAfter fold c hub orders'
  ownState : ∀ (orders : Orders), ∀ cluster ∈ departures fold c hub, ∀ k : ObjectKey,
    k.ns = cluster → worksAfter fold c hub orders k
      = departure fold c hub.managedClusters cluster hub.works.get k

/-- Nothing is to be done about the cluster. -/
def Settled (fold : Text.CaseFold) (c : PlaceCall) (hub : Hub) (cluster : String) : Prop :=
  departure fold c hub.managedClusters cluster hub.works.get = hub.works.get

section

variable {fold : Text.CaseFold} {c : PlaceCall} {hub : Hub}

/-- Any element can be the first. -/
theorem exists_first {a : String} {l : List String} (h : a ∈ l) :
    ∃ (orders : Orders) (rest : List String), orders.removals.visit l = a :: rest := by
  obtain ⟨front, back, rfl⟩ := List.append_of_mem h
  refine ⟨{ removals := .rotated front.length }, back ++ front, ?_⟩
  exact List.rotate_append_length_eq front (a :: back)

/-- A call fails for other reasons if there is no decision, or no work under the Gateway's name on a
    cluster to leave. -/
theorem clean_iff (hkeeps : c.upstream.metadata.deletionTimestamp = false) :
    Clean fold c hub ↔ Decided hub c.upstream ∧ ∀ cluster ∈ departures fold c hub,
      hub.works.get (workKey fold c.upstream cluster) ≠ none := by
  constructor
  · intro hclean
    have hdecided : Decided hub c.upstream := by
      by_contra hundecided
      have hplace : place fold (c.inOrder {}) ⟨hub, []⟩ = (.error _, _) :=
        Effect.bind_of_error (getClusters_undecided hundecided)
      exact nomatch hclean {} _ (congrArg Prod.fst hplace)
    refine ⟨hdecided, fun cluster hcluster hnone => ?_⟩
    obtain ⟨orders, rest, hfirst⟩ := exists_first hcluster
    exact nomatch hclean orders _
      (place_missing hkeeps hdecided hfirst (notMem_decided hcluster) hnone)
  · rintro ⟨hdecided, hfound⟩ orders e he
    rw [(place_found (c := c.inOrder orders) hkeeps hdecided hfound).2 e he]
    rfl

/-- On a cluster to leave, the arrivals elsewhere make no difference. -/
theorem departure_arrived {cluster : String} {k : ObjectKey} (hk : k.ns = cluster)
    (hcluster : cluster ∈ departures fold c hub) :
    departure fold c hub.managedClusters cluster (arrived fold c hub) k
      = departure fold c hub.managedClusters cluster hub.works.get k :=
  local_departure.inside _ _ (fun _ hk' => arrived_of_notMem (hk' ▸ notMem_decided hcluster)) k hk

theorem Settled.departure_arrived {cluster : String} (h : Settled fold c hub cluster)
    (hcluster : cluster ∈ departures fold c hub) :
    departure fold c hub.managedClusters cluster (arrived fold c hub) = arrived fold c hub := by
  funext k
  by_cases hk : k.ns = cluster
  · rw [Placement.departure_arrived hk hcluster, show departure _ _ _ _ _ = _ from h,
      arrived_of_notMem (hk ▸ notMem_decided hcluster)]
  · exact local_departure.outside _ k hk

end

/-- Removals do not wait for each other exactly if, when one of the clusters to leave waits for its
    grace period, there is nothing to be done about any other. -/
theorem removals_independent_iff (fold : Text.CaseFold) (c : PlaceCall) (hub : Hub)
    (hkeeps : c.upstream.metadata.deletionTimestamp = false) (hclean : Clean fold c hub) :
    RemovalsIndependent fold c hub ↔ ∀ waiting ∈ departures fold c hub,
      waits fold c hub waiting = true →
        ∀ other ∈ departures fold c hub, other ≠ waiting → Settled fold c hub other := by
  obtain ⟨hdecided, hfound⟩ := (clean_iff hkeeps).1 hclean
  have hafter (orders : Orders) : worksAfter fold c hub orders
      = each ObjectKey.ns (departure fold c hub.managedClusters)
        (upTo (waits fold c hub) (orders.removals.visit (departures fold c hub)))
        (arrived fold c hub) :=
    (place_found (c := c.inOrder orders) hkeeps hdecided hfound).1
  constructor
  · intro hindependent waiting hwaiting hwaits other hother hne
    -- one order begins with the cluster that waits, another with the other one
    obtain ⟨orders, rest, hfirst⟩ := exists_first hwaiting
    obtain ⟨orders', rest', hfirst'⟩ := exists_first hother
    funext k
    by_cases hk : k.ns = other
    · have hsame := congrFun (hindependent.sameWorks orders' orders) k
      have hfirstHandled : k.ns ∈ upTo (waits fold c hub) (other :: rest') := by
        rw [hk, upTo]
        split
        · exact List.mem_singleton_self other
        · exact List.mem_cons_self
      rw [hafter, hafter, hfirst, hfirst', upTo_cons_of_pos hwaits, each_of_mem hfirstHandled,
        each_of_notMem (by simpa [hk] using hne), hk, departure_arrived hk hother,
        arrived_of_notMem (hk ▸ notMem_decided hother)] at hsame
      exact hsame
    · exact local_departure.outside _ k hk
  · intro hsettled
    have hall (orders : Orders) : worksAfter fold c hub orders
        = each ObjectKey.ns (departure fold c hub.managedClusters) (departures fold c hub)
          (arrived fold c hub) := by
      rw [hafter orders]
      refine each_of_quiet (fun cluster hcluster => ?_) fun cluster hcluster hleft => ?_
      · exact orders.removals.mem_visit.1 (mem_of_mem_upTo hcluster)
      · -- the loop has stopped at a cluster that waits
        rcases upTo_eq_or (p := waits fold c hub)
          (l := orders.removals.visit (departures fold c hub)) with hupTo | ⟨a, ha, hwaits⟩
        · rw [hupTo, orders.removals.mem_visit] at hleft
          exact absurd hcluster hleft
        · have hne : cluster ≠ a := fun h => hleft (h ▸ ha)
          have hmem := orders.removals.mem_visit.1 (mem_of_mem_upTo ha)
          exact (hsettled a hmem hwaits cluster hcluster hne).departure_arrived hcluster
    refine ⟨fun orders orders' => (hall orders).trans (hall orders').symm, ?_⟩
    rintro orders cluster hcluster k rfl
    rw [hall orders, each_of_mem hcluster, departure_arrived rfl hcluster]

/-- A Gateway without a placement. -/
def leavingCall : PlaceCall where
  now := 0
  upstream := { metadata := { name := "web", ns := "prod" } }
  downstream := { metadata := { name := "web", ns := "kuadrant-prod" } }

/-- Its work on a cluster. -/
def leavingWork (cluster : String) : ManifestWork where
  metadata := {
    name := "gateway-prod-web", ns := cluster, labels := [(workManifestLabel, "gateway-prod-web")] }
  status := { conditions := [⟨manifestApplied, true, "", "", 0⟩] }

/-- The work is applied on two clusters whose `ManagedCluster`s are gone. -/
def goneHub : Hub where
  works := ((∅ : Objects workKind).put (leavingWork "one")).put (leavingWork "two")
  managedClusters := []

/-- Both works go at once, whichever comes first. -/
theorem removals_independent_gone :
    departures .ascii leavingCall goneHub = ["one", "two"] ∧
      RemovalsIndependent .ascii leavingCall goneHub := by
  have hclean : Clean .ascii leavingCall goneHub :=
    (clean_iff rfl).2 ⟨Or.inl (by decide), by decide +kernel⟩
  have hnone : ∀ waiting ∈ departures .ascii leavingCall goneHub,
      waits .ascii leavingCall goneHub waiting = false := by decide +kernel
  refine ⟨by decide +kernel, (removals_independent_iff .ascii leavingCall goneHub rfl hclean).2 ?_⟩
  intro waiting hwaiting hwaits
  exact absurd ((hnone waiting hwaiting).symm.trans hwaits) Bool.false_ne_true

/-- The work is applied on two clusters. The `ManagedCluster` of the one is gone; on the other the
    grace period has not begun. -/
def leavingHub : Hub where
  works := ((∅ : Objects workKind).put (leavingWork "gone")).put (leavingWork "slow")
  managedClusters := ["slow"]

/-- The work on the cluster that is gone should go at once, and stays if the other cluster comes
    first. -/
theorem removal_waits_for_another :
    Clean .ascii leavingCall leavingHub ∧
      worksAfter .ascii leavingCall leavingHub {} ⟨"gone", "gateway-prod-web"⟩ = none ∧
      (worksAfter .ascii leavingCall leavingHub { removals := .reversed }
        ⟨"gone", "gateway-prod-web"⟩).isSome = true := by
  refine ⟨(clean_iff rfl).2 ⟨Or.inl (by decide), by decide +kernel⟩, ?_, ?_⟩
  · decide +kernel
  · decide +kernel

end MultiClusterGateway.Placement
