import MultiClusterGateway.HealthCheck.Controller
import MultiClusterGateway.Lib.Heap

set_option autoImplicit false

/-! # The health monitor (`pkg/health/monitor.go`, `pkg/health/probeQueuer.go`)

The monitor holds a slice of pointers to queuers. A queuer that is listed is started, and its
goroutine runs until the queuer is stopped; the pointer to it may be gone from the slice by then, so
the queuers live on a heap. `Monitor.Sound` is what the operations keep: the listed queuers run under
different ids, and every other one has been cancelled.

Updating a queuer changes it in place, while its goroutine goes on; removing one stops it and takes
it off the slice. The goroutines themselves are not modelled beyond whether they were started and
whether their context is cancelled, and neither is the shutdown of the monitor. The mutex makes
every operation one step. -/

namespace MultiClusterGateway.HealthCheck

open Heap (Ptr)

/-! ## Queuers -/

/-- `HealthProtocol`. -/
inductive HealthProtocol where
  | http
  | https
deriving DecidableEq, Repr

/-- `NewHealthProtocol`, with the upper case of a rune; whatever is not HTTPS is HTTP. -/
def newHealthProtocol (upper : Char → Char) (p : String) : HealthProtocol :=
  if p.toList.map upper = "HTTPS".toList then .https else .http

/-- `ProbeNotifier`: writes the status, with or without metrics. -/
inductive ProbeNotifier where
  | statusUpdate (probeObjKey : ObjectKey)
  | instrumented (gatewayName gatewayNamespace listener : String) (probeObjKey : ObjectKey)
deriving DecidableEq, Repr

/-- `ProbeQueuer`: a goroutine that queues a request for a probe at each interval. -/
structure ProbeQueuer where
  id : String
  interval : Int
  protocol : HealthProtocol
  path : String
  ipAddress : String
  host : String
  port : Int
  additionalHeaders : List AdditionalHeader
  expectedResponses : List Int
  allowInsecureCertificate : Bool
  notifier : ProbeNotifier
  started : Bool := false
  /-- the context of the goroutine is cancelled -/
  cancelled : Bool := false
deriving DecidableEq, Repr

instance : Inhabited ProbeQueuer :=
  ⟨"", 0, .http, "", "", "", 0, [], [], false, .statusUpdate ⟨"", ""⟩, false, false⟩

namespace ProbeQueuer

/-- `Start`; a second one does nothing. -/
def start (q : ProbeQueuer) : ProbeQueuer := if q.started then q else { q with started := true }

/-- `Stop`. -/
def stop (q : ProbeQueuer) : ProbeQueuer := if q.started then { q with cancelled := true } else q

/-- The queuer has been started and its goroutine runs. -/
def Running (q : ProbeQueuer) : Prop := q.started = true ∧ q.cancelled = false

@[simp] theorem id_start (q : ProbeQueuer) : q.start.id = q.id := by
  unfold start
  split
  · rfl
  · rfl

@[simp] theorem id_stop (q : ProbeQueuer) : q.stop.id = q.id := by
  unfold stop
  split
  · rfl
  · rfl

theorem cancelled_stop {q : ProbeQueuer} (h : q.started = true) : q.stop.cancelled = true := by
  rw [stop, if_pos h]

end ProbeQueuer

/-! ## The monitor -/

/-- `Monitor`, with its queuers on a heap. -/
structure Monitor where
  heap : Heap ProbeQueuer
  probeQueuers : List Ptr

namespace Monitor

/-- `NewMonitor`. -/
def new : Monitor := ⟨⟨[]⟩, []⟩

/-- `HasProbe`. -/
def hasProbe (m : Monitor) (id : String) : Bool :=
  m.probeQueuers.any (fun p => (m.heap.read p).id == id)

/-- `UpdateProbe`. -/
def updateProbe (m : Monitor) (id : String) (update : ProbeQueuer → ProbeQueuer) : Monitor :=
  { m with heap := m.heap.modifyWhere m.probeQueuers (fun q => q.id == id) update }

/-- Whether the queuer was added; one with an id that is listed is not. -/
def addProbeQueuer (m : Monitor) (probeQueuer : ProbeQueuer) : Bool × Monitor :=
  let (p, heap) := m.heap.alloc probeQueuer
  if m.hasProbe probeQueuer.id then (false, { m with heap := heap })
  else (true, ⟨heap.modify p ProbeQueuer.start, m.probeQueuers ++ [p]⟩)

/-- `RemoveProbe`: the queuers with the id are stopped and not listed any more. -/
def removeProbe (m : Monitor) (id : String) : Monitor :=
  let (heap, updatedProbes) := m.probeQueuers.foldl (fun s p =>
    if (s.1.read p).id = id then (s.1.modify p ProbeQueuer.stop, s.2) else (s.1, s.2 ++ [p]))
    (m.heap, [])
  ⟨heap, updatedProbes⟩

/-- The listed queuers run under different ids, and all others are cancelled. -/
structure Sound (m : Monitor) : Prop where
  lt_size : ∀ p ∈ m.probeQueuers, p < m.heap.size
  ids : (m.probeQueuers.map (fun p => (m.heap.read p).id)).Nodup
  running : ∀ p ∈ m.probeQueuers, (m.heap.read p).Running
  cancelled : ∀ p, p < m.heap.size → p ∉ m.probeQueuers → (m.heap.read p).cancelled = true

theorem sound_new : Sound new :=
  ⟨fun _ h => absurd h List.not_mem_nil, List.nodup_nil, fun _ h => absurd h List.not_mem_nil,
    fun _ h => absurd h (Nat.not_lt_zero _)⟩

variable {m : Monitor}

theorem hasProbe_iff {id : String} :
    m.hasProbe id = true ↔ ∃ p ∈ m.probeQueuers, (m.heap.read p).id = id := by
  simp [hasProbe]

theorem Sound.nodup (hm : m.Sound) : m.probeQueuers.Nodup := List.Nodup.of_map _ hm.ids

theorem Sound.eq_of_id (hm : m.Sound) {p p' : Ptr} (hp : p ∈ m.probeQueuers)
    (hp' : p' ∈ m.probeQueuers) (hid : (m.heap.read p).id = (m.heap.read p').id) : p = p' :=
  List.inj_on_of_nodup_map hm.ids hp hp' hid

/-! ### Updates -/

theorem read_updateProbe (hm : m.Sound) (id : String) (update : ProbeQueuer → ProbeQueuer) (p : Ptr) :
    (m.updateProbe id update).heap.read p
      = if p ∈ m.probeQueuers ∧ (m.heap.read p).id = id then update (m.heap.read p)
        else m.heap.read p := by
  unfold updateProbe
  simp only [Heap.read_modifyWhere hm.nodup _ _ hm.lt_size, beq_iff_eq]

/-- An update changes neither whether a queuer runs nor its id. -/
theorem sound_updateProbe (hm : m.Sound) (id : String) {update : ProbeQueuer → ProbeQueuer}
    (hid : ∀ q, (update q).id = q.id) (hstarted : ∀ q, (update q).started = q.started)
    (hcancelled : ∀ q, (update q).cancelled = q.cancelled) : (m.updateProbe id update).Sound := by
  have hread := read_updateProbe hm id update
  have hsize : (m.updateProbe id update).heap.size = m.heap.size := Heap.size_modifyWhere _ _ _ _
  refine ⟨fun p hp => ?_, ?_, fun p hp => ?_, fun p hp hunlisted => ?_⟩
  · rw [hsize]
    exact hm.lt_size p hp
  · have hids : ∀ p, ((m.updateProbe id update).heap.read p).id = (m.heap.read p).id := by
      intro p
      rw [hread]
      split
      · exact hid _
      · rfl
    simp only [hids]
    exact hm.ids
  · have hrunning := hm.running p hp
    rw [hread]
    split
    · exact ⟨(hstarted _).trans hrunning.1, (hcancelled _).trans hrunning.2⟩
    · exact hrunning
  · rw [hread, if_neg fun h => hunlisted h.1]
    exact hm.cancelled p (hsize ▸ hp) hunlisted

/-! ### Additions -/

theorem addProbeQueuer_eq {q : ProbeQueuer} (h : m.hasProbe q.id = false) :
    m.addProbeQueuer q
      = (true, ⟨(m.heap.alloc q.start).2, m.probeQueuers ++ [m.heap.size]⟩) := by
  unfold addProbeQueuer
  rw [h]
  show (true, Monitor.mk ((m.heap.alloc q).2.modify m.heap.size _) _) = _
  rw [Heap.modify_alloc_self]
  rfl

theorem sound_addProbeQueuer (hm : m.Sound) {q : ProbeQueuer} (h : m.hasProbe q.id = false)
    (hq : q.start.Running) : (m.addProbeQueuer q).2.Sound := by
  rw [addProbeQueuer_eq h]
  have hold : ∀ p ∈ m.probeQueuers, (m.heap.alloc q.start).2.read p = m.heap.read p :=
    fun p hp => Heap.read_alloc_of_lt _ _ (hm.lt_size p hp)
  refine ⟨fun p hp => ?_, ?_, fun p hp => ?_, fun p hp hunlisted => ?_⟩
  · rw [Heap.size_alloc]
    rcases List.mem_append.1 hp with hp | hp
    · exact Nat.lt_succ_of_lt (hm.lt_size p hp)
    · rw [List.mem_singleton.1 hp]
      exact Nat.lt_succ_self _
  · have hmap : (m.probeQueuers ++ [m.heap.size]).map
        (fun p => ((m.heap.alloc q.start).2.read p).id)
        = m.probeQueuers.map (fun p => (m.heap.read p).id) ++ [q.id] := by
      rw [List.map_append, List.map_congr_left fun p hp => by rw [hold p hp]]
      simp
    rw [hmap]
    refine List.nodup_append.2 ⟨hm.ids, List.nodup_singleton _, ?_⟩
    rintro a ha b hb rfl
    obtain ⟨p, hp, hid⟩ := List.mem_map.1 ha
    rw [List.mem_singleton.1 hb] at hid
    exact absurd (hasProbe_iff.2 ⟨p, hp, hid⟩) (by simp [h])
  · rcases List.mem_append.1 hp with hp | hp
    · rw [hold p hp]
      exact hm.running p hp
    · rw [List.mem_singleton.1 hp, Heap.read_alloc_self]
      exact hq
  · rw [Heap.size_alloc] at hp
    have hne : p ≠ m.heap.size := fun heq => hunlisted (by simp [heq])
    have hlt : p < m.heap.size := by omega
    rw [Heap.read_alloc_of_lt _ _ hlt]
    exact hm.cancelled p hlt fun hp => hunlisted (List.mem_append_left _ hp)

/-! ### Removals -/

theorem id_read_modify_stop {heap : Heap ProbeQueuer} {p : Ptr} (hp : p < heap.size) (p' : Ptr) :
    ((heap.modify p ProbeQueuer.stop).read p').id = (heap.read p').id := by
  by_cases hpp : p = p'
  · subst hpp
    rw [Heap.read_modify_self heap _ hp, ProbeQueuer.id_stop]
  · rw [Heap.read_modify_of_ne heap _ hpp]

/-- The loop stops the queuers with the id and lists the others. -/
theorem removeProbe_eq (hm : m.Sound) (id : String) :
    m.removeProbe id = ⟨m.heap.modifyWhere m.probeQueuers (fun q => q.id == id) ProbeQueuer.stop,
      m.probeQueuers.filter (fun p => (m.heap.read p).id != id)⟩ := by
  suffices h : ∀ (ptrs acc : List Ptr) (heap : Heap ProbeQueuer), (∀ p ∈ ptrs, p < heap.size) →
      ptrs.foldl (fun s p => if (s.1.read p).id = id then (s.1.modify p ProbeQueuer.stop, s.2)
        else (s.1, s.2 ++ [p])) (heap, acc)
        = (heap.modifyWhere ptrs (fun q => q.id == id) ProbeQueuer.stop,
          acc ++ ptrs.filter (fun p => (heap.read p).id != id)) by
    simp [removeProbe, h _ _ _ hm.lt_size]
  intro ptrs
  induction ptrs with
  | nil => simp
  | cons p ptrs ih =>
      intro acc heap hlt
      obtain ⟨hp, hlt⟩ := List.forall_mem_cons.1 hlt
      by_cases hid : (heap.read p).id = id
      · have hlt' : ∀ r ∈ ptrs, r < (heap.modify p ProbeQueuer.stop).size := by simpa using hlt
        simp [hid, ih _ _ hlt', id_read_modify_stop hp]
      · simp [hid, ih _ _ hlt]

theorem mem_removeProbe (hm : m.Sound) {id : String} {p : Ptr} :
    p ∈ (m.removeProbe id).probeQueuers ↔ p ∈ m.probeQueuers ∧ (m.heap.read p).id ≠ id := by
  rw [removeProbe_eq hm]
  simp

theorem read_removeProbe (hm : m.Sound) (id : String) (p : Ptr) :
    (m.removeProbe id).heap.read p
      = if p ∈ m.probeQueuers ∧ (m.heap.read p).id = id then (m.heap.read p).stop
        else m.heap.read p := by
  rw [removeProbe_eq hm]
  simp only [Heap.read_modifyWhere hm.nodup _ _ hm.lt_size, beq_iff_eq]

/-- What stays listed is not touched. -/
theorem read_removeProbe_of_mem (hm : m.Sound) {id : String} {p : Ptr}
    (hp : p ∈ (m.removeProbe id).probeQueuers) :
    (m.removeProbe id).heap.read p = m.heap.read p := by
  rw [read_removeProbe hm, if_neg fun h => ((mem_removeProbe hm).1 hp).2 h.2]

theorem sound_removeProbe (hm : m.Sound) (id : String) : (m.removeProbe id).Sound := by
  have hsize : (m.removeProbe id).heap.size = m.heap.size := by
    rw [removeProbe_eq hm]
    exact Heap.size_modifyWhere _ _ _ _
  refine ⟨fun p hp => ?_, ?_, fun p hp => ?_, fun p hp hunlisted => ?_⟩
  · rw [hsize]
    exact hm.lt_size p ((mem_removeProbe hm).1 hp).1
  · rw [List.map_congr_left fun p hp => by rw [read_removeProbe_of_mem hm hp]]
    rw [removeProbe_eq hm]
    exact hm.ids.sublist (List.filter_sublist.map _)
  · rw [read_removeProbe_of_mem hm hp]
    exact hm.running p ((mem_removeProbe hm).1 hp).1
  · rw [read_removeProbe hm]
    rw [mem_removeProbe hm, not_and, not_not] at hunlisted
    by_cases hlisted : p ∈ m.probeQueuers
    · rw [if_pos ⟨hlisted, hunlisted hlisted⟩]
      exact ProbeQueuer.cancelled_stop (hm.running p hlisted).1
    · rw [if_neg fun h => hlisted h.1]
      exact hm.cancelled p (hsize ▸ hp) hlisted

end Monitor

end MultiClusterGateway.HealthCheck
