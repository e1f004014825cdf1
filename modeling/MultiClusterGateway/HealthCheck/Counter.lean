import MultiClusterGateway.HealthCheck.Controller
import MultiClusterGateway.Lib.Optimistic
import MultiClusterGateway.Lib.Run

set_option autoImplicit false

/-! # The failure counter of a probe

One probe object, and everything that writes it: any number of notifications
(`StatusUpdateProbeNotifier.Notify`) and reconciles, each of them a read and a later write, and the
clients that change its spec and metadata. The steps are the calls to the API server, so that every
interleaving of them is a run. The worker's queue is there because a notification that loses a race
puts its request back.

The log notes the writes to the status that went through since the probe was created; nothing reads
it. `counter_exact` says what the status has to do with it after every run. -/

namespace MultiClusterGateway.HealthCheck.Counter

open Cell (Seen)

/-! ## Writes to the status -/

/-- A write to the status that went through. -/
inductive StatusWrite where
  | result (healthy : Bool)
  | headerError (kind : ErrorKind)
deriving DecidableEq, Repr

namespace StatusWrite

/-- Whether the write says that the address is healthy. -/
def verdict : StatusWrite → Bool
  | .result healthy => healthy
  | .headerError _ => false

/-- The write counts a failure; one for the headers does not. -/
def isFailure : StatusWrite → Bool
  | .result healthy => !healthy
  | .headerError _ => false

/-- The failures are counted from the last of these on. -/
def isReset : StatusWrite → Bool
  | .result healthy => healthy
  | .headerError kind => resetsFailures kind

/-- The unhealthy results since the last reset; the newest write is the first of the log. -/
def failures (log : List StatusWrite) : Nat :=
  (log.takeWhile (fun w => !w.isReset)).countP isFailure

theorem failures_cons (w : StatusWrite) (log : List StatusWrite) :
    failures (w :: log) = if w.isReset then 0
      else if w.isFailure then failures log + 1 else failures log := by
  unfold failures
  by_cases hreset : w.isReset
  · simp [hreset]
  · by_cases hfailure : w.isFailure
    · simp [hreset, hfailure]
    · simp [hreset, hfailure]

end StatusWrite

/-- The status says what the log says. -/
structure Exact (log : List StatusWrite) (status : DNSHealthCheckProbeStatus) : Prop where
  failures : status.consecutiveFailures = StatusWrite.failures log
  healthy : status.healthy = log.head?.map StatusWrite.verdict

/-- A probe that counts as healthy has no failures. -/
theorem Exact.zero {log : List StatusWrite} {status : DNSHealthCheckProbeStatus}
    (h : Exact log status) (hhealthy : status.healthy.getD true = true) :
    status.consecutiveFailures = 0 := by
  rw [h.failures]
  cases log with
  | nil => rfl
  | cons w log =>
      rw [h.healthy] at hhealthy
      cases w with
      | headerError kind => cases hhealthy
      | result healthy =>
          have hreset : StatusWrite.isReset (.result healthy) = true := hhealthy
          rw [StatusWrite.failures_cons, if_pos hreset]
          rfl

theorem Exact.recordResult {log : List StatusWrite} {status : DNSHealthCheckProbeStatus}
    (h : Exact log status) (result : ProbeResult) :
    Exact (.result result.healthy :: log) (recordResult result status) := by
  refine ⟨?_, rfl⟩
  rw [StatusWrite.failures_cons]
  unfold HealthCheck.recordResult
  cases hresult : result.healthy with
  | true => rfl
  | false =>
      by_cases hbefore : status.healthy.getD true = true
      · have hzero := h.zero hbefore
        rw [h.failures] at hzero
        simp [hbefore, StatusWrite.isReset, StatusWrite.isFailure, hzero]
      · simp [hbefore, StatusWrite.isReset, StatusWrite.isFailure, h.failures]

theorem Exact.headerError {log : List StatusWrite} {status status' : DNSHealthCheckProbeStatus}
    (h : Exact log status) {kind : ErrorKind} (now : Int)
    (hstatus : status'.consecutiveFailures
      = if resetsFailures kind then 0 else status.consecutiveFailures) :
    Exact (.headerError kind :: log) (recordHeaderError now status') := by
  refine ⟨?_, rfl⟩
  rw [StatusWrite.failures_cons]
  show status'.consecutiveFailures = _
  rw [hstatus, h.failures]
  by_cases hreset : resetsFailures kind
  · simp [hreset, StatusWrite.isReset]
  · simp [hreset, StatusWrite.isReset, StatusWrite.isFailure]

/-! ## Writes to the probe

The status is a subresource: it is written by `Status().Update` and by nothing else, and a new object
has none. -/

/-- The probe in a version. -/
abbrev Stored := Versioned DNSHealthCheckProbe

/-- A call that writes the probe on the condition that its version is the one that was read. -/
def conditionally (cell : Cell DNSHealthCheckProbe) (fault : Option Fault) (probeObj : Stored)
    (change : DNSHealthCheckProbe → DNSHealthCheckProbe) :
    Except ApiError (Cell DNSHealthCheckProbe) :=
  match fault, cell.stored with
  | some fault, _ => .error fault.error
  | none, none => .error (Objects.notFound probeObj.value.metadata.key)
  | none, some current =>
    if current.version = probeObj.version then .ok (cell.write (change current.value))
    else .error ⟨.conflict, "the object has been modified"⟩

/-- An object that is being deleted goes with its last finalizer. -/
def purge (cell : Cell DNSHealthCheckProbe) : Cell DNSHealthCheckProbe :=
  match cell.stored with
  | some current =>
    if current.value.metadata.deletionTimestamp ∧ current.value.metadata.finalizers = [] then
      cell.remove
    else cell
  | none => cell

/-- `Status().Update`. -/
def updateStatus (cell : Cell DNSHealthCheckProbe) (fault : Option Fault) (probeObj : Stored) :
    Except ApiError (Cell DNSHealthCheckProbe) :=
  conditionally cell fault probeObj fun current => { current with status := probeObj.value.status }

/-- `Update`. -/
def update (cell : Cell DNSHealthCheckProbe) (fault : Option Fault) (probeObj : Stored) :
    Except ApiError (Cell DNSHealthCheckProbe) :=
  (conditionally cell fault probeObj fun current =>
    { probeObj.value with status := current.status }).map purge

theorem purge_eq (cell : Cell DNSHealthCheckProbe) : purge cell = cell ∨ purge cell = cell.remove := by
  unfold purge
  split
  · split
    · exact Or.inr rfl
    · exact Or.inl rfl
  · exact Or.inl rfl

theorem conditionally_eq_ok {cell cell' : Cell DNSHealthCheckProbe} {fault : Option Fault}
    {probeObj : Stored} {change : DNSHealthCheckProbe → DNSHealthCheckProbe}
    (h : conditionally cell fault probeObj change = .ok cell') :
    ∃ current, cell.stored = some current ∧ current.version = probeObj.version ∧
      cell' = cell.write (change current.value) := by
  unfold conditionally at h
  split at h
  · cases h
  · cases h
  · rename_i current hstored
    split at h
    · rename_i hversion
      cases h
      exact ⟨current, hstored, hversion, rfl⟩
    · cases h

theorem update_eq_ok {cell cell' : Cell DNSHealthCheckProbe} {fault : Option Fault}
    {probeObj : Stored} (h : update cell fault probeObj = .ok cell') :
    ∃ current, cell.stored = some current ∧
      cell' = purge (cell.write { probeObj.value with status := current.value.status }) := by
  unfold update at h
  cases hwritten : conditionally cell fault probeObj fun current =>
      { probeObj.value with status := current.status } with
  | error e =>
      rw [hwritten] at h
      cases h
  | ok written =>
      rw [hwritten] at h
      cases h
      obtain ⟨current, hstored, -, rfl⟩ := conditionally_eq_ok hwritten
      exact ⟨current, hstored, rfl⟩

/-! ## The steps -/

/-- A goroutine, with what it has read. -/
inductive Execution where
  /-- `process` has made the request and calls `Notify`. -/
  | notify (result : ProbeResult)
  /-- `Notify` has read the probe. -/
  | notifying (probeObj : Stored) (result : ProbeResult)
  /-- `Reconcile` has read the probe. -/
  | reconciling (probeObj : Stored)

/-- The version it has read. -/
def Execution.probeObj : Execution → Option Stored
  | .notify _ => none
  | .notifying probeObj _ => some probeObj
  | .reconciling probeObj => some probeObj

/-- The probe, the queued requests, the goroutines by their ids, and the writes to the status since
    the probe was created, last first. -/
structure World where
  cell : Cell DNSHealthCheckProbe
  /-- how many requests for the probe are queued -/
  requests : Nat
  running : Nat → Option Execution
  log : List StatusWrite

/-- No probe, and nothing running. -/
def World.empty : World := ⟨.empty, 0, fun _ => none, []⟩

/-- The goroutine goes on, or ends. -/
def World.set (w : World) (id : Nat) (execution : Option Execution) : World :=
  { w with running := Function.update w.running id execution }

/-- What may happen next. A goroutine is named by a number that is free when it starts. -/
inductive Event where
  | create (metadata : ObjectMeta) (spec : DNSHealthCheckProbeSpec)
  /-- some other client writes the probe -/
  | edit (metadata : ObjectMeta) (spec : DNSHealthCheckProbeSpec)
  | delete
  | enqueueCheck
  | process (id : Nat) (result : ProbeResult)
  | notifyGet (id : Nat) (failed : Bool)
  | notifyUpdate (id : Nat) (fault : Option Fault)
  | reconcileGet (id : Nat)
  | reconcileUpdate (id : Nat) (fault : Option Fault)
  /-- the secret is `none` if there is no such secret -/
  | reconcileHeaders (id : Nat) (order : MapOrder) (secretFault : Option Fault)
      (secret : Option SecretData) (now : Int) (fault : Option Fault)

/-- The answer to the call for the secret. -/
def secretAnswer (key : ObjectKey) (fault : Option Fault) (secret : Option SecretData) :
    Except ApiError SecretData :=
  match fault, secret with
  | some fault, _ => .error fault.error
  | none, none => .error (Objects.notFound key)
  | none, some data => .ok data

theorem kind_secretAnswer_ne {key : ObjectKey} {fault : Option Fault} {secret : Option SecretData}
    {e : ApiError} (h : secretAnswer key fault secret = .error e) : e.kind ≠ .invalidHeader := by
  unfold secretAnswer at h
  split at h
  · rename_i fault
    cases h
    unfold Fault.error
    split
    · simp
    · simp
  · cases h
    simp [Objects.notFound]
  · cases h

/-- `Notify` from the status update on; a request that lost a race is queued again. -/
def notifyUpdate (w : World) (id : Nat) (fault : Option Fault) (probeObj : Stored)
    (result : ProbeResult) : World :=
  let status := recordResult result probeObj.value.status
  match updateStatus w.cell fault ⟨probeObj.version, { probeObj.value with status := status }⟩ with
  | .ok cell => { w.set id none with cell := cell, log := .result result.healthy :: w.log }
  | .error e =>
    if e.kind = .conflict then { w.set id none with requests := w.requests + 1 }
    else w.set id none

/-- The finalizers `Reconcile` writes: it removes its own from a probe that is being deleted, and
    adds it to any other one. -/
def finalizersAfter (metadata : ObjectMeta) : List String :=
  if metadata.deletionTimestamp then
    metadata.finalizers.filter (· != dnsHealthCheckProbeFinalizer)
  else metadata.finalizers ++ [dnsHealthCheckProbeFinalizer]

/-- The metadata that `Reconcile` needs no write for. -/
def isFinalized (metadata : ObjectMeta) : Bool :=
  !metadata.deletionTimestamp && metadata.finalizers.contains dnsHealthCheckProbeFinalizer

/-- `Reconcile` writes the finalizers. It is done then with a probe that is being deleted, and goes on
    with any other one as the server has answered it. -/
def reconcileUpdate (w : World) (id : Nat) (fault : Option Fault) (probeObj : Stored) : World :=
  if isFinalized probeObj.value.metadata then w
  else
    let metadata := { probeObj.value.metadata with
      finalizers := finalizersAfter probeObj.value.metadata }
    match update w.cell fault ⟨probeObj.version, { probeObj.value with metadata := metadata }⟩ with
    | .ok cell => { w with cell := cell }.set id
        (if metadata.deletionTimestamp then none else cell.stored.map .reconciling)
    | .error _ => w.set id none

/-- `Reconcile` from the headers on. Without an error it does not write the probe any more. -/
def reconcileHeaders (w : World) (id : Nat) (order : MapOrder) (secretFault : Option Fault)
    (secret : Option SecretData) (now : Int) (fault : Option Fault) (probeObj : Stored) : World :=
  match probeObj.value.spec.additionalHeadersRef with
  | none => w.set id none
  | some name =>
    let key : ObjectKey := ⟨probeObj.value.metadata.ns, name⟩
    match headersOf order key (secretAnswer key secretFault secret) probeObj.value.status with
    | (.ok _, _) => w.set id none
    | (.error e, status) =>
      match updateStatus w.cell fault
          ⟨probeObj.version, { probeObj.value with status := recordHeaderError now status }⟩ with
      | .ok cell => { w.set id none with cell := cell, log := .headerError e.kind :: w.log }
      | .error _ => w.set id none

/-- The world after an event. -/
def step (w : World) : Event → World
  | .create metadata spec =>
    match w.cell.stored with
    | some _ => w
    | none => { w with cell := w.cell.write ⟨metadata, spec, {}⟩, log := [] }
  | .edit metadata spec =>
    match w.cell.stored with
    | some current => { w with cell := purge (w.cell.write ⟨metadata, spec, current.value.status⟩) }
    | none => w
  | .delete =>
    match w.cell.stored with
    | some current => { w with cell := purge (w.cell.write (probeKind.mark true current.value)) }
    | none => w
  | .enqueueCheck => { w with requests := w.requests + 1 }
  | .process id result =>
    match w.requests, w.running id with
    | n + 1, none => { w.set id (some (.notify result)) with requests := n }
    | _, _ => w
  | .notifyGet id failed =>
    match w.running id, w.cell.stored with
    | some (.notify result), some probeObj =>
      w.set id (if failed then none else some (.notifying probeObj result))
    | some (.notify _), none => w.set id none
    | _, _ => w
  | .notifyUpdate id fault =>
    match w.running id with
    | some (.notifying probeObj result) => notifyUpdate w id fault probeObj result
    | _ => w
  | .reconcileGet id =>
    match w.running id, w.cell.stored with
    | none, some probeObj => w.set id (some (.reconciling probeObj))
    | _, _ => w
  | .reconcileUpdate id fault =>
    match w.running id with
    | some (.reconciling probeObj) => reconcileUpdate w id fault probeObj
    | _ => w
  | .reconcileHeaders id order secretFault secret now fault =>
    match w.running id with
    | some (.reconciling probeObj) =>
      if isFinalized probeObj.value.metadata then
        reconcileHeaders w id order secretFault secret now fault probeObj
      else w
    | _ => w

/-! ## The invariant -/

/-- What every goroutine holds was read from the cell, and the status is what the log says. -/
structure Sound (w : World) : Prop where
  seen : ∀ id execution probeObj, w.running id = some execution →
    execution.probeObj = some probeObj → w.cell.Seen probeObj
  exact : ∀ current, w.cell.stored = some current → Exact w.log current.value.status

theorem sound_empty : Sound World.empty :=
  ⟨fun _ _ _ h => absurd h (by simp [World.empty]),
    fun _ h => absurd h (by simp [World.empty, Cell.empty])⟩

namespace Sound

variable {w : World}

/-- A goroutine ends, or goes on with what it has just read. -/
theorem set (hw : Sound w) (id : Nat) {execution : Option Execution}
    (h : ∀ e probeObj, execution = some e → e.probeObj = some probeObj → w.cell.Seen probeObj) :
    Sound (w.set id execution) := by
  refine ⟨fun id' e probeObj he hprobe => ?_, hw.exact⟩
  by_cases hid : id' = id
  · subst hid
    refine h e probeObj ?_ hprobe
    simpa [World.set] using he
  · refine hw.seen id' e probeObj ?_ hprobe
    simpa [World.set, hid] using he

theorem done (hw : Sound w) (id : Nat) : Sound (w.set id none) :=
  hw.set id fun _ _ h => absurd h (by simp)

/-- A write to the cell that leaves the log right. -/
theorem write (hw : Sound w) (probe : DNSHealthCheckProbe) (log : List StatusWrite)
    (h : Exact log probe.status) : Sound { w with cell := w.cell.write probe, log := log } := by
  refine ⟨fun id e probeObj he hprobe => (hw.seen id e probeObj he hprobe).write probe,
    fun current hcurrent => ?_⟩
  cases hcurrent
  exact h

theorem purge (hw : Sound w) : Sound { w with cell := purge w.cell } := by
  rcases purge_eq w.cell with hsame | hremoved
  · rw [hsame]
    exact hw
  · rw [hremoved]
    exact ⟨fun id e probeObj he hprobe => (hw.seen id e probeObj he hprobe).remove,
      fun _ h => absurd h (by simp)⟩

/-- The conditional write of a goroutine writes the status it has read, or one computed from it. -/
theorem current_eq (hw : Sound w) {id : Nat} {e : Execution} {probeObj current : Stored}
    (he : w.running id = some e) (hprobe : e.probeObj = some probeObj)
    (hcurrent : w.cell.stored = some current) (hversion : current.version = probeObj.version) :
    current = probeObj :=
  (hw.seen id e probeObj he hprobe).eq_stored current hcurrent hversion

end Sound

theorem sound_notifyUpdate {w : World} (hw : Sound w) {id : Nat} {probeObj : Stored}
    {result : ProbeResult} (hrunning : w.running id = some (.notifying probeObj result))
    (fault : Option Fault) : Sound (notifyUpdate w id fault probeObj result) := by
  simp only [notifyUpdate]
  split
  · rename_i cell hok
    obtain ⟨current, hstored, hversion, rfl⟩ := conditionally_eq_ok hok
    obtain rfl := hw.current_eq hrunning rfl hstored hversion
    exact (hw.done id).write _ _ ((hw.exact current hstored).recordResult result)
  · split
    · exact ⟨(hw.done id).seen, hw.exact⟩
    · exact hw.done id

theorem sound_reconcileUpdate {w : World} (hw : Sound w) (id : Nat) (fault : Option Fault)
    (probeObj : Stored) : Sound (reconcileUpdate w id fault probeObj) := by
  simp only [reconcileUpdate]
  split
  · exact hw
  · split
    · rename_i cell hok
      obtain ⟨current, hstored, rfl⟩ := update_eq_ok hok
      refine (hw.write _ w.log ?_).purge.set id fun e probe he hprobe => ?_
      · exact hw.exact current hstored
      · split at he
        · cases he
        · obtain ⟨written, hread, rfl⟩ := Option.map_eq_some_iff.1 he
          cases hprobe
          exact Cell.seen_of_stored hread
    · exact hw.done id

theorem sound_reconcileHeaders {w : World} (hw : Sound w) {id : Nat} {probeObj : Stored}
    (hrunning : w.running id = some (.reconciling probeObj)) (order : MapOrder)
    (secretFault : Option Fault) (secret : Option SecretData) (now : Int) (fault : Option Fault) :
    Sound (reconcileHeaders w id order secretFault secret now fault probeObj) := by
  simp only [reconcileHeaders]
  split
  · exact hw.done id
  · rename_i name _
    split
    · exact hw.done id
    · rename_i e status hheaders
      split
      · rename_i cell hok
        obtain ⟨current, hstored, hversion, rfl⟩ := conditionally_eq_ok hok
        obtain rfl := hw.current_eq hrunning rfl hstored hversion
        refine (hw.done id).write _ _ ((hw.exact current hstored).headerError now ?_)
        refine headersOf_error (fun e he => ?_) hheaders
        exact kind_secretAnswer_ne he
      · exact hw.done id

/-- Every step keeps the invariant. -/
theorem sound_step {w : World} (hw : Sound w) (event : Event) : Sound (step w event) := by
  cases event with
  | create metadata spec =>
      simp only [step]
      split
      · exact hw
      · exact hw.write _ _ ⟨rfl, rfl⟩
  | edit metadata spec =>
      simp only [step]
      split
      · rename_i current hstored
        exact (hw.write ⟨metadata, spec, current.value.status⟩ w.log (hw.exact current hstored)).purge
      · exact hw
  | delete =>
      simp only [step]
      split
      · rename_i current hstored
        exact (hw.write (probeKind.mark true current.value) w.log (hw.exact current hstored)).purge
      · exact hw
  | enqueueCheck => exact ⟨hw.seen, hw.exact⟩
  | process id result =>
      simp only [step]
      split
      · have hset : Sound (w.set id (some (.notify result))) := by
          refine hw.set id fun e probeObj he hprobe => ?_
          cases he
          cases hprobe
        exact ⟨hset.seen, hset.exact⟩
      · exact hw
  | notifyGet id failed =>
      simp only [step]
      split
      · rename_i result probeObj _ hstored
        refine hw.set id fun e probe he hprobe => ?_
        cases failed with
        | true => cases he
        | false =>
            cases he
            cases hprobe
            exact Cell.seen_of_stored hstored
      · exact hw.done id
      · exact hw
  | notifyUpdate id fault =>
      simp only [step]
      split
      · rename_i probeObj result hrunning
        exact sound_notifyUpdate hw hrunning fault
      · exact hw
  | reconcileGet id =>
      simp only [step]
      split
      · rename_i probeObj _ hstored
        refine hw.set id fun e probe he hprobe => ?_
        cases he
        cases hprobe
        exact Cell.seen_of_stored hstored
      · exact hw
  | reconcileUpdate id fault =>
      simp only [step]
      split
      · exact sound_reconcileUpdate hw id fault _
      · exact hw
  | reconcileHeaders id order secretFault secret now fault =>
      simp only [step]
      split
      · rename_i probeObj hrunning
        split
        · exact sound_reconcileHeaders hw hrunning order secretFault secret now fault
        · exact hw
      · exact hw

theorem sound_run (run : List Event) : Sound (run.foldl step World.empty) :=
  Run.preserved (P := Sound) (fun _ event hw => sound_step hw event) sound_empty run

/-- After every interleaving of notifications, reconciles and other writes, the failures that a probe
    has are the unhealthy results recorded since the last reset, its verdict is that of the last write,
    and without an unhealthy verdict it has no failures. -/
theorem counter_exact (run : List Event) (probeObj : Stored)
    (h : (run.foldl step World.empty).cell.stored = some probeObj) :
    let log := (run.foldl step World.empty).log
    let status := probeObj.value.status
    status.consecutiveFailures = StatusWrite.failures log ∧
      status.healthy = log.head?.map StatusWrite.verdict ∧
      (status.healthy = none ∨ status.healthy = some true → status.consecutiveFailures = 0) := by
  have hexact := (sound_run run).exact probeObj h
  refine ⟨hexact.failures, hexact.healthy, fun hhealthy => hexact.zero ?_⟩
  rcases hhealthy with hnone | htrue
  · rw [hnone]
    rfl
  · rw [htrue]
    rfl

/-- Two notifications read the probe before either writes it: the second one is queued again, and its
    result is recorded only when it has been checked anew. -/
theorem counter_exact_race :
    let failed : ProbeResult := ⟨10, "", 500, false⟩
    let run : List Event := [.create { name := "probe", ns := "testns" }
        ⟨443, "test.example.com", "1.1.1.1", "/", "HTTPS", 60, none, some 4, [], false⟩,
      .enqueueCheck, .enqueueCheck, .process 0 failed, .process 1 failed, .notifyGet 0 false,
      .notifyGet 1 false, .notifyUpdate 1 none, .notifyUpdate 0 none]
    let world := run.foldl step World.empty
    world.requests = 1 ∧ ∃ probeObj, world.cell.stored = some probeObj ∧
      probeObj.value.status.consecutiveFailures = StatusWrite.failures world.log ∧
      world.log = [.result false] := by
  intro failed run world
  exact ⟨rfl, _, rfl, (counter_exact run _ rfl).1, rfl⟩

end MultiClusterGateway.HealthCheck.Counter
