import MultiClusterGateway.DnsPolicy.Names
import MultiClusterGateway.HealthCheck.Monitor
import MultiClusterGateway.Lib.Run

set_option autoImplicit false

/-! # The monitor mirrors the probes

`DNSHealthCheckProbeReconciler.Reconcile`, and runs in which any number of probes are created, changed,
deleted and reconciled. A reconcile keeps one queuer for a live probe and none for one that is being
deleted, whether it adds a queuer or updates the one that is there (`monitor_mirrors`).

The queuers are found by an id made of the namespace and the name of a probe, and no two probes have
the same id, as a namespace has no slash in its name (`probeId_inj`). Calls may fail at any point,
so there is one description of what a reconcile has done that ends without an error (`Reconciled`),
and one of what it may have done otherwise (`Failed`). As long as other clients leave the finalizer
alone, either way keeps the monitor sound, and no queuer of a probe that is gone is listed. -/

namespace MultiClusterGateway.HealthCheck

open Heap (Ptr)

/-- `probeId`: the id under which the monitor has a probe. -/
def probeId (key : ObjectKey) : String := key.ns ++ "/" ++ key.name

/-- No namespace has a slash in its name. -/
theorem probeId_inj {key key' : ObjectKey} (hns : '/' ∉ key.ns.toList) (hns' : '/' ∉ key'.ns.toList) :
    probeId key = probeId key' ↔ key = key' := by
  constructor
  · intro h
    obtain ⟨hns, hname⟩ := Text.split_at hns hns' h
    cases key
    cases key'
    simp_all
  · rintro rfl
    rfl

/-! ## The reconciler -/

/-- The objects behind the API server, and the monitor in the controller. -/
structure Hub where
  probes : ProbeStore
  secrets : ObjectKey → Option SecretData
  gateways : ObjectKey → Option Gateway
  records : ObjectKey → Option DNSRecord
  monitor : Monitor

/-- The probes of the hub. -/
def probesPart : Part Hub ProbeStore where
  get := Hub.probes
  set hub probes := { hub with probes := probes }
  get_set _ _ := rfl
  set_get _ := rfl
  set_set _ _ _ := rfl

/-- `Get` for the objects that are only read. -/
def lookup {α : Type} (objects : Hub → ObjectKey → Option α) (key : ObjectKey) : Api Hub α :=
  Api.read fun hub => match objects hub key with
    | some a => .ok a
    | none => .error (Objects.notFound key)

/-- What the controller does with its monitor is no call. -/
def onMonitor (f : Monitor → Monitor) : Api Hub Unit := fun w =>
  (.ok (), { w with state := { w.state with monitor := f w.state.monitor } })

/-- Reading the monitor is no call either. -/
def theMonitor : Api Hub Monitor := fun w => (.ok w.state.monitor, w)

/-- `getAdditionalHeaders`, with the status that it may change. -/
def getAdditionalHeaders (order : MapOrder) (probeObj : DNSHealthCheckProbe) :
    Api Hub (Except ApiError (List AdditionalHeader) × DNSHealthCheckProbeStatus) :=
  match probeObj.spec.additionalHeadersRef with
  | none => pure (.ok [], probeObj.status)
  | some name => do
    let secretKey : ObjectKey := ⟨probeObj.metadata.ns, name⟩
    let secret ← Effect.attempt (lookup Hub.secrets secretKey)
    return headersOf order secretKey secret probeObj.status

/-- `getGatewayFor`: the Gateway that the labels of the probe name. -/
def getGatewayFor (probe : DNSHealthCheckProbe) : Api Hub (Option Gateway) :=
  match probe.metadata.labels.get? "kuadrant.io/gateway",
      probe.metadata.labels.get? "kuadrant.io/gateway-namespace" with
  | some name, some ns => do
    let gateway ← lookup Hub.gateways ⟨ns, name⟩
    return some gateway
  | _, _ => pure none

/-- `getDNSRecord`: the record that the annotations of the probe name. -/
def getDNSRecord (probe : DNSHealthCheckProbe) : Api Hub (Option DNSRecord) :=
  match probe.metadata.annotations.get? "dnsrecord-name",
      probe.metadata.annotations.get? "dnsrecord-namespace" with
  | some name, some ns => do
    match ← Effect.attempt (lookup Hub.records ⟨ns, name⟩) with
    | .ok record => return some record
    | .error e => if e.kind = .notFound then return none else Effect.fail e
  | _, _ => pure none

/-- `newProbeNotifierFor`: with metrics once the listener of the record is found. -/
def newProbeNotifierFor (probe : DNSHealthCheckProbe) : Api Hub ProbeNotifier := do
  let notifier := ProbeNotifier.statusUpdate probe.metadata.key
  match ← getGatewayFor probe with
  | none => return notifier
  | some gateway =>
    match ← getDNSRecord probe with
    | none => return notifier
    | some dnsRecord =>
      match gateway.listeners.find? (fun listener =>
        dnsRecord.metadata.name == dnsRecordName gateway.name listener.name) with
      | none => return notifier
      | some listener =>
        return .instrumented gateway.name gateway.ns listener.name probe.metadata.key

section
variable (upper : Char → Char)

/-- The update of a queuer, field by field. -/
def assignProbe (probeObj : DNSHealthCheckProbe) (additionalHeaders : List AdditionalHeader)
    (p : ProbeQueuer) : ProbeQueuer :=
  { p with
    interval := probeObj.spec.interval
    host := probeObj.spec.host
    ipAddress := probeObj.spec.address
    path := probeObj.spec.path
    port := probeObj.spec.port
    protocol := newHealthProtocol upper probeObj.spec.protocol
    additionalHeaders := additionalHeaders
    expectedResponses := probeObj.spec.expectedResponses
    allowInsecureCertificate := probeObj.spec.allowInsecureCertificate }

/-- The queuer that is added for a probe. -/
def newProbeQueuer (probeObj : DNSHealthCheckProbe) (additionalHeaders : List AdditionalHeader)
    (notifier : ProbeNotifier) : ProbeQueuer where
  id := probeId probeObj.metadata.key
  interval := probeObj.spec.interval
  host := probeObj.spec.host
  path := probeObj.spec.path
  port := probeObj.spec.port
  protocol := newHealthProtocol upper probeObj.spec.protocol
  ipAddress := probeObj.spec.address
  additionalHeaders := additionalHeaders
  expectedResponses := probeObj.spec.expectedResponses
  allowInsecureCertificate := probeObj.spec.allowInsecureCertificate
  notifier := notifier

/-- The probe has the finalizer of the controller. -/
def hasFinalizer (probeObj : DNSHealthCheckProbe) : Bool :=
  probeObj.metadata.finalizers.contains dnsHealthCheckProbeFinalizer

/-- The probe with other finalizers. -/
def withFinalizers (finalizers : List String) (probeObj : DNSHealthCheckProbe) :
    DNSHealthCheckProbe :=
  { probeObj with metadata := { probeObj.metadata with finalizers := finalizers } }

/-- `controllerutil.AddFinalizer`. -/
def addFinalizer (probeObj : DNSHealthCheckProbe) : DNSHealthCheckProbe :=
  if hasFinalizer probeObj then probeObj
  else withFinalizers (probeObj.metadata.finalizers ++ [dnsHealthCheckProbeFinalizer]) probeObj

/-- `controllerutil.RemoveFinalizer`. -/
def removeFinalizer (probeObj : DNSHealthCheckProbe) : DNSHealthCheckProbe :=
  withFinalizers (probeObj.metadata.finalizers.filter (· != dnsHealthCheckProbeFinalizer)) probeObj

/-- The finalizer is added with a call if it is missing. -/
def ensureFinalizer (probeObj : DNSHealthCheckProbe) : Api Hub Unit :=
  if hasFinalizer probeObj then pure () else Api.update probesPart (addFinalizer probeObj)

/-- The end of `Reconcile`, with the headers. -/
def monitorProbe (previous probeObj : DNSHealthCheckProbe)
    (additionalHeaders : List AdditionalHeader) : Api Hub Unit := do
  let monitor ← theMonitor
  let id := probeId probeObj.metadata.key
  if monitor.hasProbe id then
    onMonitor (·.updateProbe id (assignProbe upper probeObj additionalHeaders))
  else do
    let notifier ← newProbeNotifierFor previous
    onMonitor fun m => (m.addProbeQueuer (newProbeQueuer upper probeObj additionalHeaders notifier)).2

/-- `Reconcile`, once it has read the probe. -/
def reconcileProbe (order : MapOrder) (now : Int) (previous : DNSHealthCheckProbe) :
    Api Hub Unit :=
  if previous.metadata.deletionTimestamp then do
    onMonitor (·.removeProbe (probeId previous.metadata.key))
    Api.update probesPart (removeFinalizer previous)
  else do
    let probeObj := addFinalizer previous
    ensureFinalizer previous
    match ← getAdditionalHeaders order probeObj with
    | (.ok additionalHeaders, _) => monitorProbe upper previous probeObj additionalHeaders
    | (.error e, status) => do
      let _ ← Effect.attempt
        (Api.update probesPart { probeObj with status := recordHeaderError now status })
      Effect.fail e

/-- `Reconcile`. Every error of the first call is dropped. -/
def reconcile (order : MapOrder) (now : Int) (key : ObjectKey) : Api Hub Unit := do
  match ← Effect.attempt (Api.get probesPart key) with
  | .ok previous => reconcileProbe upper order now previous
  | .error _ => pure ()

end

/-! ## The headers of a probe -/

/-- The headers that the secrets of the hub give for a probe. -/
def headersFor (order : MapOrder) (hub : Hub) (probeObj : DNSHealthCheckProbe) :
    Except ApiError (List AdditionalHeader) :=
  match probeObj.spec.additionalHeadersRef with
  | none => .ok []
  | some name =>
    let secretKey : ObjectKey := ⟨probeObj.metadata.ns, name⟩
    match hub.secrets secretKey with
    | some data => (readHeaders [] probeObj.status (order.visit data)).1
    | none => .error (Objects.notFound secretKey)

theorem readHeaders_eq_ok {headers headers' : List AdditionalHeader}
    {status : DNSHealthCheckProbeStatus} {data : SecretData} :
    (readHeaders headers status data).1 = .ok headers' ↔
      (∀ entry ∈ data, hasBlank entry.1 = false) ∧
        headers' = headers ++ data.map (fun entry => ⟨Text.trimSpace entry.1, entry.2⟩) := by
  induction data generalizing headers with
  | nil =>
      simp only [readHeaders, List.map_nil, List.append_nil, List.not_mem_nil, false_implies,
        implies_true, true_and]
      exact ⟨fun h => (Except.ok.inj h).symm, fun h => congrArg Except.ok h.symm⟩
  | cons entry rest ih =>
      obtain ⟨k, v⟩ := entry
      unfold readHeaders
      rw [List.forall_mem_cons]
      split
      · rename_i hblank
        simp [hblank]
      · rename_i hblank
        rw [ih]
        simp [hblank]

/-- In which order the data of the secret is read matters for the order of the headers only. -/
theorem headersFor_perm {order : MapOrder} {hub : Hub} {probeObj : DNSHealthCheckProbe}
    {headers : List AdditionalHeader} (h : headersFor order hub probeObj = .ok headers)
    (order' : MapOrder) :
    ∃ headers', headersFor order' hub probeObj = .ok headers' ∧ headers.Perm headers' := by
  unfold headersFor at h ⊢
  cases href : probeObj.spec.additionalHeadersRef with
  | none =>
      rw [href] at h
      exact ⟨headers, h, List.Perm.refl _⟩
  | some name =>
      rw [href] at h
      simp only at h ⊢
      cases hsecret : hub.secrets ⟨probeObj.metadata.ns, name⟩ with
      | none =>
          rw [hsecret] at h
          cases h
      | some data =>
          rw [hsecret] at h
          obtain ⟨hnames, rfl⟩ := readHeaders_eq_ok.1 h
          refine ⟨_, readHeaders_eq_ok.2 ⟨fun entry hentry => hnames entry ?_, rfl⟩, ?_⟩
          · exact order.mem_visit.2 (order'.mem_visit.1 hentry)
          · exact ((order.perm data).trans (order'.perm data).symm).map _ |>.append_left _

/-! ## What a reconcile does -/

/-- The probe with the key is there, with the finalizer. -/
def Finalized (hub : Hub) (key : ObjectKey) : Prop :=
  ∃ probe, hub.probes.get key = some probe ∧ hasFinalizer probe = true

/-- Nothing but the probe with the key and the monitor has changed. -/
structure Touches (hub : Hub) (key : ObjectKey) (hub' : Hub) : Prop where
  probes : ∀ k, k ≠ key → hub'.probes.get k = hub.probes.get k
  secrets : hub'.secrets = hub.secrets

theorem Touches.refl (hub : Hub) (key : ObjectKey) : Touches hub key hub := ⟨fun _ _ => rfl, rfl⟩

/-- The probe has its finalizer now, and nothing else has changed. -/
structure Ready (hub : Hub) (key : ObjectKey) (hub' : Hub) : Prop where
  touches : Touches hub key hub'
  finalized : Finalized hub' key
  monitor : hub'.monitor = hub.monitor

/-- The queuer of the probe is updated, or a new one added. -/
def Placed (upper : Char → Char) (probeObj : DNSHealthCheckProbe) (headers : List AdditionalHeader)
    (m m' : Monitor) : Prop :=
  (m.hasProbe (probeId probeObj.metadata.key) = true ∧
    m' = m.updateProbe (probeId probeObj.metadata.key) (assignProbe upper probeObj headers)) ∨
  (m.hasProbe (probeId probeObj.metadata.key) = false ∧
    ∃ notifier, m' = (m.addProbeQueuer (newProbeQueuer upper probeObj headers notifier)).2)

section
variable {upper : Char → Char} {order : MapOrder} {hub : Hub} {key : ObjectKey}
  {previous : DNSHealthCheckProbe}

@[simp] theorem spec_addFinalizer (probeObj : DNSHealthCheckProbe) :
    (addFinalizer probeObj).spec = probeObj.spec := by
  unfold addFinalizer
  split
  · rfl
  · rfl

@[simp] theorem key_addFinalizer (probeObj : DNSHealthCheckProbe) :
    (addFinalizer probeObj).metadata.key = probeObj.metadata.key := by
  unfold addFinalizer
  split
  · rfl
  · rfl

theorem hasFinalizer_addFinalizer (probeObj : DNSHealthCheckProbe) :
    hasFinalizer (addFinalizer probeObj) = true := by
  unfold addFinalizer
  split
  · assumption
  · simp [hasFinalizer, withFinalizers]

theorem finalizers_ne_nil {probe : DNSHealthCheckProbe} (h : hasFinalizer probe = true) :
    probeKind.finalizers probe ≠ [] := by
  intro hnil
  have : probe.metadata.finalizers = [] := hnil
  simp [hasFinalizer, this] at h

/-- A write of a probe with its finalizer. -/
theorem Ready.put {hub' : Hub} (h : Touches hub key hub') (hmonitor : hub'.monitor = hub.monitor)
    {probe : DNSHealthCheckProbe} (hkey : probe.metadata.key = key) (hfin : hasFinalizer probe = true) :
    Ready hub key { hub' with probes := hub'.probes.put probe } := by
  refine ⟨⟨fun k hk => ?_, h.secrets⟩, ⟨probe, ?_, hfin⟩, hmonitor⟩
  · rw [← h.probes k hk]
    exact Objects.get_put_of_ne fun heq => hk (heq.trans hkey)
  · exact Objects.get_put_self hkey fun _ => finalizers_ne_nil hfin

theorem triple_ensureFinalizer (hget : hub.probes.get key = some previous) :
    Api.Triple (fun s => s = hub) (ensureFinalizer previous) (fun _ => Ready hub key)
      (fun _ s => s = hub) := by
  unfold ensureFinalizer
  by_cases hfin : hasFinalizer previous = true
  · rw [if_pos hfin]
    refine Effect.Spec.pure ?_
    rintro s rfl
    exact ⟨Touches.refl s key, ⟨previous, hget, hfin⟩, rfl⟩
  · rw [if_neg hfin]
    refine Api.triple_update.mono (fun _ h => h) ?_ fun _ _ h => h
    rintro _ _ ⟨s, rfl, -, rfl⟩
    refine Ready.put (Touches.refl s key) rfl ?_ (hasFinalizer_addFinalizer previous)
    rw [key_addFinalizer]
    exact Objects.key_of_get hget

theorem headersFor_addFinalizer : headersFor order hub (addFinalizer previous)
    = headersFor order hub previous := by
  have hns : (addFinalizer previous).metadata.ns = previous.metadata.ns :=
    congrArg ObjectKey.ns (key_addFinalizer previous)
  have hstatus : (addFinalizer previous).status = previous.status := by
    unfold addFinalizer
    split
    · rfl
    · rfl
  simp only [headersFor, spec_addFinalizer, hns, hstatus]

theorem triple_getAdditionalHeaders (probeObj : DNSHealthCheckProbe) :
    Api.Triple (Ready hub key) (getAdditionalHeaders order probeObj)
      (fun r s => Ready hub key s ∧
        ∀ headers, r.1 = .ok headers → headersFor order hub probeObj = .ok headers)
      (fun _ _ => False) := by
  unfold getAdditionalHeaders headersFor
  cases probeObj.spec.additionalHeadersRef with
  | none => exact Effect.Spec.pure fun s hs => ⟨hs, fun _ h => h⟩
  | some name =>
      refine Effect.Spec.attempt_bind Api.triple_read (fun data => ?_) fun e => ?_
      · refine Effect.Spec.pure ?_
        rintro s ⟨hready, hread⟩
        refine ⟨hready, fun headers hheaders => ?_⟩
        rw [hready.touches.secrets] at hread
        simp only
        cases hsecret : hub.secrets ⟨probeObj.metadata.ns, name⟩ with
        | none =>
            rw [hsecret] at hread
            cases hread
        | some data' =>
            rw [hsecret] at hread
            cases hread
            exact hheaders
      · refine Effect.Spec.pure ?_
        rintro s ⟨hready, -⟩
        refine ⟨hready, fun headers hheaders => ?_⟩
        simp only [headersOf] at hheaders
        split at hheaders
        · cases hheaders
        · cases hheaders

theorem keeps_newProbeNotifierFor (probe : DNSHealthCheckProbe) :
    Api.Keeps (fun hub : Hub => hub) (newProbeNotifierFor probe) := by
  have hgateway : Api.Keeps (fun hub : Hub => hub) (getGatewayFor probe) := by
    unfold getGatewayFor
    split
    · exact (Api.keeps_read _).bind fun _ => Api.keeps_pure _
    · exact Api.keeps_pure _
  have hrecord : Api.Keeps (fun hub : Hub => hub) (getDNSRecord probe) := by
    unfold getDNSRecord
    split
    · refine (Api.keeps_read _).attempt_bind fun r => ?_
      cases r with
      | ok record => exact Api.keeps_pure _
      | error e =>
          simp only
          split
          · exact Api.keeps_pure _
          · exact Api.keeps_fail _
    · exact Api.keeps_pure _
  unfold newProbeNotifierFor
  refine hgateway.bind fun gateway => ?_
  cases gateway with
  | none => exact Api.keeps_pure _
  | some gateway =>
      refine hrecord.bind fun record => ?_
      cases record with
      | none => exact Api.keeps_pure _
      | some record =>
          simp only
          split
          · exact Api.keeps_pure _
          · exact Api.keeps_pure _

theorem triple_onMonitor {P : Hub → Prop} {E : ApiError → Hub → Prop} (f : Monitor → Monitor) :
    Api.Triple P (onMonitor f) (fun _ s' => ∃ s, P s ∧ s' = { s with monitor := f s.monitor }) E :=
  fun w hw => ⟨w.state, hw, rfl⟩

theorem triple_theMonitor {P : Hub → Prop} {E : ApiError → Hub → Prop} :
    Api.Triple P theMonitor (fun m s => P s ∧ m = s.monitor) E :=
  fun _ hw => ⟨hw, rfl⟩

theorem triple_monitorProbe (probeObj : DNSHealthCheckProbe) (headers : List AdditionalHeader) :
    Api.Triple (Ready hub key) (monitorProbe upper previous probeObj headers)
      (fun _ s => Touches hub key s ∧ Finalized s key ∧
        Placed upper probeObj headers hub.monitor s.monitor)
      (fun _ => Ready hub key) := by
  unfold monitorProbe
  refine Effect.Spec.bind (Q := fun m s => Ready hub key s ∧ m = hub.monitor)
    (triple_theMonitor.mono (fun _ h => h) (fun m s h => ⟨h.1, h.2.trans h.1.monitor⟩)
      fun _ _ h => h) (fun _ _ h => h) fun m => Effect.Spec.given ?_
  rintro rfl
  by_cases hlisted : hub.monitor.hasProbe (probeId probeObj.metadata.key) = true
  · rw [if_pos hlisted]
    refine (triple_onMonitor _).mono (fun _ h => h) ?_ fun _ _ h => h
    rintro _ _ ⟨s, hready, rfl⟩
    exact ⟨⟨hready.touches.probes, hready.touches.secrets⟩, hready.finalized,
      Or.inl ⟨hlisted, by rw [hready.monitor]⟩⟩
  · rw [if_neg hlisted]
    refine ((keeps_newProbeNotifierFor previous).triple (Ready hub key)).bind (fun _ _ h => h)
      fun notifier => ?_
    refine (triple_onMonitor _).mono (fun _ h => h) ?_ fun _ _ h => h
    rintro _ _ ⟨s, hready, rfl⟩
    exact ⟨⟨hready.touches.probes, hready.touches.secrets⟩, hready.finalized,
      Or.inr ⟨Bool.eq_false_of_not_eq_true hlisted, notifier, by rw [hready.monitor]⟩⟩

/-- What a reconcile that ends without an error has done. -/
structure Reconciled (upper : Char → Char) (order : MapOrder) (hub : Hub) (key : ObjectKey)
    (previous : DNSHealthCheckProbe) (hub' : Hub) : Prop where
  touches : Touches hub key hub'
  removed : previous.metadata.deletionTimestamp = true →
    hub'.monitor = hub.monitor.removeProbe (probeId key)
  placed : previous.metadata.deletionTimestamp = false → Finalized hub' key ∧
    ∃ headers, headersFor order hub previous = .ok headers ∧
      Placed upper previous headers hub.monitor hub'.monitor

/-- What a reconcile that ends with an error may have done. -/
structure Failed (hub : Hub) (key : ObjectKey) (hub' : Hub) : Prop where
  touches : Touches hub key hub'
  monitor : (hub'.monitor = hub.monitor ∧ (Finalized hub key → Finalized hub' key)) ∨
    hub'.monitor = hub.monitor.removeProbe (probeId key)

theorem Ready.failed {hub' : Hub} (h : Ready hub key hub') : Failed hub key hub' :=
  ⟨h.touches, Or.inl ⟨h.monitor, fun _ => h.finalized⟩⟩

/-- Whatever comes of a write to the status, the probe has its finalizer. -/
theorem triple_writeReady (probeObj : DNSHealthCheckProbe) (hkey : probeObj.metadata.key = key)
    (hfin : hasFinalizer probeObj = true) (status : DNSHealthCheckProbeStatus) {φ : Hub → Prop} :
    Api.Triple (fun s => Ready hub key s ∧ φ s)
      (Api.update probesPart { probeObj with status := status }) (fun _ => Ready hub key)
      (fun _ => Ready hub key) := by
  refine Api.triple_update.mono (fun _ h => h) ?_ fun _ _ h => h.1
  rintro _ _ ⟨s, ⟨hready, -⟩, -, rfl⟩
  exact Ready.put hready.touches hready.monitor hkey hfin

theorem placed_addFinalizer {headers : List AdditionalHeader} {m m' : Monitor} :
    Placed upper (addFinalizer previous) headers m m' ↔ Placed upper previous headers m m' := by
  have hassign : assignProbe upper (addFinalizer previous) headers
      = assignProbe upper previous headers := by
    funext q
    simp only [assignProbe, spec_addFinalizer]
  have hnew (notifier : ProbeNotifier) : newProbeQueuer upper (addFinalizer previous) headers notifier
      = newProbeQueuer upper previous headers notifier := by
    simp only [newProbeQueuer, spec_addFinalizer, key_addFinalizer]
  simp only [Placed, key_addFinalizer, hassign, hnew]

theorem triple_reconcileProbe (hget : hub.probes.get key = some previous) (now : Int) :
    Api.Triple (fun s => s = hub) (reconcileProbe upper order now previous)
      (fun _ => Reconciled upper order hub key previous) (fun _ => Failed hub key) := by
  have hkey : previous.metadata.key = key := Objects.key_of_get hget
  unfold reconcileProbe
  by_cases hdeleting : previous.metadata.deletionTimestamp = true
  · rw [if_pos hdeleting, hkey]
    refine (triple_onMonitor _).bind (fun _ _ h => h) fun _ => ?_
    refine Api.triple_update.mono (fun _ h => h) ?_ ?_
    · rintro _ _ ⟨_, ⟨s, rfl, rfl⟩, -, rfl⟩
      refine ⟨⟨fun k hk => ?_, rfl⟩, fun _ => rfl, fun h => absurd (hdeleting.symm.trans h) (by simp)⟩
      exact Objects.get_put_of_ne fun heq => hk (heq.trans hkey)
    · rintro _ _ ⟨s, rfl, rfl⟩
      exact ⟨⟨fun _ _ => rfl, rfl⟩, Or.inr rfl⟩
  · rw [if_neg hdeleting]
    have hlive : previous.metadata.deletionTimestamp = false := Bool.eq_false_of_not_eq_true hdeleting
    refine (triple_ensureFinalizer hget).bind ?_ fun _ => ?_
    · rintro _ s rfl
      exact ⟨Touches.refl s key, Or.inl ⟨rfl, fun h => h⟩⟩
    refine (triple_getAdditionalHeaders (addFinalizer previous)).bind (fun _ _ h => h.elim) ?_
    rintro ⟨e | headers, status⟩
    · refine Effect.Spec.attempt_bind (triple_writeReady (addFinalizer previous) ?_ ?_ _)
        (fun _ => Effect.Spec.fail fun _ h => h.failed) fun _ => Effect.Spec.fail fun _ h => h.failed
      · exact (key_addFinalizer previous).trans hkey
      · exact hasFinalizer_addFinalizer previous
    · refine Effect.Spec.mono (P := fun s => Ready hub key s ∧
        headersFor order hub (addFinalizer previous) = .ok headers) (Effect.Spec.given fun hheaders => ?_)
        (fun s h => ⟨h.1, h.2 headers rfl⟩) (fun _ _ h => h) fun _ _ h => h
      refine (triple_monitorProbe (addFinalizer previous) headers).mono (fun _ h => h) ?_
        fun _ _ h => h.failed
      rintro _ s ⟨htouches, hfin, hplaced⟩
      refine ⟨htouches, fun h => absurd h hdeleting, fun _ => ⟨hfin, headers, ?_, ?_⟩⟩
      · rw [← headersFor_addFinalizer]
        exact hheaders
      · rw [← placed_addFinalizer]
        exact hplaced

end

/-! ## What becomes of the monitor -/

/-- The two queuers make the same requests, with the headers in some order. -/
structure SameCheck (q q' : ProbeQueuer) : Prop where
  interval : q.interval = q'.interval
  host : q.host = q'.host
  path : q.path = q'.path
  port : q.port = q'.port
  protocol : q.protocol = q'.protocol
  ipAddress : q.ipAddress = q'.ipAddress
  additionalHeaders : q.additionalHeaders.Perm q'.additionalHeaders
  expectedResponses : q.expectedResponses = q'.expectedResponses
  allowInsecureCertificate : q.allowInsecureCertificate = q'.allowInsecureCertificate

/-- The queuers with an id are the same. -/
def SameQueuers (id : String) (m m' : Monitor) : Prop :=
  ∀ p, (p ∈ m'.probeQueuers ∧ (m'.heap.read p).id = id ↔
      p ∈ m.probeQueuers ∧ (m.heap.read p).id = id) ∧
    (p ∈ m.probeQueuers ∧ (m.heap.read p).id = id → m'.heap.read p = m.heap.read p)

section
variable {upper : Char → Char} {probeObj : DNSHealthCheckProbe} {headers : List AdditionalHeader}
  {m m' : Monitor}

theorem Placed.sound (h : Placed upper probeObj headers m m') (hm : m.Sound) : m'.Sound := by
  rcases h with ⟨-, rfl⟩ | ⟨hfree, notifier, rfl⟩
  · exact Monitor.sound_updateProbe hm _ (fun _ => rfl) (fun _ => rfl) fun _ => rfl
  · exact Monitor.sound_addProbeQueuer hm hfree ⟨rfl, rfl⟩

/-- The probe has a queuer that makes the requests of a new one. -/
theorem Placed.queuer (h : Placed upper probeObj headers m m') (hm : m.Sound)
    (notifier : ProbeNotifier) : ∃ p ∈ m'.probeQueuers,
      (m'.heap.read p).id = probeId probeObj.metadata.key ∧
      SameCheck (m'.heap.read p) (newProbeQueuer upper probeObj headers notifier) := by
  rcases h with ⟨hlisted, rfl⟩ | ⟨hfree, notifier', rfl⟩
  · obtain ⟨p, hp, hid⟩ := Monitor.hasProbe_iff.1 hlisted
    refine ⟨p, hp, ?_⟩
    rw [Monitor.read_updateProbe hm, if_pos ⟨hp, hid⟩]
    exact ⟨hid, ⟨rfl, rfl, rfl, rfl, rfl, rfl, List.Perm.refl _, rfl, rfl⟩⟩
  · rw [Monitor.addProbeQueuer_eq hfree]
    refine ⟨m.heap.size, by simp, ?_⟩
    rw [Heap.read_alloc_self]
    exact ⟨rfl, ⟨rfl, rfl, rfl, rfl, rfl, rfl, List.Perm.refl _, rfl, rfl⟩⟩

theorem Placed.others (h : Placed upper probeObj headers m m') (hm : m.Sound) {id : String}
    (hid : id ≠ probeId probeObj.metadata.key) : SameQueuers id m m' := by
  rcases h with ⟨-, rfl⟩ | ⟨hfree, notifier, rfl⟩
  · intro p
    rw [Monitor.read_updateProbe hm]
    by_cases hp : p ∈ m.probeQueuers ∧ (m.heap.read p).id = probeId probeObj.metadata.key
    · rw [if_pos hp]
      have hne : (m.heap.read p).id ≠ id := fun heq => hid (heq.symm.trans hp.2)
      exact ⟨Iff.rfl, fun h => absurd h.2 hne⟩
    · rw [if_neg hp]
      exact ⟨Iff.rfl, fun _ => rfl⟩
  · rw [Monitor.addProbeQueuer_eq hfree]
    intro p
    by_cases hp : p ∈ m.probeQueuers
    · have hread := Heap.read_alloc_of_lt m.heap
        (newProbeQueuer upper probeObj headers notifier).start (hm.lt_size p hp)
      simp [hp, hread]
    · refine ⟨⟨?_, fun h => absurd h.1 hp⟩, fun h => absurd h.1 hp⟩
      rintro ⟨hp', hid'⟩
      obtain rfl := List.mem_singleton.1 ((List.mem_append.1 hp').resolve_left hp)
      rw [Heap.read_alloc_self] at hid'
      exact absurd hid'.symm hid

theorem sameQueuers_removeProbe (hm : m.Sound) {id id' : String} (hid : id' ≠ id) :
    SameQueuers id' m (m.removeProbe id) := by
  intro p
  by_cases hp : p ∈ (m.removeProbe id).probeQueuers
  · obtain ⟨hlisted, hne⟩ := (Monitor.mem_removeProbe hm).1 hp
    simp [hp, hlisted, Monitor.read_removeProbe_of_mem hm hp]
  · have hgone : p ∈ m.probeQueuers → (m.heap.read p).id ≠ id' := by
      intro hlisted heq
      exact hp ((Monitor.mem_removeProbe hm).2 ⟨hlisted, fun h => hid (heq.symm.trans h)⟩)
    exact ⟨⟨fun h => absurd h.1 hp, fun h => absurd h.2 (hgone h.1)⟩, fun h => absurd h.2 (hgone h.1)⟩

end

/-! ## Runs -/

/-- What may happen next: other clients write probes, or whatever else is read; or the controller
    reconciles a probe. -/
inductive Event where
  | create (probe : DNSHealthCheckProbe)
  | edit (probe : DNSHealthCheckProbe)
  | delete (key : ObjectKey)
  | others (secrets : ObjectKey → Option SecretData) (gateways : ObjectKey → Option Gateway)
      (records : ObjectKey → Option DNSRecord)
  | reconcile (order : MapOrder) (now : Int) (key : ObjectKey) (faults : List (Option Fault))

/-- The hub after an event. -/
def step (upper : Char → Char) (hub : Hub) : Event → Hub
  | .create probe =>
    match hub.probes.create probe with
    | .ok probes => { hub with probes := probes }
    | .error _ => hub
  | .edit probe =>
    -- only the server marks an object as being deleted
    match hub.probes.get probe.metadata.key with
    | some current =>
      { hub with probes := hub.probes.put (probeKind.mark (probeKind.marked current) probe) }
    | none => hub
  | .delete key =>
    match hub.probes.delete key with
    | .ok probes => { hub with probes := probes }
    | .error _ => hub
  | .others secrets gateways records =>
    { hub with secrets := secrets, gateways := gateways, records := records }
  | .reconcile order now key faults => (reconcile upper order now key ⟨hub, faults⟩).2.state

/-- Other clients do not remove the finalizer. -/
def KeepsFinalizer (hub : Hub) : Event → Prop
  | .edit probe => Finalized hub probe.metadata.key → hasFinalizer probe = true
  | _ => True

/-- Every queuer that is listed is that of a probe with the finalizer. -/
def Owned (hub : Hub) : Prop :=
  ∀ p ∈ hub.monitor.probeQueuers, ∃ key,
    (hub.monitor.heap.read p).id = probeId key ∧ Finalized hub key

/-- The monitor is sound, and lists no queuer of a probe that is gone. -/
structure Kept (hub : Hub) : Prop where
  sound : hub.monitor.Sound
  owned : Owned hub

section
variable {upper : Char → Char} {order : MapOrder} {hub hub' : Hub} {key : ObjectKey}
  {previous : DNSHealthCheckProbe}

theorem Touches.finalized (h : Touches hub key hub') {k : ObjectKey} (hk : k ≠ key)
    (hfin : Finalized hub k) : Finalized hub' k := by
  unfold Finalized
  rw [h.probes k hk]
  exact hfin

/-- A probe that has its finalizer, or none, keeps that when its queuer stays. -/
theorem Owned.of_same_monitor (h : Owned hub) (htouches : Touches hub key hub')
    (hmonitor : hub'.monitor = hub.monitor) (hfin : Finalized hub key → Finalized hub' key) :
    Owned hub' := by
  unfold Owned
  rw [hmonitor]
  intro p hp
  obtain ⟨k, hid, hk⟩ := h p hp
  refine ⟨k, hid, ?_⟩
  by_cases hkey : k = key
  · subst hkey
    exact hfin hk
  · exact htouches.finalized hkey hk

theorem Kept.removed (hkept : Kept hub) (htouches : Touches hub key hub')
    (hmonitor : hub'.monitor = hub.monitor.removeProbe (probeId key)) : Kept hub' := by
  refine ⟨hmonitor ▸ Monitor.sound_removeProbe hkept.sound _, ?_⟩
  unfold Owned
  rw [hmonitor]
  intro p hp
  obtain ⟨hlisted, hne⟩ := (Monitor.mem_removeProbe hkept.sound).1 hp
  obtain ⟨k, hid, hk⟩ := hkept.owned p hlisted
  rw [Monitor.read_removeProbe_of_mem hkept.sound hp]
  refine ⟨k, hid, htouches.finalized (fun heq => hne ?_) hk⟩
  rw [hid, heq]

theorem Kept.placed (hkept : Kept hub) (htouches : Touches hub key hub')
    (hkey : previous.metadata.key = key) (hfin : Finalized hub' key)
    {headers : List AdditionalHeader}
    (hplaced : Placed upper previous headers hub.monitor hub'.monitor) : Kept hub' := by
  refine ⟨hplaced.sound hkept.sound, fun p hp => ?_⟩
  by_cases hid : (hub'.monitor.heap.read p).id = probeId key
  · exact ⟨key, hid, hfin⟩
  · obtain ⟨hlisted, hread⟩ := hplaced.others hkept.sound (hkey.symm ▸ hid) p
    have hold := hlisted.1 ⟨hp, rfl⟩
    obtain ⟨k, hk, hfin⟩ := hkept.owned p hold.1
    refine ⟨k, hold.2.symm.trans hk, htouches.finalized (fun heq => hid ?_) hfin⟩
    rw [← heq, ← hk, hold.2]

theorem Kept.reconciled (hkept : Kept hub) (hkey : previous.metadata.key = key)
    (h : Reconciled upper order hub key previous hub') : Kept hub' := by
  cases hdeleting : previous.metadata.deletionTimestamp with
  | true => exact hkept.removed h.touches (h.removed hdeleting)
  | false =>
      obtain ⟨hfin, headers, -, hplaced⟩ := h.placed hdeleting
      exact hkept.placed h.touches hkey hfin hplaced

theorem Kept.failed (hkept : Kept hub) (h : Failed hub key hub') : Kept hub' := by
  rcases h.monitor with ⟨hmonitor, hfin⟩ | hmonitor
  · exact ⟨hmonitor ▸ hkept.sound, hkept.owned.of_same_monitor h.touches hmonitor hfin⟩
  · exact hkept.removed h.touches hmonitor

theorem kept_reconcile (hkept : Kept hub) (now : Int) (faults : List (Option Fault)) :
    Kept (reconcile upper order now key ⟨hub, faults⟩).2.state := by
  have htriple : Api.Triple (fun s => s = hub) (reconcile upper order now key) (fun _ => Kept)
      (fun _ => Kept) := by
    unfold reconcile
    refine Effect.Spec.attempt_bind Api.triple_get (fun previous => ?_) fun e => ?_
    · rintro w ⟨rfl, hget⟩
      have hkey : previous.metadata.key = key := Objects.key_of_get hget
      exact (triple_reconcileProbe hget now).mono (fun _ h => h)
        (fun _ s hs => hkept.reconciled hkey hs) (fun _ s hs => hkept.failed hs) w rfl
    · refine Effect.Spec.pure ?_
      rintro s ⟨rfl, -⟩
      exact hkept
  exact htriple.ends rfl

/-- Other clients leave the finalizers where they are. -/
theorem Kept.write (hkept : Kept hub) {probes : ProbeStore}
    (h : ∀ k, Finalized hub k → Finalized { hub with probes := probes } k) :
    Kept { hub with probes := probes } := by
  refine ⟨hkept.sound, fun p hp => ?_⟩
  obtain ⟨k, hid, hfin⟩ := hkept.owned p hp
  exact ⟨k, hid, h k hfin⟩

/-- A probe with a finalizer is written in place of another. -/
theorem finalized_put {probe : DNSHealthCheckProbe} {b : Bool}
    (h : Finalized hub probe.metadata.key → hasFinalizer probe = true) {k : ObjectKey}
    (hk : Finalized hub k) :
    Finalized { hub with probes := hub.probes.put (probeKind.mark b probe) } k := by
  have hkey : probeKind.key (probeKind.mark b probe) = probe.metadata.key := probeKind.key_mark b probe
  by_cases hsame : k = probe.metadata.key
  · subst hsame
    refine ⟨probeKind.mark b probe, Objects.get_put_self hkey fun _ => ?_, h hk⟩
    exact finalizers_ne_nil (h hk)
  · obtain ⟨other, hget, hfin⟩ := hk
    refine ⟨other, ?_, hfin⟩
    rw [← hget]
    exact Objects.get_put_of_ne fun heq => hsame (heq.trans hkey)

/-- Every step keeps the monitor sound. -/
theorem kept_step (hub : Hub) (event : Event) (hkept : Kept hub) (hevent : KeepsFinalizer hub event) :
    Kept (step upper hub event) := by
  cases event with
  | create probe =>
      simp only [step]
      split
      · rename_i probes hok
        unfold Objects.create at hok
        split at hok
        · cases hok
        · rename_i hfree
          cases hok
          refine hkept.write fun k => finalized_put ?_
          rintro ⟨other, hget, -⟩
          cases hfree.symm.trans hget
      · exact hkept
  | edit probe =>
      simp only [step]
      split
      · exact hkept.write fun k => finalized_put hevent
      · exact hkept
  | delete key =>
      simp only [step]
      split
      · rename_i probes hok
        obtain ⟨probe, hget, rfl⟩ := Objects.delete_eq_ok.1 hok
        refine hkept.write fun k => finalized_put ?_
        rintro ⟨other, hother, hfin⟩
        have hkey : probe.metadata.key = key := Objects.key_of_get hget
        rw [hkey, hget] at hother
        cases hother
        exact hfin
      · exact hkept
  | others secrets gateways records => exact ⟨hkept.sound, hkept.owned⟩
  | reconcile order now key faults => exact kept_reconcile hkept now faults

theorem kept_run {hub₀ : Hub} (hnew : hub₀.monitor = .new) {run : List Event}
    (hrun : Run.Always (step upper) KeepsFinalizer hub₀ run) : Kept (run.foldl (step upper) hub₀) := by
  refine Run.invariant (P := Kept) kept_step ⟨?_, ?_⟩ hrun
  · rw [hnew]
    exact Monitor.sound_new
  · unfold Owned
    rw [hnew]
    exact fun p hp => absurd hp List.not_mem_nil

end

/-! ## The queuer of a probe -/

/-- The monitor has the queuer of a live probe, none of one that is being deleted, and those of other
    probes as before. -/
structure Mirrors (upper : Char → Char) (hub : Hub) (key : ObjectKey) (probe : DNSHealthCheckProbe)
    (m : Monitor) : Prop where
  live : probe.metadata.deletionTimestamp = false → ∃ p ∈ m.probeQueuers,
    (∀ p' ∈ m.probeQueuers, (m.heap.read p').id = probeId key ↔ p' = p) ∧
    (m.heap.read p).Running ∧
    ∀ order notifier, ∃ headers, headersFor order hub probe = .ok headers ∧
      SameCheck (m.heap.read p) (newProbeQueuer upper probe headers notifier)
  deleted : probe.metadata.deletionTimestamp = true →
    ∀ p ∈ m.probeQueuers, (m.heap.read p).id ≠ probeId key
  others : ∀ key', key' ≠ key → '/' ∉ key.ns.toList → '/' ∉ key'.ns.toList →
    SameQueuers (probeId key') hub.monitor m

section
variable {upper : Char → Char} {order : MapOrder} {hub hub' : Hub} {key : ObjectKey}
  {previous : DNSHealthCheckProbe}

theorem Reconciled.mirrors (h : Reconciled upper order hub key previous hub')
    (hkey : previous.metadata.key = key) (hm : hub.monitor.Sound) :
    Mirrors upper hub key previous hub'.monitor := by
  refine ⟨fun hlive => ?_, fun hdeleting p hp => ?_, fun key' hne hns hns' => ?_⟩
  · obtain ⟨-, headers, hheaders, hplaced⟩ := h.placed hlive
    have hm' := hplaced.sound hm
    obtain ⟨p, hp, hid, -⟩ := hplaced.queuer hm (.statusUpdate key)
    rw [hkey] at hid
    refine ⟨p, hp, fun p' hp' => ⟨fun hid' => hm'.eq_of_id hp' hp (hid'.trans hid.symm), ?_⟩,
      hm'.running p hp, fun order' notifier => ?_⟩
    · rintro rfl
      exact hid
    · obtain ⟨headers', hheaders', hperm⟩ := headersFor_perm hheaders order'
      obtain ⟨q, hq, hqid, hsame⟩ := hplaced.queuer hm notifier
      rw [hkey] at hqid
      obtain rfl := hm'.eq_of_id hq hp (hqid.trans hid.symm)
      exact ⟨headers', hheaders', { hsame with additionalHeaders := hsame.additionalHeaders.trans hperm }⟩
  · rw [h.removed hdeleting] at hp ⊢
    rw [Monitor.read_removeProbe_of_mem hm hp]
    exact ((Monitor.mem_removeProbe hm).1 hp).2
  · have hid : probeId key' ≠ probeId key := fun heq => hne ((probeId_inj hns' hns).1 heq)
    cases hdeleting : previous.metadata.deletionTimestamp with
    | true =>
        rw [h.removed hdeleting]
        exact sameQueuers_removeProbe hm hid
    | false =>
        obtain ⟨-, headers, -, hplaced⟩ := h.placed hdeleting
        exact hplaced.others hm (hkey.symm ▸ hid)

/-- A reconcile goes on with the probe when its first call is served. -/
theorem reconcile_eq (hget : hub.probes.get key = some previous) {faults : List (Option Fault)}
    (hserved : faults.head?.join = none) (now : Int) :
    reconcile upper order now key ⟨hub, faults⟩
      = reconcileProbe upper order now previous ⟨hub, faults.tail⟩ := by
  have hread : Api.get probesPart key ⟨hub, faults⟩ = (.ok previous, ⟨hub, faults.tail⟩) := by
    have hfind : (probesPart.get hub).find key = .ok previous := Objects.find_eq_ok.2 hget
    unfold Api.get Api.read Api.call
    simp only [hserved, hfind]
    rfl
  unfold reconcile
  rw [Effect.bind_apply, Effect.attempt_apply, hread]

end

/-- In every state that is reached, the queuers that are listed run under different ids, each of a
    probe that exists, and all others are cancelled; and a reconcile that reads a probe and ends without
    an error leaves exactly the queuer that the probe is to have. -/
theorem monitor_mirrors (upper : Char → Char) {hub₀ : Hub} (hnew : hub₀.monitor = .new)
    {run : List Event} (hrun : Run.Always (step upper) KeepsFinalizer hub₀ run) :
    let hub := run.foldl (step upper) hub₀
    hub.monitor.Sound ∧ Owned hub ∧
      ∀ (order : MapOrder) (now : Int) (key : ObjectKey) (probe : DNSHealthCheckProbe)
        (faults : List (Option Fault)) (served : Served Hub),
        hub.probes.get key = some probe → faults.head?.join = none →
        reconcile upper order now key ⟨hub, faults⟩ = (.ok (), served) →
        Mirrors upper hub key probe served.state.monitor := by
  intro hub
  have hkept : Kept hub := kept_run hnew hrun
  refine ⟨hkept.sound, hkept.owned, fun order now key probe faults served hget hserved hok => ?_⟩
  rw [reconcile_eq hget hserved] at hok
  have hreconciled := (triple_reconcileProbe hget now).of_ok rfl hok
  exact hreconciled.mirrors (Objects.key_of_get hget) hkept.sound

def plainProbe (path : String) : DNSHealthCheckProbe where
  metadata := { name := "probe", ns := "testns" }
  spec := ⟨443, "test.example.com", "1.1.1.1", path, "https", 60, none, some 4, [200], false⟩

/-- A probe that is reconciled, changed and reconciled again. -/
theorem monitor_mirrors_edited :
    let hub := [Event.create (plainProbe "/"), .reconcile .inserted 10 ⟨"testns", "probe"⟩ [],
        .edit (addFinalizer (plainProbe "/healthz"))].foldl (step Char.toUpper)
      ⟨∅, fun _ => none, fun _ => none, fun _ => none, .new⟩
    ∃ served, reconcile Char.toUpper .inserted 20 ⟨"testns", "probe"⟩ ⟨hub, []⟩ = (.ok (), served) ∧
      Mirrors Char.toUpper hub ⟨"testns", "probe"⟩ (addFinalizer (plainProbe "/healthz"))
        served.state.monitor := by
  intro hub
  refine ⟨_, rfl, ?_⟩
  exact (@monitor_mirrors Char.toUpper ⟨∅, fun _ => none, fun _ => none, fun _ => none, .new⟩ rfl
    [.create (plainProbe "/"), .reconcile .inserted 10 ⟨"testns", "probe"⟩ [],
      .edit (addFinalizer (plainProbe "/healthz"))]
    ⟨trivial, trivial, fun _ => rfl, trivial⟩).2.2 .inserted 20 _ _ [] _ rfl rfl rfl

end MultiClusterGateway.HealthCheck
