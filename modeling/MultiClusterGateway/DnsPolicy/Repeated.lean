import MultiClusterGateway.DnsPolicy.History
import MultiClusterGateway.DnsPolicy.Untouched
import MultiClusterGateway.Lib.Run

set_option autoImplicit false

/-! # The records of a Gateway after many reconciles

Reconciles of a Gateway's records come one after the other, with other clusters, probes, policies and
zones each time; some of them fail half way, and other controllers touch the records in between.
Whatever happened before, a reconcile that returns nil leaves for each listener that it publishes the
endpoints that it would leave in a new record, and if it is repeated it changes nothing
(`records_forget_history`).

The invariant is that the endpoints in the records come from calls (`LeftByCalls`), which a
reconcile keeps however it ends, and which others keep as long as they leave the specs alone. From
there `DnsPolicy.History` says that what a call computes does not depend on them. For probes the
same question has a simpler answer, as their specs are overwritten: the probes after a reconcile are
described key by key, and doing it once more changes nothing. -/

namespace MultiClusterGateway

variable {env : Env} {suffixes : SuffixList} {orders : String → MapOrder} {placer : Placer}
  {gateway : Gateway} {dnsPolicy : DNSPolicy} {clusters : List String}

/-! ## What a call leaves -/

section
variable (env orders placer gateway dnsPolicy clusters)

/-- The records after a call that returns nil, key by key. -/
structure RecordsAfter (probes : ProbeStore) (records records' : Objects dnsRecordKind) : Prop where
  published : ∀ listener ∈ visited placer clusters gateway.listeners,
    SetFor env orders placer gateway dnsPolicy clusters probes listener
      (dnsRecordKind.deleteIf (isStale gateway)
        (records.get (dnsRecordKey gateway listener.name)))
      (records'.get (dnsRecordKey gateway listener.name))
  withdrawn : ∀ first rest,
    gateway.listeners.dropWhile (hasRoutes placer clusters) = first :: rest →
      records'.get (dnsRecordKey gateway first.name)
        = (dnsRecordKind.deleteIf (isStale gateway)
            (records.get (dnsRecordKey gateway first.name))).bind dnsRecordKind.deleted
  others : ∀ k,
    (∀ listener ∈ visited placer clusters gateway.listeners,
      k ≠ dnsRecordKey gateway listener.name) →
    (∀ first rest, gateway.listeners.dropWhile (hasRoutes placer clusters) = first :: rest →
      k ≠ dnsRecordKey gateway first.name) →
    records'.get k = dnsRecordKind.deleteIf (isStale gateway) (records.get k)

end

theorem recordsAfter_of_ok {w w' : Served DnsHub}
    (h : reconcileGatewayDNSRecords env suffixes orders placer gateway dnsPolicy w = (.ok (), w'))
    (hclusters : placer.getPlacedClusters = .ok clusters)
    (hnames : (gateway.listeners.map (·.name)).Nodup) :
    RecordsAfter env orders placer gateway dnsPolicy clusters w.state.probes w.state.records
      w'.state.records := by
  unfold reconcileGatewayDNSRecords at h
  obtain ⟨_, w₁, hremove, hloop⟩ := Effect.bind_eq_ok.1 h
  rw [hclusters] at hloop
  have hremoved := triple_removeDNSForDeletedListeners.of_ok rfl hremove
  have hget (k : ObjectKey) : w₁.state.records.get k
      = dnsRecordKind.deleteIf (isStale gateway) (w.state.records.get k) := hremoved.get k
  have hprobes : w₁.state.probes = w.state.probes := by
    obtain ⟨records, hset, -⟩ := hremoved
    rw [hset]
    rfl
  refine ⟨fun listener hl => ?_, fun first rest hdrop => ?_, fun k hvisited hfirst => ?_⟩
  · rw [← hget, ← hprobes]
    exact reconcileListeners_visited hloop hnames hl
  · rw [← hget]
    exact reconcileListeners_first hloop hdrop hnames
  · rw [← hget]
    exact reconcileListeners_other hloop hnames hvisited hfirst

theorem exists_placedClusters {w w' : Served DnsHub}
    (h : reconcileGatewayDNSRecords env suffixes orders placer gateway dnsPolicy w = (.ok (), w')) :
    ∃ clusters, placer.getPlacedClusters = .ok clusters := by
  unfold reconcileGatewayDNSRecords at h
  obtain ⟨_, w₁, -, hloop⟩ := Effect.bind_eq_ok.1 h
  cases hplaced : placer.getPlacedClusters with
  | ok clusters => exact ⟨clusters, rfl⟩
  | error e =>
      rw [hplaced] at hloop
      cases hloop

/-! ## Endpoints that calls have left -/

section
variable (env placer gateway dnsPolicy clusters)

/-- The geo codes, clusters and host names of a call are such that the endpoints of every listener
    are told apart. -/
def TellsApart : Prop :=
  ∀ listener ∈ gateway.listeners, ∀ host clusterGateways t, listener.hostname = some host →
    collectClusterGateways placer listener.name clusters = .ok clusterGateways →
    MultiClusterGatewayTarget.new gateway clusterGateways dnsPolicy.loadBalancing = .ok t →
    Admissible env t host ∧ ClustersOnce t

/-- The endpoints in the records of the listeners come from calls. -/
def LeftByCalls (records : Objects dnsRecordKind) : Prop :=
  ∀ listener ∈ gateway.listeners, ∀ host, listener.hostname = some host → ∀ record,
    records.get (dnsRecordKey gateway listener.name) = some record →
    ∀ e ∈ record.spec.endpoints, LeftBehind env gateway host e

end

/-- A call for a target of the Gateway, on endpoints that calls have left. -/
theorem setEndpoints_of_leftBehind {t : MultiClusterGatewayTarget} {host listenerName : String}
    (hgateway : t.gateway = gateway) (hA : Admissible env t host) (hO : ClustersOnce t)
    {before : List Endpoint} (hbefore : ∀ e ∈ before, LeftBehind env gateway host e)
    (order : MapOrder) (probes : List DNSHealthCheckProbe) :
    setEndpoints env order t before probes listenerName host
        = setEndpoints env order t [] probes listenerName host ∧
      ∀ e ∈ setEndpoints env order t before probes listenerName host,
        LeftBehind env gateway host e := by
  subst hgateway
  exact @Call.endpoints_of_leftBehind env t.gateway listenerName host
    ⟨order, t.clusterGatewayTargets, t.loadBalancing, probes⟩ hA hO before hbefore

/-- What a call computes for a listener does not depend on the endpoints that calls have left. -/
theorem computedEndpoints_of_leftBehind {probes : ProbeStore} {listener : Listener}
    {record : DNSRecord} {endpoints : List Endpoint}
    (hapart : TellsApart env placer gateway dnsPolicy clusters) (hl : listener ∈ gateway.listeners)
    (hleft : ∀ host, listener.hostname = some host →
      ∀ e ∈ record.spec.endpoints, LeftBehind env gateway host e)
    (h : computedEndpoints env orders placer gateway dnsPolicy clusters probes listener record
      = some endpoints) :
    (∀ before, (∀ host, listener.hostname = some host →
        ∀ e ∈ before, LeftBehind env gateway host e) →
      computedEndpoints env orders placer gateway dnsPolicy clusters probes listener
        (record.withEndpoints before) = some endpoints) ∧
    ∀ host, listener.hostname = some host → ∀ e ∈ endpoints, LeftBehind env gateway host e := by
  unfold computedEndpoints at h ⊢
  cases hhost : listener.hostname with
  | none => simp [hhost] at h
  | some host =>
      cases hcollect : collectClusterGateways placer listener.name clusters with
      | error e => simp [hhost, hcollect] at h
      | ok cgs =>
          cases hnew : MultiClusterGatewayTarget.new gateway cgs dnsPolicy.loadBalancing with
          | error e => simp [hhost, hcollect, hnew] at h
          | ok t =>
              obtain ⟨hA, hO⟩ := hapart listener hl host cgs t hhost hcollect hnew
              have hset (before : List Endpoint)
                  (hbefore : ∀ e ∈ before, LeftBehind env gateway host e) :=
                @setEndpoints_of_leftBehind env gateway t host listener.name (gateway_new hnew) hA hO
                  before hbefore (orders listener.name) (listedProbes gateway dnsPolicy probes)
              have hown := hset record.spec.endpoints (hleft host hhost)
              simp only [hhost, hcollect, hnew, Option.some.injEq] at h
              refine ⟨fun before hbefore => ?_, fun host' hhost' => ?_⟩
              · simp only [hnew, DNSRecord.withEndpoints, Option.some.injEq]
                rw [(hset before (hbefore host rfl)).1, ← hown.1, h]
              · cases hhost'
                rw [← h]
                exact hown.2

/-! ## The same call once more -/

/-- Records that are left after the removal of stale ones stay with other endpoints. -/
theorem deleteIf_isStale_withEndpoints {record : DNSRecord} (endpoints : List Endpoint)
    (h : dnsRecordKind.deleteIf (isStale gateway) (some record) = some record) :
    dnsRecordKind.deleteIf (isStale gateway) (some (record.withEndpoints endpoints))
      = some (record.withEndpoints endpoints) := by
  have hsame : isStale gateway (record.withEndpoints endpoints) = isStale gateway record := rfl
  cases hstale : isStale gateway record with
  | false => exact Kind.deleteIf_of_false (hsame.trans hstale)
  | true =>
      rw [Kind.deleteIf_of_true hstale, Kind.deleted_eq_some] at h
      rw [Kind.deleteIf_of_true (hsame.trans hstale)]
      refine Kind.deleted_of_marked h.1 ?_
      show dnsRecordKind.marked record = true
      rw [h.2]
      exact dnsRecordKind.marked_mark true record

/-- A published record has the endpoints that a call computes from any endpoints of calls, and the
    removal of stale records leaves it. -/
theorem SetFor.endpoints {probes : ProbeStore} {listener : Listener} {o o' : Option DNSRecord}
    (hapart : TellsApart env placer gateway dnsPolicy clusters) (hl : listener ∈ gateway.listeners)
    (hleft : ∀ record, o = some record → ∀ host, listener.hostname = some host →
      ∀ e ∈ record.spec.endpoints, LeftBehind env gateway host e)
    (h : SetFor env orders placer gateway dnsPolicy clusters probes listener
      (dnsRecordKind.deleteIf (isStale gateway) o) o') :
    ∃ record, o' = some record ∧ dnsRecordKind.deleteIf (isStale gateway) o' = o' ∧
      (∀ host, listener.hostname = some host →
        ∀ e ∈ record.spec.endpoints, LeftBehind env gateway host e) ∧
      ∀ before, (∀ host, listener.hostname = some host →
          ∀ e ∈ before, LeftBehind env gateway host e) →
        computedEndpoints env orders placer gateway dnsPolicy clusters probes listener
          (record.withEndpoints before) = some record.spec.endpoints := by
  obtain ⟨record, endpoints, hrecord, hcomputed, rfl⟩ := h
  have hstays : dnsRecordKind.deleteIf (isStale gateway) (some (record.withEndpoints endpoints))
      = some (record.withEndpoints endpoints) := by
    rcases hrecord with hrecord | ⟨-, mz, rfl⟩
    · refine deleteIf_isStale_withEndpoints endpoints ?_
      rw [← hrecord]
      exact Kind.deleteIf_deleteIf
    · exact Kind.deleteIf_of_false (isStale_build hl mz endpoints)
  have hown : ∀ host, listener.hostname = some host →
      ∀ e ∈ record.spec.endpoints, LeftBehind env gateway host e := by
    intro host hhost e he
    rcases hrecord with hrecord | ⟨-, mz, rfl⟩
    · obtain ⟨v, hv, -, hsame⟩ := exists_of_deleteIf hrecord
      have hspec : record.spec = v.spec := by
        rcases hsame with rfl | ⟨-, rfl⟩ <;> rfl
      exact hleft v hv host hhost e (hspec ▸ he)
    · simp [buildDNSRecordForListener] at he
  obtain ⟨hagain, hendpoints⟩ := computedEndpoints_of_leftBehind hapart hl hown hcomputed
  exact ⟨_, rfl, hstays, hendpoints, hagain⟩

/-- A listener that was published is published again, with nothing to change. -/
theorem SetFor.again {probes : ProbeStore} {listener : Listener} {o o' o'' : Option DNSRecord}
    (hapart : TellsApart env placer gateway dnsPolicy clusters) (hl : listener ∈ gateway.listeners)
    (hleft : ∀ record, o = some record → ∀ host, listener.hostname = some host →
      ∀ e ∈ record.spec.endpoints, LeftBehind env gateway host e)
    (h : SetFor env orders placer gateway dnsPolicy clusters probes listener
      (dnsRecordKind.deleteIf (isStale gateway) o) o')
    (h' : SetFor env orders placer gateway dnsPolicy clusters probes listener
      (dnsRecordKind.deleteIf (isStale gateway) o') o'') : o'' = o' := by
  obtain ⟨record, rfl, hstays, hendpoints, hcomputed⟩ := h.endpoints hapart hl hleft
  obtain ⟨record', endpoints', hrecord', hcomputed', rfl⟩ := h'
  have hsame : record' = record := by
    rcases hrecord' with hrecord' | ⟨hnone, -⟩
    · exact (Option.some.inj (hstays.symm.trans hrecord')).symm
    · rw [hstays] at hnone
      cases hnone
  subst hsame
  have hown : record'.withEndpoints record'.spec.endpoints = record' := rfl
  have hcomputed'' := hcomputed _ hendpoints
  rw [hown, hcomputed'] at hcomputed''
  rw [Option.some.inj hcomputed'', hown]

theorem RecordsAfter.again {probes : ProbeStore} {records records' records'' : Objects dnsRecordKind}
    (hapart : TellsApart env placer gateway dnsPolicy clusters)
    (hleft : LeftByCalls env gateway records)
    (h : RecordsAfter env orders placer gateway dnsPolicy clusters probes records records')
    (h' : RecordsAfter env orders placer gateway dnsPolicy clusters probes records' records'')
    (k : ObjectKey) : records''.get k = records'.get k := by
  by_cases hvisited : ∃ listener ∈ visited placer clusters gateway.listeners,
      k = dnsRecordKey gateway listener.name
  · obtain ⟨listener, hl, rfl⟩ := hvisited
    have hmem : listener ∈ gateway.listeners := (List.takeWhile_sublist _).subset hl
    exact SetFor.again hapart hmem
      (fun record hrecord host hhost => hleft listener hmem host hhost record hrecord)
      (h.published listener hl) (h'.published listener hl)
  · by_cases hfirst : ∃ first rest,
        gateway.listeners.dropWhile (hasRoutes placer clusters) = first :: rest ∧
        k = dnsRecordKey gateway first.name
    · obtain ⟨first, rest, hdrop, rfl⟩ := hfirst
      rw [h'.withdrawn first rest hdrop, h.withdrawn first rest hdrop, Kind.deleteIf_bind_deleted,
        Kind.bind_deleted_bind_deleted]
    · push Not at hvisited hfirst
      rw [h'.others k hvisited hfirst, h.others k hvisited hfirst]
      exact Kind.deleteIf_deleteIf

/-! ## Calls that fail on the way -/

/-- No record has appeared, and none has another spec. -/
def SameSpecs (records records' : Objects dnsRecordKind) : Prop :=
  ∀ k record', records'.get k = some record' →
    ∃ record, records.get k = some record ∧ record'.spec = record.spec

section
variable {hub hub' : DnsHub} {listener : Listener} {host : String} {mz : ManagedZoneObject}

theorem LeftByCalls.of_sameSpecs {records records' : Objects dnsRecordKind}
    (h : LeftByCalls env gateway records) (hsame : SameSpecs records records') :
    LeftByCalls env gateway records' := by
  intro listener hl host hhost record' hget' e he
  obtain ⟨record, hget, hspec⟩ := hsame _ record' hget'
  exact h listener hl host hhost record hget e (hspec ▸ he)

/-- A record of a listener is written with endpoints of a call. -/
theorem LeftByCalls.written {record : DNSRecord} (h : LeftByCalls env gateway hub.records)
    (hnames : (gateway.listeners.map (·.name)).Nodup) (hl : listener ∈ gateway.listeners)
    (hhost : listener.hostname = some host)
    (hwritten : RecordWritten (dnsRecordKey gateway listener.name) record hub hub')
    (hrecord : ∀ e ∈ record.spec.endpoints, LeftBehind env gateway host e) :
    LeftByCalls env gateway hub'.records := by
  intro other hother host' hhost' record' hget e he
  by_cases hname : other.name = listener.name
  · have hsame : other = listener := List.inj_on_of_nodup_map hnames hother hl hname
    subst hsame
    rw [hwritten.written] at hget
    cases hget
    cases hhost.symm.trans hhost'
    exact hrecord e he
  · rw [hwritten.others _ (dnsRecordKey_ne hname)] at hget
    exact h other hother host' hhost' record' hget e he

theorem triple_delete_leftByCalls (k : ObjectKey) :
    Api.Triple (fun s => LeftByCalls env gateway s.records) (Api.delete recordsPart k)
      (fun _ s => LeftByCalls env gateway s.records)
      (fun _ s => LeftByCalls env gateway s.records) := by
  refine Api.triple_delete.mono (fun _ h => h) ?_ fun _ _ h => h.1
  rintro _ _ ⟨s, record, hs, hget, rfl⟩
  refine hs.of_sameSpecs fun k' record' hget' => ?_
  have hput : (s.records.put (dnsRecordKind.mark true record)).get k' = some record' := hget'
  rw [Objects.get_put, dnsRecordKind.key_mark] at hput
  by_cases hk : k' = dnsRecordKind.key record
  · rw [if_pos hk] at hput
    have hkey : dnsRecordKind.key record = k := Objects.key_of_get hget
    refine ⟨record, (hk.trans hkey) ▸ hget, ?_⟩
    split at hput
    · cases hput
    · rw [← Option.some.inj hput]
      rfl
  · rw [if_neg hk] at hput
    exact ⟨record', hput, rfl⟩

theorem triple_ignoreNotFound_delete_leftByCalls (k : ObjectKey) :
    Api.Triple (fun s => LeftByCalls env gateway s.records)
      (Api.ignoreNotFound (Api.delete recordsPart k))
      (fun _ s => LeftByCalls env gateway s.records)
      (fun _ s => LeftByCalls env gateway s.records) :=
  Api.triple_ignoreNotFound (triple_delete_leftByCalls k) (fun _ _ _ h => h) fun _ _ _ h => h

theorem triple_removeDNS_leftByCalls :
    Api.Triple (fun s => LeftByCalls env gateway s.records) (removeDNSForDeletedListeners gateway)
      (fun _ s => LeftByCalls env gateway s.records)
      (fun _ s => LeftByCalls env gateway s.records) := by
  unfold removeDNSForDeletedListeners
  refine Api.triple_list.bind (fun _ _ h => h.1) fun dnsList => ?_
  refine Effect.Spec.mono (Effect.Spec.forEach fun dns _ => ?_) (fun _ h => h.1) (fun _ _ h => h)
    fun _ _ h => h
  split
  · exact Effect.Spec.pure fun _ h => h
  · exact triple_ignoreNotFound_delete_leftByCalls _

/-- A record that a call obtains has endpoints of calls, and so have all afterwards. -/
theorem LeftByCalls.obtained {record : DNSRecord} (h : LeftByCalls env gateway hub.records)
    (hnames : (gateway.listeners.map (·.name)).Nodup) (hl : listener ∈ gateway.listeners)
    (hhost : listener.hostname = some host) (hmz : mz.metadata.ns = gateway.ns)
    (hobtained : Obtained gateway dnsPolicy listener mz hub record hub') :
    LeftByCalls env gateway hub'.records ∧
      ∀ e ∈ record.spec.endpoints, LeftBehind env gateway host e := by
  have hwritten := hobtained.written hmz
  rcases hobtained with ⟨hget, rfl⟩ | ⟨hfree, rfl, -⟩
  · exact ⟨h, h listener hl host hhost record hget⟩
  · have hnil : ∀ e ∈ (buildDNSRecordForListener gateway dnsPolicy listener mz).spec.endpoints,
        LeftBehind env gateway host e := by simp [buildDNSRecordForListener]
    exact ⟨h.written hnames hl hhost hwritten hnil, hnil⟩

theorem triple_publishListener_leftByCalls {clusterGateways : List ClusterGateway}
    (hapart : TellsApart env placer gateway dnsPolicy clusters)
    (hnames : (gateway.listeners.map (·.name)).Nodup) (hl : listener ∈ gateway.listeners)
    (hhost : listener.hostname = some host) (hmz : mz.metadata.ns = gateway.ns)
    (hcollect : collectClusterGateways placer listener.name clusters = .ok clusterGateways) :
    Api.Triple (fun s => LeftByCalls env gateway s.records)
      (publishListener env orders gateway dnsPolicy mz listener host clusterGateways)
      (fun _ s => LeftByCalls env gateway s.records)
      (fun _ s => LeftByCalls env gateway s.records) := by
  refine Effect.Spec.of_state fun hub hw => ?_
  unfold publishListener
  refine (triple_obtainDNSRecord hmz listener host).bind (fun _ s hs => ?_) fun record => ?_
  · rw [hs]
    exact hw
  · cases hnew : MultiClusterGatewayTarget.new gateway clusterGateways dnsPolicy.loadBalancing with
    | error text =>
        exact Effect.Spec.fail fun s hs => (hw.obtained hnames hl hhost hmz hs).1
    | ok t =>
        refine Effect.Spec.of_state fun hub₁ hobtained => ?_
        obtain ⟨hleft, hrecord⟩ := hw.obtained hnames hl hhost hmz hobtained
        obtain ⟨hA, hO⟩ := hapart listener hl host clusterGateways t hhost hcollect hnew
        refine (triple_mapError (triple_setRecordEndpoints (hobtained.written hmz).written
          (orders listener.name) t listener.name host) _).mono (fun _ h => h) ?_ ?_
        · intro _ s hs
          refine hleft.written hnames hl hhost hs ?_
          exact (setEndpoints_of_leftBehind (gateway_new hnew) hA hO hrecord _ _).2
        · rintro _ s ⟨_, rfl⟩
          exact hleft

theorem triple_reconcileListener_leftByCalls
    (hapart : TellsApart env placer gateway dnsPolicy clusters)
    (hnames : (gateway.listeners.map (·.name)).Nodup) (hl : listener ∈ gateway.listeners) :
    Api.Triple (fun s => LeftByCalls env gateway s.records)
      (reconcileListener env suffixes orders placer gateway dnsPolicy clusters listener)
      (fun _ s => LeftByCalls env gateway s.records)
      (fun _ s => LeftByCalls env gateway s.records) := by
  refine Effect.Spec.of_state fun hub hw => ?_
  unfold reconcileListener
  refine (triple_getManagedZoneForListener gateway.ns listener).bind (fun _ s hs => ?_)
    fun mz => Effect.Spec.given ?_
  · rw [hs]
    exact hw
  · rintro ⟨host, hhost, hzone⟩
    have hne := host_ne_empty hzone
    simp only [hhost]
    cases hcollect : collectClusterGateways placer listener.name clusters with
    | error e => exact Effect.Spec.fail fun s hs => hs ▸ hw
    | ok clusterGateways =>
        have hstate (s : DnsHub) (hs : s = hub) : LeftByCalls env gateway s.records := hs ▸ hw
        cases clusterGateways with
        | nil =>
            refine Effect.Spec.bind ((triple_mapError
              (triple_ignoreNotFound_delete_leftByCalls _) _).mono hstate (fun _ _ h => h)
                fun _ _ ⟨_, h⟩ => h) (fun _ _ h => h) fun _ => Effect.Spec.pure fun _ h => h
        | cons cg rest =>
            refine Effect.Spec.bind ((triple_publishListener_leftByCalls hapart hnames hl hhost
              (selectedZone_ns hzone) hcollect).mono hstate (fun _ _ h => h) fun _ _ h => h)
              (fun _ _ h => h) fun _ => Effect.Spec.pure fun _ h => h

theorem triple_reconcileListeners_leftByCalls
    (hapart : TellsApart env placer gateway dnsPolicy clusters)
    (hnames : (gateway.listeners.map (·.name)).Nodup) {listeners : List Listener}
    (hsub : listeners ⊆ gateway.listeners) :
    Api.Triple (fun s => LeftByCalls env gateway s.records)
      (reconcileListeners env suffixes orders placer gateway dnsPolicy clusters listeners)
      (fun _ s => LeftByCalls env gateway s.records)
      (fun _ s => LeftByCalls env gateway s.records) := by
  induction listeners with
  | nil => exact Effect.Spec.pure fun _ h => h
  | cons listener rest ih =>
      unfold reconcileListeners
      obtain ⟨hl, hrest⟩ := List.cons_subset.1 hsub
      refine (triple_reconcileListener_leftByCalls hapart hnames hl).bind (fun _ _ h => h)
        fun flow => ?_
      cases flow with
      | next => exact ih hrest
      | done => exact Effect.Spec.pure fun _ h => h

/-- However a reconcile ends, the endpoints in the records come from calls. -/
theorem triple_reconcile_leftByCalls
    (hapart : ∀ clusters, placer.getPlacedClusters = .ok clusters →
      TellsApart env placer gateway dnsPolicy clusters)
    (hnames : (gateway.listeners.map (·.name)).Nodup) :
    Api.Triple (fun s => LeftByCalls env gateway s.records)
      (reconcileGatewayDNSRecords env suffixes orders placer gateway dnsPolicy)
      (fun _ s => LeftByCalls env gateway s.records)
      (fun _ s => LeftByCalls env gateway s.records) := by
  unfold reconcileGatewayDNSRecords
  refine triple_removeDNS_leftByCalls.bind (fun _ _ h => h) fun _ => ?_
  cases hplaced : placer.getPlacedClusters with
  | error e => exact Effect.Spec.fail fun _ h => h
  | ok clusters =>
      exact triple_reconcileListeners_leftByCalls (hapart clusters hplaced) hnames
        (List.Subset.refl _)

end

/-! ## Runs -/

/-- One reconcile of a Gateway's records: what it is given, and how its calls to the server fare. -/
structure Attempt where
  suffixes : SuffixList
  orders : String → MapOrder
  placer : Placer
  dnsPolicy : DNSPolicy
  zones : Objects managedZoneKind
  probes : ProbeStore
  faults : List (Option Fault) := []

/-- How it ends, and the records afterwards. -/
def Attempt.run (env : Env) (gateway : Gateway) (a : Attempt) (records : Objects dnsRecordKind) :
    Except ApiError Unit × Objects dnsRecordKind :=
  let result := reconcileGatewayDNSRecords env a.suffixes a.orders a.placer gateway a.dnsPolicy
    ⟨⟨records, a.zones, a.probes⟩, a.faults⟩
  (result.1, result.2.state.records)

/-- Wherever the Gateway is placed, the names of its endpoints tell them apart. -/
def Attempt.TellsApart (env : Env) (gateway : Gateway) (a : Attempt) : Prop :=
  ∀ clusters, a.placer.getPlacedClusters = .ok clusters →
    MultiClusterGateway.TellsApart env a.placer gateway a.dnsPolicy clusters

/-- A reconcile, or anything that others do to the records. -/
inductive RecordsEvent where
  | attempt (a : Attempt)
  | others (records : Objects dnsRecordKind)

/-- The records after an event. -/
def recordsStep (env : Env) (gateway : Gateway) (records : Objects dnsRecordKind) :
    RecordsEvent → Objects dnsRecordKind
  | .attempt a => (a.run env gateway records).2
  | .others records' => records'

/-- Others leave the specs of the records to this controller. -/
def RecordsEvent.Allowed (env : Env) (gateway : Gateway) (records : Objects dnsRecordKind) :
    RecordsEvent → Prop
  | .attempt a => a.TellsApart env gateway
  | .others records' => SameSpecs records records'

theorem leftByCalls_step {records : Objects dnsRecordKind} {e : RecordsEvent}
    (hnames : (gateway.listeners.map (·.name)).Nodup) (h : LeftByCalls env gateway records)
    (he : e.Allowed env gateway records) :
    LeftByCalls env gateway (recordsStep env gateway records e) := by
  cases e with
  | attempt a => exact (triple_reconcile_leftByCalls he hnames).ends h
  | others records' => exact h.of_sameSpecs he

/-- After any run of reconciles, failed ones among them, and of what others do, a reconcile that
    returns nil leaves in the record of each listener that it publishes the endpoints that it would
    leave in a record without endpoints, and repeated with the same answers it changes no record. The
    targets of all these reconciles have to be such that their endpoints are told apart; two clusters
    behind one hostname are not. -/
theorem records_forget_history (env : Env) (gateway : Gateway) (events : List RecordsEvent)
    (a : Attempt) (hnames : (gateway.listeners.map (·.name)).Nodup)
    (hevents : Run.Always (recordsStep env gateway) (RecordsEvent.Allowed env gateway) ∅ events)
    (hapart : a.TellsApart env gateway) :
    let records := events.foldl (recordsStep env gateway) ∅
    (a.run env gateway records).1 = .ok () →
    let records' := (a.run env gateway records).2
    (∃ clusters, a.placer.getPlacedClusters = .ok clusters ∧
      ∀ listener ∈ visited a.placer clusters gateway.listeners, ∃ record,
        records'.get (dnsRecordKey gateway listener.name) = some record ∧
        computedEndpoints env a.orders a.placer gateway a.dnsPolicy clusters a.probes listener
          (record.withEndpoints []) = some record.spec.endpoints) ∧
    ∀ faults, (Attempt.run env gateway { a with faults := faults } records').1 = .ok () →
      ∀ k, (Attempt.run env gateway { a with faults := faults } records').2.get k
        = records'.get k := by
  intro records hok records'
  have hleft : LeftByCalls env gateway records :=
    Run.invariant (fun _ _ h he => leftByCalls_step hnames h he)
      (fun _ _ _ _ _ hget => by simp at hget) hevents
  have hrun : reconcileGatewayDNSRecords env a.suffixes a.orders a.placer gateway a.dnsPolicy
      ⟨⟨records, a.zones, a.probes⟩, a.faults⟩ = (.ok (), _) := Prod.ext hok rfl
  obtain ⟨clusters, hclusters⟩ := exists_placedClusters hrun
  have hafter := recordsAfter_of_ok hrun hclusters hnames
  refine ⟨⟨clusters, hclusters, fun listener hl => ?_⟩, fun faults hagain k => ?_⟩
  · have hmem : listener ∈ gateway.listeners := (List.takeWhile_sublist _).subset hl
    obtain ⟨record, hget, -, -, hcomputed⟩ := (hafter.published listener hl).endpoints
      (hapart clusters hclusters) hmem
      fun record hget host hhost => hleft listener hmem host hhost record hget
    exact ⟨record, hget, hcomputed [] fun _ _ e he => by simp at he⟩
  · have hrun' : reconcileGatewayDNSRecords env a.suffixes a.orders a.placer gateway a.dnsPolicy
        ⟨⟨records', a.zones, a.probes⟩, faults⟩ = (.ok (), _) := Prod.ext hagain rfl
    exact hafter.again (hapart clusters hclusters) hleft
      (recordsAfter_of_ok hrun' hclusters hnames) k

namespace ListenerSample

/-- A reconcile without probes that nothing goes wrong in. -/
def attempt : Attempt where
  suffixes := .topLevel
  orders _ := .inserted
  placer := placerWith fun _ => 1
  dnsPolicy := probingPolicy
  zones := zonedHub.zones
  probes := ∅

/-- The attempt with its first call to the server refused. -/
def refusedAttempt : Attempt := { attempt with faults := [some { message := "refused" }] }

theorem tellsApart_attempt : attempt.TellsApart .sample (gatewayWith [testListener]) := by
  intro clusters hclusters listener hl host cgs t hhost hcollect hnew
  obtain rfl : clusters = ["test-cluster-1"] := (Except.ok.inj hclusters).symm
  obtain rfl : listener = testListener := by simpa [gatewayWith] using hl
  obtain rfl : host = "test.example.com" := (Option.some.inj hhost).symm
  obtain rfl : cgs = [⟨{ name := "test-cluster-1" }, [⟨.ipAddress, "1.1.1.1"⟩]⟩] :=
    (Except.ok.inj hcollect).symm
  obtain rfl : t = targetOf (gatewayWith [testListener]) := (Except.ok.inj hnew).symm
  refine ⟨⟨by decide, by decide, by decide, by decide, by decide, fun code => ?_⟩, by decide⟩
  exact List.Nodup.sublist (List.filter_sublist.flatMap _) (by decide)

theorem records_forget_history_afterRefused :
    let records := recordsStep .sample (gatewayWith [testListener]) ∅ (.attempt refusedAttempt)
    let result := attempt.run .sample (gatewayWith [testListener]) records
    result.1 = .ok () ∧
    (∃ record, result.2.get (dnsRecordKey probedGateway "test") = some record ∧
      computedEndpoints .sample attempt.orders attempt.placer (gatewayWith [testListener])
        probingPolicy ["test-cluster-1"] ∅ testListener (record.withEndpoints [])
        = some record.spec.endpoints) ∧
    ∀ k, (attempt.run .sample (gatewayWith [testListener]) result.2).1 = .ok () →
      (attempt.run .sample (gatewayWith [testListener]) result.2).2.get k = result.2.get k := by
  have hok := congrArg Prod.fst reconcileSample_test
  obtain ⟨⟨clusters, hclusters, hpublished⟩, hagain⟩ := records_forget_history .sample
    (gatewayWith [testListener]) [.attempt refusedAttempt] attempt (by decide)
    ⟨tellsApart_attempt, trivial⟩ tellsApart_attempt hok
  obtain rfl : clusters = ["test-cluster-1"] := (Except.ok.inj hclusters).symm
  exact ⟨hok, hpublished testListener (by decide), fun k h => hagain [] h k⟩

end ListenerSample

/-! ## The probes -/

section
variable {expectedProbes : List DNSHealthCheckProbe} {o : Option DNSHealthCheckProbe} {k : ObjectKey}

theorem key_upserted (ho : ∀ p, o = some p → p.metadata.key = k) {p : DNSHealthCheckProbe}
    (h : upserted expectedProbes k o = some p) : p.metadata.key = k := by
  induction expectedProbes generalizing o with
  | nil => exact ho p h
  | cons e rest ih =>
      refine @ih (upsertsAt e k o) (fun q hq => ?_) h
      unfold upsertsAt at hq
      split at hq
      · rename_i hk
        rw [← Option.some.inj hq]
        cases o with
        | none => exact hk.symm
        | some old => exact ho old rfl
      · exact ho q hq

/-- The probe under the key of an expected one has the spec that the last one with this key gives
    it. -/
theorem spec_upserted {e : DNSHealthCheckProbe} (hlast : lastExpected expectedProbes k = some e) :
    ∃ p, upserted expectedProbes k o = some p ∧ p.spec = e.spec := by
  induction expectedProbes using List.reverseRecOn with
  | nil => simp [lastExpected] at hlast
  | append_singleton rest e' ih =>
      have hround : upserted (rest ++ [e']) k o = upsertsAt e' k (upserted rest k o) := by
        simp [upserted]
      rw [hround]
      unfold upsertsAt
      by_cases hk : k = e'.metadata.key
      · have he : e' = e := by simpa [lastExpected, hk] using hlast
        exact ⟨_, if_pos hk, by rw [he]⟩
      · rw [if_neg hk]
        refine ih ?_
        simpa [lastExpected, List.filter_append, Ne.symm hk] using hlast

/-- What a call leaves under a key. -/
def probeAfterCall (expectedProbes : List DNSHealthCheckProbe) (gateway : Gateway)
    (dnsPolicy : DNSPolicy) (k : ObjectKey) (o : Option DNSHealthCheckProbe) :
    Option DNSHealthCheckProbe :=
  probeKind.deleteIf (isUnexpected expectedProbes gateway dnsPolicy) (upserted expectedProbes k o)

theorem probeAfterCall_of_none (h : lastExpected expectedProbes k = none) :
    probeAfterCall expectedProbes gateway dnsPolicy k o
      = probeKind.deleteIf (isUnexpected expectedProbes gateway dnsPolicy) o := by
  rw [probeAfterCall, upserted_of_none h]

theorem probeAfterCall_of_some (ho : ∀ p, o = some p → p.metadata.key = k)
    {e : DNSHealthCheckProbe} (hlast : lastExpected expectedProbes k = some e) :
    probeAfterCall expectedProbes gateway dnsPolicy k o = upserted expectedProbes k o ∧
      ∃ p, upserted expectedProbes k o = some p ∧ p.metadata.key = k ∧ p.spec = e.spec := by
  obtain ⟨p, hp, hspec⟩ := @spec_upserted _ o _ _ hlast
  obtain ⟨hmem, hkey⟩ := mem_of_lastExpected hlast
  have hpkey := key_upserted ho hp
  refine ⟨?_, p, hp, hpkey, hspec⟩
  rw [probeAfterCall, hp]
  exact Kind.deleteIf_of_false (isUnexpected_of_key hmem (hkey.trans hpkey.symm))

/-- Under a key that no expected probe has, the labels decide. -/
theorem isUnexpected_of_none (hlast : lastExpected expectedProbes k = none)
    {p : DNSHealthCheckProbe} (hkey : p.metadata.key = k) :
    isUnexpected expectedProbes gateway dnsPolicy p
      = p.metadata.labels.matches (commonDNSRecordLabels gateway.key dnsPolicy.key) := by
  have hnone : (expectedProbes.any fun expected => expected.metadata.name == p.metadata.name &&
      expected.metadata.ns == p.metadata.ns) = false := by
    refine List.any_eq_false.2 fun e he hsame => ?_
    rw [Bool.and_eq_true, beq_iff_eq, beq_iff_eq] at hsame
    refine lastExpected_eq_none.1 hlast e he ?_
    rw [← hkey]
    exact congrArg₂ ObjectKey.mk hsame.2 hsame.1
  simp [isUnexpected, hnone]

/-- The same call once more. -/
theorem probeAfterCall_twice (ho : ∀ p, o = some p → p.metadata.key = k) :
    probeAfterCall expectedProbes gateway dnsPolicy k
        (probeAfterCall expectedProbes gateway dnsPolicy k o)
      = probeAfterCall expectedProbes gateway dnsPolicy k o := by
  cases hlast : lastExpected expectedProbes k with
  | none =>
      rw [probeAfterCall_of_none hlast, probeAfterCall_of_none hlast]
      exact Kind.deleteIf_deleteIf
  | some e =>
      obtain ⟨hfirst, p, hp, hkey, hspec⟩ :=
        @probeAfterCall_of_some gateway dnsPolicy _ _ _ ho _ hlast
      have hown : ∀ q, some p = some q → q.metadata.key = k := by
        intro q hq
        rw [← Option.some.inj hq]
        exact hkey
      rw [hfirst, hp, (@probeAfterCall_of_some gateway dnsPolicy _ _ _ hown _ hlast).1,
        upserted_some, hlast, Option.map_some, Option.getD_some, ← hspec]

end

theorem key_deleteIf {unexpected : DNSHealthCheckProbe → Bool} {o : Option DNSHealthCheckProbe}
    {k : ObjectKey} (ho : ∀ p, o = some p → p.metadata.key = k) {p : DNSHealthCheckProbe}
    (h : probeKind.deleteIf unexpected o = some p) : p.metadata.key = k := by
  rcases Kind.eq_or_marked_of_deleteIf h with hsame | ⟨v, hv, -, rfl⟩
  · exact ho p hsame
  · exact ho v hv

theorem reconcileGatewayProbes_ok {expectedProbes : List DNSHealthCheckProbe}
    {w w' : Served DnsHub} (h : reconcileGatewayProbes gateway dnsPolicy w = (.ok (), w'))
    (hexpected : expectedProbesForGateway gateway dnsPolicy = .ok expectedProbes) (k : ObjectKey) :
    w'.state.probes.get k
      = probeAfterCall expectedProbes gateway dnsPolicy k (w.state.probes.get k) := by
  have hlive : ∀ e ∈ expectedProbes, e.metadata.deletionTimestamp = false := by
    intro e he
    obtain ⟨healthCheck, address, listener, hostname, rfl⟩ :=
      mem_expectedProbesForGateway hexpected he
    rfl
  unfold reconcileGatewayProbes at h
  rw [hexpected] at h
  obtain ⟨_, w₁, hupsert, hdelete⟩ := Effect.bind_eq_ok.1 h
  have hupserted := (triple_mapError (triple_createOrUpdateProbes hlive) _).of_ok rfl hupsert
  have hdeleted := (triple_mapError triple_deleteUnexpectedGatewayProbes _).of_ok rfl hdelete
  exact (hupserted.trans hdeleted).get k

/-- After a reconcile of the probes of a Gateway that returns nil there is one under the key of each
    expected probe, with the spec of the last one that is expected under the key, and all else of one
    that was there before. The other probes that are labelled with the Gateway and the policy are gone or being deleted, no other probe has
    changed, and the same reconcile once more changes nothing. -/
theorem probes_exact (gateway : Gateway) (dnsPolicy : DNSPolicy)
    (expectedProbes : List DNSHealthCheckProbe) (w w' : Served DnsHub)
    (hexpected : expectedProbesForGateway gateway dnsPolicy = .ok expectedProbes)
    (hok : reconcileGatewayProbes gateway dnsPolicy w = (.ok (), w')) :
    (∀ k e, lastExpected expectedProbes k = some e → ∃ p, w'.state.probes.get k = some p ∧
      p.spec = e.spec ∧ ∀ old, w.state.probes.get k = some old → p = { old with spec := e.spec }) ∧
    (∀ k, lastExpected expectedProbes k = none →
      (∀ p, w'.state.probes.get k = some p →
        p.metadata.labels.matches (commonDNSRecordLabels gateway.key dnsPolicy.key) = true →
        p.metadata.deletionTimestamp = true) ∧
      ∀ p, p.metadata.labels.matches (commonDNSRecordLabels gateway.key dnsPolicy.key) = false →
        (w'.state.probes.get k = some p ↔ w.state.probes.get k = some p)) ∧
    ∀ faults w'', reconcileGatewayProbes gateway dnsPolicy ⟨w'.state, faults⟩ = (.ok (), w'') →
      ∀ k, w''.state.probes.get k = w'.state.probes.get k := by
  have hafter := reconcileGatewayProbes_ok hok hexpected
  have hkeys (k : ObjectKey) : ∀ p, w.state.probes.get k = some p → p.metadata.key = k :=
    fun p hp => Objects.key_of_get hp
  refine ⟨fun k e hlast => ?_, fun k hlast => ⟨?_, ?_⟩, fun faults w'' hagain k => ?_⟩
  · obtain ⟨hfirst, p, hp, -, hspec⟩ :=
      @probeAfterCall_of_some gateway dnsPolicy _ _ _ (hkeys k) _ hlast
    refine ⟨p, (hafter k).trans (hfirst.trans hp), hspec, fun old hold => ?_⟩
    rw [hold, upserted_some, hlast] at hp
    exact (Option.some.inj hp).symm
  · intro p hp hlabels
    rw [hafter, probeAfterCall_of_none hlast] at hp
    have hkey : p.metadata.key = k := key_deleteIf (hkeys k) hp
    exact Kind.marked_of_deleteIf hp ((isUnexpected_of_none hlast hkey).trans hlabels)
  · intro p hlabels
    rw [hafter, probeAfterCall_of_none hlast]
    constructor
    · intro hp
      have hunexpected := (isUnexpected_of_none hlast (key_deleteIf (hkeys k) hp)).trans hlabels
      exact (Kind.deleteIf_eq_some_iff (fun _ => rfl) hunexpected).1 hp
    · intro hp
      rw [hp]
      exact Kind.deleteIf_of_false ((isUnexpected_of_none hlast (hkeys k p hp)).trans hlabels)
  · rw [reconcileGatewayProbes_ok hagain hexpected, hafter]
    exact probeAfterCall_twice (hkeys k)

namespace ListenerSample

/-- The probe of the listener `test` for an address. -/
def probeFor (address : String) : DNSHealthCheckProbe :=
  expectedProbe (gatewayWith [testListener]) probingPolicy
    { endpoint := "/healthz", failureThreshold := some 4 } address testListener "test.example.com"

theorem expectedProbes_test :
    expectedProbesForGateway (gatewayWith [testListener]) probingPolicy
      = .ok [probeFor "1.1.1.1"] := rfl

/-- A hub with the probe for an address that the Gateway no longer has. -/
def formerHub : DnsHub := ⟨∅, ∅, Objects.put ∅ (probeFor "2.2.2.2")⟩

theorem probes_exact_formerHub : ∃ w',
    reconcileGatewayProbes (gatewayWith [testListener]) probingPolicy ⟨formerHub, []⟩
      = (.ok (), w') ∧
    (∃ p, w'.state.probes.get (probeFor "1.1.1.1").metadata.key = some p ∧
      p.spec = (probeFor "1.1.1.1").spec) ∧
    ∀ p, w'.state.probes.get (probeFor "2.2.2.2").metadata.key = some p →
      p.metadata.labels.matches (commonDNSRecordLabels probedGateway.key probingPolicy.key) = true →
      p.metadata.deletionTimestamp = true := by
  have hok : (reconcileGatewayProbes (gatewayWith [testListener]) probingPolicy ⟨formerHub, []⟩).1
      = .ok () := by
    unfold reconcileGatewayProbes
    rw [expectedProbes_test]
    rfl
  rcases hrun : reconcileGatewayProbes (gatewayWith [testListener]) probingPolicy
    ⟨formerHub, []⟩ with ⟨outcome, w'⟩
  rw [hrun] at hok
  obtain rfl : outcome = .ok () := hok
  obtain ⟨hthere, hgone, -⟩ := probes_exact (gatewayWith [testListener]) probingPolicy
    [probeFor "1.1.1.1"] ⟨formerHub, []⟩ w' expectedProbes_test hrun
  obtain ⟨p, hp, hspec, -⟩ := hthere (probeFor "1.1.1.1").metadata.key (probeFor "1.1.1.1")
    (by simp [lastExpected])
  have hformer : lastExpected [probeFor "1.1.1.1"] (probeFor "2.2.2.2").metadata.key = none := by
    rw [lastExpected_eq_none]
    simp only [List.mem_singleton, forall_eq]
    decide
  exact ⟨w', rfl, ⟨p, hp, hspec⟩, (hgone (probeFor "2.2.2.2").metadata.key hformer).1⟩

end ListenerSample

end MultiClusterGateway
