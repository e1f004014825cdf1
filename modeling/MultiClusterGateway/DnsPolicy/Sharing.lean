import MultiClusterGateway.DnsPolicy.Listeners

set_option autoImplicit false

/-! # The objects of different listeners

The record of a listener is found by a name that joins the names of the Gateway and the listener with
a dash, and so are its probes. Both may contain dashes themselves: the listener `c` of the Gateway
`a-b` and the listener `b-c` of the Gateway `a` have one name for their records. Whoever comes second
takes the record of the other for its own. Listeners whose records have different names are kept
apart by every path through the code (`pairsApart_iff`). -/

namespace MultiClusterGateway

open ListenerSample (hubAfter placerWith reconcileListener_sample reconcileSample
  reconcileSample_new withRecord zone zonedHub)

variable {env : Env} {suffixes : SuffixList} {orders : String → MapOrder} {placer : Placer}
  {gateway : Gateway} {dnsPolicy : DNSPolicy} {clusters : List String} {k : ObjectKey}

/-! ## Records -/

/-- A round changes the record of its listener only, however it ends. -/
theorem onlyAt_reconcileListener (listener : Listener) (w : Served DnsHub) :
    OnlyAt (dnsRecordKey gateway listener.name) w.state
      (reconcileListener env suffixes orders placer gateway dnsPolicy clusters listener w).2.state := by
  refine Effect.Spec.ends (R := OnlyAt (dnsRecordKey gateway listener.name) w.state)
    ((triple_reconcileListener clusters listener).mono (fun _ h => h) ?_ fun _ _ h => h) rfl
  rintro flow s ⟨host, mz, clusterGateways, -, -, -, hround⟩
  rcases hround with ⟨-, -, hgone⟩ | ⟨-, -, record, t, -, -, hwritten⟩
  · exact hgone.toOnlyAt
  · exact hwritten.toOnlyAt

theorem keeps_reconcileListeners {listeners : List Listener}
    (h : ∀ l ∈ listeners, k ≠ dnsRecordKey gateway l.name) :
    Api.Keeps (fun hub : DnsHub => hub.records.get k)
      (reconcileListeners env suffixes orders placer gateway dnsPolicy clusters listeners) := by
  induction listeners with
  | nil => exact Api.keeps_pure ()
  | cons listener rest ih =>
      refine Api.Keeps.bind (fun w => ?_) fun flow => ?_
      · exact (onlyAt_reconcileListener listener w).others k (h listener List.mem_cons_self)
      · cases flow with
        | next => exact ih fun l hl => h l (List.mem_cons_of_mem _ hl)
        | done => exact Api.keeps_pure ()

/-- The record was made for the listener of the Gateway: its labels say so. -/
structure RecordOf (gatewayName listenerName : String) (record : DNSRecord) : Prop where
  gateway : record.metadata.labels.get? labelGatewayReference = some gatewayName
  listener : record.metadata.labels.get? labelListenerReference = some listenerName

theorem recordOf_build (gateway : Gateway) (dnsPolicy : DNSPolicy) (listener : Listener)
    (mz : ManagedZoneObject) :
    RecordOf gateway.name listener.name
      (buildDNSRecordForListener gateway dnsPolicy listener mz) := by
  constructor
  · rfl
  · rfl

/-- The removal leaves the records of other Gateways, and of listeners that are still there. -/
theorem removeDNSForDeletedListeners_get {gatewayName listenerName : String} {record : DNSRecord}
    {w : Served DnsHub} (hget : w.state.records.get k = some record)
    (hrecord : RecordOf gatewayName listenerName record)
    (hthere : gatewayName = gateway.name → ∃ l ∈ gateway.listeners, l.name = listenerName) :
    (removeDNSForDeletedListeners gateway w).2.state.records.get k = some record := by
  refine Effect.Spec.ends (R := fun s : DnsHub => s.records.get k = some record)
    (P := fun s => s.records.get k = some record) ?_ hget
  refine Api.triple_list.bind (fun _ _ h => h.1) fun dnsList => ?_
  refine Effect.Spec.mono (P := fun s => s.records.get k = some record ∧
      ∀ dns ∈ dnsList, dns.metadata.key = k →
        gateway.listeners.any (fun listener =>
          listener.name == (dns.metadata.labels.get? labelListenerReference).getD "") = true)
    (Effect.Spec.given fun hlist => ?_) ?_ (fun _ _ h => h) fun _ _ h => h
  · refine Effect.Spec.forEach fun dns hdns => ?_
    split
    · exact Effect.Spec.pure fun _ h => h
    · rename_i hgone
      have hne : k ≠ dns.metadata.key := fun hkey => hgone (hlist dns hdns hkey.symm)
      have hkeeps : Api.Keeps (fun hub => (recordsPart.get hub).get k)
          (Api.delete recordsPart dns.metadata.key) := Api.keeps_delete_of_ne hne
      exact hkeeps.ignoreNotFound.triple fun r => r = some record
  · rintro s ⟨hs, rfl⟩
    refine ⟨hs, fun dns hdns hkey => ?_⟩
    obtain ⟨hmem, hselected⟩ := List.mem_filter.1 hdns
    have hdnsget : s.records.get k = some dns := by
      rw [← hkey]
      exact Objects.mem_entries.1 hmem
    cases hs.symm.trans hdnsget
    simp only [Labels.matches, List.all_cons, List.all_nil, Bool.and_true, Bool.and_eq_true,
      beq_iff_eq] at hselected
    obtain ⟨l, hl, hname⟩ := hthere (Option.some.inj (hrecord.gateway.symm.trans hselected.2))
    refine List.any_eq_true.2 ⟨l, hl, ?_⟩
    rw [hrecord.listener, hname]
    exact beq_self_eq_true _

/-- A whole call leaves the records of other Gateways, unless they have the name of one of its own. -/
theorem reconcileGatewayDNSRecords_get {gatewayName listenerName : String} {record : DNSRecord}
    {w : Served DnsHub} (hget : w.state.records.get k = some record)
    (hrecord : RecordOf gatewayName listenerName record) (hother : gatewayName ≠ gateway.name)
    (hne : ∀ l ∈ gateway.listeners, k ≠ dnsRecordKey gateway l.name) :
    (reconcileGatewayDNSRecords env suffixes orders placer gateway dnsPolicy w).2.state.records.get k
      = some record := by
  have hremoved := removeDNSForDeletedListeners_get hget hrecord fun h => absurd h hother
  unfold reconcileGatewayDNSRecords
  rw [Effect.bind_apply]
  rcases hremove : removeDNSForDeletedListeners gateway w with ⟨e | _, w₁⟩
  · rwa [hremove] at hremoved
  · rw [hremove] at hremoved
    cases placer.getPlacedClusters with
    | error e => exact hremoved
    | ok clusters => exact (keeps_reconcileListeners hne w₁).trans hremoved

/-! ## Probes -/

/-- The probe that is created or updated is the one with the name. -/
theorem createOrUpdateProbe_get {hcProbe : DNSHealthCheckProbe} (hne : k ≠ hcProbe.metadata.key)
    (w : Served DnsHub) :
    (createOrUpdateProbe hcProbe w).2.state.probes.get k = w.state.probes.get k := by
  refine Effect.Spec.ends (R := fun s : DnsHub => s.probes.get k = w.state.probes.get k)
    (P := fun s => s.probes.get k = w.state.probes.get k) ?_ rfl
  refine Effect.Spec.attempt_bind Api.triple_get (fun p => ?_) fun e => ?_
  · refine Effect.Spec.mono (P := fun s => s.probes.get k = w.state.probes.get k ∧
        probeKind.key p = hcProbe.metadata.key)
      (Effect.Spec.given fun hkey => ?_) (fun s h => ⟨h.1, Objects.key_of_get h.2⟩)
      (fun _ _ h => h) fun _ _ h => h
    have hkeeps : Api.Keeps (fun hub => (probesPart.get hub).get k)
        (Api.update probesPart { p with spec := hcProbe.spec }) :=
      Api.keeps_update_of_ne (fun heq => hne (heq.trans hkey))
    exact hkeeps.triple fun r => r = w.state.probes.get k
  · have hkeeps : Api.Keeps (fun hub => (probesPart.get hub).get k)
        (Api.create probesPart hcProbe) :=
      Api.keeps_create_of_ne hne
    simp only
    split
    · exact (hkeeps.triple fun r => r = w.state.probes.get k).mono (fun _ h => h.1)
        (fun _ _ h => h) fun _ _ h => h
    · exact Effect.Spec.fail fun _ h => h.1

/-- The deletion leaves the probes of other Gateways, and those that are expected. -/
theorem deleteUnexpectedGatewayProbes_get {expectedProbes : List DNSHealthCheckProbe}
    {gatewayName : String} {p : DNSHealthCheckProbe} {w : Served DnsHub}
    (hget : w.state.probes.get k = some p)
    (hgateway : p.metadata.labels.get? labelGatewayReference = some gatewayName)
    (hthere : gatewayName = gateway.name → ∃ expected ∈ expectedProbes, expected.metadata.key = k) :
    (deleteUnexpectedGatewayProbes expectedProbes gateway dnsPolicy w).2.state.probes.get k
      = some p := by
  refine Effect.Spec.ends (R := fun s : DnsHub => s.probes.get k = some p)
    (P := fun s => s.probes.get k = some p) ?_ hget
  refine Api.triple_list.bind (fun _ _ h => h.1) fun existingProbes => ?_
  refine Effect.Spec.mono (P := fun s => s.probes.get k = some p ∧
      ∀ q ∈ existingProbes, q.metadata.key = k →
        expectedProbes.any (fun expected => expected.metadata.name == q.metadata.name &&
          expected.metadata.ns == q.metadata.ns) = true)
    (Effect.Spec.given fun hlist => ?_) ?_ (fun _ _ h => h) fun _ _ h => h
  · refine Effect.Spec.forEach fun q hq => ?_
    split
    · exact Effect.Spec.pure fun _ h => h
    · rename_i hgone
      have hne : k ≠ q.metadata.key := fun hkey => hgone (hlist q hq hkey.symm)
      have hkeeps : Api.Keeps (fun hub => (probesPart.get hub).get k)
          (Api.delete probesPart q.metadata.key) := Api.keeps_delete_of_ne hne
      exact hkeeps.triple fun r => r = some p
  · rintro s ⟨hs, rfl⟩
    refine ⟨hs, fun q hq hkey => ?_⟩
    obtain ⟨hmem, hselected⟩ := List.mem_filter.1 hq
    have hqget : s.probes.get k = some q := by
      rw [← hkey]
      exact Objects.mem_entries.1 hmem
    cases hs.symm.trans hqget
    have hname : p.metadata.labels.get? labelGatewayReference = some gateway.name := by
      have := List.all_eq_true.1 hselected (labelGatewayReference, gateway.name)
        (by simp [commonDNSRecordLabels, Gateway.key])
      simpa using this
    obtain ⟨expected, hexpected, hkeys⟩ := hthere (Option.some.inj (hgateway.symm.trans hname))
    refine List.any_eq_true.2 ⟨expected, hexpected, ?_⟩
    have hsame := hkeys.trans hkey.symm
    simpa [ObjectMeta.key, and_comm] using hsame

/-! ## Two listeners -/

/-- What is done for the listener `l` of the Gateway `g` leaves the objects of the listener `l'` of
    the Gateway `g'` in the namespace as they are. -/
structure PairsApart (ns g l g' l' : String) : Prop where
  /-- the record is not overwritten, adopted or deleted in the round of the other listener -/
  round : ∀ env suffixes orders placer gateway dnsPolicy clusters listener (w : Served DnsHub) record,
    gateway.key = ⟨ns, g⟩ → listener.name = l →
    w.state.records.get ⟨ns, dnsRecordName g' l'⟩ = some record → RecordOf g' l' record →
    (reconcileListener env suffixes orders placer gateway dnsPolicy clusters listener
      w).2.state.records.get ⟨ns, dnsRecordName g' l'⟩ = some record
  /-- nor as the record of a deleted listener -/
  removal : ∀ gateway (w : Served DnsHub) record, gateway.key = ⟨ns, g⟩ →
    (g' = g → ∃ other ∈ gateway.listeners, other.name = l') →
    w.state.records.get ⟨ns, dnsRecordName g' l'⟩ = some record → RecordOf g' l' record →
    (removeDNSForDeletedListeners gateway w).2.state.records.get ⟨ns, dnsRecordName g' l'⟩
      = some record
  /-- nor in a call for another Gateway that has the one listener -/
  call : g' ≠ g → ∀ env suffixes orders placer gateway dnsPolicy listener (w : Served DnsHub) record,
    gateway.key = ⟨ns, g⟩ → gateway.listeners = [listener] → listener.name = l →
    w.state.records.get ⟨ns, dnsRecordName g' l'⟩ = some record → RecordOf g' l' record →
    (reconcileGatewayDNSRecords env suffixes orders placer gateway dnsPolicy
      w).2.state.records.get ⟨ns, dnsRecordName g' l'⟩ = some record
  /-- the probe for an address is not overwritten by the other listener's for this address -/
  probe : ∀ gateway dnsPolicy healthCheck address listener hostname (w : Served DnsHub),
    gateway.key = ⟨ns, g⟩ → listener.name = l →
    (createOrUpdateProbe (expectedProbe gateway dnsPolicy healthCheck address listener hostname)
      w).2.state.probes.get ⟨ns, dnsHealthCheckProbeName address g' l'⟩
        = w.state.probes.get ⟨ns, dnsHealthCheckProbeName address g' l'⟩
  /-- nor deleted as unexpected -/
  unexpected : ∀ gateway dnsPolicy expectedProbes address (w : Served DnsHub) p,
    gateway.key = ⟨ns, g⟩ →
    (g' = g → ∃ expected ∈ expectedProbes,
      expected.metadata.key = ⟨ns, dnsHealthCheckProbeName address g' l'⟩) →
    w.state.probes.get ⟨ns, dnsHealthCheckProbeName address g' l'⟩ = some p →
    p.metadata.labels.get? labelGatewayReference = some g' →
    (deleteUnexpectedGatewayProbes expectedProbes gateway dnsPolicy w).2.state.probes.get
      ⟨ns, dnsHealthCheckProbeName address g' l'⟩ = some p

section
variable {ns g l g' l' : String}

theorem pairsApart_of_ne (hne : dnsRecordName g l ≠ dnsRecordName g' l') :
    PairsApart ns g l g' l' where
  round := by
    rintro env suffixes orders placer ⟨_, _, listeners, addresses⟩ dnsPolicy clusters listener w
      record hkey rfl hget -
    cases hkey
    rw [(onlyAt_reconcileListener listener w).others]
    · exact hget
    · exact fun heq => hne (congrArg ObjectKey.name heq).symm
  removal := by
    rintro ⟨_, _, listeners, addresses⟩ w record hkey hthere hget hrecord
    cases hkey
    exact removeDNSForDeletedListeners_get hget hrecord hthere
  call := by
    rintro hother env suffixes orders placer ⟨_, _, listeners, addresses⟩ dnsPolicy listener w
      record hkey rfl rfl hget hrecord
    cases hkey
    refine reconcileGatewayDNSRecords_get hget hrecord hother fun x hx heq => ?_
    obtain rfl := List.mem_singleton.1 hx
    exact hne (congrArg ObjectKey.name heq).symm
  probe := by
    rintro ⟨_, _, listeners, addresses⟩ dnsPolicy healthCheck address listener hostname w hkey rfl
    cases hkey
    refine createOrUpdateProbe_get (fun heq => hne ?_) w
    have hname := congrArg ObjectKey.name heq
    exact ((String.append_right_inj _).1 hname).symm
  unexpected := by
    rintro ⟨_, _, listeners, addresses⟩ dnsPolicy expectedProbes address w p hkey hthere hget hlabel
    cases hkey
    exact deleteUnexpectedGatewayProbes_get hget hlabel hthere

/-- A zone for `example.com` in a namespace. -/
def zoneIn (ns : String) : ManagedZoneObject where
  metadata := { name := "example", ns := ns }
  spec := { domainName := "example.com" }

/-- A hub with one zone and the record of one listener. -/
def hubWith (ns gatewayName listenerName : String) : DnsHub where
  records := Objects.put ∅ (buildDNSRecordForListener { name := gatewayName, ns := ns } probingPolicy
    { name := listenerName, hostname := none } (zoneIn ns))
  zones := Objects.put ∅ (zoneIn ns)
  probes := ∅

/-- Without routes to the one listener the record of the other is deleted. -/
theorem not_pairsApart (heq : dnsRecordName g l = dnsRecordName g' l') : ¬ PairsApart ns g l g' l' := by
  intro h
  let record := buildDNSRecordForListener { name := g', ns := ns } probingPolicy
    { name := l', hostname := none } (zoneIn ns)
  have hget : (hubWith ns g' l').records.get ⟨ns, dnsRecordName g' l'⟩ = some record :=
    Objects.get_put_self rfl fun hmarked => nomatch hmarked
  have hzone : selectedZone .ascii .topLevel (hubWith ns g' l') ns "test.example.com"
      = some (zoneIn ns) := by
    refine selectedZone_child "example.com" "com" (by decide) (by decide) (by decide) (by decide)
      (by decide) ?_
    have hentries : (hubWith ns g' l').zones.entries = [zoneIn ns] := rfl
    have hdomain : (zoneIn ns).domain .ascii = "example.com" := by
      show Text.toLower .ascii "example.com" = "example.com"
      decide
    have hns : (zoneIn ns).metadata.ns = ns := rfl
    rw [hentries]
    simp [zoneFor, hdomain, hns]
  have hrecord : RecordOf g' l' record :=
    recordOf_build { name := g', ns := ns } probingPolicy { name := l', hostname := none } _
  have hround := h.round .sample .topLevel (fun _ => .inserted) (placerWith fun _ => 0)
    { name := g, ns := ns } probingPolicy ["test-cluster-1"]
    { name := l, hostname := some "test.example.com" } ⟨hubWith ns g' l', []⟩ record rfl rfl hget
    hrecord
  have hdelete : Api.ignoreNotFound (deleteDNSRecordForListener { name := g, ns := ns }
      { name := l, hostname := some "test.example.com" }) ⟨hubWith ns g' l', []⟩
      = (.ok (), ⟨withRecord (hubWith ns g' l') (dnsRecordKind.mark true record), []⟩) := by
    unfold Api.ignoreNotFound deleteDNSRecordForListener dnsRecordKey
    rw [heq, Effect.bind_of_ok (Effect.attempt_apply _ _), Api.delete_of_no_faults hget]
    rfl
  rw [reconcileListener_without_routes rfl hzone rfl hdelete] at hround
  have hlive := (Objects.live_eq_some.2 ⟨hround, rfl⟩).symm.trans (Objects.live_put_marked rfl rfl)
  cases hlive

/-- Two listeners of a namespace are kept apart exactly if their records have different names. -/
theorem pairsApart_iff (ns g l g' l' : String) :
    PairsApart ns g l g' l' ↔ dnsRecordName g l ≠ dnsRecordName g' l' :=
  ⟨fun h heq => not_pairsApart heq h, pairsApart_of_ne⟩

end

def dashedListener : Listener := { name := "c", hostname := some "c.example.com" }

/-- A Gateway whose record is called `a-b-c`. -/
def dashedGateway : Gateway where
  name := "a-b"
  ns := "testns"
  listeners := [dashedListener]

def plainListener : Listener := { name := "b-c", hostname := some "b.example.com" }

/-- Another one whose record is called `a-b-c`. -/
def plainGateway : Gateway where
  name := "a"
  ns := "testns"
  listeners := [plainListener]

/-- The record of `c` on `a-b` ends up with the endpoints of `b-c` on `a`. -/
theorem record_adopted : ∃ w₁ w₂ old new,
    reconcileSample (fun _ => 1) dashedGateway ⟨zonedHub, []⟩ = (.ok (), w₁) ∧
    w₁.state.records.get ⟨"testns", dnsRecordName "a-b" "c"⟩ = some old ∧
    RecordOf "a-b" "c" old ∧ "c.example.com" ∈ old.spec.endpoints.map (·.dnsName) ∧
    reconcileSample (fun _ => 1) plainGateway w₁ = (.ok (), w₂) ∧
    w₂.state.records.get ⟨"testns", dnsRecordName "a-b" "c"⟩ = some new ∧
    RecordOf "a-b" "c" new ∧ "c.example.com" ∉ new.spec.endpoints.map (·.dnsName) ∧
    "b.example.com" ∈ new.spec.endpoints.map (·.dnsName) := by
  have hzone : selectedZone .ascii .topLevel zonedHub "testns" "c.example.com"
      = some (zone "example" "example.com") :=
    selectedZone_child "example.com" "com" (by decide) (by decide) (by decide) (by decide)
      (by decide) (by decide)
  have hzone' : selectedZone .ascii .topLevel
      (hubAfter dashedGateway dashedListener "c.example.com") "testns" "b.example.com"
      = some (zone "example" "example.com") :=
    selectedZone_child "example.com" "com" (by decide) (by decide) (by decide) (by decide)
      (by decide) (by decide)
  have hfirst := reconcileSample_new dashedGateway dashedListener rfl rfl hzone (by decide)
  have hsecond := reconcileListener_sample (fun _ => 1) plainGateway plainListener (by decide) rfl
    rfl hzone' (Or.inl ⟨rfl, rfl⟩) (Or.inr ⟨by decide, rfl⟩)
  exact ⟨_, _, _, _, hfirst, rfl, ⟨rfl, rfl⟩, by decide, reconcileListeners_next [] hsecond, rfl,
    ⟨rfl, rfl⟩, by decide, by decide⟩

end MultiClusterGateway
