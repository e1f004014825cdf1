import MultiClusterGateway.DnsPolicy.Records

set_option autoImplicit false

/-! # The listeners of a Gateway and their records

What one reconcile of the records of a Gateway does, listener by listener: a listener with routes
has its record written, the first one without has its record deleted and ends the loop. From this it
follows for which listeners the records are right afterwards (`listeners_right_iff`), and for which
the record is in the zone of the listener's host (`record_zone_iff`).

`LoopRun` is the description of a run of the loop that ends without an error, one constructor for
each way a round can go, and the results are proved by induction on it. Which zone a record is
created in depends on the host of its listener, but a record that exists is taken as it is, so its
zone may be that of a host that the listener had before. -/

namespace MultiClusterGateway

open Domain (Below parent?)

variable {env : Env} {suffixes : SuffixList} {orders : String → MapOrder} {placer : Placer}
  {gateway : Gateway} {dnsPolicy : DNSPolicy} {hub hub' : DnsHub}

theorem triple_mapError {S α : Type} {P : S → Prop} {x : Api S α} {Q : α → S → Prop}
    {E : ApiError → S → Prop} (hx : Api.Triple P x Q E) (f : ApiError → ApiError) :
    Api.Triple P (mapError f x) Q (fun _ s => ∃ e, E e s) := by
  unfold mapError
  exact Api.triple_outcome_bind hx (fun e _ h => ⟨e, h⟩) (fun a => Effect.Spec.pure fun _ h => h)
    fun e => Effect.Spec.fail fun _ h => ⟨e, h⟩

/-! ## The zone of a listener -/

/-- The zone that `getManagedZoneForListener` selects for a host. -/
def selectedZone (fold : Text.CaseFold) (suffixes : SuffixList) (hub : DnsHub) (ns host : String) :
    Option ManagedZoneObject :=
  match findMatchingManagedZone fold suffixes host host
      (hub.zones.entries.filter (fun mz => mz.metadata.ns == ns)) with
  | .ok (mz, _) => some mz
  | .error _ => none

theorem triple_getManagedZoneForListener (ns : String) (listener : Listener) :
    Api.Triple (fun s => s = hub) (getManagedZoneForListener env.fold suffixes ns listener)
      (fun mz s => s = hub ∧ ∃ host, listener.hostname = some host ∧
        selectedZone env.fold suffixes hub ns host = some mz)
      (fun _ s => s = hub) := by
  unfold getManagedZoneForListener
  refine Api.triple_list.bind (fun _ _ h => h.1) fun managedZones => ?_
  rintro w ⟨hw, rfl⟩
  cases hhost : listener.hostname with
  | none => exact hw
  | some host =>
      simp only
      cases hfind : findMatchingManagedZone env.fold suffixes host host
          ((zonesPart.get w.state).entries.filter (fun mz => mz.metadata.ns == ns)) with
      | error e => exact hw
      | ok found =>
          refine ⟨hw, host, rfl, ?_⟩
          unfold selectedZone
          rw [← hw]
          show (match findMatchingManagedZone env.fold suffixes host host
            ((zonesPart.get w.state).entries.filter (fun mz => mz.metadata.ns == ns)) with
            | .ok (mz, _) => some mz
            | .error _ => none) = _
          rw [hfind]

/-- The zone that is found is one of those given. -/
theorem mem_of_findMatchingManagedZone {fold : Text.CaseFold} {originalHost host : String}
    {zones : List ManagedZoneObject} {mz : ManagedZoneObject} {subdomain : String}
    (h : findMatchingManagedZone fold suffixes originalHost host zones = .ok (mz, subdomain)) :
    mz ∈ zones := by
  fun_induction findMatchingManagedZone fold suffixes originalHost host zones with
  | case1 => cases h
  | case2 => cases h
  | case3 => cases h
  | case4 _ _ _ _ _ _ ih => exact ih h
  | case5 _ _ _ _ _ _ zone hzone =>
      cases h
      exact (zoneFor_eq_some hzone).1
  | case6 _ _ _ _ _ _ _ ih => exact ih h

theorem selectedZone_ns {fold : Text.CaseFold} {ns host : String} {mz : ManagedZoneObject}
    (h : selectedZone fold suffixes hub ns host = some mz) : mz.metadata.ns = ns := by
  unfold selectedZone at h
  split at h
  · rename_i mz' subdomain hfind
    cases h
    have hmem := mem_of_findMatchingManagedZone hfind
    simpa using (List.mem_filter.1 hmem).2
  · cases h

theorem below_selectedZone {fold : Text.CaseFold} {ns host : String} {mz : ManagedZoneObject}
    (hlower : Text.toLower fold host = host)
    (h : selectedZone fold suffixes hub ns host = some mz) : Below (mz.domain fold) host := by
  unfold selectedZone at h
  split at h
  · rename_i mz' subdomain hfind
    cases h
    exact below_of_findMatchingManagedZone hlower hfind
  · cases h

/-- There is no zone for the empty host. -/
theorem selectedZone_empty {fold : Text.CaseFold} {ns : String} :
    selectedZone fold suffixes hub ns "" = none := by
  have hlower : Text.toLower fold "" = "" := Text.toLower_eq_self fold (by simp)
  have hsuffix : suffixes.publicSuffix "" = "" := suffixes.single_label "" (by decide)
  unfold selectedZone
  split
  · rename_i mz subdomain hfind
    exact absurd hfind (findMatchingManagedZone_suffix hlower hsuffix _)
  · rfl

/-- A host right below the domain of a zone. -/
theorem selectedZone_child {fold : Text.CaseFold} {ns host : String} (domain top : String)
    {mz : ManagedZoneObject} (hhost : parent? host = some domain)
    (hdomain : parent? domain = some top) (hlower : Text.toLower fold host = host)
    (hsuffix : suffixes.publicSuffix host ≠ host)
    (hsuffix' : suffixes.publicSuffix domain ≠ domain)
    (hzone : zoneFor fold (hub.zones.entries.filter (fun mz => mz.metadata.ns == ns)) domain
      = some mz) : selectedZone fold suffixes hub ns host = some mz := by
  have hzones : hub.zones.entries.filter (fun mz => mz.metadata.ns == ns) ≠ [] :=
    List.ne_nil_of_mem (zoneFor_eq_some hzone).1
  have hne : domain ≠ host := by
    rintro rfl
    exact Nat.lt_irrefl _ (Domain.below_of_parent? hhost).length_lt
  unfold selectedZone
  rw [findMatchingManagedZone_host hlower hzones hsuffix hhost,
    findMatchingManagedZone_parent (toLower_parent hhost hlower) hzones hsuffix' hdomain hne, hzone]

theorem host_ne_empty {fold : Text.CaseFold} {ns host : String} {mz : ManagedZoneObject}
    (h : selectedZone fold suffixes hub ns host = some mz) : host ≠ "" := by
  rintro rfl
  rw [selectedZone_empty] at h
  cases h

/-! ## The record of one listener -/

/-- The record of the listener that was there, or a new one that now is. -/
def Obtained (gateway : Gateway) (dnsPolicy : DNSPolicy) (listener : Listener)
    (mz : ManagedZoneObject) (hub : DnsHub) (record : DNSRecord) (hub' : DnsHub) : Prop :=
  (hub.records.get (dnsRecordKey gateway listener.name) = some record ∧ hub' = hub) ∨
  (hub.records.get (dnsRecordKey gateway listener.name) = none ∧
    record = buildDNSRecordForListener gateway dnsPolicy listener mz ∧
    hub' = { hub with records := hub.records.put record })

theorem triple_createDNSRecordForListener {mz : ManagedZoneObject}
    (hmz : mz.metadata.ns = gateway.ns) (listener : Listener) :
    Api.Triple (fun s => s = hub) (createDNSRecordForListener gateway dnsPolicy mz listener)
      (fun record => Obtained gateway dnsPolicy listener mz hub record) (fun _ s => s = hub) := by
  have hkey : (buildDNSRecordForListener gateway dnsPolicy listener mz).metadata.key
      = dnsRecordKey gateway listener.name := congrArg (ObjectKey.mk · _) hmz
  unfold createDNSRecordForListener
  refine Effect.Spec.attempt_bind (Api.triple_create rfl) (fun _ => ?_) fun e => ?_
  · refine Effect.Spec.pure ?_
    rintro _ ⟨s, rfl, hfree, rfl⟩
    exact Or.inr ⟨hkey ▸ hfree, rfl, rfl⟩
  · simp only
    split
    · refine Api.triple_get.mono (fun _ h => h.1) ?_ fun _ _ h => h.1
      rintro record s ⟨rfl, hget⟩
      exact Or.inl ⟨hkey ▸ hget, rfl⟩
    · exact Effect.Spec.fail fun _ h => h.1

/-- Nothing but the record under the key has changed. -/
structure OnlyAt (key : ObjectKey) (hub hub' : DnsHub) : Prop where
  zones : hub'.zones = hub.zones
  probes : hub'.probes = hub.probes
  others : ∀ k, k ≠ key → hub'.records.get k = hub.records.get k

theorem OnlyAt.refl (key : ObjectKey) (hub : DnsHub) : OnlyAt key hub hub :=
  ⟨rfl, rfl, fun _ _ => rfl⟩

theorem OnlyAt.trans {key : ObjectKey} {hub₁ hub₂ hub₃ : DnsHub} (h : OnlyAt key hub₁ hub₂)
    (h' : OnlyAt key hub₂ hub₃) : OnlyAt key hub₁ hub₃ :=
  ⟨h'.zones.trans h.zones, h'.probes.trans h.probes,
    fun k hk => (h'.others k hk).trans (h.others k hk)⟩

/-- The record is under the key now. -/
structure RecordWritten (key : ObjectKey) (record : DNSRecord) (hub hub' : DnsHub) : Prop
    extends OnlyAt key hub hub' where
  written : hub'.records.get key = some record

/-- A record that was stored, or took the place of a stored one. -/
theorem RecordWritten.of_get {key : ObjectKey} {record : DNSRecord} {records : Objects dnsRecordKind}
    (h : ∀ k, records.get k = if k = key then some record else hub.records.get k) :
    RecordWritten key record hub { hub with records := records } where
  zones := rfl
  probes := rfl
  others k hk := by rw [h, if_neg hk]
  written := by rw [h, if_pos rfl]

theorem triple_setRecordEndpoints {key : ObjectKey} {record : DNSRecord}
    (hget : hub.records.get key = some record) (order : MapOrder) (t : MultiClusterGatewayTarget)
    (listenerName host : String) :
    Api.Triple (fun s => s = hub)
      (setRecordEndpoints env order t record dnsPolicy listenerName host)
      (fun _ => RecordWritten key (record.withEndpoints (setEndpoints env order t
        record.spec.endpoints (listedProbes t.gateway dnsPolicy hub.probes) listenerName host)) hub)
      (fun _ s => s = hub) := by
  unfold setRecordEndpoints
  refine Api.triple_list.bind (fun _ _ h => h.1) fun probes => ?_
  refine Effect.Spec.mono
    (P := fun s => s = hub ∧ probes = listedProbes t.gateway dnsPolicy hub.probes)
    (Effect.Spec.given ?_) ?_ (fun _ _ h => h) fun _ _ h => h
  · rintro rfl
    simp only
    split
    · rename_i hsame
      refine Effect.Spec.pure ?_
      rintro s rfl
      rw [hsame]
      exact ⟨.refl key s, hget⟩
    · refine Api.triple_update.mono (fun _ h => h) ?_ fun _ _ h => h
      rintro _ _ ⟨s, rfl, -, rfl⟩
      exact .of_get (Objects.get_put_same_meta _ hget rfl)
  · rintro s ⟨rfl, rfl⟩
    exact ⟨rfl, rfl⟩

/-- The record of a listener is published: the one that was there or a new one, with the endpoints
    for the clusters that report routes. -/
def Published (env : Env) (orders : String → MapOrder) (gateway : Gateway) (dnsPolicy : DNSPolicy)
    (mz : ManagedZoneObject) (listener : Listener) (host : String)
    (clusterGateways : List ClusterGateway) (hub hub' : DnsHub) : Prop :=
  ∃ record t,
    (hub.records.get (dnsRecordKey gateway listener.name) = some record ∨
      hub.records.get (dnsRecordKey gateway listener.name) = none ∧
        record = buildDNSRecordForListener gateway dnsPolicy listener mz) ∧
    MultiClusterGatewayTarget.new gateway clusterGateways dnsPolicy.loadBalancing = .ok t ∧
    RecordWritten (dnsRecordKey gateway listener.name)
      (record.withEndpoints (setEndpoints env (orders listener.name) t record.spec.endpoints
        (listedProbes gateway dnsPolicy hub.probes) listener.name host)) hub hub'

theorem gateway_new {clusterGateways : List ClusterGateway} {lb : Option LoadBalancingSpec}
    {t : MultiClusterGatewayTarget}
    (h : MultiClusterGatewayTarget.new gateway clusterGateways lb = .ok t) :
    t.gateway = gateway := by
  unfold MultiClusterGatewayTarget.new MultiClusterGatewayTarget.setClusterGatewayTargets at h
  cases hmap : clusterGateways.mapM (fun cg => ClusterGatewayTarget.new cg
      (MultiClusterGatewayTarget.mk gateway [] lb).getDefaultGeo
      (MultiClusterGatewayTarget.mk gateway [] lb).getDefaultWeight
      (MultiClusterGatewayTarget.mk gateway [] lb).customWeights) with
  | error e =>
      rw [hmap] at h
      cases h
  | ok targets =>
      rw [hmap] at h
      cases h
      rfl

/-- A record that was obtained is there, and nothing else has changed. -/
theorem Obtained.written {listener : Listener} {mz : ManagedZoneObject} {record : DNSRecord}
    (hmz : mz.metadata.ns = gateway.ns)
    (h : Obtained gateway dnsPolicy listener mz hub record hub') :
    RecordWritten (dnsRecordKey gateway listener.name) record hub hub' := by
  rcases h with ⟨hget, rfl⟩ | ⟨-, rfl, rfl⟩
  · exact ⟨.refl _ _, hget⟩
  · refine .of_get fun k => ?_
    have hkey : dnsRecordKind.key (buildDNSRecordForListener gateway dnsPolicy listener mz)
        = dnsRecordKey gateway listener.name := congrArg (ObjectKey.mk · _) hmz
    have hlive : dnsRecordKind.marked (buildDNSRecordForListener gateway dnsPolicy listener mz)
        = false := rfl
    rw [Objects.get_put, hkey]
    simp [hlive]

theorem triple_obtainDNSRecord {mz : ManagedZoneObject} (hmz : mz.metadata.ns = gateway.ns)
    (listener : Listener) (host : String) :
    Api.Triple (fun s => s = hub) (obtainDNSRecord gateway dnsPolicy mz listener host)
      (fun record => Obtained gateway dnsPolicy listener mz hub record) (fun _ s => s = hub) := by
  unfold obtainDNSRecord
  refine Api.triple_outcome_bind (triple_createDNSRecordForListener hmz listener)
    (fun _ _ h => h) (fun _ => Effect.Spec.pure fun _ h => h) fun e => ?_
  simp only
  split
  · refine (triple_mapError Api.triple_get _).mono (fun _ h => h) ?_ fun _ _ ⟨_, h⟩ => h.1
    rintro record s ⟨rfl, hget⟩
    exact Or.inl ⟨hget, rfl⟩
  · exact Effect.Spec.fail fun _ h => h

theorem triple_publishListener {mz : ManagedZoneObject} (hmz : mz.metadata.ns = gateway.ns)
    (listener : Listener) (host : String) (clusterGateways : List ClusterGateway) :
    Api.Triple (fun s => s = hub)
      (publishListener env orders gateway dnsPolicy mz listener host clusterGateways)
      (fun _ => Published env orders gateway dnsPolicy mz listener host clusterGateways hub)
      (fun _ => OnlyAt (dnsRecordKey gateway listener.name) hub) := by
  unfold publishListener
  refine (triple_obtainDNSRecord hmz listener host).bind ?_ fun record => ?_
  · rintro _ s rfl
    exact .refl _ _
  cases hnew : MultiClusterGatewayTarget.new gateway clusterGateways dnsPolicy.loadBalancing with
  | error text => exact Effect.Spec.fail fun _ h => (h.written hmz).toOnlyAt
  | ok t =>
      intro w hw
      have hwritten := Obtained.written hmz hw
      refine (triple_mapError (triple_setRecordEndpoints hwritten.written (orders listener.name) t
        listener.name host) _).mono (fun _ h => h) ?_ ?_ w rfl
      · intro _ s hs
        rw [gateway_new hnew, hwritten.probes] at hs
        refine ⟨record, t, ?_, hnew, ⟨hwritten.toOnlyAt.trans hs.toOnlyAt, hs.written⟩⟩
        rcases hw with ⟨hget, -⟩ | ⟨hfree, hrecord, -⟩
        · exact Or.inl hget
        · exact Or.inr ⟨hfree, hrecord⟩
      · rintro _ s ⟨_, rfl⟩
        exact hwritten.toOnlyAt

/-! ## The loop -/

/-- The record of a listener is gone, except for one that is being deleted. -/
structure Withdrawn (key : ObjectKey) (hub hub' : DnsHub) : Prop extends OnlyAt key hub hub' where
  live : hub'.records.live key = none

theorem triple_deleteDNSRecordForListener (listener : Listener) :
    Api.Triple (fun s => s = hub) (Api.ignoreNotFound (deleteDNSRecordForListener gateway listener))
      (fun _ => Withdrawn (dnsRecordKey gateway listener.name) hub)
      (fun _ => OnlyAt (dnsRecordKey gateway listener.name) hub) := by
  unfold deleteDNSRecordForListener
  refine Api.triple_ignoreNotFound (Api.triple_delete.mono (fun _ h => h) ?_ fun _ _ h => h) ?_ ?_
  · rintro _ _ ⟨s, record, rfl, hget, rfl⟩
    have hkey : dnsRecordKind.key (dnsRecordKind.mark true record)
        = dnsRecordKey gateway listener.name := by
      rw [dnsRecordKind.key_mark]
      exact Objects.key_of_get hget
    exact ⟨⟨rfl, rfl, fun k hk => Objects.get_put_of_ne (hkey.symm ▸ hk)⟩,
      Objects.live_put_marked hkey (dnsRecordKind.marked_mark true record)⟩
  · rintro e s hkind ⟨rfl, hnone⟩
    have hget : s.records.get (dnsRecordKey gateway listener.name) = none := hnone hkind
    refine ⟨.refl _ _, ?_⟩
    unfold Objects.live
    rw [hget]
    rfl
  · rintro _ s _ ⟨rfl, -⟩
    exact .refl _ _

section
variable (env suffixes orders placer gateway dnsPolicy)

/-- The loop over some of the listeners: each has its record published, up to one without cluster
    Gateways. -/
inductive LoopRun (clusters : List String) : DnsHub → List Listener → DnsHub → Prop
  | nil (hub : DnsHub) : LoopRun clusters hub [] hub
  | done {hub hub' : DnsHub} (listener : Listener) (rest : List Listener)
      (hempty : collectClusterGateways placer listener.name clusters = .ok [])
      (hgone : Withdrawn (dnsRecordKey gateway listener.name) hub hub') :
      LoopRun clusters hub (listener :: rest) hub'
  | next {hub hub₁ hub' : DnsHub} (listener : Listener) (rest : List Listener) (host : String)
      (mz : ManagedZoneObject) (clusterGateways : List ClusterGateway)
      (hhost : listener.hostname = some host)
      (hzone : selectedZone env.fold suffixes hub gateway.ns host = some mz)
      (hcollect : collectClusterGateways placer listener.name clusters = .ok clusterGateways)
      (hsome : clusterGateways ≠ [])
      (hpublished : Published env orders gateway dnsPolicy mz listener host clusterGateways
        hub hub₁)
      (hrest : LoopRun clusters hub₁ rest hub') : LoopRun clusters hub (listener :: rest) hub'

end

/-- What a round of the loop that does not fail has done. -/
def Round (env : Env) (suffixes : SuffixList) (orders : String → MapOrder) (placer : Placer)
    (gateway : Gateway) (dnsPolicy : DNSPolicy) (clusters : List String) (listener : Listener)
    (hub : DnsHub) (flow : Flow) (hub' : DnsHub) : Prop :=
  ∃ host mz clusterGateways, listener.hostname = some host ∧
    selectedZone env.fold suffixes hub gateway.ns host = some mz ∧
    collectClusterGateways placer listener.name clusters = .ok clusterGateways ∧
    ((clusterGateways = [] ∧ flow = .done ∧
        Withdrawn (dnsRecordKey gateway listener.name) hub hub') ∨
      (clusterGateways ≠ [] ∧ flow = .next ∧
        Published env orders gateway dnsPolicy mz listener host clusterGateways hub hub'))

theorem triple_reconcileListener (clusters : List String) (listener : Listener) :
    Api.Triple (fun s => s = hub)
      (reconcileListener env suffixes orders placer gateway dnsPolicy clusters listener)
      (Round env suffixes orders placer gateway dnsPolicy clusters listener hub)
      (fun _ => OnlyAt (dnsRecordKey gateway listener.name) hub) := by
  unfold reconcileListener
  refine (triple_getManagedZoneForListener gateway.ns listener).bind ?_
    fun mz => Effect.Spec.given ?_
  · rintro _ s rfl
    exact .refl _ _
  rintro ⟨host, hhost, hzone⟩
  have hne := host_ne_empty hzone
  simp only [hhost]
  cases hcollect : collectClusterGateways placer listener.name clusters with
  | error e =>
      refine Effect.Spec.fail ?_
      rintro s rfl
      exact .refl _ _
  | ok clusterGateways =>
      cases clusterGateways with
      | nil =>
          refine (triple_mapError (triple_deleteDNSRecordForListener listener) _).bind
            (fun _ _ ⟨_, h⟩ => h) fun _ => Effect.Spec.pure fun s hs => ?_
          exact ⟨host, mz, [], hhost, hzone, hcollect, Or.inl ⟨rfl, rfl, hs⟩⟩
      | cons cg rest =>
          refine (triple_publishListener (selectedZone_ns hzone) listener host (cg :: rest)).bind
            (fun _ _ h => h) fun _ => Effect.Spec.pure fun s hs => ?_
          exact ⟨host, mz, cg :: rest, hhost, hzone, hcollect,
            Or.inr ⟨List.cons_ne_nil _ _, rfl, hs⟩⟩

theorem triple_reconcileListeners (clusters : List String) (listeners : List Listener) :
    Api.Triple (fun s => s = hub)
      (reconcileListeners env suffixes orders placer gateway dnsPolicy clusters listeners)
      (fun _ => LoopRun env suffixes orders placer gateway dnsPolicy clusters hub listeners)
      (fun _ _ => True) := by
  induction listeners generalizing hub with
  | nil =>
      refine Effect.Spec.pure ?_
      rintro s rfl
      exact .nil s
  | cons listener rest ih =>
      unfold reconcileListeners
      refine (triple_reconcileListener clusters listener).bind (fun _ _ _ => trivial) fun flow => ?_
      intro w hw
      obtain ⟨host, mz, clusterGateways, hhost, hzone, hcollect, hround⟩ := hw
      rcases hround with ⟨rfl, rfl, hgone⟩ | ⟨hsome, rfl, hpublished⟩
      · exact .done listener rest hcollect hgone
      · refine ih.mono (fun _ h => h) ?_ (fun _ _ _ => trivial) w rfl
        intro _ s hs
        exact .next listener rest host mz clusterGateways hhost hzone hcollect hsome hpublished hs

/-! ## Which listeners are visited -/

/-- Some cluster reports routes for the listener. -/
def hasRoutes (placer : Placer) (clusters : List String) (listener : Listener) : Bool :=
  clusters.any (reportsRoutes placer listener.name)

/-- The clusters that the endpoints are computed from are those that report routes. -/
theorem collectClusterGateways_eq_ok {listenerName : String} {clusters : List String}
    {clusterGateways : List ClusterGateway}
    (h : collectClusterGateways placer listenerName clusters = .ok clusterGateways) :
    List.Forall₂ (fun cluster cg => placer.getClusterGateway listenerName cluster = .ok cg)
      (clusters.filter (reportsRoutes placer listenerName)) clusterGateways := by
  induction clusters generalizing clusterGateways with
  | nil =>
      cases h
      exact .nil
  | cons cluster rest ih =>
      unfold collectClusterGateways at h
      by_cases hreports : reportsRoutes placer listenerName cluster = true
      · rw [if_pos hreports] at h
        rw [List.filter_cons_of_pos hreports]
        cases hget : placer.getClusterGateway listenerName cluster with
        | error e =>
            rw [hget] at h
            cases h
        | ok cg =>
            rw [hget] at h
            cases hrest : collectClusterGateways placer listenerName rest with
            | error e =>
                rw [hrest] at h
                cases h
            | ok others =>
                rw [hrest] at h
                cases h
                exact .cons hget (ih hrest)
      · rw [if_neg hreports] at h
        rw [List.filter_cons_of_neg hreports]
        exact ih h

theorem eq_nil_iff_hasRoutes {listener : Listener} {clusters : List String}
    {clusterGateways : List ClusterGateway}
    (h : collectClusterGateways placer listener.name clusters = .ok clusterGateways) :
    clusterGateways = [] ↔ hasRoutes placer clusters listener = false := by
  have hlength := (collectClusterGateways_eq_ok h).length_eq
  unfold hasRoutes
  rw [← List.length_eq_zero_iff, ← hlength, List.length_eq_zero_iff, List.filter_eq_nil_iff]
  simp

theorem hasRoutes_of_ne_nil {listener : Listener} {clusters : List String}
    {clusterGateways : List ClusterGateway}
    (h : collectClusterGateways placer listener.name clusters = .ok clusterGateways)
    (hsome : clusterGateways ≠ []) : hasRoutes placer clusters listener = true := by
  rw [← Bool.not_eq_false]
  exact fun hno => hsome ((eq_nil_iff_hasRoutes h).2 hno)

theorem dnsRecordKey_ne {listener other : Listener} (h : listener.name ≠ other.name) :
    dnsRecordKey gateway listener.name ≠ dnsRecordKey gateway other.name :=
  fun heq => h (dnsRecordName_inj.1 (congrArg ObjectKey.name heq))

namespace LoopRun

variable {clusters : List String} {listeners : List Listener}

/-- The loop writes the records of its listeners only. -/
theorem frame
    (h : LoopRun env suffixes orders placer gateway dnsPolicy clusters hub listeners hub') :
    hub'.zones = hub.zones ∧ hub'.probes = hub.probes ∧
      ∀ k, (∀ l ∈ listeners, k ≠ dnsRecordKey gateway l.name) →
        hub'.records.get k = hub.records.get k := by
  induction h with
  | nil hub => exact ⟨rfl, rfl, fun _ _ => rfl⟩
  | done listener rest _ hgone =>
      exact ⟨hgone.zones, hgone.probes, fun k hk => hgone.others k (hk listener List.mem_cons_self)⟩
  | next listener rest host mz cgs _ _ _ _ hpublished _ ih =>
      obtain ⟨record, t, -, -, hwritten⟩ := hpublished
      obtain ⟨hzones, hprobes, hrecords⟩ := ih
      refine ⟨hzones.trans hwritten.zones, hprobes.trans hwritten.probes, fun k hk => ?_⟩
      rw [hrecords k fun l hl => hk l (List.mem_cons_of_mem _ hl),
        hwritten.others k (hk listener List.mem_cons_self)]

/-- A listener has its record published if it comes before every listener without routes. -/
theorem published
    (h : LoopRun env suffixes orders placer gateway dnsPolicy clusters hub listeners hub')
    (hnames : (listeners.map (·.name)).Nodup) {listener : Listener}
    (hl : listener ∈ listeners.takeWhile (hasRoutes placer clusters)) :
    ∃ host mz clusterGateways, listener.hostname = some host ∧
      selectedZone env.fold suffixes hub gateway.ns host = some mz ∧
      collectClusterGateways placer listener.name clusters = .ok clusterGateways ∧
      ∃ record t,
        (hub.records.get (dnsRecordKey gateway listener.name) = some record ∨
          hub.records.get (dnsRecordKey gateway listener.name) = none ∧
            record = buildDNSRecordForListener gateway dnsPolicy listener mz) ∧
        MultiClusterGatewayTarget.new gateway clusterGateways dnsPolicy.loadBalancing = .ok t ∧
        hub'.records.get (dnsRecordKey gateway listener.name)
          = some (record.withEndpoints (setEndpoints env (orders listener.name) t
              record.spec.endpoints (listedProbes gateway dnsPolicy hub.probes) listener.name
              host)) := by
  induction h with
  | nil hub => cases hl
  | done other rest hempty _ =>
      have hno := (eq_nil_iff_hasRoutes hempty).1 rfl
      rw [List.takeWhile_cons_of_neg (by simp [hno])] at hl
      cases hl
  | @next hub hub₁ hub' other rest host mz cgs hhost hzone hcollect hsome hpublished hrest ih =>
      have hroutes := hasRoutes_of_ne_nil hcollect hsome
      rw [List.takeWhile_cons_of_pos hroutes] at hl
      rw [List.map_cons, List.nodup_cons] at hnames
      obtain ⟨record, t, hrecord, hnew, hwritten⟩ := hpublished
      rcases List.mem_cons.1 hl with rfl | hl
      · refine ⟨host, mz, cgs, hhost, hzone, hcollect, record, t, hrecord, hnew, ?_⟩
        rw [hrest.frame.2.2 _ fun l hl => dnsRecordKey_ne fun heq =>
          hnames.1 (List.mem_map.2 ⟨l, hl, heq.symm⟩), hwritten.written]
      · have hne : listener.name ≠ other.name := fun heq =>
          hnames.1 (List.mem_map.2 ⟨listener, List.takeWhile_sublist _ |>.subset hl, heq⟩)
        have hsame : hub₁.records.get (dnsRecordKey gateway listener.name)
            = hub.records.get (dnsRecordKey gateway listener.name) :=
          hwritten.others _ (dnsRecordKey_ne hne)
        have hzones : selectedZone env.fold suffixes hub₁ gateway.ns
            = selectedZone env.fold suffixes hub gateway.ns := by
          funext host
          unfold selectedZone
          rw [hwritten.zones]
        have := ih hnames.2 hl
        rwa [hsame, hzones, hwritten.probes] at this

end LoopRun

/-! ## The outcome for a listener -/

section
variable (env placer gateway dnsPolicy)

/-- The record of a listener with routes is there, with endpoints computed from exactly the clusters
    that report routes; without routes there is no record, except one that is being deleted. -/
structure RightOutcome (clusters : List String) (hub : DnsHub) (listener : Listener)
    (host : String) : Prop where
  published : hasRoutes placer clusters listener = true →
    ∃ record clusterGateways t order endpoints probes,
      hub.records.get (dnsRecordKey gateway listener.name) = some record ∧
      List.Forall₂ (fun cluster cg => placer.getClusterGateway listener.name cluster = .ok cg)
        (clusters.filter (reportsRoutes placer listener.name)) clusterGateways ∧
      MultiClusterGatewayTarget.new gateway clusterGateways dnsPolicy.loadBalancing = .ok t ∧
      record.spec.endpoints = setEndpoints env order t endpoints probes listener.name host
  withdrawn : hasRoutes placer clusters listener = false →
    hub.records.live (dnsRecordKey gateway listener.name) = none

end

section
variable {clusters : List String} {listener : Listener} {host : String}

theorem RightOutcome.congr
    (h : RightOutcome env placer gateway dnsPolicy clusters hub listener host)
    (hrecords : hub'.records.get (dnsRecordKey gateway listener.name)
      = hub.records.get (dnsRecordKey gateway listener.name)) :
    RightOutcome env placer gateway dnsPolicy clusters hub' listener host := by
  refine ⟨fun hroutes => ?_, fun hroutes => ?_⟩
  · rw [hrecords]
    exact h.published hroutes
  · unfold Objects.live
    rw [hrecords]
    exact h.withdrawn hroutes

/-- The listeners that the loop does not come to: those after the first one without routes. -/
def skipped (placer : Placer) (clusters : List String) (listeners : List Listener) :
    List Listener :=
  (listeners.dropWhile (hasRoutes placer clusters)).tail

/-- A loop that comes to a listener without routes ends there. -/
theorem LoopRun.stop {listeners rest : List Listener} {first : Listener}
    (h : LoopRun env suffixes orders placer gateway dnsPolicy clusters hub listeners hub')
    (hdrop : listeners.dropWhile (hasRoutes placer clusters) = first :: rest) :
    ∃ hub₁, LoopRun env suffixes orders placer gateway dnsPolicy clusters hub
        (listeners.takeWhile (hasRoutes placer clusters)) hub₁ ∧
      Withdrawn (dnsRecordKey gateway first.name) hub₁ hub' := by
  induction h with
  | nil hub => cases hdrop
  | done other rest hempty hgone =>
      have hno := (eq_nil_iff_hasRoutes hempty).1 rfl
      rw [List.dropWhile_cons_of_neg (by simp [hno])] at hdrop
      rw [List.takeWhile_cons_of_neg (by simp [hno])]
      cases hdrop
      exact ⟨_, .nil _, hgone⟩
  | next other rest host mz cgs hhost hzone hcollect hsome hpublished hrest ih =>
      have hroutes := hasRoutes_of_ne_nil hcollect hsome
      rw [List.dropWhile_cons_of_pos hroutes] at hdrop
      rw [List.takeWhile_cons_of_pos hroutes]
      obtain ⟨hub₁, hrun, hgone⟩ := ih hdrop
      exact ⟨hub₁, .next other _ host mz cgs hhost hzone hcollect hsome hpublished hrun, hgone⟩

theorem mem_of_mem_skipped {listeners : List Listener}
    (h : listener ∈ skipped placer clusters listeners) : listener ∈ listeners :=
  (List.dropWhile_sublist _).subset (List.mem_of_mem_tail h)

/-- Nothing changes for a listener that the loop does not come to. -/
theorem LoopRun.get_skipped {listeners : List Listener}
    (h : LoopRun env suffixes orders placer gateway dnsPolicy clusters hub listeners hub')
    (hnames : (listeners.map (·.name)).Nodup)
    (hskipped : listener ∈ skipped placer clusters listeners) :
    hub'.records.get (dnsRecordKey gateway listener.name)
      = hub.records.get (dnsRecordKey gateway listener.name) := by
  unfold skipped at hskipped
  cases hdrop : listeners.dropWhile (hasRoutes placer clusters) with
  | nil =>
      rw [hdrop] at hskipped
      cases hskipped
  | cons first rest =>
      rw [hdrop] at hskipped
      obtain ⟨hub₁, hrun, hgone⟩ := h.stop hdrop
      rw [← List.takeWhile_append_dropWhile (p := hasRoutes placer clusters) (l := listeners),
        hdrop, List.map_append, List.map_cons, List.nodup_append, List.nodup_cons] at hnames
      obtain ⟨-, ⟨hfirst, -⟩, htaken⟩ := hnames
      have hname : listener.name ∈ rest.map (·.name) := List.mem_map.2 ⟨listener, hskipped, rfl⟩
      rw [hgone.others _ (dnsRecordKey_ne fun heq => hfirst (heq ▸ hname))]
      exact hrun.frame.2.2 _ fun l hl => dnsRecordKey_ne fun heq =>
        htaken _ (List.mem_map.2 ⟨l, hl, rfl⟩) _ (List.mem_cons_of_mem _ hname) heq.symm

/-- After the loop a listener has its outcome, unless it was skipped. -/
theorem LoopRun.outcome {listeners : List Listener}
    (h : LoopRun env suffixes orders placer gateway dnsPolicy clusters hub listeners hub')
    (hnames : (listeners.map (·.name)).Nodup) (hl : listener ∈ listeners)
    (hhost : listener.hostname = some host) :
    RightOutcome env placer gateway dnsPolicy clusters hub' listener host ∨
      listener ∈ skipped placer clusters listeners := by
  rw [← List.takeWhile_append_dropWhile (p := hasRoutes placer clusters) (l := listeners)] at hl
  rcases List.mem_append.1 hl with hvisited | hrest
  · obtain ⟨host', mz, cgs, hhost', -, hcollect, record, t, -, hnew, hget⟩ :=
      h.published hnames hvisited
    cases hhost.symm.trans hhost'
    have hclusters := collectClusterGateways_eq_ok hcollect
    refine Or.inl ⟨fun _ => ⟨_, cgs, t, _, _, _, hget, hclusters, hnew, rfl⟩, fun hno => ?_⟩
    have hroutes := List.mem_takeWhile_imp hvisited
    rw [hno] at hroutes
    cases hroutes
  · unfold skipped
    cases hdrop : listeners.dropWhile (hasRoutes placer clusters) with
    | nil =>
        rw [hdrop] at hrest
        cases hrest
    | cons first rest =>
        obtain ⟨hub₁, -, hgone⟩ := h.stop hdrop
        have hno : hasRoutes placer clusters first = false := by
          have hhead := List.head_dropWhile_not (l := listeners) (hasRoutes placer clusters)
            (by simp [hdrop])
          simpa [hdrop] using hhead
        rw [hdrop] at hrest
        rcases List.mem_cons.1 hrest with rfl | hrest
        · exact Or.inl ⟨fun hroutes => absurd hroutes (by simp [hno]), fun _ => hgone.live⟩
        · exact Or.inr hrest

end

/-! ## Calls that are all served -/

theorem mapError_of_ok {S α : Type} {f : ApiError → ApiError} {x : Api S α} {w w' : Served S}
    {a : α} (h : x w = (.ok a, w')) : mapError f x w = (.ok a, w') := by
  unfold mapError
  rw [Effect.bind_of_ok (Api.outcome_of_ok h)]
  rfl

section
variable {listener : Listener} {host : String} {mz : ManagedZoneObject} {clusters : List String}
  {hub'' : DnsHub}

theorem getManagedZoneForListener_of_no_faults {fold : Text.CaseFold} {ns : String}
    (hhost : listener.hostname = some host)
    (hzone : selectedZone fold suffixes hub ns host = some mz) :
    getManagedZoneForListener fold suffixes ns listener ⟨hub, []⟩ = (.ok mz, ⟨hub, []⟩) := by
  unfold getManagedZoneForListener
  rw [Effect.bind_of_ok (Api.list_of_no_faults _ hub), hhost]
  unfold selectedZone at hzone
  split at hzone
  · rename_i mz' subdomain hfind
    cases hzone
    show (match findMatchingManagedZone fold suffixes host host
        (hub.zones.entries.filter (fun mz => mz.metadata.ns == ns)) with
      | .ok (mz, _) => pure mz
      | .error e => Effect.fail ⟨.other, e.message⟩ : Api DnsHub ManagedZoneObject) ⟨hub, []⟩ = _
    rw [hfind]
    rfl
  · cases hzone

theorem createDNSRecordForListener_of_no_faults {record : DNSRecord}
    (hmz : mz.metadata.ns = gateway.ns)
    (h : Obtained gateway dnsPolicy listener mz hub record hub') :
    createDNSRecordForListener gateway dnsPolicy mz listener ⟨hub, []⟩
      = (.ok record, ⟨hub', []⟩) := by
  have hkey : dnsRecordKind.key (buildDNSRecordForListener gateway dnsPolicy listener mz)
      = dnsRecordKey gateway listener.name := congrArg (ObjectKey.mk · _) hmz
  unfold createDNSRecordForListener
  rcases h with ⟨hget, rfl⟩ | ⟨hfree, rfl, rfl⟩
  · have hexists : (recordsPart.get hub').get
        (dnsRecordKind.key (buildDNSRecordForListener gateway dnsPolicy listener mz))
          = some record := by
      rw [hkey]
      exact hget
    rw [Effect.bind_of_ok (Effect.attempt_apply _ _),
      Api.create_of_exists (by rw [hexists]; exact Option.some_ne_none record)]
    show Api.get recordsPart _ ⟨hub', []⟩ = _
    rw [Api.get_of_no_faults]
    exact congrArg (·, _) (Objects.find_eq_ok.2 hexists)
  · have hnone : (recordsPart.get hub).get
        (dnsRecordKind.key (buildDNSRecordForListener gateway dnsPolicy listener mz)) = none := by
      rw [hkey]
      exact hfree
    rw [Effect.bind_of_ok (Effect.attempt_apply _ _), Api.create_of_no_faults rfl hnone]
    rfl

/-- The record is written if it gets other endpoints. -/
def EndpointsSet (record : DNSRecord) (endpoints : List Endpoint) (hub hub' : DnsHub) : Prop :=
  (endpoints = record.spec.endpoints ∧ hub' = hub) ∨
  (endpoints ≠ record.spec.endpoints ∧
    hub' = { hub with records := hub.records.put (record.withEndpoints endpoints) })

/-- A listener with routes. -/
theorem publishListener_of_no_faults {record : DNSRecord} {clusterGateways : List ClusterGateway}
    {t : MultiClusterGatewayTarget} {endpoints : List Endpoint} (hmz : mz.metadata.ns = gateway.ns)
    (hobtained : Obtained gateway dnsPolicy listener mz hub record hub')
    (hnew : MultiClusterGatewayTarget.new gateway clusterGateways dnsPolicy.loadBalancing = .ok t)
    (hendpoints : setEndpoints env (orders listener.name) t record.spec.endpoints
      (listedProbes gateway dnsPolicy hub.probes) listener.name host = endpoints)
    (hset : EndpointsSet record endpoints hub' hub'') :
    publishListener env orders gateway dnsPolicy mz listener host clusterGateways ⟨hub, []⟩
      = (.ok (), ⟨hub'', []⟩) := by
  have hcreate := createDNSRecordForListener_of_no_faults hmz hobtained
  have hwritten := hobtained.written hmz
  have hobtain : obtainDNSRecord gateway dnsPolicy mz listener host ⟨hub, []⟩
      = (.ok record, ⟨hub', []⟩) := by
    unfold obtainDNSRecord
    rw [Effect.bind_of_ok (Api.outcome_of_ok hcreate)]
    rfl
  unfold publishListener
  rw [Effect.bind_of_ok hobtain, hnew]
  refine mapError_of_ok ?_
  unfold setRecordEndpoints getDNSHealthCheckProbes
  rw [Effect.bind_of_ok (Api.list_of_no_faults _ hub'), gateway_new hnew]
  rw [← hwritten.probes] at hendpoints
  change setEndpoints env (orders listener.name) t record.spec.endpoints
    ((probesPart.get hub').entries.filter (selectsProbe gateway dnsPolicy)) listener.name host
      = endpoints at hendpoints
  simp only [hendpoints]
  rcases hset with ⟨hsame, rfl⟩ | ⟨hchanged, rfl⟩
  · rw [if_pos hsame]
    rfl
  · rw [if_neg hchanged]
    have hget : (recordsPart.get hub').get (dnsRecordKey gateway listener.name) = some record :=
      hwritten.written
    refine Api.update_of_no_faults ?_
    have hkey : dnsRecordKind.key record = dnsRecordKey gateway listener.name :=
      Objects.key_of_get hget
    show (recordsPart.get hub').get (dnsRecordKind.key record) ≠ none
    rw [hkey, hget]
    exact Option.some_ne_none record

/-- A round for a listener with routes. -/
theorem reconcileListener_of_no_faults {record : DNSRecord} {clusterGateways : List ClusterGateway}
    {t : MultiClusterGatewayTarget} {endpoints : List Endpoint}
    (hhost : listener.hostname = some host)
    (hzone : selectedZone env.fold suffixes hub gateway.ns host = some mz)
    (hcollect : collectClusterGateways placer listener.name clusters = .ok clusterGateways)
    (hsome : clusterGateways ≠ [])
    (hobtained : Obtained gateway dnsPolicy listener mz hub record hub')
    (hnew : MultiClusterGatewayTarget.new gateway clusterGateways dnsPolicy.loadBalancing = .ok t)
    (hendpoints : setEndpoints env (orders listener.name) t record.spec.endpoints
      (listedProbes gateway dnsPolicy hub.probes) listener.name host = endpoints)
    (hset : EndpointsSet record endpoints hub' hub'') :
    reconcileListener env suffixes orders placer gateway dnsPolicy clusters listener ⟨hub, []⟩
      = (.ok .next, ⟨hub'', []⟩) := by
  have hpublish := publishListener_of_no_faults (selectedZone_ns hzone) hobtained hnew hendpoints
    hset
  have hne := host_ne_empty hzone
  unfold reconcileListener
  rw [Effect.bind_of_ok (getManagedZoneForListener_of_no_faults hhost hzone)]
  simp only [hhost, hcollect]
  cases clusterGateways with
  | nil => exact absurd rfl hsome
  | cons cg rest => exact Effect.bind_of_ok hpublish

/-- A round for a listener without routes. -/
theorem reconcileListener_without_routes {w : Served DnsHub} (hhost : listener.hostname = some host)
    (hzone : selectedZone env.fold suffixes hub gateway.ns host = some mz)
    (hcollect : collectClusterGateways placer listener.name clusters = .ok [])
    (hdelete : Api.ignoreNotFound (deleteDNSRecordForListener gateway listener) ⟨hub, []⟩
      = (.ok (), w)) :
    reconcileListener env suffixes orders placer gateway dnsPolicy clusters listener ⟨hub, []⟩
      = (.ok .done, w) := by
  have hne := host_ne_empty hzone
  unfold reconcileListener
  rw [Effect.bind_of_ok (getManagedZoneForListener_of_no_faults hhost hzone)]
  simp only [hhost, hcollect]
  exact Effect.bind_of_ok (mapError_of_ok hdelete)

theorem reconcileListeners_done {w w' : Served DnsHub} (rest : List Listener)
    (h : reconcileListener env suffixes orders placer gateway dnsPolicy clusters listener w
      = (.ok .done, w')) :
    reconcileListeners env suffixes orders placer gateway dnsPolicy clusters (listener :: rest) w
      = (.ok (), w') :=
  Effect.bind_of_ok h

theorem reconcileListeners_next {w w' : Served DnsHub} (rest : List Listener)
    (h : reconcileListener env suffixes orders placer gateway dnsPolicy clusters listener w
      = (.ok .next, w')) :
    reconcileListeners env suffixes orders placer gateway dnsPolicy clusters (listener :: rest) w
      = reconcileListeners env suffixes orders placer gateway dnsPolicy clusters rest w' :=
  Effect.bind_of_ok h

end

/-! ## A Gateway on one cluster -/

namespace ListenerSample

def zone (name domainName : String) : ManagedZoneObject where
  metadata := { name := name, ns := "testns" }
  spec := { domainName := domainName }

/-- Two zones, and no record or probe. -/
def zonedHub : DnsHub where
  records := ∅
  zones := (Objects.put ∅ (zone "example" "example.com")).put (zone "other" "other.com")
  probes := ∅

/-- One cluster, with routes for some listeners. -/
def placerWith (routes : String → Nat) : Placer where
  getPlacedClusters := .ok ["test-cluster-1"]
  listenerTotalAttachedRoutes listenerName _ := .ok (routes listenerName)
  getClusterGateway _ cluster := .ok ⟨{ name := cluster }, [⟨.ipAddress, "1.1.1.1"⟩]⟩

/-- One route is attached, to the listener `api`. -/
def routesForApi (listenerName : String) : Nat := if listenerName = "api" then 1 else 0

/-- The Gateway with these listeners. -/
def gatewayWith (listeners : List Listener) : Gateway :=
  { probedGateway with listeners := listeners }

/-- What is published for a Gateway on the one cluster. -/
def targetOf (gateway : Gateway) : MultiClusterGatewayTarget where
  gateway := gateway
  clusterGatewayTargets :=
    [{ cluster := { name := "test-cluster-1" }
       gatewayAddresses := [⟨.ipAddress, "1.1.1.1"⟩], geo := "default", weight := 120 }]
  loadBalancing := none

/-- The reconcile of a Gateway on the one cluster. -/
abbrev reconcileSample (routes : String → Nat) (gateway : Gateway) : Api DnsHub Unit :=
  reconcileGatewayDNSRecords .sample .topLevel (fun _ => .inserted) (placerWith routes) gateway
    probingPolicy

theorem selectedZone_test : selectedZone .ascii .topLevel zonedHub "testns" "test.example.com"
    = some (zone "example" "example.com") :=
  selectedZone_child "example.com" "com" (by decide) (by decide) (by decide) (by decide) (by decide)
    (by decide)

/-- The endpoints of a listener that had the given ones. -/
def endpointsAfter (gateway : Gateway) (host : String) (endpoints : List Endpoint) :
    List Endpoint :=
  fullEndpoints .sample .inserted (targetOf gateway) host endpoints

/-- The hub with a record written. -/
def withRecord (hub : DnsHub) (record : DNSRecord) : DnsHub :=
  { hub with records := hub.records.put record }

/-- The hub after the first call for a listener in the first zone. -/
def hubAfter (gateway : Gateway) (listener : Listener) (host : String) : DnsHub :=
  let record := buildDNSRecordForListener gateway probingPolicy listener (zone "example" "example.com")
  withRecord (withRecord zonedHub record)
    (record.withEndpoints (endpointsAfter gateway host record.spec.endpoints))

theorem selectedZone_after : selectedZone .ascii .topLevel
    (hubAfter (gatewayWith [testListener]) testListener "test.example.com") "testns"
      "test.example.com" = some (zone "example" "example.com") :=
  selectedZone_child "example.com" "com" (by decide) (by decide) (by decide) (by decide) (by decide)
    (by decide)

/-- The listener `test` with its host in the other zone. -/
def movedListener : Listener := { testListener with hostname := some "test.other.com" }

/-- A round for a listener with routes. -/
theorem reconcileListener_sample (routes : String → Nat) (gateway : Gateway) (listener : Listener)
    {host : String} {mz : ManagedZoneObject} {record : DNSRecord} {hub hub' hub'' : DnsHub}
    (hroutes : routes listener.name ≠ 0) (hprobes : hub.probes = ∅)
    (hhost : listener.hostname = some host)
    (hzone : selectedZone .ascii .topLevel hub gateway.ns host = some mz)
    (hobtained : Obtained gateway probingPolicy listener mz hub record hub')
    (hset : EndpointsSet record (endpointsAfter gateway host record.spec.endpoints) hub' hub'') :
    reconcileListener .sample .topLevel (fun _ => .inserted) (placerWith routes) gateway
      probingPolicy ["test-cluster-1"] listener ⟨hub, []⟩ = (.ok .next, ⟨hub'', []⟩) := by
  have hreports : reportsRoutes (placerWith routes) listener.name "test-cluster-1" = true := by
    simpa [reportsRoutes, placerWith] using hroutes
  have hcollect : collectClusterGateways (placerWith routes) listener.name ["test-cluster-1"]
      = .ok [⟨{ name := "test-cluster-1" }, [⟨.ipAddress, "1.1.1.1"⟩]⟩] := by
    unfold collectClusterGateways
    rw [if_pos hreports]
    rfl
  refine reconcileListener_of_no_faults (t := targetOf gateway) hhost hzone hcollect
    (List.cons_ne_nil _ _) hobtained rfl ?_ hset
  rw [hprobes]
  exact setEndpoints_no_probes _ _ _ _ _ _

/-- The first call for a listener. -/
theorem reconcileSample_new (gateway : Gateway) (listener : Listener) {host : String}
    (hlisteners : gateway.listeners = [listener]) (hhost : listener.hostname = some host)
    (hzone : selectedZone .ascii .topLevel zonedHub gateway.ns host
      = some (zone "example" "example.com"))
    (hsome : endpointsAfter gateway host [] ≠ []) :
    reconcileSample (fun _ => 1) gateway ⟨zonedHub, []⟩
      = (.ok (), ⟨hubAfter gateway listener host, []⟩) := by
  have hround := reconcileListener_sample (fun _ => 1) gateway listener Nat.one_ne_zero rfl hhost hzone
    (Or.inr ⟨rfl, rfl, rfl⟩) (Or.inr ⟨hsome, rfl⟩)
  have hloop := reconcileListeners_next [] hround
  rw [← hlisteners] at hloop
  exact hloop

theorem reconcileSample_test :
    reconcileSample (fun _ => 1) (gatewayWith [testListener]) ⟨zonedHub, []⟩
      = (.ok (), ⟨hubAfter (gatewayWith [testListener]) testListener "test.example.com", []⟩) :=
  reconcileSample_new _ _ rfl rfl selectedZone_test (by decide)

end ListenerSample

/-! ## A reconcile of a Gateway -/

/-- The removal touches nothing but records. -/
theorem keeps_removeDNSForDeletedListeners {T : Type} {view : DnsHub → T}
    (h : ∀ hub records, view (recordsPart.set hub records) = view hub) :
    Api.Keeps view (removeDNSForDeletedListeners gateway) := by
  refine (Api.keeps_list _).bind fun dnsList => Api.Keeps.forEach fun dns _ => ?_
  split
  · exact Api.keeps_pure ()
  · exact (Api.keeps_write h).ignoreNotFound

/-- A call that returns nil has removed the records of deleted listeners and run the loop. -/
theorem reconcileGatewayDNSRecords_ok {clusters : List String} {w w' : Served DnsHub}
    (hclusters : placer.getPlacedClusters = .ok clusters)
    (h : reconcileGatewayDNSRecords env suffixes orders placer gateway dnsPolicy w = (.ok (), w')) :
    LoopRun env suffixes orders placer gateway dnsPolicy clusters
      (removeDNSForDeletedListeners gateway w).2.state gateway.listeners w'.state := by
  unfold reconcileGatewayDNSRecords at h
  obtain ⟨_, w₁, hremove, hloop⟩ := Effect.bind_eq_ok.1 h
  rw [hclusters] at hloop
  rw [hremove]
  exact (triple_reconcileListeners clusters gateway.listeners).of_ok rfl hloop

/-- After a call that returns nil all listeners have their outcome exactly if those that the loop
    did not come to already had it. -/
theorem listeners_right_iff (env : Env) (suffixes : SuffixList) (orders : String → MapOrder)
    (placer : Placer) (gateway : Gateway) (dnsPolicy : DNSPolicy) (clusters : List String)
    (w w' : Served DnsHub) (hnames : (gateway.listeners.map (·.name)).Nodup)
    (hclusters : placer.getPlacedClusters = .ok clusters)
    (hok : reconcileGatewayDNSRecords env suffixes orders placer gateway dnsPolicy w
      = (.ok (), w')) :
    (∀ listener ∈ gateway.listeners, ∀ host, listener.hostname = some host → host ≠ "" →
      RightOutcome env placer gateway dnsPolicy clusters w'.state listener host) ↔
    ∀ listener ∈ skipped placer clusters gateway.listeners, ∀ host, listener.hostname = some host →
      host ≠ "" → RightOutcome env placer gateway dnsPolicy clusters
        (removeDNSForDeletedListeners gateway w).2.state listener host := by
  have hrun := reconcileGatewayDNSRecords_ok hclusters hok
  constructor
  · intro hright listener hskipped host hhost hne
    exact (hright listener (mem_of_mem_skipped hskipped) host hhost hne).congr
      (hrun.get_skipped hnames hskipped).symm
  · intro hright listener hl host hhost hne
    rcases hrun.outcome hnames hl hhost with houtcome | hskipped
    · exact houtcome
    · exact (hright listener hskipped host hhost hne).congr (hrun.get_skipped hnames hskipped)

namespace ListenerSample

/-- With `api` in front both listeners have their outcome. -/
theorem listeners_right_iff_api_first : ∃ w',
    reconcileSample routesForApi (gatewayWith [apiListener, testListener]) ⟨zonedHub, []⟩
      = (.ok (), w') ∧
    ∀ listener ∈ [apiListener, testListener], ∀ host, listener.hostname = some host → host ≠ "" →
      RightOutcome .sample (placerWith routesForApi) (gatewayWith [apiListener, testListener])
        probingPolicy ["test-cluster-1"] w'.state listener host := by
  have hzone : selectedZone .ascii .topLevel zonedHub "testns" "api.example.com"
      = some (zone "example" "example.com") :=
    selectedZone_child "example.com" "com" (by decide) (by decide) (by decide) (by decide)
      (by decide) (by decide)
  have hapi := reconcileListener_sample routesForApi (gatewayWith [apiListener, testListener])
    apiListener (by decide) rfl rfl hzone (Or.inr ⟨rfl, rfl, rfl⟩) (Or.inr ⟨by decide, rfl⟩)
  have hok := (reconcileListeners_next [testListener] hapi).trans
    (reconcileListeners_done [] (reconcileListener_without_routes rfl selectedZone_test rfl rfl))
  refine ⟨_, hok, ?_⟩
  refine (listeners_right_iff .sample .topLevel (fun _ => .inserted) (placerWith routesForApi)
    (gatewayWith [apiListener, testListener]) probingPolicy ["test-cluster-1"] ⟨zonedHub, []⟩ _
    (by decide) rfl hok).2 ?_
  intro listener hskipped
  have hnone : skipped (placerWith routesForApi) ["test-cluster-1"]
      (gatewayWith [apiListener, testListener]).listeners = [] := by
    decide
  rw [hnone] at hskipped
  cases hskipped

/-- The listener `test` has no routes and comes first: nothing is done for `api`. -/
theorem api_skipped : ∃ w',
    reconcileSample routesForApi (gatewayWith [testListener, apiListener]) ⟨zonedHub, []⟩
      = (.ok (), w') ∧
    hasRoutes (placerWith routesForApi) ["test-cluster-1"] apiListener = true ∧
    w'.state.records.get (dnsRecordKey probedGateway "api") = none := by
  refine ⟨⟨zonedHub, []⟩, ?_, rfl, rfl⟩
  exact reconcileListeners_done [apiListener]
    (reconcileListener_without_routes rfl selectedZone_test rfl rfl)

end ListenerSample

/-- A listener whose endpoints were set in a call that returned nil has a record, with all names
    below the domain of the zone that its host selects. The record refers to this zone exactly if it
    is new or did so before. -/
theorem record_zone_iff (env : Env) (suffixes : SuffixList) (orders : String → MapOrder)
    (placer : Placer) (gateway : Gateway) (dnsPolicy : DNSPolicy) (clusters : List String)
    (w w' : Served DnsHub) (listener : Listener) (hnames : (gateway.listeners.map (·.name)).Nodup)
    (hclusters : placer.getPlacedClusters = .ok clusters)
    (hok : reconcileGatewayDNSRecords env suffixes orders placer gateway dnsPolicy w = (.ok (), w'))
    (hset : listener ∈ gateway.listeners.takeWhile (hasRoutes placer clusters)) :
    ∃ host zone record, listener.hostname = some host ∧
      selectedZone env.fold suffixes w.state gateway.ns host = some zone ∧
      w'.state.records.get (dnsRecordKey gateway listener.name) = some record ∧
      (ListenerHost env.fold host →
        ∀ e ∈ record.spec.endpoints, Below (zone.domain env.fold) e.dnsName) ∧
      (record.spec.managedZoneRef = zone.metadata.name ↔
        ∀ old, (removeDNSForDeletedListeners gateway w).2.state.records.get
            (dnsRecordKey gateway listener.name) = some old →
          old.spec.managedZoneRef = zone.metadata.name) := by
  have hrun := reconcileGatewayDNSRecords_ok hclusters hok
  obtain ⟨host, zone, cgs, hhost, hzone, -, record, t, hrecord, -, hget⟩ :=
    hrun.published hnames hset
  have hzones : (removeDNSForDeletedListeners gateway w).2.state.zones = w.state.zones :=
    keeps_removeDNSForDeletedListeners (fun _ _ => rfl) w
  refine ⟨host, zone, _, hhost, ?_, hget, fun hlistener e he => ?_, ?_⟩
  · unfold selectedZone at hzone ⊢
    rwa [hzones] at hzone
  · exact below_of_mem_setEndpoints hlistener (below_selectedZone hlistener.lower hzone) he
  · rcases hrecord with hold | ⟨hfree, rfl⟩
    · rw [hold]
      exact ⟨fun href _ heq => Option.some.inj heq ▸ href, fun h => h record rfl⟩
    · rw [hfree]
      exact ⟨fun _ _ hnone => (nomatch hnone), fun _ => rfl⟩

namespace ListenerSample

/-- The second call finds the record of the first one, in the zone that the host still selects. -/
theorem reconcileSample_again :
    reconcileSample (fun _ => 1) (gatewayWith [testListener])
      ⟨hubAfter (gatewayWith [testListener]) testListener "test.example.com", []⟩
      = (.ok (), ⟨hubAfter (gatewayWith [testListener]) testListener "test.example.com", []⟩) := by
  have hround := reconcileListener_sample (fun _ => 1) (gatewayWith [testListener]) testListener
    (by decide) rfl rfl selectedZone_after (Or.inl ⟨rfl, rfl⟩) (Or.inl ⟨by decide, rfl⟩)
  exact reconcileListeners_next [] hround

/-- A new record is in the selected zone, and so is one that the next call finds there. -/
theorem record_zone_iff_new : ∃ w₁ w₂ record,
    reconcileSample (fun _ => 1) (gatewayWith [testListener]) ⟨zonedHub, []⟩ = (.ok (), w₁) ∧
    reconcileSample (fun _ => 1) (gatewayWith [testListener]) w₁ = (.ok (), w₂) ∧
    w₁.state.records.get (dnsRecordKey probedGateway "test") ≠ none ∧
    w₂.state.records.get (dnsRecordKey probedGateway "test") = some record ∧
    record.spec.managedZoneRef = "example" ∧
    ∀ e ∈ record.spec.endpoints, Below "example.com" e.dnsName := by
  obtain ⟨host, zone, record, hhost, hzone, hget, hbelow, hiff⟩ :=
    record_zone_iff .sample .topLevel (fun _ => .inserted) (placerWith fun _ => 1)
      (gatewayWith [testListener]) probingPolicy ["test-cluster-1"]
      ⟨hubAfter (gatewayWith [testListener]) testListener "test.example.com", []⟩ _ testListener
      (by decide) rfl reconcileSample_again (by decide)
  cases hhost
  cases hzone.symm.trans selectedZone_after
  refine ⟨_, _, record, reconcileSample_test, reconcileSample_again, ?_, hget,
    hiff.2 fun old hold => ?_, ?_⟩
  · exact Option.some_ne_none _
  · cases hold
    rfl
  · exact hbelow ⟨by decide, Or.inl (by decide)⟩

/-- The record stays in the zone of the listener's first host. -/
theorem zone_of_first_host : ∃ w₁ w₂ record,
    reconcileSample (fun _ => 1) (gatewayWith [testListener]) ⟨zonedHub, []⟩ = (.ok (), w₁) ∧
    reconcileSample (fun _ => 1) (gatewayWith [movedListener]) w₁ = (.ok (), w₂) ∧
    selectedZone .ascii .topLevel w₁.state "testns" "test.other.com"
      = some (zone "other" "other.com") ∧
    w₂.state.records.get (dnsRecordKey probedGateway "test") = some record ∧
    record.spec.managedZoneRef = "example" ∧
    record.spec.endpoints.map (·.dnsName) = ["20qri0.lb-0ecjaw.test.other.com",
      "default.lb-0ecjaw.test.other.com", "lb-0ecjaw.test.other.com", "test.other.com"] := by
  have hzone : selectedZone .ascii .topLevel
      (hubAfter (gatewayWith [testListener]) testListener "test.example.com") "testns" "test.other.com"
      = some (zone "other" "other.com") :=
    selectedZone_child "other.com" "com" (by decide) (by decide) (by decide) (by decide)
      (by decide) (by decide)
  have hmoved := reconcileListener_sample (fun _ => 1) (gatewayWith [movedListener]) movedListener
    (by decide) rfl rfl hzone (Or.inl ⟨rfl, rfl⟩) (Or.inr ⟨by decide, rfl⟩)
  exact ⟨_, _, _, reconcileSample_test, reconcileListeners_next [] hmoved, hzone, rfl, rfl,
    by decide⟩

end ListenerSample

end MultiClusterGateway
