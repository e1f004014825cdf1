import MultiClusterGateway.Dns.Lossless
import MultiClusterGateway.DnsPolicy.SetIds
import MultiClusterGateway.DnsPolicy.Sharing
import MultiClusterGateway.DnsRecord.Shared

set_option autoImplicit false

/-! # The record sets of two listeners

The names that `setEndpoints` generates for a listener are made from its host without the wildcard,
in lower case. They are not made from the listener's name, which is what tells the DNSRecords of a
gateway apart. Two listeners for one host, or for a host and the wildcard below it, so publish the
same record sets, and the DNSRecord that is deleted takes those of the other one with it.

Two listeners are isolated from each other if no calls for them ever make endpoints for the same
record set. `listeners_isolated_iff` says that this is so exactly if the hosts differ once the
wildcard is dropped and they are lower-cased, and that the record of the one can be deleted without
touching what the other has published exactly in the same case. For the converse there is a run of
the two records on their shared zone up to the deletion. -/

namespace MultiClusterGateway

open DnsRecord

/-! ## Keys -/

/-- What the lb name of a host is made from, apart from the gateway. -/
def lbHost (env : Env) (host : String) : String := Text.toLower env.fold (cnameHost host)

/-- What the names of a target have to satisfy for its endpoints to be told apart. -/
structure Nameable (env : Env) (t : MultiClusterGatewayTarget) (host : String) : Prop where
  admissible : Admissible env t host
  clustersOnce : ClustersOnce t
  geo_ne_empty : ∀ c ∈ t.clusterGatewayTargets, c.geo ≠ ""

section
variable {env : Env} {t t' : MultiClusterGatewayTarget} {host host' : String}

theorem lbName_eq_iff (hg : t.gateway = t'.gateway) :
    lbName env t host = lbName env t' host' ↔ lbHost env host = lbHost env host' := by
  have hcode : t.getShortCode env = t'.getShortCode env := by
    unfold MultiClusterGatewayTarget.getShortCode MultiClusterGatewayTarget.getName
    rw [hg]
  rw [lbName_eq, lbName_eq, hcode]
  exact String.append_right_inj _

/-- The endpoint with the listener's host is the only CNAME without a set identifier. -/
theorem Nameable.eq_host (hN : Nameable env t host) {n : Node} (hn : n ∈ treeNodes env t host)
    (htype : n.recordType = .CNAME) (hid : n.setIdentifier = "") : n = .host := by
  cases n with
  | address c => cases htype
  | weighted c v => exact absurd hid (hN.admissible.regular hn)
  | geo code =>
      obtain ⟨⟨c, hc, rfl⟩, -⟩ := geo_of_mem_treeNodes hn
      exact absurd hid (hN.geo_ne_empty c hc)
  | default code => exact absurd hid (by decide : "default" ≠ "")
  | host => rfl

/-- Names with different lb names in them differ. -/
theorem Shape.name_ne {s s' : Shape} (hs : s.Proper) (hs' : s'.Proper) (hhost : s ≠ .host)
    (hhost' : s' ≠ .host) (hlb : lbName env t host ≠ lbName env t' host') :
    s.name (lbName env t host) host ≠ s'.name (lbName env t' host') host' := by
  intro h
  cases s with
  | host => exact hhost rfl
  | lb id =>
      cases s' with
      | host => exact hhost' rfl
      | lb id' => exact hlb h
      | labelled label id' =>
          have hlabel := @labelled_ne_lbName env t host label hs'.1 hs'.2 (lbName env t' host') ""
          rw [String.append_empty] at hlabel
          exact hlabel h.symm
  | labelled label id =>
      cases s' with
      | host => exact hhost' rfl
      | lb id' =>
          have hlabel := @labelled_ne_lbName env t' host' label hs.1 hs.2 (lbName env t host) ""
          rw [String.append_empty] at hlabel
          exact hlabel h
      | labelled label' id' => exact hlb (@Text.split_at '.' _ _ _ _ hs.1 hs'.1 h).2

/-- Nodes for hosts with different lb names are for different record sets. -/
theorem Nameable.key_ne (hN : Nameable env t host) (hN' : Nameable env t' host')
    (hlb : lbName env t host ≠ lbName env t' host') (hhost : host ≠ host') {m n : Node}
    (hm : m ∈ treeNodes env t host) (hn : n ∈ treeNodes env t' host')
    (hname : m.dnsName env t host = n.dnsName env t' host')
    (htype : m.recordType = n.recordType) : m.setIdentifier ≠ n.setIdentifier := by
  intro hid
  by_cases hmh : m = .host
  · subst hmh
    have hnh : n = .host := hN'.eq_host hn htype.symm hid.symm
    subst hnh
    exact hhost hname
  · by_cases hnh : n = .host
    · subst hnh
      exact hmh (hN.eq_host hm htype hid)
    · have hshape (n : Node) (h : n ≠ .host) : n.shape env ≠ .host := by
        cases n with
        | host => exact absurd rfl h
        | address _ | weighted _ _ | geo _ | default _ => exact fun h => nomatch h
      rw [dnsName_eq_name, dnsName_eq_name] at hname
      exact Shape.name_ne (hN.admissible.proper hm) (hN'.admissible.proper hn) (hshape m hmh)
        (hshape n hnh) hlb hname

end

/-! ## Endpoints of a listener -/

/-- An endpoint that some call for the gateway's listener makes. -/
def MadeFor (env : Env) (gateway : Gateway) (host : String) (e : Endpoint) : Prop :=
  ∃ t : MultiClusterGatewayTarget, t.gateway = gateway ∧ Nameable env t host ∧
    ∃ n ∈ treeNodes env t host, e = n.setWildcard (n.fresh env t host)

section
variable {env : Env} {gateway : Gateway} {host host' listenerName : String} {e e' : Endpoint}

theorem MadeFor.leftBehind (h : MadeFor env gateway host e) : LeftBehind env gateway host e := by
  obtain ⟨t, hg, hN, hn⟩ := h
  exact ⟨t, hg, hN.admissible, hn⟩

theorem MadeFor.endpointKey_ne (h : MadeFor env gateway host e) (h' : MadeFor env gateway host' e')
    (hlb : lbHost env host ≠ lbHost env host') :
    Route53.endpointKey e ≠ Route53.endpointKey e' := by
  obtain ⟨t, hg, hN, m, hm, rfl⟩ := h
  obtain ⟨t', hg', hN', n, hn, rfl⟩ := h'
  intro hkey
  obtain ⟨hname, htype, hid⟩ := Route53.endpointKey_inj.1 hkey
  refine hN.key_ne hN' ((lbName_eq_iff (hg.trans hg'.symm)).not.2 hlb)
    (fun h => hlb (congrArg (lbHost env) h)) hm hn ?_ ?_ ?_
  · simpa using hname
  · simpa using htype
  · simpa using hid

/-- The endpoints of a call, on whatever earlier calls have left. -/
theorem Call.madeFor_endpoints {call : Call} (hN : Nameable env (call.target gateway) host)
    {before : List Endpoint} (hbefore : ∀ e ∈ before, MadeFor env gateway host e) :
    ∀ e ∈ call.endpoints env gateway listenerName host before, MadeFor env gateway host e := by
  intro e he
  have hleft : ∀ e ∈ before, LeftBehind env (call.target gateway).gateway host e :=
    fun e he => (hbefore e he).leftBehind
  have hapart := hN.admissible.setIDsApart hN.clustersOnce hleft
  obtain ⟨n, hn, rfl⟩ := (mem_fullEndpoints hapart.unambiguous).1 (publishEndpoints_subset he)
  exact ⟨call.target gateway, rfl, hN, n, createdNodes_subset_treeNodes hn,
    builtEndpoint_of_leftBehind hN.admissible hN.clustersOnce hleft hn⟩

theorem Call.madeFor_endpointsAfter {calls : List Call}
    (hcalls : ∀ call ∈ calls, Nameable env (call.target gateway) host) :
    ∀ e ∈ Call.endpointsAfter env gateway listenerName host calls, MadeFor env gateway host e := by
  induction calls using List.reverseRecOn with
  | nil => exact fun e he => nomatch he
  | append_singleton front last ih =>
      rw [Call.endpointsAfter_append]
      exact Call.madeFor_endpoints (hcalls last (by simp))
        (ih fun call hcall => hcalls call (List.mem_append_left _ hcall))

end

/-! ## Runs -/

section
variable (env : Env) (gateway : Gateway) (host : String → String)

/-- The records of the gateway's listeners, as `createDNSRecordForListener` makes them. -/
def newRecords (dnsPolicy : DNSPolicy) (mz : ManagedZoneObject) (zone : Route53.Zone) :
    Shared Route53.Zone :=
  Shared.start (fun listener => buildDNSRecordForListener gateway dnsPolicy
    { name := listener, hostname := some (host listener) } mz) zone

/-- Endpoints are written by `setEndpoints` only, for targets whose names are told apart. -/
def Permitted (s : Shared Route53.Zone) (e : String × Event (Option String)) : Prop :=
  ∀ es, e.2 = .edit es → ∃ call : Call, Nameable env (call.target gateway) (host e.1) ∧
    ∃ o, (s.records e.1).object = some o ∧
      es = call.endpoints env gateway e.1 (host e.1) o.spec.endpoints

/-- In every reached state, the reconcile that deletes the record of the one listener leaves every
    record set that the record of the other one has published. -/
def DeletionIsolated (dnsPolicy : DNSPolicy) (mz : ManagedZoneObject) (listener other : String) :
    Prop :=
  ∀ (zone : Route53.Zone) (run : List (String × Event (Option String))),
    Run.Always (Shared.step Route53.provider) (Permitted env gateway host)
      (newRecords gateway host dnsPolicy mz zone) run →
    let s := run.foldl (Shared.step Route53.provider) (newRecords gateway host dnsPolicy mz zone)
    ∀ (answers : Answers (Option String)) (dnsRecord : DNSRecord),
      (s.records listener).pending = .read dnsRecord →
      dnsRecord.metadata.deletionTimestamp = true →
      ∀ e ∈ (s.records other).history.published,
        (s.step Route53.provider (listener, .work answers)).zone.get (Route53.endpointKey e)
          = s.zone.get (Route53.endpointKey e)

/-- No calls for the two listeners ever make endpoints for one record set. -/
def KeysDisjoint (listener other : String) : Prop :=
  ∀ calls calls' : List Call,
    (∀ call ∈ calls, Nameable env (call.target gateway) (host listener)) →
    (∀ call ∈ calls', Nameable env (call.target gateway) (host other)) →
    ∀ e ∈ Call.endpointsAfter env gateway listener (host listener) calls,
      ∀ e' ∈ Call.endpointsAfter env gateway other (host other) calls',
        Route53.endpointKey e ≠ Route53.endpointKey e'

end

section
variable {env : Env} {gateway : Gateway} {host : String → String} {dnsPolicy : DNSPolicy}
  {mz : ManagedZoneObject} {listener other : String}

/-- Every record holds endpoints of its own listener. -/
theorem holds_step {s : Shared Route53.Zone} {e : String × Event (Option String)}
    (hs : ∀ l, Holds (MadeFor env gateway (host l)) (s.view l))
    (he : Permitted env gateway host s e) (l : String) :
    Holds (MadeFor env gateway (host l)) ((s.step Route53.provider e).view l) := by
  by_cases hl : l = e.1
  · subst hl
    rw [Shared.step, Shared.view_put_self]
    refine (hs e.1).step fun es hes => ?_
    obtain ⟨call, hN, o, ho, rfl⟩ := he es hes
    exact Call.madeFor_endpoints hN ((hs e.1).object o ho).1
  · have hsame : (s.step Route53.provider e).records l = s.records l :=
      Shared.records_put_of_ne s hl _
    refine ⟨?_, ?_, ?_⟩
    · simpa [Shared.view, hsame] using (hs l).object
    · simpa [Shared.view, hsame] using (hs l).pending
    · simpa [Shared.view, hsame] using (hs l).published

theorem holds_newRecords (zone : Route53.Zone) (l : String) :
    Holds (MadeFor env gateway (host l)) ((newRecords gateway host dnsPolicy mz zone).view l) := by
  refine ⟨fun o ho => ?_, fun r hr => (nomatch hr), fun e he => (nomatch he)⟩
  cases ho
  exact ⟨fun e he => (nomatch he), fun e he => (nomatch he)⟩

theorem deletionIsolated_of_lbHost_ne (h : lbHost env (host listener) ≠ lbHost env (host other)) :
    DeletionIsolated env gateway host dnsPolicy mz listener other := by
  intro zone run hrun s answers dnsRecord _ _ e he
  have hs : ∀ l, Holds (MadeFor env gateway (host l)) (s.view l) :=
    Run.invariant (P := fun s => ∀ l, Holds (MadeFor env gateway (host l)) (s.view l))
      (fun s e hs he => holds_step hs he) (holds_newRecords zone) hrun
  exact (hs listener).get_step (fun e' he' => he'.endpointKey_ne ((hs other).published e he) h) _

end

/-! ## Hosts with one lb name -/

section
variable {env : Env} {gateway : Gateway} {host : String} {e : Endpoint}

theorem MadeFor.publishable (h : MadeFor env gateway host e) (hhost : host ≠ "") :
    Route53.Publishable e := by
  obtain ⟨t, -, -, n, hn, rfl⟩ := h
  refine ⟨?_, ?_, ?_⟩
  · rw [setWildcard_recordType, Node.fresh_recordType]
    cases n with
    | address c => exact Or.inl rfl
    | weighted _ _ | geo _ | default _ | host => exact Or.inr (Or.inl rfl)
  · rw [setWildcard_dnsName, Node.fresh_dnsName, dnsName_eq_name, lbName_eq]
    intro hempty
    have hlist := congrArg String.toList hempty
    cases n with
    | host => exact hhost hempty
    | address _ | weighted _ _ | geo _ | default _ => simp [Node.shape, Shape.name] at hlist
  · rw [setWildcard_targets, Node.fresh_targets]
    exact targets_ne_nil hn

def soleCluster : ClusterGatewayTarget := plainCluster "cluster" ⟨.ipAddress, "1.1.1.1"⟩

/-- A call for one cluster that has an IP address. -/
def Call.oneCluster : Call := .ofClusters [soleCluster]

theorem nameable_oneCluster (env : Env) (gateway : Gateway) (host : String) :
    Nameable env (Call.oneCluster.target gateway) host := by
  have hlower : Text.toLower env.fold "default" = "default" :=
    Text.toLower_eq_self_of_alnum env.fold (by simp)
  have hsole (P : ClusterGatewayTarget → Prop) (h : P soleCluster) :
      ∀ c ∈ (Call.oneCluster.target gateway).clusterGatewayTargets, P c :=
    List.forall_mem_singleton.2 h
  refine ⟨⟨hsole _ (by decide), hsole _ ?_, ?_, hsole _ (by decide), hsole _ ?_, fun code => ?_⟩,
    List.nodup_singleton _, hsole _ (by decide)⟩
  · show Text.hasPrefix (Text.toLower env.fold "default") "lb-" = false
    rw [hlower]
    decide
  · exact hsole _ (hsole _ fun _ => rfl)
  · exact fun v hv => nomatch hv
  · refine List.Nodup.sublist (List.filter_sublist.flatMap _) ?_
    show ([soleCluster].flatMap ClusterGatewayTarget.hostValues).Nodup
    decide

/-- What the call publishes for a listener with a host. -/
theorem oneCluster_endpoints (listenerName : String) (hhost : host ≠ "") :
    let es := Call.oneCluster.endpoints env gateway listenerName host []
    (∀ e ∈ es, Route53.Publishable e) ∧ (es.map Route53.endpointKey).Nodup ∧
      ∃ e ∈ es, Route53.endpointKey e
        = ⟨lbName env ⟨gateway, [], none⟩ host, .CNAME, some "default"⟩ := by
  intro es
  have hN := nameable_oneCluster env gateway host
  have hmade : ∀ e ∈ es, MadeFor env gateway host e :=
    Call.madeFor_endpoints hN fun e he => absurd he List.not_mem_nil
  have hfull : es = fullEndpoints env .inserted (Call.oneCluster.target gateway) host [] :=
    setEndpoints_no_probes _ _ _ _ _ _
  refine ⟨fun e he => (hmade e he).publishable hhost, ?_, ?_⟩
  · have hids := @Admissible.nodup_setID_fullEndpoints env _ host hN.admissible hN.clustersOnce []
      (fun e he => absurd he List.not_mem_nil) .inserted
    rw [← hfull] at hids
    refine List.Nodup.map_on (fun e he e' he' hkey => ?_) (List.Nodup.of_map _ hids)
    exact List.inj_on_of_nodup_map hids he he' (Route53.setID_eq_of_endpointKey_eq hkey)
  · have haddressed : addressed (Call.oneCluster.target gateway) ≠ [] := by
      intro hnil
      have hmem : soleCluster ∈ addressed (Call.oneCluster.target gateway) :=
        mem_addressed.2 ⟨List.mem_singleton.2 rfl, by decide⟩
      rw [hnil] at hmem
      cases hmem
    obtain ⟨code, hcode⟩ := Option.ne_none_iff_exists'.1 (defaultGroup_eq_none.not.2 haddressed)
    have hcreated : Node.default code
        ∈ createdNodes env .inserted (Call.oneCluster.target gateway) host :=
      mem_createdNodes.2 ⟨code, hcode, Or.inl rfl⟩
    have hbuilt := @builtEndpoint_of_leftBehind env _ host [] hN.admissible hN.clustersOnce
      (fun e he => absurd he List.not_mem_nil) .inserted _ hcreated
    refine ⟨_, hfull ▸ (mem_fullEndpoints unambiguous_nil).2 ⟨_, hcreated, rfl⟩, ?_⟩
    rw [hbuilt, Route53.endpointKey_eq, setWildcard_dnsName, setWildcard_recordType,
      setWildcard_setIdentifier, Node.fresh_dnsName, Node.fresh_recordType,
      Node.fresh_setIdentifier]
    rfl

/-- Endpoints with different keys are published as they are, over whatever the zone has. -/
theorem exists_ensure {es : List Endpoint} (hnil : es ≠ [])
    (hpublishable : ∀ e ∈ es, Route53.Publishable e) (hkeys : (es.map Route53.endpointKey).Nodup)
    (zone : Route53.Zone) :
    ∃ zone', Route53.Exact zone' es ∧ ∀ r : DNSRecord, r.spec.endpoints = es →
      r.status.endpoints = [] → Route53.ensure none r readyZone.id zone = .ok zone' := by
  obtain ⟨zone', happly⟩ := Batch.exists_applyAll_upsert (es.map Route53.resourceRecordSet) zone
  have hensure (r : DNSRecord) (hspec : r.spec.endpoints = es) (hstatus : r.status.endpoints = []) :
      Route53.ensure none r readyZone.id zone = .ok zone' := by
    have hstale : Route53.staleEndpoints r = [] := by simp [Route53.staleEndpoints, hstatus]
    have hchanges : Route53.changes r .upsert
        = (es.map Route53.resourceRecordSet).map Batch.Change.upsert := by
      simp [Route53.changes, hstale, hspec]
    refine Route53.change_eq_ok.2 (Or.inr ⟨hspec ▸ hnil, rfl, ?_, hchanges ▸ happly⟩)
    rw [Route53.concerned, hstale, List.append_nil, hspec]
    exact hpublishable
  refine ⟨zone', ?_, hensure⟩
  let r : DNSRecord := { metadata := { name := "", ns := "" }, spec := ⟨"", es⟩ }
  have hclean : Route53.CleanEnsure r [] := ⟨fun _ => rfl, hkeys, fun e he => absurd he List.not_mem_nil⟩
  exact Route53.exact_of_ensure hclean (hensure r rfl rfl)

end

section
variable {env : Env} {gateway : Gateway} {host : String → String} {dnsPolicy : DNSPolicy}
  {mz : ManagedZoneObject} {listener other : String}

theorem permitted_of_not_edit {s : Shared Route53.Zone} {e : String × Event (Option String)}
    (h : ∀ es, e.2 ≠ .edit es) : Permitted env gateway host s e :=
  fun es hes => absurd hes (h es)

/-- A call on a new record, and its publication. -/
theorem always_publication {s : Shared Route53.Zone} {o : DNSRecord}
    (hobject : (s.records listener).object = some o) (hspec : o.spec.endpoints = []) :
    Run.Always (Shared.step Route53.provider) (Permitted env gateway host) s
      ((publication (Call.oneCluster.endpoints env gateway listener (host listener) [])).map
        (Prod.mk listener)) := by
  refine ⟨fun es hes => ?_, Run.always_of_forall ?_ _⟩
  · refine ⟨Call.oneCluster, nameable_oneCluster env gateway _, o, hobject, ?_⟩
    rw [hspec]
    exact (Event.edit.inj hes).symm
  · intro e he s
    obtain ⟨event, hevent, rfl⟩ := List.mem_map.1 he
    refine permitted_of_not_edit fun es => ?_
    simp only [cycle, List.cons_append, List.nil_append, List.mem_cons, List.not_mem_nil,
      or_false] at hevent
    rcases hevent with rfl | rfl | rfl | rfl | rfl | rfl <;> exact fun h => by cases h

/-- A new record is published, over whatever the zone has. -/
theorem foldl_publication_shared {s : Shared Route53.Zone} (hhost : host listener ≠ "")
    (hnew : s.view listener = start (buildDNSRecordForListener gateway dnsPolicy
      { name := listener, hostname := some (host listener) } mz) s.zone) :
    let es := Call.oneCluster.endpoints env gateway listener (host listener) []
    ∃ (o : DNSRecord) (zone' : Route53.Zone),
      ((publication es).map (Prod.mk listener)).foldl (Shared.step Route53.provider) s
        = s.put listener ⟨some o, zone', .idle, { created := [es], published := es }⟩ ∧
      Route53.Exact zone' es ∧ o.spec.endpoints = es ∧ o.metadata.finalizers ≠ [] ∧
      o.metadata.deletionTimestamp = false := by
  intro es
  obtain ⟨hpublishable, hkeys, e, he, -⟩ :=
    @oneCluster_endpoints env gateway (host listener) listener hhost
  obtain ⟨zone', hexact, hensure⟩ :=
    exists_ensure (List.ne_nil_of_mem he) hpublishable hkeys s.zone
  obtain ⟨o, hpublished, ho⟩ := @foldl_publication s.zone zone'
    (buildDNSRecordForListener gateway dnsPolicy
      { name := listener, hostname := some (host listener) } mz) es rfl rfl
    (List.ne_nil_of_mem he) hensure
  refine ⟨o, zone', ?_, hexact, ho⟩
  rw [Shared.foldl_step_map, hnew, hpublished]

/-- The other record is published, then the one whose deletion is requested. -/
theorem exists_run_to_deletion (hne : listener ≠ other) (hhost : host listener ≠ "")
    (hother : host other ≠ "") :
    let es := Call.oneCluster.endpoints env gateway listener (host listener) []
    let es' := Call.oneCluster.endpoints env gateway other (host other) []
    let s₀ := newRecords gateway host dnsPolicy mz .empty
    ∃ run : List (String × Event (Option String)),
      Run.Always (Shared.step Route53.provider) (Permitted env gateway host) s₀ run ∧
      let s := run.foldl (Shared.step Route53.provider) s₀
      ∃ p : DNSRecord, (s.records listener).pending = .read p ∧
        p.metadata.deletionTimestamp = true ∧ p.spec.endpoints = es ∧
        (s.records other).history.published = es' ∧ Route53.Exact s.zone es := by
  intro es es' s₀
  let run (l : String) := (publication (Call.oneCluster.endpoints env gateway l (host l) [])).map
    (Prod.mk l)
  let deletion : List (String × Event (Option String)) :=
    [Event.requestDelete, .read].map (Prod.mk listener)
  obtain ⟨o', zone₁, hrun', -⟩ := @foldl_publication_shared env gateway host dnsPolicy mz other s₀
    hother rfl
  let s₁ := (run other).foldl (Shared.step Route53.provider) s₀
  have hs₁ : s₁ = s₀.put other ⟨some o', zone₁, .idle, { created := [es'], published := es' }⟩ :=
    hrun'
  have hrecords : s₁.records listener = s₀.records listener := by
    rw [hs₁]
    exact Shared.records_put_of_ne s₀ hne _
  obtain ⟨o, zone₂, hrun, hexact, hspec, hfinalizers, hdel⟩ :=
    @foldl_publication_shared env gateway host dnsPolicy mz listener s₁ hhost (by
      rw [Shared.view, hrecords]
      rfl)
  obtain ⟨p, hrequested, hpspec, hpdel⟩ := @foldl_requestDelete zone₂ o
    { created := [es], published := es } hdel hfinalizers
  have hreached : (run other ++ run listener ++ deletion).foldl (Shared.step Route53.provider) s₀
      = s₁.put listener ⟨some p, zone₂, .read p, { created := [es], published := es }⟩ := by
    rw [List.foldl_append, List.foldl_append]
    show deletion.foldl _ ((run listener).foldl _ s₁) = _
    rw [hrun, Shared.foldl_step_map, Shared.view_put_self, hrequested, Shared.put_put]
  refine ⟨run other ++ run listener ++ deletion, ?_, p, ?_, hpdel, ?_, ?_, ?_⟩
  · refine Run.always_append_iff.2 ⟨Run.always_append_iff.2 ⟨?_, ?_⟩, Run.always_of_forall ?_ _⟩
    · exact always_publication rfl rfl
    · exact always_publication (congrArg Local.object hrecords) rfl
    · intro x hx s
      obtain ⟨event, hevent, rfl⟩ := List.mem_map.1 hx
      refine permitted_of_not_edit fun es => ?_
      simp only [List.mem_cons, List.not_mem_nil, or_false] at hevent
      rcases hevent with rfl | rfl <;> exact fun h => by cases h
  · rw [hreached]
    simp [Shared.put]
  · rw [hpspec, hspec]
  · rw [hreached, Shared.records_put_of_ne s₁ hne.symm, hs₁]
    simp [Shared.put]
  · rw [hreached]
    exact hexact

/-- The reconcile of the deleted record takes a record set that the other record has published. -/
theorem shared_record_set_deleted (hne : listener ≠ other) (hhost : host listener ≠ "")
    (hother : host other ≠ "") (hlb : lbHost env (host listener) = lbHost env (host other)) :
    ∃ run : List (String × Event (Option String)),
      Run.Always (Shared.step Route53.provider) (Permitted env gateway host)
        (newRecords gateway host dnsPolicy mz .empty) run ∧
      let s := run.foldl (Shared.step Route53.provider) (newRecords gateway host dnsPolicy mz .empty)
      ∃ p : DNSRecord, (s.records listener).pending = .read p ∧
        p.metadata.deletionTimestamp = true ∧
        ∃ e ∈ (s.records other).history.published, s.zone.get (Route53.endpointKey e) ≠ none ∧
          (s.step Route53.provider (listener, .work readyAnswers)).zone.get (Route53.endpointKey e)
            = none := by
  obtain ⟨-, -, e, he, hkey⟩ := @oneCluster_endpoints env gateway (host listener) listener hhost
  obtain ⟨-, -, e', he', hkey'⟩ := @oneCluster_endpoints env gateway (host other) other hother
  have hsame : Route53.endpointKey e' = Route53.endpointKey e := by
    rw [hkey, hkey', (lbName_eq_iff rfl).2 hlb]
  obtain ⟨run, halways, p, hpending, hpdel, hspec, hpublished, hexact⟩ :=
    @exists_run_to_deletion env gateway host dnsPolicy mz listener other hne hhost hother
  refine ⟨run, halways, p, hpending, hpdel, e', hpublished ▸ he', ?_, ?_⟩
  · rw [hsame, hexact.stored e he]
    exact fun h => nomatch h
  · generalize run.foldl (Shared.step Route53.provider) _ = s at hpending hexact ⊢
    rw [← hspec] at he hexact
    obtain ⟨zone', hdelete⟩ := Route53.exists_delete readyZone.id hexact
    have hzone : (s.step Route53.provider (listener, .work readyAnswers)).zone = zone' := by
      show (DnsRecord.step Route53.provider (s.view listener) (.work readyAnswers)).zone = _
      rw [Shared.view, hpending]
      exact step_work_delete hpdel hdelete _
    rw [hzone, hsame]
    rcases Route53.change_eq_ok.1 hdelete with ⟨hnil, -⟩ | ⟨-, -, -, happly⟩
    · exact absurd hnil (List.ne_nil_of_mem he)
    · exact (Route53.get_of_delete happly).1 e he

theorem not_deletionIsolated (hne : listener ≠ other) (hhost : host listener ≠ "")
    (hother : host other ≠ "") (hlb : lbHost env (host listener) = lbHost env (host other)) :
    ¬ DeletionIsolated env gateway host dnsPolicy mz listener other := by
  intro hisolated
  obtain ⟨run, halways, p, hpending, hpdel, e, he, hthere, hgone⟩ :=
    @shared_record_set_deleted env gateway host dnsPolicy mz listener other hne hhost hother hlb
  exact hthere ((hisolated .empty run halways readyAnswers p hpending hpdel e he).symm.trans hgone)

end

/-! ## The two listeners -/

/-- Deleting the DNSRecord of one listener leaves the record sets of another one, and calls for the
    two never make endpoints for one record set, exactly if the hosts differ once the wildcard is
    dropped and they are lower-cased. -/
theorem listeners_isolated_iff (env : Env) (gateway : Gateway) (dnsPolicy : DNSPolicy)
    (mz : ManagedZoneObject) (host : String → String) (listener other : String)
    (hne : listener ≠ other) (hhost : host listener ≠ "") (hother : host other ≠ "") :
    (DeletionIsolated env gateway host dnsPolicy mz listener other ↔
      lbHost env (host listener) ≠ lbHost env (host other)) ∧
    (KeysDisjoint env gateway host listener other ↔
      lbHost env (host listener) ≠ lbHost env (host other)) := by
  refine ⟨⟨fun h hlb => ?_, deletionIsolated_of_lbHost_ne⟩, fun h hlb => ?_, fun h => ?_⟩
  · exact not_deletionIsolated hne hhost hother hlb h
  · obtain ⟨-, -, e, he, hkey⟩ := @oneCluster_endpoints env gateway (host listener) listener hhost
    obtain ⟨-, -, e', he', hkey'⟩ := @oneCluster_endpoints env gateway (host other) other hother
    refine h [Call.oneCluster] [Call.oneCluster] ?_ ?_ e he e' he' ?_
    · exact List.forall_mem_singleton.2 (nameable_oneCluster env gateway _)
    · exact List.forall_mem_singleton.2 (nameable_oneCluster env gateway _)
    · rw [hkey, hkey', (lbName_eq_iff rfl).2 hlb]
  · intro calls calls' hcalls hcalls' e he e' he'
    exact (Call.madeFor_endpointsAfter hcalls e he).endpointKey_ne
      (Call.madeFor_endpointsAfter hcalls' e' he') h

/-- The hosts of three listeners. -/
def exampleHosts (listener : String) : String :=
  if listener = "wildcard" then "*.example.com"
  else if listener = "api" then "api.example.com" else "example.com"

/-- A host and its parent. -/
theorem listeners_isolated_iff_api :
    DeletionIsolated .sample { name := "testgw", ns := "testns" } exampleHosts probingPolicy
        (zoneIn "testns") "api" "example" ∧
      KeysDisjoint .sample { name := "testgw", ns := "testns" } exampleHosts "api" "example" := by
  have h := listeners_isolated_iff .sample { name := "testgw", ns := "testns" } probingPolicy
    (zoneIn "testns") exampleHosts "api" "example" (by decide) (by decide) (by decide)
  exact ⟨h.1.2 (by decide), h.2.2 (by decide)⟩

/-- A Gateway from which the listener for the wildcard has been removed. -/
def parentGateway : Gateway where
  name := "testgw"
  ns := "testns"
  listeners := [{ name := "example", hostname := some "example.com" }]

/-- The records of the wildcard and of its parent. -/
def wildcardHub : DnsHub where
  records := (["wildcard", "example"].map (fun listener => buildDNSRecordForListener parentGateway
    probingPolicy { name := listener, hostname := some (exampleHosts listener) }
      (zoneIn "testns"))).foldl Objects.put ∅
  zones := Objects.put ∅ (zoneIn "testns")
  probes := ∅

/-- With the listener for a wildcard its record is deleted, not that of the parent, but the record
    sets of the parent go with it. -/
theorem parent_lost_with_wildcard :
    let hub := (removeDNSForDeletedListeners parentGateway ⟨wildcardHub, []⟩).2.state
    hub.records.live (dnsRecordKey parentGateway "wildcard") = none ∧
    (hub.records.live (dnsRecordKey parentGateway "example")).isSome = true ∧
    ∃ run : List (String × Event (Option String)),
      let s₀ := newRecords parentGateway exampleHosts probingPolicy (zoneIn "testns") .empty
      Run.Always (Shared.step Route53.provider) (Permitted .sample parentGateway exampleHosts) s₀
        run ∧
      let s := run.foldl (Shared.step Route53.provider) s₀
      ∃ p : DNSRecord, (s.records "wildcard").pending = .read p ∧
        p.metadata.deletionTimestamp = true ∧
        ∃ e ∈ (s.records "example").history.published,
          s.zone.get (Route53.endpointKey e) ≠ none ∧
          (s.step Route53.provider ("wildcard", .work readyAnswers)).zone.get
            (Route53.endpointKey e) = none := by
  refine ⟨by decide, by decide, ?_⟩
  exact shared_record_set_deleted (by decide) (by decide) (by decide) (by decide)

end MultiClusterGateway
