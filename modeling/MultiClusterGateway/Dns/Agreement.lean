import MultiClusterGateway.Dns.Retry
import MultiClusterGateway.DnsPolicy.BuiltEndpoints
import MultiClusterGateway.DnsPolicy.Pruning

set_option autoImplicit false

/-! # Whether the two providers leave the same names

From a zone with the record sets of a record's status, both providers publish the names of the spec.
Cloud DNS deletes everything else, as the names that `setEndpoints` writes stay different with the
trailing dot. Route 53 does not touch the zone if the spec is empty, and does not delete an endpoint
of the status that shares its set id with an endpoint of the spec.

The endpoints are those that some call of `setEndpoints` leaves in a record (`Written`), and both
zones start with what was published for the status. For Cloud DNS one has to know that names which
differ still differ with the trailing dot. For Route 53 the endpoints that are skipped are the
reason for every difference, and `providers_agree_iff` says so in both directions; the Gateway that
has lost all its addresses is one that occurs (`providers_disagree`). -/

namespace MultiClusterGateway

/-! ## Names that differ by more than a trailing dot -/

namespace Google

/-- The number of `b`s does not depend on the trailing dot. -/
theorem countB_ensureTrailingDot (fold : Text.CaseFold) (s : String) :
    countB fold (ensureTrailingDot s) = countB fold s := by
  have hdot : countB fold "." = 0 := by
    have hlower : fold.lower '.' = '.' := fold.lower_ascii '.' (by decide)
    simp [countB, hlower]
  rcases eq_of_ensureTrailingDot (s := s) rfl with h | h
  · rw [← h]
  · rw [← h, countB_append, hdot, Nat.add_zero]

theorem eq_or_append_dot_of_ensureTrailingDot {s s' : String}
    (h : ensureTrailingDot s = ensureTrailingDot s') : s = s' ∨ s ++ "." = s' ∨ s' ++ "." = s := by
  rcases eq_of_ensureTrailingDot (s := s) rfl with hs | hs
  · rcases eq_of_ensureTrailingDot (s := s') rfl with hs' | hs'
    · exact Or.inl (hs.trans (h.trans hs'.symm))
    · exact Or.inr (Or.inr (hs'.trans (h.symm.trans hs.symm)))
  · rcases eq_of_ensureTrailingDot (s := s') rfl with hs' | hs'
    · exact Or.inr (Or.inl (hs.trans (h.trans hs'.symm)))
    · exact Or.inl ((String.append_left_inj _).1 (hs.trans (h.trans hs'.symm)))

end Google

section
variable {env : Env} {t : MultiClusterGatewayTarget} {host : String}

/-- A name is the lb name or it is a label in front of it. -/
def LbLike (lb name : String) : Prop := name = lb ∨ ∃ label, name = label ++ "." ++ lb

theorem dnsName_cases (n : Node) :
    n.dnsName env t host = host ∨ LbLike (lbName env t host) (n.dnsName env t host) := by
  cases n with
  | address c => exact Or.inr (Or.inr ⟨_, clusterLbName_eq t host c⟩)
  | weighted c hostValue => exact Or.inr (Or.inr ⟨_, geoLbName_eq t host c.geo⟩)
  | geo code => exact Or.inr (Or.inl rfl)
  | default code => exact Or.inr (Or.inl rfl)
  | host => exact Or.inl rfl

theorem countB_lt_of_lbLike {name : String} (h : LbLike (lbName env t host) name) :
    countB env.fold host < countB env.fold name := by
  have hlt := @countB_lt_countB_lbName env t host
  rcases h with rfl | ⟨label, rfl⟩
  · exact hlt
  · rw [countB_append]
    omega

/-- A dot after the lb name is not a dot in front of it. -/
theorem lbName_append_dot_ne : lbName env t host ++ "." ≠ "." ++ lbName env t host := by
  intro h
  rw [lbName_eq] at h
  have := congrArg String.toList h
  simp at this

theorem append_dot_ne_of_lbLike {name name' : String} (h : LbLike (lbName env t host) name)
    (h' : LbLike (lbName env t host) name') : name ++ "." ≠ name' := by
  intro heq
  -- both names end in the lb name, one of them with a dot before it and one with a dot after it
  have hsuffix : (lbName env t host ++ ".").toList <:+ name'.toList := by
    rw [← heq]
    rcases h with rfl | ⟨label, rfl⟩
    · exact List.suffix_refl _
    · exact ⟨(label ++ ".").toList, by simp⟩
  rcases h' with rfl | ⟨label, rfl⟩
  · have := hsuffix.length_le
    simp at this
  · have hsuffix' : ("." ++ lbName env t host).toList <:+ (label ++ "." ++ lbName env t host).toList :=
      ⟨label.toList, by simp⟩
    have hlen : (lbName env t host ++ ".").toList.length = ("." ++ lbName env t host).toList.length := by
      simp [Nat.add_comm]
    have := List.suffix_of_suffix_length_le hsuffix hsuffix' hlen.le
    exact lbName_append_dot_ne (String.toList_inj.1 (this.eq_of_length hlen))

/-- The names of a tree stay different with the trailing dot. -/
theorem dnsName_eq_of_ensureTrailingDot {n n' : Node}
    (h : Google.ensureTrailingDot (n.dnsName env t host)
      = Google.ensureTrailingDot (n'.dnsName env t host)) :
    n.dnsName env t host = n'.dnsName env t host := by
  have hcount := congrArg (countB env.fold) h
  rw [Google.countB_ensureTrailingDot, Google.countB_ensureTrailingDot] at hcount
  rcases @dnsName_cases env t host n with hn | hn
  · rcases @dnsName_cases env t host n' with hn' | hn'
    · rw [hn, hn']
    · have := countB_lt_of_lbLike hn'
      rw [hn] at hcount
      omega
  · rcases @dnsName_cases env t host n' with hn' | hn'
    · have := countB_lt_of_lbLike hn
      rw [hn'] at hcount
      omega
    · rcases Google.eq_or_append_dot_of_ensureTrailingDot h with heq | heq | heq
      · exact heq
      · exact absurd heq (append_dot_ne_of_lbLike hn hn')
      · exact absurd heq (append_dot_ne_of_lbLike hn' hn)

end

/-- Some call of `setEndpoints` leaves these endpoints in a record. -/
def Written (es : List Endpoint) : Prop :=
  ∃ (env : Env) (order : MapOrder) (t : MultiClusterGatewayTarget) (endpoints : List Endpoint)
    (probes : List DNSHealthCheckProbe) (listenerName host : String),
    es = setEndpoints env order t endpoints probes listenerName host

theorem Written.dnsName_inj {es : List Endpoint} (h : Written es) {e e' : Endpoint} (he : e ∈ es)
    (he' : e' ∈ es)
    (hname : Google.ensureTrailingDot e.dnsName = Google.ensureTrailingDot e'.dnsName) :
    e.dnsName = e'.dnsName := by
  obtain ⟨env, order, t, endpoints, probes, listenerName, host, rfl⟩ := h
  obtain ⟨n, -, hn⟩ := exists_node_of_mem_fullEndpoints (publishEndpoints_subset he)
  obtain ⟨n', -, hn'⟩ := exists_node_of_mem_fullEndpoints (publishEndpoints_subset he')
  rw [hn.dnsName, hn'.dnsName] at hname ⊢
  exact dnsName_eq_of_ensureTrailingDot hname

/-! ## The names of a record in a zone -/

/-- The name is one that the record publishes or has published. -/
def OwnName (record : DNSRecord) (name : String) : Prop :=
  ∃ e, (e ∈ record.spec.endpoints ∨ e ∈ record.status.endpoints) ∧ e.dnsName = name

namespace Route53

/-- The record sets of the record in the zone are those published for its status. -/
structure HoldsStatus (record : DNSRecord) (zone : Zone) : Prop where
  present : ∀ e ∈ record.status.endpoints, ∃ e' ∈ record.status.endpoints,
    endpointKey e' = endpointKey e ∧ zone.get (endpointKey e) = some (resourceRecordSet e')
  only : ∀ x ∈ zone.entries, OwnName record x.name →
    ∃ e ∈ record.status.endpoints, x = resourceRecordSet e

/-- Of the names of the record, the zone has exactly those of the spec. -/
def HasSpecNames (record : DNSRecord) (zone : Zone) : Prop :=
  ∀ name, OwnName record name →
    ((∃ x ∈ zone.entries, x.name = name) ↔ ∃ e ∈ record.spec.endpoints, e.dnsName = name)

/-- Every endpoint of the status has a name of the spec, or is deleted as stale. -/
def NoneSkipped (record : DNSRecord) : Prop :=
  ∀ e ∈ record.status.endpoints,
    (∃ e' ∈ record.spec.endpoints, e'.dnsName = e.dnsName) ∨
      (record.spec.endpoints ≠ [] ∧ ∀ e' ∈ record.spec.endpoints, e'.setID ≠ e.setID)

section
variable {record : DNSRecord} {zone zone' : Zone}

theorem name_of_get {k : RecordKey} {x : ResourceRecordSet} (h : zone.get k = some x) :
    x.name = k.name :=
  congrArg RecordKey.name (Batch.Store.key_of_get h)

/-- Under the key of an endpoint of the spec there is some record set. -/
theorem exists_get_of_ensure (h : Batch.applyAll (changes record .upsert) zone = some zone')
    {e : Endpoint} (he : e ∈ record.spec.endpoints) :
    ∃ x, zone'.get (endpointKey e) = some x := by
  have hmem : Batch.Change.upsert (resourceRecordSet e) ∈ (changes record .upsert).filter
      (fun c => c.value.key == endpointKey e) :=
    List.mem_filter.2 ⟨List.mem_append_left _ (List.mem_map.2 ⟨e, he, rfl⟩), beq_self_eq_true _⟩
  rw [Batch.get_applyAll h]
  cases hlast : ((changes record .upsert).filter (fun c => c.value.key == endpointKey e)).getLast?
  with
  | none => exact absurd (List.getLast?_eq_none_iff.1 hlast) (List.ne_nil_of_mem hmem)
  | some c =>
      obtain ⟨hc, hkey⟩ := List.mem_filter.1 (List.mem_of_getLast? hlast)
      rcases List.mem_append.1 hc with hc | hc
      · obtain ⟨e', -, rfl⟩ := List.mem_map.1 hc
        exact ⟨_, rfl⟩
      · obtain ⟨e', he', rfl⟩ := List.mem_map.1 hc
        exact absurd (eq_of_beq hkey).symm (endpointKey_ne_of_stale he' he)

theorem hasSpecNames_of_applyAll (hzone : HoldsStatus record zone)
    (hne : record.spec.endpoints ≠ [])
    (h : Batch.applyAll (changes record .upsert) zone = some zone') :
    HasSpecNames record zone' ↔ NoneSkipped record := by
  obtain ⟨-, hdeleted, hframe⟩ := get_of_ensure h
  constructor
  · intro hnames e he
    by_cases hname : ∃ e' ∈ record.spec.endpoints, e'.dnsName = e.dnsName
    · exact Or.inl hname
    · refine Or.inr ⟨hne, fun e' he' hid => hname ?_⟩
      -- the endpoint is not deleted, so that its name is still in the zone
      obtain ⟨e'', -, hkey, hget⟩ := hzone.present e he
      have hkept : zone'.get (endpointKey e) = zone.get (endpointKey e) := by
        refine hframe _ (fun s hs hkey' => hname ⟨s, hs, (endpointKey_inj.1 hkey').1⟩) fun s hs hkey' => ?_
        exact (mem_staleEndpoints.1 hs).2 e' he' (hid.trans (setID_eq_of_endpointKey_eq hkey').symm)
      rw [hget] at hkept
      have hx := (Batch.Store.get_eq_some.1 hkept).1
      exact (hnames e.dnsName ⟨e, Or.inr he, rfl⟩).1 ⟨_, hx, name_of_get hkept⟩
  · intro hskip name hown
    constructor
    · rintro ⟨x, hx, rfl⟩
      by_contra hname
      have hget := Batch.Store.mem_entries.1 hx
      have hspec : ∀ e ∈ record.spec.endpoints, endpointKey e ≠ x.key :=
        fun e he hkey => hname ⟨e, he, congrArg RecordKey.name hkey⟩
      have hstale : ∀ e ∈ staleEndpoints record, endpointKey e ≠ x.key := by
        intro e he hkey
        rw [← hkey, hdeleted e he] at hget
        cases hget
      rw [hframe x.key hspec hstale] at hget
      obtain ⟨e, he, rfl⟩ := hzone.only x (Batch.Store.get_eq_some.1 hget).1 hown
      rcases hskip e he with hin | ⟨-, hid⟩
      · exact hname hin
      · exact hstale e (mem_staleEndpoints.2 ⟨he, hid⟩) rfl
    · rintro ⟨e, he, rfl⟩
      obtain ⟨x, hx⟩ := exists_get_of_ensure h he
      exact ⟨x, (Batch.Store.get_eq_some.1 hx).1, name_of_get hx⟩

/-- What is left on Route 53. -/
theorem hasSpecNames_iff {fault : Option String} {zoneID : String}
    (hzone : HoldsStatus record zone) (h : ensure fault record zoneID zone = .ok zone') :
    HasSpecNames record zone' ↔ NoneSkipped record := by
  rcases change_eq_ok.1 h with ⟨hnil, rfl⟩ | ⟨hne, -, -, happly⟩
  · constructor
    · intro hnames e he
      obtain ⟨e', -, -, hget⟩ := hzone.present e he
      have hx := (Batch.Store.get_eq_some.1 hget).1
      have := (hnames e.dnsName ⟨e, Or.inr he, rfl⟩).1 ⟨_, hx, name_of_get hget⟩
      simp [hnil] at this
    · intro hskip name hown
      have hstatus : record.status.endpoints = [] := by
        rw [List.eq_nil_iff_forall_not_mem]
        intro e he
        rcases hskip e he with ⟨e', he', -⟩ | ⟨hne, -⟩
        · simp [hnil] at he'
        · exact hne hnil
      obtain ⟨e, he, -⟩ := hown
      simp [hnil, hstatus] at he
  · exact hasSpecNames_of_applyAll hzone hne happly

end

end Route53

namespace Google

/-- The record sets of the record in the zone are those published for its status. -/
def HoldsStatus (parseFloat : ParseFloat) (record : DNSRecord) (zone : Zone) : Prop :=
  ∃ order rs, toResourceRecordSets parseFloat order record.status.endpoints = .ok rs ∧
    (∀ r ∈ rs, zone.get r.key = some r) ∧
    ∀ x ∈ zone.entries, (∃ name, OwnName record name ∧ ensureTrailingDot name = x.name) → x ∈ rs

/-- Of the names of the record, the zone has exactly those of the spec. -/
def HasSpecNames (record : DNSRecord) (zone : Zone) : Prop :=
  ∀ name, OwnName record name →
    ((∃ x ∈ zone.entries, x.name = ensureTrailingDot name) ↔
      ∃ e ∈ record.spec.endpoints, ensureTrailingDot e.dnsName = ensureTrailingDot name)

/-- Cloud DNS leaves the names of the spec. -/
theorem hasSpecNames_of_ensure {parseFloat : ParseFloat} {orders : Orders} {faults : Faults}
    {record : DNSRecord} {zone zone' : Zone} (hstatus : Written record.status.endpoints)
    (hzone : HoldsStatus parseFloat record zone)
    (h : ensure parseFloat orders faults record zone = .done zone') : HasSpecNames record zone' := by
  obtain ⟨statusRecords, adding, hcall⟩ := exists_firstCall (ensure_of_done h)
  obtain ⟨order, rs, hrs, -, honly⟩ := hzone
  intro name hown
  constructor
  · rintro ⟨x, hx, hname⟩
    rcases hcall.mem_entries_iff.1 hx with hadd | ⟨hold, -, hnot⟩
    · obtain ⟨e, he, hdot⟩ := (exists_name_iff hcall.spec).1 ⟨x, hadd, rfl⟩
      exact ⟨e, he, hdot.trans hname⟩
    · -- what was there under the name has been deleted
      have hxrs := honly x hold ⟨name, hown, hname.symm⟩
      have hpub := (exists_name_iff hrs).1 ⟨x, hxrs, rfl⟩
      obtain ⟨d, hd, hdname⟩ := @exists_mem_deletingRecords orders statusRecords zone x hold
        ((exists_name_iff hcall.status).2 hpub)
      have hdzone := Batch.Store.mem_entries.2 (get_of_mem_deletingRecords hd)
      have hdrs := honly d hdzone ⟨name, hown, hname.symm.trans hdname.symm⟩
      have hnodup := nodup_map_name hrs fun e he e' he' => hstatus.dnsName_inj he he'
      rw [List.inj_on_of_nodup_map hnodup hdrs hxrs hdname] at hd
      exact absurd hd hnot
  · rintro ⟨e, he, hname⟩
    obtain ⟨r, hr, hrname⟩ := (exists_name_iff hcall.spec).2 ⟨e, he, rfl⟩
    exact ⟨r, hcall.mem_entries_iff.2 (Or.inl hr), hrname.trans hname⟩

end Google

/-- The two providers leave the names of the spec exactly if Route 53 skips no endpoint of the
    status. -/
theorem providers_agree_iff (parseFloat : Google.ParseFloat) (orders : Google.Orders)
    (faults : Google.Faults) (fault : Option String) (zoneID : String) (record : DNSRecord)
    (zoneR zoneR' : Route53.Zone) (zoneG zoneG' : Google.Zone)
    (hstatus : Written record.status.endpoints)
    (hzoneR : Route53.HoldsStatus record zoneR)
    (hzoneG : Google.HoldsStatus parseFloat record zoneG)
    (hR : Route53.ensure fault record zoneID zoneR = .ok zoneR')
    (hG : Google.ensure parseFloat orders faults record zoneG = .done zoneG') :
    (Route53.HasSpecNames record zoneR' ∧ Google.HasSpecNames record zoneG') ↔
      Route53.NoneSkipped record := by
  rw [Route53.hasSpecNames_iff hzoneR hR]
  exact and_iff_left (Google.hasSpecNames_of_ensure hstatus hzoneG hG)

/-! ## A gateway on one cluster -/

/-- A target with one cluster and one address. -/
def oneCluster : MultiClusterGatewayTarget where
  gateway := { name := "testgw", ns := "testns" }
  clusterGatewayTargets :=
    [{ cluster := { name := "test-cluster-1" }
       gatewayAddresses := [⟨.ipAddress, "1.1.1.1"⟩], geo := "default", weight := 120 }]
  loadBalancing := none

/-- The endpoints that are set for it. -/
def oneClusterEndpoints : List Endpoint :=
  [addressEndpoint "20qri0.lb-0ecjaw.test.example.com" "1.1.1.1",
   { dnsName := "default.lb-0ecjaw.test.example.com"
     targets := ["20qri0.lb-0ecjaw.test.example.com"]
     recordType := .CNAME
     setIdentifier := "20qri0.lb-0ecjaw.test.example.com"
     recordTTL := 60
     providerSpecific := [⟨"weight", "120"⟩] },
   { dnsName := "lb-0ecjaw.test.example.com"
     targets := ["default.lb-0ecjaw.test.example.com"]
     recordType := .CNAME
     setIdentifier := "default"
     recordTTL := 300
     providerSpecific := [⟨"geo-code", "*"⟩] },
   { dnsName := "test.example.com"
     targets := ["lb-0ecjaw.test.example.com"]
     recordType := .CNAME
     setIdentifier := ""
     recordTTL := 300
     providerSpecific := [] }]

theorem written_oneClusterEndpoints : Written oneClusterEndpoints := by
  refine ⟨.sample, .inserted, oneCluster, [], [], "test", "test.example.com", ?_⟩
  have hfull : fullEndpoints .sample .inserted oneCluster "test.example.com" []
      = oneClusterEndpoints := by
    decide
  rw [setEndpoints_no_probes, hfull]

/-- Without an address of the gateway there is nothing to write. -/
theorem written_nil : Written [] := by
  refine ⟨.sample, .inserted, { oneCluster with clusterGatewayTargets := [] }, [], [], "test",
    "test.example.com", ?_⟩
  rw [setEndpoints_no_probes]
  rfl

/-- The zone at Route 53 with these endpoints published. -/
def Route53.oneClusterZone : Route53.Zone where
  entries := oneClusterEndpoints.map Route53.resourceRecordSet
  nodup := by decide

theorem Route53.holdsStatus_oneCluster (spec : List Endpoint) :
    Route53.HoldsStatus (recordOf spec oneClusterEndpoints) Route53.oneClusterZone := by
  refine ⟨fun e he => ⟨e, he, rfl, ?_⟩, fun x hx _ => ?_⟩
  · exact Batch.Store.get_eq_some.2 ⟨List.mem_map.2 ⟨e, he, rfl⟩, rfl⟩
  · obtain ⟨e, he, rfl⟩ := List.mem_map.1 hx
    exact ⟨e, he, rfl⟩

/-- The zone at Google with these endpoints published, when no weight parses. -/
def Google.oneClusterZone : Google.Zone where
  entries :=
    [{ name := "20qri0.lb-0ecjaw.test.example.com.", ttl := 60, type := .A, rrdatas := ["1.1.1.1"] },
     { name := "default.lb-0ecjaw.test.example.com."
       ttl := 60
       type := .CNAME
       routingPolicy := some (.wrr [⟨["20qri0.lb-0ecjaw.test.example.com."], 0⟩]) },
     { name := "lb-0ecjaw.test.example.com."
       ttl := 300
       type := .CNAME
       routingPolicy := some
         (.geo [⟨"europe-west1", ["default.lb-0ecjaw.test.example.com."]⟩]) },
     { name := "test.example.com."
       ttl := 300
       type := .CNAME
       rrdatas := ["lb-0ecjaw.test.example.com."] }]
  nodup := by decide

theorem Google.holdsStatus_oneCluster (spec : List Endpoint) :
    Google.HoldsStatus (fun _ => none) (recordOf spec oneClusterEndpoints)
      Google.oneClusterZone := by
  have hsets : Google.toResourceRecordSets (fun _ => none) .inserted oneClusterEndpoints
      = .ok Google.oneClusterZone.entries := by
    decide
  exact ⟨.inserted, _, hsets, fun r hr => Batch.Store.mem_entries.1 hr, fun x hx _ => hx⟩

/-- Publishing the same endpoints again leaves the same names on both. -/
theorem providers_agree_iff_oneCluster :
    ∃ zoneR' zoneG',
      Route53.ensure none (recordOf oneClusterEndpoints oneClusterEndpoints) "Z1"
        Route53.oneClusterZone = .ok zoneR' ∧
      Google.ensure (fun _ => none) .inserted {} (recordOf oneClusterEndpoints oneClusterEndpoints)
        Google.oneClusterZone = .done zoneG' ∧
      Route53.HasSpecNames (recordOf oneClusterEndpoints oneClusterEndpoints) zoneR' ∧
      Google.HasSpecNames (recordOf oneClusterEndpoints oneClusterEndpoints) zoneG' := by
  refine ⟨_, _, rfl, rfl, ?_⟩
  exact (providers_agree_iff (fun _ => none) .inserted {} none "Z1" _ Route53.oneClusterZone _
    Google.oneClusterZone _ written_oneClusterEndpoints
    (Route53.holdsStatus_oneCluster oneClusterEndpoints) (Google.holdsStatus_oneCluster _) rfl rfl).2
    fun e he => Or.inl ⟨e, he, rfl⟩

/-- When the gateway has lost its addresses, Route 53 keeps every name and Cloud DNS none. -/
theorem providers_disagree :
    Written [] ∧ Written oneClusterEndpoints ∧
    Route53.HoldsStatus (recordOf [] oneClusterEndpoints) Route53.oneClusterZone ∧
    Google.HoldsStatus (fun _ => none) (recordOf [] oneClusterEndpoints) Google.oneClusterZone ∧
    Route53.ensure none (recordOf [] oneClusterEndpoints) "Z1" Route53.oneClusterZone
      = .ok Route53.oneClusterZone ∧
    Google.ensure (fun _ => none) .inserted {} (recordOf [] oneClusterEndpoints)
      Google.oneClusterZone = .done .empty ∧
    ¬ Route53.HasSpecNames (recordOf [] oneClusterEndpoints) Route53.oneClusterZone := by
  refine ⟨written_nil, written_oneClusterEndpoints, Route53.holdsStatus_oneCluster [],
    Google.holdsStatus_oneCluster [], rfl, by rfl, ?_⟩
  intro h
  have hlast : ∃ e ∈ oneClusterEndpoints, e.dnsName = "test.example.com" := by decide
  obtain ⟨e, he, -⟩ := hlast
  obtain ⟨e', he', -⟩ := (h e.dnsName ⟨e, Or.inr he, rfl⟩).1
    ⟨Route53.resourceRecordSet e, List.mem_map.2 ⟨e, he, rfl⟩, rfl⟩
  cases he'

end MultiClusterGateway
