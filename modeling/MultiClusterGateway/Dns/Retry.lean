import MultiClusterGateway.Dns.Route53
import MultiClusterGateway.Dns.Google

set_option autoImplicit false

/-! # Publishing the same record again

After a lost status write, or a crash, the reconciler publishes a record again whose status does not
yet say what was published. `retry_iff` says when the second call succeeds and changes nothing: on
Route 53 when nothing of the status is stale, as the deletion of what the first call has deleted is
refused; on Cloud DNS when the status has every name of the spec, as only then the record sets of
the first call are deleted before they are added again. -/

namespace MultiClusterGateway

/-! ## Cloud DNS -/

namespace Google

/-- The names under which the endpoints are published. -/
def Published (es : List Endpoint) (name : String) : Prop :=
  ∃ e ∈ es, ensureTrailingDot e.dnsName = name

/-- The status has every name of the spec, different names of the spec stay different, and the zone
    has at most one record set under each name of the status. -/
structure Retryable (record : DNSRecord) (zone : Zone) : Prop where
  status_names : ∀ e ∈ record.spec.endpoints,
    Published record.status.endpoints (ensureTrailingDot e.dnsName)
  names_inj : ∀ e ∈ record.spec.endpoints, ∀ e' ∈ record.spec.endpoints,
    ensureTrailingDot e.dnsName = ensureTrailingDot e'.dnsName → e.dnsName = e'.dnsName
  unique : ∀ x ∈ zone.entries, ∀ y ∈ zone.entries,
    Published record.status.endpoints x.name → x.name = y.name → x = y

section
variable {parseFloat : ParseFloat} {orders : Orders} {record : DNSRecord} {zone zone₁ : Zone}

theorem ensure_done_iff {orders : Orders} {zone : Zone} (P : Zone → Prop)
    (hP : ∀ z z', z.Same z' → P z → P z') :
    (∃ zone₁, ensure parseFloat orders {} record zone = .done zone₁ ∧ P zone₁) ↔
      ∃ statusRecords adding,
        toResourceRecordSets parseFloat orders.statusNames record.status.endpoints
          = .ok statusRecords ∧
        toResourceRecordSets parseFloat orders.specNames record.spec.endpoints = .ok adding ∧
        ∃ z, Batch.applyAll (Batch.replacing (deletingRecords orders statusRecords zone) adding) zone
          = some z ∧ P z := by
  unfold ensure updateRecord
  simp only
  cases hstatus : toResourceRecordSets parseFloat orders.statusNames record.status.endpoints with
  | error reason => simp
  | ok statusRecords =>
      cases hspec : toResourceRecordSets parseFloat orders.specNames record.spec.endpoints with
      | error reason => simp
      | ok adding =>
          have hsubmit := @submitChange_done ⟨adding, deletingRecords orders statusRecords zone⟩
            (size_forName_le (Or.inr hspec)) zone
          constructor
          · rintro ⟨zone₁, h, hz⟩
            obtain ⟨z, hz', hsame⟩ := hsubmit.1 zone₁ h
            exact ⟨statusRecords, adding, rfl, rfl, z, hz', hP _ _ (fun k => (hsame k).symm) hz⟩
          · rintro ⟨statusRecords', adding', h₁, h₂, z, h, hz⟩
            cases h₁
            cases h₂
            obtain ⟨zone₁, hdone, hsame⟩ := hsubmit.2 z h
            exact ⟨zone₁, hdone, hP _ _ (fun k => (hsame k).symm) hz⟩

/-- Some listing has a given record set of the zone last. -/
theorem exists_listing_last {x : ResourceRecordSet} {zone : Zone} (hx : x ∈ zone.entries) :
    ∃ order : MapOrder, currentRecord (order.visit zone.entries) x.name = some x := by
  obtain ⟨front, back, hsplit⟩ := List.append_of_mem hx
  refine ⟨.rotated (front ++ [x]).length, ?_⟩
  have hvisit : (MapOrder.rotated (front ++ [x]).length).visit zone.entries
      = back ++ (front ++ [x]) := by
    show zone.entries.rotate (front ++ [x]).length = _
    rw [hsplit, List.append_cons, List.rotate_append_length_eq]
  have hself : [x].filter (fun r => r.name == x.name) = [x] := by simp
  unfold currentRecord
  rw [hvisit, List.filter_append, List.filter_append, hself]
  simp

/-- The first call: the record sets it computed, and the zone before and after. -/
structure FirstCall (parseFloat : ParseFloat) (orders : Orders) (record : DNSRecord)
    (zone zone₁ : Zone) (statusRecords adding : List ResourceRecordSet) : Prop where
  status : toResourceRecordSets parseFloat orders.statusNames record.status.endpoints
    = .ok statusRecords
  spec : toResourceRecordSets parseFloat orders.specNames record.spec.endpoints = .ok adding
  applied : ∃ z, Batch.applyAll
    (Batch.replacing (deletingRecords orders statusRecords zone) adding) zone = some z ∧ z.Same zone₁

theorem exists_firstCall (h : ensure parseFloat orders {} record zone = .done zone₁) :
    ∃ statusRecords adding,
      FirstCall parseFloat orders record zone zone₁ statusRecords adding := by
  obtain ⟨statusRecords, adding, hstatus, hspec, happlied⟩ :=
    (ensure_done_iff (fun z => z.Same zone₁) (fun z z' hzz' hz k => (hzz' k).symm.trans (hz k))).1
      ⟨zone₁, h, fun _ => rfl⟩
  exact ⟨statusRecords, adding, hstatus, hspec, happlied⟩

namespace FirstCall

variable {statusRecords adding : List ResourceRecordSet}
  (h : FirstCall parseFloat orders record zone zone₁ statusRecords adding)
include h

theorem nodup_adding : (adding.map ResourceRecordSet.key).Nodup := by
  obtain ⟨z, hz, -⟩ := h.applied
  exact Batch.nodup_of_replacing hz

theorem get_adding {r : ResourceRecordSet} (hr : r ∈ adding) : zone₁.get r.key = some r := by
  obtain ⟨z, hz, hsame⟩ := h.applied
  rw [← hsame]
  exact (Batch.get_replacing hz).1 r hr

/-- What is in the zone was added, or was there before and is neither deleted nor added. -/
theorem mem_entries_iff {x : ResourceRecordSet} :
    x ∈ zone₁.entries ↔ x ∈ adding ∨
      (x ∈ zone.entries ∧ x.key ∉ adding.map ResourceRecordSet.key ∧
        x ∉ deletingRecords orders statusRecords zone) :=
  mem_entries_of_replacing h.applied

theorem published_iff {name : String} :
    Published record.status.endpoints name ↔ ∃ r ∈ statusRecords, r.name = name :=
  (exists_name_iff h.status).symm

/-- When the second call succeeds and leaves the zone as it is. -/
theorem again_iff (orders' : Orders) {statusRecords' : List ResourceRecordSet}
    (hstatus : toResourceRecordSets parseFloat orders'.statusNames record.status.endpoints
      = .ok statusRecords') :
    (∃ zone₂, ensure parseFloat orders' {} record zone₁ = .done zone₂ ∧ zone₂.Same zone₁) ↔
      (∀ r ∈ adding, r ∈ deletingRecords orders' statusRecords' zone₁) ∧
        ∀ d ∈ deletingRecords orders' statusRecords' zone₁, d ∈ adding := by
  obtain ⟨adding', hspec, hperm⟩ := toResourceRecordSets_perm h.spec orders'.specNames
  have hkey : ∀ r ∈ adding, ∀ d ∈ deletingRecords orders' statusRecords' zone₁,
      r.key = d.key → r = d := fun r hr d hd hrd => by
    have hget := get_of_mem_deletingRecords hd
    rw [← hrd, h.get_adding hr] at hget
    exact Option.some.inj hget
  have hpresent := @Batch.replacing_present_iff _ _ _ _ _
    (deletingRecords orders' statusRecords' zone₁) adding' zone₁
    (fun r hr => h.get_adding (hperm.mem_iff.1 hr))
    ((hperm.map _).nodup_iff.2 h.nodup_adding)
    (fun d hd => get_of_mem_deletingRecords hd) nodup_map_key_deletingRecords
  have hdone := @ensure_done_iff parseFloat record orders' zone₁ (fun z => z.Same zone₁)
    (fun z z' hzz' hz k => (hzz' k).symm.trans (hz k))
  rw [hdone]
  constructor
  · rintro ⟨statusRecords'', adding'', h₁, h₂, hz⟩
    rw [hstatus] at h₁
    rw [hspec] at h₂
    cases h₁
    cases h₂
    obtain ⟨hall, hback⟩ := hpresent.1 hz
    refine ⟨fun r hr => ?_, fun d hd => ?_⟩
    · obtain ⟨d, hd, hdk⟩ := List.mem_map.1 (hall r (hperm.mem_iff.2 hr))
      rw [hkey r hr d hd hdk.symm]
      exact hd
    · obtain ⟨r, hr, hrk⟩ := List.mem_map.1 (hback d hd)
      rw [← hkey r (hperm.mem_iff.1 hr) d hd hrk]
      exact hperm.mem_iff.1 hr
  · rintro ⟨hall, hback⟩
    refine ⟨statusRecords', adding', hstatus, hspec, hpresent.2 ⟨fun r hr => ?_, fun d hd => ?_⟩⟩
    · exact List.mem_map.2 ⟨r, hall r (hperm.mem_iff.1 hr), rfl⟩
    · exact List.mem_map.2 ⟨d, hperm.mem_iff.2 (hback d hd), rfl⟩

/-- Under the names of the status, the zone then has only what was added. -/
theorem mem_adding_of_published (hR : Retryable record zone) {x : ResourceRecordSet}
    (hx : x ∈ zone₁.entries) (hname : Published record.status.endpoints x.name) : x ∈ adding := by
  rcases h.mem_entries_iff.1 hx with hadd | ⟨hzone, -, hnot⟩
  · exact hadd
  · obtain ⟨d, hd, hdname⟩ := @exists_mem_deletingRecords orders statusRecords zone x hzone
      (h.published_iff.1 hname)
    have hdzone : d ∈ zone.entries :=
      Batch.Store.mem_entries.2 (get_of_mem_deletingRecords hd)
    rw [← hR.unique x hzone d hdzone hname hdname.symm] at hd
    exact absurd hd hnot

theorem again_of_retryable (hR : Retryable record zone) (orders' : Orders) :
    ∃ zone₂, ensure parseFloat orders' {} record zone₁ = .done zone₂ ∧ zone₂.Same zone₁ := by
  obtain ⟨statusRecords', hstatus, -⟩ := toResourceRecordSets_perm h.status orders'.statusNames
  have hpub : ∀ name, Published record.status.endpoints name ↔ ∃ r ∈ statusRecords', r.name = name :=
    fun name => (exists_name_iff hstatus).symm
  refine (h.again_iff orders' hstatus).2 ⟨fun r hr => ?_, fun d hd => ?_⟩
  · have hrzone : r ∈ zone₁.entries := Batch.Store.mem_entries.2 (h.get_adding hr)
    obtain ⟨e, he, hename⟩ := (exists_name_iff h.spec).1 ⟨r, hr, rfl⟩
    have hrname : Published record.status.endpoints r.name := hename ▸ hR.status_names e he
    obtain ⟨d, hd, hdname⟩ := @exists_mem_deletingRecords orders' statusRecords' zone₁ r hrzone
      ((hpub _).1 hrname)
    have hdadd := h.mem_adding_of_published hR
      (Batch.Store.mem_entries.2 (get_of_mem_deletingRecords hd)) (hdname ▸ hrname)
    -- the spec has one record set under the name
    rw [List.inj_on_of_nodup_map (nodup_map_name h.spec hR.names_inj) hr hdadd hdname.symm]
    exact hd
  · obtain ⟨hname, -⟩ := mem_deletingRecords.1 hd
    exact h.mem_adding_of_published hR
      (Batch.Store.mem_entries.2 (get_of_mem_deletingRecords hd)) ((hpub _).2 hname)

theorem retryable_of_again
    (hagain : ∀ orders', ∃ zone₂, ensure parseFloat orders' {} record zone₁ = .done zone₂ ∧
      zone₂.Same zone₁) : Retryable record zone := by
  have hspec := (h.again_iff orders h.status).1 (hagain orders)
  refine ⟨fun e he => ?_, fun e he e' he' heq => ?_, fun x hx y hy hname hxy => ?_⟩
  · obtain ⟨r, hr, hrname⟩ := (exists_name_iff h.spec).2 ⟨e, he, rfl⟩
    rw [← hrname, h.published_iff]
    exact (mem_deletingRecords.1 (hspec.1 r hr)).1
  · -- both record sets would have to be the one that is deleted under the name
    have hnodup : (adding.map (·.name)).Nodup := by
      have hkeys : adding.Nodup := List.Nodup.of_map _ h.nodup_adding
      refine hkeys.map_on fun r hr r' hr' hname => ?_
      exact eq_of_mem_deletingRecords (hspec.1 r hr) (hspec.1 r' hr') hname
    rw [map_name_toResourceRecordSets h.spec] at hnodup
    refine List.inj_on_of_nodup_map hnodup ?_ ?_ heq
    · rw [orders.specNames.mem_visit, dnsNames, List.mem_dedup]
      exact List.mem_map.2 ⟨e, he, rfl⟩
    · rw [orders.specNames.mem_visit, dnsNames, List.mem_dedup]
      exact List.mem_map.2 ⟨e', he', rfl⟩
  · -- a second record set under the name outlives the first call, and is deleted by the second
    -- if the zone lists it last
    have hleft : ∀ w ∈ zone.entries, Published record.status.endpoints w.name →
        w ∈ deletingRecords orders statusRecords zone := by
      intro w hw hwname
      by_contra hnot
      have hnew : w.key ∉ adding.map ResourceRecordSet.key := by
        intro hmem
        obtain ⟨z, hz, -⟩ := h.applied
        obtain ⟨r, hr, hrk⟩ := List.mem_map.1 hmem
        obtain ⟨-, hfree⟩ := (Batch.exists_replacing_iff
          (fun d hd => get_of_mem_deletingRecords hd) nodup_map_key_deletingRecords).1 ⟨z, hz⟩
        rcases hfree r hr with hnone | hdel
        · rw [hrk, Batch.Store.mem_entries.1 hw] at hnone
          cases hnone
        · obtain ⟨d, hd, hdk⟩ := List.mem_map.1 hdel
          have hget := get_of_mem_deletingRecords hd
          rw [hdk, hrk, Batch.Store.mem_entries.1 hw] at hget
          exact hnot (Option.some.inj hget ▸ hd)
      have hw₁ : w ∈ zone₁.entries := h.mem_entries_iff.2 (Or.inr ⟨hw, hnew, hnot⟩)
      obtain ⟨order, hlast⟩ := exists_listing_last hw₁
      have hdel : w ∈ deletingRecords { orders with listing := order } statusRecords zone₁ :=
        mem_deletingRecords.2 ⟨h.published_iff.1 hwname, hlast⟩
      have hadd := ((h.again_iff { orders with listing := order } h.status).1 (hagain _)).2 w hdel
      exact hnew (List.mem_map.2 ⟨w, hadd, rfl⟩)
    exact eq_of_mem_deletingRecords (hleft x hx hname) (hleft y hy (hxy ▸ hname)) hxy

end FirstCall

end

end Google

/-! ## Both providers -/

/-- Publishing once more succeeds and changes nothing: on Route 53 exactly when the spec is empty or
    has the id of every endpoint of the status, on Cloud DNS, whatever is left to the language and
    the service, exactly for a `Retryable` record. -/
theorem retry_iff (record : DNSRecord) :
    (∀ (zoneID : String) (zone zone₁ : Route53.Zone),
      Route53.ensure none record zoneID zone = .ok zone₁ →
      ((∃ zone₂, Route53.ensure none record zoneID zone₁ = .ok zone₂ ∧ zone₂.Same zone₁) ↔
        record.spec.endpoints = [] ∨
        ∀ e ∈ record.status.endpoints, ∃ e' ∈ record.spec.endpoints, e'.setID = e.setID)) ∧
    (∀ (parseFloat : Google.ParseFloat) (orders : Google.Orders) (zone zone₁ : Google.Zone),
      Google.ensure parseFloat orders {} record zone = .done zone₁ →
      ((∀ orders', ∃ zone₂, Google.ensure parseFloat orders' {} record zone₁ = .done zone₂ ∧
          zone₂.Same zone₁) ↔
        Google.Retryable record zone)) := by
  constructor
  · intro zoneID zone zone₁ h
    have hstale : (∀ e ∈ record.status.endpoints, ∃ e' ∈ record.spec.endpoints, e'.setID = e.setID)
        ↔ Route53.staleEndpoints record = [] := by
      rw [List.eq_nil_iff_forall_not_mem]
      refine forall_congr' fun e => ?_
      rw [Route53.mem_staleEndpoints]
      push Not
      exact Iff.rfl
    rw [hstale]
    rcases Route53.change_eq_ok.1 h with ⟨hnil, rfl⟩ | ⟨hne, -, hpub, happly⟩
    · exact ⟨fun _ => Or.inl hnil, fun _ => ⟨zone₁, h, fun _ => rfl⟩⟩
    · constructor
      · rintro ⟨zone₂, h₂, -⟩
        rcases Route53.change_eq_ok.1 h₂ with ⟨hnil, -⟩ | ⟨-, -, -, happly₂⟩
        · exact Or.inl hnil
        · right
          by_contra hstale
          rw [Route53.ensure_again_of_stale_ne_nil hstale happly] at happly₂
          cases happly₂
      · rintro (hnil | hstale)
        · exact absurd hnil hne
        · obtain ⟨zone₂, happly₂, hsame⟩ := Route53.ensure_again_of_stale_eq_nil hstale happly
          exact ⟨zone₂, Route53.change_eq_ok.2 (Or.inr ⟨hne, rfl, hpub, happly₂⟩), hsame⟩
  · intro parseFloat orders zone zone₁ h
    obtain ⟨statusRecords, adding, hfirst⟩ := Google.exists_firstCall h
    exact ⟨hfirst.retryable_of_again, fun hR => hfirst.again_of_retryable hR⟩

/-- The A record of an address. -/
def addressEndpoint (dnsName address : String) : Endpoint where
  dnsName := dnsName
  targets := [address]
  recordType := .A
  setIdentifier := ""
  recordTTL := defaultTTL
  providerSpecific := []

/-- A record with these endpoints, of which some were published. -/
def recordOf (spec published : List Endpoint) : DNSRecord where
  metadata := { name := "testgw-api", ns := "testns", generation := 1 }
  spec := { managedZoneRef := "mz", endpoints := spec }
  status := { endpoints := published }

/-- The orders of insertion. -/
def Google.Orders.inserted : Google.Orders := ⟨.inserted, .inserted, .inserted, .inserted⟩

/-- Publishing the same endpoints again is safe on both. -/
theorem retry_addressEndpoint :
    (∃ zone₁, Route53.ensure none (recordOf [addressEndpoint "a.example.com" "1.1.1.1"]
        [addressEndpoint "a.example.com" "1.1.1.1"]) "Z1" .empty = .ok zone₁ ∧
      ∃ zone₂, Route53.ensure none (recordOf [addressEndpoint "a.example.com" "1.1.1.1"]
        [addressEndpoint "a.example.com" "1.1.1.1"]) "Z1" zone₁ = .ok zone₂ ∧ zone₂.Same zone₁) ∧
    ∃ zone₁, Google.ensure (fun _ => none) .inserted {}
        (recordOf [addressEndpoint "a.example.com" "1.1.1.1"]
          [addressEndpoint "a.example.com" "1.1.1.1"]) .empty = .done zone₁ ∧
      ∀ orders', ∃ zone₂, Google.ensure (fun _ => none) orders' {}
        (recordOf [addressEndpoint "a.example.com" "1.1.1.1"]
          [addressEndpoint "a.example.com" "1.1.1.1"]) zone₁ = .done zone₂ ∧ zone₂.Same zone₁ := by
  constructor
  · refine ⟨_, rfl, ((retry_iff _).1 _ .empty _ rfl).2 (Or.inr fun e he => ⟨e, he, rfl⟩)⟩
  · refine ⟨_, rfl, ((retry_iff _).2 _ .inserted .empty _ rfl).2
      ⟨fun e he => ⟨e, he, rfl⟩, ?_, ?_⟩⟩
    · intro e he e' he' _
      rw [List.mem_singleton.1 he, List.mem_singleton.1 he']
    · intro x hx
      cases hx

/-- Route 53 refuses to delete the stale endpoint twice, Cloud DNS to add the record set of a new
    name twice. -/
theorem not_retry_addressEndpoint :
    (∃ zone zone₁, Route53.ensure none (recordOf [addressEndpoint "b.example.com" "2.2.2.2"]
        [addressEndpoint "a.example.com" "1.1.1.1"]) "Z1" zone = .ok zone₁ ∧
      ¬ ∃ zone₂, Route53.ensure none (recordOf [addressEndpoint "b.example.com" "2.2.2.2"]
        [addressEndpoint "a.example.com" "1.1.1.1"]) "Z1" zone₁ = .ok zone₂ ∧ zone₂.Same zone₁) ∧
    ∃ zone₁, Google.ensure (fun _ => none) .inserted {}
        (recordOf [addressEndpoint "a.example.com" "1.1.1.1"] []) .empty = .done zone₁ ∧
      ¬ ∃ zone₂, Google.ensure (fun _ => none) .inserted {}
        (recordOf [addressEndpoint "a.example.com" "1.1.1.1"] []) zone₁ = .done zone₂ ∧
          zone₂.Same zone₁ := by
  constructor
  · refine ⟨Batch.Store.empty.put (Route53.resourceRecordSet
      (addressEndpoint "a.example.com" "1.1.1.1")), _, rfl, ?_⟩
    rintro ⟨zone₂, h₂, -⟩
    cases h₂
  · refine ⟨_, rfl, ?_⟩
    rintro ⟨zone₂, h₂, -⟩
    cases h₂

end MultiClusterGateway
