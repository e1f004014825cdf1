import MultiClusterGateway.Dns.Retry
import MultiClusterGateway.DnsRecord.Invariants

set_option autoImplicit false

/-! # The two providers meet the contract

Route 53 publishes under keys of name, type and set identifier, and finds what to delete in the spec
and, for what is stale, in the status. Cloud DNS publishes under names and finds what to delete in
the status. The conditions say what a call needs of the record for this to be all that was
published.

A clean call is one after which the provider's own bookkeeping is right. For Route 53 the endpoints
of the spec have to have different keys, and a deletion has to be asked for with the spec that was
published. For Cloud DNS the status has to name what was published, and a deletion has to fit in one
batch. Both say what the reconciler must not ignore: it takes some failures of a deletion for
success. -/

namespace MultiClusterGateway

open DnsRecord

/-! ## Route 53 -/

namespace Route53

/-- The zone has the endpoints, each as its own record set. -/
structure Exact (zone : Zone) (es : List Endpoint) : Prop where
  keys_nodup : (es.map endpointKey).Nodup
  publishable : ∀ e ∈ es, Publishable e
  stored : ∀ e ∈ es, zone.get (endpointKey e) = some (resourceRecordSet e)

/-- An `Ensure` that leaves nothing behind: it does not return early over published endpoints, the
    endpoints of the spec have different keys, and each of the published endpoints is overwritten by
    the spec or deleted as stale. -/
structure CleanEnsure (record : DNSRecord) (published : List Endpoint) : Prop where
  nonempty : record.spec.endpoints = [] → published = []
  keys_nodup : (record.spec.endpoints.map endpointKey).Nodup
  recorded : ∀ e ∈ published, (∃ e' ∈ record.spec.endpoints, endpointKey e' = endpointKey e) ∨
    e ∈ staleEndpoints record

/-- A `Delete` that leaves nothing behind: the spec is what was published, and if the service does
    not carry out the request, the reconciler does not ignore it. -/
def CleanDelete (fault : Option String) (record : DNSRecord) (zoneID : String) (zone : Zone)
    (published : List Endpoint) : Prop :=
  published = [] ∨ (record.spec.endpoints = published ∧
    (fault ≠ none → ∀ err, delete fault record zoneID zone = .error err →
      ignoredOnDelete err = false))

section
variable {fault : Option String} {record : DNSRecord} {zoneID : String} {zone zone' : Zone}
  {published : List Endpoint}

theorem exact_of_ensure (hclean : CleanEnsure record published)
    (h : ensure fault record zoneID zone = .ok zone') : Exact zone' record.spec.endpoints := by
  rcases change_eq_ok.1 h with ⟨hnil, -⟩ | ⟨-, -, hpub, happly⟩
  · rw [hnil]
    exact ⟨List.nodup_nil, fun e he => (nomatch he), fun e he => (nomatch he)⟩
  · refine ⟨hclean.keys_nodup, fun e he => hpub e (List.mem_append_left _ he), fun e he => ?_⟩
    refine (get_of_ensure happly).1 e he fun e' he' hkey => ?_
    exact List.inj_on_of_nodup_map hclean.keys_nodup he' he hkey

theorem present_of_ensure (hclean : CleanEnsure record published)
    (h : ensure fault record zoneID zone = .ok zone') {k : RecordKey} (hk : zone'.get k ≠ none) :
    (∃ e ∈ record.spec.endpoints, endpointKey e = k) ∨
      (zone.get k ≠ none ∧ ∀ e ∈ published, endpointKey e ≠ k) := by
  rcases change_eq_ok.1 h with ⟨hnil, rfl⟩ | ⟨-, -, -, happly⟩
  · refine Or.inr ⟨hk, fun e he => ?_⟩
    rw [hclean.nonempty hnil] at he
    cases he
  · by_cases hspec : ∃ e ∈ record.spec.endpoints, endpointKey e = k
    · exact Or.inl hspec
    · obtain ⟨-, hstale, hframe⟩ := get_of_ensure happly
      have hnotStale : ∀ e ∈ staleEndpoints record, endpointKey e ≠ k := by
        rintro e he rfl
        exact hk (hstale e he)
      refine Or.inr ⟨?_, fun e he hkey => ?_⟩
      · rw [← hframe k (fun e he hkey => hspec ⟨e, he, hkey⟩) hnotStale]
        exact hk
      · rcases hclean.recorded e he with ⟨e', he', hkey'⟩ | hes
        · exact hspec ⟨e', he', hkey'.trans hkey⟩
        · exact hnotStale e hes hkey

theorem present_of_delete (hclean : CleanDelete fault record zoneID zone published)
    (h : delete fault record zoneID zone = .ok zone') {k : RecordKey} (hk : zone'.get k ≠ none) :
    zone.get k ≠ none ∧ ∀ e ∈ published, endpointKey e ≠ k := by
  have hdeleted : zone.get k ≠ none ∧ ∀ e ∈ record.spec.endpoints, endpointKey e ≠ k := by
    rcases change_eq_ok.1 h with ⟨hnil, rfl⟩ | ⟨-, -, -, happly⟩
    · rw [hnil]
      exact ⟨hk, fun e he => (nomatch he)⟩
    · obtain ⟨hgone, hframe⟩ := get_of_delete happly
      have hnot : ∀ e ∈ record.spec.endpoints, endpointKey e ≠ k := by
        rintro e he rfl
        exact hk (hgone e he)
      exact ⟨hframe k hnot ▸ hk, hnot⟩
  refine ⟨hdeleted.1, ?_⟩
  rcases hclean with rfl | ⟨hspec, -⟩
  · exact fun e he => (nomatch he)
  · exact hspec ▸ hdeleted.2

/-- What is in the zone as it was published can be deleted. -/
theorem exists_delete (zoneID : String) (hexact : Exact zone record.spec.endpoints) :
    ∃ zone', delete none record zoneID zone = .ok zone' := by
  by_cases hnil : record.spec.endpoints = []
  · exact ⟨zone, change_eq_ok.2 (Or.inl ⟨hnil, rfl⟩)⟩
  · have hchanges : changes record .delete
        = (record.spec.endpoints.map resourceRecordSet).map Batch.Change.delete := by
      simp [changes]
    have hnodup : ((record.spec.endpoints.map resourceRecordSet).map ResourceRecordSet.key).Nodup := by
      rw [List.map_map]
      exact hexact.keys_nodup
    obtain ⟨zone', happly⟩ : ∃ zone', Batch.applyAll (changes record .delete) zone = some zone' := by
      rw [hchanges, Batch.exists_applyAll_iff (Batch.pairwise_map_of_nodup (fun _ => rfl) hnodup)]
      intro c hc
      obtain ⟨r, hr, rfl⟩ := List.mem_map.1 hc
      obtain ⟨e, he, rfl⟩ := List.mem_map.1 hr
      exact hexact.stored e he
    exact ⟨zone', change_eq_ok.2 (Or.inr ⟨hnil, rfl, hexact.publishable, happly⟩)⟩

theorem eq_nil_of_ignored (hclean : CleanDelete fault record zoneID zone published)
    (hexact : Exact zone published) {err : String}
    (h : delete fault record zoneID zone = .error err) (hignored : ignoredOnDelete err = true) :
    published = [] := by
  rcases hclean with hnil | ⟨rfl, hreported⟩
  · exact hnil
  · cases fault with
    | none =>
        obtain ⟨zone', hok⟩ := exists_delete zoneID hexact
        rw [h] at hok
        cases hok
    | some text =>
        rw [hreported (by simp) err h] at hignored
        cases hignored

theorem callResult_done {result : Except String Zone}
    (h : callResult zone result = .done zone') : result = .ok zone' := by
  cases result with
  | ok z =>
      cases h
      rfl
  | error err => cases h

theorem callResult_failed {result : Except String Zone} {err : String}
    (h : callResult zone result = .failed zone' err) : zone' = zone ∧ result = .error err := by
  cases result with
  | ok z => cases h
  | error err' =>
      cases h
      exact ⟨rfl, rfl⟩

end

/-- The contract of Route 53, with the keys of record sets as ids. -/
def contract : Contract provider where
  Id := RecordKey
  ids es := { k | ∃ e ∈ es, endpointKey e = k }
  present zone := { k | zone.get k ≠ none }
  Exact := Exact
  CleanEnsure _ record _ _ published := CleanEnsure record published
  CleanDelete fault record mz zone published := CleanDelete fault record mz.id zone published
  ids_nil := by simp
  exact_nil _ := ⟨List.nodup_nil, fun e he => (nomatch he), fun e he => (nomatch he)⟩
  ensure_done := by
    intro fault record mz zone published zone' hclean _ hcall
    have h := callResult_done hcall
    refine ⟨exact_of_ensure hclean h, fun k hk => ?_⟩
    rcases present_of_ensure hclean h hk with hin | ⟨hzone, hnot⟩
    · exact Or.inl hin
    · exact Or.inr ⟨hzone, fun ⟨e, he, hkey⟩ => hnot e he hkey⟩
  ensure_failed := by
    intro fault record mz zone published zone' err _ _ hcall
    exact (callResult_failed hcall).1
  delete_done := by
    intro fault record mz zone published zone' hclean _ hcall k hk
    obtain ⟨hzone, hnot⟩ := present_of_delete hclean (callResult_done hcall) hk
    exact ⟨hzone, fun ⟨e, he, hkey⟩ => hnot e he hkey⟩
  delete_failed := by
    intro fault record mz zone published zone' err hclean hexact hcall
    obtain ⟨rfl, h⟩ := callResult_failed hcall
    exact ⟨rfl, fun hignored => eq_nil_of_ignored hclean hexact h hignored⟩

end Route53

/-! ## Cloud DNS -/

namespace Google

/-- There is at most one record set under each name of the endpoints. -/
def Exact (zone : Zone) (es : List Endpoint) : Prop :=
  ∀ x ∈ zone.entries, ∀ y ∈ zone.entries, Published es x.name → x.name = y.name → x = y

/-- An `Ensure` that leaves nothing behind: the status has the published names, different names of
    the spec stay different, the zone has nothing else under a name of the spec, and the change fits
    in one batch. -/
structure CleanEnsure (record : DNSRecord) (zone : Zone) (published : List Endpoint) : Prop where
  recorded : ∀ e ∈ published, Published record.status.endpoints (ensureTrailingDot e.dnsName)
  names_inj : ∀ e ∈ record.spec.endpoints, ∀ e' ∈ record.spec.endpoints,
    ensureTrailingDot e.dnsName = ensureTrailingDot e'.dnsName → e.dnsName = e'.dnsName
  own : ∀ x ∈ zone.entries, Published record.spec.endpoints x.name → Published published x.name
  oneBatch : (dnsNames record.spec.endpoints).length + (dnsNames record.status.endpoints).length
    ≤ googleBatchChangeSize

/-- A `Delete` that leaves nothing behind: the status has the published names, they fit in one
    batch, and the reconciler ignores no request that the service does not carry out. -/
structure CleanDelete (faults : Faults) (record : DNSRecord) (published : List Endpoint) :
    Prop where
  recorded : ∀ e ∈ published, Published record.status.endpoints (ensureTrailingDot e.dnsName)
  oneBatch : (dnsNames record.status.endpoints).length ≤ googleBatchChangeSize
  reported : published = [] ∨ ∀ err, faults.listing = some err ∨ some err ∈ faults.changes →
    ignoredOnDelete err = false

section
variable {parseFloat : ParseFloat} {orders : Orders} {faults : Faults} {record : DNSRecord}
  {zone zone' : Zone} {published : List Endpoint}

theorem Published.of_recorded
    (h : ∀ e ∈ published, Published record.status.endpoints (ensureTrailingDot e.dnsName))
    {name : String} (hname : Published published name) : Published record.status.endpoints name := by
  obtain ⟨e, he, rfl⟩ := hname
  exact h e he

/-- What the zone had under the published names is deleted. -/
theorem not_published_of_kept {statusRecords : List ResourceRecordSet} {x : ResourceRecordSet}
    (hstatus : toResourceRecordSets parseFloat orders.statusNames record.status.endpoints
      = .ok statusRecords)
    (hrecorded : ∀ e ∈ published,
      Published record.status.endpoints (ensureTrailingDot e.dnsName))
    (hexact : Exact zone published) (hx : x ∈ zone.entries)
    (hkept : x ∉ deletingRecords orders statusRecords zone) : ¬ Published published x.name := by
  intro hname
  obtain ⟨d, hd, hdname⟩ := @exists_mem_deletingRecords orders statusRecords zone x hx
    ((exists_name_iff hstatus).2 (Published.of_recorded hrecorded hname))
  have hdzone : d ∈ zone.entries := Batch.Store.mem_entries.2 (get_of_mem_deletingRecords hd)
  rw [← hexact x hx d hdzone hname hdname.symm] at hd
  exact hkept hd

/-! ### Publishing -/

theorem mem_entries_of_ensure (hclean : CleanEnsure record zone published)
    (hexact : Exact zone published)
    (h : ensure parseFloat orders faults record zone = .done zone') :
    Exact zone' record.spec.endpoints ∧ ∀ x ∈ zone'.entries,
      Published record.spec.endpoints x.name ∨ (x ∈ zone.entries ∧ ¬ Published published x.name) := by
  obtain ⟨statusRecords, adding, hfirst⟩ := exists_firstCall (ensure_of_done h)
  have hcases : ∀ x ∈ zone'.entries,
      x ∈ adding ∨ (x ∈ zone.entries ∧ ¬ Published published x.name) := by
    intro x hx
    rcases hfirst.mem_entries_iff.1 hx with hadd | ⟨hzone, -, hkept⟩
    · exact Or.inl hadd
    · exact Or.inr ⟨hzone,
        not_published_of_kept hfirst.status hclean.recorded hexact hzone hkept⟩
  -- under a name of the spec there is only what was added
  have hspec : ∀ x ∈ zone'.entries, Published record.spec.endpoints x.name → x ∈ adding := by
    intro x hx hname
    rcases hcases x hx with hadd | ⟨hzone, hnot⟩
    · exact hadd
    · exact absurd (hclean.own x hzone hname) hnot
  refine ⟨fun x hx y hy hname hxy => ?_, fun x hx => ?_⟩
  · exact List.inj_on_of_nodup_map (nodup_map_name hfirst.spec hclean.names_inj)
      (hspec x hx hname) (hspec y hy (hxy ▸ hname)) hxy
  · rcases hcases x hx with hadd | hkept
    · exact Or.inl ((exists_name_iff hfirst.spec).1 ⟨x, hadd, rfl⟩)
    · exact Or.inr hkept

theorem zone_of_ensure_failed (hclean : CleanEnsure record zone published) {err : String}
    (h : ensure parseFloat orders faults record zone = .failed zone' err) : zone' = zone := by
  unfold ensure updateRecord at h
  cases hlisting : faults.listing with
  | some err =>
      rw [hlisting] at h
      cases h
      rfl
  | none =>
      simp only [hlisting] at h
      cases hstatus : toResourceRecordSets parseFloat orders.statusNames record.status.endpoints with
      | error reason =>
          simp only [hstatus] at h
          cases h
      | ok statusRecords =>
          simp only [hstatus] at h
          cases hspec : toResourceRecordSets parseFloat orders.specNames record.spec.endpoints with
          | error reason =>
              simp only [hspec] at h
              cases h
          | ok adding =>
              simp only [hspec] at h
              refine submitChange_failed ?_ h
              have hdel := length_deletingRecords_le orders statusRecords zone
              rw [length_toResourceRecordSets hstatus] at hdel
              have hadd := length_toResourceRecordSets hspec
              have hone := hclean.oneBatch
              show adding.length + (deletingRecords orders statusRecords zone).length ≤ _
              omega

/-! ### Deleting -/

theorem size_forName_deleting (orders : Orders) (statusRecords : List ResourceRecordSet)
    (zone : Zone) (name : String) :
    (Change.forName { deletions := deletingRecords orders statusRecords zone } name).size
      ≤ googleBatchChangeSize :=
  @size_forName_le (fun _ => none) orders .inserted statusRecords [] zone [] (Or.inl rfl) name

/-- A call of `Delete` that got as far as sending its changes. -/
theorem delete_eq (hlisting : faults.listing = none)
    (h : ∀ reason, delete parseFloat orders faults record zone ≠ .panicked reason) :
    ∃ statusRecords,
      toResourceRecordSets parseFloat orders.statusNames record.status.endpoints
        = .ok statusRecords ∧
      delete parseFloat orders faults record zone
        = submitChange faults.changes
          { deletions := deletingRecords orders statusRecords zone } zone := by
  unfold delete updateRecord at h ⊢
  simp only [hlisting] at h ⊢
  cases hstatus : toResourceRecordSets parseFloat orders.statusNames record.status.endpoints with
  | error reason =>
      simp only [hstatus] at h
      exact absurd rfl (h reason)
  | ok statusRecords =>
      simp only [hstatus] at h ⊢
      cases hspec : toResourceRecordSets parseFloat orders.specNames record.spec.endpoints with
      | error reason =>
          simp only [hspec] at h
          exact absurd rfl (h reason)
      | ok adding => exact ⟨statusRecords, rfl, rfl⟩

theorem listing_of_done (h : delete parseFloat orders faults record zone = .done zone') :
    faults.listing = none := by
  cases hlisting : faults.listing with
  | none => rfl
  | some err =>
      unfold delete updateRecord at h
      rw [hlisting] at h
      cases h

theorem mem_entries_of_delete (hclean : CleanDelete faults record published)
    (hexact : Exact zone published)
    (h : delete parseFloat orders faults record zone = .done zone') :
    ∀ x ∈ zone'.entries, x ∈ zone.entries ∧ ¬ Published published x.name := by
  obtain ⟨statusRecords, hstatus, hdelete⟩ := @delete_eq parseFloat orders faults record zone
    (listing_of_done h) (fun reason hpanic => by rw [h] at hpanic; cases hpanic)
  rw [hdelete] at h
  have happlied := (submitChange_done (size_forName_deleting orders statusRecords zone)).1 zone'
    (submitChange_of_done h)
  intro x hx
  rcases (mem_entries_of_replacing happlied).1 hx with hadd | ⟨hzone, -, hkept⟩
  · cases hadd
  · exact ⟨hzone, not_published_of_kept hstatus hclean.recorded hexact hzone hkept⟩

/-- What is listed can be deleted, so that only a fault makes the call fail. -/
theorem fault_of_delete_failed {err : String}
    (h : delete parseFloat orders faults record zone = .failed zone' err) :
    faults.listing = some err ∨ some err ∈ faults.changes := by
  cases hlisting : faults.listing with
  | some err' =>
      unfold delete updateRecord at h
      rw [hlisting] at h
      cases h
      exact Or.inl rfl
  | none =>
      right
      obtain ⟨statusRecords, hstatus, hdelete⟩ := @delete_eq parseFloat orders faults record zone
        hlisting (fun reason hpanic => by rw [h] at hpanic; cases hpanic)
      rw [hdelete] at h
      obtain ⟨z, hz⟩ : ∃ z, Batch.applyAll
          (Batch.replacing (deletingRecords orders statusRecords zone) []) zone = some z :=
        (Batch.exists_replacing_iff (fun d hd => get_of_mem_deletingRecords hd)
          nodup_map_key_deletingRecords).2 ⟨List.nodup_nil, fun v hv => (nomatch hv)⟩
      obtain ⟨z', hdone, -⟩ :=
        (submitChange_done (size_forName_deleting orders statusRecords zone)).2 z hz
      unfold submitChange at h hdone
      split at h
      · cases h
      · rename_i hne
        rw [if_neg hne] at hdone
        exact mem_faults_of_failed h hdone

theorem zone_of_delete_failed (hclean : CleanDelete faults record published) {err : String}
    (h : delete parseFloat orders faults record zone = .failed zone' err) : zone' = zone := by
  cases hlisting : faults.listing with
  | some err' =>
      unfold delete updateRecord at h
      rw [hlisting] at h
      cases h
      rfl
  | none =>
      obtain ⟨statusRecords, hstatus, hdelete⟩ := @delete_eq parseFloat orders faults record zone
        hlisting (fun reason hpanic => by rw [h] at hpanic; cases hpanic)
      rw [hdelete] at h
      refine submitChange_failed ?_ h
      have hdel := length_deletingRecords_le orders statusRecords zone
      rw [length_toResourceRecordSets hstatus] at hdel
      have hone := hclean.oneBatch
      show 0 + (deletingRecords orders statusRecords zone).length ≤ _
      omega

end

/-- The contract of Google, with names as ids. -/
def contract (parseFloat : ParseFloat) : Contract (provider parseFloat) where
  Id := String
  ids es := { name | Published es name }
  present zone := { name | ∃ x ∈ zone.entries, x.name = name }
  Exact := Exact
  CleanEnsure _ record _ zone published := CleanEnsure record zone published
  CleanDelete call record _ _ published := CleanDelete call.2 record published
  ids_nil := by simp [Published]
  exact_nil _ := fun x _ y _ hname => by
    obtain ⟨e, he, -⟩ := hname
    cases he
  ensure_done := by
    intro call record mz zone published zone' hclean hexact hcall
    obtain ⟨hexact', hkept⟩ := mem_entries_of_ensure hclean hexact hcall
    refine ⟨hexact', ?_⟩
    rintro name ⟨x, hx, rfl⟩
    rcases hkept x hx with hin | ⟨hzone, hnot⟩
    · exact Or.inl hin
    · exact Or.inr ⟨⟨x, hzone, rfl⟩, hnot⟩
  ensure_failed := by
    intro call record mz zone published zone' err hclean _ hcall
    exact zone_of_ensure_failed hclean hcall
  delete_done := by
    intro call record mz zone published zone' hclean hexact hcall
    rintro name ⟨x, hx, rfl⟩
    obtain ⟨hzone, hnot⟩ := mem_entries_of_delete hclean hexact hcall x hx
    exact ⟨⟨x, hzone, rfl⟩, hnot⟩
  delete_failed := by
    intro call record mz zone published zone' err hclean _ hcall
    refine ⟨zone_of_delete_failed hclean hcall, fun hignored => ?_⟩
    rcases hclean.reported with hnil | hreported
    · exact hnil
    · rw [hreported err (fault_of_delete_failed hcall)] at hignored
      cases hignored

end Google

end MultiClusterGateway
