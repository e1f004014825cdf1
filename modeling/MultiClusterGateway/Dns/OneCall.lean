import MultiClusterGateway.Dns.Retry

set_option autoImplicit false

/-! # What one call publishes and deletes

On Route 53 a call that publishes takes the zone from the record sets of the status to those of the
spec, as long as the set ids tell the endpoints apart. Cloud DNS deletes what it finds under the
names of the status, whatever its type.

For Route 53 the set ids have to be different within the spec and within the status, and one that
stands in both has to be of the same name and type. The changes of the batch then do not get into
each other's way. For Cloud DNS the map of current record sets has one entry for each name, the one
that was listed last. What is deleted is therefore what was published exactly if the published
record set is the last one of its name in the listing (`deletesPublished_iff`). -/

namespace MultiClusterGateway

/-! ## Route 53 -/

namespace Route53

end Route53

/-! ## Deletions on Cloud DNS -/

namespace Google

section
variable (parseFloat : ParseFloat)

/-- The change that `updateRecord` submits. -/
def submitted (orders : Orders) (record : DNSRecord) (action : Action) (zone : Zone) :
    Except String Change := do
  let statusRecords ← toResourceRecordSets parseFloat orders.statusNames record.status.endpoints
  let addingRecords ← toResourceRecordSets parseFloat orders.specNames record.spec.endpoints
  let deletions := deletingRecords orders statusRecords zone
  match action with
  | .delete => return { deletions := deletions }
  | .upsert => return { additions := addingRecords, deletions := deletions }

end

section
variable {parseFloat : ParseFloat} {orders : Orders} {record : DNSRecord} {action : Action}
  {zone : Zone} {change : Change}

theorem deletions_of_submitted (h : submitted parseFloat orders record action zone = .ok change) :
    ∃ statusRecords, toResourceRecordSets parseFloat orders.statusNames record.status.endpoints
        = .ok statusRecords ∧ change.deletions = deletingRecords orders statusRecords zone := by
  unfold submitted at h
  obtain ⟨statusRecords, hstatus, h⟩ := Fallible.bind_eq_ok.1 h
  obtain ⟨addingRecords, -, h⟩ := Fallible.bind_eq_ok.1 h
  refine ⟨statusRecords, hstatus, ?_⟩
  cases action with
  | upsert =>
      cases h
      rfl
  | delete =>
      cases h
      rfl

end

/-- The record set has the name and the type of one that was derived from the status. -/
def HasPublishedKey (statusRecords : List ResourceRecordSet) (r : ResourceRecordSet) : Prop :=
  ∃ s ∈ statusRecords, s.key = r.key

/-- What is deleted is exactly what the zone has under the published names and types. -/
def DeletesPublished (statusRecords deletions : List ResourceRecordSet) (zone : Zone) : Prop :=
  ∀ r, r ∈ deletions ↔ r ∈ zone.entries ∧ HasPublishedKey statusRecords r

/-- Of the record sets under a published name, the one that is listed last has a published type, and
    it is the only one that has. -/
def LastListedPublished (orders : Orders) (statusRecords : List ResourceRecordSet) (zone : Zone) :
    Prop :=
  ∀ s ∈ statusRecords, ∀ last, currentRecord (orders.listing.visit zone.entries) s.name = some last →
    HasPublishedKey statusRecords last ∧
      ∀ r ∈ zone.entries, r.name = s.name → HasPublishedKey statusRecords r → r = last

/-- The deletions are the published record sets exactly if these are listed last. -/
theorem deletesPublished_iff (parseFloat : ParseFloat) (orders : Orders) (record : DNSRecord)
    (action : Action) (zone : Zone) (change : Change) (statusRecords : List ResourceRecordSet)
    (hstatus : toResourceRecordSets parseFloat orders.statusNames record.status.endpoints
      = .ok statusRecords)
    (hchange : submitted parseFloat orders record action zone = .ok change) :
    DeletesPublished statusRecords change.deletions zone ↔
      LastListedPublished orders statusRecords zone := by
  obtain ⟨statusRecords', hstatus', hdeletions⟩ := deletions_of_submitted hchange
  rw [hstatus] at hstatus'
  cases hstatus'
  rw [hdeletions]
  constructor
  · intro h s hs last hlast
    have hname := (currentRecord_eq_some hlast).2
    have hdeleted : last ∈ deletingRecords orders statusRecords zone :=
      mem_deletingRecords.2 ⟨⟨s, hs, hname.symm⟩, by rw [hname]; exact hlast⟩
    refine ⟨((h last).1 hdeleted).2, fun r hr hrname hkey => ?_⟩
    exact eq_of_mem_deletingRecords ((h r).2 ⟨hr, hkey⟩) hdeleted (hrname.trans hname.symm)
  · intro h r
    constructor
    · intro hr
      obtain ⟨⟨s, hs, hname⟩, hlast⟩ := mem_deletingRecords.1 hr
      refine ⟨Batch.Store.mem_entries.2 (get_of_mem_deletingRecords hr), ?_⟩
      rw [← hname] at hlast
      exact (h s hs r hlast).1
    · rintro ⟨hr, s, hs, hkey⟩
      have hname : s.name = r.name := congrArg RecordKey.name hkey
      obtain ⟨last, hlast⟩ := exists_currentRecord (orders.listing.mem_visit.2 hr)
      have hsame := (h s hs last (by rw [hname]; exact hlast)).2 r hr hname.symm ⟨s, hs, hkey⟩
      rw [← hsame] at hlast
      exact mem_deletingRecords.2 ⟨⟨s, hs, hname⟩, hlast⟩

/-- The published A record set of a name. -/
def addressRecordSet (name address : String) : ResourceRecordSet where
  name := name
  ttl := 60
  type := .A
  rrdatas := [address]

/-- A TXT record set that someone else has put under a name. -/
def textRecordSet (name : String) : ResourceRecordSet where
  name := name
  ttl := 300
  type := .other "TXT"
  rrdatas := ["v=spf1 -all"]

/-- A record set under another name does not get in the way. -/
theorem deletesPublished_other_name :
    let zone : Zone := ⟨[addressRecordSet "a.example.com." "1.1.1.1", textRecordSet "example.com."],
      by decide⟩
    submitted (fun _ => none) .inserted (recordOf [] [addressEndpoint "a.example.com" "1.1.1.1"])
        .delete zone
      = .ok { deletions := [addressRecordSet "a.example.com." "1.1.1.1"] } ∧
    DeletesPublished [addressRecordSet "a.example.com." "1.1.1.1"]
      [addressRecordSet "a.example.com." "1.1.1.1"] zone := by
  intro zone
  refine ⟨rfl, (deletesPublished_iff (fun _ => none) .inserted
    (recordOf [] [addressEndpoint "a.example.com" "1.1.1.1"]) .delete zone
    { deletions := [addressRecordSet "a.example.com." "1.1.1.1"] } _ rfl rfl).2 ?_⟩
  intro s hs last hlast
  cases List.mem_singleton.1 hs
  cases hlast
  refine ⟨⟨_, hs, rfl⟩, fun r hr hname _ => ?_⟩
  have hnames : ∀ r ∈ zone.entries, r.name = "a.example.com." →
      r = addressRecordSet "a.example.com." "1.1.1.1" := by
    decide
  exact hnames r hr hname

/-- The record set that is listed last is deleted, though it is not of the published type, and the
    published one stays. -/
theorem deletes_text_record :
    let zone : Zone := ⟨[addressRecordSet "a.example.com." "1.1.1.1", textRecordSet "a.example.com."],
      by decide⟩
    submitted (fun _ => none) .inserted (recordOf [] [addressEndpoint "a.example.com" "1.1.1.1"])
        .delete zone
      = .ok { deletions := [textRecordSet "a.example.com."] } ∧
    delete (fun _ => none) .inserted {} (recordOf [] [addressEndpoint "a.example.com" "1.1.1.1"]) zone
      = .done ⟨[addressRecordSet "a.example.com." "1.1.1.1"], by decide⟩ ∧
    ¬ DeletesPublished [addressRecordSet "a.example.com." "1.1.1.1"]
      [textRecordSet "a.example.com."] zone := by
  intro zone
  refine ⟨rfl, rfl, ?_⟩
  intro h
  obtain ⟨-, s, hs, hkey⟩ := (h (textRecordSet "a.example.com.")).1 (by simp)
  rw [List.mem_singleton.1 hs] at hkey
  exact absurd hkey (by decide)

end Google

end MultiClusterGateway
