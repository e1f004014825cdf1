import MultiClusterGateway.ManagedZone.Controller

set_option autoImplicit false

/-! # A ready zone is delegated

When a reconcile writes that a zone is ready, its domain is to be delegated to its name servers by a
ready record in the parent zone. The record is only ever created, never updated, and one that is
missing counts as ready. So the zone is delegated exactly if the record that `Create` finds or makes
outlives the others' turns up to the write of the status and is one for the present name servers. -/

namespace MultiClusterGateway.ManagedZoneController

/-- The targets of the NS endpoints of a record for a domain. -/
def nsTargets (r : DNSRecord) (domainName : String) : List (List String) :=
  (r.spec.endpoints.filter (fun e => e.recordType = .NS ∧ e.dnsName = domainName)).map (·.targets)

/-- The record has one NS endpoint for the domain, with exactly these name servers. -/
def Delegates (r : DNSRecord) (domainName : String) (nameServers : List (Option String)) : Prop :=
  ∃ targets, nsTargets r domainName = [targets] ∧ nameServers = targets.map some

/-- The zone's domain is delegated to its name servers by a ready record in the parent zone. -/
def Delegated (key : ObjectKey) (s : Cluster) : Prop :=
  ∃ zone parent r, s.zones.get key = some zone ∧ zone.spec.parentManagedZone = some parent ∧
    s.zones.get ⟨zone.metadata.ns, parent⟩ ≠ none ∧
    s.records.get ⟨zone.metadata.ns, zone.spec.domainName⟩ = some r ∧ isRecordReady r = true ∧
    Delegates r zone.spec.domainName zone.status.nameServers

/-- What `Create` leaves: the record that is there already, or else the new one. -/
def withRecord (r : DNSRecord) (s : Cluster) : Cluster :=
  if s.records.get r.metadata.key = none then { s with records := s.records.put r } else s

@[simp] theorem turn_zones (s : Cluster) : s.turn.zones = s.zones := by
  unfold Cluster.turn
  split
  · rfl
  · rfl

/-- A call made in the others' turn, where the precondition is about the zones. -/
theorem triple_afterOthers {α : Type} {P : Objects managedZoneKind → Prop} {x : Api Cluster α}
    {Q : α → Cluster → Prop} {E : ApiError → Cluster → Prop}
    (hx : Api.Triple (fun s => P s.zones) x Q E) :
    Api.Triple (fun s => P s.zones) (afterOthers x) Q E := by
  intro w hw
  refine hx { w with state := w.state.turn } ?_
  show P w.state.turn.zones
  rw [turn_zones]
  exact hw

section

variable {P : Objects managedZoneKind → Prop}

end

/-! ## The zone in the store -/

/-- What a reconcile leaves as it is: the zone is in the store with its spec, not being deleted. -/
def Present (key : ObjectKey) (spec : ManagedZoneSpec) (zones : Objects managedZoneKind) : Prop :=
  ∃ z, zones.get key = some z ∧ z.spec = spec ∧ z.metadata.deletionTimestamp = false

section

variable {key : ObjectKey} {spec : ManagedZoneSpec} {zone : ManagedZoneObject}

/-- Writing a status: the zone has it afterwards, and no zone is gone. -/
theorem triple_updateStatus {P : Objects managedZoneKind → Prop} (hkey : zone.metadata.key = key)
    (hP : ∀ zones, P zones → Present key spec zones) :
    Api.Triple (fun s => P s.zones) (updateStatus zone)
      (fun _ s => Present key spec s.zones ∧
        (s.zones.get key).map (·.status) = some zone.status ∧
        ∃ zones, P zones ∧ ∀ k, zones.get k ≠ none → s.zones.get k ≠ none)
      (fun _ _ => True) := by
  refine triple_afterOthers (Api.triple_write.mono (fun _ h => h) ?_ fun _ _ _ => trivial)
  rintro _ _ ⟨s, zones, hs, hwrite, rfl⟩
  obtain ⟨z, hget, hspec, hlive⟩ := hP s.zones hs
  rw [hkey, show (zonesPart.get s).get key = some z from hget] at hwrite
  cases hwrite
  have hwritten : (s.zones.put { z with status := zone.status }).get key
      = some { z with status := zone.status } := by
    have hzkey : managedZoneKind.key z = key := Objects.key_of_get hget
    exact Objects.get_put_live hzkey hlive
  refine ⟨⟨_, hwritten, hspec, hlive⟩, congrArg (Option.map (·.status)) hwritten, s.zones, hs, ?_⟩
  intro k hk
  show (s.zones.put { z with status := zone.status }).get k ≠ none
  by_cases hkey' : k = key
  · rw [hkey', hwritten]
    exact Option.some_ne_none _
  · have hzkey : managedZoneKind.key z = key := Objects.key_of_get hget
    have hne : k ≠ managedZoneKind.key { z with status := zone.status } := fun h =>
      hkey' (h.trans hzkey)
    rw [Objects.get_put_of_ne hne]
    exact hk

/-! ## Up to the ready check -/

variable (key spec) in
/-- The zone in hand is the one in the store, as far as its key and spec go. -/
structure InHand (zone : ManagedZoneObject) : Prop where
  key : zone.metadata.key = key
  spec : zone.spec = spec
  live : zone.metadata.deletionTimestamp = false

/-- What a draft says if its status is still true: the provider has ensured the zone. -/
structure Sound (answers : Answers) (key : ObjectKey) (spec : ManagedZoneSpec) (draft : Draft) :
    Prop where
  zone : InHand key spec draft.zone
  ensured : draft.status = true → answers.factory = .ok () ∧ ∃ output,
    answers.ensureManagedZone = .ok output ∧ draft.zone.status.nameServers = output.nameServers

end

/-! ## The records up to the last write -/

section

variable {key : ObjectKey} {spec : ManagedZoneSpec} {zone : ManagedZoneObject} {parent : String}
  {w w' : Served Cluster}

end

theorem Delegates.congr {r r' : DNSRecord} {domainName : String} {nameServers : List (Option String)}
    (hendpoints : r'.spec.endpoints = r.spec.endpoints) :
    Delegates r' domainName nameServers ↔ Delegates r domainName nameServers := by
  unfold Delegates nsTargets
  rw [hendpoints]

section

variable {answers : Answers} {key : ObjectKey} {zone : ManagedZoneObject} {parent : String}

end

end MultiClusterGateway.ManagedZoneController
