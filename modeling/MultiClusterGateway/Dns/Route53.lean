import MultiClusterGateway.Dns.Provider
import MultiClusterGateway.Dns.Target
import MultiClusterGateway.DnsPolicy.SetEndpoints
import MultiClusterGateway.Lib.Batch
import MultiClusterGateway.Lib.Fallible

set_option autoImplicit false

/-! # The Route 53 provider (`pkg/dns/aws/dns.go`)

Publishing writes every endpoint of the spec and deletes the endpoints of the status whose id is not
among those of the spec; deleting deletes the endpoints of the spec. Either is one change batch,
which Route 53 applies as a whole or not at all. A zone is a store of record sets under their name,
type and set identifier.

The provider takes endpoints of three types with a name and with targets; any other one makes the
whole call fail before something is sent. Weights, geo codes and the other properties become fields
of the record set; a code that the table of countries has becomes a country, any other one a
continent. Nothing is sent at all for a record without endpoints in its spec, so that the endpoints
of the status stay in the zone then. -/

namespace MultiClusterGateway

/-! ## Values of the request -/

/-- `iso3166Codes` of `pkg/dns/iso3166.go`. -/
def iso3166Codes : List String :=
  ["AF", "AL", "DZ", "AS", "AD", "AO", "AI", "AQ", "AG", "AR", "AM", "AW", "AU", "AT", "AZ", "BS",
   "BH", "BD", "BB", "BY", "BE", "BZ", "BJ", "BM", "BT", "BO", "BQ", "BA", "BW", "BV", "BR", "IO",
   "BN", "BG", "BF", "BI", "CV", "KH", "CM", "CA", "KY", "CF", "TD", "CL", "CN", "CX", "CC", "CO",
   "KM", "CD", "CG", "CK", "CR", "HR", "CU", "CW", "CY", "CZ", "CI", "DK", "DJ", "DM", "DO", "EC",
   "EG", "SV", "GQ", "ER", "EE", "SZ", "ET", "FK", "FO", "FJ", "FI", "FR", "GF", "PF", "TF", "GA",
   "GM", "GE", "DE", "GH", "GI", "GR", "GL", "GD", "GP", "GU", "GT", "GG", "GN", "GW", "GY", "HT",
   "HM", "VA", "HN", "HK", "HU", "IS", "IN", "ID", "IR", "IQ", "IE", "IM", "IL", "IT", "JM", "JP",
   "JE", "JO", "KZ", "KE", "KI", "KP", "KR", "KW", "KG", "LA", "LV", "LB", "LS", "LR", "LY", "LI",
   "LT", "LU", "MO", "MG", "MW", "MY", "MV", "ML", "MT", "MH", "MQ", "MR", "MU", "YT", "MX", "FM",
   "MD", "MC", "MN", "ME", "MS", "MA", "MZ", "MM", "NA", "NR", "NP", "NL", "NC", "NZ", "NI", "NE",
   "NG", "NU", "NF", "MK", "MP", "NO", "OM", "PK", "PW", "PS", "PA", "PG", "PY", "PE", "PH", "PN",
   "PL", "PT", "PR", "QA", "RO", "RU", "RW", "RE", "BL", "SH", "KN", "LC", "MF", "PM", "VC", "WS",
   "SM", "ST", "SA", "SN", "RS", "SC", "SL", "SG", "SX", "SK", "SI", "SB", "SO", "ZA", "GS", "SS",
   "ES", "LK", "SD", "SR", "SJ", "SE", "CH", "SY", "TW", "TJ", "TZ", "TH", "TL", "TG", "TK", "TO",
   "TT", "TN", "TR", "TM", "TC", "TV", "UG", "UA", "AE", "GB", "UM", "US", "UY", "UZ", "VU", "VE",
   "VN", "VG", "VI", "WF", "EH", "YE", "ZM", "ZW"]

/-- `IsISO3166Alpha2Code`. -/
def isISO3166Alpha2Code (code : String) : Bool := iso3166Codes.contains code

namespace Route53

/-- The property for the region of a record set. -/
def providerSpecificRegion : String := "aws/region"
/-- The property for the failover of a record set. -/
def providerSpecificFailover : String := "aws/failover"
/-- The property for the subdivision of a record set. -/
def providerSpecificGeolocationSubdivisionCode : String := "aws/geolocation-subdivision-code"
/-- The property for the multi value answer of a record set. -/
def providerSpecificMultiValueAnswer : String := "aws/multi-value-answer"
/-- The property that records the id of an endpoint's health check. -/
def providerSpecificHealthCheckID : String := "aws/health-check-id"

/-- `types.GeoLocation`. -/
structure GeoLocation where
  countryCode : Option String := none
  continentCode : Option String := none
  subdivisionCode : Option String := none
deriving DecidableEq, Repr

/-- `types.ResourceRecordSet` of Route 53, as far as the code sets it. -/
structure ResourceRecordSet where
  name : String
  type : DNSRecordType
  ttl : Int
  resourceRecords : List String
  setIdentifier : Option String := none
  weight : Option Int := none
  region : Option String := none
  failover : Option String := none
  multiValueAnswer : Bool := false
  geoLocation : Option GeoLocation := none
  healthCheckId : Option String := none
deriving DecidableEq, Repr

/-- What identifies a record set in a zone. -/
structure RecordKey where
  name : String
  type : DNSRecordType
  setIdentifier : Option String
deriving DecidableEq, Repr

/-- Name, type and set identifier. -/
def ResourceRecordSet.key (r : ResourceRecordSet) : RecordKey := ⟨r.name, r.type, r.setIdentifier⟩

/-- A hosted zone: one record set for each name, type and set identifier. -/
abbrev Zone := Batch.Store ResourceRecordSet.key

/-- The value of a provider specific property. -/
def property (e : Endpoint) (name : String) : Option String :=
  (e.getProviderSpecificProperty name).map (·.value)

/-- The geolocation of an endpoint: a country for the codes of the table and for `*`, else a
    continent; a subdivision only without a continent. -/
def geoLocation (e : Endpoint) : Option GeoLocation :=
  let located : GeoLocation := match e.geoCode with
    | none => {}
    | some code =>
      if isISO3166Alpha2Code code || GeoCode.isWildcard code then { countryCode := some code }
      else { continentCode := some code }
  let subdivision :=
    if located.continentCode = none then property e providerSpecificGeolocationSubdivisionCode
    else none
  if e.geoCode = none ∧ subdivision = none then none
  else some { located with subdivisionCode := subdivision }

/-- The record set of an endpoint. A weight that is no number counts as 0. -/
def resourceRecordSet (e : Endpoint) : ResourceRecordSet where
  name := e.dnsName
  type := e.recordType
  ttl := e.recordTTL
  resourceRecords := e.targets
  setIdentifier := if e.setIdentifier = "" then none else some e.setIdentifier
  weight := (property e providerSpecificWeight).map (fun value => (Text.parseInt64 value).getD 0)
  region := property e providerSpecificRegion
  failover := property e providerSpecificFailover
  multiValueAnswer := (property e providerSpecificMultiValueAnswer).isSome
  geoLocation := geoLocation e
  healthCheckId := property e providerSpecificHealthCheckID

/-- The text of a record type field. -/
def typeName : DNSRecordType → String
  | .CNAME => "CNAME"
  | .A => "A"
  | .NS => "NS"
  | .other name => name

/-- `changeForEndpoint`: the record set to change, or why there is none. -/
def changeForEndpoint (e : Endpoint) : Except String ResourceRecordSet :=
  if e.recordType ≠ .A ∧ e.recordType ≠ .CNAME ∧ e.recordType ≠ .NS then
    .error ("unsupported record type " ++ typeName e.recordType)
  else if e.dnsName = "" then .error "domain is required"
  else if e.targets = [] then .error "targets is required"
  else .ok (resourceRecordSet e)

/-! ## Requests -/

/-- How the service refuses the deletion of a record set that is not there as given. -/
def notFoundMessage : String :=
  "InvalidChangeBatch: Tried to delete resource record set but it was not found"

/-- `ChangeResourceRecordSets`: the whole batch, or the failure that the service reports. -/
def changeResourceRecordSets (changes : List (Batch.Change ResourceRecordSet)) (zone : Zone) :
    Except String Zone :=
  match Batch.applyAll changes zone with
  | some zone' => .ok zone'
  | none => .error notFoundMessage

/-- `action` of `change`. -/
inductive Action where
  | upsert
  | delete
deriving DecidableEq, Repr

/-- The endpoints of the status that the spec no longer has. -/
def staleEndpoints (record : DNSRecord) : List Endpoint :=
  record.status.endpoints.filter
    (fun e => !(record.spec.endpoints.map Endpoint.setID).contains e.setID)

/-- The batch of `updateRecord`. -/
def changesFor (record : DNSRecord) (action : Action) :
    Except String (List (Batch.Change ResourceRecordSet)) := do
  let expected ← record.spec.endpoints.mapM changeForEndpoint
  match action with
  | .delete => return expected.map .delete
  | .upsert =>
    let stale ← (staleEndpoints record).mapM changeForEndpoint
    return expected.map .upsert ++ stale.map .delete

/-- `updateRecord`. A `fault` is a request that the service does not carry out. -/
def updateRecord (fault : Option String) (record : DNSRecord) (zoneID : String) (action : Action)
    (zone : Zone) : Except String Zone :=
  if record.spec.endpoints = [] then .error "no endpoints"
  else match changesFor record action with
    | .error e => .error e
    | .ok changes =>
      let response : Except String Zone := match fault with
        | some e => .error e
        | none => changeResourceRecordSets changes zone
      match response with
      | .ok zone' => .ok zone'
      | .error e => .error
          ("couldn't update DNS record " ++ record.metadata.name ++ " in zone " ++ zoneID ++ ": " ++ e)

/-- `change`. -/
def change (fault : Option String) (record : DNSRecord) (zoneID : String) (action : Action)
    (zone : Zone) : Except String Zone :=
  if record.spec.endpoints = [] then .ok zone
  else match updateRecord fault record zoneID action zone with
    | .ok zone' => .ok zone'
    | .error e => .error ("failed to update record in route53 hosted zone " ++ zoneID ++ ": " ++ e)

/-- `Ensure`. -/
def ensure (fault : Option String) (record : DNSRecord) (zoneID : String) (zone : Zone) :
    Except String Zone :=
  change fault record zoneID .upsert zone

/-- `Delete`. -/
def delete (fault : Option String) (record : DNSRecord) (zoneID : String) (zone : Zone) :
    Except String Zone :=
  change fault record zoneID .delete zone

/-- A failed call has changed nothing. -/
def callResult (zone : Zone) : Except String Zone → CallResult Zone
  | .ok zone' => .done zone'
  | .error err => .failed zone err

/-- The provider as the reconciler sees it. -/
def provider : Provider Zone (Option String) where
  ensure fault record managedZone zone := callResult zone (ensure fault record managedZone.id zone)
  delete fault record managedZone zone := callResult zone (delete fault record managedZone.id zone)

/-! ## What a request does -/

/-- The provider accepts the endpoint. -/
def Publishable (e : Endpoint) : Prop :=
  (e.recordType = .A ∨ e.recordType = .CNAME ∨ e.recordType = .NS) ∧ e.dnsName ≠ "" ∧ e.targets ≠ []

instance (e : Endpoint) : Decidable (Publishable e) :=
  inferInstanceAs (Decidable (_ ∧ _ ∧ _))

theorem changeForEndpoint_eq_ok {e : Endpoint} {r : ResourceRecordSet} :
    changeForEndpoint e = .ok r ↔ Publishable e ∧ r = resourceRecordSet e := by
  unfold changeForEndpoint Publishable
  by_cases htype : e.recordType ≠ .A ∧ e.recordType ≠ .CNAME ∧ e.recordType ≠ .NS
  · rw [if_pos htype]
    constructor
    · intro h
      cases h
    · rintro ⟨⟨h, -⟩, -⟩
      rcases h with h | h | h
      · exact absurd h htype.1
      · exact absurd h htype.2.1
      · exact absurd h htype.2.2
  · rw [if_neg htype]
    have htype' : e.recordType = .A ∨ e.recordType = .CNAME ∨ e.recordType = .NS := by
      by_contra hnot
      push Not at hnot
      exact htype hnot
    by_cases hname : e.dnsName = ""
    · simp [hname]
    · by_cases htargets : e.targets = []
      · simp [hname, htargets]
      · simp [hname, htargets, htype', eq_comm (a := r)]

theorem mapM_changeForEndpoint {es : List Endpoint} {rs : List ResourceRecordSet} :
    es.mapM changeForEndpoint = .ok rs ↔
      (∀ e ∈ es, Publishable e) ∧ rs = es.map resourceRecordSet :=
  Fallible.mapM_eq_ok_iff fun _ _ => changeForEndpoint_eq_ok

/-- The changes that a request asks for. -/
def changes (record : DNSRecord) : Action → List (Batch.Change ResourceRecordSet)
  | .upsert => record.spec.endpoints.map (fun e => .upsert (resourceRecordSet e)) ++
      (staleEndpoints record).map (fun e => .delete (resourceRecordSet e))
  | .delete => record.spec.endpoints.map (fun e => .delete (resourceRecordSet e))

/-- The endpoints that a request is about. -/
def concerned (record : DNSRecord) : Action → List Endpoint
  | .upsert => record.spec.endpoints ++ staleEndpoints record
  | .delete => record.spec.endpoints

theorem changesFor_eq_ok {record : DNSRecord} {action : Action}
    {cs : List (Batch.Change ResourceRecordSet)} :
    changesFor record action = .ok cs ↔
      (∀ e ∈ concerned record action, Publishable e) ∧ cs = changes record action := by
  unfold changesFor
  rw [Fallible.bind_eq_ok]
  cases action with
  | delete =>
      constructor
      · rintro ⟨expected, hexpected, hcs⟩
        obtain ⟨hp, rfl⟩ := mapM_changeForEndpoint.1 hexpected
        rw [Fallible.pure_eq_ok, List.map_map] at hcs
        exact ⟨hp, hcs.symm⟩
      · rintro ⟨hp, rfl⟩
        refine ⟨_, mapM_changeForEndpoint.2 ⟨hp, rfl⟩, ?_⟩
        rw [Fallible.pure_eq_ok, List.map_map]
        rfl
  | upsert =>
      constructor
      · rintro ⟨expected, hexpected, h⟩
        obtain ⟨hp, rfl⟩ := mapM_changeForEndpoint.1 hexpected
        obtain ⟨stale, hstale, hcs⟩ := Fallible.bind_eq_ok.1 h
        obtain ⟨hps, rfl⟩ := mapM_changeForEndpoint.1 hstale
        rw [Fallible.pure_eq_ok, List.map_map, List.map_map] at hcs
        exact ⟨List.forall_mem_append.2 ⟨hp, hps⟩, hcs.symm⟩
      · rintro ⟨hall, rfl⟩
        obtain ⟨hp, hps⟩ := List.forall_mem_append.1 hall
        refine ⟨_, mapM_changeForEndpoint.2 ⟨hp, rfl⟩, Fallible.bind_eq_ok.2
          ⟨_, mapM_changeForEndpoint.2 ⟨hps, rfl⟩, ?_⟩⟩
        rw [Fallible.pure_eq_ok, List.map_map, List.map_map]
        rfl

/-- A request without endpoints does nothing; any other one is carried out as one batch. -/
theorem change_eq_ok {fault : Option String} {record : DNSRecord} {zoneID : String}
    {action : Action} {zone zone' : Zone} :
    change fault record zoneID action zone = .ok zone' ↔
      (record.spec.endpoints = [] ∧ zone' = zone) ∨
      (record.spec.endpoints ≠ [] ∧ fault = none ∧
        (∀ e ∈ concerned record action, Publishable e) ∧
        Batch.applyAll (changes record action) zone = some zone') := by
  unfold change
  by_cases hnil : record.spec.endpoints = []
  · simp [hnil, eq_comm]
  · rw [if_neg hnil]
    unfold updateRecord
    rw [if_neg hnil]
    cases hcs : changesFor record action with
    | error e =>
        have hnot : ¬ ∀ e ∈ concerned record action, Publishable e := fun h => by
          rw [changesFor_eq_ok.2 ⟨h, rfl⟩] at hcs
          cases hcs
        constructor
        · intro h
          cases h
        · rintro (⟨h, -⟩ | ⟨-, -, h, -⟩)
          · exact absurd h hnil
          · exact absurd h hnot
    | ok cs =>
        obtain ⟨hp, rfl⟩ := changesFor_eq_ok.1 hcs
        cases fault with
        | some e => simp [hnil]
        | none =>
            simp only [changeResourceRecordSets]
            cases Batch.applyAll (changes record action) zone with
            | none => simp [hnil]
            | some z =>
                simp only [Except.ok.injEq, hnil, false_and, false_or, ne_eq, not_false_eq_true,
                  true_and, Option.some.injEq]
                exact ⟨fun h => ⟨hp, h⟩, fun h => h.2⟩

/-! ## Keys -/

/-- The key under which an endpoint is published. -/
def endpointKey (e : Endpoint) : RecordKey := (resourceRecordSet e).key

theorem endpointKey_eq (e : Endpoint) :
    endpointKey e = ⟨e.dnsName, e.recordType,
      if e.setIdentifier = "" then none else some e.setIdentifier⟩ := rfl

theorem endpointKey_inj {e e' : Endpoint} :
    endpointKey e = endpointKey e' ↔
      e.dnsName = e'.dnsName ∧ e.recordType = e'.recordType ∧ e.setIdentifier = e'.setIdentifier := by
  rw [endpointKey_eq, endpointKey_eq, RecordKey.mk.injEq]
  refine and_congr_right fun _ => and_congr_right fun _ => ?_
  constructor
  · intro h
    by_cases he : e.setIdentifier = ""
    · by_cases he' : e'.setIdentifier = ""
      · rw [he, he']
      · rw [if_pos he, if_neg he'] at h
        cases h
    · by_cases he' : e'.setIdentifier = ""
      · rw [if_neg he, if_pos he'] at h
        cases h
      · rw [if_neg he, if_neg he'] at h
        exact Option.some.inj h
  · intro h
    rw [h]

theorem setID_eq_of_endpointKey_eq {e e' : Endpoint} (h : endpointKey e = endpointKey e') :
    e.setID = e'.setID := by
  obtain ⟨hname, -, hid⟩ := endpointKey_inj.1 h
  unfold Endpoint.setID
  rw [hname, hid]

theorem mem_staleEndpoints {record : DNSRecord} {e : Endpoint} :
    e ∈ staleEndpoints record ↔
      e ∈ record.status.endpoints ∧ ∀ e' ∈ record.spec.endpoints, e'.setID ≠ e.setID := by
  unfold staleEndpoints
  rw [List.mem_filter]
  simp

/-- An endpoint that is deleted as stale shares its key with none of the spec. -/
theorem endpointKey_ne_of_stale {record : DNSRecord} {e e' : Endpoint}
    (he : e ∈ staleEndpoints record) (he' : e' ∈ record.spec.endpoints) :
    endpointKey e' ≠ endpointKey e :=
  fun h => (mem_staleEndpoints.1 he).2 e' he' (setID_eq_of_endpointKey_eq h)

/-! ## Publishing -/

section
variable {record : DNSRecord} {zoneID : String} {zone zone' : Zone}

/-- Publishing leaves under each key what the spec has there, and nothing under the stale keys. -/
theorem get_of_ensure (h : Batch.applyAll (changes record .upsert) zone = some zone') :
    (∀ e ∈ record.spec.endpoints,
      (∀ e' ∈ record.spec.endpoints, endpointKey e' = endpointKey e → e' = e) →
      zone'.get (endpointKey e) = some (resourceRecordSet e)) ∧
    (∀ e ∈ staleEndpoints record, zone'.get (endpointKey e) = none) ∧
    ∀ k, (∀ e ∈ record.spec.endpoints, endpointKey e ≠ k) →
      (∀ e ∈ staleEndpoints record, endpointKey e ≠ k) → zone'.get k = zone.get k := by
  refine ⟨fun e he huniq => ?_, fun e he => ?_, fun k hspec hstale => ?_⟩
  · have hmem : Batch.Change.upsert (resourceRecordSet e) ∈ changes record .upsert :=
      List.mem_append_left _ (List.mem_map.2 ⟨e, he, rfl⟩)
    refine Batch.get_applyAll_of_mem h hmem fun d hd hkey => ?_
    rcases List.mem_append.1 hd with hd | hd
    · obtain ⟨e', he', rfl⟩ := List.mem_map.1 hd
      rw [huniq e' he' hkey]
    · obtain ⟨e', he', rfl⟩ := List.mem_map.1 hd
      exact absurd hkey.symm (endpointKey_ne_of_stale he' he)
  · have hmem : Batch.Change.delete (resourceRecordSet e) ∈ changes record .upsert :=
      List.mem_append_right _ (List.mem_map.2 ⟨e, he, rfl⟩)
    refine Batch.get_applyAll_of_mem h hmem fun d hd hkey => ?_
    rcases List.mem_append.1 hd with hd | hd
    · obtain ⟨e', he', rfl⟩ := List.mem_map.1 hd
      exact absurd hkey (endpointKey_ne_of_stale he he')
    · obtain ⟨e', he', rfl⟩ := List.mem_map.1 hd
      rfl
  · refine Batch.get_applyAll_of_notMem h fun c hc => ?_
    rcases List.mem_append.1 hc with hc | hc
    · obtain ⟨e, he, rfl⟩ := List.mem_map.1 hc
      exact hspec e he
    · obtain ⟨e, he, rfl⟩ := List.mem_map.1 hc
      exact hstale e he

/-- Deleting leaves nothing under the keys of the spec, and everything else. -/
theorem get_of_delete (h : Batch.applyAll (changes record .delete) zone = some zone') :
    (∀ e ∈ record.spec.endpoints, zone'.get (endpointKey e) = none) ∧
    ∀ k, (∀ e ∈ record.spec.endpoints, endpointKey e ≠ k) → zone'.get k = zone.get k := by
  refine ⟨fun e he => ?_, fun k hk => ?_⟩
  · have hmem : Batch.Change.delete (resourceRecordSet e) ∈ changes record .delete :=
      List.mem_map.2 ⟨e, he, rfl⟩
    refine Batch.get_applyAll_of_mem h hmem fun d hd _ => ?_
    obtain ⟨e', -, rfl⟩ := List.mem_map.1 hd
    rfl
  · refine Batch.get_applyAll_of_notMem h fun c hc => ?_
    obtain ⟨e, he, rfl⟩ := List.mem_map.1 hc
    exact hk e he

/-- Without stale endpoints the batch only writes, and writing twice is writing once. -/
theorem ensure_again_of_stale_eq_nil (hstale : staleEndpoints record = [])
    (h : Batch.applyAll (changes record .upsert) zone = some zone') :
    ∃ zone'', Batch.applyAll (changes record .upsert) zone' = some zone'' ∧ zone''.Same zone' := by
  have hcs : changes record .upsert
      = (record.spec.endpoints.map resourceRecordSet).map Batch.Change.upsert := by
    simp [changes, hstale]
  obtain ⟨zone'', h'⟩ : ∃ z, Batch.applyAll (changes record .upsert) zone' = some z := by
    rw [hcs]
    exact Batch.exists_applyAll_upsert _ zone'
  refine ⟨zone'', h', fun k => ?_⟩
  rw [Batch.get_applyAll h' k, Batch.get_applyAll h k]
  cases ((changes record .upsert).filter (fun c => c.value.key == k)).getLast? with
  | none => rfl
  | some c => rfl

/-- A stale endpoint is gone after publishing, so that it cannot be deleted once more. -/
theorem ensure_again_of_stale_ne_nil (hstale : staleEndpoints record ≠ [])
    (h : Batch.applyAll (changes record .upsert) zone = some zone') :
    Batch.applyAll (changes record .upsert) zone' = none := by
  obtain ⟨e, rest, hcons⟩ := List.exists_cons_of_ne_nil hstale
  have he : e ∈ staleEndpoints record := by
    rw [hcons]
    exact List.mem_cons_self
  have hcs : changes record .upsert
      = record.spec.endpoints.map (fun e => .upsert (resourceRecordSet e)) ++
        .delete (resourceRecordSet e) :: rest.map (fun e => .delete (resourceRecordSet e)) := by
    simp [changes, hcons]
  rw [hcs, Batch.applyAll_append]
  cases hwrite : Batch.applyAll
      (record.spec.endpoints.map (fun e => Batch.Change.upsert (resourceRecordSet e))) zone' with
  | none => rfl
  | some zone₁ =>
      -- the writes do not bring the stale record set back
      have hframe : zone₁.get (endpointKey e) = zone'.get (endpointKey e) := by
        refine Batch.get_applyAll_of_notMem hwrite fun c hc => ?_
        obtain ⟨e', he', rfl⟩ := List.mem_map.1 hc
        exact endpointKey_ne_of_stale he he'
      rw [(get_of_ensure h).2.1 e he] at hframe
      have hdelete : (Batch.Change.delete (resourceRecordSet e)).apply zone₁ = none := by
        rw [← Option.not_isSome_iff_eq_none, Batch.Change.isSome_apply]
        intro hallowed
        have hget : zone₁.get (endpointKey e) = some (resourceRecordSet e) := hallowed
        rw [hframe] at hget
        cases hget
      show (Batch.applyAll _ zone₁) = none
      rw [Batch.applyAll_cons, hdelete]
      rfl

end

end Route53

end MultiClusterGateway
