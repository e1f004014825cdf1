import MultiClusterGateway.Dns.Provider
import MultiClusterGateway.Dns.Target
import MultiClusterGateway.DnsPolicy.SetEndpoints
import MultiClusterGateway.Lib.Batch
import MultiClusterGateway.Lib.Fallible

set_option autoImplicit false

/-! # The Google Cloud DNS provider (`pkg/dns/google/google.go`)

Cloud DNS has one record set for each name and type, with a routing policy in place of several
weighted or geo located record sets. Publishing deletes what the zone has under the names of the
status and adds the record sets of the spec; deleting does only the former. The change is sent in
batches of whole names.

`net.ParseIP` is spelled out, because addresses get no trailing dot; parsing a weight is a
parameter, as no result depends on its digits. The conversion of endpoints can end in a panic, for
one on an endpoint with a geo code and without targets, and the model has these ends. The service
applies each batch as a whole, and the batches before one that is refused stay applied. A name with
more changes than a batch may have is in none of them. -/

namespace MultiClusterGateway.Google

/-! ## Names -/

/-- A decimal number of an IPv4 address: at most 255, without leading zeros. -/
def isOctet (cs : List Char) : Bool :=
  cs ≠ [] && cs.length ≤ 3 && cs.all Char.isDigit && (cs.length == 1 || cs.head? != some '0') &&
    decide (cs.foldl (fun n c => 10 * n + (c.toNat - 48)) 0 ≤ 255)

/-- Four octets. -/
def isIPv4 (cs : List Char) : Bool :=
  let fields := cs.splitOn '.'
  fields.length == 4 && fields.all isOctet

/-- A digit of a field of an IPv6 address. -/
def isHexDigit (c : Char) : Bool :=
  c.isDigit || ('a' ≤ c && c ≤ 'f') || ('A' ≤ c && c ≤ 'F')

/-- How many 16-bit fields a list of colon separated fields stands for; the last one may be an IPv4
    address. -/
def ipv6Fields : List (List Char) → Option Nat
  | [] => some 0
  | [field] =>
    if isIPv4 field then some 2
    else if field ≠ [] ∧ field.length ≤ 4 ∧ field.all isHexDigit then some 1 else none
  | field :: rest =>
    if field ≠ [] ∧ field.length ≤ 4 ∧ field.all isHexDigit then (ipv6Fields rest).map (· + 1)
    else none

/-- The text before and after the first `::`. -/
def splitEllipsis : List Char → Option (List Char × List Char)
  | ':' :: ':' :: rest => some ([], rest)
  | c :: rest => (splitEllipsis rest).map (fun parts => (c :: parts.1, parts.2))
  | [] => none

/-- Eight 16-bit fields, or fewer around an ellipsis. -/
def isIPv6 (cs : List Char) : Bool :=
  let fields (part : List Char) : Option Nat :=
    if part = [] then some 0 else ipv6Fields (part.splitOn ':')
  match splitEllipsis cs with
  | some (left, right) =>
    -- an IPv4 address only stands at the very end
    match (if left.contains '.' then none else fields left), fields right with
    | some n, some m => decide (n + m < 8)
    | _, _ => false
  | none => fields cs == some 8

/-- `net.ParseIP(s) != nil`: the first dot or colon decides which kind of address is tried. -/
def isIP (s : String) : Bool :=
  match s.toList.find? (fun c => c == '.' || c == ':' || c == '%') with
  | some '.' => isIPv4 s.toList
  | some ':' => isIPv6 s.toList
  | _ => false

/-- `strings.TrimSuffix(s, ".")`. -/
def trimDot (s : String) : String :=
  if s.toList.getLast? = some '.' then String.ofList s.toList.dropLast else s

/-- `ensureTrailingDot`: an address stays as it is, any other name ends in a dot. -/
def ensureTrailingDot (hostname : String) : String :=
  if isIP hostname then hostname else trimDot hostname ++ "."

/-! ## Record sets -/

/-- A `float64`, as its bits. -/
abbrev Float64 := BitVec 64

/-- An item of a weighted set: `RRSetRoutingPolicyWrrPolicyWrrPolicyItem`. -/
structure WrrPolicyItem where
  rrdatas : List String
  weight : Float64
deriving DecidableEq, Repr

/-- An item of a geo set: `RRSetRoutingPolicyGeoPolicyGeoPolicyItem`. -/
structure GeoPolicyItem where
  location : String
  rrdatas : List String
deriving DecidableEq, Repr

/-- `RRSetRoutingPolicy`, of which the code sets one of the two fields. -/
inductive RoutingPolicy where
  | wrr (items : List WrrPolicyItem)
  | geo (items : List GeoPolicyItem)
deriving DecidableEq, Repr

/-- `ResourceRecordSet` of Cloud DNS. -/
structure ResourceRecordSet where
  name : String
  ttl : Int
  type : DNSRecordType
  rrdatas : List String := []
  routingPolicy : Option RoutingPolicy := none
deriving DecidableEq, Repr

/-- What a record set is told apart by in a zone. -/
structure RecordKey where
  name : String
  type : DNSRecordType
deriving DecidableEq, Repr

/-- Name and type. -/
def ResourceRecordSet.key (r : ResourceRecordSet) : RecordKey := ⟨r.name, r.type⟩

/-- A zone of Cloud DNS: one record set for each name and type. -/
abbrev Zone := Batch.Store ResourceRecordSet.key

/-- `strconv.ParseFloat(s, 64)`, with no value for an error. -/
abbrev ParseFloat := String → Option Float64

/-- The geo code for which `*` is mapped to a location of the provider. -/
def defaultGeo : String := "europe-west1"

/-- Why the program stops when a slice is empty or a pointer is nil. -/
def indexOutOfRange : String := "runtime error: index out of range [0] with length 0"
/-- The same for a nil pointer. -/
def nilPointer : String := "runtime error: invalid memory address or nil pointer dereference"

section
variable (parseFloat : ParseFloat)

/-- The targets of an endpoint as the provider wants them. -/
def targetsOf (ep : Endpoint) : Except String (List String) :=
  if ep.recordType = .CNAME then
    match ep.targets with
    | [] => .error indexOutOfRange
    | target :: rest => .ok (ensureTrailingDot target :: rest)
  else .ok ep.targets

/-- The value of a property, which is empty if there is none. -/
def propertyValue (ep : Endpoint) (name : String) : String :=
  ((ep.getProviderSpecificProperty name).map (·.value)).getD ""

/-- One round of the loop over the endpoints of a name. -/
def addEndpoint (weighted geoCode : Bool) (record : ResourceRecordSet) (ep : Endpoint) :
    Except String ResourceRecordSet := do
  let targets ← targetsOf ep
  let record := if !weighted && !geoCode then { record with rrdatas := targets } else record
  let record := if weighted then
      let weight := (parseFloat (propertyValue ep providerSpecificWeight)).getD 0
      match record.routingPolicy with
      | some (.wrr items) =>
        { record with routingPolicy := some (.wrr (items ++ [⟨targets, weight⟩])) }
      | _ => record
    else record
  if geoCode then
    let geoCodeValue := propertyValue ep providerSpecificGeoCode
    match ep.targets with
    | [] => .error indexOutOfRange
    | target :: _ =>
      if geoCodeValue = "*" ∧ Text.hasPrefix target GeoCode.defaultGeo = false then .ok record
      else
        let location := if geoCodeValue = "*" then defaultGeo else geoCodeValue
        match record.routingPolicy with
        | some (.geo items) =>
          .ok { record with routingPolicy := some (.geo (items ++ [⟨location, targets⟩])) }
        | _ => .error nilPointer
  else .ok record

/-- The record set of a name; type, ttl and kind of policy are those of the first endpoint. -/
def toResourceRecordSet (dnsName : String) (endpoints : List Endpoint) :
    Except String ResourceRecordSet :=
  match endpoints with
  | [] => .error indexOutOfRange
  | first :: _ =>
    let weighted := (first.getProviderSpecificProperty providerSpecificWeight).isSome
    let geoCode := (first.getProviderSpecificProperty providerSpecificGeoCode).isSome
    let policy := if weighted then some (.wrr []) else if geoCode then some (.geo []) else none
    endpoints.foldlM (addEndpoint parseFloat weighted geoCode)
      { name := ensureTrailingDot dnsName, ttl := first.recordTTL, type := first.recordType,
        routingPolicy := policy }

/-- The names of the endpoints: the keys of `endpointMap`. -/
def dnsNames (allEndpoints : List Endpoint) : List String := (allEndpoints.map (·.dnsName)).dedup

/-- `toResourceRecordSets`: one record set for each name. -/
def toResourceRecordSets (order : MapOrder) (allEndpoints : List Endpoint) :
    Except String (List ResourceRecordSet) :=
  (order.visit (dnsNames allEndpoints)).mapM (fun dnsName =>
    toResourceRecordSet parseFloat dnsName (allEndpoints.filter (fun ep => ep.dnsName == dnsName)))

end

/-! ## Changes -/

/-- `dns.Change`: record sets to add and to delete in one request. -/
structure Change where
  additions : List ResourceRecordSet := []
  deletions : List ResourceRecordSet := []
deriving DecidableEq, Repr

/-- What the service does for a change: the deletions, then the additions. -/
def Change.requests (c : Change) : List (Batch.Change ResourceRecordSet) :=
  Batch.replacing c.deletions c.additions

/-- `GoogleBatchChangeSize`. -/
def googleBatchChangeSize : Nat := 1000

/-- The part of a change that is about one name. -/
def Change.forName (c : Change) (name : String) : Change where
  additions := c.additions.filter (fun r => r.name == name)
  deletions := c.deletions.filter (fun r => r.name == name)

/-- What counts against the size of a batch. -/
def Change.size (c : Change) : Nat := c.additions.length + c.deletions.length

/-- The variables of the loop in `batchChange`. -/
structure BatchState where
  changes : List Change := []
  currentChange : Change := {}
  totalChanges : Nat := 0

/-- One round of the loop over the names: a name that is too large is left out, and one that does
    not fit any more starts a new batch. -/
def batchStep (change : Change) (batchSize : Nat) (s : BatchState) (name : String) : BatchState :=
  let c := change.forName name
  if c.size > batchSize then s
  else
    let s := if s.totalChanges + c.size > batchSize then
        { changes := s.changes ++ [s.currentChange] } else s
    { s with
      currentChange := { additions := s.currentChange.additions ++ c.additions,
                         deletions := s.currentChange.deletions ++ c.deletions },
      totalChanges := s.totalChanges + c.size }

/-- The names of a change, sorted. -/
def Change.names (c : Change) : List String :=
  (((c.additions ++ c.deletions).map (·.name)).dedup).insertionSort (· ≤ ·)

/-- `batchChange`: the batches of whole names. Names that are too large are in none of them, and a
    size of zero means one batch. -/
def batchChange (change : Change) (batchSize : Nat) : List Change :=
  if batchSize = 0 then [change]
  else
    let s := change.names.foldl (batchStep change batchSize) {}
    if s.totalChanges > 0 then s.changes ++ [s.currentChange] else s.changes

/-- How the service refuses a deletion of something that is not there as given. -/
def notFoundMessage : String :=
  "googleapi: Error 404: The resource named in entity.change.deletions does not exist., notFound"

/-- How the service refuses to add what is there already. -/
def alreadyExistsMessage : String :=
  "googleapi: Error 409: The resource entity.change.additions already exists, alreadyExists"

/-- Why the server refuses a change: what is to be deleted is not there, or what is to be added is.
    -/
def refusal (c : Change) (zone : Zone) : String :=
  match Batch.applyAll (c.deletions.map .delete) zone with
  | some _ => alreadyExistsMessage
  | none => notFoundMessage

/-- Requests that the service does not carry out: the listing, and changes by their position. -/
structure Faults where
  listing : Option String := none
  changes : List (Option String) := []

/-- The loop of `submitChange`. -/
def submitBatches : List Change → (faults : List (Option String)) → Zone → CallResult Zone
  | [], _, zone => .done zone
  | c :: rest, faults, zone =>
    match faults.head?.join with
    | some err => .failed zone err
    | none =>
      match Batch.applyAll c.requests zone with
      | some zone' => submitBatches rest faults.tail zone'
      | none => .failed zone (refusal c zone)

/-- `submitChange`: nothing is sent for a change without entries. -/
def submitChange (faults : List (Option String)) (change : Change) (zone : Zone) : CallResult Zone :=
  if change.additions = [] ∧ change.deletions = [] then .done zone
  else submitBatches (batchChange change googleBatchChangeSize) faults zone

/-- `action` of `updateRecord`. -/
inductive Action where
  | upsert
  | delete
deriving DecidableEq, Repr

/-- The orders that the language and the service leave open in one call. -/
structure Orders where
  /-- the names in `toResourceRecordSets` of the status -/
  statusNames : MapOrder
  /-- the names in `toResourceRecordSets` of the spec -/
  specNames : MapOrder
  /-- `statusRecordsMap` -/
  statusRecords : MapOrder
  /-- the listing of the zone -/
  listing : MapOrder

/-- `currentRecordsMap[name]`. -/
def currentRecord (listing : List ResourceRecordSet) (name : String) : Option ResourceRecordSet :=
  (listing.filter (fun r => r.name == name)).getLast?

/-- `deletingRecords`: what the zone has under the names of the status. -/
def deletingRecords (orders : Orders) (statusRecords : List ResourceRecordSet) (zone : Zone) :
    List ResourceRecordSet :=
  (orders.statusRecords.visit (statusRecords.map (·.name)).dedup).filterMap
    (currentRecord (orders.listing.visit zone.entries))

/-- `updateRecord`: `deletingRecords` go, and for an upsert the record sets of the spec are added.
    -/
def updateRecord (parseFloat : ParseFloat) (orders : Orders) (faults : Faults)
    (dnsRecord : DNSRecord) (action : Action) (zone : Zone) : CallResult Zone :=
  match faults.listing with
  | some err => .failed zone err
  | none =>
    match toResourceRecordSets parseFloat orders.statusNames dnsRecord.status.endpoints with
    | .error reason => .panicked reason
    | .ok statusRecords =>
      match toResourceRecordSets parseFloat orders.specNames dnsRecord.spec.endpoints with
      | .error reason => .panicked reason
      | .ok addingRecords =>
        let deletions := deletingRecords orders statusRecords zone
        match action with
        | .delete => submitChange faults.changes { deletions := deletions } zone
        | .upsert =>
          submitChange faults.changes { additions := addingRecords, deletions := deletions } zone

/-- `Ensure`. -/
def ensure (parseFloat : ParseFloat) (orders : Orders) (faults : Faults)
    (record : DNSRecord) (zone : Zone) : CallResult Zone :=
  updateRecord parseFloat orders faults record .upsert zone

/-- `Delete`. -/
def delete (parseFloat : ParseFloat) (orders : Orders) (faults : Faults)
    (record : DNSRecord) (zone : Zone) : CallResult Zone :=
  updateRecord parseFloat orders faults record .delete zone

/-- The provider as the reconciler sees it. -/
def provider (parseFloat : ParseFloat) : Provider Zone (Orders × Faults) where
  ensure call record _ zone := ensure parseFloat call.1 call.2 record zone
  delete call record _ zone := delete parseFloat call.1 call.2 record zone

/-! ## Names of the record sets -/

section
variable {parseFloat : ParseFloat}

theorem addEndpoint_name {weighted geoCode : Bool} {record record' : ResourceRecordSet}
    {ep : Endpoint} (h : addEndpoint parseFloat weighted geoCode record ep = .ok record') :
    record'.name = record.name := by
  unfold addEndpoint at h
  obtain ⟨targets, -, h⟩ := Fallible.bind_eq_ok.1 h
  -- the two steps before the geo policy only touch the data
  have hkept : ∀ r : ResourceRecordSet, r.name = record.name →
      (if weighted then
        match r.routingPolicy with
        | some (.wrr items) =>
          { r with routingPolicy := some (.wrr (items ++ [⟨targets,
              (parseFloat (propertyValue ep providerSpecificWeight)).getD 0⟩])) }
        | _ => r
      else r).name = record.name := by
    intro r hr
    split
    · split <;> exact hr
    · exact hr
  have hdata : (if !weighted && !geoCode then { record with rrdatas := targets } else record).name
      = record.name := by
    split <;> rfl
  have hname := hkept _ hdata
  simp only at h
  split at h
  · split at h
    · cases h
    · split at h
      · cases h
        exact hname
      · split at h
        · cases h
          exact hname
        · cases h
  · cases h
    exact hname

theorem toResourceRecordSet_name {dnsName : String} {endpoints : List Endpoint}
    {r : ResourceRecordSet} (h : toResourceRecordSet parseFloat dnsName endpoints = .ok r) :
    r.name = ensureTrailingDot dnsName := by
  cases endpoints with
  | nil => cases h
  | cons first rest =>
      exact Fallible.foldlM_preserves (p := fun r => r.name = ensureTrailingDot dnsName)
        (fun s ep s' hs hname => (addEndpoint_name hs).trans hname) h rfl

theorem map_name_toResourceRecordSets {order : MapOrder} {es : List Endpoint}
    {rs : List ResourceRecordSet} (h : toResourceRecordSets parseFloat order es = .ok rs) :
    rs.map (·.name) = (order.visit (dnsNames es)).map ensureTrailingDot :=
  Fallible.mapM_map_eq (fun _ _ hr => toResourceRecordSet_name hr) h

/-- The names of the record sets of a list of endpoints. -/
theorem exists_name_iff {order : MapOrder} {es : List Endpoint} {rs : List ResourceRecordSet}
    (h : toResourceRecordSets parseFloat order es = .ok rs) {name : String} :
    (∃ r ∈ rs, r.name = name) ↔ ∃ e ∈ es, ensureTrailingDot e.dnsName = name := by
  have hmem : name ∈ rs.map (·.name) ↔ ∃ e ∈ es, ensureTrailingDot e.dnsName = name := by
    rw [map_name_toResourceRecordSets h]
    simp [order.mem_visit, dnsNames]
  rw [← hmem, List.mem_map]

theorem nodup_map_name {order : MapOrder} {es : List Endpoint} {rs : List ResourceRecordSet}
    (h : toResourceRecordSets parseFloat order es = .ok rs)
    (hinj : ∀ e ∈ es, ∀ e' ∈ es, ensureTrailingDot e.dnsName = ensureTrailingDot e'.dnsName →
      e.dnsName = e'.dnsName) : (rs.map (·.name)).Nodup := by
  rw [map_name_toResourceRecordSets h]
  refine List.Nodup.map_on (fun n hn n' hn' heq => ?_)
    ((order.perm _).nodup_iff.2 (List.nodup_dedup _))
  rw [order.mem_visit, dnsNames, List.mem_dedup, List.mem_map] at hn hn'
  obtain ⟨e, he, rfl⟩ := hn
  obtain ⟨e', he', rfl⟩ := hn'
  exact hinj e he e' he' heq

/-- In another order there are the same record sets. -/
theorem toResourceRecordSets_perm {order : MapOrder} {es : List Endpoint}
    {rs : List ResourceRecordSet} (h : toResourceRecordSets parseFloat order es = .ok rs)
    (order' : MapOrder) : ∃ rs', toResourceRecordSets parseFloat order' es = .ok rs' ∧ rs'.Perm rs :=
  Fallible.mapM_perm ((order.perm _).trans (order'.perm _).symm) h

end

theorem eq_of_trimDot {s name : String} (h : trimDot s ++ "." = name) :
    s = name ∨ s ++ "." = name := by
  unfold trimDot at h
  split at h
  · rename_i hlast
    left
    rw [← h]
    apply String.toList_inj.1
    rw [String.toList_append, String.toList_ofList]
    exact (List.dropLast_append_getLast? '.' hlast).symm
  · exact Or.inr h

theorem eq_of_ensureTrailingDot {s name : String} (h : ensureTrailingDot s = name) :
    s = name ∨ s ++ "." = name := by
  unfold ensureTrailingDot at h
  split at h
  · exact Or.inl h
  · exact eq_of_trimDot h

/-- At most two of several names become equal with the trailing dot. -/
theorem length_filter_ensureTrailingDot {names : List String} (hnodup : names.Nodup)
    (name : String) : (names.filter (fun s => ensureTrailingDot s == name)).length ≤ 2 := by
  have hsub : (names.filter (fun s => ensureTrailingDot s == name)).toFinset
      ⊆ {name, trimDot name} := by
    intro s hs
    rw [List.mem_toFinset, List.mem_filter] at hs
    rcases eq_of_ensureTrailingDot (eq_of_beq hs.2) with rfl | hdot
    · simp
    · have : trimDot name = s := by
        unfold trimDot
        rw [← hdot]
        simp
      simp [this]
  have hcard := Finset.card_le_card hsub
  rw [List.toFinset_card_of_nodup (hnodup.filter _)] at hcard
  exact hcard.trans Finset.card_le_two

/-! ## Batches by name

The batches together hold the requests of the change, name by name; under each key these are in the
order of the change itself. -/

/-- The requests of a list of changes about one key. -/
def requestsAt (cs : List Change) (k : RecordKey) : List (Batch.Change ResourceRecordSet) :=
  (cs.flatMap Change.requests).filter (fun c => c.value.key == k)

theorem requestsAt_append (cs cs' : List Change) (k : RecordKey) :
    requestsAt (cs ++ cs') k = requestsAt cs k ++ requestsAt cs' k := by
  simp [requestsAt]

theorem requestsAt_singleton (c : Change) (k : RecordKey) :
    requestsAt [c] k = (c.deletions.filter (fun r => r.key == k)).map .delete ++
      (c.additions.filter (fun r => r.key == k)).map .create := by
  simp only [requestsAt, List.flatMap_singleton, Change.requests, Batch.replacing,
    List.filter_append, List.filter_map]
  rfl

theorem requestsAt_forName (c : Change) (name : String) (k : RecordKey) :
    requestsAt [c.forName name] k = if k.name = name then requestsAt [c] k else [] := by
  have hfilter : ∀ rs : List ResourceRecordSet,
      (rs.filter (fun r => r.name == name)).filter (fun r => r.key == k)
        = if k.name = name then rs.filter (fun r => r.key == k) else [] := by
    intro rs
    rw [List.filter_filter]
    split
    · rename_i hname
      refine List.filter_congr fun r _ => ?_
      by_cases hk : r.key = k
      · subst hk
        have hr : r.name = name := hname
        simp [hr]
      · simp [hk]
    · rename_i hname
      rw [List.filter_eq_nil_iff]
      intro r _ h
      rw [Bool.and_eq_true, beq_iff_eq, beq_iff_eq] at h
      exact hname (h.1 ▸ h.2)
  rw [requestsAt_singleton, requestsAt_singleton]
  simp only [Change.forName, hfilter]
  split <;> simp

/-- Two changes as one. -/
def Change.append (c c' : Change) : Change where
  additions := c.additions ++ c'.additions
  deletions := c.deletions ++ c'.deletions

theorem requestsAt_append_of_eq_nil {c c' : Change} {k : RecordKey}
    (h : requestsAt [c] k = [] ∨ requestsAt [c'] k = []) :
    requestsAt [c.append c'] k = requestsAt [c] k ++ requestsAt [c'] k := by
  simp only [requestsAt_singleton, Change.append, List.filter_append, List.map_append,
    List.append_eq_nil_iff, List.map_eq_nil_iff] at h ⊢
  rcases h with ⟨hd, ha⟩ | ⟨hd, ha⟩
  · simp [hd, ha]
  · simp [hd, ha]

/-- The requests collected so far: those of the names visited. -/
structure Collected (change : Change) (names : List String) (s : BatchState) : Prop where
  requests : ∀ k, requestsAt (s.changes ++ [s.currentChange]) k
    = if k.name ∈ names then requestsAt [change] k else []
  total : s.totalChanges = s.currentChange.size

theorem Collected.batchStep {change : Change} {batchSize : Nat} {names : List String}
    {s : BatchState} (h : Collected change names s) {name : String} (hname : name ∉ names)
    (hsize : (change.forName name).size ≤ batchSize) :
    Collected change (names ++ [name]) (batchStep change batchSize s name) := by
  unfold Google.batchStep
  rw [if_neg (Nat.not_lt.2 hsize)]
  have hmem : ∀ k : RecordKey, (k.name ∈ names ++ [name]) ↔ k.name ∈ names ∨ k.name = name := by
    simp
  -- under each key only one of the two parts has requests
  have hsplit : ∀ k : RecordKey,
      (if k.name ∈ names ++ [name] then requestsAt [change] k else [])
        = (if k.name ∈ names then requestsAt [change] k else []) ++
          requestsAt [change.forName name] k := by
    intro k
    rw [requestsAt_forName]
    by_cases hk : k.name = name
    · have hnot : k.name ∉ names := hk ▸ hname
      simp [hk, hname]
    · simp [hk]
  by_cases hfull : s.totalChanges + (change.forName name).size > batchSize
  · simp only [if_pos hfull]
    constructor
    · intro k
      have hempty : Change.append {} (change.forName name) = change.forName name := rfl
      rw [hsplit k, ← h.requests k]
      show requestsAt (s.changes ++ [s.currentChange] ++ [Change.append {} (change.forName name)]) k
        = _
      rw [hempty, requestsAt_append]
    · show 0 + (change.forName name).size = (Change.append {} (change.forName name)).size
      rw [Nat.zero_add]
      rfl
  · simp only [if_neg hfull]
    constructor
    · intro k
      rw [hsplit k, ← h.requests k]
      show requestsAt (s.changes ++ [s.currentChange.append (change.forName name)]) k = _
      rw [requestsAt_append, requestsAt_append, List.append_assoc, requestsAt_append_of_eq_nil]
      by_cases hk : k.name = name
      · left
        have hnil := h.requests k
        rw [if_neg (hk ▸ hname), requestsAt_append, List.append_eq_nil_iff] at hnil
        exact hnil.2
      · right
        rw [requestsAt_forName, if_neg hk]
    · show s.totalChanges + (change.forName name).size
        = (s.currentChange.append (change.forName name)).size
      rw [h.total]
      simp only [Change.size, Change.append, List.length_append]
      omega

theorem collected_foldl {change : Change} {batchSize : Nat}
    (hsize : ∀ name, (change.forName name).size ≤ batchSize) {names visited : List String}
    {s : BatchState} (h : Collected change visited s) (hnodup : (visited ++ names).Nodup) :
    Collected change (visited ++ names) (names.foldl (batchStep change batchSize) s) := by
  induction names generalizing visited s with
  | nil => simpa using h
  | cons name rest ih =>
      have hname : name ∉ visited := fun hmem =>
        (List.nodup_append.1 hnodup).2.2 name hmem name List.mem_cons_self rfl
      rw [List.append_cons] at hnodup ⊢
      exact ih (h.batchStep hname (hsize name)) hnodup

theorem mem_names {c : Change} {name : String} :
    name ∈ c.names ↔ (∃ r ∈ c.additions, r.name = name) ∨ ∃ r ∈ c.deletions, r.name = name := by
  unfold Change.names
  rw [List.mem_insertionSort, List.mem_dedup, List.map_append, List.mem_append, List.mem_map,
    List.mem_map]

/-- No request is lost or reordered under its key. -/
theorem requestsAt_batchChange {change : Change} {batchSize : Nat} (hpos : batchSize ≠ 0)
    (hsize : ∀ name, (change.forName name).size ≤ batchSize) (k : RecordKey) :
    requestsAt (batchChange change batchSize) k = requestsAt [change] k := by
  have hnodup : change.names.Nodup :=
    (List.perm_insertionSort _ _).nodup_iff.2 (List.nodup_dedup _)
  have hinit : Collected change [] {} := ⟨fun k => rfl, rfl⟩
  have hall : Collected change change.names
      (change.names.foldl (batchStep change batchSize) {}) := by
    have hfold := collected_foldl hsize hinit (by simpa using hnodup)
    rwa [List.nil_append] at hfold
  have hk : requestsAt [change] k = if k.name ∈ change.names then requestsAt [change] k else [] := by
    split
    · rfl
    · rename_i hnot
      rw [requestsAt_singleton, List.append_eq_nil_iff, List.map_eq_nil_iff, List.map_eq_nil_iff,
        List.filter_eq_nil_iff, List.filter_eq_nil_iff]
      constructor
      · intro r hr heq
        exact hnot (mem_names.2 (Or.inr ⟨r, hr, congrArg RecordKey.name (eq_of_beq heq)⟩))
      · intro r hr heq
        exact hnot (mem_names.2 (Or.inl ⟨r, hr, congrArg RecordKey.name (eq_of_beq heq)⟩))
  rw [hk, ← hall.requests k]
  unfold batchChange
  rw [if_neg hpos]
  simp only
  split
  · rfl
  · -- an empty last batch is left out
    rename_i htotal
    have hzero := Nat.eq_zero_of_not_pos htotal
    rw [hall.total] at hzero
    have hadd : (change.names.foldl (batchStep change batchSize) {}).currentChange.additions = [] :=
      List.eq_nil_of_length_eq_zero (Nat.eq_zero_of_add_eq_zero_right hzero)
    have hdel : (change.names.foldl (batchStep change batchSize) {}).currentChange.deletions = [] :=
      List.eq_nil_of_length_eq_zero (Nat.eq_zero_of_add_eq_zero_left hzero)
    rw [requestsAt_append, requestsAt_singleton, hadd, hdel]
    simp

/-! ## Submitting a change -/

theorem submitBatches_done {cs : List Change} {zone zone' : Zone} :
    submitBatches cs [] zone = .done zone' ↔
      Batch.applyAll (cs.flatMap Change.requests) zone = some zone' := by
  induction cs generalizing zone with
  | nil => simp [submitBatches]
  | cons c rest ih =>
      rw [List.flatMap_cons, Batch.applyAll_append]
      simp only [submitBatches, List.head?_nil, Option.join_none, List.tail_nil]
      cases Batch.applyAll c.requests zone with
      | none => simp
      | some zone₁ => exact ih

/-- Submitting a change without faults is applying it, up to the order of the listing. -/
theorem submitChange_done {change : Change}
    (hsize : ∀ name, (change.forName name).size ≤ googleBatchChangeSize) {zone : Zone} :
    (∀ zone', submitChange [] change zone = .done zone' →
      ∃ zone'', Batch.applyAll change.requests zone = some zone'' ∧ zone''.Same zone') ∧
    (∀ zone', Batch.applyAll change.requests zone = some zone' →
      ∃ zone'', submitChange [] change zone = .done zone'' ∧ zone''.Same zone') := by
  have hat : ∀ k, (change.requests).filter (fun c => c.value.key == k) = requestsAt [change] k := by
    intro k
    simp [requestsAt]
  by_cases hnil : change.additions = [] ∧ change.deletions = []
  · have hreq : change.requests = [] := by simp [Change.requests, Batch.replacing, hnil]
    unfold submitChange
    rw [if_pos hnil, hreq]
    refine ⟨fun zone' h => ?_, fun zone' h => ?_⟩
    · cases h
      exact ⟨zone, rfl, fun _ => rfl⟩
    · cases h
      exact ⟨zone, rfl, fun _ => rfl⟩
  · unfold submitChange
    rw [if_neg hnil]
    have hbatches : ∀ k, requestsAt (batchChange change googleBatchChangeSize) k
        = requestsAt [change] k := requestsAt_batchChange (by decide) hsize
    refine ⟨fun zone' h => ?_, fun zone' h => ?_⟩
    · refine Batch.applyAll_rearranged (fun k => ?_) (submitBatches_done.1 h)
      rw [hat k, ← hbatches k]
      rfl
    · have hkeys : ∀ k, change.requests.filter (fun c => c.value.key == k)
          = ((batchChange change googleBatchChangeSize).flatMap Change.requests).filter
            (fun c => c.value.key == k) := fun k => by
        rw [hat k, ← hbatches k]
        rfl
      obtain ⟨zone'', h'', hsame⟩ := Batch.applyAll_rearranged hkeys h
      exact ⟨zone'', submitBatches_done.2 h'', hsame⟩

/-! ## Faults -/

/-- What is done in spite of faults is done without them. -/
theorem submitBatches_of_done {cs : List Change} {faults : List (Option String)}
    {zone zone' : Zone} (h : submitBatches cs faults zone = .done zone') :
    submitBatches cs [] zone = .done zone' := by
  induction cs generalizing faults zone with
  | nil => exact h
  | cons c rest ih =>
      simp only [submitBatches, List.head?_nil, Option.join_none, List.tail_nil] at h ⊢
      cases hfault : faults.head?.join with
      | some err =>
          rw [hfault] at h
          cases h
      | none =>
          rw [hfault] at h
          cases happly : Batch.applyAll c.requests zone with
          | none =>
              simp only [happly] at h
              cases h
          | some zone₁ =>
              simp only [happly] at h
              exact ih h

/-- What only faults can make fail reports one of them. -/
theorem mem_faults_of_failed {cs : List Change} {faults : List (Option String)}
    {zone zone' zone'' : Zone} {err : String} (h : submitBatches cs faults zone = .failed zone' err)
    (hdone : submitBatches cs [] zone = .done zone'') : some err ∈ faults := by
  induction cs generalizing faults zone with
  | nil => cases h
  | cons c rest ih =>
      simp only [submitBatches, List.head?_nil, Option.join_none, List.tail_nil] at h hdone
      cases happly : Batch.applyAll c.requests zone with
      | none =>
          simp only [happly] at hdone
          cases hdone
      | some zone₁ =>
          simp only [happly] at h hdone
          cases faults with
          | nil => exact ih h hdone
          | cons fault faults =>
              cases fault with
              | none => exact List.mem_cons_of_mem _ (ih h hdone)
              | some err' =>
                  cases h
                  exact List.mem_cons_self

theorem sum_length_filter_name_le {names : List String} (hnodup : names.Nodup)
    (rs : List ResourceRecordSet) :
    (names.map (fun name => (rs.filter (fun r => r.name == name)).length)).sum ≤ rs.length := by
  induction names generalizing rs with
  | nil => exact Nat.zero_le _
  | cons name rest ih =>
      obtain ⟨hnot, hrest⟩ := List.nodup_cons.1 hnodup
      have hothers : rest.map (fun n => (rs.filter (fun r => r.name == n)).length)
          = rest.map (fun n => ((rs.filter (fun r => !(r.name == name))).filter
              (fun r => r.name == n)).length) := by
        refine List.map_congr_left fun n hn => ?_
        rw [List.filter_filter]
        refine congrArg List.length (List.filter_congr fun r _ => ?_)
        by_cases hr : r.name = n
        · have : n ≠ name := fun heq => hnot (heq ▸ hn)
          simp [hr, this]
        · simp [hr]
      rw [List.map_cons, List.sum_cons, hothers]
      have hle := ih hrest (rs.filter (fun r => !(r.name == name)))
      have hsplit := List.length_eq_length_filter_add (l := rs) (fun r => r.name == name)
      omega

theorem sum_size_forName_le {names : List String} (hnodup : names.Nodup) (c : Change) :
    (names.map (fun name => (c.forName name).size)).sum ≤ c.size := by
  have hsum : (names.map (fun name => (c.forName name).size)).sum
      = (names.map (fun name => (c.additions.filter (fun r => r.name == name)).length)).sum +
        (names.map (fun name => (c.deletions.filter (fun r => r.name == name)).length)).sum :=
    List.sum_map_add
  rw [hsum]
  exact Nat.add_le_add (sum_length_filter_name_le hnodup _) (sum_length_filter_name_le hnodup _)

/-- As long as everything fits, no second batch is started. -/
theorem changes_foldl_batchStep {change : Change} {batchSize : Nat} {names : List String}
    {s : BatchState} (hchanges : s.changes = [])
    (hsize : s.totalChanges + (names.map (fun name => (change.forName name).size)).sum
      ≤ batchSize) :
    (names.foldl (batchStep change batchSize) s).changes = [] := by
  induction names generalizing s with
  | nil => exact hchanges
  | cons name rest ih =>
      rw [List.map_cons, List.sum_cons] at hsize
      have hstep : batchStep change batchSize s name
          = { s with
              currentChange := { additions := s.currentChange.additions ++
                                   (change.forName name).additions,
                                 deletions := s.currentChange.deletions ++
                                   (change.forName name).deletions },
              totalChanges := s.totalChanges + (change.forName name).size } := by
        unfold batchStep
        have hfits : ¬ (change.forName name).size > batchSize := by omega
        have hroom : ¬ s.totalChanges + (change.forName name).size > batchSize := by omega
        simp only [if_neg hfits, if_neg hroom]
      rw [List.foldl_cons, hstep]
      refine ih hchanges ?_
      show s.totalChanges + (change.forName name).size + _ ≤ batchSize
      omega

/-- A change that fits in one batch is sent as one. -/
theorem length_batchChange_le {change : Change} {batchSize : Nat} (hsize : change.size ≤ batchSize) :
    (batchChange change batchSize).length ≤ 1 := by
  have hnodup : change.names.Nodup :=
    (List.perm_insertionSort _ _).nodup_iff.2 (List.nodup_dedup _)
  have hone : (change.names.foldl (batchStep change batchSize) {}).changes = [] := by
    refine changes_foldl_batchStep rfl ?_
    show 0 + _ ≤ batchSize
    have hsum := sum_size_forName_le hnodup change
    omega
  unfold batchChange
  split
  · exact le_refl _
  · simp only [hone]
    split <;> simp

theorem submitBatches_failed {cs : List Change} (hlen : cs.length ≤ 1)
    {faults : List (Option String)} {zone zone' : Zone} {err : String}
    (h : submitBatches cs faults zone = .failed zone' err) : zone' = zone := by
  match cs, hlen with
  | [], _ => cases h
  | [c], _ =>
      simp only [submitBatches] at h
      split at h
      · cases h
        rfl
      · split at h
        · cases h
        · cases h
          rfl

/-- A change that fits in one batch is carried out as a whole or not at all. -/
theorem submitChange_failed {change : Change} (hsize : change.size ≤ googleBatchChangeSize)
    {faults : List (Option String)} {zone zone' : Zone} {err : String}
    (h : submitChange faults change zone = .failed zone' err) : zone' = zone := by
  unfold submitChange at h
  split at h
  · cases h
  · exact submitBatches_failed (length_batchChange_le hsize) h

theorem submitChange_of_done {change : Change} {faults : List (Option String)} {zone zone' : Zone}
    (h : submitChange faults change zone = .done zone') :
    submitChange [] change zone = .done zone' := by
  unfold submitChange at h ⊢
  split
  · rename_i hnil
    rw [if_pos hnil] at h
    exact h
  · rename_i hnil
    rw [if_neg hnil] at h
    exact submitBatches_of_done h

theorem ensure_of_done {parseFloat : ParseFloat} {orders : Orders} {faults : Faults}
    {record : DNSRecord} {zone zone' : Zone}
    (h : ensure parseFloat orders faults record zone = .done zone') :
    ensure parseFloat orders {} record zone = .done zone' := by
  unfold ensure updateRecord at h ⊢
  cases hlisting : faults.listing with
  | some err =>
      rw [hlisting] at h
      cases h
  | none =>
      simp only [hlisting] at h ⊢
      cases hstatus : toResourceRecordSets parseFloat orders.statusNames record.status.endpoints with
      | error reason =>
          simp only [hstatus] at h
          cases h
      | ok statusRecords =>
          simp only [hstatus] at h ⊢
          cases hspec : toResourceRecordSets parseFloat orders.specNames record.spec.endpoints with
          | error reason =>
              simp only [hspec] at h
              cases h
          | ok adding =>
              simp only [hspec] at h ⊢
              exact submitChange_of_done h

/-! ## The deletions of a change -/

theorem currentRecord_eq_some {listing : List ResourceRecordSet} {name : String}
    {r : ResourceRecordSet} (h : currentRecord listing name = some r) :
    r ∈ listing ∧ r.name = name := by
  obtain ⟨hr, hname⟩ := List.mem_filter.1 (List.mem_of_getLast? h)
  exact ⟨hr, eq_of_beq hname⟩

theorem exists_currentRecord {listing : List ResourceRecordSet} {r : ResourceRecordSet}
    (hr : r ∈ listing) : ∃ r', currentRecord listing r.name = some r' := by
  cases hlast : currentRecord listing r.name with
  | some r' => exact ⟨r', rfl⟩
  | none =>
      unfold currentRecord at hlast
      rw [List.getLast?_eq_none_iff, List.filter_eq_nil_iff] at hlast
      exact absurd (beq_self_eq_true _) (hlast r hr)

section
variable {orders : Orders} {statusRecords : List ResourceRecordSet} {zone : Zone}

theorem mem_deletingRecords {d : ResourceRecordSet} :
    d ∈ deletingRecords orders statusRecords zone ↔
      (∃ r ∈ statusRecords, r.name = d.name) ∧
        currentRecord (orders.listing.visit zone.entries) d.name = some d := by
  unfold deletingRecords
  rw [List.mem_filterMap]
  constructor
  · rintro ⟨name, hname, hd⟩
    rw [orders.statusRecords.mem_visit, List.mem_dedup, List.mem_map] at hname
    obtain ⟨r, hr, rfl⟩ := hname
    have hdname := (currentRecord_eq_some hd).2
    exact ⟨⟨r, hr, hdname.symm⟩, hdname ▸ hd⟩
  · rintro ⟨⟨r, hr, hname⟩, hd⟩
    refine ⟨d.name, ?_, hd⟩
    rw [orders.statusRecords.mem_visit, List.mem_dedup, List.mem_map]
    exact ⟨r, hr, hname⟩

theorem get_of_mem_deletingRecords {d : ResourceRecordSet}
    (hd : d ∈ deletingRecords orders statusRecords zone) : zone.get d.key = some d := by
  have hmem := (currentRecord_eq_some (mem_deletingRecords.1 hd).2).1
  exact Batch.Store.mem_entries.1 (orders.listing.mem_visit.1 hmem)

/-- One record set is deleted under each name of the status that the zone has. -/
theorem exists_mem_deletingRecords {x : ResourceRecordSet} (hx : x ∈ zone.entries)
    (hname : ∃ r ∈ statusRecords, r.name = x.name) :
    ∃ d ∈ deletingRecords orders statusRecords zone, d.name = x.name := by
  obtain ⟨d, hd⟩ := exists_currentRecord (orders.listing.mem_visit.2 hx)
  have hdname := (currentRecord_eq_some hd).2
  exact ⟨d, mem_deletingRecords.2 ⟨hdname ▸ hname, hdname ▸ hd⟩, hdname⟩

theorem eq_of_mem_deletingRecords {d d' : ResourceRecordSet}
    (hd : d ∈ deletingRecords orders statusRecords zone)
    (hd' : d' ∈ deletingRecords orders statusRecords zone) (h : d.name = d'.name) : d = d' := by
  have h₁ := (mem_deletingRecords.1 hd).2
  rw [h, (mem_deletingRecords.1 hd').2] at h₁
  exact (Option.some.inj h₁).symm

theorem nodup_map_name_deletingRecords :
    ((deletingRecords orders statusRecords zone).map (·.name)).Nodup := by
  have hnames : (orders.statusRecords.visit (statusRecords.map (·.name)).dedup).Nodup :=
    (orders.statusRecords.perm _).nodup_iff.2 (List.nodup_dedup _)
  have hsub : ∀ names : List String,
      ((names.filterMap (currentRecord (orders.listing.visit zone.entries))).map (·.name)).Sublist
        names := by
    intro names
    induction names with
    | nil => exact List.Sublist.refl _
    | cons name rest ih =>
        cases hcur : currentRecord (orders.listing.visit zone.entries) name with
        | none =>
            rw [List.filterMap_cons_none hcur]
            exact ih.cons name
        | some r =>
            rw [List.filterMap_cons_some hcur, List.map_cons, (currentRecord_eq_some hcur).2]
            exact ih.cons_cons name
  exact hnames.sublist (hsub _)

theorem nodup_map_key_deletingRecords :
    ((deletingRecords orders statusRecords zone).map ResourceRecordSet.key).Nodup := by
  rw [List.Nodup, List.pairwise_map]
  refine (List.pairwise_map.1 nodup_map_name_deletingRecords).imp fun hne hkey => hne ?_
  exact congrArg RecordKey.name hkey

end

/-- After deletions and additions: what is in the zone was added, or was there before and is
    neither deleted nor added. -/
theorem mem_entries_of_replacing {orders : Orders} {statusRecords adding : List ResourceRecordSet}
    {zone zone₁ : Zone}
    (h : ∃ z, Batch.applyAll (Batch.replacing (deletingRecords orders statusRecords zone) adding) zone
      = some z ∧ z.Same zone₁) {x : ResourceRecordSet} :
    x ∈ zone₁.entries ↔ x ∈ adding ∨
      (x ∈ zone.entries ∧ x.key ∉ adding.map ResourceRecordSet.key ∧
        x ∉ deletingRecords orders statusRecords zone) := by
  obtain ⟨z, hz, hsame⟩ := h
  obtain ⟨hin, hgone, hframe⟩ := Batch.get_replacing hz
  rw [Batch.Store.mem_entries, ← hsame]
  have hdel : ∀ d ∈ deletingRecords orders statusRecords zone, ∀ y ∈ zone.entries,
      d.key = y.key → d = y := fun d hd y hy hkey => by
    have hget := get_of_mem_deletingRecords hd
    rw [hkey, Batch.Store.mem_entries.1 hy] at hget
    exact (Option.some.inj hget).symm
  constructor
  · intro hx
    by_cases hkey : x.key ∈ adding.map ResourceRecordSet.key
    · left
      obtain ⟨a, ha, hak⟩ := List.mem_map.1 hkey
      rw [← hak, hin a ha] at hx
      rw [← Option.some.inj hx]
      exact ha
    · right
      have hnot : x.key ∉ (deletingRecords orders statusRecords zone).map ResourceRecordSet.key := by
        intro hmem
        obtain ⟨d, hd, hdk⟩ := List.mem_map.1 hmem
        rw [← hdk, hgone d hd (hdk ▸ hkey)] at hx
        cases hx
      refine ⟨?_, hkey, fun hmem => hnot (List.mem_map.2 ⟨x, hmem, rfl⟩)⟩
      rw [Batch.Store.mem_entries, ← hframe x.key hkey hnot]
      exact hx
  · rintro (hx | ⟨hx, hkey, hnot⟩)
    · exact hin x hx
    · rw [hframe x.key hkey, Batch.Store.mem_entries.1 hx]
      intro hmem
      obtain ⟨d, hd, hdk⟩ := List.mem_map.1 hmem
      exact hnot (hdel d hd x hx hdk ▸ hd)

theorem length_toResourceRecordSets {parseFloat : ParseFloat} {order : MapOrder}
    {es : List Endpoint} {rs : List ResourceRecordSet}
    (h : toResourceRecordSets parseFloat order es = .ok rs) : rs.length = (dnsNames es).length := by
  have hlen := congrArg List.length (map_name_toResourceRecordSets h)
  rw [List.length_map, List.length_map, (order.perm _).length_eq] at hlen
  exact hlen

theorem length_deletingRecords_le (orders : Orders) (statusRecords : List ResourceRecordSet)
    (zone : Zone) : (deletingRecords orders statusRecords zone).length ≤ statusRecords.length := by
  calc (deletingRecords orders statusRecords zone).length
      ≤ (orders.statusRecords.visit (statusRecords.map (·.name)).dedup).length :=
        List.length_filterMap_le _ _
    _ = (statusRecords.map (·.name)).dedup.length := (orders.statusRecords.perm _).length_eq
    _ ≤ (statusRecords.map (·.name)).length := (List.dedup_sublist _).length_le
    _ = statusRecords.length := List.length_map _

/-- A change of the provider has at most three requests under one name. -/
theorem size_forName_le {parseFloat : ParseFloat} {orders : Orders} {order : MapOrder}
    {statusRecords adding : List ResourceRecordSet} {zone : Zone} {es : List Endpoint}
    (hadding : adding = [] ∨ toResourceRecordSets parseFloat order es = .ok adding) (name : String) :
    (Change.forName ⟨adding, deletingRecords orders statusRecords zone⟩ name).size
      ≤ googleBatchChangeSize := by
  have hadd : (adding.filter (fun r => r.name == name)).length ≤ 2 := by
    rcases hadding with rfl | hadding
    · simp
    · have hlen : (adding.filter (fun r => r.name == name)).length
          = ((adding.map (·.name)).filter (fun s => s == name)).length := by
        rw [List.filter_map, List.length_map]
        rfl
      rw [hlen, map_name_toResourceRecordSets hadding, List.filter_map, List.length_map]
      exact length_filter_ensureTrailingDot
        ((order.perm _).nodup_iff.2 (List.nodup_dedup _)) name
  have hdel : ((deletingRecords orders statusRecords zone).filter
      (fun r => r.name == name)).length ≤ 1 := by
    have hlen : ((deletingRecords orders statusRecords zone).filter
        (fun r => r.name == name)).length
        = ((deletingRecords orders statusRecords zone).map (·.name)).count name := by
      rw [List.count_eq_countP, List.countP_map, List.countP_eq_length_filter]
      rfl
    rw [hlen]
    exact List.nodup_iff_count_le_one.1 nodup_map_name_deletingRecords name
  show (adding.filter (fun r => r.name == name)).length +
    ((deletingRecords orders statusRecords zone).filter (fun r => r.name == name)).length ≤ 1000
  omega

end MultiClusterGateway.Google
