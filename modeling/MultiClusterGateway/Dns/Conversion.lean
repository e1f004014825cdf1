import MultiClusterGateway.Dns.Google

set_option autoImplicit false

/-! # What the Cloud DNS record sets keep of the endpoints

`toResourceRecordSets` reads the kind of a record set off the first endpoint of a name, overwrites
plain data and drops some endpoints for clients of any geo. Nothing is lost if the endpoints of each
name are of one kind (`Convertible`): then each name has one record set, with all its targets
(`Lossless`).

The conversion is a loop over the endpoints of each name with an accumulator, and a record set has
one routing policy at most. The first endpoint decides between plain data, weights and geo codes,
and the later ones are then added as if they were of that kind. `Represents` says of one name that
its record set has every target of its endpoints, with their weights or locations, and is proved by
induction along that loop. -/

namespace MultiClusterGateway.Google

/-- The items of a weighted set. -/
def ResourceRecordSet.wrrItems (r : ResourceRecordSet) : List WrrPolicyItem :=
  match r.routingPolicy with
  | some (.wrr items) => items
  | _ => []

/-- The items of a geo set. -/
def ResourceRecordSet.geoItems (r : ResourceRecordSet) : List GeoPolicyItem :=
  match r.routingPolicy with
  | some (.geo items) => items
  | _ => []

/-- All data of the record set, plain or under a routing policy. -/
def ResourceRecordSet.targets (r : ResourceRecordSet) : List String :=
  r.rrdatas ++ (r.wrrItems.flatMap (·.rrdatas) ++ r.geoItems.flatMap (·.rrdatas))

/-- The endpoint has a weight. -/
def isWeighted (e : Endpoint) : Bool :=
  (e.getProviderSpecificProperty providerSpecificWeight).isSome

/-- The endpoint has a geo code. -/
def isGeoLocated (e : Endpoint) : Bool :=
  (e.getProviderSpecificProperty providerSpecificGeoCode).isSome

/-- The targets of an endpoint that has some, as they are sent. -/
def dottedTargets (e : Endpoint) : List String :=
  if e.recordType = .CNAME then
    match e.targets with
    | [] => []
    | target :: rest => ensureTrailingDot target :: rest
  else e.targets

/-- The endpoint is for clients of any geo and does not lead to the default group. -/
def isDropped (e : Endpoint) : Bool :=
  propertyValue e providerSpecificGeoCode == "*" &&
    e.targets.head?.all (fun target => !Text.hasPrefix target GeoCode.defaultGeo)

/-- The item that is made of a weighted endpoint; a weight that does not parse is zero. -/
def wrrItem (parseFloat : ParseFloat) (e : Endpoint) : WrrPolicyItem :=
  ⟨dottedTargets e, (parseFloat (propertyValue e providerSpecificWeight)).getD 0⟩

/-- The item that is made of a geo endpoint; the code `*` stands for the default location. -/
def geoItem (e : Endpoint) : GeoPolicyItem :=
  let code := propertyValue e providerSpecificGeoCode
  ⟨if code = "*" then defaultGeo else code, dottedTargets e⟩

/-- The record sets have everything that the endpoints have. -/
structure Lossless (parseFloat : ParseFloat) (es : List Endpoint) (rs : List ResourceRecordSet) :
    Prop where
  /-- one record set for each name -/
  names : (rs.map (·.name)).Perm ((dnsNames es).map ensureTrailingDot)
  distinct : (rs.map (·.name)).Nodup
  kind : ∀ r ∈ rs, ∀ e ∈ es, r.name = ensureTrailingDot e.dnsName →
    r.type = e.recordType ∧ r.ttl = e.recordTTL
  nonempty : ∀ r ∈ rs, r.targets ≠ []
  pairs : ∀ name target, (∃ r ∈ rs, trimDot r.name = name ∧ target ∈ r.targets.map trimDot) ↔
    ∃ e ∈ es, trimDot e.dnsName = name ∧ target ∈ e.targets.map trimDot
  /-- every weighted endpoint is an item with its own weight -/
  weighted : ∀ r ∈ rs, r.wrrItems = (es.filter (fun e =>
    ensureTrailingDot e.dnsName == r.name && isWeighted e)).map (wrrItem parseFloat)

/-- The endpoints of each name are of one kind. -/
structure Convertible (es : List Endpoint) : Prop where
  targets_ne : ∀ e ∈ es, e.targets ≠ []
  same : ∀ e ∈ es, ∀ e' ∈ es, e.dnsName = e'.dnsName → e.recordType = e'.recordType ∧
    e.recordTTL = e'.recordTTL ∧ isWeighted e = isWeighted e' ∧ isGeoLocated e = isGeoLocated e'
  one_policy : ∀ e ∈ es, isWeighted e = true → isGeoLocated e = false
  /-- plain data is there once -/
  plain : ∀ e ∈ es, isWeighted e = false → isGeoLocated e = false →
    ∀ e' ∈ es, e.dnsName = e'.dnsName → e.targets = e'.targets
  /-- what is dropped is there in another endpoint -/
  dropped : ∀ e ∈ es, isDropped e = true →
    ∃ e' ∈ es, e'.dnsName = e.dnsName ∧ isDropped e' = false ∧ e'.targets = e.targets
  names : ∀ e ∈ es, ∀ e' ∈ es, ensureTrailingDot e.dnsName = ensureTrailingDot e'.dnsName →
    e.dnsName = e'.dnsName

/-! ## Dots -/

theorem trimDot_append_dot (s : String) : trimDot (s ++ ".") = s := by
  unfold trimDot
  simp

theorem trimDot_ensureTrailingDot (s : String) : trimDot (ensureTrailingDot s) = trimDot s := by
  unfold ensureTrailingDot
  split
  · rfl
  · exact trimDot_append_dot _

theorem map_trimDot_dottedTargets (e : Endpoint) :
    (dottedTargets e).map trimDot = e.targets.map trimDot := by
  unfold dottedTargets
  split
  · cases e.targets with
    | nil => rfl
    | cons target rest => rw [List.map_cons, List.map_cons, trimDot_ensureTrailingDot]
  · rfl

theorem dottedTargets_ne_nil {e : Endpoint} (h : e.targets ≠ []) : dottedTargets e ≠ [] := by
  intro hnil
  have := congrArg (List.map trimDot) hnil
  rw [map_trimDot_dottedTargets] at this
  exact h (List.map_eq_nil_iff.1 this)

theorem targetsOf_eq {e : Endpoint} (h : e.targets ≠ []) : targetsOf e = .ok (dottedTargets e) := by
  unfold targetsOf dottedTargets
  split
  · cases htargets : e.targets with
    | nil => exact absurd htargets h
    | cons target rest => rfl
  · rfl

/-! ## The loop over the endpoints of a name -/

section
variable {parseFloat : ParseFloat} {record : ResourceRecordSet} {es : List Endpoint}

theorem foldlM_weighted {items : List WrrPolicyItem}
    (hrecord : record.routingPolicy = some (.wrr items)) (hes : ∀ e ∈ es, e.targets ≠ []) :
    es.foldlM (addEndpoint parseFloat true false) record
      = .ok { record with
        routingPolicy := some (.wrr (items ++ es.map (wrrItem parseFloat))) } := by
  induction es generalizing record items with
  | nil =>
      rw [List.map_nil, List.append_nil, ← hrecord]
      rfl
  | cons e rest ih =>
      have hstep : addEndpoint parseFloat true false record e
          = .ok { record with
            routingPolicy := some (.wrr (items ++ [wrrItem parseFloat e])) } := by
        unfold addEndpoint
        rw [targetsOf_eq (hes e List.mem_cons_self)]
        show Except.ok (match record.routingPolicy with
          | some (.wrr items) => _
          | _ => _) = _
        rw [hrecord]
        rfl
      rw [List.foldlM_cons, hstep]
      refine (ih rfl fun e' he' => hes e' (List.mem_cons_of_mem e he')).trans ?_
      rw [List.map_cons, List.append_assoc]
      rfl

theorem foldlM_geo {items : List GeoPolicyItem}
    (hrecord : record.routingPolicy = some (.geo items)) (hes : ∀ e ∈ es, e.targets ≠ []) :
    es.foldlM (addEndpoint parseFloat false true) record
      = .ok { record with
        routingPolicy := some (.geo (items ++ (es.filter (fun e => !isDropped e)).map geoItem)) } := by
  induction es generalizing record items with
  | nil =>
      rw [List.filter_nil, List.map_nil, List.append_nil, ← hrecord]
      rfl
  | cons e rest ih =>
      have hne := hes e List.mem_cons_self
      have hrest := fun e' he' => hes e' (List.mem_cons_of_mem e he')
      have hstep : addEndpoint parseFloat false true record e
          = .ok (if isDropped e then record else { record with
            routingPolicy := some (.geo (items ++ [geoItem e])) }) := by
        obtain ⟨target, others, htargets⟩ := List.exists_cons_of_ne_nil hne
        unfold addEndpoint
        rw [targetsOf_eq hne]
        show (match e.targets with
          | [] => _
          | target :: _ => _ : Except String ResourceRecordSet) = _
        unfold isDropped geoItem
        rw [htargets, List.head?_cons]
        by_cases hcode : propertyValue e providerSpecificGeoCode = "*"
        · cases hdefault : Text.hasPrefix target GeoCode.defaultGeo with
          | false => simp [hcode, hdefault]
          | true => simp [hcode, hdefault, hrecord]
        · simp [hcode, hrecord]
      rw [List.foldlM_cons, hstep]
      cases hdropped : isDropped e with
      | true =>
          rw [List.filter_cons_of_neg (by simp [hdropped])]
          exact ih hrecord hrest
      | false =>
          rw [List.filter_cons_of_pos (by simp [hdropped])]
          refine (ih rfl hrest).trans ?_
          rw [List.map_cons, List.append_assoc]
          rfl

theorem foldlM_plain {data : List String} (hes : ∀ e ∈ es, e.targets ≠ [])
    (hdata : ∀ e ∈ es, dottedTargets e = data) (hrecord : es = [] → record.rrdatas = data) :
    es.foldlM (addEndpoint parseFloat false false) record = .ok { record with rrdatas := data } := by
  induction es generalizing record with
  | nil =>
      rw [← hrecord rfl]
      rfl
  | cons e rest ih =>
      have hstep : addEndpoint parseFloat false false record e
          = .ok { record with rrdatas := data } := by
        unfold addEndpoint
        rw [targetsOf_eq (hes e List.mem_cons_self), hdata e List.mem_cons_self]
        rfl
      rw [List.foldlM_cons, hstep]
      exact ih (fun e' he' => hes e' (List.mem_cons_of_mem e he'))
        (fun e' he' => hdata e' (List.mem_cons_of_mem e he')) fun _ => rfl

/-! ## One name -/

/-- The record set has everything of the endpoints of one name. -/
structure Represents (parseFloat : ParseFloat) (group : List Endpoint) (r : ResourceRecordSet) :
    Prop where
  kind : ∀ e ∈ group, r.type = e.recordType ∧ r.ttl = e.recordTTL
  nonempty : r.targets ≠ []
  targets : ∀ target, target ∈ r.targets.map trimDot ↔
    ∃ e ∈ group, target ∈ e.targets.map trimDot
  weighted : r.wrrItems = (group.filter isWeighted).map (wrrItem parseFloat)

theorem mem_map_trimDot_flatMap {target : String} {group : List Endpoint} :
    target ∈ (group.flatMap dottedTargets).map trimDot ↔
      ∃ e ∈ group, target ∈ e.targets.map trimDot := by
  rw [List.map_flatMap, List.mem_flatMap]
  simp only [map_trimDot_dottedTargets]

theorem flatMap_dottedTargets_ne_nil {group : List Endpoint} {e : Endpoint} (he : e ∈ group)
    (hne : e.targets ≠ []) : group.flatMap dottedTargets ≠ [] :=
  fun h => dottedTargets_ne_nil hne (List.flatMap_eq_nil_iff.1 h e he)

/-- The record set of a name before the loop over its endpoints. -/
def emptyRecord (dnsName : String) (first : Endpoint) (policy : Option RoutingPolicy) :
    ResourceRecordSet where
  name := ensureTrailingDot dnsName
  ttl := first.recordTTL
  type := first.recordType
  routingPolicy := policy

/-- The first endpoint of a name decides on the kind of record set. -/
theorem toResourceRecordSet_cons (dnsName : String) (first : Endpoint) (rest : List Endpoint) :
    toResourceRecordSet parseFloat dnsName (first :: rest)
      = (first :: rest).foldlM (addEndpoint parseFloat (isWeighted first) (isGeoLocated first))
        (emptyRecord dnsName first (if isWeighted first then some (.wrr [])
          else if isGeoLocated first then some (.geo []) else none)) := rfl

section
variable {dnsName : String} {first : Endpoint} {rest : List Endpoint}
  (h : Convertible (first :: rest)) (hname : ∀ e ∈ first :: rest, e.dnsName = first.dnsName)
include h hname

theorem Convertible.same_first {e : Endpoint} (he : e ∈ first :: rest) :
    first.recordType = e.recordType ∧ first.recordTTL = e.recordTTL ∧
      isWeighted first = isWeighted e ∧ isGeoLocated first = isGeoLocated e :=
  h.same first List.mem_cons_self e he (hname e he).symm

theorem represents_weighted (hweighted : isWeighted first = true) :
    ∃ r, toResourceRecordSet parseFloat dnsName (first :: rest) = .ok r ∧
      Represents parseFloat (first :: rest) r := by
  have hall : (first :: rest).filter isWeighted = first :: rest :=
    List.filter_eq_self.2 fun e he => (h.same_first hname he).2.2.1 ▸ hweighted
  let r := emptyRecord dnsName first
    (some (.wrr ([] ++ (first :: rest).map (wrrItem parseFloat))))
  have htargets : r.targets = (first :: rest).flatMap dottedTargets := by
    show [] ++ (List.flatMap _ ([] ++ (first :: rest).map (wrrItem parseFloat)) ++ []) = _
    rw [List.nil_append, List.nil_append, List.append_nil, List.flatMap_map]
    rfl
  refine ⟨r, ?_, fun e he => ?_, ?_, fun target => ?_, ?_⟩
  · rw [toResourceRecordSet_cons, hweighted, h.one_policy first List.mem_cons_self hweighted]
    exact foldlM_weighted rfl h.targets_ne
  · exact ⟨(h.same_first hname he).1, (h.same_first hname he).2.1⟩
  · rw [htargets]
    exact flatMap_dottedTargets_ne_nil List.mem_cons_self (h.targets_ne first List.mem_cons_self)
  · rw [htargets]
    exact mem_map_trimDot_flatMap
  · rw [hall]
    rfl

theorem filter_isWeighted_eq_nil (hweighted : isWeighted first = false) :
    (first :: rest).filter isWeighted = [] := by
  rw [List.filter_eq_nil_iff]
  intro e he
  rw [← (h.same_first hname he).2.2.1, hweighted]
  exact Bool.false_ne_true

theorem represents_geo (hweighted : isWeighted first = false) (hgeo : isGeoLocated first = true) :
    ∃ r, toResourceRecordSet parseFloat dnsName (first :: rest) = .ok r ∧
      Represents parseFloat (first :: rest) r := by
  let kept := (first :: rest).filter (fun e => !isDropped e)
  -- every target is that of an endpoint that is not dropped
  have hkept (e : Endpoint) (he : e ∈ first :: rest) : ∃ e' ∈ kept, e'.targets = e.targets := by
    cases hdropped : isDropped e with
    | true =>
        obtain ⟨e', he', -, hstays, htargets⟩ := h.dropped e he hdropped
        exact ⟨e', List.mem_filter.2 ⟨he', by simp [hstays]⟩, htargets⟩
    | false => exact ⟨e, List.mem_filter.2 ⟨he, by simp [hdropped]⟩, rfl⟩
  let r := emptyRecord dnsName first (some (.geo ([] ++ kept.map geoItem)))
  have htargets : r.targets = kept.flatMap dottedTargets := by
    show [] ++ ([] ++ List.flatMap _ ([] ++ List.map geoItem kept)) = _
    rw [List.nil_append, List.nil_append, List.nil_append, List.flatMap_map]
    rfl
  refine ⟨r, ?_, fun e he => ?_, ?_, fun target => ?_, ?_⟩
  · rw [toResourceRecordSet_cons, hweighted, hgeo]
    exact foldlM_geo rfl h.targets_ne
  · exact ⟨(h.same_first hname he).1, (h.same_first hname he).2.1⟩
  · obtain ⟨e', he', heq⟩ := hkept first List.mem_cons_self
    rw [htargets]
    exact flatMap_dottedTargets_ne_nil he' (heq ▸ h.targets_ne first List.mem_cons_self)
  · rw [htargets, mem_map_trimDot_flatMap]
    constructor
    · rintro ⟨e, he, htarget⟩
      exact ⟨e, (List.mem_filter.1 he).1, htarget⟩
    · rintro ⟨e, he, htarget⟩
      obtain ⟨e', he', heq⟩ := hkept e he
      exact ⟨e', he', heq ▸ htarget⟩
  · rw [filter_isWeighted_eq_nil h hname hweighted]
    rfl

theorem represents_plain (hweighted : isWeighted first = false) (hgeo : isGeoLocated first = false) :
    ∃ r, toResourceRecordSet parseFloat dnsName (first :: rest) = .ok r ∧
      Represents parseFloat (first :: rest) r := by
  have hdata (e : Endpoint) (he : e ∈ first :: rest) : dottedTargets e = dottedTargets first := by
    have htargets := h.plain first List.mem_cons_self hweighted hgeo e he (hname e he).symm
    unfold dottedTargets
    rw [← htargets, ← (h.same_first hname he).1]
  let r : ResourceRecordSet := { emptyRecord dnsName first none with rrdatas := dottedTargets first }
  have htargets : r.targets = dottedTargets first := List.append_nil _
  refine ⟨r, ?_, fun e he => ?_, ?_, fun target => ?_, ?_⟩
  · rw [toResourceRecordSet_cons, hweighted, hgeo]
    exact foldlM_plain h.targets_ne hdata fun hnil => nomatch hnil
  · exact ⟨(h.same_first hname he).1, (h.same_first hname he).2.1⟩
  · rw [htargets]
    exact dottedTargets_ne_nil (h.targets_ne first List.mem_cons_self)
  · rw [htargets]
    constructor
    · intro htarget
      exact ⟨first, List.mem_cons_self, map_trimDot_dottedTargets first ▸ htarget⟩
    · rintro ⟨e, he, htarget⟩
      rw [← hdata e he, map_trimDot_dottedTargets]
      exact htarget
  · rw [filter_isWeighted_eq_nil h hname hweighted]
    rfl

end

theorem represents_of_convertible {dnsName : String} {group : List Endpoint} (hne : group ≠ [])
    (h : Convertible group) (hname : ∀ e ∈ group, e.dnsName = dnsName) :
    ∃ r, toResourceRecordSet parseFloat dnsName group = .ok r ∧
      Represents parseFloat group r := by
  obtain ⟨first, rest, rfl⟩ := List.exists_cons_of_ne_nil hne
  have hfirst (e : Endpoint) (he : e ∈ first :: rest) : e.dnsName = first.dnsName :=
    (hname e he).trans (hname first List.mem_cons_self).symm
  cases hweighted : isWeighted first with
  | true => exact represents_weighted h hfirst hweighted
  | false =>
      cases hgeo : isGeoLocated first with
      | true => exact represents_geo h hfirst hweighted hgeo
      | false => exact represents_plain h hfirst hweighted hgeo

/-! ## All names -/

/-- The endpoints of one name. -/
def named (es : List Endpoint) (dnsName : String) : List Endpoint :=
  es.filter (fun e => e.dnsName == dnsName)

theorem mem_named {dnsName : String} {e : Endpoint} :
    e ∈ named es dnsName ↔ e ∈ es ∧ e.dnsName = dnsName := by
  simp [named]

theorem Convertible.named (h : Convertible es) (dnsName : String) :
    Convertible (Google.named es dnsName) where
  targets_ne e he := h.targets_ne e (mem_named.1 he).1
  same e he e' he' := h.same e (mem_named.1 he).1 e' (mem_named.1 he').1
  one_policy e he := h.one_policy e (mem_named.1 he).1
  plain e he hweighted hgeo e' he' :=
    h.plain e (mem_named.1 he).1 hweighted hgeo e' (mem_named.1 he').1
  dropped e he hdropped := by
    obtain ⟨hmem, hname⟩ := mem_named.1 he
    obtain ⟨e', he', hsame, hstays, htargets⟩ := h.dropped e hmem hdropped
    exact ⟨e', mem_named.2 ⟨he', hsame.trans hname⟩, hsame, hstays, htargets⟩
  names e he e' he' := h.names e (mem_named.1 he).1 e' (mem_named.1 he').1

theorem mem_dnsNames {dnsName : String} : dnsName ∈ dnsNames es ↔ ∃ e ∈ es, e.dnsName = dnsName := by
  simp [dnsNames]

/-- Endpoints of one kind for each name lose nothing. -/
theorem lossless_of_convertible (parseFloat : ParseFloat) (order : MapOrder)
    (h : Convertible es) :
    ∃ rs, toResourceRecordSets parseFloat order es = .ok rs ∧ Lossless parseFloat es rs := by
  have hgroup (dnsName : String) (hname : dnsName ∈ dnsNames es) :
      ∃ r, toResourceRecordSet parseFloat dnsName (named es dnsName) = .ok r ∧
        Represents parseFloat (named es dnsName) r := by
    obtain ⟨e, he, hdns⟩ := mem_dnsNames.1 hname
    exact represents_of_convertible (List.ne_nil_of_mem (mem_named.2 ⟨he, hdns⟩)) (h.named dnsName)
      fun e he => (mem_named.1 he).2
  obtain ⟨rs, hrs⟩ : ∃ rs, toResourceRecordSets parseFloat order es = .ok rs :=
    Fallible.exists_mapM_eq_ok fun dnsName hname =>
      (hgroup dnsName (order.mem_visit.1 hname)).imp fun _ hr => hr.1
  -- the record sets are those of the names
  have hmem {r : ResourceRecordSet} (hr : r ∈ rs) : ∃ e ∈ es,
      r.name = ensureTrailingDot e.dnsName ∧ Represents parseFloat (named es e.dnsName) r := by
    obtain ⟨dnsName, hname, hr⟩ := (Fallible.mem_mapM_iff hrs).1 hr
    obtain ⟨r', hr', hrep⟩ := hgroup dnsName (order.mem_visit.1 hname)
    obtain ⟨e, he, rfl⟩ := mem_dnsNames.1 (order.mem_visit.1 hname)
    cases hr'.symm.trans hr
    exact ⟨e, he, toResourceRecordSet_name hr, hrep⟩
  refine ⟨rs, hrs, ?_, nodup_map_name hrs h.names, ?_, ?_, ?_, ?_⟩
  · rw [map_name_toResourceRecordSets hrs]
    exact (order.perm _).map _
  · intro r hr e he hname
    obtain ⟨e', he', hname', hrep⟩ := hmem hr
    have hsame := h.names e he e' he' (hname.symm.trans hname')
    exact hrep.kind e (mem_named.2 ⟨he, hsame⟩)
  · intro r hr
    obtain ⟨e', he', -, hrep⟩ := hmem hr
    exact hrep.nonempty
  · intro name target
    constructor
    · rintro ⟨r, hr, rfl, htarget⟩
      obtain ⟨e', he', hname', hrep⟩ := hmem hr
      obtain ⟨e, he, htarget⟩ := (hrep.targets target).1 htarget
      obtain ⟨he, hsame⟩ := mem_named.1 he
      refine ⟨e, he, ?_, htarget⟩
      rw [hname', trimDot_ensureTrailingDot, hsame]
    · rintro ⟨e, he, rfl, htarget⟩
      have hname : e.dnsName ∈ dnsNames es := mem_dnsNames.2 ⟨e, he, rfl⟩
      obtain ⟨r, hr, hrep⟩ := hgroup e.dnsName hname
      refine ⟨r, (Fallible.mem_mapM_iff hrs).2 ⟨e.dnsName, order.mem_visit.2 hname, hr⟩, ?_,
        (hrep.targets target).2 ⟨e, mem_named.2 ⟨he, rfl⟩, htarget⟩⟩
      rw [toResourceRecordSet_name hr, trimDot_ensureTrailingDot]
  · intro r hr
    obtain ⟨e', he', hname', hrep⟩ := hmem hr
    rw [hrep.weighted, named, List.filter_filter]
    congr 1
    refine List.filter_congr fun e he => ?_
    have hbeq : (e.dnsName == e'.dnsName) = (ensureTrailingDot e.dnsName == r.name) := by
      by_cases hsame : e.dnsName = e'.dnsName
      · rw [hsame, hname', beq_self_eq_true, beq_self_eq_true]
      · rw [beq_false_of_ne hsame, beq_false_of_ne]
        exact fun hdot => hsame (h.names e he e' he' (hdot.trans hname'))
    rw [hbeq, Bool.and_comm]

end

end MultiClusterGateway.Google
