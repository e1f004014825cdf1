import MultiClusterGateway.Dns.Agreement
import MultiClusterGateway.Dns.Conversion
import MultiClusterGateway.DnsPolicy.CatchAll
import MultiClusterGateway.DnsPolicy.History
import MultiClusterGateway.DnsPolicy.Resolution

set_option autoImplicit false

/-! # Cloud DNS and the endpoints of `setEndpoints`

The endpoints that calls of `setEndpoints` leave in a record are of one kind for each name, as long
as no geo code is the short code of a cluster once it is lower-cased. The kind of an endpoint is that
of its id: its dots tell the names of the tree apart, so that an endpoint is only reused for the same
purpose and has no property of another one (`Tidy`). -/

namespace MultiClusterGateway

/-! ## Ids of a tree -/

namespace Shape

/-- The label has no dot, and neither has what follows the lb name itself. -/
def Plain : Shape → Prop
  | .host => True
  | .lb id => Text.DotFree id
  | .labelled label _ => Text.DotFree label

/-- The DNS name of an endpoint whose id has the shape. -/
def name (lb host : String) : Shape → String
  | .host => host
  | .lb _ => lb
  | .labelled label _ => label ++ "." ++ lb

/-- Its set identifier. -/
def id : Shape → String
  | .host => ""
  | .lb id => id
  | .labelled _ id => id

/-- The shape of the name alone. -/
def bare : Shape → Shape
  | .host => .host
  | .lb _ => .lb ""
  | .labelled label _ => .labelled label ""

theorem text_eq (lb host : String) (s : Shape) : s.text lb host = s.name lb host ++ s.id := by
  cases s with
  | host => exact String.append_empty.symm
  | lb id => rfl
  | labelled label id => exact (String.append_assoc ..).symm

theorem text_bare (lb host : String) (s : Shape) : s.bare.text lb host = s.name lb host := by
  rw [text_eq]
  cases s with
  | host => exact String.append_empty
  | lb id => exact String.append_empty
  | labelled label id => exact String.append_empty

theorem Plain.bare {s : Shape} (h : s.Plain) : s.bare.Plain := by
  cases s with
  | host => trivial
  | lb id => exact List.not_mem_nil
  | labelled label id => exact h

/-- The properties that an endpoint with the id may have. -/
def Allows (s : Shape) (e : Endpoint) : Prop :=
  match s with
  | .host => Google.isWeighted e = false ∧ Google.isGeoLocated e = false
  | .lb _ => Google.isWeighted e = false
  | .labelled _ _ => Google.isGeoLocated e = false

end Shape

section
variable {env : Env} {t : MultiClusterGatewayTarget} {host : String}

/-- A lb name has one dot less than a name with a label in front of it. -/
theorem labelled_ne_lb {label code : String} (hcode : Text.DotFree code) (lb id : String) :
    label ++ "." ++ (lb ++ id) ≠ lb ++ code := by
  intro h
  have hcount := congrArg (fun s => s.toList.count '.') h
  have hzero : code.toList.count '.' = 0 := List.count_eq_zero.2 hcode
  simp only [String.toList_append, List.count_append, hzero] at hcount
  have hdot : (".".toList).count '.' = 1 := by decide
  omega

theorem Shape.Plain.text_inj {s s' : Shape} (hs : s.Plain) (hs' : s'.Plain)
    (h : s.text (lbName env t host) host = s'.text (lbName env t host) host) : s = s' := by
  have hhost (a b : String) : host ≠ a ++ (lbName env t host ++ b) := by
    rw [← String.append_assoc]
    exact host_ne_of_contains_lbName t host a b
  have hhost' (b : String) : host ≠ lbName env t host ++ b := by
    simpa using hhost "" b
  cases s with
  | host =>
      cases s' with
      | host => rfl
      | lb id => exact absurd h (hhost' id)
      | labelled label id => exact absurd h (hhost (label ++ ".") id)
  | lb id =>
      cases s' with
      | host => exact absurd h.symm (hhost' id)
      | lb id' => rw [(String.append_right_inj _).1 h]
      | labelled label id' => exact absurd h.symm (labelled_ne_lb hs _ _)
  | labelled label id =>
      cases s' with
      | host => exact absurd h.symm (hhost (label ++ ".") id)
      | lb id' => exact absurd h (labelled_ne_lb hs' _ _)
      | labelled label' id' =>
          obtain ⟨rfl, hid⟩ := @Text.split_at '.' _ _ _ _ hs hs' h
          rw [(String.append_right_inj _).1 hid]

theorem Shape.Plain.bare_inj {s s' : Shape} (hs : s.Plain) (hs' : s'.Plain)
    (h : s.name (lbName env t host) host = s'.name (lbName env t host) host) : s.bare = s'.bare := by
  rw [← Shape.text_bare, ← Shape.text_bare] at h
  exact hs.bare.text_inj hs'.bare h

theorem dnsName_eq_name (n : Node) :
    n.dnsName env t host = (n.shape env).name (lbName env t host) host := by
  cases n with
  | address c => exact clusterLbName_eq t host c
  | weighted c hostValue => exact geoLbName_eq t host c.geo
  | geo code => rfl
  | default code => rfl
  | host => rfl

theorem setIdentifier_eq_id (n : Node) : n.setIdentifier = (n.shape env).id := by
  cases n with
  | address c => rfl
  | weighted c hostValue => rfl
  | geo code => rfl
  | default code => rfl
  | host => rfl

end

/-! ## Targets whose names are told apart -/

/-- The clusters have different short codes, and the geo codes are labels other than the catch-all
    and, once they are lower-cased, the short codes. -/
structure Separable (env : Env) (t : MultiClusterGatewayTarget) : Prop where
  clusters : (t.clusterGatewayTargets.map (ClusterGatewayTarget.getShortCode env)).Nodup
  geo_dotFree : ∀ c ∈ t.clusterGatewayTargets, Text.DotFree c.geo
  geo_not_wildcard : ∀ c ∈ t.clusterGatewayTargets, c.geo ≠ GeoCode.wildcardGeo
  geo_not_cluster : ∀ c ∈ t.clusterGatewayTargets, ∀ c' ∈ t.clusterGatewayTargets,
    Text.toLower env.fold c.geo ≠ c'.getShortCode env

section
variable {env : Env} {t : MultiClusterGatewayTarget} {host : String} {order : MapOrder}

theorem Separable.eq_of_shortCode (hS : Separable env t) {c c' : ClusterGatewayTarget}
    (hc : c ∈ t.clusterGatewayTargets) (hc' : c' ∈ t.clusterGatewayTargets)
    (h : c.getShortCode env = c'.getShortCode env) : c = c' :=
  List.inj_on_of_nodup_map hS.clusters hc hc' h

theorem geo_of_mem_treeNodes {code : GeoCode} (h : Node.geo code ∈ treeNodes env t host) :
    (∃ c ∈ t.clusterGatewayTargets, c.geo = code) ∧ code ≠ GeoCode.defaultGeo := by
  rcases mem_treeNodes.1 h with ⟨d, hd, hmem | ⟨heq, hne⟩ | heq⟩ | heq
  · rcases mem_clusterNodes.1 hmem with ⟨heq, -⟩ | ⟨_, -, heq⟩ | ⟨heq, -⟩ <;> cases heq
  · cases heq
    exact ⟨⟨d, (mem_addressed.1 hd).1, rfl⟩, hne⟩
  · cases heq
  · cases heq

theorem Separable.plain (hS : Separable env t) {n : Node} (hn : n ∈ treeNodes env t host) :
    (n.shape env).Plain := by
  cases n with
  | address c => exact dotFree_hash _
  | weighted c v =>
      exact Text.dotFree_toLower _ (hS.geo_dotFree c (mem_of_weighted_mem_treeNodes hn).1)
  | geo code =>
      obtain ⟨⟨c, hc, rfl⟩, -⟩ := geo_of_mem_treeNodes hn
      exact hS.geo_dotFree c hc
  | default code => exact (by decide : Text.DotFree "default")
  | host => trivial

theorem Separable.shape_eq (hS : Separable env t) {m n : Node} (hm : m ∈ treeNodes env t host)
    (hn : n ∈ treeNodes env t host) (hid : m.setID env t host = n.setID env t host) :
    m.shape env = n.shape env := by
  rw [setID_eq_text, setID_eq_text] at hid
  exact (hS.plain hm).text_inj (hS.plain hn) hid

theorem Separable.unambiguous (hS : Separable env t) (old : List Endpoint) :
    Unambiguous env t host old := by
  intro m hm n hn hid _
  have hshape := hS.shape_eq hm hn hid
  cases m with
  | address c =>
      have hc := mem_of_address_mem_treeNodes hm
      cases n with
      | address c' =>
          have hcode := (Shape.labelled.inj hshape).1
          rw [hS.eq_of_shortCode hc (mem_of_address_mem_treeNodes hn) hcode]
          exact Or.inr ⟨rfl, rfl, rfl⟩
      | weighted c' v =>
          have hc' := (mem_of_weighted_mem_treeNodes hn).1
          exact absurd (Shape.labelled.inj hshape).1.symm (hS.geo_not_cluster c' hc' c hc)
      | geo _ | default _ | host => cases hshape
  | weighted c v =>
      have hc := (mem_of_weighted_mem_treeNodes hm).1
      cases n with
      | address c' =>
          have hc' := mem_of_address_mem_treeNodes hn
          exact absurd (Shape.labelled.inj hshape).1 (hS.geo_not_cluster c hc c' hc')
      | weighted c' v' =>
          obtain ⟨hgeo, rfl⟩ := Shape.labelled.inj hshape
          exact Or.inr ⟨geoLbName_inj.2 hgeo, rfl, rfl⟩
      | geo _ | default _ | host => cases hshape
  | geo code =>
      cases n with
      | geo code' =>
          cases hshape
          exact Or.inr ⟨rfl, rfl, rfl⟩
      | default code' => exact absurd (Shape.lb.inj hshape) (geo_of_mem_treeNodes hm).2
      | address _ | weighted _ _ | host => cases hshape
  | default code =>
      cases n with
      | geo code' => exact absurd (Shape.lb.inj hshape).symm (geo_of_mem_treeNodes hn).2
      | default code' => exact Or.inl ⟨rfl, rfl⟩
      | address _ | weighted _ _ | host => cases hshape
  | host =>
      cases n with
      | host => exact Or.inr ⟨rfl, rfl, rfl⟩
      | address _ | weighted _ _ | geo _ | default _ => cases hshape

/-! ## Properties of reused endpoints -/

/-- The endpoint has a name and an id of the tree, and no property of another purpose. -/
def Tidy (lb host : String) (e : Endpoint) : Prop :=
  ∃ s : Shape, s.Plain ∧ e.dnsName = s.name lb host ∧ e.setIdentifier = s.id ∧ s.Allows e

theorem isWeighted_setGeoCode (code : String) (e : Endpoint) :
    Google.isWeighted (e.setProviderSpecific providerSpecificGeoCode code) = Google.isWeighted e := by
  unfold Google.isWeighted
  rw [Endpoint.getProviderSpecificProperty_set_of_ne (by decide)]

theorem isGeoLocated_setWeight (weight : String) (e : Endpoint) :
    Google.isGeoLocated (e.setProviderSpecific providerSpecificWeight weight)
      = Google.isGeoLocated e := by
  unfold Google.isGeoLocated
  rw [Endpoint.getProviderSpecificProperty_set_of_ne (by decide)]

theorem isWeighted_setWeight (weight : String) (e : Endpoint) :
    Google.isWeighted (e.setProviderSpecific providerSpecificWeight weight) = true := by
  unfold Google.isWeighted
  rw [Endpoint.getProviderSpecificProperty_set, Option.isSome_some]

/-- A node sets no property that its id does not allow. -/
theorem Shape.Allows.setProperty {n : Node} {e : Endpoint} (h : (n.shape env).Allows e) :
    (n.shape env).Allows (n.setProperty e) := by
  cases n with
  | address c => exact h
  | weighted c v => exact (isGeoLocated_setWeight _ e).trans h
  | geo code => exact (isWeighted_setGeoCode _ e).trans h
  | default code => exact h
  | host => exact h

theorem Shape.Allows.setWildcard {n : Node} {e : Endpoint} (h : (n.shape env).Allows e) :
    (n.shape env).Allows (n.setWildcard e) := by
  cases n with
  | default code => exact (isWeighted_setGeoCode _ e).trans h
  | address _ | weighted _ _ | geo _ | host => exact h

theorem allows_of_no_properties {e : Endpoint} (h : e.providerSpecific = []) (s : Shape) :
    s.Allows e := by
  have hweighted : Google.isWeighted e = false := by
    simp [Google.isWeighted, Endpoint.getProviderSpecificProperty, h]
  have hgeo : Google.isGeoLocated e = false := by
    simp [Google.isGeoLocated, Endpoint.getProviderSpecificProperty, h]
  cases s with
  | host => exact ⟨hweighted, hgeo⟩
  | lb id => exact hweighted
  | labelled label id => exact hgeo

variable {old : List Endpoint}

/-- What a node's pointer denotes was only ever written for nodes with the same id. -/
theorem Separable.allows_settledEndpoint (hS : Separable env t)
    (hold : ∀ e ∈ old, Tidy (lbName env t host) host e) {nodes : List Node}
    (hnodes : ∀ m ∈ nodes, m ∈ treeNodes env t host) {n : Node} (hn : n ∈ treeNodes env t host) :
    (settledEndpoint env t host old nodes n).setIdentifier = n.setIdentifier ∧
      (n.shape env).Allows (settledEndpoint env t host old nodes n) := by
  unfold settledEndpoint Heap.settled
  have hkey : (n.request env t host).key = n.setID env t host := rfl
  rw [hkey]
  cases hc : currentEndpoints old (n.setID env t host) with
  | none =>
      exact ⟨Node.fresh_setIdentifier env t host n,
        Shape.Allows.setProperty (allows_of_no_properties rfl _)⟩
  | some p =>
      obtain ⟨e, he, hid⟩ := currentEndpoints_eq_some hc
      have hread : Heap.read ⟨old⟩ p = e := by simp [Heap.read, he]
      obtain ⟨s, hs, hname, hsid, hallows⟩ := hold e (List.mem_of_getElem? he)
      have htext : s.text (lbName env t host) host
          = (n.shape env).text (lbName env t host) host := by
        rw [← setID_eq_text, ← hid, Shape.text_eq, ← hname, ← hsid]
        rfl
      have hshape : s = n.shape env := hs.text_inj (hS.plain hn) htext
      subst hshape
      refine Heap.rewrite_preserves
        (P := fun e => e.setIdentifier = n.setIdentifier ∧ (n.shape env).Allows e) ?_ ?_
      · intro r hr hcur a ha
        obtain ⟨m, hm, rfl⟩ := List.mem_map.1 hr
        have hmid : m.setID env t host = n.setID env t host :=
          (mapsInto_currentEndpoints old).inj _ _ _ hcur hc
        have hmshape := hS.shape_eq (hnodes m hm) hn hmid
        refine ⟨(Node.assign_setIdentifier env t host m a).trans ha.1, ?_⟩
        rw [← hmshape] at ha ⊢
        exact Shape.Allows.setProperty (n := m) ha.2
      · rw [hread]
        exact ⟨hsid.trans (setIdentifier_eq_id n).symm, hallows⟩

theorem nodes_subset_treeNodes (order : MapOrder) :
    ∀ n ∈ plannedNodes env order t host ++ [.host], n ∈ treeNodes env t host :=
  fun _ hn => mem_treeNodes_of_mem_plannedNodes hn

theorem Separable.allows_builtEndpoint (hS : Separable env t)
    (hold : ∀ e ∈ old, Tidy (lbName env t host) host e) {n : Node}
    (hn : n ∈ createdNodes env order t host) :
    (builtEndpoint env order t host old n).setIdentifier = n.setIdentifier ∧
      (n.shape env).Allows (builtEndpoint env order t host old n) := by
  obtain ⟨hid, hallows⟩ := hS.allows_settledEndpoint hold (nodes_subset_treeNodes order)
    (createdNodes_subset_treeNodes hn)
  exact ⟨(setWildcard_setIdentifier n _).trans hid, hallows.setWildcard⟩

theorem Separable.tidy_builtEndpoint (hS : Separable env t)
    (hold : ∀ e ∈ old, Tidy (lbName env t host) host e) {n : Node}
    (hn : n ∈ createdNodes env order t host) :
    Tidy (lbName env t host) host (builtEndpoint env order t host old n) := by
  obtain ⟨hid, hallows⟩ := hS.allows_builtEndpoint hold hn
  refine ⟨n.shape env, hS.plain (createdNodes_subset_treeNodes hn), ?_, ?_, hallows⟩
  · rw [(realizes_builtEndpoint (hS.unambiguous old) hn).dnsName, dnsName_eq_name]
  · rw [hid, ← setIdentifier_eq_id]

/-! ## What the endpoint of a node is -/

/-- The endpoint was last written for a node with the same id, or made for this one. -/
theorem Separable.settledEndpoint_eq (hS : Separable env t) (old : List Endpoint) {n : Node}
    (hn : n ∈ createdNodes env order t host) :
    ∃ m ∈ treeNodes env t host, m.shape env = n.shape env ∧ ∃ e : Endpoint,
      e.recordTTL = m.recordTTL ∧
        settledEndpoint env t host old (plannedNodes env order t host ++ [.host]) n
          = m.setProperty e := by
  have htree := createdNodes_subset_treeNodes hn
  rcases @settledEndpoint_cases env t host old _ n (mem_plannedNodes_of_mem_createdNodes hn) with
    h | ⟨m, hm, hid, -, e, h⟩
  · exact ⟨n, htree, rfl, _, rfl, h⟩
  · have hm := mem_treeNodes_of_mem_plannedNodes hm
    exact ⟨m, hm, hS.shape_eq hm htree hid, _, rfl, h⟩

theorem setProperty_recordTTL (n : Node) (e : Endpoint) :
    (n.setProperty e).recordTTL = e.recordTTL := by
  cases n with
  | address _ | weighted _ _ | geo _ | default _ | host => rfl

theorem setWildcard_recordTTL (n : Node) (e : Endpoint) :
    (n.setWildcard e).recordTTL = e.recordTTL := by
  cases n with
  | address _ | weighted _ _ | geo _ | default _ | host => rfl

theorem recordTTL_of_shape_eq {m n : Node} (h : m.shape env = n.shape env) :
    m.recordTTL = n.recordTTL := by
  cases m with
  | address c =>
      cases n with
      | address _ | weighted _ _ => rfl
      | geo _ | default _ | host => cases h
  | weighted c v =>
      cases n with
      | address _ | weighted _ _ => rfl
      | geo _ | default _ | host => cases h
  | geo code =>
      cases n with
      | geo _ | default _ | host => rfl
      | address _ | weighted _ _ => cases h
  | default code =>
      cases n with
      | geo _ | default _ | host => rfl
      | address _ | weighted _ _ => cases h
  | host =>
      cases n with
      | geo _ | default _ | host => rfl
      | address _ | weighted _ _ => cases h

theorem Separable.recordTTL_builtEndpoint (hS : Separable env t) {n : Node}
    (hn : n ∈ createdNodes env order t host) :
    (builtEndpoint env order t host old n).recordTTL = n.recordTTL := by
  obtain ⟨m, -, hshape, e, hTTL, he⟩ := hS.settledEndpoint_eq old hn
  unfold builtEndpoint
  rw [setWildcard_recordTTL, he, setProperty_recordTTL, hTTL]
  exact recordTTL_of_shape_eq hshape

theorem Separable.isWeighted_builtEndpoint (hS : Separable env t) {c : ClusterGatewayTarget}
    {v : String} (hn : Node.weighted c v ∈ createdNodes env order t host) :
    Google.isWeighted (builtEndpoint env order t host old (.weighted c v)) = true := by
  obtain ⟨m, hm, hshape, e, -, he⟩ := hS.settledEndpoint_eq old hn
  show Google.isWeighted (settledEndpoint env t host old _ (.weighted c v)) = true
  rw [he]
  cases m with
  | address c' =>
      have hc := (mem_of_weighted_mem_treeNodes (createdNodes_subset_treeNodes hn)).1
      exact absurd (Shape.labelled.inj hshape).1.symm
        (hS.geo_not_cluster c hc c' (mem_of_address_mem_treeNodes hm))
  | weighted c' v' => exact isWeighted_setWeight _ _
  | geo _ | default _ | host => cases hshape

theorem isGeoLocated_eq (e : Endpoint) : Google.isGeoLocated e = e.geoCode.isSome :=
  Option.isSome_map.symm

theorem propertyValue_geoCode (e : Endpoint) :
    Google.propertyValue e providerSpecificGeoCode = e.geoCode.getD "" := rfl

/-- What the node's endpoint has to be for Cloud DNS. -/
def Node.Kind (n : Node) (e : Endpoint) : Prop :=
  match n with
  | .address _ => Google.isGeoLocated e = false
  | .weighted _ _ => Google.isWeighted e = true ∧ Google.isGeoLocated e = false
  | .geo code => Google.isWeighted e = false ∧ e.geoCode = some code
  | .default _ => Google.isWeighted e = false ∧ e.geoCode = some GeoCode.wildcardGeo
  | .host => Google.isWeighted e = false ∧ Google.isGeoLocated e = false

theorem Separable.kind_builtEndpoint (hS : Separable env t)
    (hold : ∀ e ∈ old, Tidy (lbName env t host) host e) {n : Node}
    (hn : n ∈ createdNodes env order t host) :
    n.Kind (builtEndpoint env order t host old n) := by
  have hallows := (hS.allows_builtEndpoint hold hn).2
  cases n with
  | address c => exact hallows
  | weighted c v => exact ⟨hS.isWeighted_builtEndpoint hn, hallows⟩
  | geo code => exact ⟨hallows, geoCode_builtEndpoint_geo (hS.unambiguous old) hn⟩
  | default code => exact ⟨hallows, geoCode_builtEndpoint_default code⟩
  | host => exact hallows

/-! ## Endpoints of one name -/

/-- The nodes of which several have one name. -/
inductive Node.Beside : Node → Node → Prop
  | self (n : Node) : Beside n n
  | weighted (c c' : ClusterGatewayTarget) (v v' : String) :
      Beside (.weighted c v) (.weighted c' v')
  | geo (code code' : GeoCode) : Beside (.geo code) (.geo code')
  | geoDefault (code code' : GeoCode) : Beside (.geo code) (.default code')
  | defaultGeo (code code' : GeoCode) : Beside (.default code) (.geo code')
  | default (code code' : GeoCode) : Beside (.default code) (.default code')

theorem Separable.beside (hS : Separable env t) {m n : Node} (hm : m ∈ treeNodes env t host)
    (hn : n ∈ treeNodes env t host) (h : m.dnsName env t host = n.dnsName env t host) :
    m.Beside n := by
  rw [dnsName_eq_name, dnsName_eq_name] at h
  have hbare := (hS.plain hm).bare_inj (hS.plain hn) h
  cases m with
  | address c =>
      have hc := mem_of_address_mem_treeNodes hm
      cases n with
      | address c' =>
          have hcode := (Shape.labelled.inj hbare).1
          rw [hS.eq_of_shortCode hc (mem_of_address_mem_treeNodes hn) hcode]
          exact .self _
      | weighted c' v =>
          have hc' := (mem_of_weighted_mem_treeNodes hn).1
          exact absurd (Shape.labelled.inj hbare).1.symm (hS.geo_not_cluster c' hc' c hc)
      | geo _ | default _ | host => cases hbare
  | weighted c v =>
      cases n with
      | address c' =>
          have hc := (mem_of_weighted_mem_treeNodes hm).1
          have hc' := mem_of_address_mem_treeNodes hn
          exact absurd (Shape.labelled.inj hbare).1 (hS.geo_not_cluster c hc c' hc')
      | weighted c' v' => exact .weighted c c' v v'
      | geo _ | default _ | host => cases hbare
  | geo code =>
      cases n with
      | geo code' => exact .geo code code'
      | default code' => exact .geoDefault code code'
      | address _ | weighted _ _ | host => cases hbare
  | default code =>
      cases n with
      | geo code' => exact .defaultGeo code code'
      | default code' => exact .default code code'
      | address _ | weighted _ _ | host => cases hbare
  | host =>
      cases n with
      | host => exact .self _
      | address _ | weighted _ _ | geo _ | default _ => cases hbare

/-- Endpoints of one name are of one kind. -/
theorem Node.Beside.same {m n : Node} (h : m.Beside n) {e e' : Endpoint} (hm : m.Kind e)
    (hn : n.Kind e') (hself : m = n → e = e') :
    m.recordType = n.recordType ∧ m.recordTTL = n.recordTTL ∧
      Google.isWeighted e = Google.isWeighted e' ∧ Google.isGeoLocated e = Google.isGeoLocated e' := by
  cases h with
  | self =>
      rw [hself rfl]
      exact ⟨rfl, rfl, rfl, rfl⟩
  | weighted c c' v v' => exact ⟨rfl, rfl, hm.1.trans hn.1.symm, hm.2.trans hn.2.symm⟩
  | geo _ _ | geoDefault _ _ | defaultGeo _ _ | default _ _ =>
      refine ⟨rfl, rfl, hm.1.trans hn.1.symm, ?_⟩
      simp [isGeoLocated_eq, hm.2, hn.2]

/-- Only the endpoint of a catch-all is ever dropped. -/
theorem Separable.eq_default_of_isDropped (hS : Separable env t) {n : Node} {e : Endpoint}
    (hn : n ∈ treeNodes env t host) (hkind : n.Kind e) (h : Google.isDropped e = true) :
    ∃ code, n = .default code := by
  have hcode : e.geoCode = some GeoCode.wildcardGeo := by
    have hvalue := (Bool.and_eq_true_iff.1 h).1
    rw [propertyValue_geoCode] at hvalue
    cases hgeo : e.geoCode with
    | none =>
        rw [hgeo] at hvalue
        exact absurd hvalue (by decide)
    | some code =>
        rw [hgeo] at hvalue
        exact congrArg some (eq_of_beq hvalue)
  have hlocated : Google.isGeoLocated e = true := by
    rw [isGeoLocated_eq, hcode, Option.isSome_some]
  cases n with
  | address c => exact absurd (hlocated.symm.trans hkind) (by decide)
  | weighted c v => exact absurd (hlocated.symm.trans hkind.2) (by decide)
  | geo code =>
      obtain ⟨⟨c, hc, rfl⟩, -⟩ := geo_of_mem_treeNodes hn
      exact absurd (Option.some.inj (hkind.2.symm.trans hcode)) (hS.geo_not_wildcard c hc)
  | default code => exact ⟨code, rfl⟩
  | host => exact absurd (hlocated.symm.trans hkind.2) (by decide)

theorem isDropped_eq_false_of_geoCode {e : Endpoint} {code : GeoCode} (h : e.geoCode = some code)
    (hcode : code ≠ GeoCode.wildcardGeo) : Google.isDropped e = false := by
  have hne : (code == "*") = false := beq_false_of_ne hcode
  unfold Google.isDropped
  rw [propertyValue_geoCode, h, Option.getD_some, hne, Bool.false_and]

theorem hasPrefix_geoLbName_default (t : MultiClusterGatewayTarget) (host : String) :
    Text.hasPrefix (geoLbName env (lbName env t host) GeoCode.defaultGeo) GeoCode.defaultGeo
      = true := by
  have hlower : Text.toLower env.fold GeoCode.defaultGeo = GeoCode.defaultGeo :=
    Text.toLower_eq_self_of_alnum env.fold (by simp [GeoCode.defaultGeo])
  rw [geoLbName_eq, hlower, String.append_assoc]
  unfold Text.hasPrefix
  rw [String.toList_append, List.isPrefixOf_iff_prefix]
  exact List.prefix_append _ _

/-! ## The published endpoints -/

theorem targets_ne_nil {n : Node} (hn : n ∈ treeNodes env t host) : n.targets env t host ≠ [] := by
  cases n with
  | address c =>
      rcases mem_treeNodes.1 hn with ⟨d, -, hmem | ⟨heq, -⟩ | heq⟩ | heq
      · rcases mem_clusterNodes.1 hmem with ⟨heq, hne⟩ | ⟨_, -, heq⟩ | ⟨heq, -⟩
        · cases heq
          exact hne
        · cases heq
        · cases heq
      · cases heq
      · cases heq
      · cases heq
  | weighted _ _ | geo _ | default _ | host => exact List.cons_ne_nil _ _

/-- A dropped endpoint leads to a group whose own endpoint is there. -/
theorem Separable.exists_geo_of_isDropped (hS : Separable env t)
    (hold : ∀ e ∈ old, Tidy (lbName env t host) host e) {n : Node}
    (hn : n ∈ createdNodes env order t host)
    (h : Google.isDropped (builtEndpoint env order t host old n) = true) :
    ∃ n' ∈ createdNodes env order t host,
      n'.dnsName env t host = n.dnsName env t host ∧
      n'.targets env t host = n.targets env t host ∧
      Google.isDropped (builtEndpoint env order t host old n') = false := by
  have hU : Unambiguous env t host old := hS.unambiguous old
  obtain ⟨code, rfl⟩ := hS.eq_default_of_isDropped (createdNodes_subset_treeNodes hn)
    (hS.kind_builtEndpoint hold hn) h
  have hcode : code ≠ GeoCode.defaultGeo := by
    rintro rfl
    have htarget := (Bool.and_eq_true_iff.1 h).2
    rw [(realizes_builtEndpoint hU hn).targets] at htarget
    simp [Node.targets, hasPrefix_geoLbName_default] at htarget
  obtain ⟨code', hdefault, hmem⟩ := mem_createdNodes.1 hn
  have hcode' : code' = code := by
    rcases hmem with heq | heq | ⟨c, -, hmem | ⟨heq, -⟩⟩
    · cases heq
      rfl
    · cases heq
    · exact absurd (isDefault_of_mem_clusterNodes hmem) (by simp [Node.isDefault])
    · cases heq
  subst hcode'
  obtain ⟨c, hc, rfl⟩ := exists_addressed_of_defaultGroup hdefault
  have hgeo : Node.geo c.geo ∈ createdNodes env order t host :=
    mem_createdNodes.2 ⟨_, hdefault, Or.inr (Or.inr ⟨c, hc, Or.inr ⟨rfl, hcode⟩⟩)⟩
  refine ⟨.geo c.geo, hgeo, rfl, rfl, ?_⟩
  exact isDropped_eq_false_of_geoCode (geoCode_builtEndpoint_geo hU hgeo)
    (hS.geo_not_wildcard c (mem_addressed.1 hc).1)

theorem Separable.convertible (hS : Separable env t)
    (hold : ∀ e ∈ old, Tidy (lbName env t host) host e) {failed : Endpoint → Bool}
    (hfailed : ∀ e e' : Endpoint, e'.targets = e.targets → failed e' = failed e) :
    Google.Convertible (publishEndpoints failed (fullEndpoints env order t host old)) := by
  have hU : Unambiguous env t host old := hS.unambiguous old
  have hnode {e : Endpoint}
      (he : e ∈ publishEndpoints failed (fullEndpoints env order t host old)) :
      ∃ n ∈ createdNodes env order t host, builtEndpoint env order t host old n = e :=
    (mem_fullEndpoints hU).1 (publishEndpoints_subset he)
  have hbeside {m n : Node} (hm : m ∈ createdNodes env order t host)
      (hn : n ∈ createdNodes env order t host)
      (h : (builtEndpoint env order t host old m).dnsName
        = (builtEndpoint env order t host old n).dnsName) : m.Beside n := by
    rw [(realizes_builtEndpoint hU hm).dnsName, (realizes_builtEndpoint hU hn).dnsName] at h
    exact hS.beside (createdNodes_subset_treeNodes hm) (createdNodes_subset_treeNodes hn) h
  refine ⟨fun e he => ?_, fun e he e' he' hname => ?_, fun e he hweighted => ?_,
    fun e he hweighted hgeo e' he' hname => ?_, fun e he hdropped => ?_, fun e he e' he' hname => ?_⟩
  · obtain ⟨n, hn, rfl⟩ := hnode he
    rw [(realizes_builtEndpoint hU hn).targets]
    exact targets_ne_nil (createdNodes_subset_treeNodes hn)
  · obtain ⟨m, hm, rfl⟩ := hnode he
    obtain ⟨n, hn, rfl⟩ := hnode he'
    have hsame := (hbeside hm hn hname).same (hS.kind_builtEndpoint hold hm)
      (hS.kind_builtEndpoint hold hn) fun h => by rw [h]
    rwa [(realizes_builtEndpoint hU hm).recordType, (realizes_builtEndpoint hU hn).recordType,
      hS.recordTTL_builtEndpoint hm, hS.recordTTL_builtEndpoint hn]
  · obtain ⟨n, hn, rfl⟩ := hnode he
    have hkind := hS.kind_builtEndpoint hold hn
    cases n with
    | address c => exact hkind
    | weighted c v => exact hkind.2
    | geo _ | default _ | host => exact absurd (hweighted.symm.trans hkind.1) (by decide)
  · obtain ⟨m, hm, rfl⟩ := hnode he
    obtain ⟨n, hn, rfl⟩ := hnode he'
    have hkind := hS.kind_builtEndpoint hold hm
    cases hbeside hm hn hname with
    | self => rfl
    | weighted c c' v v' => exact absurd (hweighted.symm.trans hkind.1) (by decide)
    | geo _ _ | geoDefault _ _ | defaultGeo _ _ | default _ _ =>
        rw [isGeoLocated_eq, hkind.2] at hgeo
        cases hgeo
  · obtain ⟨n, hn, rfl⟩ := hnode he
    obtain ⟨n', hn', hname, htargets, hstays⟩ := hS.exists_geo_of_isDropped hold hn hdropped
    have hsame : (builtEndpoint env order t host old n').targets
        = (builtEndpoint env order t host old n).targets := by
      rw [(realizes_builtEndpoint hU hn').targets, (realizes_builtEndpoint hU hn).targets, htargets]
    refine ⟨_, ?_, ?_, hstays, hsame⟩
    · exact mem_publishEndpoints_of_targets_eq ((mem_fullEndpoints hU).2 ⟨n', hn', rfl⟩)
        (hfailed _ _ hsame) hsame he
    · rw [(realizes_builtEndpoint hU hn').dnsName, (realizes_builtEndpoint hU hn).dnsName, hname]
  · obtain ⟨m, hm, rfl⟩ := hnode he
    obtain ⟨n, hn, rfl⟩ := hnode he'
    rw [(realizes_builtEndpoint hU hm).dnsName, (realizes_builtEndpoint hU hn).dnsName] at hname ⊢
    exact dnsName_eq_of_ensureTrailingDot hname

end

/-! ## Sequences of calls -/

theorem probeFailed_of_targets_eq (probes : List DNSHealthCheckProbe)
    (gatewayName listenerName : String) {e e' : Endpoint} (h : e'.targets = e.targets) :
    probeFailed probes gatewayName listenerName e' = probeFailed probes gatewayName listenerName e := by
  unfold probeFailed getProbesForEndpoint
  rw [h]

section
variable {env : Env} {gateway : Gateway} {listenerName host : String}

/-- A call on a tidy record leaves a tidy record, which Cloud DNS can take. -/
theorem Call.tidy_endpoints {call : Call} (hS : Separable env (call.target gateway))
    {before : List Endpoint}
    (hbefore : ∀ e ∈ before, Tidy (lbName env (call.target gateway) host) host e) :
    (∀ e ∈ call.endpoints env gateway listenerName host before,
        Tidy (lbName env (call.target gateway) host) host e) ∧
      Google.Convertible (call.endpoints env gateway listenerName host before) := by
  refine ⟨fun e he => ?_, hS.convertible hbefore fun e e' h => probeFailed_of_targets_eq _ _ _ h⟩
  obtain ⟨n, hn, rfl⟩ := (mem_fullEndpoints (hS.unambiguous before)).1 (publishEndpoints_subset he)
  exact hS.tidy_builtEndpoint hbefore hn

theorem Call.convertible_endpointsAfter {calls : List Call}
    (hcalls : ∀ call ∈ calls, Separable env (call.target gateway)) :
    Google.Convertible (Call.endpointsAfter env gateway listenerName host calls) := by
  -- the lb name is that of the gateway, whatever its clusters are
  let lb := lbName env ⟨gateway, [], none⟩ host
  have hlb (call : Call) : lbName env (call.target gateway) host = lb := lbName_congr rfl
  suffices hrun : ∀ before : List Endpoint, (∀ e ∈ before, Tidy lb host e) →
      Google.Convertible before →
      Google.Convertible (calls.foldl (Call.endpoints env gateway listenerName host) before) by
    refine hrun [] (fun e he => nomatch he) ⟨?_, ?_, ?_, ?_, ?_, ?_⟩
    all_goals exact fun e he => nomatch he
  induction calls with
  | nil => exact fun before _ hbefore => hbefore
  | cons call rest ih =>
      intro before htidy _
      have hcall := @Call.tidy_endpoints env gateway listenerName host call
        (hcalls call List.mem_cons_self) before (hlb call ▸ htidy)
      rw [hlb call] at hcall
      exact ih (fun c hc => hcalls c (List.mem_cons_of_mem call hc)) _ hcall.1 hcall.2

end

/-- Whatever calls of `setEndpoints` have left in a record, its conversion for Cloud DNS loses
    nothing. -/
theorem toResourceRecordSets_lossless (parseFloat : Google.ParseFloat) (order : MapOrder)
    (env : Env) (gateway : Gateway) (listenerName host : String) (calls : List Call)
    (hcalls : ∀ call ∈ calls, Separable env (call.target gateway)) :
    ∃ rs, Google.toResourceRecordSets parseFloat order
        (Call.endpointsAfter env gateway listenerName host calls) = .ok rs ∧
      Google.Lossless parseFloat (Call.endpointsAfter env gateway listenerName host calls) rs :=
  Google.lossless_of_convertible parseFloat order (Call.convertible_endpointsAfter hcalls)

/-- A call for a cluster in the default geo and another one. -/
def Call.besideDefault (c : ClusterGatewayTarget) : Call where
  order := .inserted
  clusterGatewayTargets := (MultiClusterGateway.besideDefault c).clusterGatewayTargets
  loadBalancing := (MultiClusterGateway.besideDefault c).loadBalancing
  probes := []

/-- A record without geo codes gets some. -/
theorem toResourceRecordSets_lossless_geo :
    let calls := [Call.ofClusters [plainCluster "test-cluster-1" ⟨.ipAddress, "1.1.1.1"⟩],
      Call.besideDefault { secondCluster [⟨.hostname, "mylb.example.com"⟩] with geo := "US" }]
    let es := Call.endpointsAfter .sample { name := "testgw", ns := "testns" } "test"
      "test.example.com" calls
    ∃ rs, Google.toResourceRecordSets (fun _ => none) .reversed es = .ok rs ∧
      Google.Lossless (fun _ => none) es rs := by
  refine toResourceRecordSets_lossless _ _ _ _ _ _ _ fun call hcall => ?_
  simp only [List.mem_cons, List.not_mem_nil, or_false] at hcall
  rcases hcall with rfl | rfl
  · constructor <;> decide +kernel
  · constructor <;> decide +kernel

/-- With a geo code that is a short code in upper case, the A record of the one cluster and the
    CNAMEs of the other have one name. -/
theorem not_lossless_of_geo_like_cluster :
    let t := besideDefault { secondCluster [] with geo := "20QRI0" }
    let es := setEndpoints Env.sample .inserted t [] [] "test" "test.example.com"
    (t.clusterGatewayTargets.map (ClusterGatewayTarget.getShortCode Env.sample)).Nodup ∧
      (∀ c ∈ t.clusterGatewayTargets, c.geo ≠ "" ∧ Text.DotFree c.geo ∧ c.geo ≠ "*" ∧
        c.geo ≠ "default" ∧ ∀ c' ∈ t.clusterGatewayTargets, c.geo ≠ c'.getShortCode Env.sample) ∧
      ∃ rs, Google.toResourceRecordSets (fun _ => none) .inserted es = .ok rs ∧
        ¬ Google.Lossless (fun _ => none) es rs := by
  intro t es
  refine ⟨by decide +kernel, by decide +kernel, ?_⟩
  have hes : es = fullEndpoints Env.sample .inserted t "test.example.com" [] :=
    setEndpoints_no_probes _ _ _ _ _ _
  rw [hes]
  have hmixed : (Google.toResourceRecordSets (fun _ => none) .inserted
      (fullEndpoints Env.sample .inserted t "test.example.com" [])).toOption.any (fun rs =>
        rs.any fun r => (fullEndpoints Env.sample .inserted t "test.example.com" []).any fun e =>
          r.name == Google.ensureTrailingDot e.dnsName && r.type != e.recordType) = true := by
    decide +kernel
  cases hconvert : Google.toResourceRecordSets (fun _ => none) .inserted
      (fullEndpoints Env.sample .inserted t "test.example.com" []) with
  | error reason =>
      rw [hconvert] at hmixed
      cases hmixed
  | ok rs =>
      rw [hconvert] at hmixed
      obtain ⟨r, hr, hmixed⟩ := List.any_eq_true.1 hmixed
      obtain ⟨e, he, hmixed⟩ := List.any_eq_true.1 hmixed
      obtain ⟨hname, htype⟩ := Bool.and_eq_true_iff.1 hmixed
      refine ⟨rs, rfl, fun hlossless => ?_⟩
      exact bne_iff_ne.1 htype (hlossless.kind r hr e he (eq_of_beq hname)).1

end MultiClusterGateway
