import MultiClusterGateway.DnsPolicy.Determinism

set_option autoImplicit false

/-! # Resolving the listener's host

What the endpoint tree is for: a client that looks up the listener's host and follows the CNAMEs
reaches the gateway addresses of the clusters in its geo, and those of the default geo if there are
none (`ResolvesAsDesigned`). `Resolves` is the meaning of a list of endpoints for a client: at each
name the endpoints for the client's geo code count, or the wildcard ones if there are none; of
weighted endpoints any may be chosen; a target that is not a name of the list is where the tree
ends. -/

namespace MultiClusterGateway

/-! ## The meaning of a list of endpoints -/

/-- The endpoint answers a client with this geo code. -/
def Serves (es : List Endpoint) (client : String) (e : Endpoint) : Prop :=
  ∀ code, e.geoCode = some code → code = client ∨
    (code = GeoCode.wildcardGeo ∧ ∀ x ∈ es, x.dnsName = e.dnsName → x.geoCode ≠ some client)

/-- Looking up a name, the client can end up at the address. -/
inductive Resolves (es : List Endpoint) (client : String) : String → String → Prop
  | address {e : Endpoint} {a : String} (he : e ∈ es) (hserves : Serves es client e)
      (htype : e.recordType = .A) (ha : a ∈ e.targets) : Resolves es client e.dnsName a
  | cname {e : Endpoint} {target a : String} (he : e ∈ es) (hserves : Serves es client e)
      (htype : e.recordType = .CNAME) (htarget : target ∈ e.targets)
      (h : Resolves es client target a) : Resolves es client e.dnsName a
  | external {e : Endpoint} {target : String} (he : e ∈ es) (hserves : Serves es client e)
      (htype : e.recordType = .CNAME) (htarget : target ∈ e.targets)
      (hext : ∀ x ∈ es, x.dnsName ≠ target) : Resolves es client e.dnsName target

theorem resolves_iff {es : List Endpoint} {client name a : String} :
    Resolves es client name a ↔
      ∃ e ∈ es, e.dnsName = name ∧ Serves es client e ∧
        ((e.recordType = .A ∧ a ∈ e.targets) ∨
          (e.recordType = .CNAME ∧ ∃ target ∈ e.targets, Resolves es client target a ∨
            (target = a ∧ ∀ x ∈ es, x.dnsName ≠ target))) := by
  constructor
  · intro h
    cases h with
    | address he hserves htype ha => exact ⟨_, he, rfl, hserves, Or.inl ⟨htype, ha⟩⟩
    | cname he hserves htype htarget h =>
        exact ⟨_, he, rfl, hserves, Or.inr ⟨htype, _, htarget, Or.inl h⟩⟩
    | external he hserves htype htarget hext =>
        exact ⟨_, he, rfl, hserves, Or.inr ⟨htype, _, htarget, Or.inr ⟨rfl, hext⟩⟩⟩
  · rintro ⟨e, he, rfl, hserves, ⟨htype, ha⟩ | ⟨htype, target, htarget, h | ⟨rfl, hext⟩⟩⟩
    · exact .address he hserves htype ha
    · exact .cname he hserves htype htarget h
    · exact .external he hserves htype htarget hext

/-! ## The design -/

section
variable (env : Env) (t : MultiClusterGatewayTarget) (host : String)

/-- The group that serves a client: that of its geo code if it has an address, else the default. -/
def servingGroup (client : String) : GeoCode :=
  if (addressed t).any (fun c => c.geo == client) then client else t.getDefaultGeo

/-- Every cluster has one CNAME with its weight for each of its host names and for its A record. -/
def ContributesWeighted (es : List Endpoint) (c : ClusterGatewayTarget) : Prop :=
  (∀ v, Node.weighted c v ∈ clusterNodes env t host c → ∃ e,
    es.filter (fun e => e.dnsName == geoLbName env (lbName env t host) c.geo && e.targets == [v])
      = [e] ∧ e.recordType = .CNAME ∧
    e.getProviderSpecificProperty providerSpecificWeight
      = some ⟨providerSpecificWeight, toString c.weight⟩) ∧
  (c.ipValues ≠ [] → ∃ e,
    es.filter (fun e => e.dnsName == clusterLbName env (lbName env t host) c) = [e] ∧
    e.recordType = .A ∧ e.targets = c.ipValues)

/-- A client reaches exactly the addresses of its group, and every cluster contributes its weighted
    CNAMEs. -/
def ResolvesAsDesigned (es : List Endpoint) : Prop :=
  (∀ client a, Resolves es client host a ↔
    ∃ c ∈ t.clusterGatewayTargets, c.geo = servingGroup t client ∧
      ∃ ga ∈ c.gatewayAddresses, ga.value = a) ∧
  ∀ c ∈ addressed t, ContributesWeighted env t host es c

/-- What the design asks of the geo codes, the cluster names and the addresses. -/
structure WellFormedTarget : Prop where
  default_addressed : ∃ c ∈ addressed t, c.geo = t.getDefaultGeo
  geo_ne_empty : ∀ c ∈ t.clusterGatewayTargets, c.geo ≠ ""
  geo_dotFree : ∀ c ∈ t.clusterGatewayTargets, Text.DotFree c.geo
  geo_ne_wildcard : ∀ c ∈ t.clusterGatewayTargets, c.geo ≠ GeoCode.wildcardGeo
  geo_ne_shortCode : ∀ c ∈ t.clusterGatewayTargets, ∀ c' ∈ t.clusterGatewayTargets,
    c.geo ≠ c'.getShortCode env
  geo_not_lb : ∀ c ∈ t.clusterGatewayTargets, Text.hasPrefix c.geo "lb-" = false
  geo_inj : ∀ c ∈ t.clusterGatewayTargets, ∀ c' ∈ t.clusterGatewayTargets,
    Text.toLower env.fold c.geo = Text.toLower env.fold c'.geo → c.geo = c'.geo
  geo_ne_default : t.loadBalancing.bind (·.geo) ≠ none →
    ∀ c ∈ t.clusterGatewayTargets, c.geo ≠ GeoCode.defaultGeo
  hash_inj : ∀ c ∈ t.clusterGatewayTargets, ∀ c' ∈ t.clusterGatewayTargets,
    c.getShortCode env = c'.getShortCode env → c.getName = c'.getName
  hosts_nodup : ∀ c ∈ t.clusterGatewayTargets,
    ((t.clusterGatewayTargets.filter (fun c' => c'.geo == c.geo)).flatMap
      ClusterGatewayTarget.hostValues).Nodup
  host_ne : ∀ c ∈ t.clusterGatewayTargets, ∀ v ∈ c.hostValues,
    v ≠ host ∧ ¬ (lbName env t host).toList <:+ v.toList

/-- Every cluster is listed once, and no geo code is a cluster's short code once both are lower
    case. -/
structure ClustersApart : Prop where
  names_nodup : (t.clusterGatewayTargets.map ClusterGatewayTarget.getName).Nodup
  geo_ne_shortCode : ∀ c ∈ t.clusterGatewayTargets, ∀ c' ∈ t.clusterGatewayTargets,
    Text.toLower env.fold c.geo ≠ c'.getShortCode env

end

/-! ## The tree without existing endpoints -/

section
variable {env : Env} {order : MapOrder} {t : MultiClusterGatewayTarget} {host : String}

/-- The geo code of a node's endpoint. -/
def Node.geoCode : Node → Option String
  | .geo code => some code
  | .default _ => some GeoCode.wildcardGeo
  | _ => none

theorem geoCode_builtEndpoint_nil (n : Node) :
    (builtEndpoint env order t host [] n).geoCode = n.geoCode := by
  cases n <;> rfl

theorem realizes_builtEndpoint_nil (n : Node) :
    Realizes env t host n (builtEndpoint env order t host [] n) :=
  (realizes_fresh n).setWildcard n

theorem mem_fullEndpoints_nil {e : Endpoint} :
    e ∈ fullEndpoints env order t host [] ↔
      ∃ n ∈ createdNodes env order t host, builtEndpoint env order t host [] n = e :=
  mem_fullEndpoints unambiguous_nil

/-- The node's endpoint answers the client. -/
def NodeServes (env : Env) (order : MapOrder) (t : MultiClusterGatewayTarget) (host client : String)
    (n : Node) : Prop :=
  ∀ code, n.geoCode = some code → code = client ∨
    (code = GeoCode.wildcardGeo ∧ ∀ m ∈ createdNodes env order t host,
      m.dnsName env t host = n.dnsName env t host → m.geoCode ≠ some client)

theorem serves_builtEndpoint_iff {client : String} {n : Node} :
    Serves (fullEndpoints env order t host []) client (builtEndpoint env order t host [] n) ↔
      NodeServes env order t host client n := by
  unfold Serves NodeServes
  rw [geoCode_builtEndpoint_nil, (realizes_builtEndpoint_nil n).dnsName]
  refine forall_congr' fun code => imp_congr_right fun _ => or_congr_right
    (and_congr_right fun _ => ?_)
  constructor
  · intro h m hm hname
    rw [← @geoCode_builtEndpoint_nil env order t host m]
    exact h _ (mem_fullEndpoints_nil.2 ⟨m, hm, rfl⟩)
      ((realizes_builtEndpoint_nil m).dnsName.trans hname)
  · intro h x hx hname
    obtain ⟨m, hm, rfl⟩ := mem_fullEndpoints_nil.1 hx
    rw [geoCode_builtEndpoint_nil]
    exact h m hm ((realizes_builtEndpoint_nil m).dnsName.symm.trans hname)

/-- Resolution in terms of the nodes. -/
theorem resolves_node_iff {client name a : String} :
    Resolves (fullEndpoints env order t host []) client name a ↔
      ∃ n ∈ createdNodes env order t host, n.dnsName env t host = name ∧
        NodeServes env order t host client n ∧
        ((n.recordType = .A ∧ a ∈ n.targets env t host) ∨
          (n.recordType = .CNAME ∧ ∃ target ∈ n.targets env t host,
            Resolves (fullEndpoints env order t host []) client target a ∨
            (target = a ∧ ∀ m ∈ createdNodes env order t host, m.dnsName env t host ≠ target))) := by
  have hext : ∀ target, (∀ x ∈ fullEndpoints env order t host [], x.dnsName ≠ target) ↔
      ∀ m ∈ createdNodes env order t host, m.dnsName env t host ≠ target := by
    intro target
    constructor
    · intro h m hm hname
      exact h _ (mem_fullEndpoints_nil.2 ⟨m, hm, rfl⟩)
        ((realizes_builtEndpoint_nil m).dnsName.trans hname)
    · intro h x hx hname
      obtain ⟨m, hm, rfl⟩ := mem_fullEndpoints_nil.1 hx
      exact h m hm ((realizes_builtEndpoint_nil m).dnsName.symm.trans hname)
  rw [resolves_iff]
  constructor
  · rintro ⟨e, he, hname, hserves, h⟩
    obtain ⟨n, hn, rfl⟩ := mem_fullEndpoints_nil.1 he
    have hr := @realizes_builtEndpoint_nil env order t host n
    simp only [hr.recordType, hr.targets, hext] at h
    exact ⟨n, hn, hr.dnsName.symm.trans hname, serves_builtEndpoint_iff.1 hserves, h⟩
  · rintro ⟨n, hn, hname, hserves, h⟩
    have hr := @realizes_builtEndpoint_nil env order t host n
    refine ⟨_, mem_fullEndpoints_nil.2 ⟨n, hn, rfl⟩, hr.dnsName.trans hname,
      serves_builtEndpoint_iff.2 hserves, ?_⟩
    simp only [hr.recordType, hr.targets, hext]
    exact h

end

/-! ## The names of the tree tell its levels apart -/

section
variable {env : Env} {order : MapOrder} {t : MultiClusterGatewayTarget} {host : String}
  (hW : WellFormedTarget env t host) (hC : ClustersApart env t)
include hW

/-- Among the clusters of a well-formed target, the internal code is the default geo. -/
theorem WellFormedTarget.getDefaultGeo_eq {c : ClusterGatewayTarget} (hc : c ∈ addressed t)
    (hcode : c.geo = GeoCode.defaultGeo) : t.getDefaultGeo = GeoCode.defaultGeo := by
  cases hgeo : t.loadBalancing.bind (·.geo) with
  | none =>
      unfold MultiClusterGatewayTarget.getDefaultGeo
      rw [hgeo]
  | some g =>
      exact absurd hcode (hW.geo_ne_default (by simp [hgeo]) c (mem_addressed.1 hc).1)

theorem WellFormedTarget.defaultGroup_eq : defaultGroup order t = some t.getDefaultGeo := by
  obtain ⟨c, hc, hgeo⟩ := hW.default_addressed
  cases hdef : defaultGroup order t with
  | none =>
      rw [defaultGroup_eq_none.1 hdef] at hc
      simp at hc
  | some code =>
      obtain ⟨⟨c', hc', rfl⟩, hexp | hnone⟩ := defaultCandidate_of_defaultGroup hdef
      · rcases Bool.or_eq_true _ _ ▸ hexp with hcode | hcode
        · have hcode : c'.geo = GeoCode.defaultGeo := eq_of_beq hcode
          rw [hcode, hW.getDefaultGeo_eq hc' hcode]
        · rw [eq_of_beq hcode]
      · have := hnone c hc
        simp [isExpectedDefault, hgeo] at this

theorem WellFormedTarget.dnsName_eq_lbName {n : Node} (hn : n ∈ createdNodes env order t host)
    (hname : n.dnsName env t host = lbName env t host) :
    (∃ c ∈ addressed t, n = .geo c.geo ∧ c.geo ≠ GeoCode.defaultGeo) ∨
      n = .default t.getDefaultGeo := by
  obtain ⟨code, hdef, rfl | rfl | ⟨c, hc, hmem | hgeo⟩⟩ := mem_createdNodes.1 hn
  · rw [hW.defaultGroup_eq] at hdef
    cases hdef
    exact Or.inr rfl
  · exact absurd hname (host_ne_lbName t host)
  · rcases mem_clusterNodes.1 hmem with ⟨rfl, -⟩ | ⟨v, -, rfl⟩ | ⟨rfl, -⟩
    · exact absurd hname (clusterLbName_ne_lbName t host c)
    · exact absurd hname (geoLbName_ne_lbName t host c.geo)
    · exact absurd hname (geoLbName_ne_lbName t host c.geo)
  · exact Or.inl ⟨c, hc, hgeo⟩

include hC

theorem WellFormedTarget.eq_of_clusterLbName {c c' : ClusterGatewayTarget} (hc : c ∈ addressed t)
    (hc' : c' ∈ addressed t)
    (h : clusterLbName env (lbName env t host) c = clusterLbName env (lbName env t host) c') :
    c = c' := by
  have hmem := (mem_addressed.1 hc).1
  have hmem' := (mem_addressed.1 hc').1
  exact List.inj_on_of_nodup_map hC.names_nodup hmem hmem'
    (hW.hash_inj c hmem c' hmem' (clusterLbName_inj.1 h))

theorem WellFormedTarget.dnsName_eq_clusterLbName {n : Node}
    (hn : n ∈ createdNodes env order t host) {c : ClusterGatewayTarget} (hc : c ∈ addressed t)
    (hname : n.dnsName env t host = clusterLbName env (lbName env t host) c) : n = .address c := by
  have hgeo : ∀ c' ∈ addressed t, geoLbName env (lbName env t host) c'.geo
      ≠ clusterLbName env (lbName env t host) c := fun c' hc' h =>
    hC.geo_ne_shortCode c' (mem_addressed.1 hc').1 c (mem_addressed.1 hc).1
      (geoLbName_eq_clusterLbName_iff.1 h)
  obtain ⟨code, hdef, rfl | rfl | ⟨c', hc', hmem | ⟨rfl, -⟩⟩⟩ := mem_createdNodes.1 hn
  · exact absurd hname.symm (clusterLbName_ne_lbName t host c)
  · exact absurd hname (host_ne_clusterLbName t host c)
  · rcases mem_clusterNodes.1 hmem with ⟨rfl, -⟩ | ⟨v, -, rfl⟩ | ⟨rfl, -⟩
    · rw [hW.eq_of_clusterLbName hC hc' hc hname]
    · exact absurd hname (hgeo c' hc')
    · exact absurd hname (hgeo c' hc')
  · exact absurd hname.symm (clusterLbName_ne_lbName t host c)

theorem WellFormedTarget.dnsName_eq_geoLbName {n : Node}
    (hn : n ∈ createdNodes env order t host) {c : ClusterGatewayTarget} (hc : c ∈ addressed t)
    (hname : n.dnsName env t host = geoLbName env (lbName env t host) c.geo) :
    ∃ c' ∈ addressed t, ∃ v, n = .weighted c' v ∧ n ∈ clusterNodes env t host c' ∧
      c'.geo = c.geo := by
  obtain ⟨code, hdef, rfl | rfl | ⟨c', hc', hmem | ⟨rfl, -⟩⟩⟩ := mem_createdNodes.1 hn
  · exact absurd hname.symm (geoLbName_ne_lbName t host c.geo)
  · exact absurd hname (host_ne_geoLbName t host c.geo)
  · have hgeo : geoLbName env (lbName env t host) c'.geo = geoLbName env (lbName env t host) c.geo →
        c'.geo = c.geo := fun h =>
      hW.geo_inj c' (mem_addressed.1 hc').1 c (mem_addressed.1 hc).1 (geoLbName_inj.1 h)
    rcases mem_clusterNodes.1 hmem with ⟨rfl, -⟩ | ⟨v, -, rfl⟩ | ⟨rfl, -⟩
    · exact absurd (geoLbName_eq_clusterLbName_iff.1 hname.symm)
        (hC.geo_ne_shortCode c (mem_addressed.1 hc).1 c' (mem_addressed.1 hc').1)
    · exact ⟨c', hc', v, rfl, hmem, hgeo hname⟩
    · exact ⟨c', hc', _, rfl, hmem, hgeo hname⟩
  · exact absurd hname.symm (geoLbName_ne_lbName t host c.geo)

end

/-! ## What each level resolves to -/

section
variable {env : Env} {order : MapOrder} {t : MultiClusterGatewayTarget} {host client a : String}

theorem nodeServes_of_geoCode_eq_none {n : Node} (h : n.geoCode = none) :
    NodeServes env order t host client n := by
  intro code hcode
  rw [h] at hcode
  cases hcode

/-- A name with endpoints is not where the tree ends. -/
theorem resolves_of_target {n : Node} (hn : n ∈ createdNodes env order t host) {target : String}
    (hname : n.dnsName env t host = target)
    (h : Resolves (fullEndpoints env order t host []) client target a ∨
      (target = a ∧ ∀ m ∈ createdNodes env order t host, m.dnsName env t host ≠ target)) :
    Resolves (fullEndpoints env order t host []) client target a := by
  rcases h with h | ⟨-, hext⟩
  · exact h
  · exact absurd hname (hext n hn)

theorem resolves_of_cname {n : Node} (hn : n ∈ createdNodes env order t host)
    (hserves : NodeServes env order t host client n) (htype : n.recordType = .CNAME)
    {target : String} (htarget : n.targets env t host = [target])
    (h : Resolves (fullEndpoints env order t host []) client target a) :
    Resolves (fullEndpoints env order t host []) client (n.dnsName env t host) a := by
  refine resolves_node_iff.2 ⟨n, hn, rfl, hserves, Or.inr ⟨htype, target, ?_, Or.inl h⟩⟩
  rw [htarget]
  exact List.mem_singleton.2 rfl

variable (hW : WellFormedTarget env t host) (hC : ClustersApart env t)
include hW

theorem WellFormedTarget.mem_createdNodes_of_clusterNodes {c : ClusterGatewayTarget}
    (hc : c ∈ addressed t) {n : Node} (hn : n ∈ clusterNodes env t host c) :
    n ∈ createdNodes env order t host :=
  mem_createdNodes.2 ⟨_, hW.defaultGroup_eq, Or.inr (Or.inr ⟨c, hc, Or.inl hn⟩)⟩

/-- A host name of a cluster is no name of the tree. -/
theorem WellFormedTarget.dnsName_ne_hostValue {n : Node} (hn : n ∈ createdNodes env order t host)
    {c : ClusterGatewayTarget} (hc : c ∈ addressed t) {v : String} (hv : v ∈ c.hostValues) :
    n.dnsName env t host ≠ v := by
  rintro rfl
  obtain ⟨hhost, hsuffix⟩ := hW.host_ne c (mem_addressed.1 hc).1 _ hv
  have hgeo : ∀ g, (lbName env t host).toList <:+ (geoLbName env (lbName env t host) g).toList := by
    intro g
    rw [geoLbName_eq, String.toList_append]
    exact List.suffix_append _ _
  rcases treeNodes_cases (createdNodes_subset_treeNodes hn) with
    ⟨c', -, rfl, -⟩ | ⟨c', -, _, -, rfl⟩ | ⟨c', -, rfl, -⟩ | ⟨c', -, rfl | rfl⟩ | rfl
  · apply hsuffix
    show _ <:+ (clusterLbName env (lbName env t host) c').toList
    rw [clusterLbName_eq, String.toList_append]
    exact List.suffix_append _ _
  · exact hsuffix (hgeo c'.geo)
  · exact hsuffix (hgeo c'.geo)
  · exact hsuffix (List.suffix_refl _)
  · exact hsuffix (List.suffix_refl _)
  · exact hhost rfl

theorem WellFormedTarget.resolves_of_mem_ipValues {c : ClusterGatewayTarget} (hc : c ∈ addressed t)
    (ha : a ∈ c.ipValues) :
    Resolves (fullEndpoints env order t host []) client
      (clusterLbName env (lbName env t host) c) a :=
  resolves_node_iff.2 ⟨.address c, hW.mem_createdNodes_of_clusterNodes hc
    (mem_clusterNodes.2 (Or.inl ⟨rfl, List.ne_nil_of_mem ha⟩)), rfl,
    nodeServes_of_geoCode_eq_none rfl, Or.inl ⟨rfl, ha⟩⟩

include hC

theorem WellFormedTarget.resolves_clusterLbName {c : ClusterGatewayTarget}
    (hc : c ∈ addressed t) :
    Resolves (fullEndpoints env order t host []) client (clusterLbName env (lbName env t host) c) a
      ↔ a ∈ c.ipValues := by
  refine ⟨fun h => ?_, hW.resolves_of_mem_ipValues hc⟩
  obtain ⟨n, hn, hname, -, h⟩ := resolves_node_iff.1 h
  rw [hW.dnsName_eq_clusterLbName hC hn hc hname] at h
  rcases h with ⟨-, ha⟩ | ⟨htype, -⟩
  · exact ha
  · cases htype

/-- Under the name of a group, clients reach the addresses of the group's clusters. -/
theorem WellFormedTarget.resolves_geoLbName {c : ClusterGatewayTarget} (hc : c ∈ addressed t) :
    Resolves (fullEndpoints env order t host []) client
        (geoLbName env (lbName env t host) c.geo) a ↔
      ∃ c' ∈ t.clusterGatewayTargets, c'.geo = c.geo ∧ ∃ ga ∈ c'.gatewayAddresses, ga.value = a := by
  rw [resolves_node_iff]
  constructor
  · rintro ⟨n, hn, hname, -, h⟩
    obtain ⟨c', hc', v, rfl, hmem, hgeo⟩ := hW.dnsName_eq_geoLbName hC hn hc hname
    refine ⟨c', (mem_addressed.1 hc').1, hgeo, ?_⟩
    rcases h with ⟨htype, -⟩ | ⟨-, target, htarget, h⟩
    · cases htype
    rw [List.mem_singleton.1 htarget] at h
    rcases mem_clusterNodes.1 hmem with ⟨hkind, -⟩ | ⟨w, hw, hkind⟩ | ⟨hkind, hip⟩
    · cases hkind
    · -- a host name: the tree ends here
      cases hkind
      rcases h with h | ⟨rfl, -⟩
      · obtain ⟨m, hm, hmname, -⟩ := resolves_node_iff.1 h
        exact absurd hmname (hW.dnsName_ne_hostValue hm hc' hw)
      · exact mem_addresses_of_mem_hostValues hw
    · -- the A record of the cluster
      cases hkind
      have haddr : Node.address c' ∈ createdNodes env order t host :=
        hW.mem_createdNodes_of_clusterNodes hc' (mem_clusterNodes.2 (Or.inl ⟨rfl, hip⟩))
      exact mem_addresses_of_mem_ipValues
        ((hW.resolves_clusterLbName hC hc').1 (resolves_of_target haddr rfl h))
  · rintro ⟨c', hc', hgeo, ga, hga, rfl⟩
    have haddr : c' ∈ addressed t := mem_addressed.2 ⟨hc', List.ne_nil_of_mem hga⟩
    have hname : ∀ v, (Node.weighted c' v).dnsName env t host
        = geoLbName env (lbName env t host) c.geo := fun v => by rw [← hgeo]; rfl
    rcases mem_ipValues_or_mem_hostValues hga with hip | hv
    · have hne : c'.ipValues ≠ [] := List.ne_nil_of_mem hip
      exact ⟨_, hW.mem_createdNodes_of_clusterNodes haddr
        (mem_clusterNodes.2 (Or.inr (Or.inr ⟨rfl, hne⟩))), hname _,
        nodeServes_of_geoCode_eq_none rfl, Or.inr ⟨rfl, _, List.mem_singleton.2 rfl,
          Or.inl (hW.resolves_of_mem_ipValues haddr hip)⟩⟩
    · exact ⟨_, hW.mem_createdNodes_of_clusterNodes haddr
        (mem_clusterNodes.2 (Or.inr (Or.inl ⟨_, hv, rfl⟩))), hname _,
        nodeServes_of_geoCode_eq_none rfl, Or.inr ⟨rfl, _, List.mem_singleton.2 rfl,
          Or.inr ⟨rfl, fun m hm => hW.dnsName_ne_hostValue hm haddr hv⟩⟩⟩

omit hC

omit hW in
theorem servingGroup_of_mem {c : ClusterGatewayTarget} (hc : c ∈ addressed t)
    (hgeo : c.geo = client) : servingGroup t client = client := by
  have hany : (addressed t).any (fun c => c.geo == client) = true :=
    List.any_eq_true.2 ⟨c, hc, beq_iff_eq.2 hgeo⟩
  unfold servingGroup
  rw [if_pos hany]

omit hW in
theorem servingGroup_of_forall_ne (h : ∀ c ∈ addressed t, c.geo ≠ client) :
    servingGroup t client = t.getDefaultGeo := by
  unfold servingGroup
  rw [if_neg]
  intro hany
  obtain ⟨c, hc, hgeo⟩ := List.any_eq_true.1 hany
  exact h c hc (beq_iff_eq.1 hgeo)

theorem WellFormedTarget.exists_addressed_servingGroup :
    ∃ c ∈ addressed t, c.geo = servingGroup t client := by
  by_cases h : ∃ c ∈ addressed t, c.geo = client
  · obtain ⟨c, hc, hgeo⟩ := h
    exact ⟨c, hc, hgeo.trans (servingGroup_of_mem hc hgeo).symm⟩
  · push Not at h
    rw [servingGroup_of_forall_ne h]
    exact hW.default_addressed

/-- The internal code has no endpoint of its own: its clients are served by the catch-all. -/
theorem WellFormedTarget.servingGroup_eq_getDefaultGeo
    (h : ∀ c ∈ addressed t, c.geo = client → c.geo = GeoCode.defaultGeo) :
    servingGroup t client = t.getDefaultGeo := by
  by_cases hex : ∃ c ∈ addressed t, c.geo = client
  · obtain ⟨c, hc, hgeo⟩ := hex
    rw [servingGroup_of_mem hc hgeo, hW.getDefaultGeo_eq hc (h c hc hgeo), ← hgeo, h c hc hgeo]
  · push Not at hex
    exact servingGroup_of_forall_ne hex

/-- The endpoints that answer a client under the lb name lead to its serving group. -/
theorem WellFormedTarget.targets_of_serves {n : Node} (hn : n ∈ createdNodes env order t host)
    (hname : n.dnsName env t host = lbName env t host)
    (hserves : NodeServes env order t host client n) :
    n.targets env t host = [geoLbName env (lbName env t host) (servingGroup t client)] := by
  rcases hW.dnsName_eq_lbName hn hname with ⟨c, hc, rfl, -⟩ | rfl
  · rcases hserves c.geo rfl with hcode | ⟨hstar, -⟩
    · rw [servingGroup_of_mem hc hcode, ← hcode]
      rfl
    · exact absurd hstar (hW.geo_ne_wildcard c (mem_addressed.1 hc).1)
  · have hgroup : servingGroup t client = t.getDefaultGeo := by
      refine hW.servingGroup_eq_getDefaultGeo fun c hc hgeo => ?_
      by_contra hne
      rcases hserves GeoCode.wildcardGeo rfl with hstar | ⟨-, hother⟩
      · exact hW.geo_ne_wildcard c (mem_addressed.1 hc).1 (hgeo.trans hstar.symm)
      · have hmem : Node.geo c.geo ∈ createdNodes env order t host :=
          mem_createdNodes.2 ⟨_, hW.defaultGroup_eq, Or.inr (Or.inr ⟨c, hc, Or.inr ⟨rfl, hne⟩⟩)⟩
        exact hother _ hmem rfl (congrArg some hgeo)
    rw [hgroup]
    rfl

/-- Every client is answered under the lb name. -/
theorem WellFormedTarget.exists_serves (order : MapOrder) (client : String) :
    ∃ n ∈ createdNodes env order t host, n.dnsName env t host = lbName env t host ∧
      n.recordType = .CNAME ∧ NodeServes env order t host client n := by
  by_cases h : ∃ c ∈ addressed t, c.geo = client ∧ c.geo ≠ GeoCode.defaultGeo
  · obtain ⟨c, hc, hgeo, hne⟩ := h
    refine ⟨.geo c.geo, mem_createdNodes.2 ⟨_, hW.defaultGroup_eq,
      Or.inr (Or.inr ⟨c, hc, Or.inr ⟨rfl, hne⟩⟩)⟩, rfl, rfl, ?_⟩
    intro code hcode
    cases hcode
    exact Or.inl hgeo
  · push Not at h
    refine ⟨.default t.getDefaultGeo, mem_createdNodes.2 ⟨_, hW.defaultGroup_eq, Or.inl rfl⟩, rfl,
      rfl, ?_⟩
    intro code hcode
    cases hcode
    by_cases hstar : GeoCode.wildcardGeo = client
    · exact Or.inl hstar
    · refine Or.inr ⟨rfl, fun m hm hname hcode => ?_⟩
      rcases hW.dnsName_eq_lbName hm hname with ⟨c, hc, rfl, hne⟩ | rfl
      · exact hne (h c hc (Option.some.inj hcode))
      · exact hstar (Option.some.inj hcode)

theorem WellFormedTarget.resolves_lbName :
    Resolves (fullEndpoints env order t host []) client (lbName env t host) a ↔
      Resolves (fullEndpoints env order t host []) client
        (geoLbName env (lbName env t host) (servingGroup t client)) a := by
  obtain ⟨c, hc, hgeo⟩ := @WellFormedTarget.exists_addressed_servingGroup env t host client hW
  constructor
  · intro h
    obtain ⟨n, hn, hname, hserves, ⟨htype, -⟩ | ⟨-, target, htarget, h⟩⟩ := resolves_node_iff.1 h
    · rcases hW.dnsName_eq_lbName hn hname with ⟨c, -, rfl, -⟩ | rfl <;> cases htype
    · rw [hW.targets_of_serves hn hname hserves] at htarget
      rw [List.mem_singleton.1 htarget] at h
      -- the group has an address, hence an endpoint under its name
      obtain ⟨m, hm⟩ : ∃ m, m ∈ clusterNodes env t host c := List.exists_mem_of_ne_nil _
        (fun hnil => (mem_addressed.1 hc).2 (clusterNodes_eq_nil.1 hnil))
      have hweighted : ∃ v, Node.weighted c v ∈ clusterNodes env t host c := by
        rcases mem_clusterNodes.1 hm with ⟨-, hip⟩ | ⟨v, hv, rfl⟩ | ⟨rfl, hip⟩
        · exact ⟨_, mem_clusterNodes.2 (Or.inr (Or.inr ⟨rfl, hip⟩))⟩
        · exact ⟨v, hm⟩
        · exact ⟨_, hm⟩
      obtain ⟨v, hv⟩ := hweighted
      refine resolves_of_target (hW.mem_createdNodes_of_clusterNodes hc hv) ?_ h
      rw [← hgeo]
      rfl
  · intro h
    obtain ⟨n, hn, hname, htype, hserves⟩ := hW.exists_serves order client
    rw [← hname]
    exact resolves_of_cname hn hserves htype (hW.targets_of_serves hn hname hserves) h

/-- What can be reached under the name of a cluster's A record can be reached by the clients of the
    cluster's group. -/
theorem WellFormedTarget.resolves_host_of_clusterLbName {c : ClusterGatewayTarget}
    (hc : c ∈ addressed t) (hgeo : c.geo = servingGroup t client) (hip : c.ipValues ≠ [])
    (h : Resolves (fullEndpoints env order t host []) client
      (clusterLbName env (lbName env t host) c) a) :
    Resolves (fullEndpoints env order t host []) client host a := by
  have hweighted : Node.weighted c (clusterLbName env (lbName env t host) c) ∈
      createdNodes env order t host :=
    hW.mem_createdNodes_of_clusterNodes hc (mem_clusterNodes.2 (Or.inr (Or.inr ⟨rfl, hip⟩)))
  have hgroup := resolves_of_cname hweighted (nodeServes_of_geoCode_eq_none rfl) rfl rfl h
  have hlb : Resolves (fullEndpoints env order t host []) client (lbName env t host) a := by
    rw [hW.resolves_lbName, ← hgeo]
    exact hgroup
  have hhost : Node.host ∈ createdNodes env order t host :=
    mem_createdNodes.2 ⟨_, hW.defaultGroup_eq, Or.inr (Or.inl rfl)⟩
  exact resolves_of_cname hhost (nodeServes_of_geoCode_eq_none rfl) rfl rfl hlb

/-- A group whose code is a cluster's short code once in lower case is reached by the clients of the
    cluster's group. -/
theorem WellFormedTarget.resolves_host_of_geo_eq_shortCode {c c' : ClusterGatewayTarget}
    (hc : c ∈ addressed t) (hgeo : c.geo = servingGroup t client) (hip : c.ipValues ≠ [])
    (hc' : c' ∈ addressed t) (hcode : Text.toLower env.fold c'.geo = c.getShortCode env)
    (ha : a ∈ c'.ipValues) :
    Resolves (fullEndpoints env order t host []) client host a := by
  have hweighted : Node.weighted c' (clusterLbName env (lbName env t host) c') ∈
      createdNodes env order t host :=
    hW.mem_createdNodes_of_clusterNodes hc'
      (mem_clusterNodes.2 (Or.inr (Or.inr ⟨rfl, List.ne_nil_of_mem ha⟩)))
  refine hW.resolves_host_of_clusterLbName hc hgeo hip ?_
  rw [← geoLbName_eq_clusterLbName_iff.2 hcode]
  exact resolves_of_cname hweighted (nodeServes_of_geoCode_eq_none rfl) rfl rfl
    (hW.resolves_of_mem_ipValues hc' ha)

/-- Clusters with one short code share their addresses. -/
theorem WellFormedTarget.resolves_host_of_shortCode_eq {c c' : ClusterGatewayTarget}
    (hc : c ∈ addressed t) (hgeo : c.geo = servingGroup t client) (hip : c.ipValues ≠ [])
    (hc' : c' ∈ addressed t) (hcode : c'.getShortCode env = c.getShortCode env)
    (ha : a ∈ c'.ipValues) :
    Resolves (fullEndpoints env order t host []) client host a := by
  refine hW.resolves_host_of_clusterLbName hc hgeo hip ?_
  rw [← clusterLbName_inj.2 hcode]
  exact hW.resolves_of_mem_ipValues hc' ha

include hC in
/-- Looking up the listener's host leads to the addresses of the serving group. -/
theorem WellFormedTarget.resolves_host :
    Resolves (fullEndpoints env order t host []) client host a ↔
      ∃ c ∈ t.clusterGatewayTargets, c.geo = servingGroup t client ∧
        ∃ ga ∈ c.gatewayAddresses, ga.value = a := by
  obtain ⟨c, hc, hgeo⟩ := @WellFormedTarget.exists_addressed_servingGroup env t host client hW
  rw [← hgeo, ← hW.resolves_geoLbName hC hc, hgeo, ← hW.resolves_lbName]
  have hdefault : Node.default t.getDefaultGeo ∈ createdNodes env order t host :=
    mem_createdNodes.2 ⟨_, hW.defaultGroup_eq, Or.inl rfl⟩
  have hhost : Node.host ∈ createdNodes env order t host :=
    mem_createdNodes.2 ⟨_, hW.defaultGroup_eq, Or.inr (Or.inl rfl)⟩
  constructor
  · intro h
    obtain ⟨n, hn, hname, -, h⟩ := resolves_node_iff.1 h
    have hn' : n = .host := by
      rcases treeNodes_cases (createdNodes_subset_treeNodes hn) with
        ⟨c', -, rfl, -⟩ | ⟨c', -, _, -, rfl⟩ | ⟨c', -, rfl, -⟩ | ⟨c', -, rfl | rfl⟩ | rfl
      · exact absurd hname.symm (host_ne_clusterLbName t host c')
      · exact absurd hname.symm (host_ne_geoLbName t host c'.geo)
      · exact absurd hname.symm (host_ne_geoLbName t host c'.geo)
      · exact absurd hname.symm (host_ne_lbName t host)
      · exact absurd hname.symm (host_ne_lbName t host)
      · rfl
    subst hn'
    rcases h with ⟨htype, -⟩ | ⟨-, target, htarget, h⟩
    · cases htype
    · rw [List.mem_singleton.1 htarget] at h
      exact resolves_of_target hdefault rfl h
  · exact resolves_of_cname hhost (nodeServes_of_geoCode_eq_none rfl) rfl rfl

end

/-! ## What each cluster contributes -/

section
variable {env : Env} {order : MapOrder} {t : MultiClusterGatewayTarget} {host : String}

/-- The cluster a node belongs to. -/
theorem eq_of_mem_clusterNodes {c c' : ClusterGatewayTarget} {n : Node}
    (h : n ∈ clusterNodes env t host c) (h' : n ∈ clusterNodes env t host c') : c = c' := by
  rcases mem_clusterNodes.1 h with ⟨rfl, -⟩ | ⟨v, -, rfl⟩ | ⟨rfl, -⟩ <;>
    rcases mem_clusterNodes.1 h' with ⟨hk, -⟩ | ⟨w, -, hk⟩ | ⟨hk, -⟩ <;> cases hk <;> rfl

theorem mem_clusterNodes_weighted {c : ClusterGatewayTarget} {v : String}
    (h : Node.weighted c v ∈ clusterNodes env t host c) :
    v ∈ c.hostValues ∨ v = clusterLbName env (lbName env t host) c := by
  rcases mem_clusterNodes.1 h with ⟨hk, -⟩ | ⟨w, hw, hk⟩ | ⟨hk, -⟩
  · cases hk
  · cases hk
    exact Or.inl hw
  · exact Or.inr (Node.weighted.inj hk).2

/-- A host name that does not end in the lb name is not that of a cluster's A record. -/
theorem clusterLbName_notMem {c c' : ClusterGatewayTarget}
    (hlb : ∀ v ∈ c.hostValues, ¬ (lbName env t host).toList <:+ v.toList) :
    clusterLbName env (lbName env t host) c' ∉ c.hostValues := by
  intro hmem
  apply hlb _ hmem
  rw [clusterLbName_eq, String.toList_append]
  exact List.suffix_append _ _

theorem nodup_clusterNodes {c : ClusterGatewayTarget} (hhosts : c.hostValues.Nodup)
    (hlb : ∀ v ∈ c.hostValues, ¬ (lbName env t host).toList <:+ v.toList) :
    (clusterNodes env t host c).Nodup := by
  have hinj : Function.Injective (Node.weighted c) := fun v w h => by cases h; rfl
  unfold clusterNodes
  split
  · exact hhosts.map hinj
  · refine List.nodup_cons.2 ⟨?_, List.Nodup.map hinj ?_⟩
    · intro hmem
      obtain ⟨v, -, hv⟩ := List.mem_map.1 hmem
      cases hv
    · refine List.nodup_append.2 ⟨hhosts, List.nodup_singleton _, fun v hv w hw heq => ?_⟩
      rw [heq, List.mem_singleton.1 hw] at hv
      exact clusterLbName_notMem hlb hv

/-- No node is created twice. -/
theorem nodup_createdNodes
    (hnames : (t.clusterGatewayTargets.map ClusterGatewayTarget.getName).Nodup)
    (hnodes : ∀ c ∈ t.clusterGatewayTargets, (clusterNodes env t host c).Nodup) :
    (createdNodes env order t host).Nodup := by
  have hclusters : (t.clusterGatewayTargets.flatMap (clusterNodes env t host)).Nodup := by
    refine List.nodup_flatMap.2 ⟨hnodes, ?_⟩
    refine (List.pairwise_map.1 hnames).imp fun hne n hn hn' => hne ?_
    rw [eq_of_mem_clusterNodes hn hn']
  have hgeos : (((addressedCodes (order.visit t.groupTargetsByGeo)).filter
      (fun g => !GeoCode.isDefaultCode g)).map Node.geo).Nodup :=
    (nodup_addressedCodes.filter _).map (fun g g' h => by cases h; rfl)
  have hplanned : ((plannedNodes env order t host).filter (fun n => !n.isDefault)).Nodup := by
    refine filter_plannedNodes_perm.nodup_iff.2 (List.nodup_append.2 ⟨hclusters, hgeos, ?_⟩)
    rintro n hn m hm rfl
    obtain ⟨c, -, hnc⟩ := List.mem_flatMap.1 hn
    obtain ⟨g, -, rfl⟩ := List.mem_map.1 hm
    rcases mem_clusterNodes.1 hnc with ⟨hk, -⟩ | ⟨v, -, hk⟩ | ⟨hk, -⟩ <;> cases hk
  cases hdefault : defaultGroup order t with
  | none =>
      unfold createdNodes
      rw [catchAll_plannedNodes, hdefault]
      exact List.nodup_nil
  | some code =>
      rw [createdNodes_eq hdefault]
      refine List.nodup_append.2 ⟨hplanned, by simp, ?_⟩
      rintro n hn m hm rfl
      obtain ⟨hplan, hnd⟩ := List.mem_filter.1 hn
      rcases List.mem_cons.1 hm with rfl | hm
      · cases hnd
      · rw [List.mem_singleton.1 hm] at hplan
        obtain ⟨c, -, hnc | ⟨hk, -⟩⟩ := (mem_plannedNodes rfl).1 hplan
        · rcases mem_clusterNodes.1 hnc with ⟨hk, -⟩ | ⟨v, -, hk⟩ | ⟨hk, -⟩ <;> cases hk
        · cases hk

variable (hW : WellFormedTarget env t host) (hC : ClustersApart env t)
include hW

theorem WellFormedTarget.clusterLbName_notMem_hostValues {c c' : ClusterGatewayTarget}
    (hc : c ∈ t.clusterGatewayTargets) :
    clusterLbName env (lbName env t host) c' ∉ c.hostValues :=
  clusterLbName_notMem fun v hv => (hW.host_ne c hc v hv).2

theorem WellFormedTarget.nodup_hostValues {c : ClusterGatewayTarget}
    (hc : c ∈ t.clusterGatewayTargets) : c.hostValues.Nodup :=
  (List.nodup_flatMap.1 (hW.hosts_nodup c hc)).1 c (List.mem_filter.2 ⟨hc, beq_self_eq_true _⟩)

include hC

theorem WellFormedTarget.nodup_createdNodes : (createdNodes env order t host).Nodup :=
  MultiClusterGateway.nodup_createdNodes hC.names_nodup fun c hc =>
    nodup_clusterNodes (hW.nodup_hostValues hc) fun v hv => (hW.host_ne c hc v hv).2

/-- Exactly one endpoint has a property that only one node's endpoint has. -/
theorem WellFormedTarget.filter_fullEndpoints {p : Endpoint → Bool} {n : Node}
    (hn : n ∈ createdNodes env order t host) (hp : p (builtEndpoint env order t host [] n) = true)
    (huniq : ∀ m ∈ createdNodes env order t host,
      p (builtEndpoint env order t host [] m) = true → m = n) :
    (fullEndpoints env order t host []).filter p = [builtEndpoint env order t host [] n] := by
  have hnodes : ((createdNodes env order t host).filter
      (p ∘ builtEndpoint env order t host [])).Perm [n] := by
    rw [List.perm_ext_iff_of_nodup ((hW.nodup_createdNodes hC).filter _) (List.nodup_singleton n)]
    intro m
    rw [List.mem_filter, List.mem_singleton]
    constructor
    · rintro ⟨hm, hpm⟩
      exact huniq m hm hpm
    · rintro rfl
      exact ⟨hn, hp⟩
  have hfull := (@fullEndpoints_perm env order t host [] unambiguous_nil).filter p
  rw [List.filter_map, List.perm_singleton.1 hnodes] at hfull
  exact List.perm_singleton.1 hfull

/-- Within a group, a target names the cluster. -/
theorem WellFormedTarget.eq_of_weighted {c c' : ClusterGatewayTarget} (hc : c ∈ addressed t)
    (hc' : c' ∈ addressed t) (hgeo : c'.geo = c.geo) {v : String}
    (h : Node.weighted c v ∈ clusterNodes env t host c)
    (h' : Node.weighted c' v ∈ clusterNodes env t host c') : c' = c := by
  have hmem := (mem_addressed.1 hc).1
  have hmem' := (mem_addressed.1 hc').1
  rcases mem_clusterNodes_weighted h with hv | hv <;>
    rcases mem_clusterNodes_weighted h' with hv' | hv'
  · -- a host name occurs once in a group
    by_contra hne
    have hdisj := (List.nodup_flatMap.1 (hW.hosts_nodup c hmem)).2
    have hsymm : Std.Symm (Function.onFun List.Disjoint ClusterGatewayTarget.hostValues) :=
      ⟨fun _ _ h => h.symm⟩
    exact hdisj.forall (List.mem_filter.2 ⟨hmem', beq_iff_eq.2 hgeo⟩)
      (List.mem_filter.2 ⟨hmem, beq_self_eq_true _⟩) hne hv' hv
  · exact absurd (hv' ▸ hv) (hW.clusterLbName_notMem_hostValues hmem)
  · exact absurd (hv ▸ hv') (hW.clusterLbName_notMem_hostValues hmem')
  · exact hW.eq_of_clusterLbName hC hc' hc (hv'.symm.trans hv)

theorem WellFormedTarget.contributesWeighted {c : ClusterGatewayTarget} (hc : c ∈ addressed t) :
    ContributesWeighted env t host (fullEndpoints env order t host []) c := by
  constructor
  · intro v hv
    refine ⟨_, hW.filter_fullEndpoints hC (hW.mem_createdNodes_of_clusterNodes hc hv) ?_ ?_,
      rfl, rfl⟩
    · have hr := @realizes_builtEndpoint_nil env order t host (.weighted c v)
      rw [hr.dnsName, hr.targets]
      simp [Node.dnsName, Node.targets]
    · intro m hm hp
      have hr := @realizes_builtEndpoint_nil env order t host m
      rw [hr.dnsName, hr.targets, Bool.and_eq_true, beq_iff_eq, beq_iff_eq] at hp
      obtain ⟨c', hc', w, rfl, hmem, hgeo⟩ := hW.dnsName_eq_geoLbName hC hm hc hp.1
      have hw : w = v := List.head_eq_of_cons_eq hp.2
      subst hw
      rw [hW.eq_of_weighted hC hc hc' hgeo hv hmem]
  · intro hip
    have haddr : Node.address c ∈ clusterNodes env t host c :=
      mem_clusterNodes.2 (Or.inl ⟨rfl, hip⟩)
    refine ⟨_, hW.filter_fullEndpoints hC (hW.mem_createdNodes_of_clusterNodes hc haddr) ?_ ?_,
      rfl, rfl⟩
    · exact beq_self_eq_true _
    · intro m hm hp
      have hr := @realizes_builtEndpoint_nil env order t host m
      rw [hr.dnsName, beq_iff_eq] at hp
      exact hW.dnsName_eq_clusterLbName hC hm hc hp

end

/-- For a record without previous endpoints and probes below their threshold, the endpoints resolve
    as designed, whatever the iteration order. -/
theorem resolvesAsDesigned_setEndpoints (env : Env) (order : MapOrder)
    (t : MultiClusterGatewayTarget) (host listenerName : String)
    (probes : List DNSHealthCheckProbe) (hW : WellFormedTarget env t host)
    (hC : ClustersApart env t) (hprobes : ∀ probe ∈ probes, probe.pastThreshold = false) :
    ResolvesAsDesigned env t host (setEndpoints env order t [] probes listenerName host) := by
  have hpub : setEndpoints env order t [] probes listenerName host
      = fullEndpoints env order t host [] := by
    refine publishEndpoints_of_forall_not_failed fun e _ => ?_
    rw [← Bool.not_eq_true, probeFailed_iff]
    rintro ⟨a, -, hfailed⟩
    obtain ⟨probe, hprobe, h⟩ := List.any_eq_true.1 hfailed
    rw [hprobes probe hprobe, Bool.and_false] at h
    cases h
  rw [hpub]
  exact ⟨fun client a => hW.resolves_host hC, fun c hc => hW.contributesWeighted hC hc⟩

/-- A cluster in the default geo `IE` beside another one. -/
def besideDefault (c : ClusterGatewayTarget) : MultiClusterGatewayTarget where
  gateway := { name := "testgw", ns := "testns" }
  clusterGatewayTargets := [{ firstCluster with geo := "IE" }, c]
  loadBalancing := some { geo := some ⟨"IE"⟩ }

/-- Beside a cluster in `US` with both kinds of addresses, and a probe that has not failed yet. -/
theorem resolvesAsDesigned_besideDefault :
    ResolvesAsDesigned Env.sample
      (besideDefault { secondCluster [⟨.hostname, "mylb.example.com"⟩] with geo := "US" })
      "test.example.com" (setEndpoints Env.sample .reversed
        (besideDefault { secondCluster [⟨.hostname, "mylb.example.com"⟩] with geo := "US" }) []
        [{ failedProbe "1.1.1.1" with status := { consecutiveFailures := 1 } }] "test"
        "test.example.com") := by
  refine resolvesAsDesigned_setEndpoints _ _ _ _ _ _ ?_ ⟨?_, ?_⟩ ?_
  · constructor <;> decide +kernel
  · decide +kernel
  · decide +kernel
  · decide +kernel

/-- With a geo code that is a short code in upper case, or with one cluster listed in two geos,
    clients of `IE` are also led to the other cluster. -/
theorem not_resolvesAsDesigned_besideDefault :
    (WellFormedTarget Env.sample (besideDefault { secondCluster [] with geo := "20QRI0" })
        "test.example.com" ∧
      ¬ ResolvesAsDesigned Env.sample (besideDefault { secondCluster [] with geo := "20QRI0" })
        "test.example.com" (setEndpoints Env.sample .inserted
          (besideDefault { secondCluster [] with geo := "20QRI0" }) [] [] "test"
          "test.example.com")) ∧
    (WellFormedTarget Env.sample
        (besideDefault { secondCluster [] with cluster := firstCluster.cluster, geo := "US" })
        "test.example.com" ∧
      ¬ ResolvesAsDesigned Env.sample
        (besideDefault { secondCluster [] with cluster := firstCluster.cluster, geo := "US" })
        "test.example.com" (setEndpoints Env.sample .inserted
          (besideDefault { secondCluster [] with cluster := firstCluster.cluster, geo := "US" })
          [] [] "test" "test.example.com")) := by
  have hfull : ∀ t : MultiClusterGatewayTarget,
      setEndpoints Env.sample .inserted t [] [] "test" "test.example.com"
        = fullEndpoints Env.sample .inserted t "test.example.com" [] :=
    fun t => publishEndpoints_of_forall_not_failed fun e _ => by
      rw [← Bool.not_eq_true, probeFailed_iff]
      rintro ⟨a, -, hfailed⟩
      cases hfailed
  rw [hfull, hfull]
  constructor
  · have hW : WellFormedTarget Env.sample (besideDefault { secondCluster [] with geo := "20QRI0" })
        "test.example.com" := by
      constructor <;> decide +kernel
    refine ⟨hW, fun h => ?_⟩
    have hreach := (h.1 "IE" "2.2.2.2").1 (hW.resolves_host_of_geo_eq_shortCode
      (c := { firstCluster with geo := "IE" }) (by decide +kernel) (by decide +kernel)
      (by decide +kernel) (List.mem_of_mem_tail (List.mem_singleton_self _)) (by decide +kernel)
      (by decide +kernel))
    revert hreach
    decide +kernel
  · have hW : WellFormedTarget Env.sample
        (besideDefault { secondCluster [] with cluster := firstCluster.cluster, geo := "US" })
        "test.example.com" := by
      constructor <;> decide +kernel
    refine ⟨hW, fun h => ?_⟩
    have hreach := (h.1 "IE" "2.2.2.2").1 (hW.resolves_host_of_shortCode_eq
      (c := { firstCluster with geo := "IE" }) (by decide +kernel) (by decide +kernel)
      (by decide +kernel) (List.mem_of_mem_tail (List.mem_singleton_self _)) (by decide +kernel)
      (by decide +kernel))
    revert hreach
    decide +kernel

end MultiClusterGateway
