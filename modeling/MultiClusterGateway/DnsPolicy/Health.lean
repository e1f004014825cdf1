import MultiClusterGateway.DnsPolicy.BuiltEndpoints
import MultiClusterGateway.DnsPolicy.Pruning

set_option autoImplicit false

/-! # Health checks and the published endpoints

What the removal of unhealthy endpoints is for: as long as some leaf of the tree is healthy, exactly
the endpoints that lead to a healthy leaf stay published (`PublishesHealthy`), and the catch-all at
the lb name always leads somewhere (`HasCatchAll`). The code keeps neither promise. It takes a leaf
for a parent without children when none of its targets looks like an IP address, so one failed probe
anywhere removes every healthy host name; and the catch-all is pruned with the group it leads to.
The theorems say for which targets and probes it does what it is for.

All of this presumes that the names of the tree are kept apart (`NamesApart`): an address that is
itself a generated name would make a leaf a parent. -/

namespace MultiClusterGateway

open Support

/-! ## Leaves and what leads to them -/

section
variable (env : Env) (t : MultiClusterGatewayTarget) (host : String)

/-- The targets are gateway addresses: an A endpoint, or a geo-level CNAME to a host name of a
    cluster. -/
def IsLeaf (e : Endpoint) : Prop :=
  e.recordType = .A ∨
    (e.recordType = .CNAME ∧
      (∃ c ∈ t.clusterGatewayTargets, e.dnsName = geoLbName env (lbName env t host) c.geo) ∧
      ∃ c ∈ t.clusterGatewayTargets, ∃ h ∈ c.hostValues, e.targets = [h])

/-- Following targets to names within `full`, an endpoint with property `goal` can be reached. -/
inductive Reaches (full : List Endpoint) (goal : Endpoint → Prop) : Endpoint → Prop
  | here {e : Endpoint} (h : goal e) : Reaches full goal e
  | step {e x : Endpoint} (hx : x ∈ full) (hchild : ChildOf e x) (h : Reaches full goal x) :
      Reaches full goal e

/-- A leaf none of whose probes is past its threshold. -/
def AliveLeaf (probes : List DNSHealthCheckProbe) (listenerName : String) (e : Endpoint) : Prop :=
  IsLeaf env t host e ∧ probeFailed probes t.gateway.name listenerName e = false

open Classical in
/-- Published are exactly the endpoints that lead to a healthy leaf, and all of them if no leaf is
    healthy. -/
def PublishesHealthy (order : MapOrder) (endpoints : List Endpoint)
    (probes : List DNSHealthCheckProbe) (listenerName : String) : Prop :=
  ((∃ e ∈ fullEndpoints env order t host endpoints, AliveLeaf env t host probes listenerName e) →
    setEndpoints env order t endpoints probes listenerName host =
      (fullEndpoints env order t host endpoints).filter (fun e => decide
        (Reaches (fullEndpoints env order t host endpoints)
          (AliveLeaf env t host probes listenerName) e))) ∧
  ((¬ ∃ e ∈ fullEndpoints env order t host endpoints, AliveLeaf env t host probes listenerName e) →
    setEndpoints env order t endpoints probes listenerName host
      = fullEndpoints env order t host endpoints)

/-! ## Conditions on the target and the probes -/

/-- A probe named after the address is past its threshold. -/
def addressFailed (probes : List DNSHealthCheckProbe) (gatewayName listenerName address : String) :
    Bool :=
  probes.any (fun probe =>
    probe.metadata.name == dnsHealthCheckProbeName address gatewayName listenerName &&
      probe.pastThreshold)

/-- The names that targets of the tree can point to. -/
def generatedNames : List String :=
  lbName env t host :: (addressed t).flatMap (fun c =>
    [geoLbName env (lbName env t host) c.geo, clusterLbName env (lbName env t host) c])

/-- No address is a name of the tree, no name of the tree looks like an IP address or has a failed
    probe, and no two nodes claim one existing endpoint. -/
structure NamesApart (endpoints : List Endpoint) (failed : String → Bool) : Prop where
  unambiguous : Unambiguous env t host endpoints
  address_ne : ∀ c ∈ addressed t, ∀ a ∈ c.gatewayAddresses,
    a.value ≠ host ∧ a.value ∉ generatedNames env t host
  geo_ne_cluster : ∀ c ∈ addressed t, ∀ c' ∈ addressed t,
    geoLbName env (lbName env t host) c.geo ≠ clusterLbName env (lbName env t host) c'
  not_ip : ∀ s ∈ generatedNames env t host, matchesIPPattern s = false
  not_failed : ∀ s ∈ generatedNames env t host, failed s = false

/-- No probe for a target of the tree has failed. -/
def NoTargetFailed (failed : String → Bool) : Prop :=
  (∀ c ∈ addressed t, ∀ a ∈ c.gatewayAddresses, failed a.value = false) ∧
    ∀ s ∈ generatedNames env t host, failed s = false

/-- Every healthy leaf has a target that looks like an IP address. -/
def HealthyLeavesIPLike (failed : String → Bool) : Prop :=
  ∀ c ∈ addressed t,
    (c.ipValues ≠ [] → (∀ a ∈ c.ipValues, failed a = false) →
      ∃ a ∈ c.ipValues, matchesIPPattern a = true) ∧
    ∀ h ∈ c.hostValues, failed h = false → matchesIPPattern h = true

end

theorem probeFailed_iff {probes : List DNSHealthCheckProbe} {gatewayName listenerName : String}
    {e : Endpoint} :
    probeFailed probes gatewayName listenerName e = true ↔
      ∃ a ∈ e.targets, addressFailed probes gatewayName listenerName a = true := by
  simp only [probeFailed, getProbesForEndpoint, addressFailed, List.any_eq_true, List.mem_flatMap,
    List.mem_map, List.mem_filter, beq_iff_eq, Bool.and_eq_true]
  constructor
  · rintro ⟨probe, ⟨p, hp, a, ⟨ha, hname⟩, rfl⟩, hpast⟩
    exact ⟨a, ha, p, hp, hname.symm, hpast⟩
  · rintro ⟨a, ha, p, hp, hname, hpast⟩
    exact ⟨p, ⟨p, hp, a, ⟨ha, hname.symm⟩, rfl⟩, hpast⟩

theorem probeFailed_eq_false_iff {probes : List DNSHealthCheckProbe}
    {gatewayName listenerName : String} {e : Endpoint} :
    probeFailed probes gatewayName listenerName e = false ↔
      ∀ a ∈ e.targets, addressFailed probes gatewayName listenerName a = false := by
  rw [← Bool.not_eq_true, probeFailed_iff]
  push Not
  simp

/-! ## Nodes by their distance from the addresses -/

namespace Node

/-- The node's targets are gateway addresses. -/
def isLeaf : Node → Bool
  | .address _ => true
  | .weighted c h => decide (h ∈ c.hostValues)
  | _ => false

/-- Targets lead from higher to lower ranks. -/
def rank : Node → Nat
  | .address _ => 0
  | .weighted _ _ => 1
  | .geo _ => 2
  | .default _ => 2
  | .host => 3

end Node

section
variable {env : Env} {order : MapOrder} {t : MultiClusterGatewayTarget} {host : String}
  {endpoints : List Endpoint} {failed : String → Bool}

theorem mem_addresses_of_mem_ipValues {c : ClusterGatewayTarget} {a : String}
    (h : a ∈ c.ipValues) : ∃ ga ∈ c.gatewayAddresses, ga.value = a := by
  obtain ⟨ga, hga, hval⟩ := List.mem_map.1 h
  exact ⟨ga, (List.mem_filter.1 hga).1, hval⟩

theorem mem_addresses_of_mem_hostValues {c : ClusterGatewayTarget} {a : String}
    (h : a ∈ c.hostValues) : ∃ ga ∈ c.gatewayAddresses, ga.value = a := by
  obtain ⟨ga, hga, hval⟩ := List.mem_map.1 h
  exact ⟨ga, (List.mem_filter.1 hga).1, hval⟩

theorem mem_ipValues_or_mem_hostValues {c : ClusterGatewayTarget} {ga : GatewayAddress}
    (h : ga ∈ c.gatewayAddresses) : ga.value ∈ c.ipValues ∨ ga.value ∈ c.hostValues := by
  by_cases htype : ga.type = .ipAddress
  · exact Or.inl (List.mem_map.2 ⟨ga, List.mem_filter.2 ⟨h, by simp [htype]⟩, rfl⟩)
  · exact Or.inr (List.mem_map.2 ⟨ga, List.mem_filter.2 ⟨h, by simp [htype]⟩, rfl⟩)

theorem addressed_of_mem_hostValues {c : ClusterGatewayTarget} (hc : c ∈ t.clusterGatewayTargets)
    {h : String} (hh : h ∈ c.hostValues) : c ∈ addressed t := by
  obtain ⟨ga, hga, -⟩ := mem_addresses_of_mem_hostValues hh
  exact mem_addressed.2 ⟨hc, List.ne_nil_of_mem hga⟩

theorem lbName_mem_generatedNames : lbName env t host ∈ generatedNames env t host :=
  List.mem_cons_self

theorem geoLbName_mem_generatedNames {c : ClusterGatewayTarget} (hc : c ∈ addressed t) :
    geoLbName env (lbName env t host) c.geo ∈ generatedNames env t host :=
  List.mem_cons_of_mem _ (List.mem_flatMap.2 ⟨c, hc, by simp⟩)

theorem clusterLbName_mem_generatedNames {c : ClusterGatewayTarget} (hc : c ∈ addressed t) :
    clusterLbName env (lbName env t host) c ∈ generatedNames env t host :=
  List.mem_cons_of_mem _ (List.mem_flatMap.2 ⟨c, hc, by simp⟩)

/-- The nodes of a target, kind by kind. -/
theorem treeNodes_cases {n : Node} (h : n ∈ treeNodes env t host) :
    (∃ c ∈ addressed t, n = .address c ∧ c.ipValues ≠ []) ∨
    (∃ c ∈ addressed t, ∃ v ∈ c.hostValues, n = .weighted c v) ∨
    (∃ c ∈ addressed t, n = .weighted c (clusterLbName env (lbName env t host) c) ∧
      c.ipValues ≠ []) ∨
    (∃ c ∈ addressed t, n = .geo c.geo ∨ n = .default c.geo) ∨ n = .host := by
  rcases mem_treeNodes.1 h with ⟨c, hc, hmem | ⟨rfl, -⟩ | rfl⟩ | rfl
  · rcases mem_clusterNodes.1 hmem with ⟨rfl, hip⟩ | ⟨v, hv, rfl⟩ | ⟨rfl, hip⟩
    · exact Or.inl ⟨c, hc, rfl, hip⟩
    · exact Or.inr (Or.inl ⟨c, hc, v, hv, rfl⟩)
    · exact Or.inr (Or.inr (Or.inl ⟨c, hc, rfl, hip⟩))
  · exact Or.inr (Or.inr (Or.inr (Or.inl ⟨c, hc, Or.inl rfl⟩)))
  · exact Or.inr (Or.inr (Or.inr (Or.inl ⟨c, hc, Or.inr rfl⟩)))
  · exact Or.inr (Or.inr (Or.inr (Or.inr rfl)))

theorem dnsName_mem {n : Node} (h : n ∈ treeNodes env t host) :
    n.dnsName env t host = host ∨ n.dnsName env t host ∈ generatedNames env t host := by
  rcases treeNodes_cases h with ⟨c, hc, rfl, -⟩ | ⟨c, hc, v, -, rfl⟩ | ⟨c, hc, rfl, -⟩ |
    ⟨c, hc, rfl | rfl⟩ | rfl
  · exact Or.inr (clusterLbName_mem_generatedNames hc)
  · exact Or.inr (geoLbName_mem_generatedNames hc)
  · exact Or.inr (geoLbName_mem_generatedNames hc)
  · exact Or.inr lbName_mem_generatedNames
  · exact Or.inr lbName_mem_generatedNames
  · exact Or.inl rfl

/-- The targets of a leaf are gateway addresses. -/
theorem targets_of_isLeaf {n : Node} (h : n ∈ treeNodes env t host) (hleaf : n.isLeaf = true)
    {a : String} (ha : a ∈ n.targets env t host) :
    ∃ c ∈ addressed t, ∃ ga ∈ c.gatewayAddresses, ga.value = a := by
  rcases treeNodes_cases h with ⟨c, hc, rfl, -⟩ | ⟨c, hc, v, hv, rfl⟩ | ⟨c, hc, rfl, -⟩ |
    ⟨c, hc, rfl | rfl⟩ | rfl
  · exact ⟨c, hc, mem_addresses_of_mem_ipValues ha⟩
  · rw [List.mem_singleton.1 ha]
    exact ⟨c, hc, mem_addresses_of_mem_hostValues hv⟩
  · rw [List.mem_singleton.1 ha]
    exact ⟨c, hc, mem_addresses_of_mem_hostValues (of_decide_eq_true hleaf)⟩
  · cases hleaf
  · cases hleaf
  · cases hleaf

/-- The targets of every other node are generated names. -/
theorem targets_of_not_isLeaf {n : Node} (h : n ∈ treeNodes env t host) (hleaf : n.isLeaf = false)
    {a : String} (ha : a ∈ n.targets env t host) : a ∈ generatedNames env t host := by
  rcases treeNodes_cases h with ⟨c, hc, rfl, -⟩ | ⟨c, hc, v, hv, rfl⟩ | ⟨c, hc, rfl, -⟩ |
    ⟨c, hc, rfl | rfl⟩ | rfl
  · cases hleaf
  · exact absurd hv (of_decide_eq_false hleaf)
  · rw [List.mem_singleton.1 ha]
    exact clusterLbName_mem_generatedNames hc
  · rw [List.mem_singleton.1 ha]
    exact geoLbName_mem_generatedNames hc
  · rw [List.mem_singleton.1 ha]
    exact geoLbName_mem_generatedNames hc
  · rw [List.mem_singleton.1 ha]
    exact lbName_mem_generatedNames

section
variable (hW : NamesApart env t host endpoints failed)
include hW

/-- A leaf has no children. -/
theorem not_child_of_isLeaf {n m : Node} (hn : n ∈ treeNodes env t host)
    (hm : m ∈ treeNodes env t host) (hleaf : n.isLeaf = true) :
    m.dnsName env t host ∉ n.targets env t host := by
  intro hchild
  obtain ⟨c, hc, ga, hga, hval⟩ := targets_of_isLeaf hn hleaf hchild
  obtain ⟨hhost, hgen⟩ := hW.address_ne c hc ga hga
  rw [hval] at hhost hgen
  rcases dnsName_mem hm with h | h
  · exact hhost h
  · exact hgen h

/-- A child is nearer to the addresses than its parent. -/
theorem rank_lt_of_child {n m : Node} (hn : n ∈ treeNodes env t host)
    (hm : m ∈ treeNodes env t host) (hchild : m.dnsName env t host ∈ n.targets env t host) :
    m.rank < n.rank := by
  by_cases hleaf : n.isLeaf = true
  · exact absurd hchild (not_child_of_isLeaf hW hn hm hleaf)
  · rcases treeNodes_cases hn with ⟨c, hc, rfl, -⟩ | ⟨c, hc, v, hv, rfl⟩ | ⟨c, hc, rfl, -⟩ |
      ⟨c, hc, rfl | rfl⟩ | rfl
    · exact absurd rfl hleaf
    · exact absurd (decide_eq_true hv) hleaf
    · have hname := List.mem_singleton.1 hchild
      rcases treeNodes_cases hm with ⟨c', hc', rfl, -⟩ | ⟨c', hc', v, -, rfl⟩ |
        ⟨c', hc', rfl, -⟩ | ⟨c', -, rfl | rfl⟩ | rfl
      · exact Nat.zero_lt_one
      · exact absurd hname (hW.geo_ne_cluster c' hc' c hc)
      · exact absurd hname (hW.geo_ne_cluster c' hc' c hc)
      · exact absurd hname.symm (clusterLbName_ne_lbName t host c)
      · exact absurd hname.symm (clusterLbName_ne_lbName t host c)
      · exact absurd hname (host_ne_clusterLbName t host c)
    · have hname := List.mem_singleton.1 hchild
      rcases treeNodes_cases hm with ⟨c', hc', rfl, -⟩ | ⟨c', hc', v, -, rfl⟩ |
        ⟨c', hc', rfl, -⟩ | ⟨c', -, rfl | rfl⟩ | rfl
      · exact absurd hname.symm (hW.geo_ne_cluster c hc c' hc')
      · exact Nat.one_lt_two
      · exact Nat.one_lt_two
      · exact absurd hname.symm (geoLbName_ne_lbName t host c.geo)
      · exact absurd hname.symm (geoLbName_ne_lbName t host c.geo)
      · exact absurd hname (host_ne_geoLbName t host c.geo)
    · have hname := List.mem_singleton.1 hchild
      rcases treeNodes_cases hm with ⟨c', hc', rfl, -⟩ | ⟨c', hc', v, -, rfl⟩ |
        ⟨c', hc', rfl, -⟩ | ⟨c', -, rfl | rfl⟩ | rfl
      · exact absurd hname.symm (hW.geo_ne_cluster c hc c' hc')
      · exact Nat.one_lt_two
      · exact Nat.one_lt_two
      · exact absurd hname.symm (geoLbName_ne_lbName t host c.geo)
      · exact absurd hname.symm (geoLbName_ne_lbName t host c.geo)
      · exact absurd hname (host_ne_geoLbName t host c.geo)
    · have hname := List.mem_singleton.1 hchild
      rcases treeNodes_cases hm with ⟨c', -, rfl, -⟩ | ⟨c', -, v, -, rfl⟩ | ⟨c', -, rfl, -⟩ |
        ⟨c', -, rfl | rfl⟩ | rfl
      · exact absurd hname (clusterLbName_ne_lbName t host c')
      · exact absurd hname (geoLbName_ne_lbName t host c'.geo)
      · exact absurd hname (geoLbName_ne_lbName t host c'.geo)
      · exact Nat.lt_succ_self 2
      · exact Nat.lt_succ_self 2
      · exact absurd hname (host_ne_lbName t host)

end

/-! ## The tree as a list of endpoints -/

section
variable (hU : Unambiguous env t host endpoints)
include hU

theorem exists_realizes {e : Endpoint} (he : e ∈ fullEndpoints env order t host endpoints) :
    ∃ n ∈ createdNodes env order t host, Realizes env t host n e := by
  obtain ⟨n, hn, rfl⟩ := (mem_fullEndpoints hU).1 he
  exact ⟨n, hn, realizes_builtEndpoint hU hn⟩

theorem exists_mem_fullEndpoints {n : Node} (hn : n ∈ createdNodes env order t host) :
    ∃ e ∈ fullEndpoints env order t host endpoints, Realizes env t host n e :=
  ⟨_, (mem_fullEndpoints hU).2 ⟨n, hn, rfl⟩, realizes_builtEndpoint hU hn⟩

end

theorem exists_defaultGroup {c : ClusterGatewayTarget} (hc : c ∈ addressed t) :
    ∃ code, defaultGroup order t = some code := by
  rw [← Option.ne_none_iff_exists']
  intro hnone
  rw [defaultGroup_eq_none.1 hnone] at hc
  simp at hc

theorem mem_createdNodes_of_mem_clusterNodes {c : ClusterGatewayTarget} (hc : c ∈ addressed t)
    {n : Node} (hn : n ∈ clusterNodes env t host c) : n ∈ createdNodes env order t host := by
  obtain ⟨code, hcode⟩ := @exists_defaultGroup order t c hc
  exact mem_createdNodes.2 ⟨code, hcode, Or.inr (Or.inr ⟨c, hc, Or.inl hn⟩)⟩

/-- Every cluster with an address has a weighted CNAME. -/
theorem exists_weighted {c : ClusterGatewayTarget} (hc : c ∈ addressed t) :
    ∃ v, Node.weighted c v ∈ clusterNodes env t host c := by
  by_cases hip : c.ipValues = []
  · have hhost : c.hostValues ≠ [] := fun h =>
      (mem_addressed.1 hc).2 (ClusterGatewayTarget.ipValues_nil_and_hostValues_nil.1 ⟨hip, h⟩)
    obtain ⟨v, hv⟩ := List.exists_mem_of_ne_nil _ hhost
    exact ⟨v, mem_clusterNodes.2 (Or.inr (Or.inl ⟨v, hv, rfl⟩))⟩
  · exact ⟨_, mem_clusterNodes.2 (Or.inr (Or.inr ⟨rfl, hip⟩))⟩

theorem IsLeaf.of_node {n : Node} {e : Endpoint} (hn : n ∈ treeNodes env t host)
    (h : Realizes env t host n e) (hleaf : n.isLeaf = true) : IsLeaf env t host e := by
  rcases treeNodes_cases hn with ⟨c, hc, rfl, -⟩ | ⟨c, hc, v, hv, rfl⟩ | ⟨c, hc, rfl, -⟩ |
    ⟨c, -, rfl | rfl⟩ | rfl
  · exact Or.inl h.recordType
  · have hmem := (mem_addressed.1 hc).1
    exact Or.inr ⟨h.recordType, ⟨c, hmem, h.dnsName⟩, c, hmem, v, hv, h.targets⟩
  · have hmem := (mem_addressed.1 hc).1
    exact Or.inr ⟨h.recordType, ⟨c, hmem, h.dnsName⟩, c, hmem, _, of_decide_eq_true hleaf,
      h.targets⟩
  · cases hleaf
  · cases hleaf
  · cases hleaf

/-- With the names kept apart, the leaves are the endpoints of the leaf nodes. -/
theorem isLeaf_iff (hW : NamesApart env t host endpoints failed) {n : Node} {e : Endpoint}
    (hn : n ∈ treeNodes env t host) (h : Realizes env t host n e) :
    IsLeaf env t host e ↔ n.isLeaf = true := by
  constructor
  · rintro (hA | ⟨-, -, c', hc', v', hv', htargets⟩)
    · rw [h.recordType] at hA
      cases n <;> first | rfl | cases hA
    · -- a host name of a cluster is no generated name, so it is the target of a leaf node only
      by_contra hnl
      have hgen := targets_of_not_isLeaf hn (Bool.eq_false_of_not_eq_true hnl)
        (show v' ∈ n.targets env t host by rw [← h.targets, htargets]; exact List.mem_singleton_self _)
      obtain ⟨ga, hga, rfl⟩ := mem_addresses_of_mem_hostValues hv'
      exact (hW.address_ne c' (addressed_of_mem_hostValues hc' hv') ga hga).2 hgen
  · exact IsLeaf.of_node hn h

variable {probes : List DNSHealthCheckProbe} {listenerName : String}

/-- If no probe has failed, every endpoint leads to a healthy leaf. -/
theorem reaches_of_forall_not_failed (hU : Unambiguous env t host endpoints)
    (hno : ∀ e ∈ fullEndpoints env order t host endpoints,
      probeFailed probes t.gateway.name listenerName e = false) {e : Endpoint}
    (he : e ∈ fullEndpoints env order t host endpoints) :
    Reaches (fullEndpoints env order t host endpoints) (AliveLeaf env t host probes listenerName)
      e := by
  -- from the leaves up to the listener's host
  have hleaf : ∀ n ∈ createdNodes env order t host, n.isLeaf = true →
      ∀ x ∈ fullEndpoints env order t host endpoints, Realizes env t host n x →
      Reaches (fullEndpoints env order t host endpoints)
        (AliveLeaf env t host probes listenerName) x := fun n hn hl x hx hr =>
    .here ⟨.of_node (createdNodes_subset_treeNodes hn) hr hl, hno x hx⟩
  have hweighted : ∀ c ∈ addressed t, ∀ v, Node.weighted c v ∈ clusterNodes env t host c →
      ∀ x ∈ fullEndpoints env order t host endpoints, Realizes env t host (.weighted c v) x →
      Reaches (fullEndpoints env order t host endpoints)
        (AliveLeaf env t host probes listenerName) x := by
    intro c hc v hmem x hx hr
    rcases mem_clusterNodes.1 hmem with ⟨h, -⟩ | ⟨v', hv', h⟩ | ⟨h, hip⟩
    · cases h
    · cases h
      exact hleaf _ (mem_createdNodes_of_mem_clusterNodes hc hmem) (decide_eq_true hv') x hx hr
    · cases h
      have haddr := @mem_createdNodes_of_mem_clusterNodes env order t host c hc (.address c)
        (mem_clusterNodes.2 (Or.inl ⟨rfl, hip⟩))
      obtain ⟨y, hy, hyr⟩ := exists_mem_fullEndpoints hU haddr
      refine .step hy ?_ (hleaf _ haddr rfl y hy hyr)
      show y.dnsName ∈ x.targets
      rw [hyr.dnsName, hr.targets]
      exact List.mem_singleton_self _
  have hgeo : ∀ c ∈ addressed t, ∀ x ∈ fullEndpoints env order t host endpoints,
      x.targets = [geoLbName env (lbName env t host) c.geo] →
      Reaches (fullEndpoints env order t host endpoints)
        (AliveLeaf env t host probes listenerName) x := by
    intro c hc x hx htargets
    obtain ⟨v, hv⟩ := @exists_weighted env t host c hc
    obtain ⟨y, hy, hyr⟩ := exists_mem_fullEndpoints hU
      (@mem_createdNodes_of_mem_clusterNodes env order t host c hc _ hv)
    refine .step hy ?_ (hweighted c hc v hv y hy hyr)
    show y.dnsName ∈ x.targets
    rw [hyr.dnsName, htargets]
    exact List.mem_singleton_self _
  obtain ⟨n, hn, hr⟩ := exists_realizes hU he
  obtain ⟨code, hcode, rfl | rfl | ⟨c, hc, hmem | ⟨rfl, -⟩⟩⟩ := mem_createdNodes.1 hn
  · obtain ⟨c, hc, rfl⟩ := exists_addressed_of_defaultGroup hcode
    exact hgeo c hc e he hr.targets
  · -- the listener's host points to the catch-all
    obtain ⟨c, hc, rfl⟩ := exists_addressed_of_defaultGroup hcode
    obtain ⟨y, hy, hyr⟩ := exists_mem_fullEndpoints hU
      (mem_createdNodes.2 ⟨c.geo, hcode, Or.inl rfl⟩)
    refine .step hy ?_ (hgeo c hc y hy hyr.targets)
    show y.dnsName ∈ e.targets
    rw [hyr.dnsName, hr.targets]
    exact List.mem_singleton_self _
  · cases n with
    | address c' => exact hleaf _ hn rfl e he hr
    | weighted c' v =>
        have hcc : c' = c := by
          rcases mem_clusterNodes.1 hmem with ⟨h, -⟩ | ⟨_, -, h⟩ | ⟨h, -⟩ <;> cases h <;> rfl
        subst hcc
        exact hweighted c' hc v hmem e he hr
    | geo code' => rcases mem_clusterNodes.1 hmem with ⟨h, -⟩ | ⟨_, -, h⟩ | ⟨h, -⟩ <;> cases h
    | default code' => rcases mem_clusterNodes.1 hmem with ⟨h, -⟩ | ⟨_, -, h⟩ | ⟨h, -⟩ <;> cases h
    | host => rcases mem_clusterNodes.1 hmem with ⟨h, -⟩ | ⟨_, -, h⟩ | ⟨h, -⟩ <;> cases h
  · exact hgeo c hc e he hr.targets

/-! ## What survives -/

theorem Reaches.mono {full : List Endpoint} {goal goal' : Endpoint → Prop}
    (hgoal : ∀ x ∈ full, goal x → goal' x) {e : Endpoint} (he : e ∈ full)
    (h : Reaches full goal e) : Reaches full goal' e := by
  induction h with
  | here h => exact .here (hgoal _ he h)
  | step hx hchild _ ih => exact .step hx hchild (ih hx)

/-- A healthy leaf that the pruning recognises as one. -/
def AliveIPLeaf (env : Env) (t : MultiClusterGatewayTarget) (host : String)
    (probes : List DNSHealthCheckProbe) (listenerName : String) (e : Endpoint) : Prop :=
  AliveLeaf env t host probes listenerName e ∧ IPLike e

section
variable (hW : NamesApart env t host endpoints
  (addressFailed probes t.gateway.name listenerName))
include hW

theorem not_failed_of_not_isLeaf {n : Node} {e : Endpoint} (hn : n ∈ treeNodes env t host)
    (hr : Realizes env t host n e) (hleaf : n.isLeaf = false) :
    probeFailed probes t.gateway.name listenerName e = false := by
  rw [probeFailed_eq_false_iff]
  intro a ha
  rw [hr.targets] at ha
  exact hW.not_failed a (targets_of_not_isLeaf hn hleaf ha)

theorem not_ipLike_of_not_isLeaf {n : Node} {e : Endpoint} (hn : n ∈ treeNodes env t host)
    (hr : Realizes env t host n e) (hleaf : n.isLeaf = false) : ¬ IPLike e := by
  intro hip
  obtain ⟨a, ha, hmatch⟩ := List.any_eq_true.1 hip
  rw [hr.targets] at ha
  rw [hW.not_ip a (targets_of_not_isLeaf hn hleaf ha)] at hmatch
  cases hmatch

/-- Endpoints that lead to a healthy leaf have no failed probe themselves. -/
theorem not_failed_of_reaches {goal : Endpoint → Prop}
    (hgoal : ∀ x ∈ fullEndpoints env order t host endpoints, goal x →
      probeFailed probes t.gateway.name listenerName x = false) {e : Endpoint}
    (he : e ∈ fullEndpoints env order t host endpoints)
    (h : Reaches (fullEndpoints env order t host endpoints) goal e) :
    probeFailed probes t.gateway.name listenerName e = false := by
  obtain ⟨n, hn, hr⟩ := exists_realizes hW.unambiguous he
  have hntree := createdNodes_subset_treeNodes hn
  by_cases hleaf : n.isLeaf = true
  · cases h with
    | here h => exact hgoal e he h
    | step hx hchild _ =>
        obtain ⟨m, hm, hmr⟩ := exists_realizes hW.unambiguous hx
        unfold ChildOf at hchild
        rw [hmr.dnsName, hr.targets] at hchild
        exact absurd hchild (not_child_of_isLeaf hW hntree (createdNodes_subset_treeNodes hm) hleaf)
  · exact not_failed_of_not_isLeaf hW hntree hr (Bool.eq_false_of_not_eq_true hleaf)

/-- What survives the pruning is what leads to a healthy leaf with an IP-like target. -/
theorem survives_iff {e : Endpoint} (he : e ∈ fullEndpoints env order t host endpoints) :
    Survives (probeFailed probes t.gateway.name listenerName)
        (fullEndpoints env order t host endpoints) e ↔
      Reaches (fullEndpoints env order t host endpoints)
        (AliveIPLeaf env t host probes listenerName) e := by
  constructor
  · -- down the ranks: a survivor without an IP-like target has a surviving child
    rintro ⟨hnf, hkept⟩
    obtain ⟨n, hn, hr⟩ := exists_realizes hW.unambiguous he
    induction hrank : n.rank using Nat.strong_induction_on generalizing n e with
    | _ k ih =>
        have hntree := createdNodes_subset_treeNodes hn
        have hA : e ∈ (fullEndpoints env order t host endpoints).filter
            (fun e => !probeFailed probes t.gateway.name listenerName e) :=
          List.mem_filter.2 ⟨he, by simp [hnf]⟩
        rcases closedOn_kept _ e hA hkept with hip | ⟨x, hxA, hxkept, hchild⟩
        · have hleaf : n.isLeaf = true := by
            by_contra h
            exact not_ipLike_of_not_isLeaf hW hntree hr (Bool.eq_false_of_not_eq_true h) hip
          exact .here ⟨⟨.of_node hntree hr hleaf, hnf⟩, hip⟩
        · obtain ⟨hx, hxnf⟩ := List.mem_filter.1 hxA
          obtain ⟨m, hm, hmr⟩ := exists_realizes hW.unambiguous hx
          have hlt : m.rank < n.rank := by
            apply rank_lt_of_child hW hntree (createdNodes_subset_treeNodes hm)
            rw [← hmr.dnsName, ← hr.targets]
            exact hchild
          exact .step hx hchild (ih m.rank (hrank ▸ hlt) hx (by simpa using hxnf) hxkept m hm hmr rfl)
  · intro h
    have hgoal : ∀ x ∈ fullEndpoints env order t host endpoints,
        AliveIPLeaf env t host probes listenerName x →
        probeFailed probes t.gateway.name listenerName x = false := fun x _ hx => hx.1.2
    refine ⟨not_failed_of_reaches hW hgoal he h, _, fun a ha hreach => ?_, h⟩
    cases hreach with
    | here h => exact Or.inl h.2
    | step hx hchild hreach =>
        have hxnf := not_failed_of_reaches hW hgoal hx hreach
        exact Or.inr ⟨_, List.mem_filter.2 ⟨hx, by simp [hxnf]⟩, hreach, hchild⟩

end

/-- If no probe for a target of the tree has failed, no endpoint is removed. -/
theorem not_failed_of_noTargetFailed
    (hno : NoTargetFailed env t host (addressFailed probes t.gateway.name listenerName))
    {e : Endpoint} (he : e ∈ fullEndpoints env order t host endpoints) :
    probeFailed probes t.gateway.name listenerName e = false := by
  obtain ⟨n, hn, hr⟩ := exists_node_of_mem_fullEndpoints he
  rw [probeFailed_eq_false_iff]
  intro a ha
  rw [hr.targets] at ha
  by_cases hleaf : n.isLeaf = true
  · obtain ⟨c, hc, ga, hga, rfl⟩ := targets_of_isLeaf hn hleaf ha
    exact hno.1 c hc ga hga
  · exact hno.2 a (targets_of_not_isLeaf hn (Bool.eq_false_of_not_eq_true hleaf) ha)

theorem ipLike_of_healthyLeavesIPLike
    (hW : NamesApart env t host endpoints (addressFailed probes t.gateway.name listenerName))
    (hip : HealthyLeavesIPLike t (addressFailed probes t.gateway.name listenerName))
    {e : Endpoint} (he : e ∈ fullEndpoints env order t host endpoints)
    (halive : AliveLeaf env t host probes listenerName e) : IPLike e := by
  obtain ⟨n, hn, hr⟩ := exists_realizes hW.unambiguous he
  have hntree := createdNodes_subset_treeNodes hn
  have hleaf := (isLeaf_iff hW hntree hr).1 halive.1
  have hnf := probeFailed_eq_false_iff.1 halive.2
  rw [hr.targets] at hnf
  unfold IPLike
  rw [hr.targets, List.any_eq_true]
  rcases treeNodes_cases hntree with ⟨c, hc, rfl, hne⟩ | ⟨c, hc, v, hv, rfl⟩ | ⟨c, hc, rfl, -⟩ |
    ⟨c, -, rfl | rfl⟩ | rfl
  · exact (hip c hc).1 hne hnf
  · exact ⟨v, List.mem_singleton_self _, (hip c hc).2 v hv (hnf v (List.mem_singleton_self _))⟩
  · exact ⟨_, List.mem_singleton_self _, (hip c hc).2 _ (of_decide_eq_true hleaf)
      (hnf _ (List.mem_singleton_self _))⟩
  · cases hleaf
  · cases hleaf
  · cases hleaf

/-- A healthy leaf without an IP-like target, as a node. -/
theorem exists_leaf_of_not_healthyLeavesIPLike {failed : String → Bool}
    (h : ¬ HealthyLeavesIPLike t failed) :
    ∃ n ∈ createdNodes env order t host, n.isLeaf = true ∧
      (∀ a ∈ n.targets env t host, failed a = false) ∧
      ∀ a ∈ n.targets env t host, matchesIPPattern a = false := by
  unfold HealthyLeavesIPLike at h
  push Not at h
  obtain ⟨c, hc, h⟩ := h
  by_cases hhosts : ∀ v ∈ c.hostValues, failed v = false → matchesIPPattern v = true
  · -- then it is the A record of the cluster
    have hA : ¬ (c.ipValues ≠ [] → (∀ a ∈ c.ipValues, failed a = false) →
        ∃ a ∈ c.ipValues, matchesIPPattern a = true) := by
      intro hA
      obtain ⟨v, hv, hnf, hm⟩ := h hA
      exact hm (hhosts v hv hnf)
    push Not at hA
    obtain ⟨hne, hnf, hm⟩ := hA
    refine ⟨.address c, mem_createdNodes_of_mem_clusterNodes hc
      (mem_clusterNodes.2 (Or.inl ⟨rfl, hne⟩)), rfl, hnf, fun a ha => ?_⟩
    exact Bool.eq_false_of_not_eq_true (hm a ha)
  · push Not at hhosts
    obtain ⟨v, hv, hnf, hm⟩ := hhosts
    refine ⟨.weighted c v, mem_createdNodes_of_mem_clusterNodes hc
      (mem_clusterNodes.2 (Or.inr (Or.inl ⟨v, hv, rfl⟩))), decide_eq_true hv, fun a ha => ?_,
      fun a ha => ?_⟩
    · rw [List.mem_singleton.1 ha]
      exact hnf
    · rw [List.mem_singleton.1 ha]
      exact Bool.eq_false_of_not_eq_true hm

/-- A failed target of a tree whose names are kept apart is the target of a leaf. -/
theorem exists_leaf_of_not_noTargetFailed {failed : String → Bool}
    (hW : NamesApart env t host endpoints failed) (h : ¬ NoTargetFailed env t host failed) :
    ∃ n ∈ createdNodes env order t host, n.isLeaf = true ∧
      ∃ a ∈ n.targets env t host, failed a = true := by
  have haddr : ¬ ∀ c ∈ addressed t, ∀ a ∈ c.gatewayAddresses, failed a.value = false :=
    fun haddr => h ⟨haddr, hW.not_failed⟩
  push Not at haddr
  obtain ⟨c, hc, ga, hga, hf⟩ := haddr
  rcases mem_ipValues_or_mem_hostValues hga with hip | hhost
  · exact ⟨.address c, mem_createdNodes_of_mem_clusterNodes hc
      (mem_clusterNodes.2 (Or.inl ⟨rfl, List.ne_nil_of_mem hip⟩)), rfl, ga.value, hip,
      Bool.eq_true_of_not_eq_false hf⟩
  · exact ⟨.weighted c ga.value, mem_createdNodes_of_mem_clusterNodes hc
      (mem_clusterNodes.2 (Or.inr (Or.inl ⟨_, hhost, rfl⟩))), decide_eq_true hhost, ga.value,
      List.mem_singleton_self _, Bool.eq_true_of_not_eq_false hf⟩

/-! ## Healthy leaves stay published -/

theorem publishesHealthy_of_forall_not_failed (hU : Unambiguous env t host endpoints)
    (hnf : ∀ e ∈ fullEndpoints env order t host endpoints,
      probeFailed probes t.gateway.name listenerName e = false) :
    PublishesHealthy env t host order endpoints probes listenerName := by
  classical
  unfold PublishesHealthy setEndpoints
  rw [publishEndpoints_of_forall_not_failed hnf]
  refine ⟨fun _ => ?_, fun _ => rfl⟩
  symm
  rw [List.filter_eq_self]
  intro e he
  exact decide_eq_true (reaches_of_forall_not_failed hU hnf he)

theorem publishesHealthy_of_healthyLeavesIPLike
    (hW : NamesApart env t host endpoints (addressFailed probes t.gateway.name listenerName))
    (hip : HealthyLeavesIPLike t (addressFailed probes t.gateway.name listenerName)) :
    PublishesHealthy env t host order endpoints probes listenerName := by
  classical
  by_cases hfail : ∃ e ∈ fullEndpoints env order t host endpoints,
      probeFailed probes t.gateway.name listenerName e = true
  · have hgoal : ∀ x ∈ fullEndpoints env order t host endpoints,
        AliveLeaf env t host probes listenerName x →
        AliveIPLeaf env t host probes listenerName x :=
      fun x hx h => ⟨h, ipLike_of_healthyLeavesIPLike hW hip hx h⟩
    have hsurv : ∀ e ∈ fullEndpoints env order t host endpoints,
        Survives (probeFailed probes t.gateway.name listenerName)
            (fullEndpoints env order t host endpoints) e ↔
          Reaches (fullEndpoints env order t host endpoints)
            (AliveLeaf env t host probes listenerName) e := by
      intro e he
      rw [survives_iff hW he]
      exact ⟨Reaches.mono (fun _ _ h => h.1) he, Reaches.mono hgoal he⟩
    obtain ⟨hsome, hnone⟩ := publishEndpoints_eq hfail
    unfold PublishesHealthy setEndpoints
    refine ⟨fun halive => ?_, fun halive => ?_⟩
    · obtain ⟨e, he, h⟩ := halive
      rw [hsome ⟨e, he, (hsurv e he).2 (.here h)⟩]
      apply List.filter_congr
      intro e he
      rw [decide_eq_decide]
      exact hsurv e he
    · refine hnone (fun hex => halive ?_)
      obtain ⟨e, he, h⟩ := hex
      have hreach := (hsurv e he).1 h
      clear h
      induction hreach with
      | here h => exact ⟨_, he, h⟩
      | step hx _ _ ih => exact ih hx
  · push Not at hfail
    exact publishesHealthy_of_forall_not_failed hW.unambiguous
      (fun e he => Bool.eq_false_of_not_eq_true (hfail e he))

/-- One failed probe is enough to unpublish a healthy leaf without an IP-like target. -/
theorem not_publishesHealthy
    (hW : NamesApart env t host endpoints (addressFailed probes t.gateway.name listenerName))
    (hfail : ¬ NoTargetFailed env t host (addressFailed probes t.gateway.name listenerName))
    (hip : ¬ HealthyLeavesIPLike t (addressFailed probes t.gateway.name listenerName)) :
    ¬ PublishesHealthy env t host order endpoints probes listenerName := by
  classical
  rintro ⟨hpub, -⟩
  obtain ⟨d, hd, -, v, hv, hvf⟩ := @exists_leaf_of_not_noTargetFailed env order t host _ _ hW hfail
  obtain ⟨x, hx, hxr⟩ := exists_mem_fullEndpoints hW.unambiguous hd
  have hxf : probeFailed probes t.gateway.name listenerName x = true :=
    probeFailed_iff.2 ⟨v, by rw [hxr.targets]; exact hv, hvf⟩
  obtain ⟨n, hn, hleaf, hnf, hnip⟩ := @exists_leaf_of_not_healthyLeavesIPLike env order t host _ hip
  obtain ⟨e, he, her⟩ := exists_mem_fullEndpoints hW.unambiguous hn
  have hntree := createdNodes_subset_treeNodes hn
  have halive : AliveLeaf env t host probes listenerName e :=
    ⟨.of_node hntree her hleaf, probeFailed_eq_false_iff.2 (by rwa [her.targets])⟩
  -- the healthy leaf is pruned: it has neither an IP-like target nor a child
  have hnsurv : ¬ Survives (probeFailed probes t.gateway.name listenerName)
      (fullEndpoints env order t host endpoints) e := by
    rw [survives_iff hW he]
    intro hreach
    cases hreach with
    | here h =>
        obtain ⟨a, ha, hm⟩ := List.any_eq_true.1 h.2
        rw [her.targets] at ha
        rw [hnip a ha] at hm
        cases hm
    | step hy hchild _ =>
        obtain ⟨m, hm, hmr⟩ := exists_realizes hW.unambiguous hy
        unfold ChildOf at hchild
        rw [hmr.dnsName, her.targets] at hchild
        exact not_child_of_isLeaf hW hntree (createdNodes_subset_treeNodes hm) hleaf hchild
  have heq := hpub ⟨e, he, halive⟩
  unfold setEndpoints at heq
  obtain ⟨hsome, hnone⟩ := publishEndpoints_eq ⟨x, hx, hxf⟩
  by_cases hex : ∃ e ∈ fullEndpoints env order t host endpoints,
      Survives (probeFailed probes t.gateway.name listenerName)
        (fullEndpoints env order t host endpoints) e
  · have hmem : e ∈ (fullEndpoints env order t host endpoints).filter (fun e => decide
        (Survives (probeFailed probes t.gateway.name listenerName)
          (fullEndpoints env order t host endpoints) e)) := by
      rw [← hsome hex, heq]
      exact List.mem_filter.2 ⟨he, decide_eq_true (.here halive)⟩
    exact hnsurv (of_decide_eq_true (List.mem_filter.1 hmem).2)
  · -- nothing survives, and the full set contains the leaf whose probe failed
    have hmem := hx
    rw [← hnone hex, heq] at hmem
    have hreach := of_decide_eq_true (List.mem_filter.1 hmem).2
    rw [not_failed_of_reaches hW (fun _ _ hy => hy.2) hx hreach] at hxf
    cases hxf

/-- Exactly when healthy leaves, and all that leads to them, stay published: no probe has failed, or
    every healthy leaf has an IP-like target. The first alone is enough whatever the names are. -/
theorem publishesHealthy_iff (env : Env) (order : MapOrder) (t : MultiClusterGatewayTarget)
    (host : String) (endpoints : List Endpoint) (probes : List DNSHealthCheckProbe)
    (listenerName : String) :
    (Unambiguous env t host endpoints →
      NoTargetFailed env t host (addressFailed probes t.gateway.name listenerName) →
      PublishesHealthy env t host order endpoints probes listenerName) ∧
    (NamesApart env t host endpoints (addressFailed probes t.gateway.name listenerName) →
      (PublishesHealthy env t host order endpoints probes listenerName ↔
        NoTargetFailed env t host (addressFailed probes t.gateway.name listenerName) ∨
        HealthyLeavesIPLike t (addressFailed probes t.gateway.name listenerName))) := by
  have hno : Unambiguous env t host endpoints →
      NoTargetFailed env t host (addressFailed probes t.gateway.name listenerName) →
      PublishesHealthy env t host order endpoints probes listenerName := fun hU hno =>
    publishesHealthy_of_forall_not_failed hU (fun e he => not_failed_of_noTargetFailed hno he)
  refine ⟨hno, fun hW => ⟨fun hpub => ?_, ?_⟩⟩
  · by_contra h
    push Not at h
    exact not_publishesHealthy hW h.1 h.2 hpub
  · rintro (h | hip)
    · exact hno hW.unambiguous h
    · exact publishesHealthy_of_healthyLeavesIPLike hW hip

end

/-- A cluster with an IP address. -/
def firstCluster : ClusterGatewayTarget where
  cluster := { name := "test-cluster-1" }
  gatewayAddresses := [⟨.ipAddress, "1.1.1.1"⟩]
  geo := "default"
  weight := 120

/-- A cluster with an IP address and further addresses. -/
def secondCluster (more : List GatewayAddress) : ClusterGatewayTarget where
  cluster := { name := "test-cluster-2" }
  gatewayAddresses := ⟨.ipAddress, "2.2.2.2"⟩ :: more
  geo := "default"
  weight := 120

/-- A Gateway on two clusters, the second one with more addresses. -/
def twoClusters (more : List GatewayAddress) : MultiClusterGatewayTarget where
  gateway := { name := "testgw", ns := "testns" }
  clusterGatewayTargets := [firstCluster, secondCluster more]
  loadBalancing := none

/-- The probe of an address, after more failures than its threshold allows. -/
def failedProbe (address : String) : DNSHealthCheckProbe where
  metadata := { name := dnsHealthCheckProbeName address "testgw" "test", ns := "testns" }
  spec := { port := 443, host := "test.example.com", address := address, path := "/",
            protocol := "HTTPS", interval := 60, additionalHeadersRef := none,
            failureThreshold := some 4, expectedResponses := [], allowInsecureCertificate := false }
  status := { consecutiveFailures := 5, healthy := some false }

/-- With IP addresses only, a failed cluster is removed and the other stays. -/
theorem publishesHealthy_twoClusters :
    PublishesHealthy Env.sample (twoClusters []) "test.example.com" .inserted []
        [failedProbe "1.1.1.1"] "test" ∧
      PublishesHealthy Env.sample (twoClusters [⟨.hostname, "mylb.example.com"⟩])
        "test.example.com" .inserted [] [] "test" := by
  have hW : NamesApart Env.sample (twoClusters []) "test.example.com" []
      (addressFailed [failedProbe "1.1.1.1"] "testgw" "test") :=
    ⟨unambiguous_nil, by decide +kernel, by decide +kernel, by decide +kernel, by decide +kernel⟩
  have hip : HealthyLeavesIPLike (twoClusters [])
      (addressFailed [failedProbe "1.1.1.1"] "testgw" "test") := by
    unfold HealthyLeavesIPLike
    decide +kernel
  have hno : NoTargetFailed Env.sample (twoClusters [⟨.hostname, "mylb.example.com"⟩])
      "test.example.com" (addressFailed [] "testgw" "test") := ⟨fun _ _ _ _ => rfl, fun _ _ => rfl⟩
  exact ⟨((publishesHealthy_iff _ _ _ _ _ _ _).2 hW).2 (Or.inr hip),
    (publishesHealthy_iff _ _ _ _ _ _ _).1 unambiguous_nil hno⟩

/-- The failed probe of one cluster unpublishes the healthy host name of the other. -/
theorem not_publishesHealthy_twoClusters :
    ¬ PublishesHealthy Env.sample (twoClusters [⟨.hostname, "mylb.example.com"⟩])
        "test.example.com" .inserted [] [failedProbe "1.1.1.1"] "test" := by
  classical
  rintro ⟨hpub, -⟩
  obtain ⟨e, he⟩ : ∃ e, e = Node.fresh Env.sample
      (twoClusters [⟨.hostname, "mylb.example.com"⟩]) "test.example.com"
      (.weighted (secondCluster [⟨.hostname, "mylb.example.com"⟩]) "mylb.example.com") := ⟨_, rfl⟩
  have hmem : e ∈ fullEndpoints Env.sample .inserted
      (twoClusters [⟨.hostname, "mylb.example.com"⟩]) "test.example.com" [] := by
    rw [he]
    decide +kernel
  have hc : secondCluster [⟨.hostname, "mylb.example.com"⟩] ∈
      (twoClusters [⟨.hostname, "mylb.example.com"⟩]).clusterGatewayTargets := by decide
  have halive : AliveLeaf Env.sample (twoClusters [⟨.hostname, "mylb.example.com"⟩])
      "test.example.com" [failedProbe "1.1.1.1"] "test" e := by
    rw [he]
    exact ⟨Or.inr ⟨rfl, ⟨_, hc, rfl⟩, _, hc, "mylb.example.com", by decide, rfl⟩,
      by decide +kernel⟩
  have hout : e ∉ setEndpoints Env.sample .inserted
      (twoClusters [⟨.hostname, "mylb.example.com"⟩]) [] [failedProbe "1.1.1.1"] "test"
      "test.example.com" := by
    rw [he]
    decide +kernel
  apply hout
  rw [hpub ⟨e, hmem, halive⟩]
  exact List.mem_filter.2 ⟨hmem, decide_eq_true (.here halive)⟩

end MultiClusterGateway
