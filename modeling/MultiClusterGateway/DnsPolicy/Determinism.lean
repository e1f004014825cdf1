import MultiClusterGateway.DnsPolicy.CatchAll
import MultiClusterGateway.Lib.Fallible

set_option autoImplicit false

/-! # Does the record depend on iteration order?

The clusters come out of an unordered set and the geo groups out of a map, so two reconciles of the
same objects may list them in different orders. The final sort hides this wherever the ids it
compares tell the endpoints apart (`SetIDsApart`), with one exception: the group behind the default
endpoint is the last expected default that was visited, or the first group at all, so it is settled
only if there is one candidate for it (`DefaultSettled`). -/

namespace MultiClusterGateway

/-! ## Runs -/

/-- `NewMultiClusterGatewayTarget` followed by `setEndpoints`. -/
def endpointsFor (env : Env) (order : MapOrder) (gateway : Gateway)
    (loadBalancing : Option LoadBalancingSpec) (clusterGateways : List ClusterGateway)
    (endpoints : List Endpoint) (probes : List DNSHealthCheckProbe) (listenerName host : String) :
    Except String (List Endpoint) := do
  let mcgTarget ← MultiClusterGatewayTarget.new gateway clusterGateways loadBalancing
  return setEndpoints env order mcgTarget endpoints probes listenerName host

/-- Neither the order of the clusters nor that of the geo groups shows in the record. -/
def OrderIndependent (env : Env) (gateway : Gateway) (loadBalancing : Option LoadBalancingSpec)
    (clusterGateways : List ClusterGateway) (endpoints : List Endpoint)
    (probes : List DNSHealthCheckProbe) (listenerName host : String) : Prop :=
  ∀ clusterGateways', clusterGateways'.Perm clusterGateways → ∀ order order' : MapOrder,
    endpointsFor env order gateway loadBalancing clusterGateways endpoints probes listenerName host
      = endpointsFor env order' gateway loadBalancing clusterGateways' endpoints probes
          listenerName host

/-! ## Conditions on the target -/

section
variable (env : Env) (t : MultiClusterGatewayTarget) (host : String)

/-- The ids tell the endpoints apart: nodes with the same id have the same endpoint, and an existing
    endpoint with the id of a node has its name. -/
structure SetIDsApart (endpoints : List Endpoint) : Prop where
  node : ∀ m ∈ treeNodes env t host, ∀ n ∈ treeNodes env t host,
    m.setID env t host = n.setID env t host →
      (m.isDefault = true ∧ n.isDefault = true) ∨ m.fresh env t host = n.fresh env t host
  existing : ∀ e ∈ endpoints, ∀ n ∈ treeNodes env t host,
    e.setID = n.setID env t host → e.dnsName = n.dnsName env t host

/-- The group may end up behind the default endpoint: it is an expected default, or no group with an
    address is. -/
def DefaultCandidate (code : GeoCode) : Prop :=
  (∃ c ∈ addressed t, c.geo = code) ∧
    (isExpectedDefault t code = true ∨ ∀ c ∈ addressed t, isExpectedDefault t c.geo = false)

/-- All candidates have the same name. -/
def DefaultSettled : Prop :=
  ∀ code code', DefaultCandidate t code → DefaultCandidate t code' →
    Text.toLower env.fold code = Text.toLower env.fold code'

/-- Candidates with different names are not published. -/
def DefaultSettledWherePublished (failed : String → Bool) : Prop :=
  ∀ code code', DefaultCandidate t code → DefaultCandidate t code' →
    Text.toLower env.fold code = Text.toLower env.fold code' ∨
      (¬ GroupPublished env t host failed code ∧ ¬ GroupPublished env t host failed code')

end

section
variable {env : Env} {order : MapOrder} {t : MultiClusterGatewayTarget} {host : String}
  {endpoints : List Endpoint}

/-! ## Endpoints that do not depend on the order -/

/-- The property a node sets can be read off its fresh endpoint. -/
theorem setProperty_eq (n : Node) :
    n.setProperty = match (n.fresh env t host).providerSpecific with
      | [] => id
      | p :: _ => Endpoint.setProviderSpecific p.name p.value := by
  cases n <;> rfl

theorem fresh_recordTTL (n : Node) : (n.fresh env t host).recordTTL = n.recordTTL := by
  cases n <;> rfl

/-- Nodes with the same fresh endpoint make the same of an existing one. -/
theorem assign_eq_of_fresh_eq {m n : Node} (h : m.fresh env t host = n.fresh env t host) :
    m.assign env t host = n.assign env t host := by
  have hname := congrArg Endpoint.dnsName h
  have htargets := congrArg Endpoint.targets h
  have htype := congrArg Endpoint.recordType h
  have httl := congrArg Endpoint.recordTTL h
  simp only [Node.fresh_dnsName, Node.fresh_targets, Node.fresh_recordType, fresh_recordTTL] at hname htargets htype httl
  have hprop : m.setProperty = n.setProperty := by
    rw [@setProperty_eq env t host m, @setProperty_eq env t host n, h]
  funext e
  unfold Node.assign
  rw [hname, htargets, htype, httl, hprop]

theorem setProperty_setProperty (name value : String) (l : List ProviderSpecificProperty) :
    Endpoint.setProperty name value (Endpoint.setProperty name value l)
      = Endpoint.setProperty name value l := by
  induction l with
  | nil => simp [Endpoint.setProperty]
  | cons p rest ih =>
      by_cases hp : p.name = name
      · simp [Endpoint.setProperty, hp]
      · simp [Endpoint.setProperty, hp, ih]

theorem assign_assign (n : Node) (e : Endpoint) :
    n.assign env t host (n.assign env t host e) = n.assign env t host e := by
  cases n <;> simp [Node.assign, Node.setProperty, Endpoint.setProviderSpecific,
    setProperty_setProperty]

theorem SetIDsApart.unambiguous (h : SetIDsApart env t host endpoints) :
    Unambiguous env t host endpoints := by
  intro m hm n hn hid _
  rcases h.node m hm n hn hid with hdef | hfresh
  · exact Or.inl hdef
  · have hname := congrArg Endpoint.dnsName hfresh
    have htargets := congrArg Endpoint.targets hfresh
    have htype := congrArg Endpoint.recordType hfresh
    simp only [Node.fresh_dnsName, Node.fresh_targets, Node.fresh_recordType] at hname htargets htype
    exact Or.inr ⟨hname, htype, htargets⟩

/-- However often a node's endpoint is written, it is written for the same node. -/
theorem builtEndpoint_eq (h : SetIDsApart env t host endpoints) {n : Node}
    (hn : n ∈ createdNodes env order t host) :
    builtEndpoint env order t host endpoints n
      = n.setWildcard (nodeEndpoint env t host endpoints n) := by
  unfold builtEndpoint
  congr 1
  by_cases hnd : n.isDefault = true
  · exact settledEndpoint_catchAll h.unambiguous (catchAll_of_mem_createdNodes hn hnd)
  · have hmaps := mapsInto_currentEndpoints endpoints
    unfold settledEndpoint Heap.settled nodeEndpoint
    have hkey : (n.request env t host).key = n.setID env t host := rfl
    rw [hkey]
    cases hc : currentEndpoints endpoints (n.setID env t host) with
    | none => rfl
    | some p =>
        -- every request for the endpoint makes the same assignments
        have hsame : ∀ r ∈ (plannedNodes env order t host ++ [Node.host]).map
            (Node.request env t host), currentEndpoints endpoints r.key = some p →
            r.assign = n.assign env t host := by
          intro r hr hcr
          obtain ⟨m, hm, rfl⟩ := List.mem_map.1 hr
          rcases h.node m (mem_treeNodes_of_mem_plannedNodes hm) n (createdNodes_subset_treeNodes hn)
            (hmaps.inj _ _ _ hcr hc) with ⟨-, hdef⟩ | hfresh
          · exact absurd hdef hnd
          · exact assign_eq_of_fresh_eq hfresh
        have hmem : n.request env t host ∈ (plannedNodes env order t host ++ [Node.host]).map
            (Node.request env t host) :=
          List.mem_map_of_mem (mem_plannedNodes_of_mem_createdNodes hn)
        obtain ⟨r, hr, hcr, e, he⟩ := Heap.exists_rewrite_eq (Heap.read ⟨endpoints⟩ p)
          ⟨_, hmem, hc⟩
        have happly := @Heap.apply_rewrite_eq _ (currentEndpoints endpoints) _ p
          (n.assign env t host) (fun r hr hcr a => by rw [hsame r hr hcr, assign_assign])
          (Heap.read ⟨endpoints⟩ p)
        show Heap.rewrite _ _ p _ = n.assign env t host _
        rw [← happly, he, hsame r hr hcr, assign_assign]

theorem setID_nodeEndpoint (h : SetIDsApart env t host endpoints) {n : Node}
    (hn : n ∈ treeNodes env t host) :
    (nodeEndpoint env t host endpoints n).setID = n.setID env t host := by
  unfold nodeEndpoint
  cases hc : currentEndpoints endpoints (n.setID env t host) with
  | none => simp [Endpoint.setID, Node.setID]
  | some p =>
      obtain ⟨e, he, hid⟩ := currentEndpoints_eq_some hc
      have hread : Heap.read ⟨endpoints⟩ p = e := by simp [Heap.read, he]
      have hname := h.existing e (List.mem_of_getElem? he) n hn hid
      show (n.assign env t host (Heap.read ⟨endpoints⟩ p)).setID = n.setID env t host
      rw [hread]
      unfold Endpoint.setID at hid ⊢
      rw [Node.assign_dnsName, Node.assign_setIdentifier, ← hname, hid]

theorem setID_setWildcard (n : Node) (e : Endpoint) : (n.setWildcard e).setID = e.setID := by
  simp [Endpoint.setID]

theorem setID_builtEndpoint (h : SetIDsApart env t host endpoints) {n : Node}
    (hn : n ∈ createdNodes env order t host) :
    (builtEndpoint env order t host endpoints n).setID = n.setID env t host := by
  rw [builtEndpoint_eq h hn, setID_setWildcard,
    setID_nodeEndpoint h (createdNodes_subset_treeNodes hn)]

theorem nodeEndpoint_eq_of_fresh_eq {m n : Node}
    (hid : m.setID env t host = n.setID env t host)
    (hfresh : m.fresh env t host = n.fresh env t host) :
    nodeEndpoint env t host endpoints m = nodeEndpoint env t host endpoints n := by
  unfold nodeEndpoint
  rw [hid, hfresh, assign_eq_of_fresh_eq hfresh]

/-- A catch-all and another node do not share their endpoint. -/
theorem isDefault_eq_of_fresh_eq {m n : Node} (hm : m ∈ treeNodes env t host)
    (hn : n ∈ treeNodes env t host) (hid : m.setID env t host = n.setID env t host)
    (hfresh : m.fresh env t host = n.fresh env t host) : m.isDefault = n.isDefault := by
  have hname := congrArg Endpoint.dnsName hfresh
  simp only [Node.fresh_dnsName] at hname
  cases hmd : m.isDefault with
  | true =>
      cases hnd : n.isDefault with
      | true => rfl
      | false =>
          obtain ⟨code, rfl⟩ := isDefault_eq_true.1 hmd
          exact absurd hid.symm (setID_ne_catchAll hn hnd hname.symm code)
  | false =>
      cases hnd : n.isDefault with
      | false => rfl
      | true =>
          obtain ⟨code, rfl⟩ := isDefault_eq_true.1 hnd
          exact absurd hid (setID_ne_catchAll hm hmd hname code)

theorem isDefault_unique {m n : Node} (hm : m ∈ createdNodes env order t host)
    (hn : n ∈ createdNodes env order t host) (hmd : m.isDefault = true)
    (hnd : n.isDefault = true) : m = n := by
  have h := catchAll_of_mem_createdNodes hm hmd
  rw [catchAll_of_mem_createdNodes hn hnd] at h
  exact (Option.some.inj h).symm

/-- The ids tell the endpoints of one list apart. -/
theorem eq_of_setID_eq (h : SetIDsApart env t host endpoints) {a b : Endpoint}
    (ha : a ∈ fullEndpoints env order t host endpoints)
    (hb : b ∈ fullEndpoints env order t host endpoints) (hid : a.setID = b.setID) : a = b := by
  obtain ⟨m, hm, rfl⟩ := (mem_fullEndpoints h.unambiguous).1 ha
  obtain ⟨n, hn, rfl⟩ := (mem_fullEndpoints h.unambiguous).1 hb
  rw [setID_builtEndpoint h hm, setID_builtEndpoint h hn] at hid
  rcases h.node m (createdNodes_subset_treeNodes hm) n (createdNodes_subset_treeNodes hn) hid with
    ⟨hmd, hnd⟩ | hfresh
  · rw [isDefault_unique hm hn hmd hnd]
  · have hwild : m.isDefault = n.isDefault :=
      isDefault_eq_of_fresh_eq (createdNodes_subset_treeNodes hm)
        (createdNodes_subset_treeNodes hn) hid hfresh
    rw [builtEndpoint_eq h hm, builtEndpoint_eq h hn, nodeEndpoint_eq_of_fresh_eq hid hfresh]
    unfold Node.setWildcard
    rw [hwild]

/-! ## The created nodes as a multiset -/

theorem filter_geoNodes {b : Bool} {group : GeoCode × List ClusterGatewayTarget} :
    (geoNodes env t host b group).filter (fun n => !n.isDefault)
      = group.2.flatMap (clusterNodes env t host) ++
        (if group.2.any (fun c => c.gatewayAddresses ≠ []) && !GeoCode.isDefaultCode group.1
          then [.geo group.1] else []) := by
  have hclusters : (group.2.flatMap (clusterNodes env t host)).filter (fun n => !n.isDefault)
      = group.2.flatMap (clusterNodes env t host) := by
    rw [List.filter_eq_self]
    intro n hn
    obtain ⟨c, -, hnc⟩ := List.mem_flatMap.1 hn
    simp [isDefault_of_mem_clusterNodes hnc]
  simp only [geoNodes]
  by_cases hnil : group.2.flatMap (clusterNodes env t host) = []
  · rw [if_pos hnil, flatMap_clusterNodes_eq_nil.1 hnil, hnil]
    rfl
  · have hany : group.2.any (fun c => c.gatewayAddresses ≠ []) = true := by
      rw [← Bool.not_eq_false]
      exact fun h => hnil (flatMap_clusterNodes_eq_nil.2 h)
    rw [if_neg hnil, hany]
    by_cases hdef : GeoCode.isDefaultCode group.1 = true
    · rw [if_pos hdef, List.filter_append, hclusters, hdef]
      rfl
    · rw [if_neg hdef, Bool.eq_false_of_not_eq_true hdef]
      split
      · rw [List.filter_append, hclusters]
        rfl
      · rw [List.filter_append, hclusters]
        rfl

theorem filter_plan (b : Bool) (groups : List (GeoCode × List ClusterGatewayTarget)) :
    (plan env t host b groups).filter (fun n => !n.isDefault)
      = groups.flatMap (fun group => group.2.flatMap (clusterNodes env t host) ++
        (if group.2.any (fun c => c.gatewayAddresses ≠ []) && !GeoCode.isDefaultCode group.1
          then [.geo group.1] else [])) := by
  induction groups generalizing b with
  | nil => rfl
  | cons group rest ih => rw [plan, List.filter_append, filter_geoNodes, ih, List.flatMap_cons]

theorem flatMap_geo (groups : List (GeoCode × List ClusterGatewayTarget)) :
    groups.flatMap (fun group =>
      if group.2.any (fun c => c.gatewayAddresses ≠ []) && !GeoCode.isDefaultCode group.1
        then [Node.geo group.1] else [])
      = ((addressedCodes groups).filter (fun g => !GeoCode.isDefaultCode g)).map Node.geo := by
  induction groups with
  | nil => rfl
  | cons group rest ih =>
      rw [List.flatMap_cons, ih, addressedCodes_cons, List.filter_append, List.map_append]
      congr 1
      cases group.2.any (fun c => c.gatewayAddresses ≠ []) with
      | false => rfl
      | true => cases hdef : GeoCode.isDefaultCode group.1 <;> simp [hdef]

/-- The nodes other than the catch-alls: those of the clusters, and one for every geo group. -/
theorem filter_plannedNodes_perm :
    ((plannedNodes env order t host).filter (fun n => !n.isDefault)).Perm
      (t.clusterGatewayTargets.flatMap (clusterNodes env t host) ++
        ((addressedCodes (order.visit t.groupTargetsByGeo)).filter
          (fun g => !GeoCode.isDefaultCode g)).map Node.geo) := by
  unfold plannedNodes
  rw [filter_plan, ← flatMap_geo]
  refine (List.flatMap_append_perm _ _ _).symm.trans (List.Perm.append_right _ ?_)
  rw [← List.flatMap_assoc]
  exact (((order.perm t.groupTargetsByGeo).flatMap_right _).trans
    t.flatMap_groupTargetsByGeo_perm).flatMap_right _

section
variable {order' : MapOrder} {clusters : List ClusterGatewayTarget}
  (hperm : clusters.Perm t.clusterGatewayTargets)
include hperm

theorem mem_addressed_perm {c : ClusterGatewayTarget} :
    c ∈ addressed { t with clusterGatewayTargets := clusters } ↔ c ∈ addressed t := by
  rw [mem_addressed, mem_addressed]
  exact and_congr_left fun _ => hperm.mem_iff

theorem mem_treeNodes_perm {n : Node} :
    n ∈ treeNodes env { t with clusterGatewayTargets := clusters } host ↔
      n ∈ treeNodes env t host := by
  rw [mem_treeNodes, mem_treeNodes]
  simp only [mem_addressed_perm hperm]
  rfl

theorem SetIDsApart.perm (h : SetIDsApart env t host endpoints) :
    SetIDsApart env { t with clusterGatewayTargets := clusters } host endpoints where
  node m hm n hn := h.node m ((mem_treeNodes_perm hperm).1 hm) n ((mem_treeNodes_perm hperm).1 hn)
  existing e he n hn := h.existing e he n ((mem_treeNodes_perm hperm).1 hn)

theorem defaultCandidate_perm {code : GeoCode} :
    DefaultCandidate { t with clusterGatewayTargets := clusters } code ↔ DefaultCandidate t code := by
  unfold DefaultCandidate
  simp only [mem_addressed_perm hperm]
  rfl

theorem filter_plannedNodes_perm_perm :
    ((plannedNodes env order' { t with clusterGatewayTargets := clusters } host).filter
        (fun n => !n.isDefault)).Perm
      ((plannedNodes env order t host).filter (fun n => !n.isDefault)) := by
  refine filter_plannedNodes_perm.trans (List.Perm.trans (List.Perm.append ?_ ?_)
    filter_plannedNodes_perm.symm)
  · exact hperm.flatMap_right _
  · refine List.Perm.map _ (List.Perm.filter _ ?_)
    rw [List.perm_ext_iff_of_nodup nodup_addressedCodes nodup_addressedCodes]
    intro code
    rw [mem_addressedCodes, mem_addressedCodes]
    simp only [mem_addressed_perm hperm]

end

/-! ## The group behind the default endpoint -/

/-- The default endpoint leads to a candidate. -/
theorem defaultCandidate_of_defaultGroup {code : GeoCode} (h : defaultGroup order t = some code) :
    DefaultCandidate t code := by
  refine ⟨exists_addressed_of_defaultGroup h, ?_⟩
  unfold defaultGroup defaultCode at h
  rcases Option.or_eq_some_iff.1 h with hlast | ⟨hnone, -⟩
  · exact Or.inl (List.mem_filter.1 (List.mem_of_getLast? hlast)).2
  · right
    intro c hc
    have hnil := List.getLast?_eq_none_iff.1 hnone
    have := List.filter_eq_nil_iff.1 hnil c.geo (mem_addressedCodes.2 ⟨c, hc, rfl⟩)
    exact Bool.eq_false_of_not_eq_true this

theorem addressedCodes_append (groups groups' : List (GeoCode × List ClusterGatewayTarget)) :
    addressedCodes (groups ++ groups') = addressedCodes groups ++ addressedCodes groups' := by
  simp [addressedCodes]

/-- For every candidate there is an iteration order that puts it behind the default endpoint. -/
theorem exists_order_of_defaultCandidate {code : GeoCode} (h : DefaultCandidate t code) :
    ∃ order, defaultGroup order t = some code := by
  obtain ⟨⟨c, hc, rfl⟩, hexp⟩ := h
  obtain ⟨hct, haddr⟩ := mem_addressed.1 hc
  obtain ⟨group, hgroup, hcode, hcg⟩ := (@mem_group_iff .inserted t c.geo c).2 ⟨hct, rfl⟩
  obtain ⟨front, back, hsplit⟩ := List.append_of_mem hgroup
  have hsplit' : t.groupTargetsByGeo = front ++ group :: back := hsplit
  have hany : group.2.any (fun c => c.gatewayAddresses ≠ []) = true :=
    List.any_eq_true.2 ⟨c, hcg, decide_eq_true haddr⟩
  have hone : addressedCodes [group] = [c.geo] := by
    rw [addressedCodes_cons, if_pos hany, hcode]
    rfl
  rcases hexp with hexp | hnone
  · -- visit the group last
    refine ⟨.rotated (front ++ [group]).length, ?_⟩
    have hvisit : (MapOrder.rotated (front ++ [group]).length).visit t.groupTargetsByGeo
        = (back ++ front) ++ [group] := by
      show t.groupTargetsByGeo.rotate (front ++ [group]).length = _
      have : t.groupTargetsByGeo = (front ++ [group]) ++ back := by rw [hsplit']; simp
      rw [this, List.rotate_append_length_eq, List.append_assoc]
    unfold defaultGroup defaultCode
    rw [hvisit, addressedCodes_append, hone, List.filter_append, List.filter_singleton, hexp]
    simp
  · -- visit it first
    refine ⟨.rotated front.length, ?_⟩
    have hvisit : (MapOrder.rotated front.length).visit t.groupTargetsByGeo
        = [group] ++ (back ++ front) := by
      show t.groupTargetsByGeo.rotate front.length = _
      rw [hsplit', List.rotate_append_length_eq]
      rfl
    have hnil : (addressedCodes ((MapOrder.rotated front.length).visit
        t.groupTargetsByGeo)).filter (isExpectedDefault t) = [] := by
      rw [List.filter_eq_nil_iff]
      intro g hg
      obtain ⟨c', hc', rfl⟩ := mem_addressedCodes.1 hg
      simp [hnone c' hc']
    unfold defaultGroup defaultCode
    rw [hnil, hvisit, addressedCodes_append, hone]
    rfl

/-! ## Equal records -/

theorem createdNodes_eq {code : GeoCode} (hdef : defaultGroup order t = some code) :
    createdNodes env order t host
      = (plannedNodes env order t host).filter (fun n => !n.isDefault) ++ [.default code, .host] := by
  unfold createdNodes
  rw [catchAll_plannedNodes, hdef]
  rfl

/-- The full list as a multiset: the same for every order, up to the default endpoint. -/
theorem fullEndpoints_perm_nodeEndpoint (h : SetIDsApart env t host endpoints) {code : GeoCode}
    (hdef : defaultGroup order t = some code) :
    (fullEndpoints env order t host endpoints).Perm
      (((plannedNodes env order t host).filter (fun n : Node => !n.isDefault) ++ [Node.host] ++
        [Node.default code]).map
          (fun n : Node => n.setWildcard (nodeEndpoint env t host endpoints n))) := by
  refine (fullEndpoints_perm h.unambiguous).trans ?_
  have hbuilt : (createdNodes env order t host).map (builtEndpoint env order t host endpoints)
      = (createdNodes env order t host).map
          (fun n => n.setWildcard (nodeEndpoint env t host endpoints n)) :=
    List.map_congr_left fun n hn => builtEndpoint_eq h hn
  rw [hbuilt, createdNodes_eq hdef, List.append_assoc]
  exact ((List.Perm.swap _ _ _).append_left _).map _

theorem nodeEndpoint_default_congr {code code' : GeoCode}
    (h : Text.toLower env.fold code = Text.toLower env.fold code') :
    nodeEndpoint env t host endpoints (.default code)
      = nodeEndpoint env t host endpoints (.default code') := by
  have hname : geoLbName env (lbName env t host) code = geoLbName env (lbName env t host) code' :=
    geoLbName_inj.2 h
  unfold nodeEndpoint Node.assign Node.fresh Node.targets
  simp only [hname]
  rfl

/-- Targets that differ in the order of their clusters, iterated in any order, have the same full
    list if the same group is behind the default endpoint. -/
theorem fullEndpoints_congr (h : SetIDsApart env t host endpoints) {order' : MapOrder}
    {clusters : List ClusterGatewayTarget} (hperm : clusters.Perm t.clusterGatewayTargets)
    {code code' : GeoCode} (hdef : defaultGroup order t = some code)
    (hdef' : defaultGroup order' { t with clusterGatewayTargets := clusters } = some code')
    (hcode : Text.toLower env.fold code = Text.toLower env.fold code') :
    fullEndpoints env order' { t with clusterGatewayTargets := clusters } host endpoints
      = fullEndpoints env order t host endpoints := by
  have h' := h.perm hperm
  refine List.Perm.eq_of_sorted_by ?_ pairwise_fullEndpoints pairwise_fullEndpoints
    (fun a ha b hb hid => eq_of_setID_eq h' ha hb hid)
  refine (fullEndpoints_perm_nodeEndpoint h' hdef').trans
    (List.Perm.trans ?_ (fullEndpoints_perm_nodeEndpoint h hdef).symm)
  have hplanned := @filter_plannedNodes_perm_perm env order t host order' clusters hperm
  have hdefault : (Node.default code').setWildcard (nodeEndpoint env t host endpoints
        (.default code'))
      = (Node.default code).setWildcard (nodeEndpoint env t host endpoints (.default code)) := by
    rw [nodeEndpoint_default_congr hcode]
    rfl
  simp only [List.map_append, List.map_cons, List.map_nil]
  rw [← hdefault]
  exact ((hplanned.map _).append_right _).append_right _

theorem fullEndpoints_congr_of_eq_nil (h : SetIDsApart env t host endpoints) {order' : MapOrder}
    {clusters : List ClusterGatewayTarget} (hperm : clusters.Perm t.clusterGatewayTargets)
    (hdef : defaultGroup order t = none) :
    fullEndpoints env order' { t with clusterGatewayTargets := clusters } host endpoints
      = fullEndpoints env order t host endpoints := by
  have haddr : addressed { t with clusterGatewayTargets := clusters } = [] := by
    rw [List.eq_nil_iff_forall_not_mem]
    intro c hc
    rw [mem_addressed_perm hperm, defaultGroup_eq_none.1 hdef] at hc
    simp at hc
  rw [fullEndpoints_eq_nil h.unambiguous hdef,
    fullEndpoints_eq_nil (h.perm hperm).unambiguous (defaultGroup_eq_none.2 haddr)]

/-- The clusters' order is as good as an order of the map: whatever one lists is also listed for
    the clusters as given, in some order of iteration. -/
theorem exists_order_fullEndpoints_eq (h : SetIDsApart env t host endpoints) (order' : MapOrder)
    {clusters : List ClusterGatewayTarget} (hperm : clusters.Perm t.clusterGatewayTargets) :
    ∃ order, fullEndpoints env order' { t with clusterGatewayTargets := clusters } host endpoints
      = fullEndpoints env order t host endpoints := by
  cases hdef' : defaultGroup order' { t with clusterGatewayTargets := clusters } with
  | none =>
      have hnil : addressed t = [] := by
        rw [List.eq_nil_iff_forall_not_mem]
        intro c hc
        rw [← mem_addressed_perm hperm, defaultGroup_eq_none.1 hdef'] at hc
        simp at hc
      exact ⟨order', fullEndpoints_congr_of_eq_nil h hperm (defaultGroup_eq_none.2 hnil)⟩
  | some code =>
      have hcand := (defaultCandidate_perm hperm).1 (defaultCandidate_of_defaultGroup hdef')
      obtain ⟨order, hdef⟩ := exists_order_of_defaultCandidate hcand
      exact ⟨order, fullEndpoints_congr h hperm hdef hdef' rfl⟩

/-! ## The default endpoint shows the order unless it is not published -/

variable {probes : List DNSHealthCheckProbe} {listenerName : String} {order' : MapOrder}

theorem mem_fullEndpoints_of_ne (h : SetIDsApart env t host endpoints) {code code' : GeoCode}
    (hdef : defaultGroup order t = some code) (hdef' : defaultGroup order' t = some code')
    {x : Endpoint} (hx : x ∈ fullEndpoints env order t host endpoints)
    (hne : x ≠ builtEndpoint env order t host endpoints (.default code)) :
    x ∈ fullEndpoints env order' t host endpoints := by
  obtain ⟨n, hn, rfl⟩ := (mem_fullEndpoints h.unambiguous).1 hx
  have hn' : n ∈ createdNodes env order' t host := by
    obtain ⟨code₀, hdef₀, hkind⟩ := mem_createdNodes.1 hn
    rw [hdef] at hdef₀
    cases hdef₀
    rcases hkind with rfl | hkind
    · exact absurd rfl hne
    · exact mem_createdNodes.2 ⟨code', hdef', Or.inr hkind⟩
  rw [builtEndpoint_eq h hn, ← builtEndpoint_eq h hn']
  exact (mem_fullEndpoints h.unambiguous).2 ⟨n, hn', rfl⟩

/-- Apart from the default endpoint, what survives does not depend on the order, as long as the
    default endpoint does not survive itself. -/
theorem Survives.of_not_survives (h : SetIDsApart env t host endpoints) {code code' : GeoCode}
    (hdef : defaultGroup order t = some code) (hdef' : defaultGroup order' t = some code')
    {failed : Endpoint → Bool}
    (hd : ¬ Survives failed (fullEndpoints env order t host endpoints)
      (builtEndpoint env order t host endpoints (.default code))) {x : Endpoint}
    (hx : x ∈ fullEndpoints env order t host endpoints)
    (hsurv : Survives failed (fullEndpoints env order t host endpoints) x) :
    Survives failed (fullEndpoints env order' t host endpoints) x := by
  refine ⟨hsurv.1, Support.Kept.of_subset (fun e he hkept => ?_)
    (List.mem_filter.2 ⟨hx, by simp [hsurv.1]⟩) hsurv.2⟩
  obtain ⟨hefull, henf⟩ := List.mem_filter.1 he
  have hene : e ≠ builtEndpoint env order t host endpoints (.default code) := by
    rintro rfl
    exact hd ⟨by simpa using henf, hkept⟩
  exact List.mem_filter.2 ⟨mem_fullEndpoints_of_ne h hdef hdef' hefull hene, henf⟩

/-- If neither default endpoint is published, the records are equal. -/
theorem setEndpoints_congr_of_not_stays (h : SetIDsApart env t host endpoints)
    {code code' : GeoCode} (hdef : defaultGroup order t = some code)
    (hdef' : defaultGroup order' t = some code')
    (hstay : ¬ StaysPublished env order t host endpoints probes listenerName
      (builtEndpoint env order t host endpoints (.default code)))
    (hstay' : ¬ StaysPublished env order' t host endpoints probes listenerName
      (builtEndpoint env order' t host endpoints (.default code'))) :
    setEndpoints env order t endpoints probes listenerName host
      = setEndpoints env order' t endpoints probes listenerName host := by
  classical
  unfold StaysPublished at hstay hstay'
  push Not at hstay hstay'
  obtain ⟨hfail, hex, hd⟩ := hstay
  obtain ⟨hfail', hex', hd'⟩ := hstay'
  have hiff : ∀ x ∈ fullEndpoints env order t host endpoints,
      x ∈ fullEndpoints env order' t host endpoints →
      (Survives (probeFailed probes t.gateway.name listenerName)
          (fullEndpoints env order t host endpoints) x ↔
        Survives (probeFailed probes t.gateway.name listenerName)
          (fullEndpoints env order' t host endpoints) x) := fun x hx hx' =>
    ⟨Survives.of_not_survives h hdef hdef' hd hx, Survives.of_not_survives h hdef' hdef hd' hx'⟩
  simp only [Bool.not_eq_false] at hfail hfail'
  rw [setEndpoints, setEndpoints, (publishEndpoints_eq hfail).1 hex,
    (publishEndpoints_eq hfail').1 hex']
  refine List.Perm.eq_of_sorted_by ?_ (pairwise_fullEndpoints.filter _)
    (pairwise_fullEndpoints.filter _) (fun a ha b hb hid =>
      eq_of_setID_eq h (List.mem_filter.1 ha).1 (List.mem_filter.1 hb).1 hid)
  -- both filters drop the default endpoint and agree on the rest
  have hplanned := @filter_plannedNodes_perm_perm env order t host order' t.clusterGatewayTargets
    (List.Perm.refl _)
  have hbuilt : ∀ (o : MapOrder) (g : GeoCode), defaultGroup o t = some g →
      builtEndpoint env o t host endpoints (.default g)
        = (Node.default g).setWildcard (nodeEndpoint env t host endpoints (.default g)) :=
    fun o g hg => builtEndpoint_eq h (mem_createdNodes.2 ⟨g, hg, Or.inl rfl⟩)
  rw [hbuilt order code hdef] at hd
  rw [hbuilt order' code' hdef'] at hd'
  refine ((fullEndpoints_perm_nodeEndpoint h hdef).filter _).trans
    (List.Perm.trans ?_ ((fullEndpoints_perm_nodeEndpoint h hdef').filter _).symm)
  have hdrop : ∀ (l : List Node) (g : GeoCode) (S : Endpoint → Prop),
      ¬ S ((Node.default g).setWildcard (nodeEndpoint env t host endpoints (.default g))) →
      ((l ++ [Node.default g]).map
          (fun n : Node => n.setWildcard (nodeEndpoint env t host endpoints n))).filter
        (fun e => decide (S e))
      = (l.map (fun n : Node => n.setWildcard (nodeEndpoint env t host endpoints n))).filter
        (fun e => decide (S e)) := by
    intro l g S hS
    rw [List.map_append, List.filter_append]
    simp [hS]
  rw [hdrop _ _ _ hd, hdrop _ _ _ hd']
  refine List.Perm.trans (List.Perm.of_eq ?_) (((hplanned.symm.append_right _).map _).filter _)
  apply List.filter_congr
  intro x hx
  have hmem : ∀ (o : MapOrder) (g : GeoCode), defaultGroup o t = some g →
      x ∈ fullEndpoints env o t host endpoints := by
    intro o g hg
    rw [(fullEndpoints_perm_nodeEndpoint h hg).mem_iff, List.map_append]
    refine List.mem_append_left _ ?_
    have hperm := @filter_plannedNodes_perm_perm env order t host o t.clusterGatewayTargets
      (List.Perm.refl _)
    exact ((hperm.append_right _).map _).mem_iff.2 hx
  rw [decide_eq_decide]
  exact hiff x (hmem order code hdef) (hmem order' code' hdef')

/-- If a default endpoint is published, the record shows which group is behind it. -/
theorem toLower_eq_of_setEndpoints_eq (h : SetIDsApart env t host endpoints)
    {code code' : GeoCode} (hdef : defaultGroup order t = some code)
    (hdef' : defaultGroup order' t = some code')
    (hstay : StaysPublished env order t host endpoints probes listenerName
      (builtEndpoint env order t host endpoints (.default code)))
    (heq : setEndpoints env order t endpoints probes listenerName host
      = setEndpoints env order' t endpoints probes listenerName host) :
    Text.toLower env.fold code = Text.toLower env.fold code' := by
  classical
  have hU := h.unambiguous
  have hd : Node.default code ∈ createdNodes env order t host :=
    mem_createdNodes.2 ⟨code, hdef, Or.inl rfl⟩
  have hmem : builtEndpoint env order t host endpoints (.default code) ∈
      fullEndpoints env order' t host endpoints := by
    have hin : builtEndpoint env order t host endpoints (.default code) ∈
        setEndpoints env order t endpoints probes listenerName host := by
      rw [setEndpoints_eq_filter]
      exact List.mem_filter.2 ⟨(mem_fullEndpoints hU).2 ⟨_, hd, rfl⟩, decide_eq_true hstay⟩
    rw [heq, setEndpoints_eq_filter] at hin
    exact (List.mem_filter.1 hin).1
  obtain ⟨n, hn, hbuilt⟩ := (mem_fullEndpoints hU).1 hmem
  have hr := realizes_builtEndpoint hU hd
  have hr' := realizes_builtEndpoint hU hn
  rw [hbuilt] at hr'
  have hid : n.setID env t host = (Node.default code).setID env t host := by
    rw [← setID_builtEndpoint h hn, hbuilt, setID_builtEndpoint h hd]
  have hname : n.dnsName env t host = lbName env t host := hr'.dnsName.symm.trans hr.dnsName
  have hnd : n.isDefault = true := by
    by_contra hnd
    exact setID_ne_catchAll (createdNodes_subset_treeNodes hn)
      (Bool.eq_false_of_not_eq_true hnd) hname code hid
  have hneq : n = .default code' := isDefault_unique hn
    (mem_createdNodes.2 ⟨code', hdef', Or.inl rfl⟩) hnd rfl
  have htargets := hr'.targets.symm.trans hr.targets
  rw [hneq] at htargets
  have hgeo : [geoLbName env (lbName env t host) code'] = [geoLbName env (lbName env t host) code] :=
    htargets
  exact (geoLbName_inj.1 (List.singleton_inj.1 hgeo)).symm

end

/-! ## The target for clusters in another order -/

theorem setWeight_error {defaultWeight : Int} {labels : Labels} {customWeights : List CustomWeight}
    {e : String} (h : ClusterGatewayTarget.setWeight defaultWeight labels customWeights = .error e) :
    e = "invalid label selector" := by
  induction customWeights with
  | nil => cases h
  | cons cw rest ih =>
      simp only [ClusterGatewayTarget.setWeight] at h
      split at h
      · cases h
        rfl
      · split at h
        · cases h
        · exact ih h

theorem new_eq (gateway : Gateway) (clusterGateways : List ClusterGateway)
    (loadBalancing : Option LoadBalancingSpec) :
    MultiClusterGatewayTarget.new gateway clusterGateways loadBalancing
      = (clusterGateways.mapM (fun cg => ClusterGatewayTarget.new cg
          (MultiClusterGatewayTarget.getDefaultGeo ⟨gateway, [], loadBalancing⟩)
          (MultiClusterGatewayTarget.getDefaultWeight ⟨gateway, [], loadBalancing⟩)
          (MultiClusterGatewayTarget.customWeights ⟨gateway, [], loadBalancing⟩))).map
        (fun clusters => ⟨gateway, clusters, loadBalancing⟩) := by
  unfold MultiClusterGatewayTarget.new MultiClusterGatewayTarget.setClusterGatewayTargets
  cases clusterGateways.mapM (fun cg => ClusterGatewayTarget.new cg
    (MultiClusterGatewayTarget.getDefaultGeo ⟨gateway, [], loadBalancing⟩)
    (MultiClusterGatewayTarget.getDefaultWeight ⟨gateway, [], loadBalancing⟩)
    (MultiClusterGatewayTarget.customWeights ⟨gateway, [], loadBalancing⟩)) <;> rfl

theorem new_error {gateway : Gateway} {clusterGateways : List ClusterGateway}
    {loadBalancing : Option LoadBalancingSpec} {e : String}
    (h : MultiClusterGatewayTarget.new gateway clusterGateways loadBalancing = .error e) :
    e = "invalid label selector" := by
  rw [new_eq] at h
  cases hm : clusterGateways.mapM (fun cg => ClusterGatewayTarget.new cg
      (MultiClusterGatewayTarget.getDefaultGeo ⟨gateway, [], loadBalancing⟩)
      (MultiClusterGatewayTarget.getDefaultWeight ⟨gateway, [], loadBalancing⟩)
      (MultiClusterGatewayTarget.customWeights ⟨gateway, [], loadBalancing⟩)) with
  | ok r =>
      rw [hm] at h
      cases h
  | error e' =>
      rw [hm] at h
      cases h
      obtain ⟨cg, -, hcg⟩ := Fallible.mapM_eq_error hm
      unfold ClusterGatewayTarget.new at hcg
      cases hw : ClusterGatewayTarget.setWeight
          (MultiClusterGatewayTarget.getDefaultWeight ⟨gateway, [], loadBalancing⟩)
          cg.cluster.labels
          (MultiClusterGatewayTarget.customWeights ⟨gateway, [], loadBalancing⟩) with
      | ok w =>
          rw [hw] at hcg
          cases hcg
      | error e'' =>
          rw [hw] at hcg
          cases hcg
          exact setWeight_error hw

/-- Listing the clusters in another order permutes the clusters of the target. -/
theorem new_perm {gateway : Gateway} {clusterGateways clusterGateways' : List ClusterGateway}
    {loadBalancing : Option LoadBalancingSpec} (hperm : clusterGateways'.Perm clusterGateways)
    {t : MultiClusterGatewayTarget}
    (h : MultiClusterGatewayTarget.new gateway clusterGateways loadBalancing = .ok t) :
    t.gateway = gateway ∧ ∃ clusters, clusters.Perm t.clusterGatewayTargets ∧
      MultiClusterGatewayTarget.new gateway clusterGateways' loadBalancing
        = .ok { t with clusterGatewayTargets := clusters } := by
  rw [new_eq] at h ⊢
  cases hm : clusterGateways.mapM (fun cg => ClusterGatewayTarget.new cg
      (MultiClusterGatewayTarget.getDefaultGeo ⟨gateway, [], loadBalancing⟩)
      (MultiClusterGatewayTarget.getDefaultWeight ⟨gateway, [], loadBalancing⟩)
      (MultiClusterGatewayTarget.customWeights ⟨gateway, [], loadBalancing⟩)) with
  | error e =>
      rw [hm] at h
      cases h
  | ok r =>
      rw [hm] at h
      cases h
      obtain ⟨r', hr', hp⟩ := Fallible.mapM_perm hperm.symm hm
      rw [hr']
      exact ⟨rfl, r', hp, rfl⟩

/-! ## When the order does not show -/

theorem endpointsFor_ok {env : Env} {order : MapOrder} {gateway : Gateway}
    {loadBalancing : Option LoadBalancingSpec} {clusterGateways : List ClusterGateway}
    {endpoints : List Endpoint} {probes : List DNSHealthCheckProbe} {listenerName host : String}
    {t : MultiClusterGatewayTarget}
    (h : MultiClusterGatewayTarget.new gateway clusterGateways loadBalancing = .ok t) :
    endpointsFor env order gateway loadBalancing clusterGateways endpoints probes listenerName host
      = .ok (setEndpoints env order t endpoints probes listenerName host) := by
  unfold endpointsFor
  rw [h]
  rfl

/-- Exactly when the record does not depend on the iteration order: any two groups that can end up
    behind the default endpoint have the same name, or neither is published. The first alone is
    enough whatever the probes and the names are. -/
theorem orderIndependent_iff (env : Env) (gateway : Gateway)
    (loadBalancing : Option LoadBalancingSpec) (clusterGateways : List ClusterGateway)
    (endpoints : List Endpoint) (probes : List DNSHealthCheckProbe) (listenerName host : String) :
    ((∀ t, MultiClusterGatewayTarget.new gateway clusterGateways loadBalancing = .ok t →
        SetIDsApart env t host endpoints ∧ DefaultSettled env t) →
      OrderIndependent env gateway loadBalancing clusterGateways endpoints probes listenerName
        host) ∧
    (∀ t, MultiClusterGatewayTarget.new gateway clusterGateways loadBalancing = .ok t →
      SetIDsApart env t host endpoints →
      NamesApart env t host endpoints (addressFailed probes gateway.name listenerName) →
      (OrderIndependent env gateway loadBalancing clusterGateways endpoints probes listenerName
          host ↔
        DefaultSettledWherePublished env t host
          (addressFailed probes gateway.name listenerName))) := by
  constructor
  · intro hcond clusterGateways' hperm order order'
    cases hnew : MultiClusterGatewayTarget.new gateway clusterGateways loadBalancing with
    | error e =>
        -- a malformed selector fails every run
        cases hnew' : MultiClusterGatewayTarget.new gateway clusterGateways' loadBalancing with
        | ok t' =>
            obtain ⟨-, clusters, -, hok⟩ := new_perm hperm.symm hnew'
            rw [hnew] at hok
            cases hok
        | error e' =>
            unfold endpointsFor
            rw [hnew, hnew', new_error hnew, new_error hnew']
            rfl
    | ok t =>
        obtain ⟨h, hsettled⟩ := hcond t hnew
        obtain ⟨-, clusters, hclusters, hnew'⟩ := new_perm hperm hnew
        rw [endpointsFor_ok hnew, endpointsFor_ok hnew']
        have hfull : fullEndpoints env order' { t with clusterGatewayTargets := clusters } host
            endpoints = fullEndpoints env order t host endpoints := by
          cases hdef : defaultGroup order t with
          | none => exact fullEndpoints_congr_of_eq_nil h hclusters hdef
          | some code =>
              have hne : defaultGroup order' { t with clusterGatewayTargets := clusters } ≠ none := by
                intro hnone
                obtain ⟨c, hc, -⟩ := exists_addressed_of_defaultGroup hdef
                rw [← mem_addressed_perm hclusters, defaultGroup_eq_none.1 hnone] at hc
                simp at hc
              obtain ⟨code', hdef'⟩ := Option.ne_none_iff_exists'.1 hne
              exact fullEndpoints_congr h hclusters hdef hdef'
                (hsettled code code' (defaultCandidate_of_defaultGroup hdef)
                  ((defaultCandidate_perm hclusters).1 (defaultCandidate_of_defaultGroup hdef')))
        unfold setEndpoints
        rw [hfull]
  · intro t hnew h hW
    have hgw : t.gateway = gateway := (new_perm (List.Perm.refl _) hnew).1
    rw [← hgw] at hW ⊢
    have hstays : ∀ (order : MapOrder) (code : GeoCode), defaultGroup order t = some code →
        (StaysPublished env order t host endpoints probes listenerName
          (builtEndpoint env order t host endpoints (.default code)) ↔
        GroupPublished env t host (addressFailed probes t.gateway.name listenerName) code) := by
      intro order code hdef
      obtain ⟨c, hc, rfl⟩ := exists_addressed_of_defaultGroup hdef
      exact staysPublished_lbNode_iff hW hc (mem_createdNodes.2 ⟨c.geo, hdef, Or.inl rfl⟩)
        (Or.inr rfl)
    constructor
    · intro hindep code code' hcand hcand'
      obtain ⟨order, hdef⟩ := exists_order_of_defaultCandidate hcand
      obtain ⟨order', hdef'⟩ := exists_order_of_defaultCandidate hcand'
      have heq : setEndpoints env order t endpoints probes listenerName host
          = setEndpoints env order' t endpoints probes listenerName host := by
        have := hindep clusterGateways (List.Perm.refl _) order order'
        rw [hgw, endpointsFor_ok hnew, endpointsFor_ok hnew] at this
        exact Except.ok.inj this
      by_cases hlower : Text.toLower env.fold code = Text.toLower env.fold code'
      · exact Or.inl hlower
      · refine Or.inr ⟨fun hpub => hlower ?_, fun hpub => hlower ?_⟩
        · exact toLower_eq_of_setEndpoints_eq h hdef hdef' ((hstays order code hdef).2 hpub) heq
        · exact (toLower_eq_of_setEndpoints_eq h hdef' hdef ((hstays order' code' hdef').2 hpub)
            heq.symm).symm
    · intro hsettled clusterGateways' hperm order order'
      obtain ⟨-, clusters, hclusters, hnew'⟩ := new_perm hperm hnew
      obtain ⟨order'', hfull⟩ := exists_order_fullEndpoints_eq h order' hclusters
      have hrun : setEndpoints env order' { t with clusterGatewayTargets := clusters } endpoints
          probes listenerName host = setEndpoints env order'' t endpoints probes listenerName host := by
        unfold setEndpoints
        rw [hfull]
      rw [hgw, endpointsFor_ok hnew, endpointsFor_ok hnew', hrun]
      congr 1
      cases hdef : defaultGroup order t with
      | none =>
          have hsame : fullEndpoints env order'' t host endpoints
              = fullEndpoints env order t host endpoints :=
            fullEndpoints_congr_of_eq_nil h (List.Perm.refl _) hdef
          unfold setEndpoints
          rw [hsame]
      | some code =>
          have hne : defaultGroup order'' t ≠ none := by
            intro hnone
            obtain ⟨c, hc, -⟩ := exists_addressed_of_defaultGroup hdef
            rw [defaultGroup_eq_none.1 hnone] at hc
            simp at hc
          obtain ⟨code', hdef'⟩ := Option.ne_none_iff_exists'.1 hne
          rcases hsettled code code' (defaultCandidate_of_defaultGroup hdef)
            (defaultCandidate_of_defaultGroup hdef') with hlower | ⟨hpub, hpub'⟩
          · have hsame : fullEndpoints env order'' t host endpoints
                = fullEndpoints env order t host endpoints :=
              fullEndpoints_congr h (List.Perm.refl _) hdef hdef' hlower
            unfold setEndpoints
            rw [hsame]
          · exact setEndpoints_congr_of_not_stays h hdef hdef'
              (fun hs => hpub ((hstays order code hdef).1 hs))
              (fun hs => hpub' ((hstays order'' code' hdef').1 hs))

/-- Two clusters labelled with geo codes. -/
def labelledClusters (geo geo' : GeoCode) : List ClusterGateway :=
  [{ cluster := { name := "test-cluster-1", labels := [(labelLBAttributeGeoCode, geo)] },
     gatewayAddresses := [⟨.ipAddress, "1.1.1.1"⟩] },
   { cluster := { name := "test-cluster-2", labels := [(labelLBAttributeGeoCode, geo')] },
     gatewayAddresses := [⟨.ipAddress, "2.2.2.2"⟩] }]

/-- The target for clusters in `IE` and `US`. -/
def labelledTarget : MultiClusterGatewayTarget where
  gateway := { name := "testgw", ns := "testns" }
  clusterGatewayTargets :=
    (labelledClusters "IE" "US").zipWith (fun cg geo => { cg with geo := geo, weight := 120 })
      ["IE", "US"]
  loadBalancing := some { geo := some ⟨"IE"⟩ }

/-- With a cluster in the default geo, the order shows neither without probes nor after the default
    geo has failed. -/
theorem orderIndependent_labelledClusters :
    OrderIndependent Env.sample { name := "testgw", ns := "testns" }
        (some { geo := some ⟨"IE"⟩ }) (labelledClusters "IE" "US") [] [] "test"
        "test.example.com" ∧
      OrderIndependent Env.sample { name := "testgw", ns := "testns" }
        (some { geo := some ⟨"IE"⟩ }) (labelledClusters "IE" "US") [] [failedProbe "1.1.1.1"] "test"
        "test.example.com" := by
  have hnew : MultiClusterGatewayTarget.new { name := "testgw", ns := "testns" }
      (labelledClusters "IE" "US") (some { geo := some ⟨"IE"⟩ }) = .ok labelledTarget := rfl
  have hids : SetIDsApart Env.sample labelledTarget "test.example.com" [] :=
    ⟨by decide +kernel, by simp⟩
  have hW : NamesApart Env.sample labelledTarget "test.example.com" []
      (addressFailed [failedProbe "1.1.1.1"] "testgw" "test") :=
    ⟨hids.unambiguous, by decide +kernel, by decide +kernel, by decide +kernel,
      by decide +kernel⟩
  have hIE : ∀ code, DefaultCandidate labelledTarget code → code = "IE" := by
    rintro code ⟨⟨c, hc, rfl⟩, hexp⟩
    revert c
    decide +kernel
  have hsettled : DefaultSettled Env.sample labelledTarget := by
    intro code code' h h'
    rw [hIE code h, hIE code' h']
  refine ⟨(orderIndependent_iff _ _ _ _ _ _ _ _).1 fun t ht => ?_,
    ((orderIndependent_iff _ _ _ _ _ _ _ _).2 _ hnew hids hW).2
      fun code code' h h' => Or.inl (hsettled code code' h h')⟩
  rw [hnew] at ht
  cases ht
  exact ⟨hids, hsettled⟩

/-- With no cluster in the default geo, the catch-all leads to whichever group the map iteration
    visits first. -/
theorem not_orderIndependent_labelledClusters :
    ¬ OrderIndependent Env.sample { name := "testgw", ns := "testns" }
        (some { geo := some ⟨"IE"⟩ }) (labelledClusters "US" "EU") [] [] "test"
        "test.example.com" := by
  intro h
  have hrun := h (labelledClusters "US" "EU") (List.Perm.refl _) .inserted .reversed
  revert hrun
  decide +kernel

end MultiClusterGateway
