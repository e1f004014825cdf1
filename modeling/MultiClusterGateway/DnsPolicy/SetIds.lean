import MultiClusterGateway.DnsPolicy.History
import MultiClusterGateway.DnsPolicy.Resolution

set_option autoImplicit false

/-! # Set identifiers

`SetID` joins the name and the set identifier of an endpoint without a separator; it is the key
under which `setEndpoints` finds the endpoints of the record and under which the Route 53 provider
compares two lists. The names that `setEndpoints` generates for a host are such that it still tells
all endpoints of a call apart, and that an id stands for the same record set in every call
(`setIDs_unambiguous`), as long as a target does not list a cluster twice. -/

namespace MultiClusterGateway

/-- The endpoints are for the same record set. -/
structure SameRecordSet (e e' : Endpoint) : Prop where
  dnsName : e.dnsName = e'.dnsName
  setIdentifier : e.setIdentifier = e'.setIdentifier
  recordType : e.recordType = e'.recordType

section
variable {env : Env} {t t' : MultiClusterGatewayTarget} {host : String}

/-- Nodes with the same id are for the same record set, whatever the calls. -/
theorem node_eq_of_setID_eq (hA : Admissible env t host) (hA' : Admissible env t' host)
    {m n : Node} (hm : m ∈ treeNodes env t host) (hn : n ∈ treeNodes env t' host)
    (hid : m.setID env t host = n.setID env t' host) :
    m.dnsName env t host = n.dnsName env t' host ∧ m.setIdentifier = n.setIdentifier ∧
      m.recordType = n.recordType := by
  have halike := alike_of_setID_eq hA hA' hm hn hid
  have hname : m.dnsName env t host = n.dnsName env t' host := by
    rw [setID_eq_text, setID_eq_text] at hid
    rcases (Shape.text_inj (hA.proper hm) (hA'.proper hn) hid).2 with hhost | hlb
    · -- only the listener's host has no lb name in it
      cases halike with
      | host => rfl
      | address _ | weighted _ | geo _ | default _ _ => cases hhost
    · exact halike.dnsName_eq hlb
  cases halike with
  | address h => exact ⟨hname, rfl, rfl⟩
  | weighted h => exact ⟨hname, rfl, rfl⟩
  | geo code => exact ⟨hname, rfl, rfl⟩
  | default code code' => exact ⟨hname, rfl, rfl⟩
  | host => exact ⟨hname, rfl, rfl⟩

theorem LeftBehind.sameRecordSet {gateway gateway' : Gateway} {e e' : Endpoint}
    (h : LeftBehind env gateway host e) (h' : LeftBehind env gateway' host e')
    (hid : e.setID = e'.setID) : SameRecordSet e e' := by
  obtain ⟨t, -, hA, m, hm, rfl⟩ := h
  obtain ⟨t', -, hA', n, hn, rfl⟩ := h'
  rw [setID_setWildcard_fresh, setID_setWildcard_fresh] at hid
  obtain ⟨hname, hident, htype⟩ := node_eq_of_setID_eq hA hA' hm hn hid
  refine ⟨?_, ?_, ?_⟩
  · simpa using hname
  · simpa using hident
  · simpa using htype

theorem Admissible.nodup_createdNodes (hA : Admissible env t host) (hO : ClustersOnce t)
    {order : MapOrder} : (createdNodes env order t host).Nodup := by
  refine MultiClusterGateway.nodup_createdNodes hO fun c hc =>
    nodup_clusterNodes ?_ (hA.host_not_lb c hc)
  exact (List.nodup_flatMap.1 (hA.hosts_nodup (Text.toLower env.fold c.geo))).1 c
    (List.mem_filter.2 ⟨hc, beq_self_eq_true _⟩)

/-- The endpoints before the probe check have different ids. -/
theorem Admissible.nodup_setID_fullEndpoints (hA : Admissible env t host) (hO : ClustersOnce t)
    {old : List Endpoint} (hold : ∀ e ∈ old, LeftBehind env t.gateway host e) (order : MapOrder) :
    ((fullEndpoints env order t host old).map Endpoint.setID).Nodup := by
  have hapart := hA.setIDsApart hO hold
  have hids : ((createdNodes env order t host).map (builtEndpoint env order t host old)).map
      Endpoint.setID = (createdNodes env order t host).map (Node.setID env t host) := by
    rw [List.map_map]
    refine List.map_congr_left fun n hn => ?_
    exact setID_builtEndpoint hapart hn
  rw [((fullEndpoints_perm hapart.unambiguous).map Endpoint.setID).nodup_iff, hids]
  refine List.Nodup.map_on (fun m hm n hn hid => ?_) (hA.nodup_createdNodes hO)
  rcases hA.eq_of_setID_eq hO (createdNodes_subset_treeNodes hm) (createdNodes_subset_treeNodes hn)
    hid with ⟨hmd, hnd⟩ | rfl
  · exact isDefault_unique hm hn hmd hnd
  · rfl

end

/-- The ids of the endpoints in the record are different after any calls, and an id stands for one
    record set in the records of any two gateways with this host, after any calls for each. -/
theorem setIDs_unambiguous (env : Env) (gateway gateway' : Gateway)
    (listenerName listenerName' host : String) (calls calls' : List Call)
    (hcalls : ∀ call ∈ calls, Admissible env (call.target gateway) host ∧
      ClustersOnce (call.target gateway))
    (hcalls' : ∀ call ∈ calls', Admissible env (call.target gateway') host ∧
      ClustersOnce (call.target gateway')) :
    ((Call.endpointsAfter env gateway listenerName host calls).map Endpoint.setID).Nodup ∧
      ∀ e ∈ Call.endpointsAfter env gateway listenerName host calls,
        ∀ e' ∈ Call.endpointsAfter env gateway' listenerName' host calls',
          e.setID = e'.setID → SameRecordSet e e' := by
  constructor
  · induction calls using List.reverseRecOn with
    | nil => exact List.nodup_nil
    | append_singleton front last _ =>
        obtain ⟨hA, hO⟩ := hcalls last (by simp)
        have hbefore := @Call.leftBehind_endpointsAfter env gateway listenerName host front
          fun call hcall => hcalls call (List.mem_append_left _ hcall)
        rw [Call.endpointsAfter_append, Call.endpoints, setEndpoints]
        exact (hA.nodup_setID_fullEndpoints hO hbefore last.order).sublist
          (publishEndpoints_sublist.map Endpoint.setID)
  · intro e he e' he' hid
    exact (Call.leftBehind_endpointsAfter hcalls e he).sameRecordSet
      (Call.leftBehind_endpointsAfter hcalls' e' he') hid

/-- A record while its cluster gets another address, and one of another gateway. -/
theorem setIDs_unambiguous_moved :
    let calls := [Call.ofClusters [plainCluster "test-cluster-1" ⟨.ipAddress, "1.1.1.1"⟩],
      Call.ofClusters [plainCluster "test-cluster-1" ⟨.ipAddress, "1.1.1.2"⟩]]
    let calls' := [Call.ofClusters [plainCluster "test-cluster-2" ⟨.hostname, "lb.example.net"⟩]]
    let after := Call.endpointsAfter .sample { name := "testgw", ns := "testns" } "test"
      "test.example.com" calls
    let after' := Call.endpointsAfter .sample { name := "othergw", ns := "testns" } "test"
      "test.example.com" calls'
    (after.map Endpoint.setID).Nodup ∧
      ∀ e ∈ after, ∀ e' ∈ after', e.setID = e'.setID → SameRecordSet e e' := by
  intro calls calls' after after'
  refine setIDs_unambiguous .sample { name := "testgw", ns := "testns" }
    { name := "othergw", ns := "testns" } "test" "test" "test.example.com" calls calls' ?_ ?_
  · intro call hcall
    simp only [calls, List.mem_cons, List.not_mem_nil, or_false] at hcall
    rcases hcall with rfl | rfl
    · refine ⟨⟨by decide, by decide, by decide, by decide, by decide, fun code => ?_⟩, by decide⟩
      exact List.Nodup.sublist (List.filter_sublist.flatMap _) (by decide)
    · refine ⟨⟨by decide, by decide, by decide, by decide, by decide, fun code => ?_⟩, by decide⟩
      exact List.Nodup.sublist (List.filter_sublist.flatMap _) (by decide)
  · intro call hcall
    simp only [calls', List.mem_cons, List.not_mem_nil, or_false] at hcall
    rw [hcall]
    refine ⟨⟨by decide, by decide, by decide, by decide, by decide, fun code => ?_⟩, by decide⟩
    exact List.Nodup.sublist (List.filter_sublist.flatMap _) (by decide)

/-- A cluster that is listed twice gets two A endpoints with the same id. -/
theorem setID_twice_of_cluster_listed_twice :
    let call := Call.ofClusters [plainCluster "test-cluster-1" ⟨.ipAddress, "1.1.1.1"⟩,
      plainCluster "test-cluster-1" ⟨.ipAddress, "2.2.2.2"⟩]
    Admissible .sample (call.target { name := "testgw", ns := "testns" }) "test.example.com" ∧
      ¬ ((Call.endpointsAfter .sample { name := "testgw", ns := "testns" } "test"
        "test.example.com" [call]).map Endpoint.setID).Nodup := by
  intro call
  constructor
  · refine ⟨by decide, by decide, by decide, by decide, by decide, fun code => ?_⟩
    exact List.Nodup.sublist (List.filter_sublist.flatMap _) (by decide)
  · have hrun : Call.endpointsAfter .sample { name := "testgw", ns := "testns" } "test"
        "test.example.com" [call]
          = fullEndpoints .sample .inserted (call.target { name := "testgw", ns := "testns" })
              "test.example.com" [] :=
      setEndpoints_no_probes _ _ _ _ _ _
    rw [hrun]
    decide

end MultiClusterGateway
