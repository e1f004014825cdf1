import MultiClusterGateway.DnsPolicy.Determinism
import MultiClusterGateway.DnsPolicy.Pruning

set_option autoImplicit false

/-! # What `setEndpoints` remembers

Endpoints of the record are reused under their id, with their set identifier and their properties.
The ids of a gateway's listener also tell apart the endpoints of different calls, so that what is
reused was made for the same purpose, and the properties it comes with are those that are written
once more. Hence the endpoints a call leaves do not depend on the calls before it.

The point of the result is that `setEndpoints` takes over the endpoints that it finds, with their
properties, so that a weight or a geo code of an earlier call could survive in an endpoint that is
now used for something else. The id of an endpoint has one of three shapes, and dots and prefixes
tell the shapes apart. Endpoints are therefore taken over for the same shape only, and the
properties of that shape are all written again. -/

namespace MultiClusterGateway

/-- What one call of `setEndpoints` for a gateway's listener is given. -/
structure Call where
  order : MapOrder
  clusterGatewayTargets : List ClusterGatewayTarget
  loadBalancing : Option LoadBalancingSpec
  probes : List DNSHealthCheckProbe

namespace Call

/-- The target that the call is for. -/
def target (gateway : Gateway) (call : Call) : MultiClusterGatewayTarget where
  gateway := gateway
  clusterGatewayTargets := call.clusterGatewayTargets
  loadBalancing := call.loadBalancing

section
variable (env : Env) (gateway : Gateway) (listenerName host : String)

/-- The endpoints in the record after the call. -/
def endpoints (before : List Endpoint) (call : Call) : List Endpoint :=
  setEndpoints env call.order (call.target gateway) before call.probes listenerName host

/-- The record differs from the copy that was made at the start of the call. -/
def issuesUpdate (before : List Endpoint) (call : Call) : Bool :=
  decide (call.endpoints env gateway listenerName host before ≠ before)

/-- The endpoints in the record after a sequence of calls. -/
def endpointsAfter (calls : List Call) : List Endpoint :=
  calls.foldl (endpoints env gateway listenerName host) []

end

end Call

section
variable (env : Env) (t : MultiClusterGatewayTarget) (host : String)

/-- What the geo codes, the cluster names and the host names of a target have to satisfy. -/
structure Admissible : Prop where
  geo_dotFree : ∀ c ∈ t.clusterGatewayTargets, Text.DotFree c.geo
  geo_not_lb : ∀ c ∈ t.clusterGatewayTargets,
    Text.hasPrefix (Text.toLower env.fold c.geo) "lb-" = false
  hash_inj : ∀ c ∈ t.clusterGatewayTargets, ∀ c' ∈ t.clusterGatewayTargets,
    c.getShortCode env = c'.getShortCode env → c.getName = c'.getName
  host_ne_empty : ∀ c ∈ t.clusterGatewayTargets, ∀ v ∈ c.hostValues, v ≠ ""
  host_not_lb : ∀ c ∈ t.clusterGatewayTargets, ∀ v ∈ c.hostValues,
    ¬ (lbName env t host).toList <:+ v.toList
  hosts_nodup : ∀ code, ((t.clusterGatewayTargets.filter
    (fun c => Text.toLower env.fold c.geo == code)).flatMap ClusterGatewayTarget.hostValues).Nodup

/-- Every cluster is listed once. -/
def ClustersOnce : Prop := (t.clusterGatewayTargets.map ClusterGatewayTarget.getName).Nodup

instance : Decidable (ClustersOnce t) :=
  inferInstanceAs (Decidable (List.Nodup _))

end

/-! ## Ids across calls -/

/-- How an id is made from the listener's host and the lb name. -/
inductive Shape where
  | host
  | lb (id : String)
  | labelled (label id : String)
deriving DecidableEq

namespace Shape

/-- The id as a text, given the lb name and the host. -/
def text (lb host : String) : Shape → String
  | .host => host
  | .lb id => lb ++ id
  | .labelled label id => label ++ "." ++ (lb ++ id)

/-- The label is one, and not that of a lb name. -/
def Proper : Shape → Prop
  | .labelled label _ => Text.DotFree label ∧ Text.hasPrefix label "lb-" = false
  | _ => True

end Shape

/-- The shape of the id of a node's endpoint. -/
def Node.shape (env : Env) : Node → Shape
  | .address c => .labelled (c.getShortCode env) ""
  | .weighted c hostValue => .labelled (Text.toLower env.fold c.geo) hostValue
  | .geo code => .lb code
  | .default _ => .lb "default"
  | .host => .host

/-- A weighted CNAME has a target, and the group of the catch-all has no other CNAME. -/
def Node.Regular : Node → Prop
  | .weighted _ hostValue => hostValue ≠ ""
  | .geo code => code ≠ GeoCode.defaultGeo
  | _ => True

/-- The nodes have the same place in the trees of two calls. -/
inductive Node.Alike (env : Env) : Node → Node → Prop
  | address {c c' : ClusterGatewayTarget} (h : c.getShortCode env = c'.getShortCode env) :
      Alike env (.address c) (.address c')
  | weighted {c c' : ClusterGatewayTarget} {v : String}
      (h : Text.toLower env.fold c.geo = Text.toLower env.fold c'.geo) :
      Alike env (.weighted c v) (.weighted c' v)
  | geo (code : GeoCode) : Alike env (.geo code) (.geo code)
  | default (code code' : GeoCode) : Alike env (.default code) (.default code')
  | host : Alike env .host .host

theorem Node.Alike.of_shape_eq {env : Env} {m n : Node} (hm : m.Regular) (hn : n.Regular)
    (h : m.shape env = n.shape env) : Node.Alike env m n := by
  cases m with
  | address c =>
      cases n with
      | address c' => exact .address (Shape.labelled.inj h).1
      | weighted c' v => exact absurd (Shape.labelled.inj h).2.symm hn
      | geo _ | default _ | host => cases h
  | weighted c v =>
      cases n with
      | address c' => exact absurd (Shape.labelled.inj h).2 hm
      | weighted c' v' =>
          obtain ⟨hgeo, rfl⟩ := Shape.labelled.inj h
          exact .weighted hgeo
      | geo _ | default _ | host => cases h
  | geo code =>
      cases n with
      | geo code' =>
          cases h
          exact .geo code
      | default code' => exact absurd (Shape.lb.inj h) hm
      | address _ | weighted _ _ | host => cases h
  | default code =>
      cases n with
      | geo code' => exact absurd (Shape.lb.inj h).symm hn
      | default code' => exact .default code code'
      | address _ | weighted _ _ | host => cases h
  | host =>
      cases n with
      | host => exact .host
      | address _ | weighted _ _ | geo _ | default _ => cases h

section
variable {env : Env} {t t' : MultiClusterGatewayTarget} {host : String}

theorem lbName_congr (h : t.gateway = t'.gateway) : lbName env t host = lbName env t' host := by
  unfold lbName MultiClusterGatewayTarget.getShortCode MultiClusterGatewayTarget.getName
  rw [h]

theorem setID_eq_text (n : Node) :
    n.setID env t host = (n.shape env).text (lbName env t host) host := by
  cases n with
  | address c =>
      show clusterLbName env (lbName env t host) c ++ "" = _
      rw [clusterLbName_eq, String.append_empty]
      simp only [Node.shape, Shape.text, String.append_empty]
  | weighted c hostValue =>
      show geoLbName env (lbName env t host) c.geo ++ hostValue = _
      rw [geoLbName_eq, String.append_assoc]
      rfl
  | geo code => rfl
  | default code => rfl
  | host => exact String.append_empty

/-- A proper label is not the first one of a lb name. -/
theorem labelled_ne_lbName {label : String} (hlabel : Text.DotFree label)
    (hlb : Text.hasPrefix label "lb-" = false) (a b : String) :
    label ++ "." ++ a ≠ lbName env t host ++ b := by
  intro h
  have hcode : Text.DotFree ("lb-" ++ t.getShortCode env) := by
    have hhash : '.' ∉ (t.getShortCode env).toList := dotFree_hash _
    simp [Text.DotFree, hhash]
  have hsplit : label ++ "." ++ a = "lb-" ++ t.getShortCode env ++ "."
      ++ (Text.toLower env.fold (cnameHost host) ++ b) := by
    rw [h, lbName_eq]
    simp only [String.append_assoc]
  obtain ⟨rfl, -⟩ := @Text.split_at '.' _ _ _ _ hlabel hcode hsplit
  simp [Text.hasPrefix] at hlb

/-- What follows a lb name can be told from it, and lb names of one host differ in their first
    label. -/
theorem lbName_append_inj {a b : String} (h : lbName env t host ++ a = lbName env t' host ++ b) :
    lbName env t host = lbName env t' host ∧ a = b := by
  have hcode (t : MultiClusterGatewayTarget) : Text.DotFree ("lb-" ++ t.getShortCode env) := by
    have hhash : '.' ∉ (t.getShortCode env).toList := dotFree_hash _
    simp [Text.DotFree, hhash]
  have hsplit (t : MultiClusterGatewayTarget) (a : String) : lbName env t host ++ a
      = "lb-" ++ t.getShortCode env ++ "." ++ (Text.toLower env.fold (cnameHost host) ++ a) := by
    rw [lbName_eq]
    simp only [String.append_assoc]
  rw [hsplit, hsplit] at h
  obtain ⟨hcodes, hrest⟩ := @Text.split_at '.' _ _ _ _ (hcode t) (hcode t') h
  refine ⟨?_, (String.append_right_inj _).1 hrest⟩
  rw [lbName_eq, lbName_eq, hcodes]

/-- The text of a proper shape determines it, also for two gateways. -/
theorem Shape.text_inj {s s' : Shape} (hs : s.Proper) (hs' : s'.Proper)
    (h : s.text (lbName env t host) host = s'.text (lbName env t' host) host) :
    s = s' ∧ (s = .host ∨ lbName env t host = lbName env t' host) := by
  have hhost (t : MultiClusterGatewayTarget) (a b : String) :
      host ≠ a ++ (lbName env t host ++ b) := by
    rw [← String.append_assoc]
    exact host_ne_of_contains_lbName t host a b
  have hhost' (t : MultiClusterGatewayTarget) (b : String) : host ≠ lbName env t host ++ b := by
    simpa using hhost t "" b
  cases s with
  | host =>
      cases s' with
      | host => exact ⟨rfl, .inl rfl⟩
      | lb id => exact absurd h (hhost' t' id)
      | labelled label id => exact absurd h (hhost t' (label ++ ".") id)
  | lb id =>
      cases s' with
      | host => exact absurd h.symm (hhost' t id)
      | lb id' =>
          obtain ⟨hlb, rfl⟩ := lbName_append_inj h
          exact ⟨rfl, .inr hlb⟩
      | labelled label id' => exact absurd h.symm (labelled_ne_lbName hs'.1 hs'.2 _ _)
  | labelled label id =>
      cases s' with
      | host => exact absurd h.symm (hhost t (label ++ ".") id)
      | lb id' => exact absurd h (labelled_ne_lbName hs.1 hs.2 _ _)
      | labelled label' id' =>
          obtain ⟨rfl, hid⟩ := @Text.split_at '.' _ _ _ _ hs.1 hs'.1 h
          obtain ⟨hlb, rfl⟩ := lbName_append_inj hid
          exact ⟨rfl, .inr hlb⟩

theorem shortCode_not_lb (c : ClusterGatewayTarget) :
    Text.hasPrefix (c.getShortCode env) "lb-" = false := by
  rw [← Bool.not_eq_true]
  intro h
  obtain ⟨rest, hrest⟩ := List.isPrefixOf_iff_prefix.1 h
  have hdash : '-' ∈ (c.getShortCode env).toList := by
    rw [← hrest]
    simp
  rcases env.hash_alnum _ '-' hdash with hd | hl
  · exact absurd hd (by decide)
  · exact absurd hl (by decide)

theorem Admissible.regular (hA : Admissible env t host) {n : Node}
    (hn : n ∈ treeNodes env t host) : n.Regular := by
  rcases mem_treeNodes.1 hn with ⟨c, hc, hmem | ⟨rfl, hcode⟩ | rfl⟩ | rfl
  · rcases mem_clusterNodes.1 hmem with ⟨rfl, -⟩ | ⟨v, hv, rfl⟩ | ⟨rfl, -⟩
    · exact trivial
    · exact hA.host_ne_empty c (mem_addressed.1 hc).1 v hv
    · intro h
      rw [clusterLbName_eq] at h
      have := congrArg String.toList h
      simp at this
  · exact hcode
  · exact trivial
  · exact trivial

theorem Admissible.proper (hA : Admissible env t host) {n : Node}
    (hn : n ∈ treeNodes env t host) : (n.shape env).Proper := by
  rcases mem_treeNodes.1 hn with ⟨c, hc, hmem | ⟨rfl, -⟩ | rfl⟩ | rfl
  · have hct := (mem_addressed.1 hc).1
    have hgeo (v : String) : ((Node.weighted c v).shape env).Proper :=
      ⟨Text.dotFree_toLower _ (hA.geo_dotFree c hct), hA.geo_not_lb c hct⟩
    rcases mem_clusterNodes.1 hmem with ⟨rfl, -⟩ | ⟨v, -, rfl⟩ | ⟨rfl, -⟩
    · exact ⟨dotFree_hash _, shortCode_not_lb c⟩
    · exact hgeo v
    · exact hgeo _
  · exact trivial
  · exact trivial
  · exact trivial

/-- Nodes with the same id have the same place, also in the trees of two calls. -/
theorem alike_of_setID_eq (hA : Admissible env t host) (hA' : Admissible env t' host) {m n : Node}
    (hm : m ∈ treeNodes env t host) (hn : n ∈ treeNodes env t' host)
    (hid : m.setID env t host = n.setID env t' host) : Node.Alike env m n := by
  rw [setID_eq_text, setID_eq_text] at hid
  exact .of_shape_eq (hA.regular hm) (hA'.regular hn)
    (Shape.text_inj (hA.proper hm) (hA'.proper hn) hid).1

/-! ## Reused endpoints -/

theorem Node.Alike.dnsName_eq (hlb : lbName env t host = lbName env t' host) {m n : Node}
    (h : Node.Alike env m n) : m.dnsName env t host = n.dnsName env t' host := by
  cases h with
  | @address c c' h =>
      show clusterLbName env (lbName env t host) c = clusterLbName env (lbName env t' host) c'
      rw [hlb]
      exact clusterLbName_inj.2 h
  | @weighted c c' v h =>
      show geoLbName env (lbName env t host) c.geo = geoLbName env (lbName env t' host) c'.geo
      rw [hlb]
      exact geoLbName_inj.2 h
  | geo code => exact hlb
  | default code code' => exact hlb
  | host => rfl

/-- What is written into the endpoint of a node with the same place makes it a fresh one. -/
theorem Node.Alike.assign_eq {m n : Node} (h : Node.Alike env m n) :
    n.setWildcard (n.assign env t' host (m.setWildcard (m.fresh env t host)))
      = n.setWildcard (n.fresh env t' host) := by
  cases h with
  | address h => rfl
  | weighted h =>
      simp [Node.setWildcard, Node.isDefault, Node.assign, Node.fresh, Node.setProperty,
        Endpoint.setProviderSpecific, Endpoint.setProperty, Node.setIdentifier]
  | geo code =>
      simp [Node.setWildcard, Node.isDefault, Node.assign, Node.fresh, Node.setProperty,
        Endpoint.setProviderSpecific, Endpoint.setProperty, Node.setIdentifier]
  | default code code' =>
      simp [Node.setWildcard, Node.isDefault, Node.assign, Node.fresh, Node.setProperty,
        Endpoint.setProviderSpecific, Endpoint.setProperty, Node.setIdentifier]
  | host => rfl

/-- A cluster is known by its short code. -/
theorem Admissible.eq_of_shortCode_eq (hA : Admissible env t host) (hO : ClustersOnce t)
    {c c' : ClusterGatewayTarget} (hc : c ∈ t.clusterGatewayTargets)
    (hc' : c' ∈ t.clusterGatewayTargets) (h : c.getShortCode env = c'.getShortCode env) : c = c' :=
  List.inj_on_of_nodup_map hO hc hc' (hA.hash_inj c hc c' hc' h)

/-- Within a group, a cluster is known by each of its host names. -/
theorem Admissible.eq_of_mem_hostValues (hA : Admissible env t host) {c c' : ClusterGatewayTarget}
    (hc : c ∈ t.clusterGatewayTargets) (hc' : c' ∈ t.clusterGatewayTargets)
    (hgeo : Text.toLower env.fold c.geo = Text.toLower env.fold c'.geo) {v : String}
    (hv : v ∈ c.hostValues) (hv' : v ∈ c'.hostValues) : c = c' := by
  by_contra hne
  have hpair := (List.nodup_flatMap.1 (hA.hosts_nodup (Text.toLower env.fold c'.geo))).2
  have hsymm : Std.Symm (Function.onFun List.Disjoint ClusterGatewayTarget.hostValues) :=
    ⟨fun _ _ h => List.Disjoint.symm h⟩
  have hdisj := hpair.forall (List.mem_filter.2 ⟨hc, by simp [hgeo]⟩)
    (List.mem_filter.2 ⟨hc', by simp⟩) hne
  exact hdisj hv hv'

theorem mem_of_address_mem_treeNodes {c : ClusterGatewayTarget}
    (h : Node.address c ∈ treeNodes env t host) : c ∈ t.clusterGatewayTargets := by
  rcases mem_treeNodes.1 h with ⟨d, hd, hmem | ⟨heq, -⟩ | heq⟩ | heq
  · rcases mem_clusterNodes.1 hmem with ⟨heq, -⟩ | ⟨w, hw, heq⟩ | ⟨heq, -⟩
    · cases heq
      exact (mem_addressed.1 hd).1
    · cases heq
    · cases heq
  · cases heq
  · cases heq
  · cases heq

theorem mem_of_weighted_mem_treeNodes {c : ClusterGatewayTarget} {v : String}
    (h : Node.weighted c v ∈ treeNodes env t host) :
    c ∈ t.clusterGatewayTargets ∧
      (v ∈ c.hostValues ∨ v = clusterLbName env (lbName env t host) c) := by
  rcases mem_treeNodes.1 h with ⟨d, hd, hmem | ⟨heq, -⟩ | heq⟩ | heq
  · rcases mem_clusterNodes.1 hmem with ⟨heq, -⟩ | ⟨w, hw, heq⟩ | ⟨heq, -⟩
    · cases heq
    · cases heq
      exact ⟨(mem_addressed.1 hd).1, Or.inl hw⟩
    · cases heq
      exact ⟨(mem_addressed.1 hd).1, Or.inr rfl⟩
  · cases heq
  · cases heq
  · cases heq

/-- The weighted CNAMEs of one target. -/
theorem Admissible.eq_of_weighted (hA : Admissible env t host) (hO : ClustersOnce t)
    {c c' : ClusterGatewayTarget} {v : String} (hm : Node.weighted c v ∈ treeNodes env t host)
    (hn : Node.weighted c' v ∈ treeNodes env t host)
    (hgeo : Text.toLower env.fold c.geo = Text.toLower env.fold c'.geo) : c = c' := by
  have hsuffix (c : ClusterGatewayTarget) :
      (lbName env t host).toList <:+ (clusterLbName env (lbName env t host) c).toList := by
    rw [clusterLbName_eq, String.toList_append]
    exact List.suffix_append _ _
  obtain ⟨hc, hv⟩ := mem_of_weighted_mem_treeNodes hm
  obtain ⟨hc', hv'⟩ := mem_of_weighted_mem_treeNodes hn
  rcases hv with hv | hv
  · rcases hv' with hv' | hv'
    · exact hA.eq_of_mem_hostValues hc hc' hgeo hv hv'
    · exact absurd (hv' ▸ hsuffix c') (hA.host_not_lb c hc v hv)
  · rcases hv' with hv' | hv'
    · exact absurd (hv ▸ hsuffix c) (hA.host_not_lb c' hc' v hv')
    · exact hA.eq_of_shortCode_eq hO hc hc' (clusterLbName_inj.1 (hv.symm.trans hv'))

/-- An endpoint as some call for the gateway's listener leaves it. -/
def LeftBehind (env : Env) (gateway : Gateway) (host : String) (e : Endpoint) : Prop :=
  ∃ t : MultiClusterGatewayTarget, t.gateway = gateway ∧ Admissible env t host ∧
    ∃ n ∈ treeNodes env t host, e = n.setWildcard (n.fresh env t host)

theorem setID_setWildcard_fresh (n : Node) :
    (n.setWildcard (n.fresh env t host)).setID = n.setID env t host := by
  simp [Endpoint.setID, Node.setID]

variable {old : List Endpoint}

/-- Within one tree an id belongs to one node, or to catch-alls. -/
theorem Admissible.eq_of_setID_eq (hA : Admissible env t host) (hO : ClustersOnce t) {m n : Node}
    (hm : m ∈ treeNodes env t host) (hn : n ∈ treeNodes env t host)
    (hid : m.setID env t host = n.setID env t host) :
    (m.isDefault = true ∧ n.isDefault = true) ∨ m = n := by
  cases alike_of_setID_eq hA hA hm hn hid with
  | @address c c' h =>
      right
      rw [hA.eq_of_shortCode_eq hO (mem_of_address_mem_treeNodes hm)
        (mem_of_address_mem_treeNodes hn) h]
  | weighted h =>
      right
      rw [hA.eq_of_weighted hO hm hn h]
  | geo code => exact Or.inr rfl
  | default code code' => exact Or.inl ⟨rfl, rfl⟩
  | host => exact Or.inr rfl

theorem Admissible.setIDsApart (hA : Admissible env t host) (hO : ClustersOnce t)
    (hold : ∀ e ∈ old, LeftBehind env t.gateway host e) : SetIDsApart env t host old where
  node m hm n hn hid := by
    rcases hA.eq_of_setID_eq hO hm hn hid with hdefault | rfl
    · exact Or.inl hdefault
    · exact Or.inr rfl
  existing e he n hn hid := by
    obtain ⟨t', hg, hA', m, hm, rfl⟩ := hold e he
    rw [setID_setWildcard_fresh] at hid
    rw [setWildcard_dnsName, Node.fresh_dnsName]
    exact (alike_of_setID_eq hA' hA hm hn hid).dnsName_eq (lbName_congr hg)

/-- A node's endpoint is the same with and without what earlier calls have left. -/
theorem nodeEndpoint_of_leftBehind (hA : Admissible env t host)
    (hold : ∀ e ∈ old, LeftBehind env t.gateway host e) {n : Node}
    (hn : n ∈ treeNodes env t host) :
    n.setWildcard (nodeEndpoint env t host old n) = n.setWildcard (n.fresh env t host) := by
  unfold nodeEndpoint
  cases hc : currentEndpoints old (n.setID env t host) with
  | none => rfl
  | some p =>
      obtain ⟨e, he, hid⟩ := currentEndpoints_eq_some hc
      have hread : Heap.read ⟨old⟩ p = e := by simp [Heap.read, he]
      obtain ⟨t', hg, hA', m, hm, rfl⟩ := hold e (List.mem_of_getElem? he)
      rw [setID_setWildcard_fresh] at hid
      show n.setWildcard (n.assign env t host (Heap.read ⟨old⟩ p)) = _
      rw [hread]
      exact (alike_of_setID_eq hA' hA hm hn hid).assign_eq

theorem builtEndpoint_of_leftBehind (hA : Admissible env t host) (hO : ClustersOnce t)
    (hold : ∀ e ∈ old, LeftBehind env t.gateway host e) {order : MapOrder} {n : Node}
    (hn : n ∈ createdNodes env order t host) :
    builtEndpoint env order t host old n = n.setWildcard (n.fresh env t host) := by
  rw [builtEndpoint_eq (hA.setIDsApart hO hold) hn]
  exact nodeEndpoint_of_leftBehind hA hold (createdNodes_subset_treeNodes hn)

/-- The endpoints before the probe check do not depend on earlier calls. -/
theorem fullEndpoints_of_leftBehind (hA : Admissible env t host) (hO : ClustersOnce t)
    (hold : ∀ e ∈ old, LeftBehind env t.gateway host e) (order : MapOrder) :
    fullEndpoints env order t host old = fullEndpoints env order t host [] := by
  have hnil : ∀ e ∈ ([] : List Endpoint), LeftBehind env t.gateway host e := by simp
  have hapart := hA.setIDsApart hO hold
  refine List.Perm.eq_of_sorted_by ?_ pairwise_fullEndpoints pairwise_fullEndpoints
    (fun a ha b hb hid => eq_of_setID_eq hapart ha hb hid)
  refine (fullEndpoints_perm hapart.unambiguous).trans
    (List.Perm.trans ?_ (fullEndpoints_perm unambiguous_nil).symm)
  refine List.Perm.of_eq (List.map_congr_left fun n hn => ?_)
  rw [builtEndpoint_of_leftBehind hA hO hold hn, builtEndpoint_of_leftBehind hA hO hnil hn]

theorem leftBehind_of_mem_fullEndpoints (hA : Admissible env t host) (hO : ClustersOnce t)
    (hold : ∀ e ∈ old, LeftBehind env t.gateway host e) {order : MapOrder} {e : Endpoint}
    (he : e ∈ fullEndpoints env order t host old) : LeftBehind env t.gateway host e := by
  obtain ⟨n, hn, rfl⟩ := (mem_fullEndpoints (hA.setIDsApart hO hold).unambiguous).1 he
  exact ⟨t, rfl, hA, n, createdNodes_subset_treeNodes hn, builtEndpoint_of_leftBehind hA hO hold hn⟩

end

/-! ## Sequences of calls -/

section
variable {env : Env} {gateway : Gateway} {listenerName host : String}

/-- What one call leaves, whatever earlier calls have left. -/
theorem Call.endpoints_of_leftBehind {call : Call}
    (hA : Admissible env (call.target gateway) host) (hO : ClustersOnce (call.target gateway))
    {before : List Endpoint} (hbefore : ∀ e ∈ before, LeftBehind env gateway host e) :
    call.endpoints env gateway listenerName host before
        = call.endpoints env gateway listenerName host [] ∧
      ∀ e ∈ call.endpoints env gateway listenerName host before,
        LeftBehind env gateway host e := by
  unfold Call.endpoints setEndpoints
  refine ⟨?_, fun e he => ?_⟩
  · rw [fullEndpoints_of_leftBehind hA hO hbefore]
  · exact leftBehind_of_mem_fullEndpoints hA hO hbefore (publishEndpoints_subset he)

theorem Call.endpointsAfter_append (calls : List Call) (call : Call) :
    Call.endpointsAfter env gateway listenerName host (calls ++ [call])
      = call.endpoints env gateway listenerName host
        (Call.endpointsAfter env gateway listenerName host calls) := by
  simp [Call.endpointsAfter]

theorem Call.leftBehind_endpointsAfter {calls : List Call}
    (hcalls : ∀ call ∈ calls, Admissible env (call.target gateway) host ∧
      ClustersOnce (call.target gateway)) :
    ∀ e ∈ Call.endpointsAfter env gateway listenerName host calls, LeftBehind env gateway host e := by
  have hrun : ∀ before : List Endpoint, (∀ e ∈ before, LeftBehind env gateway host e) →
      ∀ e ∈ calls.foldl (Call.endpoints env gateway listenerName host) before,
        LeftBehind env gateway host e := by
    induction calls with
    | nil => exact fun before hbefore => hbefore
    | cons call rest ih =>
        intro before hbefore
        obtain ⟨hA, hO⟩ := hcalls call List.mem_cons_self
        refine ih (fun c hc => hcalls c (List.mem_cons_of_mem _ hc)) _ ?_
        exact (Call.endpoints_of_leftBehind hA hO hbefore).2
  exact hrun [] (by simp)

end

/-- After any calls, a call leaves what it leaves in a record without endpoints; repeated, it
    changes nothing and issues no update. -/
theorem setEndpoints_forgets (env : Env) (gateway : Gateway) (listenerName host : String)
    (calls : List Call) (last : Call)
    (hcalls : ∀ call ∈ calls ++ [last], Admissible env (call.target gateway) host ∧
      ClustersOnce (call.target gateway)) :
    Call.endpointsAfter env gateway listenerName host (calls ++ [last])
        = last.endpoints env gateway listenerName host [] ∧
      Call.endpointsAfter env gateway listenerName host (calls ++ [last, last])
        = Call.endpointsAfter env gateway listenerName host (calls ++ [last]) ∧
      last.issuesUpdate env gateway listenerName host
        (Call.endpointsAfter env gateway listenerName host (calls ++ [last])) = false := by
  obtain ⟨hA, hO⟩ := hcalls last (by simp)
  have hbefore := @Call.leftBehind_endpointsAfter env gateway listenerName host calls
    fun call hcall => hcalls call (List.mem_append_left _ hcall)
  have hfirst := @Call.endpoints_of_leftBehind env gateway listenerName host last hA hO _ hbefore
  have hagain := (@Call.endpoints_of_leftBehind env gateway listenerName host last hA hO _ hfirst.2).1
  have hsame : last.endpoints env gateway listenerName host
      (Call.endpointsAfter env gateway listenerName host (calls ++ [last]))
      = Call.endpointsAfter env gateway listenerName host (calls ++ [last]) := by
    rw [Call.endpointsAfter_append, hagain, hfirst.1]
  refine ⟨by rw [Call.endpointsAfter_append, hfirst.1], ?_, ?_⟩
  · rw [List.append_cons, Call.endpointsAfter_append, hsame]
  · simp [Call.issuesUpdate, hsame]

/-- A cluster with one address, without geo code. -/
def plainCluster (name : String) (address : GatewayAddress) : ClusterGatewayTarget where
  cluster := { name := name }
  gatewayAddresses := [address]
  geo := "default"
  weight := 120

/-- A call for some clusters, without probes. -/
def Call.ofClusters (clusters : List ClusterGatewayTarget) : Call where
  order := .inserted
  clusterGatewayTargets := clusters
  loadBalancing := none
  probes := []

/-- A second cluster joins, and the first one gets another address. -/
theorem setEndpoints_forgets_secondCluster :
    let last := Call.ofClusters [plainCluster "test-cluster-1" ⟨.ipAddress, "1.1.1.2"⟩,
      plainCluster "test-cluster-2" ⟨.hostname, "lb.example.net"⟩]
    let after := Call.endpointsAfter .sample { name := "testgw", ns := "testns" } "test"
      "test.example.com"
      ([Call.ofClusters [plainCluster "test-cluster-1" ⟨.ipAddress, "1.1.1.1"⟩]] ++ [last])
    after = last.endpoints .sample { name := "testgw", ns := "testns" } "test" "test.example.com" [] ∧
      last.issuesUpdate .sample { name := "testgw", ns := "testns" } "test" "test.example.com" after
        = false := by
  intro last after
  have hforgets := setEndpoints_forgets .sample { name := "testgw", ns := "testns" } "test"
    "test.example.com" [Call.ofClusters [plainCluster "test-cluster-1" ⟨.ipAddress, "1.1.1.1"⟩]] last
    (by
      intro call hcall
      simp only [List.cons_append, List.nil_append, List.mem_cons, List.not_mem_nil, or_false] at hcall
      rcases hcall with rfl | rfl
      · refine ⟨⟨by decide, by decide, by decide, by decide, by decide, fun code => ?_⟩, by decide⟩
        exact List.Nodup.sublist (List.filter_sublist.flatMap _) (by decide)
      · refine ⟨⟨by decide, by decide, by decide, by decide, by decide, fun code => ?_⟩, by decide⟩
        exact List.Nodup.sublist (List.filter_sublist.flatMap _) (by decide))
  exact ⟨hforgets.1, hforgets.2.2⟩

/-- A cluster that is listed twice has two A records at first and then twice the second one. -/
theorem setEndpoints_remembers_cluster_listed_twice :
    let call := Call.ofClusters [plainCluster "test-cluster-1" ⟨.ipAddress, "1.1.1.1"⟩,
      plainCluster "test-cluster-1" ⟨.ipAddress, "2.2.2.2"⟩]
    Admissible .sample (call.target { name := "testgw", ns := "testns" }) "test.example.com" ∧
      Call.endpointsAfter .sample { name := "testgw", ns := "testns" } "test" "test.example.com"
          ([call] ++ [call])
        ≠ call.endpoints .sample { name := "testgw", ns := "testns" } "test" "test.example.com" [] := by
  intro call
  constructor
  · refine ⟨by decide, by decide, by decide, by decide, by decide, fun code => ?_⟩
    exact List.Nodup.sublist (List.filter_sublist.flatMap _) (by decide)
  · have hrun (before : List Endpoint) :
        call.endpoints .sample { name := "testgw", ns := "testns" } "test" "test.example.com" before
          = fullEndpoints .sample .inserted (call.target { name := "testgw", ns := "testns" })
              "test.example.com" before :=
      setEndpoints_no_probes _ _ _ _ _ _
    simp only [Call.endpointsAfter, List.cons_append, List.nil_append, List.foldl_cons,
      List.foldl_nil, hrun]
    decide

end MultiClusterGateway
