import MultiClusterGateway.DnsPolicy.Health

set_option autoImplicit false

/-! # The catch-all

A client whose geo code has no group of its own is served by the endpoint at the lb name with the
geo code `*`, so every published list should hold exactly one, and it should lead on to another
endpoint of the list (`HasCatchAll`). The build always creates it; the pruning removes it together
with the group it leads to, whatever else stays published, and a group whose own code is `*` adds a
second one. -/

namespace MultiClusterGateway

section
variable (env : Env) (t : MultiClusterGatewayTarget) (host : String)

/-- The endpoints at the lb name for clients of any geo. -/
def wildcards (es : List Endpoint) : List Endpoint :=
  es.filter (fun e => e.dnsName == lbName env t host && e.geoCode == some GeoCode.wildcardGeo)

/-- Exactly one endpoint serves clients of any geo, and it leads to another endpoint. -/
def HasCatchAll (es : List Endpoint) : Prop :=
  es ≠ [] → ∃ e, wildcards env t host es = [e] ∧ ∃ x ∈ es, x ≠ e ∧ e.targets = [x.dnsName]

/-! ## Conditions on the target and the probes -/

/-- All IP addresses of the cluster are healthy, and one of them is recognised as such. -/
def HealthyIPs (failed : String → Bool) (c : ClusterGatewayTarget) : Prop :=
  (∀ a ∈ c.ipValues, failed a = false) ∧ ∃ a ∈ c.ipValues, matchesIPPattern a = true

/-- A CNAME of the cluster leads to a healthy leaf with an IP-like target: to the A record under
    its short code, or to a host name that contains an IP address. -/
def LeadsToHealthyIP (failed : String → Bool) (c : ClusterGatewayTarget) : Prop :=
  (c.ipValues ≠ [] ∧
    ∃ c' ∈ addressed t, c'.getShortCode env = c.getShortCode env ∧ HealthyIPs failed c') ∨
  ∃ h ∈ c.hostValues, failed h = false ∧ matchesIPPattern h = true

/-- The endpoints that lead to a group stay published: nothing is removed at all, or everything
    would be, or a cluster of the group leads to a healthy leaf that is recognised. -/
def GroupPublished (failed : String → Bool) (code : GeoCode) : Prop :=
  NoTargetFailed env t host failed ∨
  (∀ c ∈ addressed t, ¬ LeadsToHealthyIP env t failed c) ∨
  ∃ c ∈ addressed t, Text.toLower env.fold c.geo = Text.toLower env.fold code ∧
    LeadsToHealthyIP env t failed c

end

/-! ## The nodes of the catch-all -/

/-- The node's endpoint serves clients of any geo. -/
def Node.isWildcard : Node → Bool
  | .geo code => code == GeoCode.wildcardGeo
  | .default _ => true
  | _ => false

section
variable {env : Env} {order : MapOrder} {t : MultiClusterGatewayTarget} {host : String}
  {endpoints : List Endpoint}

theorem filter_geo_geoNodes {code : GeoCode} (hcode : code ≠ GeoCode.defaultGeo) {b : Bool}
    {group : GeoCode × List ClusterGatewayTarget} :
    (geoNodes env t host b group).filter (fun n => n == .geo code)
      = if group.2.any (fun c => c.gatewayAddresses ≠ []) && group.1 == code
        then [.geo code] else [] := by
  have hclusters : (group.2.flatMap (clusterNodes env t host)).filter (fun n => n == .geo code)
      = [] := by
    rw [List.filter_eq_nil_iff]
    intro n hn heq
    obtain ⟨c, -, hnc⟩ := List.mem_flatMap.1 hn
    rw [eq_of_beq heq] at hnc
    rcases mem_clusterNodes.1 hnc with ⟨h, -⟩ | ⟨_, -, h⟩ | ⟨h, -⟩ <;> cases h
  simp only [geoNodes]
  by_cases hnil : group.2.flatMap (clusterNodes env t host) = []
  · rw [if_pos hnil, flatMap_clusterNodes_eq_nil.1 hnil]
    rfl
  · have hany : group.2.any (fun c => c.gatewayAddresses ≠ []) = true := by
      rw [← Bool.not_eq_false]
      exact fun h => hnil (flatMap_clusterNodes_eq_nil.2 h)
    rw [if_neg hnil, hany]
    by_cases hdef : GeoCode.isDefaultCode group.1 = true
    · have hne : ¬ group.1 = code := fun h => hcode (h ▸ eq_of_beq hdef)
      rw [if_pos hdef, List.filter_append, hclusters]
      simp [hne]
    · rw [if_neg hdef]
      by_cases heq : group.1 = code
      · split <;> simp [List.filter_append, hclusters, heq]
      · split <;> simp [List.filter_append, hclusters, heq]

theorem filter_geo_plan {code : GeoCode} (hcode : code ≠ GeoCode.defaultGeo) {b : Bool}
    (groups : List (GeoCode × List ClusterGatewayTarget)) :
    (plan env t host b groups).filter (fun n => n == .geo code)
      = ((addressedCodes groups).filter (fun g => g == code)).map Node.geo := by
  induction groups generalizing b with
  | nil => rfl
  | cons group rest ih =>
      rw [plan, List.filter_append, ih, filter_geo_geoNodes hcode, addressedCodes_cons]
      cases group.2.any (fun c => c.gatewayAddresses ≠ []) with
      | false => simp
      | true =>
          by_cases heq : group.1 = code
          · simp [heq]
          · simp [heq]

theorem nodup_addressedCodes : (addressedCodes (order.visit t.groupTargetsByGeo)).Nodup := by
  have hperm := (order.perm t.groupTargetsByGeo).map Prod.fst
  have hnodup := hperm.nodup_iff.2 t.groupsOf_groupTargetsByGeo.nodup
  exact hnodup.sublist (List.filter_sublist.map Prod.fst)

/-- A group other than the internal `default` has one CNAME at the lb name. -/
theorem filter_geo_plannedNodes {code : GeoCode} (hcode : code ≠ GeoCode.defaultGeo) :
    (plannedNodes env order t host).filter (fun n => n == .geo code)
      = if ∃ c ∈ addressed t, c.geo = code then [.geo code] else [] := by
  unfold plannedNodes
  rw [filter_geo_plan hcode]
  have hnodup := @nodup_addressedCodes order t
  have hmem := @mem_addressedCodes order t code
  split
  · rename_i hex
    have hfilter : (addressedCodes (order.visit t.groupTargetsByGeo)).filter (fun g => g == code)
        = [code] := by
      rw [List.filter_beq, List.count_eq_one_of_mem hnodup (hmem.2 hex)]
      rfl
    rw [hfilter]
    rfl
  · rename_i hex
    have hfilter : (addressedCodes (order.visit t.groupTargetsByGeo)).filter (fun g => g == code)
        = [] := by
      rw [List.filter_eq_nil_iff]
      intro g hg heq
      exact hex (hmem.1 (eq_of_beq heq ▸ hg))
    rw [hfilter]
    rfl

/-- The created nodes that serve clients of any geo. -/
theorem filter_isWildcard_createdNodes {code : GeoCode} (hdef : defaultGroup order t = some code) :
    (createdNodes env order t host).filter Node.isWildcard
      = (if ∃ c ∈ addressed t, c.geo = GeoCode.wildcardGeo then [.geo GeoCode.wildcardGeo] else [])
          ++ [.default code] := by
  unfold createdNodes
  rw [catchAll_plannedNodes, hdef]
  simp only [Option.map_some, List.filter_append, List.filter_filter]
  rw [← @filter_geo_plannedNodes env order t host GeoCode.wildcardGeo (by decide)]
  congr 1
  apply List.filter_congr
  intro n _
  cases n <;> simp [Node.isWildcard, Node.isDefault]

/-! ## Their endpoints -/

/-- Only a group's own CNAME has its id. -/
theorem eq_geo_of_setID (hU : Unambiguous env t host endpoints) {m : Node} {code : GeoCode}
    (hm : m ∈ treeNodes env t host) (hn : Node.geo code ∈ treeNodes env t host)
    (hid : m.setID env t host = (Node.geo code).setID env t host)
    (hex : Existing env t host endpoints (.geo code)) : m = .geo code := by
  rcases hU m hm _ hn hid hex with ⟨-, h⟩ | ⟨hname, -, -⟩
  · cases h
  · cases m with
    | address c => exact absurd hname (clusterLbName_ne_lbName t host c)
    | weighted c v => exact absurd hname (geoLbName_ne_lbName t host c.geo)
    | geo code' =>
        have hcode : code' = code := (String.append_right_inj _).1 hid
        rw [hcode]
    | default code' =>
        have hcode : "default" = code := (String.append_right_inj _).1 hid
        rcases mem_treeNodes.1 hn with ⟨c, -, hmem | ⟨hgeo, hne⟩ | h⟩ | h
        · rcases mem_clusterNodes.1 hmem with ⟨h, -⟩ | ⟨_, -, h⟩ | ⟨h, -⟩ <;> cases h
        · cases hgeo
          exact absurd hcode.symm hne
        · cases h
        · cases h
    | host => exact absurd hname (host_ne_lbName t host)

theorem geoCode_setProviderSpecific (code : String) (e : Endpoint) :
    (e.setProviderSpecific providerSpecificGeoCode code).geoCode = some code := by
  simp [Endpoint.geoCode]

theorem geoCode_builtEndpoint_geo (hU : Unambiguous env t host endpoints) {code : GeoCode}
    (hn : Node.geo code ∈ createdNodes env order t host) :
    (builtEndpoint env order t host endpoints (.geo code)).geoCode = some code := by
  show (settledEndpoint env t host endpoints _ (.geo code)).geoCode = some code
  rcases settledEndpoint_cases (mem_plannedNodes_of_mem_createdNodes hn) with
    h | ⟨m, hm, hid, hex, e, h⟩
  · rw [h]
    exact geoCode_setProviderSpecific code _
  · have hmeq := eq_geo_of_setID hU (mem_treeNodes_of_mem_plannedNodes hm)
      (createdNodes_subset_treeNodes hn) hid hex
    subst hmeq
    rw [h]
    exact geoCode_setProviderSpecific code _

theorem geoCode_builtEndpoint_default (code : GeoCode) :
    (builtEndpoint env order t host endpoints (.default code)).geoCode
      = some GeoCode.wildcardGeo :=
  geoCode_setProviderSpecific _ _

/-- The endpoints for clients of any geo are those of the wildcard nodes. -/
theorem wildcard_builtEndpoint_iff (hU : Unambiguous env t host endpoints) {n : Node}
    (hn : n ∈ createdNodes env order t host) :
    ((builtEndpoint env order t host endpoints n).dnsName == lbName env t host &&
      (builtEndpoint env order t host endpoints n).geoCode == some GeoCode.wildcardGeo)
      = n.isWildcard := by
  have hname := (realizes_builtEndpoint hU hn).dnsName
  cases n with
  | address c =>
      have hne : ¬ clusterLbName env (lbName env t host) c = lbName env t host :=
        clusterLbName_ne_lbName t host c
      simp [hname, Node.dnsName, hne, Node.isWildcard]
  | weighted c v =>
      have hne : ¬ geoLbName env (lbName env t host) c.geo = lbName env t host :=
        geoLbName_ne_lbName t host c.geo
      simp [hname, Node.dnsName, hne, Node.isWildcard]
  | geo code =>
      rw [geoCode_builtEndpoint_geo hU hn]
      simp [hname, Node.dnsName, Node.isWildcard]
  | default code =>
      rw [geoCode_builtEndpoint_default]
      simp [hname, Node.dnsName, Node.isWildcard]
  | host =>
      have hne : ¬ host = lbName env t host := host_ne_lbName t host
      simp [hname, Node.dnsName, hne, Node.isWildcard]

/-! ## Which of them stay published -/

variable {probes : List DNSHealthCheckProbe} {listenerName : String}

variable (env order t host endpoints probes listenerName) in
/-- The endpoint stays: nothing is removed, or everything would be, or it survives. -/
def StaysPublished (e : Endpoint) : Prop :=
  (∀ x ∈ fullEndpoints env order t host endpoints,
    probeFailed probes t.gateway.name listenerName x = false) ∨
  (∀ x ∈ fullEndpoints env order t host endpoints,
    ¬ Survives (probeFailed probes t.gateway.name listenerName)
      (fullEndpoints env order t host endpoints) x) ∨
  Survives (probeFailed probes t.gateway.name listenerName)
    (fullEndpoints env order t host endpoints) e

open Classical in
theorem setEndpoints_eq_filter :
    setEndpoints env order t endpoints probes listenerName host
      = (fullEndpoints env order t host endpoints).filter (fun e => decide
          (StaysPublished env order t host endpoints probes listenerName e)) := by
  unfold setEndpoints
  by_cases hfail : ∃ e ∈ fullEndpoints env order t host endpoints,
      probeFailed probes t.gateway.name listenerName e = true
  · obtain ⟨hsome, hnone⟩ := publishEndpoints_eq hfail
    have hfail' : ¬ ∀ x ∈ fullEndpoints env order t host endpoints,
        probeFailed probes t.gateway.name listenerName x = false := by
      obtain ⟨e, he, hf⟩ := hfail
      intro h
      rw [h e he] at hf
      cases hf
    by_cases hex : ∃ e ∈ fullEndpoints env order t host endpoints,
        Survives (probeFailed probes t.gateway.name listenerName)
          (fullEndpoints env order t host endpoints) e
    · have hex' : ¬ ∀ x ∈ fullEndpoints env order t host endpoints,
          ¬ Survives (probeFailed probes t.gateway.name listenerName)
            (fullEndpoints env order t host endpoints) x := by
        push Not
        exact hex
      rw [hsome hex]
      apply List.filter_congr
      intro e _
      simp [StaysPublished, hfail', hex']
    · rw [hnone hex]
      symm
      rw [List.filter_eq_self]
      intro e _
      push Not at hex
      exact decide_eq_true (Or.inr (Or.inl hex))
  · push Not at hfail
    have hnf : ∀ e ∈ fullEndpoints env order t host endpoints,
        probeFailed probes t.gateway.name listenerName e = false :=
      fun e he => Bool.eq_false_of_not_eq_true (hfail e he)
    rw [publishEndpoints_of_forall_not_failed hnf]
    symm
    rw [List.filter_eq_self]
    intro e _
    exact decide_eq_true (Or.inl hnf)

open Classical in
/-- The published endpoints for clients of any geo, in some order. -/
theorem wildcards_perm (hU : Unambiguous env t host endpoints) {code : GeoCode}
    (hdef : defaultGroup order t = some code) :
    (wildcards env t host (setEndpoints env order t endpoints probes listenerName host)).Perm
      ((((if ∃ c ∈ addressed t, c.geo = GeoCode.wildcardGeo then [Node.geo GeoCode.wildcardGeo]
          else []) ++ [Node.default code]).filter (fun n => decide
        (StaysPublished env order t host endpoints probes listenerName
          (builtEndpoint env order t host endpoints n)))).map
        (builtEndpoint env order t host endpoints)) := by
  unfold wildcards
  rw [setEndpoints_eq_filter, List.filter_filter, ← filter_isWildcard_createdNodes hdef,
    List.filter_filter]
  refine ((fullEndpoints_perm hU).filter _).trans (List.Perm.of_eq ?_)
  rw [List.filter_map]
  congr 1
  apply List.filter_congr
  intro n hn
  simp only [Function.comp_apply]
  rw [wildcard_builtEndpoint_iff hU hn, Bool.and_comm]

/-- An endpoint at the lb name leads to the endpoints of its group. -/
theorem exists_child_of_lbNode (hU : Unambiguous env t host endpoints) {n : Node}
    {c : ClusterGatewayTarget} (hc : c ∈ addressed t) (hn : n ∈ createdNodes env order t host)
    (hkind : n = .geo c.geo ∨ n = .default c.geo) :
    ∃ x ∈ fullEndpoints env order t host endpoints,
      ChildOf (builtEndpoint env order t host endpoints n) x := by
  obtain ⟨v, hv⟩ := @exists_weighted env t host c hc
  obtain ⟨x, hx, hxr⟩ := exists_mem_fullEndpoints hU
    (@mem_createdNodes_of_mem_clusterNodes env order t host c hc _ hv)
  refine ⟨x, hx, ?_⟩
  unfold ChildOf
  rw [(realizes_builtEndpoint hU hn).targets, hxr.dnsName]
  rcases hkind with rfl | rfl <;> exact List.mem_singleton_self _

theorem target_of_lbNode (hU : Unambiguous env t host endpoints) {n : Node} {code : GeoCode}
    (hn : n ∈ createdNodes env order t host) (hkind : n = .geo code ∨ n = .default code)
    {x : Endpoint} (hx : x ∈ fullEndpoints env order t host endpoints)
    (hchild : ChildOf (builtEndpoint env order t host endpoints n) x)
    (hstay : StaysPublished env order t host endpoints probes listenerName x) :
    ∃ x ∈ setEndpoints env order t endpoints probes listenerName host,
      x ≠ builtEndpoint env order t host endpoints n ∧
        (builtEndpoint env order t host endpoints n).targets = [x.dnsName] := by
  classical
  have hr := realizes_builtEndpoint hU hn
  have htargets : (builtEndpoint env order t host endpoints n).targets
      = [geoLbName env (lbName env t host) code] := by
    rw [hr.targets]
    rcases hkind with rfl | rfl <;> rfl
  have hname : (builtEndpoint env order t host endpoints n).dnsName = lbName env t host := by
    rw [hr.dnsName]
    rcases hkind with rfl | rfl <;> rfl
  unfold ChildOf at hchild
  rw [htargets] at hchild
  have hxname := List.mem_singleton.1 hchild
  refine ⟨x, ?_, ?_, by rw [htargets, hxname]⟩
  · rw [setEndpoints_eq_filter]
    exact List.mem_filter.2 ⟨hx, decide_eq_true hstay⟩
  · intro h
    rw [h, hname] at hxname
    exact geoLbName_ne_lbName t host code hxname.symm

section
variable (hW : NamesApart env t host endpoints
  (addressFailed probes t.gateway.name listenerName))
include hW

theorem forall_not_failed_iff :
    (∀ x ∈ fullEndpoints env order t host endpoints,
      probeFailed probes t.gateway.name listenerName x = false) ↔
    NoTargetFailed env t host (addressFailed probes t.gateway.name listenerName) := by
  constructor
  · intro h
    by_contra hno
    obtain ⟨d, hd, -, v, hv, hvf⟩ := @exists_leaf_of_not_noTargetFailed env order t host _ _ hW hno
    obtain ⟨x, hx, hxr⟩ := exists_mem_fullEndpoints hW.unambiguous hd
    have hxf : probeFailed probes t.gateway.name listenerName x = true :=
      probeFailed_iff.2 ⟨v, by rw [hxr.targets]; exact hv, hvf⟩
    rw [h x hx] at hxf
    cases hxf
  · exact fun hno x hx => not_failed_of_noTargetFailed hno hx

/-- What a leaf node's endpoint needs to be recognised as healthy. -/
theorem aliveIPLeaf_iff {n : Node} {e : Endpoint} (hn : n ∈ treeNodes env t host)
    (hr : Realizes env t host n e) :
    AliveIPLeaf env t host probes listenerName e ↔
      n.isLeaf = true ∧
      (∀ a ∈ n.targets env t host, addressFailed probes t.gateway.name listenerName a = false) ∧
      ∃ a ∈ n.targets env t host, matchesIPPattern a = true := by
  unfold AliveIPLeaf AliveLeaf IPLike
  rw [isLeaf_iff hW hn hr, probeFailed_eq_false_iff, List.any_eq_true, hr.targets, and_assoc]

omit hW in
theorem leadsToHealthyIP_of_address {c : ClusterGatewayTarget} (hc : c ∈ addressed t)
    (h : HealthyIPs (addressFailed probes t.gateway.name listenerName) c) :
    LeadsToHealthyIP env t (addressFailed probes t.gateway.name listenerName) c := by
  obtain ⟨a, ha, -⟩ := h.2
  exact Or.inl ⟨List.ne_nil_of_mem ha, c, hc, rfl, h⟩

/-- A weighted CNAME survives if it leads to a healthy leaf that is recognised. -/
theorem reaches_weighted_iff {c : ClusterGatewayTarget} (hc : c ∈ addressed t) :
    (∃ v e, Node.weighted c v ∈ clusterNodes env t host c ∧
      e ∈ fullEndpoints env order t host endpoints ∧
      Realizes env t host (.weighted c v) e ∧
      Reaches (fullEndpoints env order t host endpoints)
        (AliveIPLeaf env t host probes listenerName) e) ↔
    LeadsToHealthyIP env t (addressFailed probes t.gateway.name listenerName) c := by
  constructor
  · rintro ⟨v, e, hmem, he, hr, hreach⟩
    have hntree : Node.weighted c v ∈ treeNodes env t host :=
      mem_treeNodes.2 (Or.inl ⟨c, hc, Or.inl hmem⟩)
    cases hreach with
    | here h =>
        obtain ⟨hleaf, hnf, a, ha, hm⟩ := (aliveIPLeaf_iff hW hntree hr).1 h
        rw [List.mem_singleton.1 ha] at hm
        exact Or.inr ⟨v, of_decide_eq_true hleaf, hnf v (List.mem_singleton_self _), hm⟩
    | @step _ x hx hchild hreach =>
        obtain ⟨m, hm, hmr⟩ := exists_realizes hW.unambiguous hx
        have hmtree := createdNodes_subset_treeNodes hm
        unfold ChildOf at hchild
        rw [hmr.dnsName, hr.targets] at hchild
        -- the child of a CNAME to a cluster is an A record under the cluster's name
        have hrank := rank_lt_of_child hW hntree hmtree hchild
        rcases mem_clusterNodes.1 hmem with ⟨h, -⟩ | ⟨v', hv', h⟩ | ⟨h, hip⟩
        · cases h
        · cases h
          exact absurd hchild (not_child_of_isLeaf hW hntree hmtree (decide_eq_true hv'))
        · cases h
          cases m with
          | address c' =>
              have hcode : c'.getShortCode env = c.getShortCode env :=
                clusterLbName_inj.1 (List.mem_singleton.1 hchild)
              have hc' : c' ∈ addressed t := by
                rcases treeNodes_cases hmtree with ⟨c₀, hc₀, h, -⟩ | ⟨_, _, _, _, h⟩ |
                  ⟨_, _, h, -⟩ | ⟨_, _, h | h⟩ | h <;> cases h
                exact hc₀
              cases hreach with
              | here h =>
                  obtain ⟨-, hnf, hm⟩ := (aliveIPLeaf_iff hW hmtree hmr).1 h
                  exact Or.inl ⟨hip, c', hc', hcode, hnf, hm⟩
              | step hy hychild _ =>
                  obtain ⟨k, hk, hkr⟩ := exists_realizes hW.unambiguous hy
                  unfold ChildOf at hychild
                  rw [hkr.dnsName, hmr.targets] at hychild
                  exact absurd hychild (not_child_of_isLeaf hW hmtree
                    (createdNodes_subset_treeNodes hk) rfl)
          | weighted _ _ => simp [Node.rank] at hrank
          | geo _ => simp [Node.rank] at hrank
          | default _ => simp [Node.rank] at hrank
          | host => simp [Node.rank] at hrank
  · rintro (⟨hip, c', hc', hcode, hhealthy⟩ | ⟨v, hv, hnf, hm⟩)
    · have hmem : Node.weighted c (clusterLbName env (lbName env t host) c) ∈
          clusterNodes env t host c := mem_clusterNodes.2 (Or.inr (Or.inr ⟨rfl, hip⟩))
      obtain ⟨e, he, her⟩ := exists_mem_fullEndpoints hW.unambiguous
        (@mem_createdNodes_of_mem_clusterNodes env order t host c hc _ hmem)
      have hip' : c'.ipValues ≠ [] := by
        obtain ⟨a, ha, -⟩ := hhealthy.2
        exact List.ne_nil_of_mem ha
      have hmem' : Node.address c' ∈ clusterNodes env t host c' :=
        mem_clusterNodes.2 (Or.inl ⟨rfl, hip'⟩)
      obtain ⟨x, hx, hxr⟩ := exists_mem_fullEndpoints hW.unambiguous
        (@mem_createdNodes_of_mem_clusterNodes env order t host c' hc' _ hmem')
      refine ⟨_, e, hmem, he, her, .step hx ?_ (.here ?_)⟩
      · unfold ChildOf
        rw [hxr.dnsName, her.targets]
        exact List.mem_singleton.2 (clusterLbName_inj.2 hcode)
      · exact (aliveIPLeaf_iff hW (mem_treeNodes.2 (Or.inl ⟨c', hc', Or.inl hmem'⟩)) hxr).2
          ⟨rfl, hhealthy⟩
    · have hmem : Node.weighted c v ∈ clusterNodes env t host c :=
        mem_clusterNodes.2 (Or.inr (Or.inl ⟨v, hv, rfl⟩))
      obtain ⟨e, he, her⟩ := exists_mem_fullEndpoints hW.unambiguous
        (@mem_createdNodes_of_mem_clusterNodes env order t host c hc _ hmem)
      refine ⟨v, e, hmem, he, her, .here ?_⟩
      refine (aliveIPLeaf_iff hW (mem_treeNodes.2 (Or.inl ⟨c, hc, Or.inl hmem⟩)) her).2
        ⟨decide_eq_true hv, fun a ha => ?_, v, List.mem_singleton_self _, hm⟩
      rw [List.mem_singleton.1 ha]
      exact hnf

/-- An endpoint at the lb name survives with its group. -/
theorem reaches_lbNode_iff {n : Node} {c₀ : ClusterGatewayTarget} (hc₀ : c₀ ∈ addressed t)
    (hn : n ∈ createdNodes env order t host) (hkind : n = .geo c₀.geo ∨ n = .default c₀.geo) :
    Reaches (fullEndpoints env order t host endpoints)
        (AliveIPLeaf env t host probes listenerName) (builtEndpoint env order t host endpoints n) ↔
      ∃ c ∈ addressed t, Text.toLower env.fold c.geo = Text.toLower env.fold c₀.geo ∧
        LeadsToHealthyIP env t (addressFailed probes t.gateway.name listenerName) c := by
  have hU := hW.unambiguous
  have hntree := createdNodes_subset_treeNodes hn
  have hr := realizes_builtEndpoint hU hn
  have htargets : n.targets env t host = [geoLbName env (lbName env t host) c₀.geo] := by
    rcases hkind with rfl | rfl <;> rfl
  constructor
  · intro hreach
    generalize builtEndpoint env order t host endpoints n = b at hreach hr
    cases hreach with
    | here h =>
        have hleaf := ((aliveIPLeaf_iff hW hntree hr).1 h).1
        rcases hkind with rfl | rfl <;> cases hleaf
    | @step _ x hx hchild hreach =>
        obtain ⟨m, hm, hmr⟩ := exists_realizes hU hx
        unfold ChildOf at hchild
        rw [hmr.dnsName, hr.targets, htargets] at hchild
        have hname := List.mem_singleton.1 hchild
        obtain ⟨code, -, rfl | rfl | ⟨c, hc, hmem | ⟨rfl, -⟩⟩⟩ := mem_createdNodes.1 hm
        · exact absurd hname.symm (geoLbName_ne_lbName t host c₀.geo)
        · exact absurd hname (host_ne_geoLbName t host c₀.geo)
        · rcases mem_clusterNodes.1 hmem with ⟨rfl, -⟩ | ⟨v, -, rfl⟩ | ⟨rfl, -⟩
          · exact absurd hname.symm (hW.geo_ne_cluster c₀ hc₀ c hc)
          · exact ⟨c, hc, geoLbName_inj.1 hname,
              (reaches_weighted_iff hW hc).1 ⟨_, x, hmem, hx, hmr, hreach⟩⟩
          · exact ⟨c, hc, geoLbName_inj.1 hname,
              (reaches_weighted_iff hW hc).1 ⟨_, x, hmem, hx, hmr, hreach⟩⟩
        · exact absurd hname.symm (geoLbName_ne_lbName t host c₀.geo)
  · rintro ⟨c, hc, hgeo, hleads⟩
    obtain ⟨v, x, -, hx, hxr, hreach⟩ := (@reaches_weighted_iff env order t host endpoints probes
      listenerName hW c hc).2 hleads
    refine .step hx ?_ hreach
    unfold ChildOf
    rw [hxr.dnsName, hr.targets, htargets]
    exact List.mem_singleton.2 (geoLbName_inj.2 hgeo)

theorem forall_not_survives_iff :
    (∀ x ∈ fullEndpoints env order t host endpoints,
      ¬ Survives (probeFailed probes t.gateway.name listenerName)
        (fullEndpoints env order t host endpoints) x) ↔
    ∀ c ∈ addressed t,
      ¬ LeadsToHealthyIP env t (addressFailed probes t.gateway.name listenerName) c := by
  constructor
  · intro h c hc hleads
    obtain ⟨v, x, -, hx, -, hreach⟩ := (@reaches_weighted_iff env order t host endpoints probes
      listenerName hW c hc).2 hleads
    exact h x hx ((survives_iff hW hx).2 hreach)
  · intro h x hx hsurv
    have hreach := (survives_iff hW hx).1 hsurv
    clear hsurv
    -- at the end of the way down there is a healthy leaf
    induction hreach with
    | step hy _ _ ih => exact ih hy
    | here halive =>
        obtain ⟨n, hn, hr⟩ := exists_realizes hW.unambiguous hx
        have hntree := createdNodes_subset_treeNodes hn
        obtain ⟨hleaf, hnf, hm⟩ := (aliveIPLeaf_iff hW hntree hr).1 halive
        obtain ⟨code, -, rfl | rfl | ⟨c, hc, hmem | ⟨rfl, -⟩⟩⟩ := mem_createdNodes.1 hn
        · cases hleaf
        · cases hleaf
        · apply h c hc
          rcases mem_clusterNodes.1 hmem with ⟨rfl, -⟩ | ⟨v, -, rfl⟩ | ⟨rfl, -⟩
          · exact leadsToHealthyIP_of_address hc ⟨hnf, hm⟩
          · exact (reaches_weighted_iff hW hc).1 ⟨_, _, hmem, hx, hr, .here halive⟩
          · exact (reaches_weighted_iff hW hc).1 ⟨_, _, hmem, hx, hr, .here halive⟩
        · cases hleaf

theorem staysPublished_lbNode_iff {n : Node} {c₀ : ClusterGatewayTarget} (hc₀ : c₀ ∈ addressed t)
    (hn : n ∈ createdNodes env order t host) (hkind : n = .geo c₀.geo ∨ n = .default c₀.geo) :
    StaysPublished env order t host endpoints probes listenerName
        (builtEndpoint env order t host endpoints n) ↔
      GroupPublished env t host (addressFailed probes t.gateway.name listenerName) c₀.geo := by
  have hmem : builtEndpoint env order t host endpoints n ∈ fullEndpoints env order t host endpoints :=
    (mem_fullEndpoints hW.unambiguous).2 ⟨n, hn, rfl⟩
  unfold StaysPublished GroupPublished
  rw [forall_not_failed_iff hW, forall_not_survives_iff hW, survives_iff hW hmem,
    reaches_lbNode_iff hW hc₀ hn hkind]

/-- An endpoint at the lb name that stays published has a child that does. -/
theorem exists_child_staysPublished {n : Node} {c : ClusterGatewayTarget} (hc : c ∈ addressed t)
    (hn : n ∈ createdNodes env order t host) (hkind : n = .geo c.geo ∨ n = .default c.geo)
    (hstay : StaysPublished env order t host endpoints probes listenerName
      (builtEndpoint env order t host endpoints n)) :
    ∃ x ∈ fullEndpoints env order t host endpoints,
      ChildOf (builtEndpoint env order t host endpoints n) x ∧
      StaysPublished env order t host endpoints probes listenerName x := by
  have hU := hW.unambiguous
  have hmem : builtEndpoint env order t host endpoints n ∈ fullEndpoints env order t host endpoints :=
    (mem_fullEndpoints hU).2 ⟨n, hn, rfl⟩
  obtain ⟨x, hx, hchild⟩ := exists_child_of_lbNode hU hc hn hkind
  rcases hstay with hnf | hnone | hsurv
  · exact ⟨x, hx, hchild, Or.inl hnf⟩
  · exact ⟨x, hx, hchild, Or.inr (Or.inl hnone)⟩
  · have hr := realizes_builtEndpoint hU hn
    have hreach := (survives_iff hW hmem).1 hsurv
    generalize builtEndpoint env order t host endpoints n = b at hreach hr ⊢
    cases hreach with
    | here h =>
        have hleaf := ((aliveIPLeaf_iff hW (createdNodes_subset_treeNodes hn) hr).1 h).1
        rcases hkind with rfl | rfl <;> cases hleaf
    | step hy hchild hreach =>
        exact ⟨_, hy, hchild, Or.inr (Or.inr ((survives_iff hW hy).2 hreach))⟩

end

/-! ## When there is a catch-all -/

theorem setEndpoints_eq_nil (h : setEndpoints env order t endpoints probes listenerName host = []) :
    fullEndpoints env order t host endpoints = [] := by
  simp only [setEndpoints, publishEndpoints] at h
  split at h
  · exact h
  · rename_i hne
    exact absurd h hne

theorem fullEndpoints_eq_nil (hU : Unambiguous env t host endpoints)
    (h : defaultGroup order t = none) : fullEndpoints env order t host endpoints = [] := by
  have hperm := @fullEndpoints_perm env order t host endpoints hU
  have hnil : createdNodes env order t host = [] := by
    unfold createdNodes
    rw [catchAll_plannedNodes, h]
    rfl
  rw [hnil] at hperm
  exact hperm.eq_nil

open Classical in
/-- There is one catch-all if there is one node for it among those that stay published, provided
    these have children that stay published. -/
theorem hasCatchAll_iff_length (hU : Unambiguous env t host endpoints) {code : GeoCode}
    (hdef : defaultGroup order t = some code)
    (hchild : ∀ n ∈ createdNodes env order t host, ∀ c ∈ addressed t,
      (n = .geo c.geo ∨ n = .default c.geo) →
      StaysPublished env order t host endpoints probes listenerName
        (builtEndpoint env order t host endpoints n) →
      ∃ x ∈ fullEndpoints env order t host endpoints,
        ChildOf (builtEndpoint env order t host endpoints n) x ∧
        StaysPublished env order t host endpoints probes listenerName x) :
    HasCatchAll env t host (setEndpoints env order t endpoints probes listenerName host) ↔
      (((if ∃ c ∈ addressed t, c.geo = GeoCode.wildcardGeo then [Node.geo GeoCode.wildcardGeo]
          else []) ++ [Node.default code]).filter (fun n => decide
        (StaysPublished env order t host endpoints probes listenerName
          (builtEndpoint env order t host endpoints n)))).length = 1 := by
  have hperm := @wildcards_perm env order t host endpoints probes listenerName hU code hdef
  have hlen := hperm.length_eq
  rw [List.length_map] at hlen
  have hne : setEndpoints env order t endpoints probes listenerName host ≠ [] := by
    intro h
    have hnil := setEndpoints_eq_nil h
    have hmem : builtEndpoint env order t host endpoints .host ∈
        fullEndpoints env order t host endpoints :=
      (mem_fullEndpoints hU).2 ⟨.host, mem_createdNodes.2 ⟨code, hdef, Or.inr (Or.inl rfl)⟩, rfl⟩
    rw [hnil] at hmem
    simp at hmem
  constructor
  · intro h
    obtain ⟨e, he, -⟩ := h hne
    rw [← hlen, he]
    rfl
  · intro h _
    rw [h] at hlen
    obtain ⟨e, he⟩ := List.length_eq_one_iff.1 hlen
    refine ⟨e, he, ?_⟩
    have hemem : e ∈ wildcards env t host
        (setEndpoints env order t endpoints probes listenerName host) := by simp [he]
    obtain ⟨n, hnmem, rfl⟩ := List.mem_map.1 (hperm.mem_iff.1 hemem)
    obtain ⟨hn, hstay⟩ := List.mem_filter.1 hnmem
    have hncreated : n ∈ createdNodes env order t host := by
      rw [← filter_isWildcard_createdNodes hdef] at hn
      exact (List.mem_filter.1 hn).1
    obtain ⟨c, hc, hkind⟩ : ∃ c ∈ addressed t, n = .geo c.geo ∨ n = .default c.geo := by
      rcases List.mem_append.1 hn with hn | hn
      · split at hn
        · rename_i hex
          obtain ⟨c, hc, hgeo⟩ := hex
          exact ⟨c, hc, Or.inl (by rw [hgeo]; exact List.mem_singleton.1 hn)⟩
        · simp at hn
      · obtain ⟨c, hc, rfl⟩ := exists_addressed_of_defaultGroup hdef
        exact ⟨c, hc, Or.inr (List.mem_singleton.1 hn)⟩
    obtain ⟨x, hx, hxchild, hxstay⟩ := hchild n hncreated c hc hkind (of_decide_eq_true hstay)
    exact target_of_lbNode hU hncreated hkind hx hxchild hxstay

/-- Exactly when there is a catch-all: of the group behind the default endpoint and a group whose
    code is `*`, exactly one stays published. Without failed probes the former always does. -/
theorem hasCatchAll_iff (env : Env) (order : MapOrder) (t : MultiClusterGatewayTarget)
    (host : String) (endpoints : List Endpoint) (probes : List DNSHealthCheckProbe)
    (listenerName : String) :
    (Unambiguous env t host endpoints →
      NoTargetFailed env t host (addressFailed probes t.gateway.name listenerName) →
      (∀ c ∈ addressed t, c.geo ≠ GeoCode.wildcardGeo) →
      HasCatchAll env t host (setEndpoints env order t endpoints probes listenerName host)) ∧
    (NamesApart env t host endpoints (addressFailed probes t.gateway.name listenerName) →
      (HasCatchAll env t host (setEndpoints env order t endpoints probes listenerName host) ↔
        ∀ code, defaultGroup order t = some code →
          (GroupPublished env t host (addressFailed probes t.gateway.name listenerName) code ↔
            ¬ ((∃ c ∈ addressed t, c.geo = GeoCode.wildcardGeo) ∧
              GroupPublished env t host (addressFailed probes t.gateway.name listenerName)
                GeoCode.wildcardGeo)))) := by
  classical
  constructor
  · intro hU hno hstar
    have hnf : ∀ x ∈ fullEndpoints env order t host endpoints,
        probeFailed probes t.gateway.name listenerName x = false :=
      fun x hx => not_failed_of_noTargetFailed hno hx
    cases hdef : defaultGroup order t with
    | none =>
        intro hne
        refine absurd ?_ hne
        rw [setEndpoints_eq_filter, fullEndpoints_eq_nil hU hdef]
        rfl
    | some code =>
        rw [hasCatchAll_iff_length hU hdef (fun n hn c hc hkind _ => ?_)]
        · have hnostar : ¬ ∃ c ∈ addressed t, c.geo = GeoCode.wildcardGeo := by
            rintro ⟨c, hc, h⟩
            exact hstar c hc h
          have hstay : StaysPublished env order t host endpoints probes listenerName
              (builtEndpoint env order t host endpoints (.default code)) := Or.inl hnf
          rw [if_neg hnostar, List.nil_append, List.filter_singleton, decide_eq_true hstay]
          rfl
        · obtain ⟨x, hx, hchild⟩ := exists_child_of_lbNode hU hc hn hkind
          exact ⟨x, hx, hchild, Or.inl hnf⟩
  · intro hW
    have hU := hW.unambiguous
    cases hdef : defaultGroup order t with
    | none =>
        refine ⟨fun _ code h => (nomatch h), fun _ hne => absurd ?_ hne⟩
        rw [setEndpoints_eq_filter, fullEndpoints_eq_nil hU hdef]
        rfl
    | some code =>
        rw [hasCatchAll_iff_length hU hdef (fun n hn c hc hkind hstay =>
          exists_child_staysPublished hW hc hn hkind hstay)]
        obtain ⟨c₀, hc₀, rfl⟩ := exists_addressed_of_defaultGroup hdef
        have hdefault := staysPublished_lbNode_iff hW hc₀
          (mem_createdNodes.2 ⟨c₀.geo, hdef, Or.inl rfl⟩) (Or.inr rfl)
        have hcodes : (∀ code, some c₀.geo = some code →
            (GroupPublished env t host (addressFailed probes t.gateway.name listenerName) code ↔
            ¬ ((∃ c ∈ addressed t, c.geo = GeoCode.wildcardGeo) ∧
              GroupPublished env t host (addressFailed probes t.gateway.name listenerName)
                GeoCode.wildcardGeo))) ↔
            (GroupPublished env t host (addressFailed probes t.gateway.name listenerName) c₀.geo ↔
            ¬ ((∃ c ∈ addressed t, c.geo = GeoCode.wildcardGeo) ∧
              GroupPublished env t host (addressFailed probes t.gateway.name listenerName)
                GeoCode.wildcardGeo)) := by
          simp
        rw [hcodes, ← hdefault]
        by_cases hstar : ∃ c ∈ addressed t, c.geo = GeoCode.wildcardGeo
        · obtain ⟨c₁, hc₁, hgeo₁⟩ := hstar
          have hne : c₁.geo ≠ GeoCode.defaultGeo := by
            rw [hgeo₁]
            decide
          have hwild := staysPublished_lbNode_iff hW hc₁
            (mem_createdNodes.2 ⟨c₀.geo, hdef, Or.inr (Or.inr ⟨c₁, hc₁, Or.inr ⟨rfl, hne⟩⟩)⟩)
            (Or.inl rfl)
          rw [hgeo₁] at hwild
          rw [if_pos ⟨c₁, hc₁, hgeo₁⟩, ← hwild]
          simp only [List.cons_append, List.nil_append, List.filter_cons, List.filter_nil,
            decide_eq_true_eq]
          have hex : ∃ c ∈ addressed t, c.geo = GeoCode.wildcardGeo := ⟨c₁, hc₁, hgeo₁⟩
          by_cases h₁ : StaysPublished env order t host endpoints probes listenerName
              (builtEndpoint env order t host endpoints (.geo GeoCode.wildcardGeo)) <;>
          by_cases h₂ : StaysPublished env order t host endpoints probes listenerName
              (builtEndpoint env order t host endpoints (.default c₀.geo)) <;>
          simp [h₁, h₂, hex]
        · rw [if_neg hstar, List.nil_append, List.filter_singleton]
          by_cases h₂ : StaysPublished env order t host endpoints probes listenerName
              (builtEndpoint env order t host endpoints (.default c₀.geo)) <;>
          simp [h₂, hstar]

end

/-- One cluster in the default geo `IE`, one in `US`. -/
def geoClusters : MultiClusterGatewayTarget where
  gateway := { name := "testgw", ns := "testns" }
  clusterGatewayTargets := [{ firstCluster with geo := "IE" }, { secondCluster [] with geo := "US" }]
  loadBalancing := some { geo := some ⟨"IE"⟩ }

/-- When the other geo fails, or nothing does, the catch-all stays. -/
theorem hasCatchAll_geoClusters :
    HasCatchAll Env.sample geoClusters "test.example.com"
        (setEndpoints Env.sample .inserted geoClusters [] [failedProbe "2.2.2.2"] "test"
          "test.example.com") ∧
      HasCatchAll Env.sample geoClusters "test.example.com"
        (setEndpoints Env.sample .inserted geoClusters [] [] "test" "test.example.com") := by
  have hW : NamesApart Env.sample geoClusters "test.example.com" []
      (addressFailed [failedProbe "2.2.2.2"] "testgw" "test") :=
    ⟨unambiguous_nil, by decide +kernel, by decide +kernel, by decide +kernel, by decide +kernel⟩
  have hdef : defaultGroup .inserted geoClusters = some "IE" := by decide +kernel
  have hnostar : ∀ c ∈ addressed geoClusters, c.geo ≠ GeoCode.wildcardGeo := by decide +kernel
  have hpub : GroupPublished Env.sample geoClusters "test.example.com"
      (addressFailed [failedProbe "2.2.2.2"] "testgw" "test") "IE" :=
    Or.inr (Or.inr ⟨{ firstCluster with geo := "IE" }, by decide +kernel, rfl,
      Or.inl ⟨by decide, { firstCluster with geo := "IE" }, by decide +kernel, rfl,
        by decide +kernel, "1.1.1.1", by decide, by decide⟩⟩)
  have hno : NoTargetFailed Env.sample geoClusters "test.example.com"
      (addressFailed [] "testgw" "test") := ⟨fun _ _ _ _ => rfl, fun _ _ => rfl⟩
  refine ⟨((hasCatchAll_iff _ _ _ _ _ _ _).2 hW).2 fun code hcode => ?_,
    (hasCatchAll_iff _ _ _ _ _ _ _).1 unambiguous_nil hno hnostar⟩
  rw [hdef] at hcode
  cases hcode
  refine ⟨fun _ h => ?_, fun _ => hpub⟩
  obtain ⟨⟨c, hc, hstar⟩, -⟩ := h
  exact hnostar c hc hstar

/-- When the default geo fails, clients of every other geo lose their records, although the
    cluster in `US` is healthy and published. -/
theorem not_hasCatchAll_geoClusters :
    ¬ HasCatchAll Env.sample geoClusters "test.example.com"
        (setEndpoints Env.sample .inserted geoClusters [] [failedProbe "1.1.1.1"] "test"
          "test.example.com") := by
  intro h
  have hne : setEndpoints Env.sample .inserted geoClusters [] [failedProbe "1.1.1.1"] "test"
      "test.example.com" ≠ [] := by decide +kernel
  have hnil : wildcards Env.sample geoClusters "test.example.com"
      (setEndpoints Env.sample .inserted geoClusters [] [failedProbe "1.1.1.1"] "test"
        "test.example.com") = [] := by decide +kernel
  obtain ⟨e, he, -⟩ := h hne
  rw [hnil] at he
  cases he

end MultiClusterGateway
