import MultiClusterGateway.DnsPolicy.EndpointTree

set_option autoImplicit false

/-! # The endpoints that are built

What `fullEndpoints` leaves, in terms of the nodes of the tree. Whatever the record held before,
every endpoint has the name, targets and type of a node (`exists_node_of_mem_fullEndpoints`). As long
as no existing endpoint is claimed by two different nodes (`Unambiguous`), the list is, up to the
order the sort gives it, the list of the created nodes (`fullEndpoints_perm`).

The nodes of the geo loop depend on the order in which the groups are visited only in their
catch-alls, of which the last one remains (`mem_plan`, `catchAll_plan`). An endpoint of the record
that has the id of a node is taken over with the properties that it has. So the endpoint of a node
is either fresh or was last written for a node with the same id (`settledEndpoint_cases`), and
different nodes share a pointer only if they share an id. -/

namespace MultiClusterGateway

open Heap (Ptr)

/-! ## The map of existing endpoints -/

theorem lastIdx?_eq_some {α : Type} {p : α → Bool} {l : List α} {i : Nat}
    (h : lastIdx? p l = some i) : ∃ a, l[i]? = some a ∧ p a = true := by
  induction l generalizing i with
  | nil => simp [lastIdx?] at h
  | cons a l ih =>
      simp only [lastIdx?] at h
      cases hrest : lastIdx? p l with
      | some j =>
          rw [hrest] at h
          obtain ⟨b, hb, hpb⟩ := ih hrest
          have hij : j + 1 = i := Option.some.inj h
          exact ⟨b, by rw [← hij]; simpa using hb, hpb⟩
      | none =>
          rw [hrest] at h
          by_cases hpa : p a = true
          · have hi : 0 = i := by simpa [hpa] using h
            exact ⟨a, by rw [← hi]; rfl, hpa⟩
          · simp [hpa] at h

theorem currentEndpoints_eq_some {endpoints : List Endpoint} {id : String} {p : Ptr}
    (h : currentEndpoints endpoints id = some p) :
    ∃ e, endpoints[p]? = some e ∧ e.setID = id := by
  obtain ⟨e, he, hid⟩ := lastIdx?_eq_some h
  exact ⟨e, he, eq_of_beq hid⟩

theorem mapsInto_currentEndpoints (endpoints : List Endpoint) :
    MapsInto (currentEndpoints endpoints) endpoints.length where
  lt := by
    intro k p h
    obtain ⟨e, he, -⟩ := currentEndpoints_eq_some h
    exact (List.getElem?_eq_some_iff.1 he).1
  inj := by
    intro k k' p h h'
    obtain ⟨e, he, hid⟩ := currentEndpoints_eq_some h
    obtain ⟨e', he', hid'⟩ := currentEndpoints_eq_some h'
    rw [he] at he'
    rw [← hid, ← hid', Option.some.inj he']

/-! ## Which nodes are planned -/

/-- The groups with an address, by their codes. -/
def addressedCodes (groups : List (GeoCode × List ClusterGatewayTarget)) : List GeoCode :=
  (groups.filter (fun group => group.2.any (fun c => c.gatewayAddresses ≠ []))).map Prod.fst

/-- The expected default: the internal code `default`, or the default geo of the policy. -/
def isExpectedDefault (t : MultiClusterGatewayTarget) (code : GeoCode) : Bool :=
  GeoCode.isDefaultCode code || code == t.getDefaultGeo

/-- The group behind the catch-all, for codes visited in this order: the last expected default, and
    the first group of all if there is none. -/
def defaultCode (t : MultiClusterGatewayTarget) (codes : List GeoCode) : Option GeoCode :=
  ((codes.filter (isExpectedDefault t)).getLast?).or codes.head?

/-- The catch-all that remains at the end of the loop. -/
def catchAll (nodes : List Node) : Option Node :=
  (nodes.filter Node.isDefault).getLast?

section
variable {env : Env} {t : MultiClusterGatewayTarget} {host : String}

theorem flatMap_clusterNodes_eq_nil {group : List ClusterGatewayTarget} :
    group.flatMap (clusterNodes env t host) = [] ↔
      group.any (fun c => c.gatewayAddresses ≠ []) = false := by
  simp [List.flatMap_eq_nil_iff, clusterNodes_eq_nil]

theorem mem_geoNodes {hasDefault : Bool} {group : GeoCode × List ClusterGatewayTarget} {n : Node} :
    n ∈ geoNodes env t host hasDefault group ↔
      n ∈ group.2.flatMap (clusterNodes env t host) ∨
      (group.2.flatMap (clusterNodes env t host) ≠ [] ∧
        ((n = .geo group.1 ∧ group.1 ≠ GeoCode.defaultGeo) ∨
         (n = .default group.1 ∧ (isExpectedDefault t group.1 = true ∨ hasDefault = false)))) := by
  simp only [geoNodes, isExpectedDefault]
  by_cases hnil : group.2.flatMap (clusterNodes env t host) = []
  · simp [hnil]
  · by_cases hcode : group.1 = GeoCode.defaultGeo
    · simp [hnil, GeoCode.isDefaultCode, hcode]
    · by_cases hdef : group.1 = t.getDefaultGeo ∨ hasDefault = false
      · simp [hnil, GeoCode.isDefaultCode, hcode, hdef]
      · simp [hnil, GeoCode.isDefaultCode, hcode, hdef]

/-- The nodes other than the catch-alls do not depend on the order of the groups. -/
theorem mem_plan {hasDefault : Bool} {groups : List (GeoCode × List ClusterGatewayTarget)}
    {n : Node} (hn : n.isDefault = false) :
    n ∈ plan env t host hasDefault groups ↔
      ∃ group ∈ groups, n ∈ group.2.flatMap (clusterNodes env t host) ∨
        (group.2.flatMap (clusterNodes env t host) ≠ [] ∧ n = .geo group.1 ∧
          group.1 ≠ GeoCode.defaultGeo) := by
  have hgroup : ∀ (b : Bool) (group : GeoCode × List ClusterGatewayTarget),
      n ∈ geoNodes env t host b group ↔ n ∈ group.2.flatMap (clusterNodes env t host) ∨
        (group.2.flatMap (clusterNodes env t host) ≠ [] ∧ n = .geo group.1 ∧
          group.1 ≠ GeoCode.defaultGeo) := by
    intro b group
    have hne : n ≠ .default group.1 := by
      rintro rfl
      simp [Node.isDefault] at hn
    rw [mem_geoNodes]
    simp [hne]
  induction groups generalizing hasDefault with
  | nil => simp [plan]
  | cons group rest ih => simp only [plan, List.mem_append, hgroup, ih, List.exists_mem_cons_iff]

theorem filter_isDefault_geoNodes {hasDefault : Bool}
    {group : GeoCode × List ClusterGatewayTarget} :
    (geoNodes env t host hasDefault group).filter Node.isDefault
      = if group.2.any (fun c => c.gatewayAddresses ≠ []) &&
            (isExpectedDefault t group.1 || !hasDefault)
        then [.default group.1] else [] := by
  have hclusters : (group.2.flatMap (clusterNodes env t host)).filter Node.isDefault = [] := by
    rw [List.filter_eq_nil_iff]
    intro n hn
    obtain ⟨c, -, hnc⟩ := List.mem_flatMap.1 hn
    simp [isDefault_of_mem_clusterNodes hnc]
  simp only [geoNodes]
  by_cases hnil : group.2.flatMap (clusterNodes env t host) = []
  · rw [if_pos hnil, flatMap_clusterNodes_eq_nil.1 hnil]
    rfl
  · have hany : group.2.any (fun c => c.gatewayAddresses ≠ []) = true := by
      rw [← Bool.not_eq_false]
      exact fun h => hnil (flatMap_clusterNodes_eq_nil.2 h)
    rw [if_neg hnil, hany]
    by_cases hcode : GeoCode.isDefaultCode group.1 = true
    · have hexp : isExpectedDefault t group.1 = true := by simp [isExpectedDefault, hcode]
      rw [if_pos hcode, hexp, List.filter_append, hclusters]
      rfl
    · have hexp : isExpectedDefault t group.1 = (group.1 == t.getDefaultGeo) := by
        simp [isExpectedDefault, hcode]
      rw [if_neg hcode, hexp]
      by_cases hdef : group.1 = t.getDefaultGeo ∨ hasDefault = false
      · rw [if_pos hdef, List.filter_append, hclusters]
        rcases hdef with hdef | hdef
        · simp [hdef, Node.isDefault]
        · simp [hdef, Node.isDefault]
      · rw [if_neg hdef, List.filter_append, hclusters]
        push Not at hdef
        have htrue : hasDefault = true := by simpa using hdef.2
        simp [hdef.1, htrue, Node.isDefault]

theorem addressedCodes_cons (group : GeoCode × List ClusterGatewayTarget)
    (rest : List (GeoCode × List ClusterGatewayTarget)) :
    addressedCodes (group :: rest)
      = (if group.2.any (fun c => c.gatewayAddresses ≠ []) then [group.1] else [])
          ++ addressedCodes rest := by
  unfold addressedCodes
  rw [List.filter_cons]
  split <;> simp

theorem filter_isDefault_plan_true (groups : List (GeoCode × List ClusterGatewayTarget)) :
    (plan env t host true groups).filter Node.isDefault
      = ((addressedCodes groups).filter (isExpectedDefault t)).map Node.default := by
  induction groups with
  | nil => rfl
  | cons group rest ih =>
      rw [plan, List.filter_append, Bool.true_or, ih, filter_isDefault_geoNodes,
        addressedCodes_cons]
      cases group.2.any (fun c => c.gatewayAddresses ≠ []) <;>
        cases hexp : isExpectedDefault t group.1 <;> simp [hexp]

/-- The catch-all leads to the expected default group, if that has an address, and else to the
    group that happened to come first. -/
theorem catchAll_plan (groups : List (GeoCode × List ClusterGatewayTarget)) :
    catchAll (plan env t host false groups)
      = (defaultCode t (addressedCodes groups)).map Node.default := by
  induction groups with
  | nil => rfl
  | cons group rest ih =>
      by_cases hany : group.2.any (fun c => c.gatewayAddresses ≠ []) = true
      · -- the first group with an address: from here on there is a default endpoint
        have hfilter : (geoNodes env t host false group).filter Node.isDefault
            = [.default group.1] := by
          rw [filter_isDefault_geoNodes, hany]
          simp
        have hsome : (geoNodes env t host false group).any Node.isDefault = true := by
          rw [List.any_eq_true]
          have hmem : Node.default group.1 ∈ (geoNodes env t host false group).filter
              Node.isDefault := by simp [hfilter]
          exact ⟨_, (List.mem_filter.1 hmem).1, rfl⟩
        have hcodes : addressedCodes (group :: rest) = group.1 :: addressedCodes rest := by
          rw [addressedCodes_cons, if_pos hany]
          rfl
        unfold catchAll
        rw [plan, List.filter_append, hfilter, hsome, Bool.false_or, filter_isDefault_plan_true,
          hcodes, defaultCode, List.getLast?_append, List.filter_cons]
        cases hlast : ((addressedCodes rest).filter (isExpectedDefault t)).getLast? with
        | some g =>
            have hne : (addressedCodes rest).filter (isExpectedDefault t) ≠ [] := by
              intro h
              simp [h] at hlast
            split
            · simp [List.getLast?_cons, hlast]
            · simp [hlast]
        | none =>
            have hnil : (addressedCodes rest).filter (isExpectedDefault t) = [] := by
              simpa using hlast
            split <;> simp [hnil]
      · have hfilter : (geoNodes env t host false group).filter Node.isDefault = [] := by
          rw [filter_isDefault_geoNodes, Bool.eq_false_of_not_eq_true hany]
          simp
        have hnone : (geoNodes env t host false group).any Node.isDefault = false := by
          rw [List.any_eq_false]
          exact List.filter_eq_nil_iff.1 hfilter
        have hcodes : addressedCodes (group :: rest) = addressedCodes rest := by
          rw [addressedCodes_cons, if_neg hany]
          rfl
        rw [hcodes, ← ih]
        unfold catchAll
        rw [plan, List.filter_append, hfilter, hnone, Bool.false_or]
        rfl

end

/-! ## The nodes that are created -/

section
variable (env : Env) (order : MapOrder) (t : MultiClusterGatewayTarget) (host : String)

/-- The nodes of the geo loop for an iteration order. -/
def plannedNodes : List Node := plan env t host false (order.visit t.groupTargetsByGeo)

/-- The nodes whose endpoints are in the record: those of the loop, with one catch-all in place of
    those the loop replaced, and the listener's host. -/
def createdNodes : List Node :=
  match catchAll (plannedNodes env order t host) with
  | none => []
  | some d => (plannedNodes env order t host).filter (fun n => !n.isDefault) ++ [d, .host]

/-- The group behind the catch-all for an iteration order. -/
def defaultGroup : Option GeoCode :=
  defaultCode t (addressedCodes (order.visit t.groupTargetsByGeo))

end

section
variable {env : Env} {order : MapOrder} {t : MultiClusterGatewayTarget} {host : String}

theorem mem_group_iff {code : GeoCode} {c : ClusterGatewayTarget} :
    (∃ group ∈ order.visit t.groupTargetsByGeo, group.1 = code ∧ c ∈ group.2) ↔
      c ∈ t.clusterGatewayTargets ∧ c.geo = code := by
  have hgroups := t.groupsOf_groupTargetsByGeo
  constructor
  · rintro ⟨group, hgroup, rfl, hc⟩
    rw [hgroups.group_eq group (order.mem_visit.1 hgroup)] at hc
    simpa using hc
  · rintro ⟨hc, rfl⟩
    obtain ⟨group, hgroup, hcode⟩ := List.mem_map.1 ((hgroups.mem_iff c.geo).2 ⟨c, hc, rfl⟩)
    refine ⟨group, order.mem_visit.2 hgroup, hcode, ?_⟩
    rw [hgroups.group_eq group hgroup]
    simpa [hcode] using hc

theorem geo_of_mem_group {group : GeoCode × List ClusterGatewayTarget}
    (hgroup : group ∈ order.visit t.groupTargetsByGeo) {c : ClusterGatewayTarget}
    (hc : c ∈ group.2) : c.geo = group.1 :=
  (mem_group_iff.1 ⟨group, hgroup, rfl, hc⟩).2

/-- The codes of the groups with an address are those of the clusters with an address. -/
theorem mem_addressedCodes {code : GeoCode} :
    code ∈ addressedCodes (order.visit t.groupTargetsByGeo) ↔
      ∃ c ∈ addressed t, c.geo = code := by
  simp only [addressedCodes, List.mem_map, List.mem_filter, List.any_eq_true, decide_eq_true_eq,
    mem_addressed]
  constructor
  · rintro ⟨group, ⟨hgroup, c, hc, haddr⟩, rfl⟩
    obtain ⟨hmem, hgeo⟩ := mem_group_iff.1 ⟨group, hgroup, rfl, hc⟩
    exact ⟨c, ⟨hmem, haddr⟩, hgeo⟩
  · rintro ⟨c, ⟨hc, haddr⟩, hgeo⟩
    obtain ⟨group, hgroup, hcode, hmem⟩ := (@mem_group_iff order t code c).2 ⟨hc, hgeo⟩
    exact ⟨group, ⟨hgroup, c, hmem, haddr⟩, hcode⟩

theorem mem_flatMap_clusterNodes {group : GeoCode × List ClusterGatewayTarget}
    (hgroup : group ∈ order.visit t.groupTargetsByGeo) {n : Node}
    (hn : n ∈ group.2.flatMap (clusterNodes env t host)) :
    ∃ c ∈ addressed t, c.geo = group.1 ∧ n ∈ clusterNodes env t host c := by
  obtain ⟨c, hc, hnc⟩ := List.mem_flatMap.1 hn
  obtain ⟨hmem, hgeo⟩ := mem_group_iff.1 ⟨group, hgroup, rfl, hc⟩
  refine ⟨c, mem_addressed.2 ⟨hmem, fun hnil => ?_⟩, hgeo, hnc⟩
  rw [clusterNodes_eq_nil.2 hnil] at hnc
  simp at hnc

/-- Which nodes the loop creates, the catch-alls apart. -/
theorem mem_plannedNodes {n : Node} (hn : n.isDefault = false) :
    n ∈ plannedNodes env order t host ↔
      ∃ c ∈ addressed t, n ∈ clusterNodes env t host c ∨
        (n = .geo c.geo ∧ c.geo ≠ GeoCode.defaultGeo) := by
  unfold plannedNodes
  rw [mem_plan hn]
  constructor
  · rintro ⟨group, hgroup, hmem | ⟨hne, rfl, hcode⟩⟩
    · obtain ⟨c, hc, -, hnc⟩ := mem_flatMap_clusterNodes hgroup hmem
      exact ⟨c, hc, Or.inl hnc⟩
    · obtain ⟨m, hm⟩ := List.exists_mem_of_ne_nil _ hne
      obtain ⟨c, hc, hgeo, -⟩ := mem_flatMap_clusterNodes hgroup hm
      exact ⟨c, hc, Or.inr ⟨by rw [hgeo], by rwa [hgeo]⟩⟩
  · rintro ⟨c, hc, hmem⟩
    obtain ⟨hct, haddr⟩ := mem_addressed.1 hc
    obtain ⟨group, hgroup, hcode, hcg⟩ := (@mem_group_iff order t c.geo c).2 ⟨hct, rfl⟩
    refine ⟨group, hgroup, ?_⟩
    rcases hmem with hmem | ⟨rfl, hne⟩
    · exact Or.inl (List.mem_flatMap.2 ⟨c, hcg, hmem⟩)
    · refine Or.inr ⟨fun hnil => ?_, by rw [hcode], by rwa [hcode]⟩
      exact haddr (clusterNodes_eq_nil.1 (List.flatMap_eq_nil_iff.1 hnil c hcg))

theorem catchAll_plannedNodes :
    catchAll (plannedNodes env order t host) = (defaultGroup order t).map Node.default :=
  catchAll_plan _

theorem defaultGroup_eq_none : defaultGroup order t = none ↔ addressed t = [] := by
  have hcodes : addressedCodes (order.visit t.groupTargetsByGeo) = [] ↔ addressed t = [] := by
    rw [List.eq_nil_iff_forall_not_mem, List.eq_nil_iff_forall_not_mem]
    constructor
    · intro h c hc
      exact h c.geo (mem_addressedCodes.2 ⟨c, hc, rfl⟩)
    · intro h code hcode
      obtain ⟨c, hc, -⟩ := mem_addressedCodes.1 hcode
      exact h c hc
  rw [← hcodes]
  unfold defaultGroup defaultCode
  simp only [Option.or_eq_none_iff, List.getLast?_eq_none_iff, List.head?_eq_none_iff]
  constructor
  · exact fun h => h.2
  · intro h
    rw [h]
    exact ⟨rfl, rfl⟩

/-- The group behind the catch-all has an address. -/
theorem exists_addressed_of_defaultGroup {code : GeoCode} (h : defaultGroup order t = some code) :
    ∃ c ∈ addressed t, c.geo = code := by
  apply (@mem_addressedCodes order t code).1
  unfold defaultGroup defaultCode at h
  rcases Option.or_eq_some_iff.1 h with hlast | ⟨-, hhead⟩
  · exact (List.mem_filter.1 (List.mem_of_getLast? hlast)).1
  · exact List.mem_of_head? hhead

theorem mem_createdNodes {n : Node} :
    n ∈ createdNodes env order t host ↔
      ∃ code, defaultGroup order t = some code ∧
        (n = .default code ∨ n = .host ∨
          (∃ c ∈ addressed t, n ∈ clusterNodes env t host c ∨
            (n = .geo c.geo ∧ c.geo ≠ GeoCode.defaultGeo))) := by
  unfold createdNodes
  rw [catchAll_plannedNodes]
  cases hdef : defaultGroup order t with
  | none => simp
  | some code =>
      simp only [Option.map_some, List.mem_append, List.mem_filter, List.mem_cons,
        List.not_mem_nil, or_false, Option.some.injEq, exists_eq_left', Bool.not_eq_true']
      constructor
      · rintro (⟨hmem, hnd⟩ | rfl | rfl)
        · exact Or.inr (Or.inr ((mem_plannedNodes hnd).1 hmem))
        · exact Or.inl rfl
        · exact Or.inr (Or.inl rfl)
      · rintro (rfl | rfl | ⟨c, hc, hmem⟩)
        · exact Or.inr (Or.inl rfl)
        · exact Or.inr (Or.inr rfl)
        · have hnd : n.isDefault = false := by
            rcases hmem with hmem | ⟨rfl, -⟩
            · exact isDefault_of_mem_clusterNodes hmem
            · rfl
          exact Or.inl ⟨(mem_plannedNodes hnd).2 ⟨c, hc, hmem⟩, hnd⟩

theorem createdNodes_subset_treeNodes {n : Node} (h : n ∈ createdNodes env order t host) :
    n ∈ treeNodes env t host := by
  obtain ⟨code, hdef, rfl | rfl | ⟨c, hc, hmem⟩⟩ := mem_createdNodes.1 h
  · obtain ⟨c, hc, rfl⟩ := exists_addressed_of_defaultGroup hdef
    exact mem_treeNodes.2 (Or.inl ⟨c, hc, Or.inr (Or.inr rfl)⟩)
  · exact mem_treeNodes.2 (Or.inr rfl)
  · refine mem_treeNodes.2 (Or.inl ⟨c, hc, ?_⟩)
    rcases hmem with hmem | hgeo
    · exact Or.inl hmem
    · exact Or.inr (Or.inl hgeo)

theorem isDefault_eq_true {n : Node} : n.isDefault = true ↔ ∃ code, n = .default code := by
  cases n <;> simp [Node.isDefault]

theorem plannedNodes_subset_treeNodes {n : Node} (h : n ∈ plannedNodes env order t host) :
    n ∈ treeNodes env t host := by
  by_cases hn : n.isDefault = false
  · obtain ⟨c, hc, hmem⟩ := (mem_plannedNodes hn).1 h
    refine mem_treeNodes.2 (Or.inl ⟨c, hc, ?_⟩)
    rcases hmem with hmem | hgeo
    · exact Or.inl hmem
    · exact Or.inr (Or.inl hgeo)
  · -- a catch-all of the loop belongs to some group with an address
    obtain ⟨code, rfl⟩ := isDefault_eq_true.1 (Bool.eq_true_of_not_eq_false hn)
    have hgen : ∀ (groups : List (GeoCode × List ClusterGatewayTarget)) (b : Bool),
        Node.default code ∈ plan env t host b groups → code ∈ addressedCodes groups := by
      intro groups
      induction groups with
      | nil => simp [plan]
      | cons group rest ih =>
          intro b hmem
          rw [addressedCodes_cons, List.mem_append]
          rcases List.mem_append.1 hmem with hmem | hmem
          · have hfilter : Node.default code ∈ (geoNodes env t host b group).filter
                Node.isDefault := List.mem_filter.2 ⟨hmem, rfl⟩
            rw [filter_isDefault_geoNodes] at hfilter
            left
            split at hfilter
            · rename_i hcond
              rw [if_pos (Bool.and_eq_true_iff.1 hcond).1]
              simpa using hfilter
            · simp at hfilter
          · exact Or.inr (ih _ hmem)
    obtain ⟨c, hc, rfl⟩ := mem_addressedCodes.1 (hgen _ _ h)
    exact mem_treeNodes.2 (Or.inl ⟨c, hc, Or.inr (Or.inr rfl)⟩)

end

/-! ## The endpoints of the nodes -/

theorem eq_of_mem_zip {α β γ : Type} {f : α → γ} {g : β → γ} {l : List α} {m : List β}
    (h : m.map g = l.map f) {x : α × β} (hx : x ∈ l.zip m) : g x.2 = f x.1 := by
  induction l generalizing m with
  | nil => simp at hx
  | cons a l ih =>
      cases m with
      | nil => simp at hx
      | cons b m =>
          simp only [List.map_cons, List.cons.injEq] at h
          rcases List.mem_cons.1 hx with rfl | hx
          · exact h.1
          · exact ih h.2 hx

section
variable (env : Env) (t : MultiClusterGatewayTarget) (host : String) (endpoints : List Endpoint)

/-- The endpoint of a node after the requests of `nodes` have been executed. -/
def settledEndpoint (nodes : List Node) (n : Node) : Endpoint :=
  Heap.settled (currentEndpoints endpoints) ⟨endpoints⟩ (nodes.map (Node.request env t host))
    (n.request env t host)

/-- The record as the requests of `nodes` leave it. -/
def requested (nodes : List Node) : List Ptr × Heap Endpoint :=
  runNodes env t host (currentEndpoints endpoints) nodes ⟨endpoints⟩

/-- The last step on the catch-all. -/
def Node.setWildcard (n : Node) (e : Endpoint) : Endpoint :=
  if n.isDefault then Endpoint.setProviderSpecific providerSpecificGeoCode GeoCode.wildcardGeo e
  else e

/-- An endpoint of the record that has the node's id. -/
def Existing (n : Node) : Prop := ∃ e ∈ endpoints, e.setID = n.setID env t host

/-- No existing endpoint is claimed by two nodes that differ in more than their properties. The
    catch-alls of the geo loop replace each other by design and are exempt. -/
def Unambiguous : Prop :=
  ∀ m ∈ treeNodes env t host, ∀ n ∈ treeNodes env t host,
    m.setID env t host = n.setID env t host → Existing env t host endpoints n →
      (m.isDefault = true ∧ n.isDefault = true) ∨
      (m.dnsName env t host = n.dnsName env t host ∧ m.recordType = n.recordType ∧
        m.targets env t host = n.targets env t host)

end

section
variable {env : Env} {order : MapOrder} {t : MultiClusterGatewayTarget} {host : String}
  {endpoints : List Endpoint}

theorem unambiguous_nil : Unambiguous env t host [] := by
  rintro m - n - - ⟨e, he, -⟩
  simp at he

theorem existing_of_currentEndpoints {n : Node} {p : Ptr}
    (h : currentEndpoints endpoints (n.setID env t host) = some p) :
    Existing env t host endpoints n := by
  obtain ⟨e, he, hid⟩ := currentEndpoints_eq_some h
  exact ⟨e, List.mem_of_getElem? he, hid⟩

@[simp] theorem setWildcard_dnsName (n : Node) (e : Endpoint) :
    (n.setWildcard e).dnsName = e.dnsName := by
  unfold Node.setWildcard
  split <;> rfl

@[simp] theorem setWildcard_targets (n : Node) (e : Endpoint) :
    (n.setWildcard e).targets = e.targets := by
  unfold Node.setWildcard
  split <;> rfl

@[simp] theorem setWildcard_recordType (n : Node) (e : Endpoint) :
    (n.setWildcard e).recordType = e.recordType := by
  unfold Node.setWildcard
  split <;> rfl

@[simp] theorem setWildcard_setIdentifier (n : Node) (e : Endpoint) :
    (n.setWildcard e).setIdentifier = e.setIdentifier := by
  unfold Node.setWildcard
  split <;> rfl

theorem length_requested (nodes : List Node) :
    nodes.length = (requested env t host endpoints nodes).1.length :=
  length_runNodes nodes _

theorem zip_requested (nodes : List Node) :
    (nodes.map (Node.request env t host)).zip (requested env t host endpoints nodes).1
      = (nodes.zip (requested env t host endpoints nodes).1).map
          (Prod.map (Node.request env t host) id) := by
  rw [List.zip_map_left]

/-- The pointer a node got denotes its settled endpoint. -/
theorem read_requested {nodes : List Node} {x : Node × Ptr}
    (hx : x ∈ nodes.zip (requested env t host endpoints nodes).1) :
    (requested env t host endpoints nodes).2.read x.2
      = settledEndpoint env t host endpoints nodes x.1 := by
  have hread := Heap.run_read (mapsInto_currentEndpoints endpoints).lt
    (nodes.map (Node.request env t host)) ⟨endpoints⟩ le_rfl
  rw [List.map_map] at hread
  exact eq_of_mem_zip hread hx

theorem mem_zip_requested {nodes : List Node} {x : Node × Ptr}
    (hx : x ∈ nodes.zip (requested env t host endpoints nodes).1) :
    currentEndpoints endpoints (x.1.setID env t host) = some x.2 ∨
      (currentEndpoints endpoints (x.1.setID env t host) = none ∧ endpoints.length ≤ x.2) := by
  have hx' : (x.1.request env t host, x.2) ∈ (nodes.map (Node.request env t host)).zip
      (requested env t host endpoints nodes).1 := by
    rw [zip_requested]
    exact List.mem_map.2 ⟨x, hx, rfl⟩
  exact Heap.mem_zip_run _ _ hx'

/-- Two different nodes share a pointer only if they have the same id and it exists. -/
theorem setID_eq_of_requested {nodes : List Node} {x y : Node × Ptr}
    (hx : x ∈ nodes.zip (requested env t host endpoints nodes).1)
    (hy : y ∈ nodes.zip (requested env t host endpoints nodes).1) (hne : x.1 ≠ y.1)
    (hptr : x.2 = y.2) :
    x.1.setID env t host = y.1.setID env t host ∧ Existing env t host endpoints y.1 := by
  have hmaps := mapsInto_currentEndpoints endpoints
  have hpair := Heap.pairwise_zip_run hmaps.lt (nodes.map (Node.request env t host)) ⟨endpoints⟩
    le_rfl
  have hpair' : (nodes.zip (requested env t host endpoints nodes).1).Pairwise
      (fun x y => x.2 = y.2 →
        currentEndpoints endpoints (x.1.setID env t host) = some x.2 ∧
        currentEndpoints endpoints (y.1.setID env t host) = some y.2) := by
    have hzip := @zip_requested env t host endpoints nodes
    unfold requested runNodes at hzip
    rw [hzip, List.pairwise_map] at hpair
    exact hpair
  have hsymm : Std.Symm (fun x y : Node × Ptr => x.2 = y.2 →
      currentEndpoints endpoints (x.1.setID env t host) = some x.2 ∧
      currentEndpoints endpoints (y.1.setID env t host) = some y.2) :=
    ⟨fun a b h heq => (h heq.symm).symm⟩
  have hxy := hpair'.forall hx hy (fun heq => hne (congrArg Prod.fst heq)) hptr
  rw [hptr] at hxy
  exact ⟨hmaps.inj _ _ _ hxy.1 hxy.2, existing_of_currentEndpoints hxy.2⟩

/-- A settled endpoint is fresh, or was last written for a node with the same id. -/
theorem settledEndpoint_cases {nodes : List Node} {n : Node} (hn : n ∈ nodes) :
    settledEndpoint env t host endpoints nodes n = n.fresh env t host ∨
      ∃ m ∈ nodes, m.setID env t host = n.setID env t host ∧
        Existing env t host endpoints n ∧
        ∃ e, settledEndpoint env t host endpoints nodes n = m.assign env t host e := by
  unfold settledEndpoint Heap.settled
  have hkey : (n.request env t host).key = n.setID env t host := rfl
  rw [hkey]
  cases hc : currentEndpoints endpoints (n.setID env t host) with
  | none => exact Or.inl rfl
  | some p =>
      right
      obtain ⟨r, hr, hcur, e, he⟩ := Heap.exists_rewrite_eq (Heap.read ⟨endpoints⟩ p)
        ⟨n.request env t host, List.mem_map_of_mem hn, hc⟩
      obtain ⟨m, hm, rfl⟩ := List.mem_map.1 hr
      exact ⟨m, hm, (mapsInto_currentEndpoints endpoints).inj _ _ _ hcur hc,
        existing_of_currentEndpoints hc, e, he⟩

/-! ## After the loop -/

theorem map_fst_filter_zip {α β : Type} (p : α → Bool) {l : List α} {m : List β}
    (hlen : l.length = m.length) :
    ((l.zip m).filter (fun x => p x.1)).map Prod.fst = l.filter p := by
  have hmap : (l.zip m).map Prod.fst = l := List.map_fst_zip (le_of_eq hlen)
  conv_rhs => rw [← hmap, List.filter_map]
  rfl

/-- The catch-all's pointer, together with its node. -/
theorem defaultPtr_eq {nodes : List Node} {ptrs : List Ptr} (hlen : nodes.length = ptrs.length) :
    (catchAll nodes = none ∧ defaultPtr nodes ptrs = none) ∨
      ∃ d p, catchAll nodes = some d ∧ defaultPtr nodes ptrs = some p ∧ (d, p) ∈ nodes.zip ptrs ∧
        d.isDefault = true := by
  unfold catchAll defaultPtr
  rw [← map_fst_filter_zip Node.isDefault hlen, List.getLast?_map, List.getLast?_map]
  cases hlast : ((nodes.zip ptrs).filter (fun x => x.1.isDefault)).getLast? with
  | none => exact Or.inl ⟨rfl, rfl⟩
  | some x =>
      have hx := List.mem_filter.1 (List.mem_of_getLast? hlast)
      exact Or.inr ⟨x.1, x.2, rfl, rfl, hx.1, by simpa using hx.2⟩

theorem host_setID_ne (code : GeoCode) :
    Node.host.setID env t host ≠ (Node.default code).setID env t host := by
  have h := @host_ne_of_contains_lbName env t host "" "default"
  simpa [Node.setID, Node.dnsName, Node.setIdentifier] using h

/-- The two steps after the loop are the request of the listener's host and the property of the
    catch-all. -/
theorem finishStep_eq {nodes : List Node} {d : Node} {p : Ptr}
    (hdef : defaultPtr nodes (requested env t host endpoints nodes).1 = some p)
    (hmem : (d, p) ∈ nodes.zip (requested env t host endpoints nodes).1) (hd : d.isDefault = true)
    (hne : publishedPtrs nodes (requested env t host endpoints nodes).1 ≠ []) :
    ∃ q, (requested env t host endpoints (nodes ++ [.host])).1
        = (requested env t host endpoints nodes).1 ++ [q] ∧
      finishStep (currentEndpoints endpoints) (lbName env t host) host
        (buildNodes env t host (currentEndpoints endpoints) nodes ⟨⟨endpoints⟩, [], none⟩)
      = ((requested env t host endpoints (nodes ++ [.host])).2.modify p
            (Endpoint.setProviderSpecific providerSpecificGeoCode GeoCode.wildcardGeo),
          publishedPtrs nodes (requested env t host endpoints nodes).1 ++ [p, q]) := by
  have hmaps := mapsInto_currentEndpoints endpoints
  have hp : p < (requested env t host endpoints nodes).2.size :=
    Heap.mem_run_lt hmaps.lt _ _ le_rfl (List.of_mem_zip hmem).2
  -- the listener's host has an id of its own
  have hcur : currentEndpoints endpoints (Node.host.request env t host).key ≠ some p := by
    intro hc
    obtain ⟨code, rfl⟩ := isDefault_eq_true.1 hd
    rcases mem_zip_requested hmem with hmapped | ⟨-, hge⟩
    · exact host_setID_ne code (hmaps.inj _ _ _ hc hmapped)
    · exact absurd (hmaps.lt _ _ hc) (Nat.not_lt.2 hge)
  have hreq := Heap.request_modify (requested env t host endpoints nodes).2
    (Node.host.request env t host)
    (Endpoint.setProviderSpecific providerSpecificGeoCode GeoCode.wildcardGeo) hp hcur
  have hcreate : ∀ heap, createOrUpdateEndpoint host [lbName env t host] .CNAME "" defaultCnameTTL
      (currentEndpoints endpoints) heap
      = Heap.request (currentEndpoints endpoints) heap (Node.host.request env t host) :=
    fun heap => @createOrUpdateEndpoint_eq_request env t host _ .host rfl heap
  have hrun : requested env t host endpoints (nodes ++ [.host])
      = ((requested env t host endpoints nodes).1 ++
          [(Heap.request (currentEndpoints endpoints) (requested env t host endpoints nodes).2
            (Node.host.request env t host)).1],
        (Heap.request (currentEndpoints endpoints) (requested env t host endpoints nodes).2
            (Node.host.request env t host)).2) := by
    unfold requested
    rw [runNodes_append]
    rfl
  refine ⟨_, congrArg Prod.fst hrun, ?_⟩
  obtain ⟨q₀, ps, hps⟩ := List.exists_cons_of_ne_nil hne
  have hbuild : buildNodes env t host (currentEndpoints endpoints) nodes ⟨⟨endpoints⟩, [], none⟩
      = ⟨(requested env t host endpoints nodes).2, q₀ :: ps, some p⟩ := by
    have hdef' : defaultPtr nodes (runNodes env t host (currentEndpoints endpoints) nodes
        ⟨endpoints⟩).1 = some p := hdef
    have hps' : publishedPtrs nodes (runNodes env t host (currentEndpoints endpoints) nodes
        ⟨endpoints⟩).1 = q₀ :: ps := hps
    simp [buildNodes, hdef', hps', requested]
  rw [hbuild, hps, hrun]
  simp only [finishStep, hcreate, hreq]

theorem map_publishedPtrs {nodes : List Node} {ptrs : List Ptr} {f : Ptr → Endpoint}
    {g : Node → Endpoint} (hlen : nodes.length = ptrs.length)
    (h : ∀ x ∈ nodes.zip ptrs, x.1.isDefault = false → f x.2 = g x.1) :
    (publishedPtrs nodes ptrs).map f = (nodes.filter (fun n => !n.isDefault)).map g := by
  rw [← map_fst_filter_zip (fun n => !n.isDefault) hlen]
  unfold publishedPtrs
  rw [List.map_map, List.map_map]
  apply List.map_congr_left
  intro x hx
  obtain ⟨hmem, hnd⟩ := List.mem_filter.1 hx
  exact h x hmem (by simpa using hnd)

/-- Some node other than a catch-all is planned whenever a catch-all is. -/
theorem publishedPtrs_plannedNodes {d : Node}
    (hd : catchAll (plannedNodes env order t host) = some d) {ptrs : List Ptr}
    (hlen : (plannedNodes env order t host).length = ptrs.length) :
    publishedPtrs (plannedNodes env order t host) ptrs ≠ [] := by
  rw [catchAll_plannedNodes] at hd
  obtain ⟨code, hcode, -⟩ := Option.map_eq_some_iff.1 hd
  obtain ⟨c, hc, -⟩ := exists_addressed_of_defaultGroup hcode
  obtain ⟨n, hn⟩ := List.exists_mem_of_ne_nil (clusterNodes env t host c)
    (fun h => (mem_addressed.1 hc).2 (clusterNodes_eq_nil.1 h))
  have hnd := isDefault_of_mem_clusterNodes hn
  have hmem : n ∈ (plannedNodes env order t host).filter (fun n => !n.isDefault) :=
    List.mem_filter.2 ⟨(mem_plannedNodes hnd).2 ⟨c, hc, Or.inl hn⟩, by simp [hnd]⟩
  intro hnil
  rw [← map_fst_filter_zip (fun n => !n.isDefault) hlen] at hmem
  obtain ⟨x, hx, -⟩ := List.mem_map.1 hmem
  have : x.2 ∈ publishedPtrs (plannedNodes env order t host) ptrs := List.mem_map_of_mem hx
  simp [hnil] at this

theorem plannedNodes_eq_nil (h : catchAll (plannedNodes env order t host) = none) :
    plannedNodes env order t host = [] := by
  have hnone : defaultGroup order t = none := by
    rw [catchAll_plannedNodes] at h
    simpa using h
  have haddr := defaultGroup_eq_none.1 hnone
  rw [List.eq_nil_iff_forall_not_mem]
  intro n hn
  by_cases hnd : n.isDefault = false
  · obtain ⟨c, hc, -⟩ := (mem_plannedNodes hnd).1 hn
    simp [haddr] at hc
  · have hmem : n ∈ (plannedNodes env order t host).filter Node.isDefault :=
      List.mem_filter.2 ⟨hn, Bool.eq_true_of_not_eq_false hnd⟩
    unfold catchAll at h
    rw [List.getLast?_eq_none_iff.1 h] at hmem
    simp at hmem

variable (env order t host endpoints) in
/-- The endpoint a created node ends up with. -/
def builtEndpoint (n : Node) : Endpoint :=
  n.setWildcard (settledEndpoint env t host endpoints (plannedNodes env order t host ++ [.host]) n)

/-- No other node at the lb name has the id of the catch-all. -/
theorem setID_ne_catchAll {n : Node} (hn : n ∈ treeNodes env t host) (hnd : n.isDefault = false)
    (hname : n.dnsName env t host = lbName env t host) (code : GeoCode) :
    n.setID env t host ≠ (Node.default code).setID env t host := by
  intro hid
  cases n with
  | address c => exact clusterLbName_ne_lbName t host c hname
  | weighted c h => exact geoLbName_ne_lbName t host c.geo hname
  | geo code' =>
      -- the group with the code `default` has no CNAME of its own
      have hcode : code' = "default" := (String.append_right_inj _).1 hid
      rcases mem_treeNodes.1 hn with ⟨c, -, hmem | ⟨hgeo, hne⟩ | hdef⟩ | hhost
      · rcases mem_clusterNodes.1 hmem with ⟨h, -⟩ | ⟨_, -, h⟩ | ⟨h, -⟩ <;> cases h
      · cases hgeo
        exact hne hcode
      · cases hdef
      · cases hhost
  | default _ => simp [Node.isDefault] at hnd
  | host => exact host_ne_lbName t host hname

theorem mem_treeNodes_of_mem_plannedNodes {n : Node}
    (hn : n ∈ plannedNodes env order t host ++ [.host]) : n ∈ treeNodes env t host := by
  rcases List.mem_append.1 hn with hn | hn
  · exact plannedNodes_subset_treeNodes hn
  · exact mem_treeNodes.2 (Or.inr (List.mem_singleton.1 hn))

/-- No other created node shares the pointer of the catch-all. -/
theorem ne_of_isDefault (hU : Unambiguous env t host endpoints) {n d : Node}
    (hn : n ∈ plannedNodes env order t host ++ [.host])
    (hd : d ∈ plannedNodes env order t host) (hnd : n.isDefault = false)
    (hdd : d.isDefault = true) (hid : n.setID env t host = d.setID env t host) :
    ¬ Existing env t host endpoints d := by
  intro hex
  have hntree := mem_treeNodes_of_mem_plannedNodes hn
  obtain ⟨code, rfl⟩ := isDefault_eq_true.1 hdd
  rcases hU n hntree _ (plannedNodes_subset_treeNodes hd) hid hex with ⟨h, -⟩ | ⟨hname, -, -⟩
  · rw [hnd] at h
    cases h
  · exact setID_ne_catchAll hntree hnd hname code hid

/-- What is in `newEndpoints` before it is sorted. -/
theorem finishStep_read (hU : Unambiguous env t host endpoints) :
    (finishStep (currentEndpoints endpoints) (lbName env t host) host
        (buildNodes env t host (currentEndpoints endpoints) (plannedNodes env order t host)
          ⟨⟨endpoints⟩, [], none⟩)).2.map
      (finishStep (currentEndpoints endpoints) (lbName env t host) host
        (buildNodes env t host (currentEndpoints endpoints) (plannedNodes env order t host)
          ⟨⟨endpoints⟩, [], none⟩)).1.read
      = (createdNodes env order t host).map (builtEndpoint env order t host endpoints) := by
  have hlen := @length_requested env t host endpoints (plannedNodes env order t host)
  rcases defaultPtr_eq hlen with ⟨hnone, -⟩ | ⟨d, p, hd, hdef, hmem, hdd⟩
  · unfold createdNodes
    rw [hnone, plannedNodes_eq_nil hnone]
    rfl
  · obtain ⟨q, hq, hfin⟩ := finishStep_eq hdef hmem hdd (publishedPtrs_plannedNodes hd hlen)
    have hzip : (plannedNodes env order t host ++ [Node.host]).zip
        (requested env t host endpoints (plannedNodes env order t host ++ [.host])).1
        = (plannedNodes env order t host).zip
            (requested env t host endpoints (plannedNodes env order t host)).1
          ++ [(Node.host, q)] := by
      rw [hq, List.zip_append hlen]
      rfl
    have hdmem : (d, p) ∈ (plannedNodes env order t host ++ [Node.host]).zip
        (requested env t host endpoints (plannedNodes env order t host ++ [.host])).1 := by
      rw [hzip]
      exact List.mem_append_left _ hmem
    have hp : p < (requested env t host endpoints (plannedNodes env order t host ++ [.host])).2.size :=
      Heap.mem_run_lt (mapsInto_currentEndpoints endpoints).lt _ _ le_rfl (List.of_mem_zip hdmem).2
    -- reading through any other pointer does not see the catch-all's property
    have hread : ∀ x ∈ (plannedNodes env order t host ++ [Node.host]).zip
        (requested env t host endpoints (plannedNodes env order t host ++ [.host])).1,
        x.1.isDefault = false →
        ((requested env t host endpoints (plannedNodes env order t host ++ [.host])).2.modify p
          (Endpoint.setProviderSpecific providerSpecificGeoCode GeoCode.wildcardGeo)).read x.2
        = builtEndpoint env order t host endpoints x.1 := by
      intro x hx hnd
      have hne : p ≠ x.2 := by
        intro heq
        have hxd : x.1 ≠ d := by
          intro h
          rw [h, hdd] at hnd
          cases hnd
        obtain ⟨hid, hex⟩ := setID_eq_of_requested hx hdmem hxd heq.symm
        exact ne_of_isDefault hU (List.of_mem_zip hx).1 (List.of_mem_zip hmem).1 hnd hdd hid hex
      rw [Heap.read_modify_of_ne _ _ hne, read_requested hx]
      simp [builtEndpoint, Node.setWildcard, hnd]
    have hdread : ((requested env t host endpoints
        (plannedNodes env order t host ++ [.host])).2.modify p
          (Endpoint.setProviderSpecific providerSpecificGeoCode GeoCode.wildcardGeo)).read p
        = builtEndpoint env order t host endpoints d := by
      rw [Heap.read_modify_self _ _ hp, read_requested hdmem]
      simp [builtEndpoint, Node.setWildcard, hdd]
    unfold createdNodes
    rw [hd, hfin]
    simp only [List.map_append, List.map_cons, List.map_nil]
    rw [map_publishedPtrs hlen (fun x hx hnd => hread x (hzip ▸ List.mem_append_left _ hx) hnd),
      hdread, hread (.host, q) (by rw [hzip]; simp) rfl]

theorem geoLoop_plannedNodes :
    (order.visit t.groupTargetsByGeo).foldl
        (geoStep env t (currentEndpoints endpoints) (lbName env t host))
        { heap := ⟨endpoints⟩, newEndpoints := [], defaultEndpoint := none }
      = buildNodes env t host (currentEndpoints endpoints) (plannedNodes env order t host)
          ⟨⟨endpoints⟩, [], none⟩ :=
  geoLoop_eq (mapsInto_currentEndpoints endpoints) (order.visit t.groupTargetsByGeo)
    (fun _ hgroup _ hc => geo_of_mem_group hgroup hc) le_rfl

/-- Once something was created there is a default endpoint, so the source does not dereference
    nil. -/
theorem geoLoop_defaultEndpoint
    (h : ((order.visit t.groupTargetsByGeo).foldl
        (geoStep env t (currentEndpoints endpoints) (lbName env t host))
        { heap := ⟨endpoints⟩, newEndpoints := [], defaultEndpoint := none }).newEndpoints ≠ []) :
    ((order.visit t.groupTargetsByGeo).foldl
        (geoStep env t (currentEndpoints endpoints) (lbName env t host))
        { heap := ⟨endpoints⟩, newEndpoints := [], defaultEndpoint := none }).defaultEndpoint
      ≠ none := by
  have hlen := @length_requested env t host endpoints (plannedNodes env order t host)
  rw [geoLoop_plannedNodes] at h ⊢
  rcases defaultPtr_eq hlen with ⟨hnone, -⟩ | ⟨d, p, -, hdef, -, -⟩
  · rw [plannedNodes_eq_nil hnone] at h
    exact absurd rfl h
  · have hdef' : defaultPtr (plannedNodes env order t host) (runNodes env t host
        (currentEndpoints endpoints) (plannedNodes env order t host) ⟨endpoints⟩).1 = some p := hdef
    simp [buildNodes, hdef']

/-- The endpoints before the probes are looked at: those of the created nodes, sorted. -/
theorem fullEndpoints_eq (hU : Unambiguous env t host endpoints) :
    ∃ (heap : Heap Endpoint) (ptrs : List Ptr),
      fullEndpoints env order t host endpoints
        = (env.sorter.sort (fun p => (heap.read p).setID) ptrs).map heap.read ∧
      ptrs.map heap.read
        = (createdNodes env order t host).map (builtEndpoint env order t host endpoints) := by
  refine ⟨_, _, ?_, finishStep_read hU⟩
  simp only [fullEndpoints, geoLoop_plannedNodes]

theorem pairwise_fullEndpoints :
    (fullEndpoints env order t host endpoints).Pairwise (fun a b => a.setID ≤ b.setID) := by
  simp only [fullEndpoints]
  rw [List.pairwise_map]
  exact env.sorter.sorted _ _

theorem fullEndpoints_perm (hU : Unambiguous env t host endpoints) :
    (fullEndpoints env order t host endpoints).Perm
      ((createdNodes env order t host).map (builtEndpoint env order t host endpoints)) := by
  obtain ⟨heap, ptrs, hfull, hread⟩ := @fullEndpoints_eq env order t host endpoints hU
  rw [hfull, ← hread]
  exact (env.sorter.perm _ ptrs).map heap.read

/-! ## What the endpoints look like -/

theorem exists_append_of_catchAll {nodes : List Node} {d : Node} (h : catchAll nodes = some d) :
    ∃ front back, nodes = front ++ d :: back ∧ ∀ n ∈ back, n.isDefault = false := by
  induction nodes with
  | nil => simp [catchAll] at h
  | cons a nodes ih =>
      by_cases hrest : catchAll nodes = none
      · have hnil : nodes.filter Node.isDefault = [] := by
          unfold catchAll at hrest
          simpa using hrest
        have hback : ∀ n ∈ nodes, n.isDefault = false := by
          intro n hn
          simpa using List.filter_eq_nil_iff.1 hnil n hn
        unfold catchAll at h
        rw [List.filter_cons, hnil] at h
        split at h
        · cases h
          exact ⟨[], nodes, rfl, hback⟩
        · simp at h
      · obtain ⟨d', hd'⟩ := Option.ne_none_iff_exists'.1 hrest
        have hdd' : d' = d := by
          unfold catchAll at h hd'
          rw [List.filter_cons] at h
          split at h
          · rw [List.getLast?_cons, hd'] at h
            exact Option.some.inj h
          · rw [hd'] at h
            exact Option.some.inj h
        obtain ⟨front, back, hnodes, hback⟩ := ih (hdd' ▸ hd')
        exact ⟨a :: front, back, by rw [hnodes]; rfl, hback⟩

variable (env t host endpoints) in
/-- The endpoint of a node that shares its id with no other node. -/
def nodeEndpoint (n : Node) : Endpoint :=
  match currentEndpoints endpoints (n.setID env t host) with
  | some p => n.assign env t host (Heap.read ⟨endpoints⟩ p)
  | none => n.fresh env t host

/-- The catch-all that remains was the last to write its endpoint, and leaves no trace of those
    before it. -/
theorem settledEndpoint_catchAll (hU : Unambiguous env t host endpoints) {d : Node}
    (hd : catchAll (plannedNodes env order t host) = some d) :
    settledEndpoint env t host endpoints (plannedNodes env order t host ++ [.host]) d
      = nodeEndpoint env t host endpoints d := by
  have hmaps := mapsInto_currentEndpoints endpoints
  have hdmem : d ∈ (plannedNodes env order t host).filter Node.isDefault := by
    unfold catchAll at hd
    exact List.mem_of_getLast? hd
  obtain ⟨hdplan, hdd⟩ := List.mem_filter.1 hdmem
  obtain ⟨front, back, hnodes, hback⟩ := exists_append_of_catchAll hd
  unfold settledEndpoint Heap.settled nodeEndpoint
  have hkey : (d.request env t host).key = d.setID env t host := rfl
  rw [hkey]
  cases hc : currentEndpoints endpoints (d.setID env t host) with
  | none => rfl
  | some p =>
      have hdefault : ∀ m ∈ plannedNodes env order t host ++ [.host],
          currentEndpoints endpoints (m.setID env t host) = some p → m.isDefault = true := by
        intro m hm hcm
        by_contra hmd
        exact ne_of_isDefault hU hm hdplan (Bool.eq_false_of_not_eq_true hmd) hdd
          (hmaps.inj _ _ _ hcm hc) (existing_of_currentEndpoints hc)
      -- nothing after the last catch-all writes to its endpoint
      have hlater : ∀ r ∈ (back ++ [Node.host]).map (Node.request env t host),
          ¬ currentEndpoints endpoints r.key = some p := by
        intro r hr hcr
        obtain ⟨m, hm, rfl⟩ := List.mem_map.1 hr
        have hmplan : m ∈ plannedNodes env order t host ++ [.host] := by
          rw [hnodes, List.append_assoc]
          exact List.mem_append_right _ (List.mem_cons_of_mem _ hm)
        have hmd := hdefault m hmplan hcr
        rcases List.mem_append.1 hm with hm | hm
        · rw [hback m hm] at hmd
          cases hmd
        · rw [List.mem_singleton.1 hm] at hmd
          cases hmd
      have hearlier : ∀ r ∈ front.map (Node.request env t host),
          currentEndpoints endpoints r.key = some p →
          ∀ a, d.assign env t host (r.assign a) = d.assign env t host a := by
        intro r hr hcr a
        obtain ⟨m, hm, rfl⟩ := List.mem_map.1 hr
        have hmplan : m ∈ plannedNodes env order t host ++ [.host] := by
          rw [hnodes, List.append_assoc]
          exact List.mem_append_left _ hm
        obtain ⟨code, rfl⟩ := isDefault_eq_true.1 (hdefault m hmplan hcr)
        obtain ⟨code', rfl⟩ := isDefault_eq_true.1 hdd
        rfl
      have hsplit : (plannedNodes env order t host ++ [Node.host]).map (Node.request env t host)
          = front.map (Node.request env t host) ++ (d.request env t host ::
              (back ++ [Node.host]).map (Node.request env t host)) := by
        rw [hnodes]
        simp
      have hcons : ∀ a, Heap.rewrite (currentEndpoints endpoints) (d.request env t host ::
            (back ++ [Node.host]).map (Node.request env t host)) p a
          = Heap.rewrite (currentEndpoints endpoints)
              ((back ++ [Node.host]).map (Node.request env t host)) p (d.assign env t host a) := by
        intro a
        unfold Heap.rewrite
        rw [List.foldl_cons, hkey, if_pos hc]
        rfl
      rw [hsplit]
      simp only [Heap.rewrite_append, hcons, Heap.rewrite_of_forall_ne _ hlater]
      exact Heap.apply_rewrite_eq hearlier _

variable (env t host) in
/-- The endpoint is the node's as far as resolution is concerned. -/
structure Realizes (n : Node) (e : Endpoint) : Prop where
  dnsName : e.dnsName = n.dnsName env t host
  targets : e.targets = n.targets env t host
  recordType : e.recordType = n.recordType

theorem realizes_fresh (n : Node) : Realizes env t host n (n.fresh env t host) :=
  ⟨by simp, by simp, by simp⟩

theorem realizes_assign (n : Node) (e : Endpoint) : Realizes env t host n (n.assign env t host e) :=
  ⟨by simp, by simp, by simp⟩

theorem Realizes.setWildcard {n : Node} {e : Endpoint} (h : Realizes env t host n e) (m : Node) :
    Realizes env t host n (m.setWildcard e) :=
  ⟨by simp [h.dnsName], by simp [h.targets], by simp [h.recordType]⟩

theorem mem_plannedNodes_of_mem_createdNodes {n : Node} (h : n ∈ createdNodes env order t host) :
    n ∈ plannedNodes env order t host ++ [.host] := by
  unfold createdNodes at h
  cases hd : catchAll (plannedNodes env order t host) with
  | none => simp [hd] at h
  | some d =>
      rw [hd] at h
      have hdmem : d ∈ plannedNodes env order t host := by
        unfold catchAll at hd
        exact (List.mem_filter.1 (List.mem_of_getLast? hd)).1
      simp only [List.mem_append, List.mem_filter, List.mem_cons, List.not_mem_nil, or_false] at h ⊢
      rcases h with ⟨h, -⟩ | rfl | rfl
      · exact Or.inl h
      · exact Or.inl hdmem
      · exact Or.inr rfl

theorem catchAll_of_mem_createdNodes {n : Node} (h : n ∈ createdNodes env order t host)
    (hn : n.isDefault = true) : catchAll (plannedNodes env order t host) = some n := by
  obtain ⟨code, hdef, rfl | rfl | ⟨c, -, hmem⟩⟩ := mem_createdNodes.1 h
  · rw [catchAll_plannedNodes, hdef]
    rfl
  · cases hn
  · rcases hmem with hmem | ⟨rfl, -⟩
    · rw [isDefault_of_mem_clusterNodes hmem] at hn
      cases hn
    · cases hn

/-- Every created node has its endpoint. -/
theorem realizes_builtEndpoint (hU : Unambiguous env t host endpoints) {n : Node}
    (hn : n ∈ createdNodes env order t host) :
    Realizes env t host n (builtEndpoint env order t host endpoints n) := by
  apply Realizes.setWildcard
  by_cases hnd : n.isDefault = true
  · rw [settledEndpoint_catchAll hU (catchAll_of_mem_createdNodes hn hnd)]
    unfold nodeEndpoint
    split
    · exact realizes_assign n _
    · exact realizes_fresh n
  · have hplan := mem_plannedNodes_of_mem_createdNodes hn
    rcases settledEndpoint_cases hplan with h | ⟨m, hm, hid, hex, e, h⟩
    · rw [h]
      exact realizes_fresh n
    · rw [h]
      rcases hU m (mem_treeNodes_of_mem_plannedNodes hm) n (createdNodes_subset_treeNodes hn) hid hex with ⟨-, h⟩ | ⟨h₁, h₂, h₃⟩
      · exact absurd h hnd
      · exact ⟨by simp [h₁], by simp [h₃], by simp [h₂]⟩

/-- The endpoints before the probe check are, in some order, those of the created nodes. -/
theorem mem_fullEndpoints (hU : Unambiguous env t host endpoints) {e : Endpoint} :
    e ∈ fullEndpoints env order t host endpoints ↔
      ∃ n ∈ createdNodes env order t host, builtEndpoint env order t host endpoints n = e := by
  rw [(fullEndpoints_perm hU).mem_iff, List.mem_map]

/-- Without any assumption on the record, every endpoint still has the name, targets and type of
    some node. -/
theorem exists_node_of_mem_fullEndpoints {e : Endpoint}
    (he : e ∈ fullEndpoints env order t host endpoints) :
    ∃ n ∈ treeNodes env t host, Realizes env t host n e := by
  have hlen := @length_requested env t host endpoints (plannedNodes env order t host)
  simp only [fullEndpoints, geoLoop_plannedNodes, List.mem_map, SliceSorter.mem_sort] at he
  obtain ⟨r, hr, rfl⟩ := he
  rcases defaultPtr_eq hlen with ⟨hnone, -⟩ | ⟨d, p, hd, hdef, hmem, hdd⟩
  · rw [plannedNodes_eq_nil hnone] at hr
    simp [buildNodes, runNodes, Heap.run, publishedPtrs, finishStep] at hr
  · obtain ⟨q, hq, hfin⟩ := finishStep_eq hdef hmem hdd (publishedPtrs_plannedNodes hd hlen)
    rw [hfin] at hr ⊢
    have hzip : (plannedNodes env order t host ++ [Node.host]).zip
        (requested env t host endpoints (plannedNodes env order t host ++ [.host])).1
        = (plannedNodes env order t host).zip
            (requested env t host endpoints (plannedNodes env order t host)).1
          ++ [(Node.host, q)] := by
      rw [hq, List.zip_append hlen]
      rfl
    -- the pointer belongs to some node of the run
    have hx : ∃ n, (n, r) ∈ (plannedNodes env order t host ++ [Node.host]).zip
        (requested env t host endpoints (plannedNodes env order t host ++ [.host])).1 := by
      rw [hzip]
      simp only [List.mem_append, List.mem_cons, List.not_mem_nil, or_false] at hr
      rcases hr with hr | rfl | rfl
      · obtain ⟨x, hx, rfl⟩ := List.mem_map.1 hr
        exact ⟨x.1, List.mem_append_left _ (List.mem_filter.1 hx).1⟩
      · exact ⟨d, List.mem_append_left _ hmem⟩
      · exact ⟨.host, by simp⟩
    obtain ⟨n, hx⟩ := hx
    have hn : n ∈ plannedNodes env order t host ++ [Node.host] := (List.of_mem_zip hx).1
    have hr' : r < (requested env t host endpoints
        (plannedNodes env order t host ++ [.host])).2.size :=
      Heap.mem_run_lt (mapsInto_currentEndpoints endpoints).lt _ _ le_rfl (List.of_mem_zip hx).2
    have hsettled : ∃ m ∈ treeNodes env t host, Realizes env t host m
        ((requested env t host endpoints (plannedNodes env order t host ++ [.host])).2.read r) := by
      rw [read_requested hx]
      rcases @settledEndpoint_cases env t host endpoints _ n hn with h | ⟨m, hm, -, -, e, h⟩
      · exact ⟨n, mem_treeNodes_of_mem_plannedNodes hn, h ▸ realizes_fresh n⟩
      · exact ⟨m, mem_treeNodes_of_mem_plannedNodes hm, h ▸ realizes_assign m e⟩
    obtain ⟨m, hm, hreal⟩ := hsettled
    refine ⟨m, hm, ?_⟩
    by_cases hpr : p = r
    · subst hpr
      rw [Heap.read_modify_self _ _ hr']
      exact ⟨hreal.dnsName, hreal.targets, hreal.recordType⟩
    · rw [Heap.read_modify_of_ne _ _ hpr]
      exact hreal

end

end MultiClusterGateway
