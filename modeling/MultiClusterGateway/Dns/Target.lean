import MultiClusterGateway.Api.DNSPolicy
import MultiClusterGateway.Lib.Text
import MultiClusterGateway.Lib.Order

set_option autoImplicit false

/-! # Gateway targets (`pkg/dns/target.go`)

A Gateway placed on several clusters, with the geo code and weight of each cluster computed from
the load balancing spec and the cluster's labels. `Env` collects what the program takes from
outside its sources: the hash behind the short codes, the Unicode tables, the order in which
`sort.Slice` leaves equal keys, and how a target is printed.

The geo code of a cluster is that of its label, or the default of the policy; a default that is the
internal code `default` overrides every label. Its weight is that of the first custom weight whose
selector matches. The targets are grouped by their geo codes in a map. `GroupsOf` says what the
groups are, and that every target is in exactly one of them, in terms that do not depend on how the
map was filled; the order in which its entries are visited is left to `MapOrder`. -/

namespace MultiClusterGateway

/-- `DefaultWeight`, of clusters for which the policy gives none. -/
def defaultWeight : Int := 120
/-- The label of a cluster that gives its geo code. -/
def labelLBAttributeGeoCode : String := "kuadrant.io/lb-attribute-geo-code"

/-- `GeoCode`. -/
abbrev GeoCode := String

namespace GeoCode

/-- The geo code when the policy has no geo section. -/
def defaultGeo : GeoCode := "default"
/-- The geo code of the endpoint that answers everybody else. -/
def wildcardGeo : GeoCode := "*"

/-- `IsDefaultCode`. -/
def isDefaultCode (gc : GeoCode) : Bool := gc == defaultGeo
/-- `IsWildcard`. -/
def isWildcard (gc : GeoCode) : Bool := gc == wildcardGeo

end GeoCode

/-- The cluster object a target refers to (a `ManagedCluster`). -/
structure Cluster where
  name : String
  labels : Labels := []
deriving DecidableEq, Repr

/-- The addresses of a Gateway on a single cluster. -/
structure ClusterGateway where
  cluster : Cluster
  gatewayAddresses : List GatewayAddress
deriving DecidableEq, Repr

/-- A cluster Gateway with geo and weighting info calculated. -/
structure ClusterGatewayTarget extends ClusterGateway where
  geo : GeoCode
  weight : Int
deriving DecidableEq, Repr

/-- `MultiClusterGatewayTarget`: a Gateway with the clusters it is on. -/
structure MultiClusterGatewayTarget where
  gateway : Gateway
  clusterGatewayTargets : List ClusterGatewayTarget
  loadBalancing : Option LoadBalancingSpec

/-- The surroundings of the program. -/
structure Env where
  /-- `ToBase36hash`: six base-36 digits, in lower case, of a SHA-224 digest. -/
  toBase36hash : String → String
  hash_alnum : ∀ s, ∀ c ∈ (toBase36hash s).toList, c.isDigit = true ∨ c.isLower = true
  fold : Text.CaseFold
  sorter : SliceSorter
  /-- the verb `%v` of `fmt` for a target, with the pointers in it -/
  formatTarget : MultiClusterGatewayTarget → String

/-- An environment with the short codes of a few names, as the tests of the program have them. -/
def Env.sample : Env where
  toBase36hash s :=
    if s = "testgw-testns" then "0ecjaw"
    else if s = "test-cluster-1" then "20qri0"
    else if s = "test-cluster-2" then "2pj3we"
    else "000000"
  hash_alnum s := by
    have hall : ∀ code : String, code.toList.all (fun c => c.isDigit || c.isLower) = true →
        ∀ c ∈ code.toList, c.isDigit = true ∨ c.isLower = true := by
      intro code h c hc
      simpa using List.all_eq_true.1 h c hc
    split_ifs <;> exact hall _ (by decide)
  fold := Text.CaseFold.ascii
  sorter := SliceSorter.insertion
  formatTarget t := t.gateway.name

/-! ## One cluster -/

namespace ClusterGatewayTarget

/-- `GetName`: the name of the cluster. -/
def getName (t : ClusterGatewayTarget) : String := t.cluster.name

/-- `GetShortCode`: a hash of the name. -/
def getShortCode (env : Env) (t : ClusterGatewayTarget) : String := env.toBase36hash t.getName

/-- `setGeo`: the internal code `default` overrides every label. -/
def setGeo (defaultGeo : GeoCode) (cluster : Cluster) : GeoCode :=
  if defaultGeo = GeoCode.defaultGeo then defaultGeo
  else (cluster.labels.get? labelLBAttributeGeoCode).getD defaultGeo

/-- `setWeight`: the first custom weight whose selector matches; a malformed selector before it
    is an error. -/
def setWeight (defaultWeight : Int) (labels : Labels) :
    List CustomWeight → Except String Int
  | [] => .ok defaultWeight
  | cw :: rest =>
    match cw.selector with
    | none => .error "invalid label selector"
    | some matchesLabels =>
      if matchesLabels labels then .ok cw.weight else setWeight defaultWeight labels rest

/-- `NewClusterGatewayTarget`. -/
def new (cg : ClusterGateway) (defaultGeoCode : GeoCode) (defaultWeight : Int)
    (customWeights : List CustomWeight) : Except String ClusterGatewayTarget := do
  let weight ← setWeight defaultWeight cg.cluster.labels customWeights
  return { cg with geo := setGeo defaultGeoCode cg.cluster, weight := weight }

/-- The values of the IP addresses: `ipValues` in `setEndpoints`. -/
def ipValues (t : ClusterGatewayTarget) : List String :=
  (t.gatewayAddresses.filter (fun a => a.type == .ipAddress)).map (·.value)

/-- The values of all other addresses: `hostValues` in `setEndpoints`. -/
def hostValues (t : ClusterGatewayTarget) : List String :=
  (t.gatewayAddresses.filter (fun a => a.type != .ipAddress)).map (·.value)

theorem ipValues_nil_and_hostValues_nil {t : ClusterGatewayTarget} :
    t.ipValues = [] ∧ t.hostValues = [] ↔ t.gatewayAddresses = [] := by
  constructor
  · rintro ⟨hip, hhost⟩
    rw [List.eq_nil_iff_forall_not_mem]
    intro a ha
    by_cases htype : a.type = .ipAddress
    · have : a.value ∈ t.ipValues := by
        simp only [ipValues, List.mem_map, List.mem_filter]
        exact ⟨a, ⟨ha, by simp [htype]⟩, rfl⟩
      simp [hip] at this
    · have : a.value ∈ t.hostValues := by
        simp only [hostValues, List.mem_map, List.mem_filter]
        exact ⟨a, ⟨ha, by simp [htype]⟩, rfl⟩
      simp [hhost] at this
  · intro h
    simp [ipValues, hostValues, h]

end ClusterGatewayTarget

/-! ## All clusters -/

namespace MultiClusterGatewayTarget

/-- `GetName`: the name and the namespace of the Gateway. -/
def getName (t : MultiClusterGatewayTarget) : String := t.gateway.name ++ "-" ++ t.gateway.ns

/-- `GetShortCode`: a hash of that name. -/
def getShortCode (env : Env) (t : MultiClusterGatewayTarget) : String := env.toBase36hash t.getName

/-- Append a target to the group of its geo code, or open that group. -/
def addToGroup (target : ClusterGatewayTarget) :
    List (GeoCode × List ClusterGatewayTarget) → List (GeoCode × List ClusterGatewayTarget)
  | [] => [(target.geo, [target])]
  | (geo, group) :: rest =>
    if geo = target.geo then (geo, group ++ [target]) :: rest
    else (geo, group) :: addToGroup target rest

/-- `GroupTargetsByGeo`: the entries of the map, in order of insertion. -/
def groupTargetsByGeo (t : MultiClusterGatewayTarget) :
    List (GeoCode × List ClusterGatewayTarget) :=
  t.clusterGatewayTargets.foldl (fun groups target => addToGroup target groups) []

/-- What the groups of a list of targets are: every group is the sublist of one geo code, every
    geo code that occurs has one group. -/
structure GroupsOf (targets : List ClusterGatewayTarget)
    (groups : List (GeoCode × List ClusterGatewayTarget)) : Prop where
  nodup : (groups.map Prod.fst).Nodup
  group_eq : ∀ group ∈ groups, group.2 = targets.filter (fun c => c.geo = group.1)
  mem_iff : ∀ geo, geo ∈ groups.map Prod.fst ↔ ∃ c ∈ targets, c.geo = geo

theorem map_fst_addToGroup (target : ClusterGatewayTarget)
    (groups : List (GeoCode × List ClusterGatewayTarget)) :
    (addToGroup target groups).map Prod.fst
      = if target.geo ∈ groups.map Prod.fst then groups.map Prod.fst
        else groups.map Prod.fst ++ [target.geo] := by
  fun_induction addToGroup target groups with
  | case1 => rfl
  | case2 group rest => simp
  | case3 geo group rest hne ih =>
      have hne' : ¬ target.geo = geo := fun h => hne h.symm
      simp only [List.map_cons, ih, List.mem_cons, hne', false_or]
      split <;> rfl

theorem mem_addToGroup {target : ClusterGatewayTarget}
    {groups : List (GeoCode × List ClusterGatewayTarget)}
    (hnodup : (groups.map Prod.fst).Nodup) {group : GeoCode × List ClusterGatewayTarget}
    (h : group ∈ addToGroup target groups) :
    (group ∈ groups ∧ group.1 ≠ target.geo) ∨
      (∃ old, (target.geo, old) ∈ groups ∧ group = (target.geo, old ++ [target])) ∨
      (target.geo ∉ groups.map Prod.fst ∧ group = (target.geo, [target])) := by
  fun_induction addToGroup target groups with
  | case1 => exact Or.inr (Or.inr ⟨by simp, by simpa using h⟩)
  | case2 old rest =>
      rw [List.map_cons, List.nodup_cons] at hnodup
      rcases List.mem_cons.1 h with rfl | h
      · exact Or.inr (Or.inl ⟨old, List.mem_cons_self, rfl⟩)
      · refine Or.inl ⟨List.mem_cons_of_mem _ h, fun heq => hnodup.1 ?_⟩
        exact List.mem_map.2 ⟨group, h, heq⟩
  | case3 geo old rest hne ih =>
      rw [List.map_cons, List.nodup_cons] at hnodup
      rcases List.mem_cons.1 h with rfl | h
      · exact Or.inl ⟨List.mem_cons_self, hne⟩
      · rcases ih hnodup.2 h with ⟨hmem, hgeo⟩ | ⟨old', hmem, rfl⟩ | ⟨hnot, rfl⟩
        · exact Or.inl ⟨List.mem_cons_of_mem _ hmem, hgeo⟩
        · exact Or.inr (Or.inl ⟨old', List.mem_cons_of_mem _ hmem, rfl⟩)
        · refine Or.inr (Or.inr ⟨?_, rfl⟩)
          rw [List.map_cons, List.mem_cons]
          rintro (heq | hmem)
          · exact hne heq.symm
          · exact hnot hmem

/-- Adding one more target keeps the groups what they are. -/
theorem GroupsOf.addToGroup {targets : List ClusterGatewayTarget}
    {groups : List (GeoCode × List ClusterGatewayTarget)} (h : GroupsOf targets groups)
    (target : ClusterGatewayTarget) :
    GroupsOf (targets ++ [target]) (addToGroup target groups) where
  nodup := by
    rw [map_fst_addToGroup]
    split
    · exact h.nodup
    · rename_i hnot
      exact List.nodup_append.2 ⟨h.nodup, List.nodup_singleton _, fun a ha b hb heq =>
        hnot (List.mem_singleton.1 hb ▸ heq ▸ ha)⟩
  group_eq := by
    intro group hgroup
    rw [List.filter_append]
    rcases mem_addToGroup h.nodup hgroup with ⟨hmem, hne⟩ | ⟨old, hmem, rfl⟩ | ⟨hnot, rfl⟩
    · have hne' : ¬ target.geo = group.1 := fun heq => hne heq.symm
      simp [hne', h.group_eq group hmem]
    · have hold := h.group_eq _ hmem
      simp only at hold
      simp [hold]
    · -- the code is new, so no earlier target has it
      have hnone : targets.filter (fun c => decide (c.geo = target.geo)) = [] := by
        rw [List.filter_eq_nil_iff]
        intro c hc heq
        exact hnot ((h.mem_iff _).2 ⟨c, hc, of_decide_eq_true heq⟩)
      simp [hnone]
  mem_iff := by
    intro geo
    rw [map_fst_addToGroup]
    have hmem := h.mem_iff geo
    split
    · rename_i hin
      rw [hmem]
      constructor
      · rintro ⟨c, hc, heq⟩
        exact ⟨c, List.mem_append_left _ hc, heq⟩
      · rintro ⟨c, hc, heq⟩
        rcases List.mem_append.1 hc with hc | hc
        · exact ⟨c, hc, heq⟩
        · rw [List.mem_singleton.1 hc] at heq
          exact hmem.1 (heq ▸ hin)
    · rw [List.mem_append, hmem, List.mem_singleton]
      constructor
      · rintro (⟨c, hc, heq⟩ | rfl)
        · exact ⟨c, List.mem_append_left _ hc, heq⟩
        · exact ⟨target, by simp, rfl⟩
      · rintro ⟨c, hc, heq⟩
        rcases List.mem_append.1 hc with hc | hc
        · exact Or.inl ⟨c, hc, heq⟩
        · rw [List.mem_singleton.1 hc] at heq
          exact Or.inr heq.symm

theorem groupsOf_foldl {targets : List ClusterGatewayTarget}
    {groups : List (GeoCode × List ClusterGatewayTarget)} (h : GroupsOf targets groups)
    (rest : List ClusterGatewayTarget) :
    GroupsOf (targets ++ rest)
      (rest.foldl (fun groups target => MultiClusterGatewayTarget.addToGroup target groups)
        groups) := by
  induction rest generalizing targets groups with
  | nil => simpa using h
  | cons c rest ih => simpa using ih (h.addToGroup c)

theorem groupsOf_groupTargetsByGeo (t : MultiClusterGatewayTarget) :
    GroupsOf t.clusterGatewayTargets t.groupTargetsByGeo := by
  have hnil : GroupsOf [] [] := ⟨by simp, by simp, by simp⟩
  exact groupsOf_foldl hnil t.clusterGatewayTargets

theorem flatMap_addToGroup_perm (target : ClusterGatewayTarget)
    (groups : List (GeoCode × List ClusterGatewayTarget)) :
    ((addToGroup target groups).flatMap Prod.snd).Perm (groups.flatMap Prod.snd ++ [target]) := by
  fun_induction addToGroup target groups with
  | case1 => simp
  | case2 group rest =>
      simp only [List.flatMap_cons, List.append_assoc]
      exact List.Perm.append_left _ List.perm_append_comm
  | case3 geo group rest _ ih =>
      simp only [List.flatMap_cons, List.append_assoc]
      exact List.Perm.append_left _ ih

theorem flatMap_foldl_addToGroup_perm (targets : List ClusterGatewayTarget)
    (groups : List (GeoCode × List ClusterGatewayTarget)) :
    ((targets.foldl (fun groups target => addToGroup target groups) groups).flatMap
      Prod.snd).Perm (groups.flatMap Prod.snd ++ targets) := by
  induction targets generalizing groups with
  | nil => simp
  | cons c rest ih =>
      refine (ih _).trans ?_
      have happ := (flatMap_addToGroup_perm c groups).append_right rest
      rwa [List.append_assoc] at happ

/-- The groups hold every target exactly once. -/
theorem flatMap_groupTargetsByGeo_perm (t : MultiClusterGatewayTarget) :
    (t.groupTargetsByGeo.flatMap Prod.snd).Perm t.clusterGatewayTargets :=
  flatMap_foldl_addToGroup_perm t.clusterGatewayTargets []

/-- `GetDefaultGeo`. -/
def getDefaultGeo (t : MultiClusterGatewayTarget) : GeoCode :=
  match t.loadBalancing.bind (·.geo) with
  | some geo => geo.defaultGeo
  | none => GeoCode.defaultGeo

/-- `GetDefaultWeight`. -/
def getDefaultWeight (t : MultiClusterGatewayTarget) : Int :=
  match t.loadBalancing.bind (·.weighted) with
  | some weighted => weighted.defaultWeight
  | none => defaultWeight

/-- The custom weights of the policy. -/
def customWeights (t : MultiClusterGatewayTarget) : List CustomWeight :=
  match t.loadBalancing.bind (·.weighted) with
  | some weighted => weighted.custom
  | none => []

/-- `setClusterGatewayTargets`. -/
def setClusterGatewayTargets (t : MultiClusterGatewayTarget) (clusterGateways : List ClusterGateway) :
    Except String MultiClusterGatewayTarget := do
  let cgTargets ← clusterGateways.mapM
    (fun cg => ClusterGatewayTarget.new cg t.getDefaultGeo t.getDefaultWeight t.customWeights)
  return { t with clusterGatewayTargets := cgTargets }

/-- `NewMultiClusterGatewayTarget`. -/
def new (gateway : Gateway) (clusterGateways : List ClusterGateway)
    (loadBalancing : Option LoadBalancingSpec) : Except String MultiClusterGatewayTarget :=
  setClusterGatewayTargets ⟨gateway, [], loadBalancing⟩ clusterGateways

end MultiClusterGatewayTarget

end MultiClusterGateway
