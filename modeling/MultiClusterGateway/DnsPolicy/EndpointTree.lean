import MultiClusterGateway.DnsPolicy.SetEndpoints

set_option autoImplicit false

/-! # The endpoint tree

What `setEndpoints` builds, said without pointers: a list of `Node`s, each with the name, set
identifier, targets and properties of its endpoint. `plan` lists the nodes in the order in which
the loops of the source create them, `treeNodes` all that can occur for a target. The geo loop is a
run of the planned nodes' requests over the heap of existing endpoints (`geoLoop_eq`).

An endpoint is requested with its id, and an existing endpoint of that id is overwritten in place,
so that the pointers of two nodes may be the same. The requests of the general library,
`Heap.Request`, have just this form, and the loops of the source are shown to be one run of them
(`geoStep_eq`, `geoLoop_eq`). Everything about names, targets and properties is afterwards said of
nodes, without a look at the loops. -/

namespace MultiClusterGateway

open Heap (Ptr)

/-! ## Nodes -/

/-- A record of the tree: the A record of a cluster, a weighted CNAME of a cluster, the CNAME of a
    geo group, the catch-all CNAME to a geo group, the CNAME of the listener's host. -/
inductive Node where
  | address (c : ClusterGatewayTarget)
  | weighted (c : ClusterGatewayTarget) (hostValue : String)
  | geo (code : GeoCode)
  | default (code : GeoCode)
  | host
deriving DecidableEq

namespace Node

/-- The node is the catch-all. -/
def isDefault : Node → Bool
  | .default _ => true
  | _ => false

section
variable (env : Env) (t : MultiClusterGatewayTarget) (host : String)

/-- The name of the record. -/
def dnsName : Node → String
  | .address c => clusterLbName env (lbName env t host) c
  | .weighted c _ => geoLbName env (lbName env t host) c.geo
  | .geo _ => lbName env t host
  | .default _ => lbName env t host
  | .host => host

/-- What it is told apart by from others of the name. -/
def setIdentifier : Node → String
  | .address _ => ""
  | .weighted _ hostValue => hostValue
  | .geo code => code
  | .default _ => "default"
  | .host => ""

/-- What it resolves to. -/
def targets : Node → List String
  | .address c => c.ipValues
  | .weighted _ hostValue => [hostValue]
  | .geo code => [geoLbName env (lbName env t host) code]
  | .default code => [geoLbName env (lbName env t host) code]
  | .host => [lbName env t host]

/-- Clusters have A records, all others are CNAMEs. -/
def recordType : Node → DNSRecordType
  | .address _ => .A
  | _ => .CNAME

/-- The records of a cluster have the shorter TTL. -/
def recordTTL : Node → Int
  | .address _ => defaultTTL
  | .weighted _ _ => defaultTTL
  | _ => defaultCnameTTL

/-- The property set right after the endpoint is created. The catch-all gets its geo code only
    once the loop is over. -/
def setProperty : Node → Endpoint → Endpoint
  | .weighted c _ => Endpoint.setProviderSpecific providerSpecificWeight (toString c.weight)
  | .geo code => Endpoint.setProviderSpecific providerSpecificGeoCode code
  | _ => id

/-- `SetID` of its endpoint, by which an existing one is found. -/
def setID (n : Node) : String := n.dnsName env t host ++ n.setIdentifier

/-- What the node makes of an existing endpoint. -/
def assign (n : Node) (e : Endpoint) : Endpoint :=
  n.setProperty
    { e with dnsName := n.dnsName env t host, recordType := n.recordType,
             targets := n.targets env t host, recordTTL := n.recordTTL }

/-- The node's endpoint when none exists. -/
def fresh (n : Node) : Endpoint :=
  n.setProperty
    { dnsName := n.dnsName env t host, targets := n.targets env t host,
      recordType := n.recordType, setIdentifier := n.setIdentifier, recordTTL := n.recordTTL,
      providerSpecific := [] }

/-- The `createOrUpdateEndpoint` of the node, with the property that is set right after it. -/
def request (n : Node) : Heap.Request Endpoint where
  key := n.setID env t host
  assign := n.assign env t host
  fresh := n.fresh env t host

end

theorem setProperty_dnsName (n : Node) (e : Endpoint) : (n.setProperty e).dnsName = e.dnsName := by
  cases n <;> rfl

theorem setProperty_targets (n : Node) (e : Endpoint) : (n.setProperty e).targets = e.targets := by
  cases n <;> rfl

theorem setProperty_recordType (n : Node) (e : Endpoint) :
    (n.setProperty e).recordType = e.recordType := by
  cases n <;> rfl

theorem setProperty_setIdentifier (n : Node) (e : Endpoint) :
    (n.setProperty e).setIdentifier = e.setIdentifier := by
  cases n <;> rfl

section
variable (env : Env) (t : MultiClusterGatewayTarget) (host : String) (n : Node) (e : Endpoint)

@[simp] theorem assign_dnsName : (n.assign env t host e).dnsName = n.dnsName env t host :=
  n.setProperty_dnsName _

@[simp] theorem assign_targets : (n.assign env t host e).targets = n.targets env t host :=
  n.setProperty_targets _

@[simp] theorem assign_recordType : (n.assign env t host e).recordType = n.recordType :=
  n.setProperty_recordType _

@[simp] theorem assign_setIdentifier :
    (n.assign env t host e).setIdentifier = e.setIdentifier :=
  n.setProperty_setIdentifier _

@[simp] theorem fresh_dnsName : (n.fresh env t host).dnsName = n.dnsName env t host :=
  n.setProperty_dnsName _

@[simp] theorem fresh_targets : (n.fresh env t host).targets = n.targets env t host :=
  n.setProperty_targets _

@[simp] theorem fresh_recordType : (n.fresh env t host).recordType = n.recordType :=
  n.setProperty_recordType _

@[simp] theorem fresh_setIdentifier : (n.fresh env t host).setIdentifier = n.setIdentifier :=
  n.setProperty_setIdentifier _

end

end Node

/-! ## The nodes of a target -/

section
variable (env : Env) (t : MultiClusterGatewayTarget) (host : String)

/-- The nodes of one cluster. -/
def clusterNodes (c : ClusterGatewayTarget) : List Node :=
  if c.ipValues = [] then c.hostValues.map (Node.weighted c)
  else .address c ::
    (c.hostValues ++ [clusterLbName env (lbName env t host) c]).map (Node.weighted c)

/-- The nodes that one round of the geo loop creates. -/
def geoNodes (hasDefault : Bool) (group : GeoCode × List ClusterGatewayTarget) : List Node :=
  let clusters := group.2.flatMap (clusterNodes env t host)
  if clusters = [] then []
  else if GeoCode.isDefaultCode group.1 then clusters ++ [.default group.1]
  else if group.1 = t.getDefaultGeo ∨ hasDefault = false then
    clusters ++ [.geo group.1, .default group.1]
  else clusters ++ [.geo group.1]

/-- The nodes the geo loop creates, in order. -/
def plan (hasDefault : Bool) : List (GeoCode × List ClusterGatewayTarget) → List Node
  | [] => []
  | group :: rest =>
    geoNodes env t host hasDefault group ++
      plan (hasDefault || (geoNodes env t host hasDefault group).any Node.isDefault) rest

/-- The clusters that have an address. -/
def addressed : List ClusterGatewayTarget :=
  t.clusterGatewayTargets.filter (fun c => c.gatewayAddresses ≠ [])

/-- Every node that can occur for the target, whatever the iteration order. -/
def treeNodes : List Node :=
  (addressed t).flatMap (fun c =>
    clusterNodes env t host c ++
      (if GeoCode.isDefaultCode c.geo then [.default c.geo] else [.geo c.geo, .default c.geo]))
    ++ [.host]

end

theorem mem_addressed {t : MultiClusterGatewayTarget} {c : ClusterGatewayTarget} :
    c ∈ addressed t ↔ c ∈ t.clusterGatewayTargets ∧ c.gatewayAddresses ≠ [] := by
  simp [addressed]

section
variable {env : Env} {t : MultiClusterGatewayTarget} {host : String}

theorem clusterNodes_eq_nil {c : ClusterGatewayTarget} :
    clusterNodes env t host c = [] ↔ c.gatewayAddresses = [] := by
  rw [← ClusterGatewayTarget.ipValues_nil_and_hostValues_nil]
  unfold clusterNodes
  by_cases hip : c.ipValues = []
  · simp [hip]
  · simp [hip]

theorem mem_clusterNodes {c : ClusterGatewayTarget} {n : Node} :
    n ∈ clusterNodes env t host c ↔
      (n = .address c ∧ c.ipValues ≠ []) ∨
      (∃ h ∈ c.hostValues, n = .weighted c h) ∨
      (n = .weighted c (clusterLbName env (lbName env t host) c) ∧ c.ipValues ≠ []) := by
  unfold clusterNodes
  by_cases hip : c.ipValues = []
  · simp [hip, eq_comm]
  · simp only [hip, if_false, List.mem_cons, List.mem_map, List.mem_append, List.not_mem_nil,
      or_false, ne_eq, not_false_eq_true, and_true]
    constructor
    · rintro (h | ⟨h, hh | rfl, rfl⟩)
      · exact Or.inl h
      · exact Or.inr (Or.inl ⟨h, hh, rfl⟩)
      · exact Or.inr (Or.inr rfl)
    · rintro (h | ⟨h, hh, rfl⟩ | rfl)
      · exact Or.inl h
      · exact Or.inr ⟨h, Or.inl hh, rfl⟩
      · exact Or.inr ⟨_, Or.inr rfl, rfl⟩

theorem isDefault_of_mem_clusterNodes {c : ClusterGatewayTarget} {n : Node}
    (h : n ∈ clusterNodes env t host c) : n.isDefault = false := by
  rcases mem_clusterNodes.1 h with ⟨rfl, -⟩ | ⟨_, -, rfl⟩ | ⟨rfl, -⟩ <;> rfl

theorem mem_treeNodes {n : Node} :
    n ∈ treeNodes env t host ↔
      (∃ c ∈ addressed t, n ∈ clusterNodes env t host c ∨
        (n = .geo c.geo ∧ c.geo ≠ GeoCode.defaultGeo) ∨ n = .default c.geo) ∨
      n = .host := by
  simp only [treeNodes, List.mem_append, List.mem_flatMap, List.mem_singleton]
  refine or_congr (exists_congr fun c => and_congr_right fun _ => or_congr_right ?_) Iff.rfl
  by_cases hc : c.geo = GeoCode.defaultGeo
  · simp [GeoCode.isDefaultCode, hc]
  · simp [GeoCode.isDefaultCode, hc]

end

/-! ## The build as a run of requests -/

/-- Of the pointers of a list of nodes, those that are appended to `newEndpoints`. -/
def publishedPtrs (nodes : List Node) (ptrs : List Ptr) : List Ptr :=
  ((nodes.zip ptrs).filter (fun x => !x.1.isDefault)).map (·.2)

/-- Of the pointers of a list of nodes, the last that is remembered as the default endpoint. -/
def defaultPtr (nodes : List Node) (ptrs : List Ptr) : Option Ptr :=
  (((nodes.zip ptrs).filter (fun x => x.1.isDefault)).map (·.2)).getLast?

theorem publishedPtrs_append {nodes nodes' : List Node} {ptrs ptrs' : List Ptr}
    (h : nodes.length = ptrs.length) :
    publishedPtrs (nodes ++ nodes') (ptrs ++ ptrs')
      = publishedPtrs nodes ptrs ++ publishedPtrs nodes' ptrs' := by
  simp [publishedPtrs, List.zip_append h]

theorem defaultPtr_append {nodes nodes' : List Node} {ptrs ptrs' : List Ptr}
    (h : nodes.length = ptrs.length) :
    defaultPtr (nodes ++ nodes') (ptrs ++ ptrs')
      = (defaultPtr nodes' ptrs').or (defaultPtr nodes ptrs) := by
  simp [defaultPtr, List.zip_append h, List.getLast?_append]

theorem publishedPtrs_eq_self {nodes : List Node} {ptrs : List Ptr}
    (hlen : nodes.length = ptrs.length) (h : ∀ n ∈ nodes, n.isDefault = false) :
    publishedPtrs nodes ptrs = ptrs := by
  have hfilter : (nodes.zip ptrs).filter (fun x => !x.1.isDefault) = nodes.zip ptrs := by
    rw [List.filter_eq_self]
    intro x hx
    simp [h x.1 (List.of_mem_zip hx).1]
  unfold publishedPtrs
  rw [hfilter]
  exact List.map_snd_zip (le_of_eq hlen.symm)

theorem defaultPtr_eq_none {nodes : List Node} {ptrs : List Ptr}
    (h : ∀ n ∈ nodes, n.isDefault = false) : defaultPtr nodes ptrs = none := by
  have hfilter : (nodes.zip ptrs).filter (fun x => x.1.isDefault) = [] := by
    rw [List.filter_eq_nil_iff]
    intro x hx
    simp [h x.1 (List.of_mem_zip hx).1]
  simp [defaultPtr, hfilter]

section
variable (env : Env) (t : MultiClusterGatewayTarget) (host : String)
  (current : String → Option Ptr)

/-- Run the requests of a list of nodes. -/
def runNodes (nodes : List Node) (heap : Heap Endpoint) : List Ptr × Heap Endpoint :=
  Heap.run current (nodes.map (Node.request env t host)) heap

/-- The state of the build after creating the nodes. -/
def buildNodes (nodes : List Node) (s : BuildState) : BuildState where
  heap := (runNodes env t host current nodes s.heap).2
  newEndpoints :=
    s.newEndpoints ++ publishedPtrs nodes (runNodes env t host current nodes s.heap).1
  defaultEndpoint :=
    (defaultPtr nodes (runNodes env t host current nodes s.heap).1).or s.defaultEndpoint

end

section
variable {env : Env} {t : MultiClusterGatewayTarget} {host : String}
  {current : String → Option Ptr}

theorem length_runNodes (nodes : List Node) (heap : Heap Endpoint) :
    nodes.length = (runNodes env t host current nodes heap).1.length := by
  simp [runNodes, Heap.length_run]

theorem runNodes_append (nodes nodes' : List Node) (heap : Heap Endpoint) :
    runNodes env t host current (nodes ++ nodes') heap
      = ((runNodes env t host current nodes heap).1 ++
          (runNodes env t host current nodes' (runNodes env t host current nodes heap).2).1,
         (runNodes env t host current nodes' (runNodes env t host current nodes heap).2).2) := by
  simp only [runNodes, List.map_append, Heap.run_append]

theorem buildNodes_append (nodes nodes' : List Node) (s : BuildState) :
    buildNodes env t host current (nodes ++ nodes') s
      = buildNodes env t host current nodes' (buildNodes env t host current nodes s) := by
  have hlen : nodes.length = (runNodes env t host current nodes s.heap).1.length :=
    length_runNodes nodes s.heap
  simp only [buildNodes, runNodes_append, publishedPtrs_append hlen, defaultPtr_append hlen,
    List.append_assoc, Option.or_assoc]

/-- Creating an endpoint and then setting its property is the node's request. -/
theorem createOrUpdateEndpoint_setProperty (n : Node) (heap : Heap Endpoint) :
    (let (p, heap') := createOrUpdateEndpoint (n.dnsName env t host) (n.targets env t host)
      n.recordType n.setIdentifier n.recordTTL current heap
     (p, heap'.modify p n.setProperty)) = Heap.request current heap (n.request env t host) := by
  unfold createOrUpdateEndpoint Heap.request
  have hkey : (n.request env t host).key = n.dnsName env t host ++ n.setIdentifier := rfl
  rw [hkey]
  cases current (n.dnsName env t host ++ n.setIdentifier) with
  | some p =>
      simp only [Heap.modify_modify]
      rfl
  | none =>
      simp only
      rw [Heap.alloc_fst, Heap.modify_alloc_self]
      rfl

/-- For a node without a property of its own there is nothing to set. -/
theorem createOrUpdateEndpoint_eq_request {n : Node} (hn : n.setProperty = id)
    (heap : Heap Endpoint) :
    createOrUpdateEndpoint (n.dnsName env t host) (n.targets env t host) n.recordType
      n.setIdentifier n.recordTTL current heap
    = Heap.request current heap (n.request env t host) := by
  unfold createOrUpdateEndpoint Heap.request
  have hkey : (n.request env t host).key = n.dnsName env t host ++ n.setIdentifier := rfl
  rw [hkey]
  cases current (n.dnsName env t host ++ n.setIdentifier) with
  | some p =>
      simp only [Node.request]
      congr 2
      funext e
      simp [Node.assign, hn]
  | none => simp [Node.request, Node.fresh, hn]

theorem hostStep_foldl (c : ClusterGatewayTarget) (hostValues : List String)
    (s : Heap Endpoint × List Ptr) :
    hostValues.foldl (hostStep current (geoLbName env (lbName env t host) c.geo) c.weight) s
      = ((runNodes env t host current (hostValues.map (Node.weighted c)) s.1).2,
          s.2 ++ (runNodes env t host current (hostValues.map (Node.weighted c)) s.1).1) := by
  induction hostValues generalizing s with
  | nil => simp [runNodes, Heap.run]
  | cons h rest ih =>
      have hstep : hostStep current (geoLbName env (lbName env t host) c.geo) c.weight s h
          = ((Heap.request current s.1 ((Node.weighted c h).request env t host)).2,
              s.2 ++ [(Heap.request current s.1 ((Node.weighted c h).request env t host)).1]) := by
        have := @createOrUpdateEndpoint_setProperty env t host current (.weighted c h) s.1
        simp only [← this]
        rfl
      rw [List.foldl_cons, hstep, ih]
      simp [runNodes, Heap.run]

theorem clusterStep_eq (c : ClusterGatewayTarget) (s : Heap Endpoint × List Ptr) :
    clusterStep env current (lbName env t host) (geoLbName env (lbName env t host) c.geo) s c
      = ((runNodes env t host current (clusterNodes env t host c) s.1).2,
          s.2 ++ (runNodes env t host current (clusterNodes env t host c) s.1).1) := by
  unfold clusterStep clusterNodes
  by_cases hip : c.ipValues = []
  · simp only [if_pos hip]
    exact hostStep_foldl c c.hostValues s
  · simp only [if_neg hip]
    have hreq := @createOrUpdateEndpoint_eq_request env t host current (.address c) rfl s.1
    have : createOrUpdateEndpoint (clusterLbName env (lbName env t host) c) c.ipValues .A ""
        defaultTTL current s.1 = Heap.request current s.1 ((Node.address c).request env t host) :=
      hreq
    rw [this, hostStep_foldl]
    simp [runNodes, Heap.run]

theorem clusterStep_foldl {code : GeoCode} {group : List ClusterGatewayTarget}
    (hgroup : ∀ c ∈ group, c.geo = code) (s : Heap Endpoint × List Ptr) :
    group.foldl (clusterStep env current (lbName env t host)
        (geoLbName env (lbName env t host) code)) s
      = ((runNodes env t host current (group.flatMap (clusterNodes env t host)) s.1).2,
          s.2 ++ (runNodes env t host current (group.flatMap (clusterNodes env t host)) s.1).1) := by
  induction group generalizing s with
  | nil => simp [runNodes, Heap.run]
  | cons c rest ih =>
      have hc : c.geo = code := hgroup c List.mem_cons_self
      have hstep := @clusterStep_eq env t host current c s
      rw [hc] at hstep
      rw [List.foldl_cons, hstep, ih (fun c' hc' => hgroup c' (List.mem_cons_of_mem _ hc'))]
      simp only [List.flatMap_cons, runNodes_append, List.append_assoc]

/-- What the build needs of the map of existing endpoints: its pointers are cells of the record,
    and different ids give different ones. -/
structure MapsInto (current : String → Option Ptr) (n : Nat) : Prop where
  lt : ∀ k p, current k = some p → p < n
  inj : ∀ k k' p, current k = some p → current k' = some p → k = k'

/-- Setting the geo code of a group's CNAME after the catch-all was created, as the source does,
    or before is the same. -/
theorem request_default_modify_geo {n : Nat} (hcur : MapsInto current n) {code : GeoCode}
    (hcode : code ≠ GeoCode.defaultGeo) (heap : Heap Endpoint) (hn : n ≤ heap.size) :
    (let (p, heap₁) := createOrUpdateEndpoint (lbName env t host)
        [geoLbName env (lbName env t host) code] .CNAME code defaultCnameTTL current heap
     let (d, heap₂) := createOrUpdateEndpoint (lbName env t host)
        [geoLbName env (lbName env t host) code] .CNAME "default" defaultCnameTTL current heap₁
     ((p, d), heap₂.modify p (Endpoint.setProviderSpecific providerSpecificGeoCode code)))
    = (((Heap.request current heap ((Node.geo code).request env t host)).1,
        (Heap.request current (Heap.request current heap ((Node.geo code).request env t host)).2
          ((Node.default code).request env t host)).1),
       (Heap.request current (Heap.request current heap ((Node.geo code).request env t host)).2
          ((Node.default code).request env t host)).2) := by
  have hgeo := @createOrUpdateEndpoint_setProperty env t host current (.geo code) heap
  rw [← hgeo]
  -- the pointer of the group's CNAME lies in the heap and is not the catch-all's
  have hp : (createOrUpdateEndpoint (lbName env t host) [geoLbName env (lbName env t host) code]
        .CNAME code defaultCnameTTL current heap).1
      < (createOrUpdateEndpoint (lbName env t host) [geoLbName env (lbName env t host) code]
        .CNAME code defaultCnameTTL current heap).2.size := by
    unfold createOrUpdateEndpoint
    cases hc : current (lbName env t host ++ code) with
    | none => simp
    | some p => simpa using lt_of_lt_of_le (hcur.lt _ _ hc) hn
  have hne : current ((Node.default code).request env t host).key
      ≠ some (createOrUpdateEndpoint (lbName env t host)
        [geoLbName env (lbName env t host) code] .CNAME code defaultCnameTTL current heap).1 := by
    intro hd
    unfold createOrUpdateEndpoint at hd
    cases hc : current (lbName env t host ++ code) with
    | none =>
        rw [hc] at hd
        have : heap.size < n := hcur.lt _ _ hd
        omega
    | some p =>
        rw [hc] at hd
        have hkey : lbName env t host ++ code = lbName env t host ++ "default" :=
          hcur.inj _ _ _ hc hd
        exact hcode ((String.append_right_inj _).1 hkey)
  have hdef : ∀ heap', createOrUpdateEndpoint (lbName env t host)
      [geoLbName env (lbName env t host) code] .CNAME "default" defaultCnameTTL current heap'
      = Heap.request current heap' ((Node.default code).request env t host) :=
    fun heap' => @createOrUpdateEndpoint_eq_request env t host current (.default code) rfl heap'
  simp only [hdef]
  have hcomm := @Heap.request_modify _ current
    (createOrUpdateEndpoint (lbName env t host) [geoLbName env (lbName env t host) code]
        .CNAME code defaultCnameTTL current heap).2 ((Node.default code).request env t host) _
    (Endpoint.setProviderSpecific providerSpecificGeoCode code) hp hne
  exact Prod.ext (Prod.ext rfl (congrArg Prod.fst hcomm).symm) (congrArg Prod.snd hcomm).symm

/-- One round of the geo loop creates the group's nodes. -/
theorem geoStep_eq {n : Nat} (hcur : MapsInto current n) {s : BuildState} (hn : n ≤ s.heap.size)
    {group : GeoCode × List ClusterGatewayTarget} (hgroup : ∀ c ∈ group.2, c.geo = group.1) :
    geoStep env t current (lbName env t host) s group
      = buildNodes env t host current (geoNodes env t host s.defaultEndpoint.isSome group) s := by
  have hlen := @length_runNodes env t host current (group.2.flatMap (clusterNodes env t host)) s.heap
  have hnd : ∀ m ∈ group.2.flatMap (clusterNodes env t host), m.isDefault = false := by
    intro m hm
    obtain ⟨c, -, hmc⟩ := List.mem_flatMap.1 hm
    exact isDefault_of_mem_clusterNodes hmc
  have hsize : n ≤ (runNodes env t host current (group.2.flatMap (clusterNodes env t host))
      s.heap).2.size := hn.trans (Heap.size_le_size_run _ _)
  simp only [geoStep, geoNodes, clusterStep_foldl hgroup, List.nil_append]
  by_cases hempty : group.2.flatMap (clusterNodes env t host) = []
  · simp [hempty, buildNodes, runNodes, Heap.run, publishedPtrs, defaultPtr]
  · have hptrs : ¬ (runNodes env t host current (group.2.flatMap (clusterNodes env t host))
        s.heap).1 = [] := by
      intro h
      rw [h] at hlen
      exact hempty (List.eq_nil_of_length_eq_zero hlen)
    rw [if_neg hptrs, if_neg hempty]
    by_cases hcode : GeoCode.isDefaultCode group.1
    · -- the group with the internal code `default`: its CNAME is the catch-all itself
      have hgeo : group.1 = "default" := eq_of_beq hcode
      have hreq := @createOrUpdateEndpoint_eq_request env t host current (.default group.1) rfl
        (runNodes env t host current (group.2.flatMap (clusterNodes env t host)) s.heap).2
      simp only [Node.dnsName, Node.targets, Node.recordType, Node.setIdentifier,
        Node.recordTTL] at hreq
      rw [hgeo] at hreq
      simp only [if_pos hcode]
      rw [buildNodes_append]
      simp only [hgeo, hreq, buildNodes, publishedPtrs_eq_self hlen hnd, defaultPtr_eq_none hnd]
      simp [runNodes, Heap.run, publishedPtrs, defaultPtr, Node.isDefault]
    · have hne : group.1 ≠ GeoCode.defaultGeo := by simpa [GeoCode.isDefaultCode] using hcode
      simp only [if_neg hcode]
      by_cases hdef : group.1 = t.getDefaultGeo ∨ s.defaultEndpoint = none
      · have hdef' : group.1 = t.getDefaultGeo ∨ s.defaultEndpoint.isSome = false := by
          simpa using hdef
        have hcomm := @request_default_modify_geo env t host current n hcur group.1 hne
          (runNodes env t host current (group.2.flatMap (clusterNodes env t host)) s.heap).2 hsize
        rw [if_pos hdef, if_pos hdef', buildNodes_append]
        simp only [Prod.mk.injEq] at hcomm
        obtain ⟨⟨hp, hd⟩, hheap⟩ := hcomm
        simp only [hheap, hd]
        simp only [buildNodes, publishedPtrs_eq_self hlen hnd, defaultPtr_eq_none hnd, hp]
        simp [runNodes, Heap.run, publishedPtrs, defaultPtr, Node.isDefault]
      · have hdef' : ¬ (group.1 = t.getDefaultGeo ∨ s.defaultEndpoint.isSome = false) := by
          simpa using hdef
        have hreq := @createOrUpdateEndpoint_setProperty env t host current (.geo group.1)
          (runNodes env t host current (group.2.flatMap (clusterNodes env t host)) s.heap).2
        rw [if_neg hdef, if_neg hdef', buildNodes_append]
        have hp := congrArg Prod.fst hreq
        have hheap := congrArg Prod.snd hreq
        simp only [Node.dnsName, Node.targets, Node.recordType, Node.setIdentifier,
          Node.recordTTL, Node.setProperty] at hp hheap
        simp only [hheap]
        simp only [buildNodes, publishedPtrs_eq_self hlen hnd, defaultPtr_eq_none hnd, hp]
        simp [runNodes, Heap.run, publishedPtrs, defaultPtr, Node.isDefault]

theorem isSome_defaultPtr {nodes : List Node} {ptrs : List Ptr}
    (hlen : nodes.length = ptrs.length) :
    (defaultPtr nodes ptrs).isSome = nodes.any Node.isDefault := by
  have hmap : (nodes.zip ptrs).map Prod.fst = nodes := List.map_fst_zip (le_of_eq hlen)
  have hany : nodes.any Node.isDefault = (nodes.zip ptrs).any (fun x => x.1.isDefault) := by
    conv_lhs => rw [← hmap]
    rw [List.any_map]
    rfl
  rw [hany, Bool.eq_iff_iff]
  simp only [defaultPtr, List.getLast?_isSome, ne_eq, List.map_eq_nil_iff, List.filter_eq_nil_iff,
    List.any_eq_true]
  push Not
  rfl

/-- The geo loop creates the planned nodes. -/
theorem geoLoop_eq {n : Nat} (hcur : MapsInto current n)
    (groups : List (GeoCode × List ClusterGatewayTarget))
    (hgroups : ∀ group ∈ groups, ∀ c ∈ group.2, c.geo = group.1) {s : BuildState}
    (hn : n ≤ s.heap.size) :
    groups.foldl (geoStep env t current (lbName env t host)) s
      = buildNodes env t host current (plan env t host s.defaultEndpoint.isSome groups) s := by
  induction groups generalizing s with
  | nil => simp [plan, buildNodes, runNodes, Heap.run, publishedPtrs, defaultPtr]
  | cons group rest ih =>
      rw [List.foldl_cons, geoStep_eq hcur hn (hgroups group List.mem_cons_self)]
      have hn' : n ≤ (buildNodes env t host current
          (geoNodes env t host s.defaultEndpoint.isSome group) s).heap.size :=
        hn.trans (Heap.size_le_size_run _ _)
      rw [ih (fun g hg => hgroups g (List.mem_cons_of_mem _ hg)) hn']
      have hsome : (buildNodes env t host current
          (geoNodes env t host s.defaultEndpoint.isSome group) s).defaultEndpoint.isSome
          = (s.defaultEndpoint.isSome ||
              (geoNodes env t host s.defaultEndpoint.isSome group).any Node.isDefault) := by
        rw [← isSome_defaultPtr (@length_runNodes env t host current _ s.heap)]
        simp [buildNodes, Bool.or_comm]
      rw [hsome, plan, buildNodes_append]

end

end MultiClusterGateway
