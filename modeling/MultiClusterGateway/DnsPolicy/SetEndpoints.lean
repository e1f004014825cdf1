import MultiClusterGateway.DnsPolicy.Names
import MultiClusterGateway.Lib.Heap

set_option autoImplicit false

/-! # `setEndpoints` (`pkg/controllers/dnspolicy/dns_helper.go`)

The endpoints published for one listener, in the three stages of the source: build the tree of
records from the clusters, grouped by geo code; drop the endpoints whose probe is past its failure
threshold; prune parents that lost all their children, falling back to the full set when nothing is
left.

The source reuses the endpoints already in the record through a map of pointers and rewrites them
in place, so the build runs over a heap that initially holds the record's endpoints. Everything
after the build only reads, so from there on the model works with the endpoints themselves. -/

namespace MultiClusterGateway

open Heap (Ptr)

/-- `DefaultTTL`, in seconds. -/
def defaultTTL : Int := 60
/-- `DefaultCnameTTL`. -/
def defaultCnameTTL : Int := 300
/-- The property for the weight of an endpoint. -/
def providerSpecificWeight : String := "weight"
/-- The property for its geo code. -/
def providerSpecificGeoCode : String := "geo-code"

/-- The value of the endpoint's geo-code property. -/
def Endpoint.geoCode (e : Endpoint) : Option String :=
  (e.getProviderSpecificProperty providerSpecificGeoCode).map (·.value)

/-! ## Building the endpoints -/

/-- The position of the last element with property `p`. -/
def lastIdx? {α : Type} (p : α → Bool) : List α → Option Nat
  | [] => none
  | a :: l =>
    match lastIdx? p l with
    | some i => some (i + 1)
    | none => if p a then some 0 else none

/-- `currentEndpoints`: the record's endpoints by `SetID`; of two with the same id the later one is
    in the map. Pointer `i` is the `i`-th endpoint of the record. -/
def currentEndpoints (endpoints : List Endpoint) (id : String) : Option Ptr :=
  lastIdx? (fun e => e.setID == id) endpoints

/-- `createOrUpdateEndpoint`. A reused endpoint keeps its set identifier and its provider specific
    properties. -/
def createOrUpdateEndpoint (dnsName : String) (targets : List String) (recordType : DNSRecordType)
    (setIdentifier : String) (recordTTL : Int) (current : String → Option Ptr)
    (heap : Heap Endpoint) : Ptr × Heap Endpoint :=
  match current (dnsName ++ setIdentifier) with
  | some p =>
    (p, heap.modify p (fun e =>
      { e with dnsName := dnsName, recordType := recordType, targets := targets,
               recordTTL := recordTTL }))
  | none =>
    heap.alloc
      { dnsName := dnsName, targets := targets, recordType := recordType,
        setIdentifier := setIdentifier, recordTTL := recordTTL, providerSpecific := [] }

/-- The weighted CNAME for one host value of a cluster. -/
def hostStep (current : String → Option Ptr) (geoLb : String) (weight : Int)
    (s : Heap Endpoint × List Ptr) (hostValue : String) : Heap Endpoint × List Ptr :=
  let (endpoint, heap) :=
    createOrUpdateEndpoint geoLb [hostValue] .CNAME hostValue defaultTTL current s.1
  (heap.modify endpoint (Endpoint.setProviderSpecific providerSpecificWeight (toString weight)),
    s.2 ++ [endpoint])

/-- The endpoints of one cluster: an A record for its IP addresses, and a weighted CNAME for each
    of its host names and for that A record. -/
def clusterStep (env : Env) (current : String → Option Ptr) (lb geoLb : String)
    (s : Heap Endpoint × List Ptr) (cgwTarget : ClusterGatewayTarget) :
    Heap Endpoint × List Ptr :=
  if cgwTarget.ipValues = [] then
    cgwTarget.hostValues.foldl (hostStep current geoLb cgwTarget.weight) s
  else
    let clusterLb := clusterLbName env lb cgwTarget
    let (endpoint, heap) :=
      createOrUpdateEndpoint clusterLb cgwTarget.ipValues .A "" defaultTTL current s.1
    (cgwTarget.hostValues ++ [clusterLb]).foldl (hostStep current geoLb cgwTarget.weight)
      (heap, s.2 ++ [endpoint])

/-- The variables of the loop over the geo groups. -/
structure BuildState where
  heap : Heap Endpoint
  newEndpoints : List Ptr
  defaultEndpoint : Option Ptr

/-- One round of the loop over the geo groups. -/
def geoStep (env : Env) (t : MultiClusterGatewayTarget) (current : String → Option Ptr)
    (lb : String) (s : BuildState) (group : GeoCode × List ClusterGatewayTarget) : BuildState :=
  let geoLb := geoLbName env lb group.1
  let (heap, clusterEndpoints) := group.2.foldl (clusterStep env current lb geoLb) (s.heap, [])
  if clusterEndpoints = [] then { s with heap := heap }
  else
    let newEndpoints := s.newEndpoints ++ clusterEndpoints
    let (endpoint, heap) :=
      createOrUpdateEndpoint lb [geoLb] .CNAME group.1 defaultCnameTTL current heap
    if GeoCode.isDefaultCode group.1 then
      -- the default endpoint is added after the loop
      { heap := heap, newEndpoints := newEndpoints, defaultEndpoint := some endpoint }
    else
      let (defaultEndpoint, heap) :=
        if group.1 = t.getDefaultGeo ∨ s.defaultEndpoint = none then
          let (d, heap) :=
            createOrUpdateEndpoint lb [geoLb] .CNAME "default" defaultCnameTTL current heap
          (some d, heap)
        else (s.defaultEndpoint, heap)
      { heap := heap.modify endpoint
          (Endpoint.setProviderSpecific providerSpecificGeoCode group.1)
        newEndpoints := newEndpoints ++ [endpoint]
        defaultEndpoint := defaultEndpoint }

/-- After the loop: the default endpoint and the CNAME of the listener's host. The source would
    dereference nil without a default endpoint; `geoLoop_defaultEndpoint` rules that out. -/
def finishStep (current : String → Option Ptr) (lb gwListenerHost : String) (s : BuildState) :
    Heap Endpoint × List Ptr :=
  match s.newEndpoints, s.defaultEndpoint with
  | [], _ => (s.heap, [])
  | _, none => (s.heap, s.newEndpoints)
  | _, some defaultEndpoint =>
    let heap := s.heap.modify defaultEndpoint
      (Endpoint.setProviderSpecific providerSpecificGeoCode GeoCode.wildcardGeo)
    let (endpoint, heap) :=
      createOrUpdateEndpoint gwListenerHost [lb] .CNAME "" defaultCnameTTL current heap
    (heap, s.newEndpoints ++ [defaultEndpoint, endpoint])

/-- The endpoint list as it stands before `setEndpoints` looks at probes: built, then sorted by
    `SetID`. `endpoints` are the record's endpoints before the call, `order` is the iteration order
    of the map `GroupTargetsByGeo` returns. -/
def fullEndpoints (env : Env) (order : MapOrder) (t : MultiClusterGatewayTarget)
    (gwListenerHost : String) (endpoints : List Endpoint) : List Endpoint :=
  let current := currentEndpoints endpoints
  let lb := lbName env t gwListenerHost
  let s := (order.visit t.groupTargetsByGeo).foldl (geoStep env t current lb)
    { heap := ⟨endpoints⟩, newEndpoints := [], defaultEndpoint := none }
  let (heap, newEndpoints) := finishStep current lb gwListenerHost s
  (env.sorter.sort (fun p => (heap.read p).setID) newEndpoints).map heap.read

/-! ## Probes -/

/-- `getProbesForEndpoint`: a probe is listed once for each target it is named after. -/
def getProbesForEndpoint (endpoint : Endpoint) (probes : List DNSHealthCheckProbe)
    (gatewayName listenerName : String) : List DNSHealthCheckProbe :=
  probes.flatMap (fun probe =>
    (endpoint.targets.filter (fun target =>
      dnsHealthCheckProbeName target gatewayName listenerName == probe.metadata.name)).map
        (fun _ => probe))

/-- Some probe of the endpoint is past its threshold. -/
def probeFailed (probes : List DNSHealthCheckProbe) (gatewayName listenerName : String)
    (endpoint : Endpoint) : Bool :=
  (getProbesForEndpoint endpoint probes gatewayName listenerName).any (·.pastThreshold)

/-- The first deletion loop, which steps back one place after each deletion: the remaining
    endpoints and the number removed. -/
def removeUnhealthy (failed : Endpoint → Bool) : List Endpoint → List Endpoint × Nat
  | [] => ([], 0)
  | e :: rest =>
    let (kept, removedEndpoints) := removeUnhealthy failed rest
    if failed e then (kept, removedEndpoints + 1) else (e :: kept, removedEndpoints)

/-! ## The IP pattern

`\b(?:\d{1,3}\.){3}\d{1,3}\b`, looked for anywhere in a target. Between two dots, and before the
closing boundary, the digits have to be a whole run, so matching at a position is deterministic. -/

/-- The class `\w`. -/
def isWordChar (c : Char) : Bool := c.isAlphanum || c == '_'

/-- `\d{1,3}`, with every split of the input it allows. -/
def octet : List Char → List (List Char)
  | [] => []
  | a :: l =>
    if a.isDigit then
      l :: (match l with
        | [] => []
        | b :: l' =>
          if b.isDigit then
            l' :: (match l' with
              | [] => []
              | c :: l'' => if c.isDigit then [l''] else [])
          else [])
    else []

/-- `\d{1,3}\.`. -/
def octetDot (l : List Char) : List (List Char) :=
  (octet l).filterMap (fun
    | '.' :: rest => some rest
    | _ => none)

/-- The pattern without its opening boundary, at the start of the input. -/
def ipAt (l : List Char) : Bool :=
  ((((octetDot l).flatMap octetDot).flatMap octetDot).flatMap octet).any (fun
    | [] => true
    | c :: _ => !isWordChar c)

/-- The pattern at some position; `before` is the rune before the input. -/
def ipIn (before : Option Char) : List Char → Bool
  | [] => false
  | c :: rest => (!before.any isWordChar && ipAt (c :: rest)) || ipIn (some c) rest

/-- `len(re.FindAllString(target, -1)) > 0`. -/
def matchesIPPattern (target : String) : Bool := ipIn none target.toList

/-! ## Pruning -/

/-- `findChildren`: an endpoint is listed once for each target that is its name. -/
def findChildren (endpoints : List Endpoint) (parent : Endpoint) : List Endpoint :=
  endpoints.flatMap (fun endpoint =>
    (parent.targets.filter (fun target => target == endpoint.dnsName)).map (fun _ => endpoint))

/-- `getNumChildrenOfParent`. -/
def getNumChildrenOfParent (endpoints : List Endpoint) (parent : Endpoint) : Nat :=
  (findChildren endpoints parent).length

/-- One pass of `endpointsLoop`: `front` is `newEndpoints[:i]`, the argument `newEndpoints[i:]`.
    Returns the endpoints left and the number removed. -/
def prunePass (front : List Endpoint) : List Endpoint → List Endpoint × Nat
  | [] => (front, 0)
  | e :: rest =>
    if e.targets.any matchesIPPattern then prunePass (front ++ [e]) rest
    else if getNumChildrenOfParent (front ++ e :: rest) e = 0 then
      -- the next endpoint has moved to position `i`, and `i++` steps over it
      match rest with
      | [] => (front, 1)
      | e' :: rest' =>
        let (kept, removedEndpoints) := prunePass (front ++ [e']) rest'
        (kept, removedEndpoints + 1)
    else prunePass (front ++ [e]) rest

theorem prunePass_length (front rest : List Endpoint) :
    (prunePass front rest).1.length + (prunePass front rest).2 = front.length + rest.length := by
  fun_induction prunePass front rest with
  | case1 front => rfl
  | case2 front e rest _ ih => simp only [ih, List.length_append, List.length_cons]; simp; omega
  | case3 front e _ _ => rfl
  | case4 front e _ e' rest' kept removed heq _ ih =>
      rw [heq] at ih
      simp only [List.length_append, List.length_cons, List.length_nil] at ih ⊢
      omega
  | case5 front e rest _ _ ih => simp only [ih, List.length_append, List.length_cons]; simp; omega

/-- `for removedEndpoints > 0`. -/
def pruneLoop (removedEndpoints : Nat) (newEndpoints : List Endpoint) : List Endpoint :=
  match removedEndpoints with
  | 0 => newEndpoints
  | removed + 1 =>
    pruneLoop (removed + (prunePass [] newEndpoints).2) (prunePass [] newEndpoints).1
termination_by 2 * newEndpoints.length + removedEndpoints
decreasing_by
  have := prunePass_length [] newEndpoints
  simp only [List.length_nil] at this
  omega

/-- `setEndpoints` from the probe check on. -/
def publishEndpoints (failed : Endpoint → Bool) (full : List Endpoint) : List Endpoint :=
  let (newEndpoints, removedEndpoints) := removeUnhealthy failed full
  let newEndpoints := pruneLoop removedEndpoints newEndpoints
  -- if there are no healthy endpoints after checking, publish the full set before checks
  if newEndpoints = [] then full else newEndpoints

/-- `setEndpoints`: the value it leaves in `dnsRecord.Spec.Endpoints`. -/
def setEndpoints (env : Env) (order : MapOrder) (mcgTarget : MultiClusterGatewayTarget)
    (endpoints : List Endpoint) (probes : List DNSHealthCheckProbe)
    (listenerName gwListenerHost : String) : List Endpoint :=
  publishEndpoints (probeFailed probes mcgTarget.gateway.name listenerName)
    (fullEndpoints env order mcgTarget gwListenerHost endpoints)

end MultiClusterGateway
