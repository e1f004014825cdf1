import MultiClusterGateway.Placement.Ocm

set_option autoImplicit false

/-! # The gateway controller (`pkg/controllers/gateway/gateway_controller.go`)

A Gateway on the hub is turned into the Gateway for the clusters and handed to the placer with the
secrets its listeners refer to; what the clusters report comes back into its status. The placer is
an argument, `ocmPlacer` the one of the program. `getParams` is represented by its result.

The reconcile is modelled in the order of its phases: the deletion of a Gateway, the placement,
which may end the reconcile to wait for something, and the address phase, after which the status is
written if it has changed. Every call may fail, and what was written before stays. Two habits of the
source are kept as they are, because results depend on them: an error in the loop over the clusters
is lost when its scope ends, and empty lists of the loops count as a change of a status that has
none. -/

namespace MultiClusterGateway.GatewayController

open Placement

/-- `GatewayClustersAnnotation`: where a Gateway has been placed. -/
def gatewayClustersAnnotation : String := "kuadrant.io/gateway-clusters"
/-- `GatewayFinalizer`. -/
def gatewayFinalizer : String := "kuadrant.io/gateway"
/-- `ManagedLabel`. -/
def managedLabel : String := "kuadrant.io/managed"
/-- `ControllerName`, in the message of the condition `Accepted`. -/
def controllerName : String := "kuadrant.io/mgc-gw-controller"
/-- `MultiClusterIPAddressType`: the value is the cluster and an IP address on it. -/
def multiClusterIPAddressType : AddressType := .other "kuadrant.io/MultiClusterIPAddress"
/-- `MultiClusterHostnameAddressType`: the same with a host name. -/
def multiClusterHostnameAddressType : AddressType := .other "kuadrant.io/MultiClusterHostnameAddress"

/-- `GatewayPlacer`, as far as the controller uses it. -/
structure Placer where
  place : PlaceCall → Api Hub (List String)
  getPlacedClusters : GatewayObject → Api Hub (List String)
  getAddresses : GatewayObject → String → Api Hub (List FeedbackAddress)
  listenerTotalAttachedRoutes : GatewayObject → String → String → Api Hub Int

/-- The placer of `pkg/placement`. -/
def ocmPlacer (fold : Text.CaseFold) : Placer where
  place := Placement.place fold
  getPlacedClusters gw := Placement.getPlacedClusters fold gw.metadata.key
  getAddresses := Placement.getAddresses fold
  listenerTotalAttachedRoutes := Placement.listenerTotalAttachedRoutes fold

/-- What `getParams` returns. -/
inductive ParamsResult where
  | found (downstreamClass : String)
  | invalid (message : String)
  | failed (message : String)

/-- What a reconcile depends on beside the objects. -/
structure Input where
  now : Nat := 0
  params : ParamsResult := .found "istio"
  orders : Orders := {}
  /-- the order in which `UnsortedList` gives the clusters that were placed on -/
  targets : MapOrder := .inserted

/-! ## API calls -/

/-- The Gateways of the hub. -/
def gatewaysPart : Part Hub (Objects gatewayKind) where
  get := Hub.gateways
  set hub gateways := { hub with gateways := gateways }
  get_set _ _ := rfl
  set_get _ := rfl
  set_set _ _ _ := rfl

/-- Its secrets. -/
def secretsPart : Part Hub (Objects secretKind) where
  get := Hub.secrets
  set hub secrets := { hub with secrets := secrets }
  get_set _ _ := rfl
  set_get _ := rfl
  set_set _ _ _ := rfl

/-- `Status().Update`: only the status is written. -/
def updateStatus (gw : GatewayObject) : Api Hub Unit :=
  Api.write gatewaysPart fun gateways =>
    match gateways.get gw.metadata.key with
    | some stored => .ok (gateways.put { stored with status := gw.status })
    | none => .error (Objects.notFound gw.metadata.key)

/-! ## Conditions -/

/-- `meta.SetStatusCondition`. -/
def setCondition (conditions : List GatewayCondition) (c : GatewayCondition) :
    List GatewayCondition :=
  if conditions.any (·.type == c.type) then
    conditions.map (fun d => if d.type == c.type then c else d)
  else conditions ++ [c]

/-- `%v` of a slice of strings. -/
def formatList (l : List String) : String := "[" ++ " ".intercalate l ++ "]"

/-- `buildProgrammedCondition`. -/
def buildProgrammedCondition (generation : Nat) (placed : List String) (status : ConditionStatus)
    (err : Option ApiError) : GatewayCondition where
  type := "Programmed"
  status := status
  reason := match status with
    | .true => "Programmed"
    | .false => "Invalid"
    | .unknown => "Pending"
  message := (match status with
    | .true => "gateway placed on clusters " ++ formatList placed
    | .false => "gateway failed to be placed on all clusters " ++ formatList placed
    | .unknown => "current state of the gateway is unknown") ++
    (match err with
    | some e => " error: " ++ e.message
    | none => "")
  observedGeneration := generation

/-- `buildAcceptedCondition`. -/
def buildAcceptedCondition (generation : Nat) (status : ConditionStatus) : GatewayCondition where
  type := "Accepted"
  status := status
  reason := "Accepted"
  message := "Handled by " ++ controllerName
  observedGeneration := generation

/-- The condition `Accepted` is true. -/
def isAccepted (gw : GatewayObject) : Bool :=
  (gw.status.conditions.find? (·.type == "Accepted")).any (·.status == .true)

/-- The Gateway with conditions set one after the other. -/
def withConditions (gw : GatewayObject) (conditions : List GatewayCondition) : GatewayObject :=
  { gw with status := { gw.status with conditions := conditions.foldl setCondition gw.status.conditions } }

/-! ## The Gateway for the clusters -/

/-- The namespace of the copies of a Gateway on the clusters. -/
def downstreamNamespace (ns : String) : String := "kuadrant-" ++ ns

/-- The copy of a Gateway that is placed on clusters. -/
def downstreamOf (upstream : GatewayObject) : GatewayObject where
  metadata := {
    name := upstream.metadata.name
    ns := downstreamNamespace upstream.metadata.ns
    labels := Labels.set upstream.metadata.labels managedLabel "true"
    annotations := upstream.metadata.annotations }
  spec := upstream.spec

/-- The certificate references of the listeners, with the name of the listener. -/
def tlsRefs (gw : GatewayObject) : List (String × SecretObjectReference) :=
  gw.spec.listeners.flatMap (fun l => match l.tls with
    | some tls => tls.certificateRefs.map (fun ref => (l.name, ref))
    | none => [])

/-- A secret as it is placed beside the Gateway. -/
def moveSecret (ns : String) (s : Secret) : Secret where
  metadata := {
    name := s.metadata.name, ns := ns,
    labels := s.metadata.labels, annotations := s.metadata.annotations }
  type := s.type
  data := s.data

/-- The loop of `getTLSSecrets`: it goes on after an error, and the last error is returned. -/
def collectSecrets (ns downstreamNS : String) :
    List (String × SecretObjectReference) → Api Hub (List Secret × Option ApiError)
  | [] => pure ([], none)
  | (listener, ref) :: rest => do
    match ← Api.outcome (Api.get secretsPart ⟨ref.ns.getD ns, ref.name⟩) with
    | .error e =>
      let (secrets, err) ← collectSecrets ns downstreamNS rest
      pure (secrets, some (err.getD
        (e.wrap ("failed to find tls secret for listener " ++ listener ++ " "))))
    | .ok s =>
      let (secrets, err) ← collectSecrets ns downstreamNS rest
      pure (moveSecret downstreamNS s :: secrets, err)

/-- `getTLSSecrets`: copies of the secrets that the listeners refer to, and the error. -/
def getTLSSecrets (upstream downstream : GatewayObject) : Api Hub (List Secret × Option ApiError) :=
  collectSecrets upstream.metadata.ns downstream.metadata.ns (tlsRefs upstream)

/-- What `reconcileDownstreamFromUpstreamGateway` returns. -/
structure Downstream where
  requeue : Bool
  status : ConditionStatus
  clusters : List String := []
  err : Option ApiError := none

/-- The part of `reconcileDownstreamFromUpstreamGateway` up to the call of `Place` for a Gateway that
    is not being deleted: it returns, or calls with a Gateway and its secrets. -/
def prepareBundle (params : Option String) (upstream : GatewayObject) :
    Api Hub (Downstream ⊕ GatewayObject × List Secret) := do
  let downstream := downstreamOf upstream
  if upstream.spec.listeners = [] then
    return .inl { requeue := false, status := .false, err := some ⟨.other, "no managed listeners found"⟩ }
  let (tlsSecrets, err) ← getTLSSecrets upstream downstream
  match err with
  | some e =>
    return .inl { requeue := true, status := .false, err := some (e.describe "failed to get tls secrets : ") }
  | none =>
    let downstream := match params with
      | some downstreamClass =>
        { downstream with spec := { downstream.spec with gatewayClassName := downstreamClass } }
      | none => downstream
    return .inr (downstream, tlsSecrets)

/-- `reconcileDownstreamFromUpstreamGateway`. -/
def reconcileDownstream (placer : Placer) (input : Input) (params : Option String)
    (upstream : GatewayObject) : Api Hub Downstream := do
  if upstream.metadata.deletionTimestamp then
    match ← Api.outcome (placer.place
        ⟨input.now, upstream, downstreamOf upstream, [], input.orders⟩) with
    | .error e => return { requeue := false, status := .false, err := some e }
    | .ok targets => return { requeue := false, status := .true, clusters := input.targets.visit targets }
  else
    match ← prepareBundle params upstream with
    | .inl result => return result
    | .inr (downstream, tlsSecrets) =>
      match ← Api.outcome (placer.place
          ⟨input.now, upstream, downstream, tlsSecrets, input.orders⟩) with
      | .error e =>
        return { requeue := true, status := .false, err := some (e.wrap "failed to place gateway : ") }
      | .ok targets =>
        match ← Api.outcome (placer.getPlacedClusters upstream) with
        | .error e =>
          return {
            requeue := false, status := .unknown, clusters := input.targets.visit targets,
            err := some (e.describe "failed to get placed clusters : ") }
        | .ok placed =>
          let clusters := placed.insertionSort (· ≤ ·)
          if (∀ c ∈ placed, c ∈ targets) ∧ (∀ c ∈ targets, c ∈ placed) ∧ placed ≠ [] then
            return { requeue := false, status := .true, clusters := clusters }
          else return { requeue := false, status := .unknown, clusters := clusters }

/-! ## Addresses and listeners -/

/-- The loop over the addresses of one cluster. -/
def clusterAddresses (cluster : String) :
    List FeedbackAddress → Except ApiError (List GatewayAddress)
  | [] => .ok []
  | address :: rest =>
    match address.type with
    | none => .error nilPointer
    | some type => do
      let addresses ← clusterAddresses cluster rest
      return match type with
        | .ipAddress => ⟨multiClusterIPAddressType, cluster ++ "/" ++ address.value⟩ :: addresses
        | .hostname => ⟨multiClusterHostnameAddressType, cluster ++ "/" ++ address.value⟩ :: addresses
        | .other _ => addresses

/-- The loop over the clusters. Its error is a variable of the loop body, so the check after the loop
    never sees it: what was collected before counts. -/
def collectAddresses (placer : Placer) (gw : GatewayObject) :
    List String → Api Hub (List GatewayAddress)
  | [] => pure []
  | cluster :: rest => do
    match ← Api.outcome (placer.getAddresses gw cluster) with
    | .error _ => pure []
    | .ok addresses =>
      match clusterAddresses cluster addresses with
      | .error e => Effect.fail e
      | .ok here =>
        let more ← collectAddresses placer gw rest
        return here ++ more

/-- The conversion `int32(n)`. -/
def toInt32 (n : Int) : Int := n.bmod (2 ^ 32)

/-- The loop over the listeners and clusters; a failed lookup is left out. -/
def listenerStatuses (placer : Placer) (gw : GatewayObject) :
    List (String × String) → Api Hub (List ListenerStatus)
  | [] => pure []
  | (listener, cluster) :: rest => do
    match ← Api.outcome (placer.listenerTotalAttachedRoutes gw listener cluster) with
    | .error _ => listenerStatuses placer gw rest
    | .ok attachedRoutes =>
      let more ← listenerStatuses placer gw rest
      return ⟨cluster ++ "." ++ listener, toInt32 attachedRoutes⟩ :: more

/-! ## Reconcile -/

/-- `ctrl.Result`, with the time to requeue after in seconds. -/
structure Result where
  requeueAfter : Option Nat := none
deriving DecidableEq, Repr

/-- Where the address phase begins. -/
structure Phase where
  previous : GatewayObject
  upstream : GatewayObject
  downstream : Downstream

/-- `json.Marshal` of a slice of names. -/
def marshalNames (names : List String) : String :=
  "[" ++ ",".intercalate (names.map (fun n => "\"" ++ n ++ "\"")) ++ "]"

/-- `metadata.AddAnnotation`, of the clusters. -/
def withClusters (gw : GatewayObject) (clusters : List String) : GatewayObject :=
  if gw.metadata.annotations.get? gatewayClustersAnnotation = some (marshalNames clusters) then gw
  else
    let annotations :=
      Labels.set gw.metadata.annotations gatewayClustersAnnotation (marshalNames clusters)
    { gw with metadata := { gw.metadata with annotations := annotations } }

/-- The deletion of a Gateway. -/
def reconcileDeleted (placer : Placer) (input : Input) (upstream : GatewayObject) :
    Api Hub Result := do
  let downstream ← reconcileDownstream placer input none upstream
  match downstream.err.filter (fun e => e.kind ≠ .notFound) with
  | some e =>
    Effect.fail ⟨.other, "failed to reconcile downstream gateway after upstream gateway deleted: " ++
      e.message ++ " "⟩
  | none =>
    let finalizers := upstream.metadata.finalizers.filter (· ≠ gatewayFinalizer)
    match ← Effect.attempt (Api.update gatewaysPart
        { upstream with metadata := { upstream.metadata with finalizers := finalizers } }) with
    | .error e => Effect.fail (e.describe "failed to remove finalizer from gateway : ")
    | .ok _ => return {}

/-- `Reconcile` from the placement to the address phase: it ends here to wait, or with an update of
    the Gateway itself. -/
def afterPlacement (previous : GatewayObject) (downstream : Downstream) :
    Api Hub (Result ⊕ Phase) := do
  match downstream.err with
  | some e =>
    if e.kind = .gracePeriodNotExpired ∨ downstream.requeue = true then
      let upstream := withConditions previous [buildProgrammedCondition
        previous.metadata.generation downstream.clusters .unknown (some e)]
      if upstream.status ≠ previous.status then
        updateStatus upstream
        return .inl {}
      else return .inl { requeueAfter := some 30 }
    else return .inr ⟨previous, withClusters previous downstream.clusters, downstream⟩
  | none =>
    let upstream := withClusters previous downstream.clusters
    if upstream ≠ previous then
      Api.update gatewaysPart upstream
      return .inl {}
    else return .inr ⟨previous, upstream, downstream⟩

/-- `Reconcile` up to the address phase, for a Gateway that is not being deleted. -/
def reconcilePlacement (placer : Placer) (input : Input) (previous : GatewayObject) :
    Api Hub (Result ⊕ Phase) := do
  if gatewayFinalizer ∉ previous.metadata.finalizers then
    let finalizers := previous.metadata.finalizers ++ [gatewayFinalizer]
    match ← Effect.attempt (Api.update gatewaysPart
        { previous with metadata := { previous.metadata with finalizers := finalizers } }) with
    | .error e => Effect.fail (e.describe "failed to add finalizer to gateway : ")
    | .ok _ => return .inl {}
  else
    match input.params with
    | .invalid message =>
      let condition : GatewayCondition :=
        ⟨"Programmed", .false, "Pending", "Invalid parameters in gateway class: " ++ message,
          previous.metadata.generation⟩
      let upstream := withConditions previous [condition]
      if upstream ≠ previous then updateStatus upstream
      return .inl {}
    | .failed message => Effect.fail ⟨.other, "gateway class err " ++ message ++ " "⟩
    | .found downstreamClass =>
      if !isAccepted previous then
        updateStatus (withConditions previous [
          buildAcceptedCondition previous.metadata.generation .true,
          buildProgrammedCondition previous.metadata.generation [] .unknown none])
        return .inl {}
      else
        let downstream ← reconcileDownstream placer input (some downstreamClass) previous
        afterPlacement previous downstream

/-- The Gateway with the status that the reconcile has worked out. -/
def Phase.final (phase : Phase) (addresses : List GatewayAddress) (listeners : List ListenerStatus) :
    GatewayObject :=
  let generation := phase.upstream.metadata.generation
  withConditions
    { phase.upstream with status := { phase.upstream.status with
        addresses := addresses, listeners := listeners } }
    [buildAcceptedCondition generation .true,
      buildProgrammedCondition generation phase.downstream.clusters phase.downstream.status none]

/-- The end of `Reconcile`: the status is written if it has changed. For `reflect.DeepEqual` the lists
    made by the loops differ from the stored ones also when both are empty: these are nil, those are
    not. -/
def writeStatus (phase : Phase) (addresses : List GatewayAddress) (listeners : List ListenerStatus) :
    Api Hub Result := do
  let upstream := phase.final addresses listeners
  if upstream.status ≠ phase.previous.status ∨ addresses = [] ∨ listeners = [] then
    updateStatus upstream
    return {}
  else
    match phase.downstream.err with
    | some e => Effect.fail e
    | none => return { requeueAfter := if phase.downstream.requeue then some 10 else none }

/-- The address phase and what follows it. -/
def reconcileStatus (placer : Placer) (phase : Phase) : Api Hub Result := do
  let clusters := phase.downstream.clusters
  let addresses ← collectAddresses placer phase.upstream clusters
  let listeners ← listenerStatuses placer phase.upstream
    (phase.upstream.spec.listeners.flatMap (fun l => clusters.map (fun c => (l.name, c))))
  writeStatus phase addresses listeners

/-- `Reconcile` up to the address phase. -/
def beforeAddresses (placer : Placer) (input : Input) (key : ObjectKey) :
    Api Hub (Result ⊕ Phase) := do
  match ← Effect.attempt (Api.get gatewaysPart key) with
  | .error e => if e.kind = .notFound then return .inl {} else Effect.fail e
  | .ok previous =>
    if previous.metadata.deletionTimestamp then
      let result ← reconcileDeleted placer input previous
      return .inl result
    else reconcilePlacement placer input previous

/-- `Reconcile`. -/
def reconcile (placer : Placer) (input : Input) (key : ObjectKey) : Api Hub Result := do
  match ← beforeAddresses placer input key with
  | .inl result => return result
  | .inr phase => reconcileStatus placer phase

end MultiClusterGateway.GatewayController
