import MultiClusterGateway.Api.Gateway
import MultiClusterGateway.Lib.Order
import MultiClusterGateway.Lib.Text

set_option autoImplicit false

/-! # The placer (`pkg/placement/ocm.go`, `pkg/_internal/gracePeriod/gracePeriod.go`)

A Gateway is placed on a cluster by a `ManifestWork` in the namespace of the cluster, beside one with
the permissions that all Gateways on the cluster share. The works of a Gateway are found again by
their name and label, which are made of the kind, namespace and name of the Gateway. A Gateway that
leaves a cluster keeps its work for a grace period, whose end is written in an annotation.

The functions are programs over the objects on the hub; their sets of clusters are visited in an
order that is given with the call. A grace period is checked against a time that is read once, at a
resolution of seconds, and its end is written to the annotation as a decimal number. Values reported
by clusters are JSON, which is represented by what the program reads from it or by the error. -/

namespace MultiClusterGateway.Placement

/-- The label that names a placement, of a Gateway and of the decisions. -/
def ocmPlacementLabel : String := "cluster.open-cluster-management.io/placement"
/-- The name of the role for the agents. -/
def rbacName : String := "open-cluster-management:klusterlet-work:gateway"
/-- The name of the work with that role. -/
def rbacManifest : String := "gateway-rbac"
/-- The label by which the works of a Gateway are listed. -/
def workManifestLabel : String := "kuadrant.io/manifestKey"
def parentAnnotation : String := "kuadrant.io/parent"
/-- `workv1.ManifestApplied`. -/
def manifestApplied : String := "Applied"
/-- `GraceTimestampAnnotation`. -/
def graceTimestampAnnotation : String := "kuadrant.io/grace-timeout"

/-- Nanoseconds in a second. -/
def second : Nat := 1000000000

/-- `time.Second * dns.DefaultTTL * 10`, in nanoseconds. -/
def defaultGracePeriod : Nat := 600 * second

/-- `Time.Unix`, of a time in nanoseconds. -/
def unix (time : Nat) : Nat := time / second

/-! ## The hub -/

/-- The objects on the hub that the gateway controller works with. -/
structure Hub where
  works : Objects workKind := ∅
  /-- the names of the `ManagedCluster`s -/
  managedClusters : List String := []
  decisions : List PlacementDecision := []
  gateways : Objects gatewayKind := ∅
  secrets : Objects secretKind := ∅

theorem Hub.with_works_self (hub : Hub) : { hub with works := hub.works } = hub := rfl

/-- The works of the hub. -/
def Hub.worksPart : Part Hub (Objects workKind) where
  get := Hub.works
  set hub works := { hub with works := works }
  get_set _ _ := rfl
  set_get := Hub.with_works_self
  set_set _ _ _ := rfl

/-- `Get` for a work. -/
def getWork (k : ObjectKey) : Api Hub ManifestWork := Api.get Hub.worksPart k

/-- `Create` for a work. -/
def createWork (w : ManifestWork) : Api Hub Unit := Api.create Hub.worksPart w

/-- `Update` for a work. -/
def updateWork (w : ManifestWork) : Api Hub Unit := Api.update Hub.worksPart w

/-- `Delete` for a work. -/
def deleteWork (k : ObjectKey) : Api Hub Unit := Api.delete Hub.worksPart k

/-- `Get` for a ManagedCluster, of which only the existence matters. -/
def getManagedCluster (name : String) : Api Hub Unit :=
  Api.read fun hub =>
    if name ∈ hub.managedClusters then .ok () else .error ⟨.notFound, name ++ " not found"⟩

/-- `List` for the decisions of a namespace with some labels. -/
def listDecisions (ns : String) (selector : Labels) : Api Hub (List PlacementDecision) :=
  Api.read fun hub =>
    .ok (hub.decisions.filter (fun d => d.ns == ns && d.labels.matches selector))

/-! ## Works of a Gateway -/

/-- The kind of every Gateway. -/
def gatewayKindName : String := "Gateway"

def gatewayGroup : String := "gateway.networking.k8s.io"

/-- `WorkName`, for a Gateway. -/
def workName (fold : Text.CaseFold) (gw : ObjectKey) : String :=
  Text.toLower fold (gatewayKindName ++ "-" ++ gw.ns ++ "-" ++ gw.name)

/-- The condition `Applied` of the work is true. -/
def isApplied (w : ManifestWork) : Bool := isStatusConditionTrue w.status.conditions manifestApplied

/-! ## What clusters report -/

/-- What a cluster reports of the Gateway itself. -/
def ownManifests (gw : GatewayObject) (w : ManifestWork) : List ManifestCondition :=
  w.status.manifests.filter (fun m => m.group == gatewayGroup && m.name == gw.metadata.name)

/-- The loop of `GetAddresses`: the last manifest with addresses counts. -/
def unmarshalAddresses :
    List ManifestCondition → Except String (List FeedbackAddress) → Api Hub (List FeedbackAddress)
  | [], .ok addresses => pure addresses
  | [], .error text => Effect.fail ⟨.other, text⟩
  | m :: rest, result =>
    match m.values.find? (fun v => v.1 == "addresses") with
    | none => unmarshalAddresses rest result
    | some (_, .jsonRaw addresses) => unmarshalAddresses rest addresses
    | some (_, .integer _) => Effect.fail nilPointer

/-- `GetAddresses`. -/
def getAddresses (fold : Text.CaseFold) (gw : GatewayObject) (cluster : String) :
    Api Hub (List FeedbackAddress) := do
  let mw ← getWork ⟨cluster, workName fold gw.metadata.key⟩
  unmarshalAddresses (ownManifests gw mw) (.ok [])

/-- `ListenerTotalAttachedRoutes`. -/
def listenerTotalAttachedRoutes (fold : Text.CaseFold) (gw : GatewayObject)
    (listenerName cluster : String) : Api Hub Int := do
  let mw ← getWork ⟨cluster, workName fold gw.metadata.key⟩
  let statusKey := Text.toLower fold ("listener" ++ listenerName ++ "AttachedRoutes")
  let values : List (String × FeedbackValue) := (ownManifests gw mw).flatMap (·.values)
  match values.find? (fun v => Text.toLower fold v.1 == statusKey) with
  | some (_, .integer n) => pure n
  | some (_, .jsonRaw _) => Effect.fail nilPointer
  | none => Effect.fail ⟨.other, "no listener " ++ listenerName ++ " status found"⟩

/-! ## Where a Gateway is and should be -/

/-- `GetPlacedClusters`. -/
def getPlacedClusters (fold : Text.CaseFold) (gw : ObjectKey) : Api Hub (List String) := do
  let existing ← Api.list Hub.worksPart
    (fun w => w.metadata.labels.matches [(workManifestLabel, workName fold gw)])
  return ((existing.filter (fun w => !w.metadata.deletionTimestamp && isApplied w)).map
    (·.metadata.ns)).dedup

/-- The error for a placement without decisions. -/
def noDecisions (selectedPlacement : String) : ApiError :=
  ⟨.notFound, "no PlacementDecisions found for placement " ++ selectedPlacement ++
    " via label selector: map[" ++ ocmPlacementLabel ++ ":" ++ selectedPlacement ++
    "] error: PlacementDecision \"" ++ selectedPlacement ++ "\" not found"⟩

/-- `labels[OCMPlacementLabel]`. -/
def selectedPlacement (gw : GatewayObject) : String :=
  (gw.metadata.labels.get? ocmPlacementLabel).getD ""

/-- `GetClusters`. -/
def getClusters (gw : GatewayObject) : Api Hub (List String) :=
  if selectedPlacement gw = "" then pure []
  else do
    let items ← listDecisions gw.metadata.ns [(ocmPlacementLabel, selectedPlacement gw)]
    if items = [] then Effect.fail (noDecisions (selectedPlacement gw))
    else pure (items.flatMap (·.clusters)).dedup

/-- `createUpdateManifest`. An error of the `Get` other than not found is not looked at: the update
    that follows has no resource version, and the server refuses it. -/
def createUpdateManifest (m : ManifestWork) : Api Hub Unit := do
  match ← Effect.attempt (getWork m.metadata.key) with
  | .error e =>
    if e.kind = .notFound then createWork m
    else Effect.fail ⟨.other, "metadata.resourceVersion: must be specified for an update"⟩
  | .ok mw => if mw.spec = m.spec then pure () else updateWork { mw with spec := m.spec }

/-- The work with the permissions. -/
def rbacWork (cluster : String) : ManifestWork where
  metadata := { name := rbacManifest, ns := cluster }
  spec := { manifests := [
    .clusterRole rbacName [⟨["*"], [gatewayGroup], ["gateways"]⟩],
    .clusterRoleBinding rbacName rbacName "klusterlet-work-sa" "open-cluster-management-agent"] }

/-- `defaultRBAC`. -/
def defaultRBAC (cluster : String) : Api Hub Unit := createUpdateManifest (rbacWork cluster)

/-- `manifest`: each object with its namespace. -/
def manifest (downstream : GatewayObject) (children : List Secret) : List Manifest :=
  [.gateway downstream, .namespace downstream.metadata.ns] ++
    children.flatMap (fun s => [.secret s, .namespace s.metadata.ns])

/-- `cache.MetaNamespaceKeyFunc`. -/
def metaNamespaceKey (k : ObjectKey) : String := if k.ns = "" then k.name else k.ns ++ "/" ++ k.name

/-- The work of a Gateway in the namespace of a cluster. -/
def gatewayWork (fold : Text.CaseFold) (upstream downstream : GatewayObject)
    (children : List Secret) (cluster : String) : ManifestWork where
  metadata := {
    name := workName fold upstream.metadata.key
    ns := cluster
    labels := [("kuadrant.io", "managed"), (workManifestLabel, workName fold upstream.metadata.key)]
    annotations := [( parentAnnotation, metaNamespaceKey upstream.metadata.key)] }
  spec := {
    manifests := manifest downstream children
    manifestConfigs := [{
      group := gatewayGroup, resource := "gateways",
      name := downstream.metadata.name, ns := downstream.metadata.ns,
      jsonPaths := ⟨"addresses", ".status.addresses"⟩ ::
        upstream.spec.listeners.map (fun l => ⟨"listener" ++ l.name ++ "AttachedRoutes",
          ".status.listeners[?(@.name==\"" ++ l.name ++ "\")].attachedRoutes"⟩) }] }

/-! ## Graceful deletion -/

/-- `ErrGracePeriodNotExpired`. -/
def errGracePeriodNotExpired : ApiError :=
  ⟨.gracePeriodNotExpired, "grace period has not yet expired"⟩

/-- The end of a grace period that begins now, as the annotation has it. -/
def graceDeadline (now : Nat) : String := toString (unix (now + defaultGracePeriod))

/-- `metadata.AddAnnotation`. -/
def addAnnotation (key value : String) (w : ManifestWork) : ManifestWork where
  metadata := { w.metadata with annotations := Labels.set w.metadata.annotations key value }
  spec := w.spec
  status := w.status

/-- The work with the end of a grace period that begins now. -/
def withGrace (now : Nat) (w : ManifestWork) : ManifestWork :=
  addAnnotation graceTimestampAnnotation (graceDeadline now) w

/-- The work gets the annotation, and the call ends with the error. -/
def startGracePeriod (now : Nat) (w : ManifestWork) : Api Hub Unit := do
  updateWork (withGrace now w)
  Effect.fail errGracePeriodNotExpired

/-- `GracefulDelete`. The clock stands still during the call, so the deadline is never over when it
    is computed. -/
def gracefulDelete (now : Nat) (k : ObjectKey) (ignoreGrace : Bool) : Api Hub Unit := do
  let w ← getWork k
  if ignoreGrace then deleteWork k
  else
    match w.metadata.annotations.get? graceTimestampAnnotation with
    | none => startGracePeriod now w
    | some value =>
      match Text.parseInt64 value with
      | none => startGracePeriod now w
      | some deleteAt =>
        if deleteAt ≤ (unix now : Int) then deleteWork k else Effect.fail errGracePeriodNotExpired

/-! ## Place -/

/-- The orders in which `UnsortedList` gives the sets of a call. -/
structure Orders where
  existing : MapOrder := .inserted
  targets : MapOrder := .inserted
  removals : MapOrder := .inserted

/-- A call of `Place`. -/
structure PlaceCall where
  now : Nat
  upstream : GatewayObject
  downstream : GatewayObject
  children : List Secret := []
  orders : Orders := {}

/-- One round of the loop over the clusters decided on. -/
def addTo (fold : Text.CaseFold) (c : PlaceCall) (cluster : String) : Api Hub Unit := do
  defaultRBAC cluster
  createUpdateManifest (gatewayWork fold c.upstream c.downstream c.children cluster)

/-- One round of the loop over the clusters to leave. -/
def removeFrom (fold : Text.CaseFold) (c : PlaceCall) (cluster : String) : Api Hub Unit := do
  let _ ← getWork ⟨cluster, workName fold c.upstream.metadata.key⟩
  -- an error other than not found is not looked at
  let ignoreGrace := match ← Effect.attempt (getManagedCluster cluster) with
    | .ok _ => false
    | .error e => e.kind == .notFound
  gracefulDelete c.now ⟨cluster, workName fold c.upstream.metadata.key⟩ ignoreGrace
  Api.ignoreNotFound (deleteWork ⟨cluster, rbacManifest⟩)

/-- `Place`: the clusters the Gateway is on afterwards. -/
def place (fold : Text.CaseFold) (c : PlaceCall) : Api Hub (List String) := do
  let placementTargets ← getClusters c.upstream
  let existingClusters ← getPlacedClusters fold c.upstream.metadata.key
  if c.upstream.metadata.deletionTimestamp then
    Effect.forEach (c.orders.existing.visit existingClusters) fun cluster =>
      Api.ignoreNotFound (deleteWork ⟨cluster, workName fold c.upstream.metadata.key⟩)
    return []
  else
    Effect.forEach (c.orders.targets.visit placementTargets) (addTo fold c)
    let removals := existingClusters.filter (fun cluster => cluster ∉ placementTargets)
    Effect.forEach (c.orders.removals.visit removals) (removeFrom fold c)
    return (existingClusters.filter (fun cluster => cluster ∈ placementTargets) ++
      placementTargets).dedup

end MultiClusterGateway.Placement
