import MultiClusterGateway.Api.DNSPolicy
import MultiClusterGateway.Api.Server

set_option autoImplicit false

/-! # Gateways as objects, and the works that carry them to clusters

The whole Gateway object of the Gateway API, with the TLS configuration of its listeners and its
status, as the gateway and TLS policy controllers read it (`Gateway` is the part that the DNS policy
controller reads). The `ManifestWork` and `PlacementDecision` are those of Open Cluster
Management.

The works carry other objects to a cluster, and the agents of the clusters report back what the
works ask for: addresses and numbers of attached routes. JSON is represented by what the program
reads from it, or by the reason why it cannot be read. Conditions have all three values of their
status here, as the controller reports the state of a placement as unknown. Nil pointers of
references are `none`, and the fields without a modelled reader are left out. -/

namespace MultiClusterGateway

/-! ## Gateways -/

/-- The nil pointers of a reference are `none`. -/
structure SecretObjectReference where
  name : String
  ns : Option String := none
  group : Option String := some ""
  kind : Option String := some "Secret"
deriving DecidableEq, Repr

/-- `GatewayTLSConfig`, the TLS block of a listener. -/
structure GatewayTLSConfig where
  mode : Option String := none
  certificateRefs : List SecretObjectReference := []
deriving DecidableEq, Repr

/-- A listener with its TLS block. -/
structure GatewayListener extends Listener where
  tls : Option GatewayTLSConfig := none
deriving DecidableEq, Repr

/-- `GatewaySpec`. -/
structure GatewaySpec where
  gatewayClassName : String := ""
  listeners : List GatewayListener := []
deriving DecidableEq, Repr

/-- `metav1.ConditionStatus`. -/
inductive ConditionStatus where
  | true
  | false
  | unknown
deriving DecidableEq, Repr

/-- A `metav1.Condition` with all three values of its status. -/
structure GatewayCondition where
  type : String
  status : ConditionStatus
  reason : String
  message : String
  observedGeneration : Nat
deriving DecidableEq, Repr

/-- `ListenerStatus`; the supported kinds and the conditions are left out, the controller sets them
    to empty lists. -/
structure ListenerStatus where
  name : String
  attachedRoutes : Int
deriving DecidableEq, Repr

/-- `GatewayStatus`. -/
structure GatewayStatus where
  addresses : List GatewayAddress := []
  conditions : List GatewayCondition := []
  listeners : List ListenerStatus := []
deriving DecidableEq, Repr

/-- A Gateway object; `GatewayObject.view` is what the DNS policy code sees of it. -/
structure GatewayObject where
  metadata : ObjectMeta
  spec : GatewaySpec := {}
  status : GatewayStatus := {}
deriving DecidableEq, Repr

/-- Gateways as objects of the server. -/
def gatewayKind : Kind GatewayObject where
  get := GatewayObject.metadata
  set gw m := { gw with metadata := m }
  get_set _ _ := rfl
  set_get _ := rfl
  set_set _ _ _ := rfl

/-- The part of a Gateway that the DNS policy controller reads. -/
def GatewayObject.view (gw : GatewayObject) : Gateway where
  name := gw.metadata.name
  ns := gw.metadata.ns
  listeners := gw.spec.listeners.map (·.toListener)
  addresses := gw.status.addresses

/-! ## Secrets -/

/-- A secret; its data are texts. -/
structure Secret where
  metadata : ObjectMeta
  type : String := "kubernetes.io/tls"
  data : List (String × String) := []
deriving DecidableEq, Repr

/-- Secrets as objects of the server. -/
def secretKind : Kind Secret where
  get := Secret.metadata
  set s m := { s with metadata := m }
  get_set _ _ := rfl
  set_get _ := rfl
  set_set _ _ _ := rfl

/-! ## Works -/

/-- `rbacv1.PolicyRule`. -/
structure PolicyRule where
  verbs : List String
  apiGroups : List String
  resources : List String
deriving DecidableEq, Repr

/-- The objects that works carry. -/
inductive Manifest where
  | gateway (gateway : GatewayObject)
  | secret (secret : Secret)
  | namespace (name : String)
  | clusterRole (name : String) (rules : List PolicyRule)
  | clusterRoleBinding (name roleRef subject subjectNamespace : String)
deriving DecidableEq, Repr

/-- `workv1.JsonPath`: a value that the agent reports back. -/
structure JsonPath where
  name : String
  path : String
deriving DecidableEq, Repr

/-- A `ManifestConfigOption` with its one feedback rule. -/
structure ManifestConfig where
  group : String
  resource : String
  name : String
  ns : String
  jsonPaths : List JsonPath
deriving DecidableEq, Repr

/-- `ManifestWorkSpec`. -/
structure WorkSpec where
  manifests : List Manifest := []
  manifestConfigs : List ManifestConfig := []
deriving DecidableEq, Repr

/-- An address as a cluster reports it; the type is a pointer. -/
structure FeedbackAddress where
  type : Option AddressType
  value : String
deriving DecidableEq, Repr

/-- A value that a cluster reports, with JSON as the program reads it: the addresses, or why they
    cannot be read. -/
inductive FeedbackValue where
  | integer (value : Int)
  | jsonRaw (addresses : Except String (List FeedbackAddress))
deriving DecidableEq, Repr

/-- What an agent reports of one manifest: the resource, and the values that were asked for. -/
structure ManifestCondition where
  group : String
  name : String
  values : List (String × FeedbackValue) := []
deriving DecidableEq, Repr

/-- `ManifestWorkStatus`. -/
structure WorkStatus where
  conditions : List Condition := []
  manifests : List ManifestCondition := []
deriving DecidableEq, Repr

/-- A ManifestWork, which carries objects to the cluster whose namespace it is in. -/
structure ManifestWork where
  metadata : ObjectMeta
  spec : WorkSpec := {}
  status : WorkStatus := {}
deriving DecidableEq, Repr

/-- ManifestWorks as objects of the server. -/
def workKind : Kind ManifestWork where
  get := ManifestWork.metadata
  set w m := { w with metadata := m }
  get_set _ _ := rfl
  set_get _ := rfl
  set_set _ _ _ := rfl

/-! ## Placement decisions -/

/-- A PlacementDecision: the clusters that were decided for the placement that its label names. -/
structure PlacementDecision where
  ns : String
  labels : Labels := []
  clusters : List String := []
deriving DecidableEq, Repr

end MultiClusterGateway
