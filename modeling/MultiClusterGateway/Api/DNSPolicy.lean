import MultiClusterGateway.Api.DNSRecord

set_option autoImplicit false

/-! # Gateways, DNS policies and health check probes

The objects a DNSPolicy is reconciled from: the Gateway with its listeners and addresses
(`sigs.k8s.io/gateway-api`), the policy's load balancing and health check specs
(`dnspolicy_types.go`), the `DNSHealthCheckProbe` (`dnshealthcheckprobe_types.go`) and the
`ManagedZone` (`managedzone_types.go`).

The types have the fields that the modelled functions read or write. Nil pointers are `none`: the
code dereferences the hostname of a listener without a check, so that a listener without one has to
be kept apart from one with an empty hostname. The Gateway is what the DNS policy controller sees of
it, with addresses in the form that the gateway controller writes to its status;
`GatewayObject.view` takes the whole object to it. Label selectors appear as the matchers that they
are read into. -/

namespace MultiClusterGateway

/-! ## Gateways -/

/-- The address types of the Gateway API; an implementation may add its own. -/
inductive AddressType where
  | ipAddress
  | hostname
  | other (name : String)
deriving DecidableEq, Repr

/-- An address in the status of a Gateway. -/
structure GatewayAddress where
  type : AddressType
  value : String
deriving DecidableEq, Repr

/-- A listener of a Gateway, as far as DNS is concerned; `GatewayListener` adds the TLS block. -/
structure Listener where
  name : String
  /-- `none` is the nil pointer, which the code dereferences. -/
  hostname : Option String
  port : Int := 80
  protocol : String := "HTTP"
deriving DecidableEq, Repr

/-- The view of a Gateway that the DNS policy code works on. -/
structure Gateway where
  name : String
  ns : String
  listeners : List Listener := []
  /-- `Status.Addresses`, of the form `<cluster>/<address>`. -/
  addresses : List GatewayAddress := []
deriving DecidableEq, Repr

/-- The namespaced name. -/
def Gateway.key (gw : Gateway) : ObjectKey := ⟨gw.ns, gw.name⟩

/-! ## DNS policies -/

/-- A custom weight with its label selector as `metav1.LabelSelectorAsSelector` reads it: the
    function is the resulting matcher, `none` its rejection of a malformed selector. -/
structure CustomWeight where
  selector : Option (Labels → Bool)
  weight : Int

/-- `LoadBalancingWeighted`: the weight of a cluster that no custom weight is for, and the custom
    ones. -/
structure LoadBalancingWeighted where
  defaultWeight : Int
  custom : List CustomWeight := []

/-- `LoadBalancingGeo`: the geo code to use by default. -/
structure LoadBalancingGeo where
  defaultGeo : String
deriving DecidableEq, Repr

/-- `LoadBalancingSpec`; nil pointers are `none`. -/
structure LoadBalancingSpec where
  weighted : Option LoadBalancingWeighted := none
  geo : Option LoadBalancingGeo := none

/-- `HealthCheckSpec`; the interval is in nanoseconds, as `time.Duration` counts. -/
structure HealthCheckSpec where
  endpoint : String := ""
  port : Option Int := none
  protocol : Option String := none
  failureThreshold : Option Int := none
  additionalHeadersRef : Option String := none
  expectedResponses : List Int := []
  allowInsecureCertificates : Bool := false
  interval : Option Int := none
deriving DecidableEq, Repr

/-- `PolicyTargetReference` of the Gateway API, which both kinds of policies have. -/
structure PolicyTargetReference where
  group : String
  kind : String
  name : String
  ns : Option String := none
deriving DecidableEq, Repr

/-- A DNSPolicy, as far as the records and probes of a Gateway depend on it. -/
structure DNSPolicy where
  name : String
  ns : String
  targetRef : PolicyTargetReference
  healthCheck : Option HealthCheckSpec := none
  loadBalancing : Option LoadBalancingSpec := none

/-- The namespaced name. -/
def DNSPolicy.key (p : DNSPolicy) : ObjectKey := ⟨p.ns, p.name⟩

/-! ## Health check probes -/

/-- `DNSHealthCheckProbeSpec`. The interval is in nanoseconds; headers are given by the name of a
    secret. -/
structure DNSHealthCheckProbeSpec where
  port : Int
  host : String
  address : String
  path : String
  protocol : String
  interval : Int
  additionalHeadersRef : Option String
  failureThreshold : Option Int
  expectedResponses : List Int
  allowInsecureCertificate : Bool
deriving DecidableEq, Repr

/-- `DNSHealthCheckProbeStatus`; `healthy` is `none` until the first result. -/
structure DNSHealthCheckProbeStatus where
  lastCheckedAt : Int := 0
  consecutiveFailures : Int := 0
  reason : String := ""
  status : Int := 0
  healthy : Option Bool := none
deriving DecidableEq, Repr

/-- A probe object: one address that a listener is checked at. -/
structure DNSHealthCheckProbe where
  metadata : ObjectMeta
  spec : DNSHealthCheckProbeSpec
  status : DNSHealthCheckProbeStatus := {}
deriving DecidableEq, Repr

/-- The test `setEndpoints` makes on each probe of an endpoint: reported unhealthy, with a
    threshold set and reached. A probe that has not reported yet counts as healthy. -/
def DNSHealthCheckProbe.pastThreshold (p : DNSHealthCheckProbe) : Bool :=
  !(p.status.healthy.getD true) &&
    p.spec.failureThreshold.any (fun threshold => decide (threshold ≤ p.status.consecutiveFailures))

/-! ## Managed zones -/

/-- What the records need to know of a zone; `ManagedZoneObject` is the whole object. -/
structure ManagedZone where
  name : String
  ns : String
  domainName : String
  conditions : List Condition := []
  /-- `Status.ID`, the provider's id of the zone. -/
  id : String := ""
deriving DecidableEq, Repr

end MultiClusterGateway
