import MultiClusterGateway.DnsPolicy.Records
import MultiClusterGateway.Policy.Controller

set_option autoImplicit false

/-! # The resources of a DNSPolicy (`pkg/controllers/dnspolicy/dnspolicy_controller.go`)

`reconcileResources` validates the policy, writes the DNSRecords and the probes of the Gateways it
refers to, claims the target, notes the policy on the Gateways and sets their condition, in this
order. The functions it takes from the kuadrant-operator are given: which Gateways the policy refers
to, how the target is claimed, and how the references on the Gateways are written. Claiming the
target comes after the records and probes are written, and its failure is one of the errors that are
reported on the Gateways. -/

namespace MultiClusterGateway

/-! ## The policy -/

/-- `HttpsProtocol`. -/
def httpsProtocol : String := "HTTPS"

/-- `HealthCheckSpec.Validate`. -/
def HealthCheckSpec.validate (formatDuration : Int → String) (s : HealthCheckSpec) :
    Except String Unit :=
  match s.interval with
  | some interval =>
    if interval < 5 * 1000000000 then
      .error ("invalid value for spec.healthCheckSpec.interval " ++ formatDuration interval ++
        ", it cannot be shorter than 5s")
    else .ok ()
  | none => .ok ()

/-- `HealthCheckSpec.Default`. -/
def HealthCheckSpec.default (s : HealthCheckSpec) : HealthCheckSpec :=
  { s with
    interval := some (s.interval.getD (30 * 1000000000))
    protocol := some (s.protocol.getD httpsProtocol) }

/-- `DNSPolicy.Validate`. -/
def DNSPolicy.validate (formatDuration : Int → String) (p : DNSPolicy) : Except String Unit :=
  if p.targetRef.group ≠ "gateway.networking.k8s.io" then
    .error ("invalid targetRef.Group " ++ p.targetRef.group ++
      ". The only supported group is gateway.networking.k8s.io")
  else if p.targetRef.kind ≠ "Gateway" then
    .error ("invalid targetRef.Kind " ++ p.targetRef.kind ++ ". The only supported kind is Gateway")
  else match p.targetRef.ns.filter (fun ns => ns != p.ns) with
    | some ns => .error ("invalid targetRef.Namespace " ++ ns ++
        ". Currently only supporting references to the same namespace")
    | none =>
      match p.healthCheck with
      | some healthCheck => healthCheck.validate formatDuration
      | none => .ok ()

/-- `DNSPolicy.Default`. -/
def DNSPolicy.default (p : DNSPolicy) : DNSPolicy :=
  { p with healthCheck := p.healthCheck.map HealthCheckSpec.default }

/-! ## Objects and answers -/

/-- The objects of the DNS policy controller, with the Gateways. -/
structure PolicyHub where
  dns : DnsHub
  gateways : Objects gatewayKind

/-- What `reconcileDNSRecords` and `reconcileHealthChecks` work on. -/
def dnsPart : Part PolicyHub DnsHub where
  get := PolicyHub.dns
  set hub dns := { hub with dns := dns }
  get_set _ _ := rfl
  set_get _ := rfl
  set_set _ _ _ := rfl

/-- The Gateways, on which the conditions are reported. -/
def policyGatewaysPart : Part PolicyHub (Objects gatewayKind) where
  get := PolicyHub.gateways
  set hub gateways := { hub with gateways := gateways }
  get_set _ _ := rfl
  set_get _ := rfl
  set_set _ _ _ := rfl

/-- What a call depends on beside the objects. -/
structure PolicyContext where
  env : Env
  suffixes : SuffixList
  /-- the orders of the groups, by listener -/
  orders : String → MapOrder
  placer : ObjectKey → Placer
  computeGatewayDiffs : Except ApiError GatewayDiff
  reconcileTargetBackReference : Api (Objects gatewayKind) Unit
  reconcileGatewayPolicyReferences : Api (Objects gatewayKind) Unit
  formatDuration : Int → String
  /-- the text of the kind of the policy object -/
  groupVersionKind : String

/-! ## Records and probes -/

/-- `deleteGatewayDNSRecords`. -/
def deleteGatewayDNSRecords (gateway : Gateway) (dnsPolicy : DNSPolicy) : Api DnsHub Unit := do
  let recordsList ← Api.list recordsPart (fun record =>
    record.metadata.labels.matches (commonDNSRecordLabels gateway.key dnsPolicy.key))
  Effect.forEach recordsList fun record =>
    Api.ignoreNotFound (Api.delete recordsPart record.metadata.key)

/-- `reconcileDNSRecords`. -/
def reconcileDNSRecords (ctx : PolicyContext) (dnsPolicy : DNSPolicy) (gwDiff : GatewayDiff) :
    Api DnsHub Unit := do
  Effect.forEach gwDiff.gatewaysWithInvalidPolicyRef fun gw =>
    deleteGatewayDNSRecords gw.view dnsPolicy
  Effect.forEach gwDiff.referred fun gw =>
    reconcileGatewayDNSRecords ctx.env ctx.suffixes ctx.orders (ctx.placer gw.metadata.key) gw.view
      dnsPolicy

/-- `reconcileHealthChecks`. -/
def reconcileHealthChecks (dnsPolicy : DNSPolicy) (gwDiff : GatewayDiff) : Api DnsHub Unit := do
  Effect.forEach gwDiff.referred fun gw => reconcileGatewayProbes gw.view dnsPolicy
  Effect.forEach gwDiff.gatewaysWithInvalidPolicyRef fun gw =>
    mapError (.wrap ("error deleting probes for gw " ++ gw.metadata.name ++ ": "))
      (deleteUnexpectedGatewayProbes [] gw.view dnsPolicy)

/-! ## reconcileResources -/

/-- `DNSPolicyAffected`, the type of the condition. -/
def dnsPolicyAffected : String := "kuadrant.io/DNSPolicyAffected"

/-- The steps whose errors are reported on the Gateways. -/
inductive Stage where
  | dnsRecords
  | healthChecks
  | targetBackReference
  | gatewayPolicyReferences
deriving DecidableEq, Repr

/-- What the error of a step is wrapped in. -/
def Stage.text : Stage → String
  | .dnsRecords => "reconcile DNSRecords error "
  | .healthChecks => "reconcile HealthChecks error "
  | .targetBackReference => "reconcile TargetBackReference error "
  | .gatewayPolicyReferences => "ReconcileGatewayPolicyReferences error "

/-- The reason in the condition for it. -/
def Stage.reason : Stage → PolicyReason
  | .dnsRecords => .invalid
  | .healthChecks => .invalid
  | .targetBackReference => .conflicted
  | .gatewayPolicyReferences => .unknown

/-- The error that `reconcileResources` returns. -/
inductive ResourcesError where
  | invalidPolicy (message : String)
  | gatewayDiffs (err : ApiError)
  | failed (stage : Stage) (err : ApiError) (updateErr : Option ApiError)
  | gatewayConditions (updateErr : ApiError)
deriving DecidableEq, Repr

/-- Its text; `errors.Join` puts the errors that are not nil on lines of their own. -/
def ResourcesError.message : ResourcesError → String
  | .invalidPolicy message => message
  | .gatewayDiffs err => err.message
  | .failed stage err none => stage.text ++ err.message
  | .failed stage err (some updateErr) => stage.text ++ err.message ++ "\n" ++ updateErr.message
  | .gatewayConditions updateErr => "failed to update gateway conditions " ++ updateErr.message ++ " "

section
variable (ctx : PolicyContext) (target : GatewayObject)

/-- A step has failed: the Gateways get the condition that says so. -/
def reportFailure (dnsPolicy : DNSPolicy) (gatewayDiff : GatewayDiff) (stage : Stage)
    (err : ApiError) : Api PolicyHub (Option ResourcesError) :=
  let condition := buildPolicyAffectedCondition dnsPolicyAffected ctx.groupVersionKind dnsPolicy.key
    target.metadata stage.reason (some err)
  reportOnGateways policyGatewaysPart condition gatewayDiff
    fun updateErr => some (.failed stage err updateErr)

/-- A step, and what follows it unless it fails. -/
def runStage (dnsPolicy : DNSPolicy) (gatewayDiff : GatewayDiff) (stage : Stage)
    (x : Api PolicyHub Unit) (next : Api PolicyHub (Option ResourcesError)) :
    Api PolicyHub (Option ResourcesError) :=
  orReport x (reportFailure ctx target dnsPolicy gatewayDiff stage) next

/-- The last step. -/
def reportSuccess (dnsPolicy : DNSPolicy) (gatewayDiff : GatewayDiff) :
    Api PolicyHub (Option ResourcesError) :=
  let condition := buildPolicyAffectedCondition dnsPolicyAffected ctx.groupVersionKind dnsPolicy.key
    target.metadata .accepted none
  reportOnGateways policyGatewaysPart condition gatewayDiff
    fun updateErr => updateErr.map .gatewayConditions

/-- `reconcileResources`; `none` is nil. -/
def reconcileResources (dnsPolicy : DNSPolicy) : Api PolicyHub (Option ResourcesError) :=
  match dnsPolicy.validate ctx.formatDuration with
  | .error message => return some (.invalidPolicy message)
  | .ok _ =>
    let dnsPolicy := dnsPolicy.default
    match ctx.computeGatewayDiffs with
    | .error err => return some (.gatewayDiffs err)
    | .ok gatewayDiff =>
      runStage ctx target dnsPolicy gatewayDiff .dnsRecords
        (Api.zoom dnsPart (reconcileDNSRecords ctx dnsPolicy gatewayDiff)) <|
      runStage ctx target dnsPolicy gatewayDiff .healthChecks
        (Api.zoom dnsPart (reconcileHealthChecks dnsPolicy gatewayDiff)) <|
      runStage ctx target dnsPolicy gatewayDiff .targetBackReference
        (Api.zoom policyGatewaysPart ctx.reconcileTargetBackReference) <|
      runStage ctx target dnsPolicy gatewayDiff .gatewayPolicyReferences
        (Api.zoom policyGatewaysPart ctx.reconcileGatewayPolicyReferences) <|
      reportSuccess ctx target dnsPolicy gatewayDiff

end

end MultiClusterGateway
