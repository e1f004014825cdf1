import MultiClusterGateway.Policy.Lifecycle
import MultiClusterGateway.TlsPolicy.Certificates

set_option autoImplicit false

/-! # The controller of TLS policies (`pkg/controllers/tlspolicy/tlspolicy_controller.go`)

`Reconcile` with what it calls: `reconcileResources` checks the policy and its issuer, writes the
certificates of the Gateways, claims the target, notes the policy on the Gateways and sets their
condition; `deleteResources` takes all of this away. What the controller takes from the
kuadrant-operator is given: which Gateways refer to the policy, how the references on them are
written and removed, and how a route is fetched.

The controller is written like that of the DNS policies, but two of its steps differ. A policy whose
target is not found is cleaned up and then reported as not found all the same. And when the finalizer
cannot be added since the policy is gone, the reconcile goes on. -/

namespace MultiClusterGateway.TlsPolicy

/-! ## The policy -/

/-- The spec of a policy object: the target, and the certificates to make for it. -/
structure TLSPolicyObjectSpec where
  targetRef : PolicyTargetReference
  certificateSpec : TLSPolicySpec

/-- A TLSPolicy with its metadata and its status. -/
abbrev TLSPolicyObject := PolicyObject TLSPolicyObjectSpec

/-- The part of the policy that its certificates are made from. -/
def toTLSPolicy (p : TLSPolicyObject) : TLSPolicy :=
  ⟨p.metadata.name, p.metadata.ns, p.spec.certificateSpec⟩

/-- `TLSPolicy.Validate`. -/
def validate (p : TLSPolicyObject) : Except String Unit :=
  if p.spec.targetRef.group ≠ "gateway.networking.k8s.io" then
    .error ("invalid targetRef.Group " ++ p.spec.targetRef.group ++
      ". The only supported group is gateway.networking.k8s.io")
  else if p.spec.targetRef.kind ≠ "Gateway" then
    .error ("invalid targetRef.Kind " ++ p.spec.targetRef.kind ++
      ". The only supported kind is Gateway")
  else match p.spec.targetRef.ns.filter (fun ns => ns != p.metadata.ns) with
    | some ns => .error ("invalid targetRef.Namespace " ++ ns ++
        ". Currently only supporting references to the same namespace")
    | none => .ok ()

/-! ## Objects and answers -/

/-- The objects of the controller; of issuers only the names matter. -/
structure TlsHub where
  certificates : Certificates
  gateways : Objects gatewayKind
  issuers : List ObjectKey
  clusterIssuers : List String

/-- The certificates of the hub. -/
def tlsCertificatesPart : Part TlsHub Certificates where
  get := TlsHub.certificates
  set hub certificates := { hub with certificates := certificates }
  get_set _ _ := rfl
  set_get _ := rfl
  set_set _ _ _ := rfl

/-- The Gateways, on which the conditions are reported. -/
def tlsGatewaysPart : Part TlsHub (Objects gatewayKind) where
  get := TlsHub.gateways
  set hub gateways := { hub with gateways := gateways }
  get_set _ _ := rfl
  set_get _ := rfl
  set_set _ _ _ := rfl

/-- What a reconcile is answered, beside the objects, and how its calls fare. -/
structure TLSPolicyCall where
  base : BaseReconciler TLSPolicyObjectSpec TlsHub
  /-- the orders in which the secrets of a Gateway are visited -/
  orders : ObjectKey → MapOrder
  computeGatewayDiffs : Except ApiError GatewayDiff
  reconcileTargetBackReference : Api (Objects gatewayKind) Unit
  deleteTargetBackReference : Api (Objects gatewayKind) Unit
  reconcileGatewayPolicyReferences : Api (Objects gatewayKind) Unit
  /-- the route that a policy may refer to, by its metadata -/
  fetchValidHTTPRoute : ObjectKey → Except ApiError ObjectMeta
  /-- the verb `%q` of `fmt`, and `%v` of a target -/
  quote : String → String
  showTarget : PolicyTargetReference → String
  /-- the text of the kind of the policy object -/
  groupVersionKind : String
  /-- an error of the cache -/
  getErr : Option ApiError := none
  faults : List (Option Fault) := []

/-! ## The target and the issuer -/

/-- `FetchValidGateway`. -/
def fetchValidGateway (key : ObjectKey) : Api TlsHub ObjectMeta := do
  let gw ← Api.get tlsGatewaysPart key
  return gw.metadata

/-- `FetchValidTargetRef`. -/
def fetchValidTargetRef (call : TLSPolicyCall) (targetRef : PolicyTargetReference)
    (defaultNs : String) : Api TlsHub ObjectMeta :=
  let objKey : ObjectKey := ⟨targetRef.ns.getD defaultNs, targetRef.name⟩
  if targetRef.kind = "HTTPRoute" then
    match call.fetchValidHTTPRoute objKey with
    | .ok route => pure route
    | .error err => Effect.fail err
  else if targetRef.kind = "Gateway" then fetchValidGateway objKey
  else Effect.fail ⟨.other, "FetchValidTargetRef: targetRef (" ++ call.showTarget targetRef ++
    ") to unknown network resource"⟩

/-- `validateIssuer`. -/
def validateIssuer (call : TLSPolicyCall) (policy : TLSPolicyObject) : Api TlsHub Unit :=
  let issuerRef := policy.spec.certificateSpec.issuerRef
  if issuerRef.kind = "" ∨ issuerRef.kind = "Issuer" then
    Api.read fun hub =>
      if (⟨policy.metadata.ns, issuerRef.name⟩ : ObjectKey) ∈ hub.issuers then .ok ()
      else .error (Objects.notFound ⟨policy.metadata.ns, issuerRef.name⟩)
  else if issuerRef.kind = "ClusterIssuer" then
    Api.read fun hub =>
      if issuerRef.name ∈ hub.clusterIssuers then .ok ()
      else .error (Objects.notFound ⟨"", issuerRef.name⟩)
  else Effect.fail ⟨.other, "invalid value " ++ call.quote issuerRef.kind ++
    " for issuerRef.kind. Must be empty, \"Issuer\" or \"ClusterIssuer\""⟩

/-! ## Certificates of several Gateways -/

/-- `deleteGatewayCertificates`. -/
def deleteGatewayCertificates (gateway : GatewayObject) (tlsPolicy : TLSPolicy) :
    Api Certificates Unit :=
  deleteUnexpectedGatewayCertificates [] gateway tlsPolicy

/-- `reconcileCertificates`. -/
def reconcileCertificates (orders : ObjectKey → MapOrder) (tlsPolicy : TLSPolicy)
    (gwDiff : GatewayDiff) : Api Certificates Unit := do
  Effect.forEach gwDiff.gatewaysWithInvalidPolicyRef fun gw =>
    deleteGatewayCertificates gw tlsPolicy
  Effect.forEach gwDiff.referred fun gw =>
    reconcileGatewayCertificates (orders gw.metadata.key) gw tlsPolicy

/-! ## reconcileResources and deleteResources -/

/-- `TLSPolicyAffected`, the type of the condition. -/
def tlsPolicyAffected : String := "kuadrant.io/TLSPolicyAffected"

/-- The steps whose errors are reported on the Gateways. -/
inductive Stage where
  | certificates
  | targetBackReference
  | gatewayPolicyReferences
deriving DecidableEq, Repr

/-- What the error of a step is wrapped in. -/
def Stage.text : Stage → String
  | .certificates => "reconcile Certificates error "
  | .targetBackReference => "reconcile TargetBackReference error "
  | .gatewayPolicyReferences => "ReconcileGatewayPolicyReferences error "

/-- The reason in the condition for it. -/
def Stage.reason : Stage → PolicyReason
  | .certificates => .invalid
  | .targetBackReference => .conflicted
  | .gatewayPolicyReferences => .unknown

/-- The error that `reconcileResources` returns. -/
inductive ResourcesError where
  | invalidPolicy (message : String)
  | issuer (err : ApiError)
  | gatewayDiffs (err : ApiError)
  | failed (stage : Stage) (err : ApiError) (updateErr : Option ApiError)
  | gatewayConditions (updateErr : ApiError)
deriving DecidableEq, Repr

/-- The text of the error. -/
def ResourcesError.message : ResourcesError → String
  | .invalidPolicy message => message
  | .issuer err => err.message
  | .gatewayDiffs err => err.message
  | .failed stage err none => stage.text ++ err.message
  | .failed stage err (some updateErr) => stage.text ++ err.message ++ "\n" ++ updateErr.message
  | .gatewayConditions updateErr => "failed to update gateway conditions " ++ updateErr.message ++ " "

section
variable (call : TLSPolicyCall) (target : ObjectMeta)

/-- A step has failed: the Gateways get the condition that says so. -/
def reportFailure (policy : TLSPolicyObject) (gatewayDiff : GatewayDiff) (stage : Stage)
    (err : ApiError) : Api TlsHub (Option ResourcesError) :=
  let condition := buildPolicyAffectedCondition tlsPolicyAffected call.groupVersionKind
    policy.metadata.key target stage.reason (some err)
  reportOnGateways tlsGatewaysPart condition gatewayDiff
    fun updateErr => some (.failed stage err updateErr)

/-- A step, and what follows it unless it fails. -/
def runStage (policy : TLSPolicyObject) (gatewayDiff : GatewayDiff) (stage : Stage)
    (x : Api TlsHub Unit) (next : Api TlsHub (Option ResourcesError)) :
    Api TlsHub (Option ResourcesError) :=
  orReport x (reportFailure call target policy gatewayDiff stage) next

/-- The last step. -/
def reportSuccess (policy : TLSPolicyObject) (gatewayDiff : GatewayDiff) :
    Api TlsHub (Option ResourcesError) :=
  let condition := buildPolicyAffectedCondition tlsPolicyAffected call.groupVersionKind
    policy.metadata.key target .accepted none
  reportOnGateways tlsGatewaysPart condition gatewayDiff
    fun updateErr => updateErr.map .gatewayConditions

/-- `reconcileResources`; `none` is nil. -/
def reconcileResources (policy : TLSPolicyObject) : Api TlsHub (Option ResourcesError) :=
  match validate policy with
  | .error message => return some (.invalidPolicy message)
  | .ok _ => do
    match ← Api.outcome (validateIssuer call policy) with
    | .error err => return some (.issuer err)
    | .ok _ =>
      match call.computeGatewayDiffs with
      | .error err => return some (.gatewayDiffs err)
      | .ok gatewayDiff =>
        runStage call target policy gatewayDiff .certificates
          (Api.zoom tlsCertificatesPart
            (reconcileCertificates call.orders (toTLSPolicy policy) gatewayDiff)) <|
        runStage call target policy gatewayDiff .targetBackReference
          (Api.zoom tlsGatewaysPart call.reconcileTargetBackReference) <|
        runStage call target policy gatewayDiff .gatewayPolicyReferences
          (Api.zoom tlsGatewaysPart call.reconcileGatewayPolicyReferences) <|
        reportSuccess call target policy gatewayDiff

end

/-- The part of `deleteResources` that concerns the Gateways. -/
def deleteReferences (call : TLSPolicyCall) (targetNetworkObject : Option ObjectMeta)
    (gatewayDiffObj : GatewayDiff) : Api TlsHub Unit := do
  (if targetNetworkObject.isSome then
    Api.zoom tlsGatewaysPart call.deleteTargetBackReference else pure ())
  Api.zoom tlsGatewaysPart call.reconcileGatewayPolicyReferences
  updateGatewayCondition tlsGatewaysPart (removedCondition tlsPolicyAffected) gatewayDiffObj

/-- `deleteResources`. -/
def deleteResources (call : TLSPolicyCall) (policy : TLSPolicyObject)
    (targetNetworkObject : Option ObjectMeta) : Api TlsHub Unit :=
  match call.computeGatewayDiffs with
  | .error err => Effect.fail err
  | .ok gatewayDiffObj => do
    Api.zoom tlsCertificatesPart
      (reconcileCertificates call.orders (toTLSPolicy policy) gatewayDiffObj)
    deleteReferences call targetNetworkObject gatewayDiffObj

/-! ## Reconcile -/

/-- `TLSPolicyFinalizer`. -/
def tlsPolicyFinalizer : String := "kuadrant.io/tls-policy"

/-- A policy that is not marked and whose target is not found. The error of the target is returned
    even if the resources could be deleted. -/
def cleanUpWithoutTarget (call : TLSPolicyCall) (policy : TLSPolicyObject) (err : ApiError) :
    PolicyApi TLSPolicyObjectSpec TlsHub (PolicyResult ResourcesError) :=
  if err.kind = .notFound then do
    match ← Api.outcome (Api.zoom ownedRest (deleteResources call policy none)) with
    | .error deleteErr => return { err := some (.api deleteErr) }
    | .ok _ => return { err := some (.api err) }
  else return { err := some (.api err) }

/-- A policy that is not marked, with its target. A policy that is not found is taken for one that
    has the finalizer; in memory it has it. -/
def reconcileWithTarget (call : TLSPolicyCall) (target : ObjectMeta)
    (previous : Versioned TLSPolicyObject) :
    PolicyApi TLSPolicyObjectSpec TlsHub (PolicyResult ResourcesError) := do
  let added ← (if tlsPolicyFinalizer ∈ previous.value.metadata.finalizers then pure (.ok previous)
    else Api.outcome (call.base.addFinalizer tlsPolicyFinalizer previous))
  match added with
  | .ok policy =>
    reconcilePolicy "TLS" policy.value.spec.targetRef.kind ResourcesError.message
      (reconcileResources call target policy.value) previous policy
  | .error err =>
    if err.kind = .notFound then
      let policy : Versioned TLSPolicyObject :=
        ⟨previous.version, previous.value.withFinalizer tlsPolicyFinalizer⟩
      reconcilePolicy "TLS" policy.value.spec.targetRef.kind ResourcesError.message
        (reconcileResources call target policy.value) previous policy
    else return { err := some (.api err) }

/-- What follows the fetch of the target. -/
def afterFetch (call : TLSPolicyCall) (previous : Versioned TLSPolicyObject)
    (fetched : Except ApiError ObjectMeta) :
    PolicyApi TLSPolicyObjectSpec TlsHub (PolicyResult ResourcesError) :=
  match previous.value.metadata.deletionTimestamp, fetched with
  | true, fetched =>
    cleanUpPolicy call.base tlsPolicyFinalizer
      (deleteResources call previous.value fetched.toOption) previous
  | false, .error err => cleanUpWithoutTarget call previous.value err
  | false, .ok target => reconcileWithTarget call target previous

/-- `Reconcile`, given what the cache answers. -/
def reconcileTLSPolicy (call : TLSPolicyCall) (answer : Except ApiError (Versioned TLSPolicyObject)) :
    PolicyApi TLSPolicyObjectSpec TlsHub (PolicyResult ResourcesError) :=
  match answer with
  | .error err => return { err := if err.kind = .notFound then none else some (.api err) }
  | .ok previous => do
    let fetched ← Api.outcome (Api.zoom ownedRest
      (fetchValidTargetRef call previous.value.spec.targetRef previous.value.metadata.ns))
    afterFetch call previous fetched

/-- The server after a reconcile. -/
def TLSPolicyCall.run (apKey : ObjectKey) (call : TLSPolicyCall)
    (cached : Option (Versioned TLSPolicyObject)) (owned : Owned TLSPolicyObject TlsHub) :
    Owned TLSPolicyObject TlsHub :=
  (reconcileTLSPolicy call (getPolicy call.getErr apKey cached) ⟨owned, call.faults⟩).2.state

end MultiClusterGateway.TlsPolicy
