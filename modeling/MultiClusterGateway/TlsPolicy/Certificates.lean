import MultiClusterGateway.Api.Gateway
import MultiClusterGateway.Lib.Order

set_option autoImplicit false

/-! # The certificates of a TLS policy

The part of the TLS policy controller that keeps the cert-manager certificates of a Gateway
(`pkg/controllers/tlspolicy/tlspolicy_certmanager_certificates.go`, `certmanager_helper.go`): one
certificate for each secret that the listeners refer to. `ReconcileResource` and `DeleteResource` are
those of the reconciler that the controller embeds.

A listener that does not pass the checks is skipped, and its errors do not end the loop. The checks
dereference the group and the kind of a reference, however, so that a panic does. The hosts of the
other listeners are grouped by secret in a map, whose order of iteration is an argument. A
certificate that exists is updated by its name, whatever its labels are, while the unexpected ones
are found by their labels: `TlsPolicy.Ownership` says what follows from this. -/

namespace MultiClusterGateway.TlsPolicy

/-- `TLSPolicyBackRefAnnotation`; it is used for labels too. -/
def tlsPolicyBackRef : String := "kuadrant.io/tlspolicy"

/-! ## Certificates and policies -/

/-- `ObjectReference` of cert-manager. -/
structure IssuerReference where
  name : String
  kind : String := ""
  group : String := ""
deriving DecidableEq, Repr

/-- `CertificatePrivateKey` of cert-manager. -/
structure CertificatePrivateKey where
  rotationPolicy : String := ""
  encoding : String := ""
  algorithm : String := ""
  size : Int := 0
deriving DecidableEq, Repr

/-- Durations are in nanoseconds. -/
structure CertificateSpec where
  commonName : String := ""
  duration : Option Int := none
  renewBefore : Option Int := none
  dnsNames : List String := []
  secretName : String
  secretLabels : Option Labels := none
  issuerRef : IssuerReference
  usages : List String := []
  revisionHistoryLimit : Option Int := none
  privateKey : Option CertificatePrivateKey := none
  /-- the fields that the controller leaves empty, by name -/
  others : List (String × String) := []
deriving DecidableEq, Repr

/-- A Certificate of cert-manager. -/
structure Certificate where
  metadata : ObjectMeta
  spec : CertificateSpec
deriving DecidableEq, Repr

/-- Certificates as objects of the server. -/
def certificateKind : Kind Certificate where
  get := Certificate.metadata
  set c m := { c with metadata := m }
  get_set _ _ := rfl
  set_get _ := rfl
  set_set _ _ _ := rfl

/-- `CertificateSpec` of a TLSPolicy: what is asked of the certificates. -/
structure TLSPolicySpec where
  issuerRef : IssuerReference
  commonName : String := ""
  duration : Option Int := none
  renewBefore : Option Int := none
  /-- `none` is the nil slice -/
  usages : Option (List String) := none
  revisionHistoryLimit : Option Int := none
  privateKey : Option CertificatePrivateKey := none
deriving DecidableEq, Repr

/-- A TLSPolicy, as far as the certificates depend on it. -/
structure TLSPolicy where
  name : String
  ns : String
  spec : TLSPolicySpec
deriving DecidableEq, Repr

def TLSPolicy.key (p : TLSPolicy) : ObjectKey := ⟨p.ns, p.name⟩

/-! ## Listeners -/

/-- What is wrong with a field, as the constructors of `field.Error` have it. -/
inductive FieldProblem where
  | required (detail : String)
  | notSupported (value : String) (supported : List String)
  | invalid (value detail : String)
deriving DecidableEq, Repr

/-- `field.Error`: the field, and what is wrong with it. -/
structure FieldError where
  path : String
  problem : FieldProblem
deriving DecidableEq, Repr

/-- The checks of one certificate reference; its group and kind are dereferenced. -/
def validateCertificateRef (path ns : String) (ref : SecretObjectReference) :
    Except ApiError (List FieldError) :=
  match ref.group, ref.kind with
  | some group, some kind => .ok (
      (if group ≠ "core" ∧ group ≠ "" then
        [⟨path ++ ".group", .notSupported group ["core", ""]⟩] else []) ++
      (if kind ≠ "Secret" ∧ kind ≠ "" then
        [⟨path ++ ".kind", .notSupported kind ["Secret", ""]⟩] else []) ++
      (match ref.ns with
      | some refNs => if refNs ≠ ns then [⟨path ++ ".namespace", .invalid refNs
          "cross-namespace secret references are not allowed in listeners"⟩] else []
      | none => []))
  | _, _ => .error nilPointer

/-- The loop over the certificate references. -/
def validateCertificateRefs (path ns : String) :
    Nat → List SecretObjectReference → Except ApiError (List FieldError)
  | _, [] => .ok []
  | i, ref :: rest => do
    let errs ← validateCertificateRef (path ++ "[" ++ toString i ++ "]") ns ref
    let more ← validateCertificateRefs path ns (i + 1) rest
    return errs ++ more

/-- `validateGatewayListenerBlock`. -/
def validateGatewayListenerBlock (path : String) (l : GatewayListener) (ns : String) :
    Except ApiError (List FieldError) := do
  let hostname : List FieldError := if l.hostname.getD "" = "" then
    [⟨path ++ ".hostname", .required "the hostname cannot be empty"⟩] else []
  match l.tls with
  | none => return hostname ++ [⟨path ++ ".tls", .required "the TLS block cannot be empty"⟩]
  | some tls =>
    let refs ← if tls.certificateRefs = [] then
        .ok [⟨path ++ ".tls.certificateRef", .required "listener has no certificateRefs"⟩]
      else validateCertificateRefs (path ++ ".tls.certificateRef") ns 0 tls.certificateRefs
    let mode : List FieldError := match tls.mode with
      | none => [⟨path ++ ".tls.mode", .required "the mode field is required"⟩]
      | some mode =>
        if mode ≠ "Terminate" then [⟨path ++ ".tls.mode", .notSupported mode ["Terminate"]⟩] else []
    return hostname ++ refs ++ mode

/-! ## The expected certificates -/

/-- `tlsHosts[ref] = append(tlsHosts[ref], host)`. -/
def addHost (tlsHosts : List (ObjectKey × List String)) (ref : ObjectKey) (host : String) :
    List (ObjectKey × List String) :=
  if ref ∈ tlsHosts.map (·.1) then
    tlsHosts.map (fun entry => if entry.1 = ref then (entry.1, entry.2 ++ [host]) else entry)
  else tlsHosts ++ [(ref, [host])]

/-- The hosts of one listener that was found valid, so that it has a hostname and a TLS block. -/
def addListener (ns : String) (tlsHosts : List (ObjectKey × List String)) (l : GatewayListener) :
    List (ObjectKey × List String) :=
  match l.tls, l.hostname with
  | some tls, some hostname => tls.certificateRefs.foldl
      (fun hosts ref => addHost hosts ⟨ref.ns.getD ns, ref.name⟩ hostname) tlsHosts
  | _, _ => tlsHosts

/-- The loop over the listeners; one that is not valid is skipped. -/
def collectHosts (ns : String) : Nat → List GatewayListener → List (ObjectKey × List String) →
    Except ApiError (List (ObjectKey × List String))
  | _, [], tlsHosts => .ok tlsHosts
  | i, l :: rest, tlsHosts => do
    let errs ← validateGatewayListenerBlock ("spec.listeners[" ++ toString i ++ "]") l ns
    collectHosts ns (i + 1) rest (if errs ≠ [] then tlsHosts else addListener ns tlsHosts l)

/-- `tlsCertificateLabels`: the labels by which the certificates of a policy and a Gateway are
    listed. -/
def tlsCertificateLabels (gwKey apKey : ObjectKey) : Labels :=
  [(tlsPolicyBackRef, apKey.name),
    (tlsPolicyBackRef ++ "-namespace", apKey.ns),
    ("gateway-namespace", gwKey.ns),
    ("gateway", gwKey.name)]

/-- The private key with what the policy sets. -/
def translatePrivateKey (key policy : CertificatePrivateKey) : CertificatePrivateKey where
  algorithm := if policy.algorithm ≠ "" then policy.algorithm else key.algorithm
  encoding := if policy.encoding ≠ "" then policy.encoding else key.encoding
  size := if policy.size ≠ 0 then policy.size else key.size
  rotationPolicy :=
    if policy.rotationPolicy ≠ "" then policy.rotationPolicy else key.rotationPolicy

/-- `translatePolicy`. -/
def translatePolicy (spec : CertificateSpec) (tlsPolicy : TLSPolicySpec) : CertificateSpec where
  commonName := if tlsPolicy.commonName ≠ "" then tlsPolicy.commonName else spec.commonName
  duration := tlsPolicy.duration <|> spec.duration
  renewBefore := tlsPolicy.renewBefore <|> spec.renewBefore
  dnsNames := spec.dnsNames
  secretName := spec.secretName
  secretLabels := spec.secretLabels
  issuerRef := spec.issuerRef
  usages := tlsPolicy.usages.getD spec.usages
  revisionHistoryLimit := tlsPolicy.revisionHistoryLimit <|> spec.revisionHistoryLimit
  privateKey := match tlsPolicy.privateKey with
    | some key => some (translatePrivateKey (spec.privateKey.getD {}) key)
    | none => spec.privateKey
  others := spec.others

/-- The usages of a certificate when the policy has none. -/
def defaultKeyUsages : List String := ["digital signature", "key encipherment"]

/-- `buildCertManagerCertificate`: the certificate for the secret, with the hosts that use it. -/
def buildCertManagerCertificate (gwKey : ObjectKey) (tlsPolicy : TLSPolicy) (secretRef : ObjectKey)
    (hosts : List String) : Certificate where
  metadata := {
    name := secretRef.name, ns := secretRef.ns,
    labels := tlsCertificateLabels gwKey tlsPolicy.key }
  spec := translatePolicy {
      dnsNames := hosts
      secretName := secretRef.name
      secretLabels := some (tlsCertificateLabels gwKey tlsPolicy.key)
      issuerRef := tlsPolicy.spec.issuerRef
      usages := defaultKeyUsages } tlsPolicy.spec

/-- `expectedCertificatesForGateway`, in the order in which the map is iterated. -/
def expectedCertificatesForGateway (order : MapOrder) (gateway : GatewayObject)
    (tlsPolicy : TLSPolicy) : Except ApiError (List Certificate) :=
  (collectHosts gateway.metadata.ns 0 gateway.spec.listeners []).map fun tlsHosts =>
    (order.visit tlsHosts).map fun entry =>
      buildCertManagerCertificate gateway.metadata.key tlsPolicy entry.1 entry.2

/-! ## Reconcile -/

/-- The certificates on the server. -/
abbrev Certificates := Objects certificateKind

/-- The certificates are all there is. -/
def certificatesPart : Part Certificates Certificates where
  get certs := certs
  set _ certs := certs
  get_set _ _ := rfl
  set_get _ := rfl
  set_set _ _ _ := rfl

/-- `alwaysUpdateCertificate`: the object to write, if it is to be updated. -/
def alwaysUpdateCertificate (existing desired : Certificate) : Option Certificate :=
  if existing.spec = desired.spec then none else some { existing with spec := desired.spec }

/-- `ReconcileResource`. -/
def reconcileResource (mutate : Certificate → Certificate → Option Certificate)
    (desired : Certificate) : Api Certificates Unit := do
  match ← Effect.attempt (Api.get certificatesPart desired.metadata.key) with
  | .error e => if e.kind = .notFound then Api.create certificatesPart desired else Effect.fail e
  | .ok existing =>
    match mutate existing desired with
    | some updated => Api.update certificatesPart updated
    | none => pure ()

/-- `deleteUnexpectedGatewayCertificates`. -/
def deleteUnexpectedGatewayCertificates (expectedCerts : List Certificate) (gateway : GatewayObject)
    (tlsPolicy : TLSPolicy) : Api Certificates Unit := do
  let certList ← Api.list certificatesPart (fun cert =>
    cert.metadata.labels.matches (tlsCertificateLabels gateway.metadata.key tlsPolicy.key))
  Effect.forEach certList fun cert =>
    if cert.metadata.key ∈ expectedCerts.map (·.metadata.key) then pure ()
    else Api.ignoreNotFound (Api.delete certificatesPart cert.metadata.key)

/-- A round of the loop over the expected certificates. -/
def reconcileCertificate (cert : Certificate) : Api Certificates Unit := do
  match ← Effect.attempt (reconcileResource alwaysUpdateCertificate cert) with
  | .ok _ => pure ()
  | .error e => if e.kind = .alreadyExists then pure () else Effect.fail e

/-- `reconcileGatewayCertificates`. -/
def reconcileGatewayCertificates (order : MapOrder) (gateway : GatewayObject)
    (tlsPolicy : TLSPolicy) : Api Certificates Unit :=
  match expectedCertificatesForGateway order gateway tlsPolicy with
  | .error e => Effect.fail e
  | .ok expectedCerts => do
    deleteUnexpectedGatewayCertificates expectedCerts gateway tlsPolicy
    Effect.forEach expectedCerts reconcileCertificate

end MultiClusterGateway.TlsPolicy
