import MultiClusterGateway.DnsPolicy.Probes
import MultiClusterGateway.DnsPolicy.Zones

set_option autoImplicit false

/-! # The DNS records and probes of a policy

`reconcileDNSRecords` and `reconcileHealthChecks` of the DNS policy controller with what they call
(`dnspolicy_dnsrecords.go`, `dnspolicy_healthchecks.go`, `dns_helper.go`), over the records, zones
and probes behind the API server. The answers of the placer are given.

Every call to the server may fail, and what was written before an error stays written. A round of
the loop over the listeners looks for the zone, collects the clusters on which the listener has
routes, creates the record or takes the one that exists, and writes the endpoints that
`setEndpoints` computes. The loop ends early at a listener without routes, whose record it deletes,
and at an error. The loop over the probes updates the spec of a probe that exists and does not look
at its labels. The texts of the errors are those of the source, with the text of a target given by
`Env`. -/

namespace MultiClusterGateway

/-- The objects that the DNS policy controller reads and writes. -/
structure DnsHub where
  records : Objects dnsRecordKind
  zones : Objects managedZoneKind
  probes : ProbeStore

/-- The DNSRecords of the hub. -/
def recordsPart : Part DnsHub (Objects dnsRecordKind) where
  get := DnsHub.records
  set hub records := { hub with records := records }
  get_set _ _ := rfl
  set_get _ := rfl
  set_set _ _ _ := rfl

/-- Its ManagedZones. -/
def zonesPart : Part DnsHub (Objects managedZoneKind) where
  get := DnsHub.zones
  set hub zones := { hub with zones := zones }
  get_set _ _ := rfl
  set_get _ := rfl
  set_set _ _ _ := rfl

/-- Its probes. -/
def probesPart : Part DnsHub ProbeStore where
  get := DnsHub.probes
  set hub probes := { hub with probes := probes }
  get_set _ _ := rfl
  set_get _ := rfl
  set_set _ _ _ := rfl

/-- What the placer answers for a Gateway: the clusters it is placed on, in the order in which they
    are visited, and for a listener and a cluster the number of attached routes and the addresses. -/
structure Placer where
  getPlacedClusters : Except ApiError (List String)
  listenerTotalAttachedRoutes : String → String → Except ApiError Int
  getClusterGateway : String → String → Except ApiError ClusterGateway

/-- An error is returned as another one; a panic goes through. -/
def mapError {S α : Type} (f : ApiError → ApiError) (x : Api S α) : Api S α := do
  match ← Api.outcome x with
  | .ok a => pure a
  | .error e => Effect.fail (f e)

/-! ## The records of listeners -/

/-- The key under which the record of a listener is looked up. -/
def dnsRecordKey (gateway : Gateway) (listenerName : String) : ObjectKey :=
  ⟨gateway.ns, dnsRecordName gateway.name listenerName⟩

/-- `removeDNSForDeletedListeners`. -/
def removeDNSForDeletedListeners (gateway : Gateway) : Api DnsHub Unit := do
  let dnsList ← Api.list recordsPart (fun dns => dns.metadata.ns == gateway.ns &&
    dns.metadata.labels.matches [(labelGatewayReference, gateway.name)])
  Effect.forEach dnsList fun dns =>
    if gateway.listeners.any (fun listener =>
      listener.name == (dns.metadata.labels.get? labelListenerReference).getD "") then pure ()
    else Api.ignoreNotFound (Api.delete recordsPart dns.metadata.key)

/-- `getManagedZoneForListener`. -/
def getManagedZoneForListener (fold : Text.CaseFold) (suffixes : SuffixList) (ns : String)
    (listener : Listener) : Api DnsHub ManagedZoneObject := do
  let managedZones ← Api.list zonesPart (fun mz => mz.metadata.ns == ns)
  match listener.hostname with
  | none => Effect.fail nilPointer
  | some host =>
    match findMatchingManagedZone fold suffixes host host managedZones with
    | .ok (mz, _) => pure mz
    | .error e => Effect.fail ⟨.other, e.message⟩

/-- `buildDNSRecordForListener`, with the zone set as the controller of the record. -/
def buildDNSRecordForListener (gateway : Gateway) (dnsPolicy : DNSPolicy) (targetListener : Listener)
    (managedZone : ManagedZoneObject) : DNSRecord where
  metadata := {
    name := dnsRecordName gateway.name targetListener.name
    ns := managedZone.metadata.ns
    labels := Labels.set (commonDNSRecordLabels gateway.key dnsPolicy.key) labelListenerReference
      targetListener.name
    controllerRef := some managedZone.metadata.name }
  spec := { managedZoneRef := managedZone.metadata.name, endpoints := [] }

/-- `createDNSRecordForListener`: a record of that name that exists is taken as it is. -/
def createDNSRecordForListener (gateway : Gateway) (dnsPolicy : DNSPolicy) (mz : ManagedZoneObject)
    (listener : Listener) : Api DnsHub DNSRecord := do
  let dnsRecord := buildDNSRecordForListener gateway dnsPolicy listener mz
  match ← Effect.attempt (Api.create recordsPart dnsRecord) with
  | .ok _ => return dnsRecord
  | .error e =>
    if e.kind = .alreadyExists then Api.get recordsPart dnsRecord.metadata.key else Effect.fail e

/-- `getDNSRecordForListener`. -/
def getDNSRecordForListener (gateway : Gateway) (listener : Listener) : Api DnsHub DNSRecord :=
  Api.get recordsPart (dnsRecordKey gateway listener.name)

/-- `deleteDNSRecordForListener`. -/
def deleteDNSRecordForListener (gateway : Gateway) (listener : Listener) : Api DnsHub Unit :=
  Api.delete recordsPart (dnsRecordKey gateway listener.name)

/-- The record with other endpoints. -/
def DNSRecord.withEndpoints (record : DNSRecord) (endpoints : List Endpoint) : DNSRecord :=
  { record with spec := { record.spec with endpoints := endpoints } }

/-- `setEndpoints`, with the probes it lists and the update of the record if it has changed. -/
def setRecordEndpoints (env : Env) (order : MapOrder) (mcgTarget : MultiClusterGatewayTarget)
    (dnsRecord : DNSRecord) (dnsPolicy : DNSPolicy) (listenerName host : String) :
    Api DnsHub Unit := do
  let probes ← getDNSHealthCheckProbes probesPart mcgTarget.gateway dnsPolicy
  let endpoints :=
    setEndpoints env order mcgTarget dnsRecord.spec.endpoints probes listenerName host
  if endpoints = dnsRecord.spec.endpoints then pure ()
  else Api.update recordsPart (dnsRecord.withEndpoints endpoints)

/-! ## The loop over the listeners -/

/-- A cluster counts when it reports routes; one that cannot say does not. -/
def reportsRoutes (placer : Placer) (listenerName cluster : String) : Bool :=
  match placer.listenerTotalAttachedRoutes listenerName cluster with
  | .ok attached => attached != 0
  | .error _ => false

/-- The loop over the clusters. -/
def collectClusterGateways (placer : Placer) (listenerName : String) :
    List String → Except ApiError (List ClusterGateway)
  | [] => .ok []
  | cluster :: rest =>
    if reportsRoutes placer listenerName cluster then
      match placer.getClusterGateway listenerName cluster with
      | .error e => .error (e.describe "get cluster gateway failed: ")
      | .ok cg => do
        let clusterGateways ← collectClusterGateways placer listenerName rest
        return cg :: clusterGateways
    else collectClusterGateways placer listenerName rest

/-- Whether the loop over the listeners goes on. -/
inductive Flow where
  | next
  | done
deriving DecidableEq, Repr

/-- The record of a listener, new or not, with the errors of the loop. -/
def obtainDNSRecord (gateway : Gateway) (dnsPolicy : DNSPolicy) (mz : ManagedZoneObject)
    (listener : Listener) (host : String) : Api DnsHub DNSRecord := do
  match ← Api.outcome (createDNSRecordForListener gateway dnsPolicy mz listener) with
  | .ok dnsRecord => pure dnsRecord
  | .error e =>
    if e.kind = .alreadyExists then
      mapError (fun e => ⟨.other,
          "failed to get dns record for host " ++ listener.name ++ " : " ++ e.message ++ " "⟩)
        (getDNSRecordForListener gateway listener)
    else Effect.fail ⟨.other,
      "failed to create dns record for listener host " ++ host ++ " : " ++ e.message ++ " "⟩

section
variable (env : Env) (suffixes : SuffixList) (orders : String → MapOrder) (placer : Placer)

/-- The record of a listener that has routes. -/
def publishListener (gateway : Gateway) (dnsPolicy : DNSPolicy) (mz : ManagedZoneObject)
    (listener : Listener) (host : String) (clusterGateways : List ClusterGateway) :
    Api DnsHub Unit := do
  let dnsRecord ← obtainDNSRecord gateway dnsPolicy mz listener host
  match MultiClusterGatewayTarget.new gateway clusterGateways dnsPolicy.loadBalancing with
  | .error text => Effect.fail ⟨.other, "failed to create multi cluster gateway target for listener "
      ++ listener.name ++ " : " ++ text ++ " "⟩
  | .ok mcgTarget =>
    mapError (fun e => ⟨.other, "failed to add dns record dnsTargets " ++ e.message ++ " " ++
        env.formatTarget mcgTarget⟩)
      (setRecordEndpoints env (orders listener.name) mcgTarget dnsRecord dnsPolicy listener.name host)

/-- A round of the loop over the listeners. -/
def reconcileListener (gateway : Gateway) (dnsPolicy : DNSPolicy) (clusters : List String)
    (listener : Listener) : Api DnsHub Flow := do
  let mz ← getManagedZoneForListener env.fold suffixes gateway.ns listener
  match listener.hostname with
  | none => Effect.fail nilPointer
  | some "" => return .next
  | some host =>
    match collectClusterGateways placer listener.name clusters with
    | .error e => Effect.fail e
    | .ok [] => do
      mapError (.describe ("failed to delete dns record for listener " ++ listener.name ++ " : "))
        (Api.ignoreNotFound (deleteDNSRecordForListener gateway listener))
      return .done
    | .ok clusterGateways => do
      publishListener env orders gateway dnsPolicy mz listener host clusterGateways
      return .next

/-- The loop over the listeners, which a listener without routes ends. -/
def reconcileListeners (gateway : Gateway) (dnsPolicy : DNSPolicy) (clusters : List String) :
    List Listener → Api DnsHub Unit
  | [] => pure ()
  | listener :: rest => do
    match ← reconcileListener env suffixes orders placer gateway dnsPolicy clusters listener with
    | .next => reconcileListeners gateway dnsPolicy clusters rest
    | .done => pure ()

/-- `reconcileGatewayDNSRecords`. -/
def reconcileGatewayDNSRecords (gateway : Gateway) (dnsPolicy : DNSPolicy) : Api DnsHub Unit := do
  removeDNSForDeletedListeners gateway
  match placer.getPlacedClusters with
  | .error e => Effect.fail e
  | .ok clusters =>
    reconcileListeners env suffixes orders placer gateway dnsPolicy clusters gateway.listeners

end

/-! ## The probes -/

/-- A round of the loop over the expected probes: labels of a probe that exists are not looked at. -/
def createOrUpdateProbe (hcProbe : DNSHealthCheckProbe) : Api DnsHub Unit := do
  match ← Effect.attempt (Api.get probesPart hcProbe.metadata.key) with
  | .error e => if e.kind = .notFound then Api.create probesPart hcProbe else Effect.fail e
  | .ok p => Api.update probesPart { p with spec := hcProbe.spec }

/-- `createOrUpdateProbes`. -/
def createOrUpdateProbes (expectedProbes : List DNSHealthCheckProbe) : Api DnsHub Unit :=
  Effect.forEach expectedProbes createOrUpdateProbe

/-- `deleteUnexpectedGatewayProbes`. -/
def deleteUnexpectedGatewayProbes (expectedProbes : List DNSHealthCheckProbe) (gw : Gateway)
    (dnsPolicy : DNSPolicy) : Api DnsHub Unit := do
  let existingProbes ← Api.list probesPart (fun p =>
    p.metadata.labels.matches (commonDNSRecordLabels gw.key dnsPolicy.key))
  Effect.forEach existingProbes fun p =>
    if expectedProbes.any (fun expected => expected.metadata.name == p.metadata.name &&
      expected.metadata.ns == p.metadata.ns) then pure ()
    else Api.delete probesPart p.metadata.key

/-- The probes of one Gateway that the policy refers to. -/
def reconcileGatewayProbes (gw : Gateway) (dnsPolicy : DNSPolicy) : Api DnsHub Unit :=
  match expectedProbesForGateway gw dnsPolicy with
  | .error e => Effect.fail e
  | .ok expectedProbes => do
    mapError (.wrap ("error creating and updating expected proves for gateway " ++ gw.name ++ ": "))
      (createOrUpdateProbes expectedProbes)
    mapError (.wrap ("error removing unexpected probes for gateway " ++ gw.name ++ ": "))
      (deleteUnexpectedGatewayProbes expectedProbes gw dnsPolicy)

end MultiClusterGateway
