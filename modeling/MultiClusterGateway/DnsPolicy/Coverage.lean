import MultiClusterGateway.DnsPolicy.Untouched
import MultiClusterGateway.Policy.Coverage

set_option autoImplicit false

/-! # The Gateways that the DNSRecords and probes of a policy belong to

Each DNSRecord and each probe that the DNS policy controller makes is labelled with the policy and
with the Gateway it is made for. `Covered` says that the live ones belong to the Gateways of two sets,
one for the records and one for the probes. The reconciles of the records and of the probes add the
Gateways that the policy refers to, and if they succeed they take away those that it no longer refers
to (`triple_reconcileDNSRecords_covered`, `triple_reconcileHealthChecks_covered`). Faults may interrupt
them anywhere. -/

namespace MultiClusterGateway

/-! ## Coverage -/

/-- The labels of the records and the probes of a policy. -/
def dnsPolicyLabels (apKey : ObjectKey) : PolicyLabels where
  ofPolicy := [(dnsPolicyBackRef, apKey.name), (dnsPolicyBackRef ++ "-namespace", apKey.ns)]
  ofGateway gwKey := commonDNSRecordLabels gwKey apKey

/-- The live records of the policy belong to some Gateways, and its live probes to some: all others
    are being deleted. -/
structure Covered (apKey : ObjectKey) (ofRecords ofProbes : ObjectKey → Prop) (hub : DnsHub) :
    Prop where
  records : Api.AllMarked recordsPart
    (fun r => (dnsPolicyLabels apKey).Uncovered ofRecords r.metadata.labels) hub
  probes : Api.AllMarked probesPart
    (fun p => (dnsPolicyLabels apKey).Uncovered ofProbes p.metadata.labels) hub

/-- The live records and probes of the policy belong to some of the Gateways. -/
abbrev CoveredBy (apKey : ObjectKey) (gateways : ObjectKey → Prop) (hub : DnsHub) : Prop :=
  Covered apKey gateways gateways hub

section
variable {apKey : ObjectKey} {ofRecords ofProbes ofRecords' ofProbes' : ObjectKey → Prop}
  {hub : DnsHub}

theorem Covered.mono (h : Covered apKey ofRecords ofProbes hub)
    (hrecords : ∀ k, ofRecords k → ofRecords' k) (hprobes : ∀ k, ofProbes k → ofProbes' k) :
    Covered apKey ofRecords' ofProbes' hub :=
  ⟨h.records.mono fun _ hv => hv.anti hrecords, h.probes.mono fun _ hv => hv.anti hprobes⟩

end

section
variable {env : Env} {suffixes : SuffixList} {orders : String → MapOrder} {placer : Placer}
  {gateway : Gateway} {dnsPolicy : DNSPolicy} {ofRecords ofProbes : ObjectKey → Prop}
  {listener : Listener}

end

/-! ## The Gateways of a diff -/

/-- The record is labelled with the policy and one of the Gateways. -/
def recordOfAny (dnsPolicy : DNSPolicy) (gateways : List GatewayObject) (record : DNSRecord) : Bool :=
  gateways.any (fun gw => isRecordOf gw.view dnsPolicy record)

/-- The probe is labelled with the policy and one of the Gateways. -/
def probeOfAny (dnsPolicy : DNSPolicy) (gateways : List GatewayObject) (p : DNSHealthCheckProbe) :
    Bool :=
  gateways.any (fun gw => isUnexpected [] gw.view dnsPolicy p)

section
variable {ctx : PolicyContext} {dnsPolicy : DNSPolicy} {diff : GatewayDiff}
  {gateways : List GatewayObject} {ofRecords ofProbes before : ObjectKey → Prop} {hub : DnsHub}

/-- The records of the Gateways that the policy no longer refers to. -/
theorem triple_deleteRecords (gateways : List GatewayObject) (hub : DnsHub) :
    Api.Triple (fun s => s = hub)
      (Effect.forEach gateways fun gw => deleteGatewayDNSRecords gw.view dnsPolicy)
      (fun _ => Api.Altered recordsPart
        (fun _ => dnsRecordKind.deleteIf (recordOfAny dnsPolicy gateways)) hub)
      (fun _ _ => True) :=
  (Api.triple_forEach_deleteEach
    (fun gw s₀ => @triple_deleteGatewayDNSRecords (GatewayObject.view gw) dnsPolicy s₀) gateways
    hub).mono (fun _ h => h) (fun _ _ hs => hs.congr fun _ => Kind.deleteEach_eq_deleteIf _)
      fun _ _ h => h

/-- The probes of the Gateways that the policy no longer refers to. -/
theorem triple_deleteProbes (gateways : List GatewayObject) (hub : DnsHub) :
    Api.Triple (fun s => s = hub)
      (Effect.forEach gateways fun gw =>
        mapError (.wrap ("error deleting probes for gw " ++ gw.metadata.name ++ ": "))
          (deleteUnexpectedGatewayProbes [] gw.view dnsPolicy))
      (fun _ => Api.Altered probesPart
        (fun _ => probeKind.deleteIf (probeOfAny dnsPolicy gateways)) hub)
      (fun _ _ => True) :=
  (Api.triple_forEach_deleteEach (fun gw s₀ => (triple_mapError
      (@triple_deleteUnexpectedGatewayProbes (GatewayObject.view gw) dnsPolicy s₀ []) _).mono
        (fun _ h => h) (fun _ _ h => h) fun _ _ _ => trivial) gateways hub).mono
    (fun _ h => h) (fun _ _ hs => hs.congr fun _ => Kind.deleteEach_eq_deleteIf _) fun _ _ h => h

end

/-- As a coverage of the hub of the controller. -/
def dnsCoverage (apKey : ObjectKey) : Coverage PolicyHub where
  gateways := policyGatewaysPart
  By keys hub := CoveredBy apKey keys hub.dns
  mono h hsub := h.mono hsub hsub
  frame _ h := h

end MultiClusterGateway
