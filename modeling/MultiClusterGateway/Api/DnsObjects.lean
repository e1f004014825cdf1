import MultiClusterGateway.Api.DNSPolicy
import MultiClusterGateway.Api.Server

set_option autoImplicit false

/-! # The DNS objects behind the API server

`DNSRecord` and `DNSHealthCheckProbe` as kinds of objects, and the whole `ManagedZone` as its own
controller reads and writes it (`ManagedZone` is the part that the other controllers read).

Only the metadata of an object decide what a call does with it, so a kind is a type together with
the place of the metadata in it (`Kind`), and what `Api.Server` proves of objects holds of the kinds
here without proofs of their own. A write to the status is the same call as any other in this layer.
Where a result depends on the difference, on versions or on generations, the object has a machine of
its own: `DnsRecord.Machine` for records and `HealthCheck.Counter` for probes. -/

namespace MultiClusterGateway

/-- DNSRecords as objects of the server. -/
def dnsRecordKind : Kind DNSRecord where
  get := DNSRecord.metadata
  set r m := { r with metadata := m }
  get_set _ _ := rfl
  set_get _ := rfl
  set_set _ _ _ := rfl

/-- The condition `Ready` of the record is true. -/
def isRecordReady (r : DNSRecord) : Bool :=
  isStatusConditionTrue r.status.conditions conditionTypeReady

/-- Probes as objects of the server. -/
def probeKind : Kind DNSHealthCheckProbe where
  get := DNSHealthCheckProbe.metadata
  set p m := { p with metadata := m }
  get_set _ _ := rfl
  set_get _ := rfl
  set_set _ _ _ := rfl

/-- The probes on the server. -/
abbrev ProbeStore := Objects probeKind

/-! ## Managed zones -/

/-- `ManagedZoneSpec`; the parent is given by its name, in the same namespace. -/
structure ManagedZoneSpec where
  id : String := ""
  domainName : String
  parentManagedZone : Option String := none
deriving DecidableEq, Repr

/-- The name servers are pointers. -/
structure ManagedZoneStatus where
  conditions : List Condition := []
  observedGeneration : Nat := 0
  id : String := ""
  recordCount : Int := 0
  nameServers : List (Option String) := []
deriving DecidableEq, Repr

/-- A ManagedZone object. -/
structure ManagedZoneObject where
  metadata : ObjectMeta
  spec : ManagedZoneSpec
  status : ManagedZoneStatus := {}
deriving DecidableEq, Repr

/-- ManagedZones as objects of the server. -/
def managedZoneKind : Kind ManagedZoneObject where
  get := ManagedZoneObject.metadata
  set z m := { z with metadata := m }
  get_set _ _ := rfl
  set_get _ := rfl
  set_set _ _ _ := rfl

end MultiClusterGateway
