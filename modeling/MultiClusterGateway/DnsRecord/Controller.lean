import MultiClusterGateway.Dns.Provider
import MultiClusterGateway.Lib.Text

set_option autoImplicit false

/-! # The DNSRecord reconciler (`pkg/controllers/dnsrecord/dnsrecord_controller.go`)

One `DNSRecord` in the API server, the provider's zone, and the reconciler between them. A reconcile
reads the object, calls the provider and writes the object back, in three separate steps: others may
change the object in between, and then the write is refused because the resource version is no longer
the one that was read. There is one reconcile of an object at a time.

The functions of this module compute what one reconcile writes from the version of the object that
it has read, the zone of the provider, and the answers that it gets on the way. They do not say when
the object is read and written: that is `DnsRecord.Machine`, where other clients come in between.
The provider is any (`Provider`), and so is what is open in a call of it. -/

universe u

namespace MultiClusterGateway.DnsRecord

/-- `DNSRecordFinalizer`. -/
def dnsRecordFinalizer : String := "kuadrant.io/dns-record"

/-! ## Error texts -/

/-- How much of the text a match of `request id: [^\\s]+` takes, 0 if there is none here. -/
def requestIdLength (cs : List Char) : Nat :=
  let pattern := "request id: ".toList
  if pattern.isPrefixOf cs then
    let id := (cs.drop pattern.length).takeWhile (fun c => !"\t\n\x0c\r ".toList.contains c)
    if id = [] then 0 else pattern.length + id.length
  else 0

/-- Leave out the matches, `skip` runes of the current one being still to come. -/
def dropRequestIds : (skip : Nat) → List Char → List Char
  | _, [] => []
  | skip + 1, _ :: rest => dropRequestIds skip rest
  | 0, c :: rest =>
    match requestIdLength (c :: rest) with
    | 0 => c :: dropRequestIds 0 rest
    | n + 1 => dropRequestIds n rest

/-- `dns.SanitizeError`. -/
def sanitizeError (err : String) : String := String.ofList (dropRequestIds 0 err.toList)

/-- The errors of `Delete` that `deleteRecord` takes for success. -/
def ignoredOnDelete (err : String) : Bool :=
  Text.contains err "was not found" || Text.contains err "notFound" ||
    Text.contains err "no endpoints"

/-! ## Provider calls -/

/-- The answer of the API server to a `Get`. -/
inductive GetResult (α : Type) where
  | found (a : α)
  | notFound (err : String)
  | failed (err : String)

/-- What one reconcile gets from its surroundings: the managed zone, whether the provider could be
    set up, and what is open in the call of the provider. -/
structure Answers (Call : Type u) where
  managedZone : GetResult ManagedZone
  providerErr : Option String := none
  call : Call

/-- The condition `Ready` of the zone is true. -/
def isReady (managedZone : ManagedZone) : Bool :=
  isStatusConditionTrue managedZone.conditions conditionTypeReady

/-- The error for a zone that is not. -/
def notReadyMessage (managedZone : ManagedZone) : String :=
  "the managed zone is not in a ready state : " ++ managedZone.name

section
variable {Zone : Type} {Call : Type u} (provider : Provider Zone Call) (answers : Answers Call)
  (dnsRecord : DNSRecord) (zone : Zone)

/-- `deleteRecord`: a zone that is gone counts as success. -/
def deleteRecord : CallResult Zone :=
  match answers.managedZone with
  | .notFound _ => .done zone
  | .failed err => .failed zone err
  | .found managedZone =>
    if isReady managedZone = false then .failed zone (notReadyMessage managedZone)
    else match answers.providerErr with
      | some err => .failed zone err
      | none =>
        match provider.delete answers.call dnsRecord managedZone zone with
        | .failed zone' err => if ignoredOnDelete err then .done zone' else .failed zone' err
        | result => result

/-- `publishRecord`: the provider is called for a generation that has not been observed. -/
def publishRecord : CallResult Zone :=
  match answers.managedZone with
  | .notFound err => .failed zone err
  | .failed err => .failed zone err
  | .found managedZone =>
    if isReady managedZone = false then .failed zone (notReadyMessage managedZone)
    else if dnsRecord.metadata.generation = dnsRecord.status.observedGeneration then .done zone
    else match answers.providerErr with
      | some err => .failed zone err
      | none => provider.ensure answers.call dnsRecord managedZone zone

end

/-! ## Reconcile -/

/-- `setDNSRecordCondition`: the status with the condition `Ready`. -/
def setDNSRecordCondition (dnsRecord : DNSRecord) (status : Bool) (reason message : String) :
    DNSRecordStatus :=
  { dnsRecord.status with
    conditions := setStatusCondition dnsRecord.status.conditions
      { type := conditionTypeReady, status := status, reason := reason, message := message,
        observedGeneration := dnsRecord.metadata.generation } }

/-- The status after a publication. -/
def publishedStatus (dnsRecord : DNSRecord) : DNSRecordStatus :=
  setDNSRecordCondition
    { dnsRecord with status := { dnsRecord.status with
        observedGeneration := dnsRecord.metadata.generation,
        endpoints := dnsRecord.spec.endpoints } }
    true "ProviderSuccess" "Provider ensured the managed zone"

/-- The status after a failure. -/
def failedStatus (dnsRecord : DNSRecord) (err : String) : DNSRecordStatus :=
  setDNSRecordCondition dnsRecord false "ProviderError"
    ("The DNS provider failed to ensure the record: " ++ sanitizeError err)

/-- `controllerutil.RemoveFinalizer`. -/
def removeFinalizer (dnsRecord : DNSRecord) : DNSRecord :=
  { dnsRecord with metadata := { dnsRecord.metadata with
      finalizers := dnsRecord.metadata.finalizers.filter (fun f => f != dnsRecordFinalizer) } }

/-- `controllerutil.AddFinalizer`. -/
def addFinalizer (dnsRecord : DNSRecord) : DNSRecord :=
  { dnsRecord with metadata := { dnsRecord.metadata with
      finalizers := dnsRecord.metadata.finalizers ++ [dnsRecordFinalizer] } }

/-- What a reconcile is about to do: nothing, work on the object it has read, or write an object or
    its status back. -/
inductive Pending where
  | idle
  | read (previous : DNSRecord)
  | update (dnsRecord : DNSRecord)
  | updateStatus (dnsRecord : DNSRecord)

/-- Write the status back if it has changed. -/
def statusWrite (previous : DNSRecord) (status : DNSRecordStatus) : Pending :=
  if status = previous.status then .idle else .updateStatus { previous with status := status }

/-- The middle part of `Reconcile`, from the object that was read to the write that is due. -/
def reconcile {Zone : Type} {Call : Type u} (provider : Provider Zone Call)
    (answers : Answers Call) (previous : DNSRecord) (zone : Zone) : Zone × Pending :=
  if previous.metadata.deletionTimestamp then
    match deleteRecord provider answers previous zone with
    | .done zone' => (zone', .update (removeFinalizer previous))
    | .failed zone' _ => (zone', .idle)
    | .panicked _ => (zone, .idle)
  else if dnsRecordFinalizer ∉ previous.metadata.finalizers then
    (zone, .update (addFinalizer previous))
  else
    match publishRecord provider answers previous zone with
    | .done zone' => (zone', statusWrite previous (publishedStatus previous))
    | .failed zone' err => (zone', statusWrite previous (failedStatus previous err))
    | .panicked _ => (zone, .idle)

end MultiClusterGateway.DnsRecord
