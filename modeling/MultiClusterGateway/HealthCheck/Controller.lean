import MultiClusterGateway.Api.DnsObjects
import MultiClusterGateway.Lib.Order

set_option autoImplicit false

/-! # Health check probes

The parts of the probe controller that compute (`pkg/controllers/dnshealthcheckprobe`): what a
notification writes to the status of a probe, the headers that the secret of a probe gives, and what
is written to its status when there are none to be had.

The status of a probe is written by two goroutines: the worker that has made a request notifies the
probe of the result, and the reconcile of the probe reports an error with the headers. Both work out
the new status from one that they have read, which is what these functions do; when they read and
write is left to `HealthCheck.Counter`. Some errors with the headers set the count of failures back,
others leave it (`headersOf_error`). -/

namespace MultiClusterGateway.HealthCheck

/-- `DNSHealthCheckProbeFinalizer`. -/
def dnsHealthCheckProbeFinalizer : String := "kuadrant.io/dns-health-check-probe"

/-! ## Notifications -/

/-- `ProbeResult`: what one request has shown. -/
structure ProbeResult where
  checkedAt : Int
  reason : String
  status : Int
  healthy : Bool
deriving DecidableEq, Repr

/-- What `Notify` makes of the status it has read. -/
def recordResult (result : ProbeResult) (status : DNSHealthCheckProbeStatus) :
    DNSHealthCheckProbeStatus where
  consecutiveFailures :=
    if result.healthy then 0
    -- a probe without a verdict counts as healthy
    else if status.healthy.getD true then 1
    else status.consecutiveFailures + 1
  lastCheckedAt := result.checkedAt
  healthy := some result.healthy
  reason := result.reason
  status := result.status

/-! ## Additional headers -/

/-- `AdditionalHeader`, a header of the requests. -/
structure AdditionalHeader where
  name : String
  value : String
deriving DecidableEq, Repr

/-- The data of a secret. -/
abbrev SecretData := List (String × String)

/-- A name that cannot be that of a header. -/
def hasBlank (k : String) : Bool := (Text.trimSpace k).toList.any (fun c => c == ' ' || c == '\t')

/-- The loop over the data of the secret. The first name with a blank in it ends it. -/
def readHeaders (additionalHeaders : List AdditionalHeader) (status : DNSHealthCheckProbeStatus) :
    SecretData → Except ApiError (List AdditionalHeader) × DNSHealthCheckProbeStatus
  | [] => (.ok additionalHeaders, status)
  | (k, v) :: rest =>
    if hasBlank k then
      (.error ⟨.invalidHeader,
          "invalid header, must not contain whitespace '" ++ k ++ "': invalid header format"⟩,
        { status with consecutiveFailures := 0, reason := "invalid header found: " ++ k })
    else readHeaders (additionalHeaders ++ [⟨Text.trimSpace k, v⟩]) status rest

/-- What `getAdditionalHeaders` makes of the answer to its call for the secret: the headers, and the
    status it leaves in the probe. -/
def headersOf (order : MapOrder) (secretKey : ObjectKey) (secret : Except ApiError SecretData)
    (status : DNSHealthCheckProbeStatus) :
    Except ApiError (List AdditionalHeader) × DNSHealthCheckProbeStatus :=
  match secret with
  | .error e =>
    let failed := e.wrap ("error retrieving additional headers secret " ++ secretKey.ns ++ "/" ++
      secretKey.name ++ ": ")
    if e.kind = .notFound then
      (.error failed, { status with
        consecutiveFailures := 0
        reason := "additional headers secret '" ++ secretKey.name ++ "' not found" })
    else (.error failed, status)
  | .ok data => readHeaders [] status (order.visit data)

/-- What is written when there was an error with the headers. -/
def recordHeaderError (now : Int) (status : DNSHealthCheckProbeStatus) : DNSHealthCheckProbeStatus :=
  { status with healthy := some false, lastCheckedAt := now }

/-- The errors after which the failures are counted anew. -/
def resetsFailures (kind : ErrorKind) : Bool := kind = .notFound || kind = .invalidHeader

theorem readHeaders_error {headers : List AdditionalHeader}
    {status status' : DNSHealthCheckProbeStatus} {data : SecretData} {e : ApiError}
    (h : readHeaders headers status data = (.error e, status')) :
    e.kind = .invalidHeader ∧ status'.consecutiveFailures = 0 := by
  induction data generalizing headers with
  | nil => simp [readHeaders] at h
  | cons entry rest ih =>
      obtain ⟨k, v⟩ := entry
      unfold readHeaders at h
      split at h
      · cases h
        exact ⟨rfl, rfl⟩
      · exact ih h

/-- An error with the headers counts the failures anew, or leaves their number. -/
theorem headersOf_error {order : MapOrder} {secretKey : ObjectKey}
    {secret : Except ApiError SecretData} {status status' : DNSHealthCheckProbeStatus} {e : ApiError}
    (hsecret : ∀ e, secret = .error e → e.kind ≠ .invalidHeader)
    (h : headersOf order secretKey secret status = (.error e, status')) :
    status'.consecutiveFailures
      = if resetsFailures e.kind then 0 else status.consecutiveFailures := by
  cases secret with
  | ok data =>
      obtain ⟨hkind, hzero⟩ := readHeaders_error h
      simp [resetsFailures, hkind, hzero]
  | error err =>
      simp only [headersOf] at h
      split at h
      · rename_i hnotFound
        cases h
        simp [resetsFailures, ApiError.wrap, hnotFound]
      · rename_i hnotFound
        cases h
        simp [resetsFailures, ApiError.wrap, hnotFound, hsecret err rfl]

end MultiClusterGateway.HealthCheck
