import MultiClusterGateway.DnsRecord.Controller
import MultiClusterGateway.Lib.Run

set_option autoImplicit false

/-! # Runs of the DNSRecord reconciler

The record in the API server, the zone of the provider and the reconciler as one state machine.
Clients edit the record, mark it for deletion, or change its metadata, at any point of a reconcile.
The server keeps the generation (raised by a change of the spec and by the deletion mark) and the
resource version (raised by every change); it refuses the write of an object whose resource version
is not the current one, and drops a marked object with its last finalizer. -/

universe u

namespace MultiClusterGateway.DnsRecord

/-! ## The API server -/

/-- The next version of an object. -/
def nextVersion (o : DNSRecord) : DNSRecord :=
  { o with metadata := { o.metadata with resourceVersion := o.metadata.resourceVersion + 1 } }

/-- The object with the metadata and the spec of `r`; the status is not part of an update. -/
def updated (o r : DNSRecord) : DNSRecord :=
  { o with
    metadata := { o.metadata with
      labels := r.metadata.labels
      annotations := r.metadata.annotations
      finalizers := r.metadata.finalizers
      controllerRef := r.metadata.controllerRef
      generation := if r.spec = o.spec then o.metadata.generation else o.metadata.generation + 1 }
    spec := r.spec }

/-- An accepted `Update`. One that changes nothing makes no new version. -/
def apiUpdate (o r : DNSRecord) : Option DNSRecord :=
  if updated o r = o then some o
  else if o.metadata.deletionTimestamp = true ∧ r.metadata.finalizers = [] then none
  else some (nextVersion (updated o r))

/-- An accepted `Status().Update`. -/
def apiUpdateStatus (o r : DNSRecord) : DNSRecord :=
  if r.status = o.status then o else nextVersion { o with status := r.status }

/-- `Delete`: objects with finalizers are only marked. -/
def apiDelete (o : DNSRecord) : Option DNSRecord :=
  if o.metadata.finalizers = [] then none
  else if o.metadata.deletionTimestamp then some o
  else some (nextVersion { o with metadata := { o.metadata with
    deletionTimestamp := true
    generation := o.metadata.generation + 1 } })

/-! ## States and steps -/

/-- What has happened so far: the endpoints of every successful `Ensure`, those of the last one
    unless a `Delete` succeeded since, and whether the reconciler has removed its finalizer. -/
structure History where
  created : List (List Endpoint) := []
  published : List Endpoint := []
  finalizerRemoved : Bool := false

/-- The object on the server, the zone at the provider, and the reconcile under way. -/
structure State (Zone : Type) where
  object : Option DNSRecord
  zone : Zone
  pending : Pending := .idle
  history : History := {}

/-- What may happen next: a client writes the object, or a reconcile goes on. -/
inductive Event (Call : Type u) where
  /-- a client changes the endpoints of the spec -/
  | edit (endpoints : List Endpoint)
  /-- a client changes the metadata only -/
  | annotate (annotations : Labels)
  | requestDelete
  /-- a reconcile starts: it reads the object -/
  | read
  /-- the reconcile calls the provider -/
  | work (answers : Answers Call)
  /-- the reconcile writes back, unless the server does not serve the request -/
  | write (served : Bool)
  /-- the controller is restarted -/
  | crash

/-- The call of the provider that a reconcile makes. -/
inductive Request where
  | ensure (managedZone : ManagedZone)
  | delete (managedZone : ManagedZone)

/-- The call that the reconcile of `previous` makes, if any. -/
def request {Call : Type u} (answers : Answers Call) (previous : DNSRecord) : Option Request :=
  match answers.managedZone, answers.providerErr with
  | .found managedZone, none =>
    if isReady managedZone = false then none
    else if previous.metadata.deletionTimestamp then some (.delete managedZone)
    else if dnsRecordFinalizer ∉ previous.metadata.finalizers then none
    else if previous.metadata.generation = previous.status.observedGeneration then none
    else some (.ensure managedZone)
  | _, _ => none

section
variable {Zone : Type} {Call : Type u} (provider : Provider Zone Call)

/-- The history after the provider call of a reconcile. -/
def History.after (h : History) (answers : Answers Call) (previous : DNSRecord) (zone : Zone) :
    History :=
  match request answers previous with
  | some (.ensure managedZone) =>
    match provider.ensure answers.call previous managedZone zone with
    | .done _ => { h with
        created := previous.spec.endpoints :: h.created, published := previous.spec.endpoints }
    | _ => h
  | some (.delete managedZone) =>
    match provider.delete answers.call previous managedZone zone with
    | .done _ => { h with published := [] }
    | _ => h
  | none => h

/-- The write that is due reaches the server. -/
def write (s : State Zone) : State Zone :=
  match s.pending, s.object with
  | .update r, some o =>
    if r.metadata.resourceVersion = o.metadata.resourceVersion then
      { s with
        object := apiUpdate o r
        pending := .idle
        history := { s.history with
          finalizerRemoved := s.history.finalizerRemoved || r.metadata.deletionTimestamp } }
    else { s with pending := .idle }
  | .updateStatus r, some o =>
    if r.metadata.resourceVersion = o.metadata.resourceVersion then
      { s with object := some (apiUpdateStatus o r), pending := .idle }
    else { s with pending := .idle }
  | .update _, none => { s with pending := .idle }
  | .updateStatus _, none => { s with pending := .idle }
  | _, _ => s

/-- The state after an event. -/
def step (s : State Zone) : Event Call → State Zone
  | .edit endpoints => { s with object := s.object.bind (fun o =>
      apiUpdate o { o with spec := { o.spec with endpoints := endpoints } }) }
  | .annotate annotations => { s with object := s.object.bind (fun o =>
      apiUpdate o { o with metadata := { o.metadata with annotations := annotations } }) }
  | .requestDelete => { s with object := s.object.bind apiDelete }
  | .read =>
    match s.pending, s.object with
    | .idle, some o => { s with pending := .read o }
    | _, _ => s
  | .work answers =>
    match s.pending with
    | .read previous => { s with
        zone := (reconcile provider answers previous s.zone).1
        pending := (reconcile provider answers previous s.zone).2
        history := s.history.after provider answers previous s.zone }
    | _ => s
  | .write served =>
    match s.pending with
    | .read _ => s
    | _ => if served then write s else { s with pending := .idle }
  | .crash => { s with pending := .idle }

/-- A record that has just been created: the server sets the versions and drops a status. -/
def start (record : DNSRecord) (zone : Zone) : State Zone where
  object := some { record with
    metadata := { record.metadata with
      generation := 1, resourceVersion := 1, deletionTimestamp := false }
    status := {} }
  zone := zone

end

/-! ## What a reconcile does -/

/-- The outcomes of the middle part of a reconcile: the zone, the write that is due and the history
    after it. -/
inductive Outcome {Zone : Type} {Call : Type u} (provider : Provider Zone Call)
    (answers : Answers Call) (p : DNSRecord) (zone : Zone) (h : History) :
    Zone → Pending → History → Prop
  | deleted (mz : ManagedZone) (zone' : Zone) (hdel : p.metadata.deletionTimestamp = true)
      (hreq : request answers p = some (.delete mz))
      (hcall : provider.delete answers.call p mz zone = .done zone') :
      Outcome provider answers p zone h zone' (.update (removeFinalizer p))
        { h with published := [] }
  | deleteIgnored (mz : ManagedZone) (zone' : Zone) (err : String)
      (hdel : p.metadata.deletionTimestamp = true)
      (hreq : request answers p = some (.delete mz))
      (hcall : provider.delete answers.call p mz zone = .failed zone' err)
      (hignored : ignoredOnDelete err = true) :
      Outcome provider answers p zone h zone' (.update (removeFinalizer p)) h
  | deleteFailed (mz : ManagedZone) (zone' : Zone) (err : String)
      (hreq : request answers p = some (.delete mz))
      (hcall : provider.delete answers.call p mz zone = .failed zone' err) :
      Outcome provider answers p zone h zone' .idle h
  | noZone (err : String) (hdel : p.metadata.deletionTimestamp = true)
      (hzone : answers.managedZone = .notFound err) :
      Outcome provider answers p zone h zone (.update (removeFinalizer p)) h
  | stopped : Outcome provider answers p zone h zone .idle h
  | finalizer (hdel : p.metadata.deletionTimestamp = false) :
      Outcome provider answers p zone h zone (.update (addFinalizer p)) h
  | ensured (mz : ManagedZone) (zone' : Zone) (hdel : p.metadata.deletionTimestamp = false)
      (hnew : p.metadata.generation ≠ p.status.observedGeneration)
      (hreq : request answers p = some (.ensure mz))
      (hcall : provider.ensure answers.call p mz zone = .done zone') :
      Outcome provider answers p zone h zone' (statusWrite p (publishedStatus p))
        { h with created := p.spec.endpoints :: h.created, published := p.spec.endpoints }
  | ensureFailed (mz : ManagedZone) (zone' : Zone) (err : String)
      (hdel : p.metadata.deletionTimestamp = false)
      (hreq : request answers p = some (.ensure mz))
      (hcall : provider.ensure answers.call p mz zone = .failed zone' err) :
      Outcome provider answers p zone h zone' (statusWrite p (failedStatus p err)) h
  | skipped (hdel : p.metadata.deletionTimestamp = false)
      (hseen : p.metadata.generation = p.status.observedGeneration) :
      Outcome provider answers p zone h zone (statusWrite p (publishedStatus p)) h
  | notPublished (err : String) (hdel : p.metadata.deletionTimestamp = false) :
      Outcome provider answers p zone h zone (statusWrite p (failedStatus p err)) h

section
variable {Zone : Type} {Call : Type u} {provider : Provider Zone Call} {answers : Answers Call}
  {p : DNSRecord} {zone : Zone} {h : History}

theorem after_of_request_eq_none (hreq : request answers p = none) :
    h.after provider answers p zone = h := by
  unfold History.after
  rw [hreq]

theorem outcome_of_deleting (hdel : p.metadata.deletionTimestamp = true) :
    Outcome provider answers p zone h (reconcile provider answers p zone).1
      (reconcile provider answers p zone).2 (h.after provider answers p zone) := by
  unfold reconcile
  rw [if_pos hdel]
  unfold deleteRecord
  cases hmz : answers.managedZone with
  | notFound err =>
      rw [after_of_request_eq_none (by simp [request, hmz])]
      exact .noZone err hdel hmz
  | failed err =>
      rw [after_of_request_eq_none (by simp [request, hmz])]
      exact .stopped
  | found mz =>
      simp only
      by_cases hready : isReady mz = false
      · rw [if_pos hready, after_of_request_eq_none]
        · exact .stopped
        · cases herr : answers.providerErr <;> simp [request, hmz, herr, hready]
      · rw [if_neg hready]
        cases herr : answers.providerErr with
        | some err =>
            rw [after_of_request_eq_none (by simp [request, hmz, herr])]
            exact .stopped
        | none =>
            have hreq : request answers p = some (.delete mz) := by
              simp [request, hmz, herr, hready, hdel]
            unfold History.after
            rw [hreq]
            simp only
            cases hcall : provider.delete answers.call p mz zone with
            | done zone' => exact .deleted mz zone' hdel hreq hcall
            | panicked reason => exact .stopped
            | failed zone' err =>
                simp only
                by_cases hignored : ignoredOnDelete err = true
                · rw [if_pos hignored]
                  exact .deleteIgnored mz zone' err hdel hreq hcall hignored
                · rw [if_neg hignored]
                  exact .deleteFailed mz zone' err hreq hcall

theorem outcome_of_not_deleting (hdel : p.metadata.deletionTimestamp = false) :
    Outcome provider answers p zone h (reconcile provider answers p zone).1
      (reconcile provider answers p zone).2 (h.after provider answers p zone) := by
  have hdel' : ¬ p.metadata.deletionTimestamp = true := by simp [hdel]
  unfold reconcile
  rw [if_neg hdel']
  by_cases hfin : dnsRecordFinalizer ∉ p.metadata.finalizers
  · rw [if_pos hfin, after_of_request_eq_none]
    · exact .finalizer hdel
    · unfold request
      split
      · simp [hdel, hfin]
      · rfl
  · rw [if_neg hfin]
    unfold publishRecord
    cases hmz : answers.managedZone with
    | notFound err =>
        rw [after_of_request_eq_none (by simp [request, hmz])]
        exact .notPublished err hdel
    | failed err =>
        rw [after_of_request_eq_none (by simp [request, hmz])]
        exact .notPublished err hdel
    | found mz =>
        simp only
        by_cases hready : isReady mz = false
        · rw [if_pos hready, after_of_request_eq_none]
          · exact .notPublished (notReadyMessage mz) hdel
          · cases herr : answers.providerErr <;> simp [request, hmz, herr, hready]
        · rw [if_neg hready]
          by_cases hseen : p.metadata.generation = p.status.observedGeneration
          · rw [if_pos hseen, after_of_request_eq_none]
            · exact .skipped hdel hseen
            · cases herr : answers.providerErr <;> simp [request, hmz, herr, hready, hdel, hseen]
          · rw [if_neg hseen]
            cases herr : answers.providerErr with
            | some err =>
                rw [after_of_request_eq_none (by simp [request, hmz, herr])]
                exact .notPublished err hdel
            | none =>
                have hreq : request answers p = some (.ensure mz) := by
                  simp only [request, hmz, herr]
                  rw [if_neg hready, if_neg hdel', if_neg hfin, if_neg hseen]
                unfold History.after
                rw [hreq]
                simp only
                cases hcall : provider.ensure answers.call p mz zone with
                | done zone' => exact .ensured mz zone' hdel hseen hreq hcall
                | panicked reason => exact .stopped
                | failed zone' err => exact .ensureFailed mz zone' err hdel hreq hcall

/-- Every reconcile ends in one of the outcomes. -/
theorem outcome_reconcile :
    Outcome provider answers p zone h (reconcile provider answers p zone).1
      (reconcile provider answers p zone).2 (h.after provider answers p zone) := by
  cases hdel : p.metadata.deletionTimestamp with
  | true => exact outcome_of_deleting hdel
  | false => exact outcome_of_not_deleting hdel

end

end MultiClusterGateway.DnsRecord
