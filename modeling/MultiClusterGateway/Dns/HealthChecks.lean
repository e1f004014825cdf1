import MultiClusterGateway.Dns.Route53

set_option autoImplicit false

/-! # Health checks at Route 53

The reconciler of health checks compares the check of an endpoint with what a `HealthCheckSpec` and
the endpoint ask for and requests an update of the fields that differ. The name and the address of
the endpoint are compared strictly. The other fields have defaults, which stand for a missing value
on either side of the comparison but are not written back, so that a field the spec does not give
and the check has with another value than the default stays different for ever
(`converges_iff`). -/

namespace MultiClusterGateway.HealthChecks

open Route53 (providerSpecificHealthCheckID)

/-! ## Specs and results -/

/-- The field is a string, so other values can occur. -/
inductive HealthCheckProtocol where
  | HTTP
  | HTTPS
  | other (name : String)
deriving DecidableEq, Repr

/-- `dns.HealthCheckSpec`. -/
structure HealthCheckSpec where
  id : String
  name : String := ""
  port : Option Int := none
  failureThreshold : Option Int := none
  protocol : Option HealthCheckProtocol := none
  path : String := ""
deriving DecidableEq, Repr

/-- `HealthCheckReconciliationResult`. -/
inductive HealthCheckReconciliationResult where
  | created
  | updated
  | deleted
  | noop
  | failed
deriving DecidableEq, Repr

/-- `HealthCheckResult`. -/
structure HealthCheckResult where
  result : HealthCheckReconciliationResult
  message : String
deriving DecidableEq, Repr

/-! ## The service -/

/-- `types.HealthCheckConfig` of Route 53, as far as the code sets or reads it. -/
structure HealthCheckConfig where
  ipAddress : Option String := none
  fullyQualifiedDomainName : Option String := none
  port : Option Int := none
  resourcePath : Option String := none
  type : Option String := none
  failureThreshold : Option Int := none
deriving DecidableEq, Repr

/-- A health check at Route 53. -/
structure HealthCheck where
  id : String
  healthCheckConfig : HealthCheckConfig
deriving DecidableEq, Repr

/-- A request to change the fields that are given. -/
structure UpdateHealthCheckInput where
  healthCheckId : String
  fullyQualifiedDomainName : Option String := none
  ipAddress : Option String := none
  resourcePath : Option String := none
  port : Option Int := none
  failureThreshold : Option Int := none
deriving DecidableEq, Repr

/-- The checks of the service by their ids. -/
abbrev Checks := String → Option HealthCheckConfig

/-- What the service does for an update: a field that is not given stays as it is. -/
def HealthCheckConfig.update (config : HealthCheckConfig) (input : UpdateHealthCheckInput) :
    HealthCheckConfig where
  ipAddress := input.ipAddress.or config.ipAddress
  fullyQualifiedDomainName := input.fullyQualifiedDomainName.or config.fullyQualifiedDomainName
  port := input.port.or config.port
  resourcePath := input.resourcePath.or config.resourcePath
  type := config.type
  failureThreshold := input.failureThreshold.or config.failureThreshold

/-- What the service answers during one call of the reconciler: the error of each request that
    fails, and the id it gives to a new check. A request that fails changes nothing. -/
structure Answers where
  get : Option String := none
  update : Option String := none
  create : Option String := none
  tags : Option String := none
  delete : Option String := none
  newId : String := ""

/-- How the service answers a request for a check it does not have. -/
def noSuchHealthCheck (id : String) : String :=
  "NoSuchHealthCheck: No health check exists with the specified ID: " ++ id

/-! ## The comparison -/

/-- What a path that the service does not give is compared as. -/
def defaultHealthCheckPath : String := "/"
/-- What a missing port is compared as; a check without one is created without one. -/
def defaultHealthCheckPort : Int := 80
/-- What a missing threshold is compared as. -/
def defaultHealthCheckFailureThreshold : Int := 3

section
variable {T : Type} [DecidableEq T]

/-- `valuesEqual`: two nil pointers are equal, and two that point to equal values. -/
def valuesEqual : Option T → Option T → Bool
  | some a, some b => a == b
  | none, none => true
  | some _, none => false
  | none, some _ => false

/-- `valuesEqualWithDefault`: a nil pointer stands for the default. -/
def valuesEqualWithDefault (a b : Option T) (defaultValue : T) : Bool :=
  a.getD defaultValue == b.getD defaultValue

@[simp] theorem valuesEqual_eq_true {a b : Option T} : valuesEqual a b = true ↔ a = b := by
  cases a with
  | none => cases b <;> simp [valuesEqual]
  | some a => cases b <;> simp [valuesEqual]

@[simp] theorem valuesEqualWithDefault_eq_true {a b : Option T} {d : T} :
    valuesEqualWithDefault a b d = true ↔ a.getD d = b.getD d := by
  simp [valuesEqualWithDefault]

end

/-- Set a field of the input unless the values are equal; `diff` makes the input when the first
    field is set. -/
def diff (healthCheck : HealthCheck) (equal : Bool)
    (set : UpdateHealthCheckInput → UpdateHealthCheckInput)
    (result : Option UpdateHealthCheckInput) : Option UpdateHealthCheckInput :=
  if equal then result else some (set (result.getD { healthCheckId := healthCheck.id }))

/-- `healthCheckDiff`: a request with the fields that differ, if any does. -/
def healthCheckDiff (healthCheck : HealthCheck) (spec : HealthCheckSpec) (endpoint : Endpoint) :
    Option UpdateHealthCheckInput :=
  let config := healthCheck.healthCheckConfig
  let result := diff healthCheck
    (valuesEqual (some endpoint.dnsName) config.fullyQualifiedDomainName)
    ({ · with fullyQualifiedDomainName := some endpoint.dnsName }) none
  let address := endpoint.getAddress.1
  let result := diff healthCheck (valuesEqual (some address) config.ipAddress)
    ({ · with ipAddress := some address }) result
  let result := diff healthCheck
    (valuesEqualWithDefault (some spec.path) config.resourcePath defaultHealthCheckPath)
    ({ · with resourcePath := some spec.path }) result
  let result := diff healthCheck
    (valuesEqualWithDefault spec.port config.port defaultHealthCheckPort)
    ({ · with port := spec.port }) result
  diff healthCheck
    (valuesEqualWithDefault spec.failureThreshold config.failureThreshold
      defaultHealthCheckFailureThreshold)
    ({ · with failureThreshold := spec.failureThreshold }) result

/-! ## The reconciler -/

/-- What a call returns, what it makes of the endpoint and of the checks, and the update it has
    requested. -/
structure Outcome where
  answer : Except String HealthCheckResult
  endpoint : Endpoint
  checks : Checks
  issued : Option UpdateHealthCheckInput := none

section
variable (answers : Answers) (spec : HealthCheckSpec) (endpoint : Endpoint) (checks : Checks)

/-- `getHealthCheckId`: the id that a property of the endpoint records. -/
def getHealthCheckId : Option String :=
  endpoint.getProviderSpecific providerSpecificHealthCheckID

/-- `findHealthCheck`. An id that the service does not know is an error. -/
def findHealthCheck : Except String (Option HealthCheck) :=
  match getHealthCheckId endpoint with
  | none => .ok none
  | some id =>
    match answers.get, checks id with
    | some err, _ => .error err
    | none, none => .error (noSuchHealthCheck id)
    | none, some config => .ok (some ⟨id, config⟩)

/-- `healthCheckType`; protocols other than the two have no type. -/
def healthCheckType : Option HealthCheckProtocol → Option String
  | some .HTTP => some "HTTP"
  | some .HTTPS => some "HTTPS"
  | some (.other _) => none
  | none => none

/-- A check that cannot be tagged stays at the service, but the caller does not get it. -/
def createHealthCheck : Except String HealthCheck × Checks :=
  match answers.create with
  | some err => (.error err, checks)
  | none =>
    let healthCheck : HealthCheck := {
      id := answers.newId
      healthCheckConfig := {
        ipAddress := some endpoint.getAddress.1
        fullyQualifiedDomainName := some endpoint.dnsName
        port := spec.port
        resourcePath := some spec.path
        type := healthCheckType spec.protocol
        failureThreshold := spec.failureThreshold } }
    let checks := Function.update checks healthCheck.id (some healthCheck.healthCheckConfig)
    match answers.tags with
    | some err => (.error err, checks)
    | none => (.ok healthCheck, checks)

/-- The result of an update, the checks after it and the request. -/
def updateHealthCheck (healthCheck : HealthCheck) :
    Except String HealthCheckReconciliationResult × Checks × Option UpdateHealthCheckInput :=
  match healthCheckDiff healthCheck spec endpoint with
  | none => (.ok .noop, checks, none)
  | some input =>
    match answers.update with
    | some err => (.error err, checks, some input)
    | none => (.ok .updated,
        Function.update checks healthCheck.id (some (healthCheck.healthCheckConfig.update input)),
        some input)

/-- `Reconcile`: the check of the endpoint is updated, or one is created and its id recorded. -/
def reconcile : Outcome :=
  match findHealthCheck answers endpoint checks with
  | .error err => ⟨.error err, endpoint, checks, none⟩
  | .ok (some healthCheck) =>
    let (status, checks, issued) := updateHealthCheck answers spec endpoint checks healthCheck
    ⟨status.map (⟨·, ""⟩),
      endpoint.setProviderSpecific providerSpecificHealthCheckID healthCheck.id, checks, issued⟩
  | .ok none =>
    match createHealthCheck answers spec endpoint checks with
    | (.error err, checks) => ⟨.error err, endpoint, checks, none⟩
    | (.ok healthCheck, checks) =>
      ⟨.ok ⟨.created, "Created health check with ID " ++ healthCheck.id⟩,
        endpoint.setProviderSpecific providerSpecificHealthCheckID healthCheck.id, checks, none⟩

/-- `Delete`: the id is removed from the endpoint once the service has deleted the check. -/
def delete : Outcome :=
  match findHealthCheck answers endpoint checks with
  | .error err => ⟨.error err, endpoint, checks, none⟩
  | .ok none => ⟨.ok ⟨.noop, ""⟩, endpoint, checks, none⟩
  | .ok (some healthCheck) =>
    match answers.delete with
    | some err => ⟨.error err, endpoint, checks, none⟩
    | none => ⟨.ok ⟨.deleted, ""⟩, endpoint.deleteProviderSpecific providerSpecificHealthCheckID,
        Function.update checks healthCheck.id none, none⟩

end

/-! ## Updates converge -/

/-- There is nothing to update. -/
structure InSync (config : HealthCheckConfig) (spec : HealthCheckSpec) (endpoint : Endpoint) :
    Prop where
  name : some endpoint.dnsName = config.fullyQualifiedDomainName
  address : some endpoint.getAddress.1 = config.ipAddress
  path : spec.path = config.resourcePath.getD defaultHealthCheckPath
  port : spec.port.getD defaultHealthCheckPort = config.port.getD defaultHealthCheckPort
  threshold : spec.failureThreshold.getD defaultHealthCheckFailureThreshold
    = config.failureThreshold.getD defaultHealthCheckFailureThreshold

section
variable {T : Type} [DecidableEq T]

/-- What an update makes of a field. -/
def written (equal : Bool) (value current : Option T) : Option T :=
  (if equal then none else value).or current

theorem written_strict (value : T) (current : Option T) :
    written (valuesEqual (some value) current) (some value) current = some value := by
  by_cases h : some value = current
  · simp [written, ← h, valuesEqual]
  · simp [written, h]

theorem written_default_iff (value current : Option T) (d : T) :
    value.getD d = (written (valuesEqualWithDefault value current d) value current).getD d
      ↔ (value = none → current.getD d = d) := by
  by_cases h : value.getD d = current.getD d
  · rw [written, valuesEqualWithDefault_eq_true.2 h]
    refine ⟨?_, fun _ => h⟩
    rintro - rfl
    exact h.symm
  · have hne : valuesEqualWithDefault value current d = false := by
      rwa [← Bool.not_eq_true, valuesEqualWithDefault_eq_true]
    rw [written, hne]
    cases value with
    | none =>
        have hd : current.getD d ≠ d := fun heq => h heq.symm
        simp [hd, hd.symm]
    | some value => simp

end

/-- The spec gives the fields that the service has with other values than the defaults. -/
def GivenOrDefault (config : HealthCheckConfig) (spec : HealthCheckSpec) : Prop :=
  (spec.port = none → config.port.getD defaultHealthCheckPort = defaultHealthCheckPort) ∧
    (spec.failureThreshold = none → config.failureThreshold.getD defaultHealthCheckFailureThreshold
      = defaultHealthCheckFailureThreshold)

section
variable {healthCheck : HealthCheck} {spec : HealthCheckSpec} {endpoint : Endpoint}

theorem diff_eq_none {equal : Bool} {set : UpdateHealthCheckInput → UpdateHealthCheckInput}
    {result : Option UpdateHealthCheckInput} :
    diff healthCheck equal set result = none ↔ equal = true ∧ result = none := by
  cases equal <;> simp [diff]

theorem healthCheckDiff_eq_none :
    healthCheckDiff healthCheck spec endpoint = none
      ↔ InSync healthCheck.healthCheckConfig spec endpoint := by
  simp only [healthCheckDiff, diff_eq_none, valuesEqual_eq_true, valuesEqualWithDefault_eq_true,
    Option.getD_some, and_true]
  constructor
  · rintro ⟨hthreshold, hport, hpath, haddress, hname⟩
    exact ⟨hname, haddress, hpath, hport, hthreshold⟩
  · intro h
    exact ⟨h.threshold, h.port, h.path, h.address, h.name⟩

/-- The configuration once the update has been made. -/
def applied (healthCheck : HealthCheck) (spec : HealthCheckSpec) (endpoint : Endpoint) :
    HealthCheckConfig :=
  match healthCheckDiff healthCheck spec endpoint with
  | none => healthCheck.healthCheckConfig
  | some input => healthCheck.healthCheckConfig.update input

theorem getD_diff {equal : Bool} {set : UpdateHealthCheckInput → UpdateHealthCheckInput}
    {result : Option UpdateHealthCheckInput} :
    (diff healthCheck equal set result).getD { healthCheckId := healthCheck.id }
      = if equal then result.getD { healthCheckId := healthCheck.id }
        else set (result.getD { healthCheckId := healthCheck.id }) := by
  cases equal <;> rfl

/-- An input without any field is as good as none. -/
theorem applied_eq_update : applied healthCheck spec endpoint
    = healthCheck.healthCheckConfig.update
        ((healthCheckDiff healthCheck spec endpoint).getD { healthCheckId := healthCheck.id }) := by
  unfold applied
  cases healthCheckDiff healthCheck spec endpoint with
  | none => rfl
  | some input => rfl

/-- The fields of the configuration once the update has been made. -/
theorem applied_eq : applied healthCheck spec endpoint =
    let config := healthCheck.healthCheckConfig
    { ipAddress := written (valuesEqual (some endpoint.getAddress.1) config.ipAddress)
        (some endpoint.getAddress.1) config.ipAddress
      fullyQualifiedDomainName :=
        written (valuesEqual (some endpoint.dnsName) config.fullyQualifiedDomainName)
          (some endpoint.dnsName) config.fullyQualifiedDomainName
      port := written (valuesEqualWithDefault spec.port config.port defaultHealthCheckPort)
        spec.port config.port
      resourcePath := written (valuesEqualWithDefault (some spec.path) config.resourcePath
        defaultHealthCheckPath) (some spec.path) config.resourcePath
      type := config.type
      failureThreshold := written (valuesEqualWithDefault spec.failureThreshold
        config.failureThreshold defaultHealthCheckFailureThreshold) spec.failureThreshold
        config.failureThreshold } := by
  rw [applied_eq_update]
  simp only [healthCheckDiff, getD_diff, HealthCheckConfig.update, written]
  split_ifs <;> rfl

/-- The update leaves nothing to do as far as the service is told the values to use. -/
theorem inSync_applied_iff {endpoint' : Endpoint} :
    InSync (applied healthCheck spec endpoint) spec endpoint' ↔
      endpoint'.dnsName = endpoint.dnsName ∧ endpoint'.getAddress.1 = endpoint.getAddress.1 ∧
        GivenOrDefault healthCheck.healthCheckConfig spec := by
  rw [applied_eq]
  constructor
  · intro h
    refine ⟨?_, ?_, (written_default_iff _ _ _).1 h.port,
      (written_default_iff _ _ _).1 h.threshold⟩
    · exact Option.some.inj (h.name.trans (written_strict _ _))
    · exact Option.some.inj (h.address.trans (written_strict _ _))
  · rintro ⟨hname, haddress, hport, hthreshold⟩
    exact ⟨(congrArg some hname).trans (written_strict _ _).symm,
      (congrArg some haddress).trans (written_strict _ _).symm,
      (written_default_iff (some spec.path) _ _).2 (fun h => nomatch h),
      (written_default_iff _ _ _).2 hport, (written_default_iff _ _ _).2 hthreshold⟩

end

section
variable {answers : Answers} {spec : HealthCheckSpec} {endpoint : Endpoint} {checks : Checks}
  {id : String} {config : HealthCheckConfig}

theorem findHealthCheck_of_get (hid : getHealthCheckId endpoint = some id)
    (hget : answers.get = none) (hcheck : checks id = some config) :
    findHealthCheck answers endpoint checks = .ok (some ⟨id, config⟩) := by
  simp [findHealthCheck, hid, hget, hcheck]

/-- A call for a check that is there and is served. -/
theorem reconcile_found (hid : getHealthCheckId endpoint = some id) (hget : answers.get = none)
    (hupdate : answers.update = none) (hcheck : checks id = some config) :
    reconcile answers spec endpoint checks =
      match healthCheckDiff ⟨id, config⟩ spec endpoint with
      | none => ⟨.ok ⟨.noop, ""⟩,
          endpoint.setProviderSpecific providerSpecificHealthCheckID id, checks, none⟩
      | some input => ⟨.ok ⟨.updated, ""⟩,
          endpoint.setProviderSpecific providerSpecificHealthCheckID id,
          Function.update checks id (some (config.update input)), some input⟩ := by
  simp only [reconcile, findHealthCheck_of_get hid hget hcheck, updateHealthCheck, hupdate]
  cases healthCheckDiff ⟨id, config⟩ spec endpoint with
  | none => rfl
  | some input => rfl

theorem checks_reconcile_found (spec : HealthCheckSpec)
    (hid : getHealthCheckId endpoint = some id) (hget : answers.get = none)
    (hupdate : answers.update = none) (hcheck : checks id = some config) :
    (reconcile answers spec endpoint checks).checks id
      = some (applied ⟨id, config⟩ spec endpoint) := by
  rw [reconcile_found hid hget hupdate hcheck, applied]
  cases healthCheckDiff ⟨id, config⟩ spec endpoint with
  | none => exact hcheck
  | some input => exact Function.update_self ..

theorem endpoint_reconcile_found (spec : HealthCheckSpec)
    (hid : getHealthCheckId endpoint = some id) (hget : answers.get = none)
    (hupdate : answers.update = none) (hcheck : checks id = some config) :
    (reconcile answers spec endpoint checks).endpoint
      = endpoint.setProviderSpecific providerSpecificHealthCheckID id := by
  rw [reconcile_found hid hget hupdate hcheck]
  cases healthCheckDiff ⟨id, config⟩ spec endpoint with
  | none => rfl
  | some input => rfl

/-- A call for a check that needs no update requests none. -/
theorem reconcile_inSync (hid : getHealthCheckId endpoint = some id) (hget : answers.get = none)
    (hcheck : checks id = some config) (hsync : InSync config spec endpoint) :
    reconcile answers spec endpoint checks = ⟨.ok ⟨.noop, ""⟩,
      endpoint.setProviderSpecific providerSpecificHealthCheckID id, checks, none⟩ := by
  have hnone : healthCheckDiff ⟨id, config⟩ spec endpoint = none := healthCheckDiff_eq_none.2 hsync
  simp only [reconcile, findHealthCheck_of_get hid hget hcheck, updateHealthCheck, hnone]
  rfl

theorem getHealthCheckId_set (endpoint : Endpoint) (id : String) :
    getHealthCheckId (endpoint.setProviderSpecific providerSpecificHealthCheckID id) = some id := by
  simp [getHealthCheckId, Endpoint.getProviderSpecific]

end

/-- The update that a spec asks for is the last one: the comparison with the updated check finds no
    difference, and a second call for the same endpoint is answered with no operation. -/
structure Converges (healthCheck : HealthCheck) (spec : HealthCheckSpec) (endpoint : Endpoint) :
    Prop where
  diff : healthCheckDiff ⟨healthCheck.id, applied healthCheck spec endpoint⟩ spec endpoint = none
  second : ∀ (answers answers' : Answers) (checks : Checks) (first : Outcome),
    answers.get = none → answers.update = none → answers'.get = none →
    checks healthCheck.id = some healthCheck.healthCheckConfig →
    first = reconcile answers spec
      (endpoint.setProviderSpecific providerSpecificHealthCheckID healthCheck.id) checks →
    (reconcile answers' spec first.endpoint first.checks).answer = .ok ⟨.noop, ""⟩

theorem converges_iff (healthCheck : HealthCheck) (spec : HealthCheckSpec) (endpoint : Endpoint) :
    Converges healthCheck spec endpoint ↔ GivenOrDefault healthCheck.healthCheckConfig spec := by
  constructor
  · intro h
    exact (inSync_applied_iff.1 (healthCheckDiff_eq_none.1 h.diff)).2.2
  · intro h
    refine ⟨healthCheckDiff_eq_none.2 (inSync_applied_iff.2 ⟨rfl, rfl, h⟩), ?_⟩
    intro answers answers' checks first hget hupdate hget' hcheck hfirst
    have hid := getHealthCheckId_set endpoint healthCheck.id
    have hendpoint := endpoint_reconcile_found spec hid hget hupdate hcheck
    have hchecks := checks_reconcile_found spec hid hget hupdate hcheck
    rw [← hfirst] at hendpoint hchecks
    have hsync : InSync (applied healthCheck spec (endpoint.setProviderSpecific
        providerSpecificHealthCheckID healthCheck.id)) spec first.endpoint := by
      rw [hendpoint]
      exact inSync_applied_iff.2 ⟨rfl, rfl, h⟩
    have hid' : getHealthCheckId first.endpoint = some healthCheck.id := by
      rw [hendpoint]
      exact getHealthCheckId_set ..
    rw [reconcile_inSync hid' hget' hchecks hsync]

/-- An endpoint with the id of its check. -/
def endpointAt (dnsName address id : String) : Endpoint where
  dnsName := dnsName
  targets := [address]
  recordType := .A
  setIdentifier := address
  recordTTL := 60
  providerSpecific := [⟨providerSpecificHealthCheckID, id⟩]

/-- A spec without a port does not bring a check of another port to the default. -/
theorem not_converges_without_port :
    ¬ Converges ⟨"check", { port := some 8080 }⟩ { id := "probe", path := "/" }
      (endpointAt "app.example.com" "172.31.200.0" "check") := by
  intro h
  exact absurd h.diff (by decide)

end MultiClusterGateway.HealthChecks
