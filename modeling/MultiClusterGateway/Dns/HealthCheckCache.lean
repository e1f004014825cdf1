import MultiClusterGateway.Dns.HealthChecks
import MultiClusterGateway.Lib.Run

set_option autoImplicit false

/-! # The cache before the reconciler of health checks

`CachedHealthCheckReconciler` remembers the spec of the last call for each check and answers a call
with the same spec by itself. What the wrapped reconciler would do depends on more than the spec: on
the name and the address of the endpoint, on whether the last call has succeeded, and on the
defaults of the service. `cache_hides_nothing_iff` says for which runs the answers of the cache are
right. The runs are followed with a record of the last call that was delegated for each check. -/

namespace MultiClusterGateway.HealthChecks

/-! ## The reconciler with the cache -/

/-- The cache and the checks of the service. -/
structure CachedHealthCheckReconciler where
  syncCache : String → Option HealthCheckSpec := fun _ => none
  checks : Checks

/-- Whether the cache has the spec for the endpoint's check. -/
def CachedHealthCheckReconciler.Hit (r : CachedHealthCheckReconciler) (spec : HealthCheckSpec)
    (endpoint : Endpoint) (id : String) : Prop :=
  getHealthCheckId endpoint = some id ∧ r.syncCache id = some spec

namespace CachedHealthCheckReconciler

/-- `Reconcile`: a call with the spec in the cache is answered without the service. -/
def reconcile (answers : Answers) (spec : HealthCheckSpec) (endpoint : Endpoint)
    (r : CachedHealthCheckReconciler) : Outcome × CachedHealthCheckReconciler :=
  let delegate := HealthChecks.reconcile answers spec endpoint r.checks
  match getHealthCheckId endpoint with
  | none => (delegate, { r with checks := delegate.checks })
  | some id =>
    -- the cache is written on every way out
    let store := Function.update r.syncCache id (some spec)
    match r.syncCache id with
    | none => (delegate, ⟨store, delegate.checks⟩)
    | some existingSpec =>
      if spec = existingSpec then
        (⟨.ok ⟨.noop, "Spec unchanged"⟩, endpoint, r.checks, none⟩, ⟨store, r.checks⟩)
      else (delegate, ⟨store, delegate.checks⟩)

/-- `Delete`: the cache forgets the check, also when the service does not delete it. -/
def delete (answers : Answers) (endpoint : Endpoint) (r : CachedHealthCheckReconciler) :
    Outcome × CachedHealthCheckReconciler :=
  match getHealthCheckId endpoint with
  | none => (⟨.ok ⟨.noop, ""⟩, endpoint, r.checks, none⟩, r)
  | some id =>
    let delegate := HealthChecks.delete answers endpoint r.checks
    (delegate, ⟨Function.update r.syncCache id none, delegate.checks⟩)

end CachedHealthCheckReconciler

/-- A call of the reconciler, with what the service answers during it. -/
inductive Call where
  | reconcile (answers : Answers) (spec : HealthCheckSpec) (endpoint : Endpoint)
  | delete (answers : Answers) (endpoint : Endpoint)

/-- The reconciler after one call. -/
def CachedHealthCheckReconciler.step (r : CachedHealthCheckReconciler) :
    Call → CachedHealthCheckReconciler
  | .reconcile answers spec endpoint => (r.reconcile answers spec endpoint).2
  | .delete answers endpoint => (r.delete answers endpoint).2

/-- When the cache answers a call, the wrapped reconciler would find nothing to do either. -/
def HidesNothing (r : CachedHealthCheckReconciler) : Call → Prop
  | .reconcile _ spec endpoint => ∀ id, r.Hit spec endpoint id →
      ∀ answers : Answers, answers.get = none →
        (HealthChecks.reconcile answers spec endpoint r.checks).answer = .ok ⟨.noop, ""⟩ ∧
          (HealthChecks.reconcile answers spec endpoint r.checks).issued = none
  | .delete _ _ => True

/-! ## What the wrapped reconciler does to a check -/

section
variable {answers : Answers} {spec : HealthCheckSpec} {endpoint : Endpoint} {checks : Checks}
  {id : String}

theorem update_applied {config : HealthCheckConfig} (hcheck : checks id = some config)
    (hnone : healthCheckDiff ⟨id, config⟩ spec endpoint = none) :
    Function.update checks id (some (applied ⟨id, config⟩ spec endpoint)) = checks := by
  rw [applied, hnone, ← hcheck, Function.update_eq_self]

/-- A call for an endpoint with the id of a check fails and leaves everything as it is, or updates
    the check. -/
theorem reconcile_cases (hid : getHealthCheckId endpoint = some id) :
    (∃ err, (reconcile answers spec endpoint checks).answer = .error err ∧
      (reconcile answers spec endpoint checks).checks = checks) ∨
    ∃ config result, checks id = some config ∧
      (reconcile answers spec endpoint checks).answer = .ok result ∧
      (reconcile answers spec endpoint checks).checks
        = Function.update checks id (some (applied ⟨id, config⟩ spec endpoint)) := by
  simp only [reconcile, findHealthCheck, hid]
  cases hget : answers.get with
  | some err => exact .inl ⟨err, rfl, rfl⟩
  | none =>
      cases hcheck : checks id with
      | none => exact .inl ⟨_, rfl, rfl⟩
      | some config =>
          simp only [updateHealthCheck]
          cases hdiff : healthCheckDiff ⟨id, config⟩ spec endpoint with
          | none => exact .inr ⟨config, _, rfl, rfl, (update_applied hcheck hdiff).symm⟩
          | some input =>
              cases answers.update with
              | some err => exact .inl ⟨err, rfl, rfl⟩
              | none => exact .inr ⟨config, _, rfl, rfl, by rw [applied, hdiff]⟩

theorem checks_reconcile_of_ne (hid : getHealthCheckId endpoint = some id) {id' : String}
    (hne : id' ≠ id) : (reconcile answers spec endpoint checks).checks id' = checks id' := by
  rcases reconcile_cases hid with ⟨err, -, hchecks⟩ | ⟨config, result, -, -, hchecks⟩
  · rw [hchecks]
  · rw [hchecks, Function.update_of_ne hne]

/-- A call for an endpoint without a check makes one, if the service does. -/
theorem checks_reconcile_new (hid : getHealthCheckId endpoint = none) :
    (reconcile answers spec endpoint checks).checks = checks ∧ answers.create ≠ none ∨
    answers.create = none ∧ ∃ config, (reconcile answers spec endpoint checks).checks
      = Function.update checks answers.newId (some config) := by
  simp only [reconcile, findHealthCheck, hid, createHealthCheck]
  cases answers.create with
  | some err => exact .inl ⟨rfl, Option.some_ne_none err⟩
  | none =>
      cases answers.tags with
      | some err => exact .inr ⟨rfl, _, rfl⟩
      | none => exact .inr ⟨rfl, _, rfl⟩

theorem checks_delete_of_ne (hid : getHealthCheckId endpoint = some id) {id' : String}
    (hne : id' ≠ id) : (delete answers endpoint checks).checks id' = checks id' := by
  simp only [delete, findHealthCheck, hid]
  cases answers.get with
  | some err => rfl
  | none =>
      cases checks id with
      | none => rfl
      | some config =>
          cases answers.delete with
          | some err => rfl
          | none => exact Function.update_of_ne hne ..

/-- A served call finds nothing to do exactly when the check is as spec and endpoint want it. -/
theorem noop_iff (hid : getHealthCheckId endpoint = some id) :
    (∀ answers : Answers, answers.get = none →
      (reconcile answers spec endpoint checks).answer = .ok ⟨.noop, ""⟩ ∧
        (reconcile answers spec endpoint checks).issued = none) ↔
      ∃ config, checks id = some config ∧ InSync config spec endpoint := by
  constructor
  · intro h
    obtain ⟨hanswer, hissued⟩ := h {} rfl
    cases hcheck : checks id with
    | none =>
        simp only [reconcile, findHealthCheck, hid, hcheck] at hanswer
        cases hanswer
    | some config =>
        rw [reconcile_found hid rfl rfl hcheck] at hissued
        cases hdiff : healthCheckDiff ⟨id, config⟩ spec endpoint with
        | none => exact ⟨config, rfl, healthCheckDiff_eq_none.1 hdiff⟩
        | some input =>
            rw [hdiff] at hissued
            cases hissued
  · rintro ⟨config, hcheck, hsync⟩ answers hget
    rw [reconcile_inSync hid hget hcheck hsync]
    exact ⟨rfl, rfl⟩

end

section
variable {answers : Answers} {spec : HealthCheckSpec} {endpoint : Endpoint}
  {r : CachedHealthCheckReconciler} {id : String}

theorem reconcile_hit (hhit : r.Hit spec endpoint id) :
    r.reconcile answers spec endpoint
      = (⟨.ok ⟨.noop, "Spec unchanged"⟩, endpoint, r.checks, none⟩, r) := by
  have hstore : Function.update r.syncCache id (some spec) = r.syncCache := by
    rw [← hhit.2, Function.update_eq_self]
  simp only [CachedHealthCheckReconciler.reconcile, hhit.1, hhit.2, if_true, hstore]

theorem reconcile_miss (hid : getHealthCheckId endpoint = some id)
    (hmiss : r.syncCache id ≠ some spec) :
    (r.reconcile answers spec endpoint).2 = ⟨Function.update r.syncCache id (some spec),
      (reconcile answers spec endpoint r.checks).checks⟩ := by
  simp only [CachedHealthCheckReconciler.reconcile, hid]
  split
  · rfl
  · rename_i existingSpec hcached
    rw [if_neg]
    rintro rfl
    exact hmiss hcached

end

/-! ## The last call for each check -/

/-- What was last done about a check: a call for an endpoint, with the configuration it has found,
    or something that has left the check with the configuration. -/
inductive Delegated where
  | updated (endpoint : Endpoint) (before : HealthCheckConfig)
  | left (config : Option HealthCheckConfig)

/-- The configuration of the check since then. -/
def Delegated.config (id : String) (spec : HealthCheckSpec) : Delegated → Option HealthCheckConfig
  | .updated endpoint before => some (applied ⟨id, before⟩ spec endpoint)
  | .left config => config

/-- The call has also done what another call with the same spec has to do: it was made for the same
    name and address, and the spec gives what the service has with other values than the defaults.
    After a call that has failed there is nothing to do only if there was nothing before. -/
def Delegated.Covers (spec : HealthCheckSpec) (endpoint : Endpoint) : Delegated → Prop
  | .updated endpoint' before => endpoint.dnsName = endpoint'.dnsName ∧
      endpoint.getAddress.1 = endpoint'.getAddress.1 ∧ GivenOrDefault before spec
  | .left config => ∃ c, config = some c ∧ InSync c spec endpoint

/-- What a call for an endpoint with the id has done. -/
def Delegated.of (answers : Answers) (spec : HealthCheckSpec) (endpoint : Endpoint)
    (checks : Checks) (id : String) : Delegated :=
  match (reconcile answers spec endpoint checks).answer, checks id with
  | .ok _, some config => .updated endpoint config
  | _, config => .left config

/-- The reconciler with a record of the last call that was delegated for each check. -/
structure Traced extends CachedHealthCheckReconciler where
  last : String → Option Delegated := fun _ => none

namespace Traced

/-- The record after a call. Deletes and calls that are answered from the cache leave it. -/
def record (t : Traced) : Call → String → Option Delegated
  | .delete _ _ => t.last
  | .reconcile answers spec endpoint =>
    match getHealthCheckId endpoint with
    | some id =>
      if t.syncCache id = some spec then t.last
      else Function.update t.last id (some (.of answers spec endpoint t.checks id))
    | none =>
      -- a new check is left as it was made
      if answers.create = none then
        Function.update t.last answers.newId
          (some (.left ((reconcile answers spec endpoint t.checks).checks answers.newId)))
      else t.last

/-- A call, with that written down. -/
def step (t : Traced) (call : Call) : Traced where
  toCachedHealthCheckReconciler := t.toCachedHealthCheckReconciler.step call
  last := t.record call

/-- A call that the cache answers is covered by the last one that was delegated. -/
def Covered (t : Traced) : Call → Prop
  | .reconcile _ spec endpoint => ∀ id, t.Hit spec endpoint id →
      ∃ d, t.last id = some d ∧ d.Covers spec endpoint
  | .delete _ _ => True

/-- What the cache remembers was the spec of the recorded call. -/
def Remembers (t : Traced) : Prop :=
  ∀ id spec, t.syncCache id = some spec → ∃ d, t.last id = some d ∧ t.checks id = d.config id spec

theorem remembers_init (checks : Checks) : ({ checks := checks } : Traced).Remembers :=
  fun _ _ h => nomatch h

variable {t : Traced}

theorem Remembers.hit (h : t.Remembers) {answers : Answers} {spec : HealthCheckSpec}
    {endpoint : Endpoint} {id : String} (hhit : t.Hit spec endpoint id) :
    (t.step (.reconcile answers spec endpoint)).Remembers := by
  have hsame : t.step (.reconcile answers spec endpoint) = t := by
    simp only [step, CachedHealthCheckReconciler.step, reconcile_hit hhit, record, hhit.1, hhit.2,
      if_true]
  rwa [hsame]

theorem config_of (answers : Answers) (spec : HealthCheckSpec) {endpoint : Endpoint} {id : String}
    (hid : getHealthCheckId endpoint = some id) (checks : Checks) :
    (reconcile answers spec endpoint checks).checks id
      = (Delegated.of answers spec endpoint checks id).config id spec := by
  rcases reconcile_cases hid with
    ⟨err, hanswer, hchecks⟩ | ⟨config, result, hcheck, hanswer, hchecks⟩
  · rw [hchecks, Delegated.of, hanswer]
    rfl
  · rw [hchecks, Delegated.of, hanswer, hcheck, Function.update_self]
    rfl

theorem Remembers.miss (h : t.Remembers) {answers : Answers} {spec : HealthCheckSpec}
    {endpoint : Endpoint} {id : String} (hid : getHealthCheckId endpoint = some id)
    (hmiss : t.syncCache id ≠ some spec) :
    (t.step (.reconcile answers spec endpoint)).Remembers := by
  intro id' spec' hcached
  simp only [step, CachedHealthCheckReconciler.step, reconcile_miss hid hmiss, record, hid,
    if_neg hmiss] at hcached ⊢
  by_cases hsame : id' = id
  · subst hsame
    rw [Function.update_self] at hcached ⊢
    obtain rfl := Option.some.inj hcached
    exact ⟨_, rfl, config_of answers spec hid t.checks⟩
  · rw [Function.update_of_ne hsame] at hcached ⊢
    obtain ⟨d, hlast, hconfig⟩ := h id' spec' hcached
    exact ⟨d, hlast, (checks_reconcile_of_ne hid hsame).trans hconfig⟩

theorem Remembers.new (h : t.Remembers) {answers : Answers} {spec : HealthCheckSpec}
    {endpoint : Endpoint} (hid : getHealthCheckId endpoint = none) :
    (t.step (.reconcile answers spec endpoint)).Remembers := by
  intro id spec' hcached
  simp only [step, CachedHealthCheckReconciler.step, CachedHealthCheckReconciler.reconcile, record,
    hid] at hcached ⊢
  rcases checks_reconcile_new hid with ⟨hchecks, hfailed⟩ | ⟨hcreated, config, hchecks⟩
  · rw [if_neg hfailed, hchecks]
    exact h id spec' hcached
  · rw [if_pos hcreated, hchecks]
    by_cases hsame : id = answers.newId
    · subst hsame
      refine ⟨_, Function.update_self .., ?_⟩
      rfl
    · rw [Function.update_of_ne hsame, Function.update_of_ne hsame]
      exact h id spec' hcached

theorem Remembers.deleted (h : t.Remembers) (answers : Answers) (endpoint : Endpoint) :
    (t.step (.delete answers endpoint)).Remembers := by
  intro id' spec' hcached
  simp only [step, CachedHealthCheckReconciler.step, CachedHealthCheckReconciler.delete,
    record] at hcached ⊢
  cases hid : getHealthCheckId endpoint with
  | none =>
      rw [hid] at hcached
      exact h id' spec' hcached
  | some id =>
      simp only [hid] at hcached ⊢
      by_cases hsame : id' = id
      · subst hsame
        rw [Function.update_self] at hcached
        cases hcached
      · rw [Function.update_of_ne hsame] at hcached
        obtain ⟨d, hlast, hconfig⟩ := h id' spec' hcached
        exact ⟨d, hlast, (checks_delete_of_ne hid hsame).trans hconfig⟩

theorem Remembers.step (h : t.Remembers) (call : Call) : (t.step call).Remembers := by
  cases call with
  | delete answers endpoint => exact h.deleted answers endpoint
  | reconcile answers spec endpoint =>
      cases hid : getHealthCheckId endpoint with
      | none => exact h.new hid
      | some id =>
          by_cases hcached : t.syncCache id = some spec
          · exact h.hit ⟨hid, hcached⟩
          · exact h.miss hid hcached

/-! ## When the answers of the cache are right -/

theorem covers_iff {id : String} {spec : HealthCheckSpec} {endpoint : Endpoint} (d : Delegated) :
    d.Covers spec endpoint
      ↔ ∃ config, d.config id spec = some config ∧ InSync config spec endpoint := by
  cases d with
  | left config => exact Iff.rfl
  | updated endpoint' before => simp [Delegated.Covers, Delegated.config, inSync_applied_iff]

theorem Remembers.hidesNothing_iff (h : t.Remembers) (call : Call) :
    HidesNothing t.toCachedHealthCheckReconciler call ↔ t.Covered call := by
  cases call with
  | delete answers endpoint => exact Iff.rfl
  | reconcile answers spec endpoint =>
      refine forall_congr' fun id => imp_congr_right fun hhit => ?_
      obtain ⟨d, hlast, hconfig⟩ := h id spec hhit.2
      rw [noop_iff hhit.1, hconfig, ← covers_iff, hlast]
      simp

end Traced

/-- The cache is right throughout a run exactly when every call it answers is covered by the last
    one that was delegated for the check. -/
theorem cache_hides_nothing_iff (checks : Checks) (run : List Call) :
    Run.Always CachedHealthCheckReconciler.step HidesNothing { checks := checks } run ↔
      Run.Always Traced.step Traced.Covered { checks := checks } run := by
  have hmap : Run.Always Traced.step (fun t => HidesNothing t.toCachedHealthCheckReconciler)
      { checks := checks } run ↔
        Run.Always CachedHealthCheckReconciler.step HidesNothing { checks := checks } run :=
    Run.always_map (fun _ _ => rfl) _ run
  rw [← hmap]
  exact Run.always_congr (P := Traced.Remembers) (fun _ call h => h.step call)
    (fun _ call h => h.hidesNothing_iff call) (Traced.remembers_init checks) run

/-- The service with one check. -/
def oneCheck : Checks := fun id => if id = "check" then some {} else none

/-- The cache answers a call for an endpoint with another name, and one after a failed update. -/
theorem cache_hides_updates :
    ¬ Run.Always CachedHealthCheckReconciler.step HidesNothing { checks := oneCheck }
      [.reconcile {} { id := "probe" } (endpointAt "old.example.com" "172.31.200.0" "check"),
        .reconcile {} { id := "probe" } (endpointAt "new.example.com" "172.31.200.0" "check")] ∧
    ¬ Run.Always CachedHealthCheckReconciler.step HidesNothing { checks := oneCheck }
      [.reconcile { update := some "Throttling" } { id := "probe" }
          (endpointAt "app.example.com" "172.31.200.0" "check"),
        .reconcile {} { id := "probe" } (endpointAt "app.example.com" "172.31.200.0" "check")] := by
  constructor
  · rintro ⟨-, hhides, -⟩
    have hnoop := hhides "check" ⟨by decide, by decide⟩ {} rfl
    exact absurd hnoop.2 (by decide)
  · rintro ⟨-, hhides, -⟩
    have hnoop := hhides "check" ⟨by decide, by decide⟩ {} rfl
    exact absurd hnoop.2 (by decide)

end MultiClusterGateway.HealthChecks
