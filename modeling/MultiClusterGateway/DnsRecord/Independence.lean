import MultiClusterGateway.DnsPolicy.RecordSets

set_option autoImplicit false

/-! # A record among others is as good as alone

The records of a gateway's listeners share a zone, and their reconciles take turns in any order. A
provider whose calls see only part of the zone, the record sets of the endpoints that a record can
have, cannot tell two zones apart that agree there (`Alike.step`). With generated names that differ,
the other records of the gateway never touch that part, so that a record goes through the states
that it would go through with the zone to itself (`runs_as_if_alone`). -/

universe u

namespace MultiClusterGateway

/-! ## Providers that see part of a zone -/

/-- Two calls end in the same way, with zones that are related. -/
inductive CallResult.Agree {Zone : Type} (R : Zone → Zone → Prop) :
    CallResult Zone → CallResult Zone → Prop
  | done {zone zone' : Zone} (h : R zone zone') : Agree R (.done zone) (.done zone')
  | failed {zone zone' : Zone} (h : R zone zone') (err : String) :
      Agree R (.failed zone err) (.failed zone' err)
  | panicked (reason : String) : Agree R (.panicked reason) (.panicked reason)

namespace DnsRecord

section
variable {Zone : Type} {Call : Type u}

/-- For some records, the calls of the provider do not depend on more of a zone than `R` relates. -/
def Respects (provider : Provider Zone Call) (Good : DNSRecord → Prop) (R : Zone → Zone → Prop) :
    Prop :=
  ∀ (call : Call) (record : DNSRecord) (mz : ManagedZone) (zone zone' : Zone), Good record →
    R zone zone' →
    (provider.ensure call record mz zone).Agree R (provider.ensure call record mz zone') ∧
    (provider.delete call record mz zone).Agree R (provider.delete call record mz zone')

variable {provider : Provider Zone Call} {Good : DNSRecord → Prop} {R : Zone → Zone → Prop}
  {answers : Answers Call} {p : DNSRecord} {zone zone' : Zone}

theorem deleteRecord_agree (hrespects : Respects provider Good R) (hp : Good p)
    (hR : R zone zone') :
    (deleteRecord provider answers p zone).Agree R (deleteRecord provider answers p zone') := by
  unfold deleteRecord
  cases answers.managedZone with
  | notFound err => exact .done hR
  | failed err => exact .failed hR err
  | found mz =>
      simp only
      by_cases hready : isReady mz = false
      · simp only [hready, if_true]
        exact .failed hR _
      · simp only [hready]
        cases answers.providerErr with
        | some err => exact .failed hR err
        | none =>
            have hcall := (hrespects answers.call p mz zone zone' hp hR).2
            simp only
            generalize provider.delete answers.call p mz zone = r at hcall ⊢
            generalize provider.delete answers.call p mz zone' = r' at hcall ⊢
            cases hcall with
            | done h => exact .done h
            | panicked reason => exact .panicked reason
            | failed h err =>
                by_cases hignored : ignoredOnDelete err = true
                · simpa [hignored] using .done h
                · simpa [hignored] using .failed h err

theorem publishRecord_agree (hrespects : Respects provider Good R) (hp : Good p)
    (hR : R zone zone') :
    (publishRecord provider answers p zone).Agree R (publishRecord provider answers p zone') := by
  unfold publishRecord
  cases answers.managedZone with
  | notFound err => exact .failed hR err
  | failed err => exact .failed hR err
  | found mz =>
      simp only
      by_cases hready : isReady mz = false
      · simp only [hready, if_true]
        exact .failed hR _
      · by_cases hseen : p.metadata.generation = p.status.observedGeneration
        · simpa [hready, hseen] using .done hR
        · cases answers.providerErr with
          | some err => simpa [hready, hseen] using .failed hR err
          | none => simpa [hready, hseen] using (hrespects answers.call p mz zone zone' hp hR).1

/-- The zones stay related, and the same write is due. -/
theorem reconcile_agree (hrespects : Respects provider Good R) (hp : Good p) (hR : R zone zone') :
    R (reconcile provider answers p zone).1 (reconcile provider answers p zone').1 ∧
      (reconcile provider answers p zone).2 = (reconcile provider answers p zone').2 := by
  unfold reconcile
  by_cases hdel : p.metadata.deletionTimestamp = true
  · have hcall := @deleteRecord_agree _ _ _ _ _ answers p zone zone' hrespects hp hR
    generalize deleteRecord provider answers p zone = r at hcall ⊢
    generalize deleteRecord provider answers p zone' = r' at hcall ⊢
    cases hcall with
    | done h => simpa [hdel] using h
    | failed h err => simpa [hdel] using h
    | panicked reason => simpa [hdel] using hR
  · by_cases hfinalizer : dnsRecordFinalizer ∉ p.metadata.finalizers
    · simpa [hdel, hfinalizer] using hR
    · have hcall := @publishRecord_agree _ _ _ _ _ answers p zone zone' hrespects hp hR
      generalize publishRecord provider answers p zone = r at hcall ⊢
      generalize publishRecord provider answers p zone' = r' at hcall ⊢
      cases hcall with
      | done h => simpa [hdel, hfinalizer] using h
      | failed h err => simpa [hdel, hfinalizer] using h
      | panicked reason => simpa [hdel, hfinalizer] using hR

theorem after_agree (hrespects : Respects provider Good R) (hp : Good p) (hR : R zone zone')
    (h : History) : h.after provider answers p zone = h.after provider answers p zone' := by
  unfold History.after
  cases request answers p with
  | none => rfl
  | some r =>
      cases r with
      | ensure mz =>
          have hcall := (hrespects answers.call p mz zone zone' hp hR).1
          simp only
          generalize provider.ensure answers.call p mz zone = r at hcall ⊢
          generalize provider.ensure answers.call p mz zone' = r' at hcall ⊢
          cases hcall <;> rfl
      | delete mz =>
          have hcall := (hrespects answers.call p mz zone zone' hp hR).2
          simp only
          generalize provider.delete answers.call p mz zone = r at hcall ⊢
          generalize provider.delete answers.call p mz zone' = r' at hcall ⊢
          cases hcall <;> rfl

/-- Two states that differ in what the record cannot see of the zone. -/
structure Alike (R : Zone → Zone → Prop) (s t : State Zone) : Prop where
  object : s.object = t.object
  pending : s.pending = t.pending
  history : s.history = t.history
  zone : R s.zone t.zone

theorem Alike.write {s t : State Zone} (h : Alike R s t) : Alike R (write s) (write t) := by
  obtain ⟨object, zone, pending, history⟩ := s
  obtain ⟨object', zone', pending', history'⟩ := t
  obtain ⟨rfl, rfl, rfl, hzone⟩ := h
  unfold DnsRecord.write
  cases pending with
  | idle | read => exact ⟨rfl, rfl, rfl, hzone⟩
  | update r | updateStatus r =>
      cases object with
      | none => exact ⟨rfl, rfl, rfl, hzone⟩
      | some o =>
          by_cases hversion : r.metadata.resourceVersion = o.metadata.resourceVersion
          · simp only [hversion, if_true]
            exact ⟨rfl, rfl, rfl, hzone⟩
          · simp only [hversion, if_false]
            exact ⟨rfl, rfl, rfl, hzone⟩

/-- The same event leads to states that are alike again. -/
theorem Alike.step (hrespects : Respects provider Good R) {s t : State Zone} (h : Alike R s t)
    (hgood : ∀ p, s.pending = .read p → Good p) (e : Event Call) :
    Alike R (step provider s e) (step provider t e) := by
  obtain ⟨hobject, hpending, hhistory, hzone⟩ := h
  cases e with
  | edit | annotate | requestDelete =>
      exact ⟨by simp [DnsRecord.step, hobject], hpending, hhistory, hzone⟩
  | read =>
      simp only [DnsRecord.step, ← hobject, ← hpending]
      split
      · exact ⟨rfl, rfl, hhistory, hzone⟩
      · exact ⟨hobject, hpending, hhistory, hzone⟩
  | work answers =>
      simp only [DnsRecord.step, ← hpending]
      split
      · rename_i p hread
        obtain ⟨hzone', hpending'⟩ := @reconcile_agree _ _ _ _ _ answers p _ _ hrespects
          (hgood p hread) hzone
        refine ⟨hobject, hpending', ?_, hzone'⟩
        rw [hhistory]
        exact after_agree hrespects (hgood p hread) hzone _
      · exact ⟨hobject, hpending, hhistory, hzone⟩
  | write served =>
      simp only [DnsRecord.step, ← hpending]
      split
      · exact ⟨hobject, hpending, hhistory, hzone⟩
      · cases served with
        | true => exact Alike.write ⟨hobject, hpending, hhistory, hzone⟩
        | false => exact ⟨hobject, rfl, hhistory, hzone⟩
  | crash => exact ⟨hobject, rfl, hhistory, hzone⟩

end

end DnsRecord

/-! ## Route 53 -/

namespace Route53

open DnsRecord

/-- The keys of the endpoints that a record may have. -/
def KeyOf (P : Endpoint → Prop) (k : RecordKey) : Prop := ∃ e, P e ∧ endpointKey e = k

variable {P : Endpoint → Prop} {record : DNSRecord}

theorem keyOf_changes (hrecord : Carries P record) (action : Action) :
    ∀ c ∈ changes record action, KeyOf P c.value.key := by
  intro c hc
  cases action with
  | delete =>
      obtain ⟨e, he, rfl⟩ := List.mem_map.1 hc
      exact ⟨e, hrecord.1 e he, rfl⟩
  | upsert =>
      rcases List.mem_append.1 hc with hc | hc
      · obtain ⟨e, he, rfl⟩ := List.mem_map.1 hc
        exact ⟨e, hrecord.1 e he, rfl⟩
      · obtain ⟨e, he, rfl⟩ := List.mem_map.1 hc
        exact ⟨e, hrecord.2 e (mem_staleEndpoints.1 he).1, rfl⟩

/-- A request goes the same way in zones that agree on the keys of the record. -/
theorem callResult_change_agree (hrecord : Carries P record) {zone zone' : Zone}
    (h : zone.AgreeOn (KeyOf P) zone') (fault : Option String) (zoneID : String) (action : Action) :
    (callResult zone (change fault record zoneID action zone)).Agree (Batch.Store.AgreeOn (KeyOf P))
      (callResult zone' (change fault record zoneID action zone')) := by
  unfold change updateRecord
  by_cases hnil : record.spec.endpoints = []
  · simpa [hnil, callResult] using .done h
  · simp only [hnil, if_false]
    cases hchanges : changesFor record action with
    | error err => exact .failed h _
    | ok cs =>
        cases fault with
        | some err => exact .failed h _
        | none =>
            obtain ⟨-, rfl⟩ := changesFor_eq_ok.1 hchanges
            have happly := Batch.applyAll_agree (keyOf_changes hrecord action) h
            simp only [changeResourceRecordSets]
            generalize Batch.applyAll (changes record action) zone = r at happly ⊢
            generalize Batch.applyAll (changes record action) zone' = r' at happly ⊢
            cases happly with
            | none => exact .failed h _
            | some hR => exact .done hR

theorem respects_provider (P : Endpoint → Prop) :
    Respects provider (Carries P) (Batch.Store.AgreeOn (KeyOf P)) :=
  fun call _ mz _ _ hrecord hR =>
    ⟨callResult_change_agree hrecord hR call mz.id .upsert,
      callResult_change_agree hrecord hR call mz.id .delete⟩

end Route53

/-! ## One record of many -/

open DnsRecord

section
variable {env : Env} {gateway : Gateway} {host : String → String} {dnsPolicy : DNSPolicy}
  {mz : ManagedZoneObject} {listener : String}

/-- The events of one record. -/
def eventsOf {Call : Type*} (listener : String) (run : List (String × Event Call)) :
    List (Event Call) :=
  (run.filter (fun e => e.1 == listener)).map Prod.snd

/-- A step of the shared zone: the record takes it as well, or sees nothing of it. -/
theorem alike_shared_step {s : Shared Route53.Zone} {t : State Route53.Zone}
    {e : String × Event (Option String)}
    (hs : ∀ l, Holds (MadeFor env gateway (host l)) (s.view l))
    (hother : e.1 ≠ listener → lbHost env (host e.1) ≠ lbHost env (host listener))
    (halike : Alike (Batch.Store.AgreeOn (Route53.KeyOf (MadeFor env gateway (host listener))))
      (s.view listener) t) :
    Alike (Batch.Store.AgreeOn (Route53.KeyOf (MadeFor env gateway (host listener))))
      ((s.step Route53.provider e).view listener)
      ((eventsOf listener [e]).foldl (step Route53.provider) t) := by
  by_cases hown : e.1 = listener
  · subst hown
    have hevents : eventsOf e.1 [e] = [e.2] := by simp [eventsOf]
    rw [hevents, Shared.step, Shared.view_put_self]
    exact halike.step (Route53.respects_provider _)
      (fun p hp => (hs e.1).pending p (by simp [hp, Pending.record])) e.2
  · have hevents : eventsOf listener [e] = [] := by simp [eventsOf, hown]
    rw [hevents]
    have hsame : (s.step Route53.provider e).records listener = s.records listener :=
      Shared.records_put_of_ne s (Ne.symm hown) _
    refine ⟨?_, ?_, ?_, fun k hk => ?_⟩
    · simpa [Shared.view, hsame] using halike.object
    · simpa [Shared.view, hsame] using halike.pending
    · simpa [Shared.view, hsame] using halike.history
    · -- the record sets of this record have other keys than those of the one that steps
      obtain ⟨e₀, he₀, rfl⟩ := hk
      refine Eq.trans ?_ (halike.zone _ ⟨e₀, he₀, rfl⟩)
      exact (hs e.1).get_step (fun e' he' => he'.endpointKey_ne he₀ (hother hown)) e.2

/-- A run of the shared zone beside the run of the record's own events. -/
theorem alike_shared_foldl {s : Shared Route53.Zone} {t : State Route53.Zone}
    {run : List (String × Event (Option String))}
    (hs : ∀ l, Holds (MadeFor env gateway (host l)) (s.view l))
    (halike : Alike (Batch.Store.AgreeOn (Route53.KeyOf (MadeFor env gateway (host listener))))
      (s.view listener) t)
    (hrun : Run.Always (Shared.step Route53.provider) (Permitted env gateway host) s run)
    (hothers : ∀ e ∈ run, e.1 ≠ listener → lbHost env (host e.1) ≠ lbHost env (host listener)) :
    Alike (Batch.Store.AgreeOn (Route53.KeyOf (MadeFor env gateway (host listener))))
      ((run.foldl (Shared.step Route53.provider) s).view listener)
      ((eventsOf listener run).foldl (step Route53.provider) t) := by
  induction run generalizing s t with
  | nil => exact halike
  | cons e rest ih =>
      obtain ⟨he, hrest⟩ := List.forall_mem_cons.1 hothers
      have hevents : eventsOf listener (e :: rest)
          = eventsOf listener [e] ++ eventsOf listener rest := by
        simp [eventsOf, ← List.map_append, ← List.filter_append]
      rw [hevents, List.foldl_append]
      exact ih (fun l => holds_step hs hrun.1 l) (alike_shared_step hs he halike) hrun.2 hrest

end

/-- The records of a gateway's listeners over one Route 53 zone: in every run of edits by
    `setEndpoints` for targets that are `Nameable`, reconciles with failures and conflicts, and
    deletions, in any order, a record whose generated name differs from those of the others goes
    through the same versions, writes and publications as in the run of its own events with the zone to
    itself, and the zone has the same under each of its record sets. -/
theorem runs_as_if_alone (env : Env) (gateway : Gateway) (host : String → String)
    (dnsPolicy : DNSPolicy) (mz : ManagedZoneObject) (zone : Route53.Zone)
    (run : List (String × Event (Option String)))
    (hrun : Run.Always (Shared.step Route53.provider) (Permitted env gateway host)
      (newRecords gateway host dnsPolicy mz zone) run)
    (listener : String)
    (hothers : ∀ e ∈ run, e.1 ≠ listener → lbHost env (host e.1) ≠ lbHost env (host listener)) :
    let s := run.foldl (Shared.step Route53.provider) (newRecords gateway host dnsPolicy mz zone)
    let alone := (eventsOf listener run).foldl (step Route53.provider)
      ((newRecords gateway host dnsPolicy mz zone).view listener)
    (s.records listener).object = alone.object ∧ (s.records listener).pending = alone.pending ∧
      (s.records listener).history = alone.history ∧
      ∀ e, MadeFor env gateway (host listener) e →
        s.zone.get (Route53.endpointKey e) = alone.zone.get (Route53.endpointKey e) := by
  intro s alone
  have halike := alike_shared_foldl (holds_newRecords zone) ⟨rfl, rfl, rfl, fun _ _ => rfl⟩ hrun
    hothers
  exact ⟨halike.object, halike.pending, halike.history, fun e he => halike.zone _ ⟨e, he, rfl⟩⟩

/-- The records of a host and of its parent are published, one after the other. -/
def hostAndParent : List (String × Event (Option String)) :=
  let publish (listener : String) : List (String × Event (Option String)) :=
    (publication (Call.oneCluster.endpoints .sample parentGateway listener (exampleHosts listener)
      [])).map (Prod.mk listener)
  publish "api" ++ publish "example"

theorem runs_as_if_alone_hostAndParent :
    let s₀ := newRecords parentGateway exampleHosts probingPolicy (zoneIn "testns") .empty
    let s := hostAndParent.foldl (Shared.step Route53.provider) s₀
    let alone := (eventsOf "example" hostAndParent).foldl (step Route53.provider)
      (s₀.view "example")
    eventsOf "api" hostAndParent ≠ [] ∧
      (s.records "example").object = alone.object ∧ (s.records "example").history = alone.history ∧
      ∀ e, MadeFor .sample parentGateway (exampleHosts "example") e →
        s.zone.get (Route53.endpointKey e) = alone.zone.get (Route53.endpointKey e) := by
  intro s₀ s alone
  have hrun : Run.Always (Shared.step Route53.provider)
      (Permitted .sample parentGateway exampleHosts) s₀ hostAndParent := by
    refine Run.always_append_iff.2 ⟨always_publication rfl rfl, ?_⟩
    rw [Shared.foldl_step_map]
    exact always_publication
      (congrArg Local.object (Shared.records_put_of_ne s₀ (by decide) _)) rfl
  have hothers : ∀ e ∈ hostAndParent, e.1 ≠ "example" →
      lbHost .sample (exampleHosts e.1) ≠ lbHost .sample (exampleHosts "example") := by
    intro e he hne
    have hapi : e.1 = "api" := by
      rcases List.mem_append.1 he with hmem | hmem
      · obtain ⟨event, -, rfl⟩ := List.mem_map.1 hmem
        rfl
      · obtain ⟨event, -, rfl⟩ := List.mem_map.1 hmem
        exact absurd rfl hne
    rw [hapi]
    decide
  obtain ⟨hobject, -, hhistory, hzone⟩ := runs_as_if_alone .sample parentGateway exampleHosts
    probingPolicy (zoneIn "testns") .empty hostAndParent hrun "example" hothers
  exact ⟨List.cons_ne_nil _ _, hobject, hhistory, hzone⟩

end MultiClusterGateway
