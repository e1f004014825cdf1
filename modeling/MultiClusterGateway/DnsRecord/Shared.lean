import MultiClusterGateway.DnsRecord.Cleanup

set_option autoImplicit false

/-! # Records that share a zone

The records of several listeners, each with its own runs of the reconciler, over one zone. What a
record has in its hands and what it has published are endpoints that clients gave it, and on Route 53
a reconcile changes nothing but the record sets of such endpoints.

Each record has its own object, its own reconcile under way and its own history, and only the zone
is shared. A step of one record is the step of the machine for a single record on its view of the
state, so that what was proved there is used as it is. The invariant is that all endpoints the
reconciler of a record can come across belong to a given set, and on Route 53 a step then leaves the
record sets of other endpoints alone (`Holds.get_step`). -/

universe u

namespace MultiClusterGateway.DnsRecord

/-! ## The machine -/

/-- The part of a record's state that is its own. -/
structure Local where
  object : Option DNSRecord
  pending : Pending := .idle
  history : History := {}

/-- Records by the name of their listener, and their zone. -/
structure Shared (Zone : Type) where
  records : String → Local
  zone : Zone

namespace Shared

variable {Zone : Type} {Call : Type u}

/-- What the reconciler of one record sees. -/
def view (s : Shared Zone) (listener : String) : State Zone where
  object := (s.records listener).object
  zone := s.zone
  pending := (s.records listener).pending
  history := (s.records listener).history

/-- The state once one record and the zone have changed. -/
def put (s : Shared Zone) (listener : String) (t : State Zone) : Shared Zone where
  records := Function.update s.records listener ⟨t.object, t.pending, t.history⟩
  zone := t.zone

/-- An event of one record. -/
def step (provider : Provider Zone Call) (s : Shared Zone) (e : String × Event Call) :
    Shared Zone :=
  s.put e.1 (DnsRecord.step provider (s.view e.1) e.2)

/-- Records that have just been created. -/
def start (record : String → DNSRecord) (zone : Zone) : Shared Zone where
  records listener := { object := (DnsRecord.start (record listener) zone).object }
  zone := zone

@[simp] theorem view_put_self (s : Shared Zone) (listener : String) (t : State Zone) :
    (s.put listener t).view listener = t := by
  simp [view, put]

theorem records_put_of_ne (s : Shared Zone) {listener other : String} (h : other ≠ listener)
    (t : State Zone) : (s.put listener t).records other = s.records other :=
  Function.update_of_ne h _ _

@[simp] theorem put_put (s : Shared Zone) (listener : String) (t t' : State Zone) :
    (s.put listener t).put listener t' = s.put listener t' := by
  simp [put]

@[simp] theorem put_view (s : Shared Zone) (listener : String) :
    s.put listener (s.view listener) = s := by
  simp [put, view]

/-- Steps of one record only. -/
theorem foldl_step_map (provider : Provider Zone Call) (listener : String)
    (events : List (Event Call)) (s : Shared Zone) :
    (events.map (Prod.mk listener)).foldl (step provider) s
      = s.put listener (events.foldl (DnsRecord.step provider) (s.view listener)) := by
  induction events generalizing s with
  | nil => exact (put_view s listener).symm
  | cons e rest ih =>
      rw [List.map_cons, List.foldl_cons, ih, List.foldl_cons]
      simp [step]

end Shared

/-! ## Endpoints of a record -/

/-- The endpoints of the spec and of the status. -/
def Carries (P : Endpoint → Prop) (r : DNSRecord) : Prop :=
  (∀ e ∈ r.spec.endpoints, P e) ∧ ∀ e ∈ r.status.endpoints, P e

/-- All endpoints that the reconciler of a record may come across. -/
structure Holds {Zone : Type} (P : Endpoint → Prop) (s : State Zone) : Prop where
  object : ∀ o, s.object = some o → Carries P o
  pending : ∀ r, s.pending.record = some r → Carries P r
  published : ∀ e ∈ s.history.published, P e

section
variable {Zone : Type} {Call : Type u} {P : Endpoint → Prop} {o r o' : DNSRecord}

theorem apiUpdate_eq_some (h : apiUpdate o r = some o') :
    o'.spec = r.spec ∧ o'.status = o.status := by
  unfold apiUpdate at h
  split at h
  · rename_i hsame
    cases h
    exact ⟨(congrArg DNSRecord.spec hsame).symm, rfl⟩
  · split at h
    · cases h
    · cases h
      exact ⟨rfl, rfl⟩

theorem Carries.apiUpdate (ho : Carries P o) (hr : ∀ e ∈ r.spec.endpoints, P e)
    (h : apiUpdate o r = some o') : Carries P o' := by
  obtain ⟨hspec, hstatus⟩ := apiUpdate_eq_some h
  rw [Carries, hspec, hstatus]
  exact ⟨hr, ho.2⟩

theorem Carries.apiUpdateStatus (ho : Carries P o) (hr : Carries P r) :
    Carries P (apiUpdateStatus o r) := by
  unfold DnsRecord.apiUpdateStatus
  split
  · exact ho
  · exact ⟨ho.1, hr.2⟩

theorem Carries.apiDelete (ho : Carries P o) (h : apiDelete o = some o') : Carries P o' := by
  unfold DnsRecord.apiDelete at h
  split at h
  · cases h
  · split at h
    · cases h
      exact ho
    · cases h
      exact ho

theorem Carries.statusWrite {status : DNSRecordStatus} (hr : Carries P r)
    (hstatus : ∀ e ∈ status.endpoints, P e) {q : DNSRecord}
    (h : (statusWrite r status).record = some q) : Carries P q := by
  unfold DnsRecord.statusWrite at h
  split at h
  · cases h
  · cases h
    exact ⟨hr.1, hstatus⟩

/-- A reconcile writes back, and publishes, endpoints of the object it has read. -/
theorem Carries.outcome {provider : Provider Zone Call} {answers : Answers Call} {p : DNSRecord}
    {zone zone' : Zone} {h h' : History} {pending' : Pending} (hp : Carries P p)
    (hh : ∀ e ∈ h.published, P e)
    (hout : Outcome provider answers p zone h zone' pending' h') :
    (∀ q, pending'.record = some q → Carries P q) ∧ ∀ e ∈ h'.published, P e := by
  cases hout with
  | deleted =>
      refine ⟨fun q hq => ?_, fun e he => nomatch he⟩
      cases hq
      exact hp
  | deleteIgnored | noZone | finalizer =>
      refine ⟨fun q hq => ?_, hh⟩
      cases hq
      exact hp
  | deleteFailed | stopped => exact ⟨fun q hq => (nomatch hq), hh⟩
  | ensured => exact ⟨fun q hq => hp.statusWrite hp.1 hq, hp.1⟩
  | skipped => exact ⟨fun q hq => hp.statusWrite hp.1 hq, hh⟩
  | ensureFailed mz _ err | notPublished err =>
      exact ⟨fun q hq => @Carries.statusWrite P p (failedStatus p err) hp hp.2 q hq, hh⟩

theorem Holds.write {s : State Zone} (hs : Holds P s) : Holds P (write s) := by
  have hidle : ∀ q, Pending.idle.record = some q → Carries P q := fun q hq => nomatch hq
  unfold DnsRecord.write
  split
  · rename_i r o hpending hobject
    have hr : Carries P r := hs.pending r (by rw [hpending]; rfl)
    split
    · exact ⟨fun o' ho' => (hs.object o hobject).apiUpdate hr.1 ho', hidle, hs.published⟩
    · exact ⟨hs.object, hidle, hs.published⟩
  · rename_i r o hpending hobject
    have hr : Carries P r := hs.pending r (by rw [hpending]; rfl)
    split
    · refine ⟨fun o' ho' => ?_, hidle, hs.published⟩
      cases ho'
      exact (hs.object o hobject).apiUpdateStatus hr
    · exact ⟨hs.object, hidle, hs.published⟩
  · exact ⟨hs.object, hidle, hs.published⟩
  · exact ⟨hs.object, hidle, hs.published⟩
  · exact hs

/-- The endpoints stay in a set as long as clients write endpoints of it. -/
theorem Holds.step {provider : Provider Zone Call} {s : State Zone} (hs : Holds P s)
    {event : Event Call} (hedit : ∀ es, event = .edit es → ∀ e ∈ es, P e) :
    Holds P (step provider s event) := by
  cases event with
  | edit es =>
      refine ⟨fun o' ho' => ?_, hs.pending, hs.published⟩
      obtain ⟨o, ho, hupdate⟩ := Option.bind_eq_some_iff.1 ho'
      exact (hs.object o ho).apiUpdate (hedit es rfl) hupdate
  | annotate annotations =>
      refine ⟨fun o' ho' => ?_, hs.pending, hs.published⟩
      obtain ⟨o, ho, hupdate⟩ := Option.bind_eq_some_iff.1 ho'
      refine Carries.apiUpdate (hs.object o ho) ?_ hupdate
      exact (hs.object o ho).1
  | requestDelete =>
      refine ⟨fun o' ho' => ?_, hs.pending, hs.published⟩
      obtain ⟨o, ho, hdelete⟩ := Option.bind_eq_some_iff.1 ho'
      exact (hs.object o ho).apiDelete hdelete
  | read =>
      simp only [DnsRecord.step]
      split
      · rename_i o _ hobject
        refine ⟨hs.object, fun q hq => ?_, hs.published⟩
        cases hq
        exact hs.object o hobject
      · exact hs
  | work answers =>
      simp only [DnsRecord.step]
      split
      · rename_i p hread
        have hp : Carries P p := hs.pending p (by rw [hread]; rfl)
        obtain ⟨hpending, hpublished⟩ := hp.outcome hs.published
          (@outcome_reconcile _ _ provider answers p s.zone s.history)
        exact ⟨hs.object, hpending, hpublished⟩
      · exact hs
  | write served =>
      simp only [DnsRecord.step]
      split
      · exact hs
      · cases served with
        | true => exact hs.write
        | false => exact ⟨hs.object, fun q hq => (by cases hq), hs.published⟩
  | crash => exact ⟨hs.object, fun q hq => (by cases hq), hs.published⟩

end

/-! ## What a step changes in a Route 53 zone -/

section
variable {P : Endpoint → Prop} {k : Route53.RecordKey}

theorem get_of_outcome {answers : Answers (Option String)} {p : DNSRecord}
    {zone zone' : Route53.Zone} {h h' : History} {pending' : Pending} (hp : Carries P p)
    (hk : ∀ e, P e → Route53.endpointKey e ≠ k)
    (hout : Outcome Route53.provider answers p zone h zone' pending' h') :
    zone'.get k = zone.get k := by
  have hstatus : ∀ e ∈ Route53.staleEndpoints p, Route53.endpointKey e ≠ k :=
    fun e he => hk e (hp.2 e (Route53.mem_staleEndpoints.1 he).1)
  have hspec : ∀ e ∈ p.spec.endpoints, Route53.endpointKey e ≠ k := fun e he => hk e (hp.1 e he)
  cases hout with
  | deleted mz _ _ _ hcall =>
      rcases Route53.change_eq_ok.1 (Route53.callResult_done hcall) with
        ⟨-, rfl⟩ | ⟨-, -, -, happly⟩
      · rfl
      · exact (Route53.get_of_delete happly).2 k hspec
  | ensured mz _ _ _ _ hcall =>
      rcases Route53.change_eq_ok.1 (Route53.callResult_done hcall) with
        ⟨-, rfl⟩ | ⟨-, -, -, happly⟩
      · rfl
      · exact (Route53.get_of_ensure happly).2.2 k hspec hstatus
  | deleteIgnored mz _ err _ _ hcall => rw [(Route53.callResult_failed hcall).1]
  | deleteFailed mz _ err _ hcall => rw [(Route53.callResult_failed hcall).1]
  | ensureFailed mz _ err _ _ hcall => rw [(Route53.callResult_failed hcall).1]
  | noZone | stopped | finalizer | skipped | notPublished => rfl

/-- A step of a record leaves the record sets that are not for its endpoints. -/
theorem Holds.get_step {s : State Route53.Zone} (hs : Holds P s)
    (hk : ∀ e, P e → Route53.endpointKey e ≠ k) (event : Event (Option String)) :
    (DnsRecord.step Route53.provider s event).zone.get k = s.zone.get k := by
  have hmoves := moves_step Route53.provider s event
  generalize DnsRecord.step Route53.provider s event = s' at hmoves ⊢
  cases hmoves with
  | work answers p hread zone' pending' history' hout =>
      exact get_of_outcome (hs.pending p (by rw [hread]; rfl)) hk hout
  | client | read | update | updateStatus | dropped | unchanged => rfl

end

/-! ## Runs of one record -/

section
variable {zone zone' : Route53.Zone} {o : DNSRecord} {h : History}

/-- What the answers of `cycle` are. -/
def readyAnswers : Answers (Option String) where
  managedZone := .found readyZone
  call := none

theorem foldl_cycle {pending' : Pending} {h' : History}
    (hreconcile : reconcile Route53.provider readyAnswers o zone = (zone', pending'))
    (hread : ∀ p, pending' ≠ .read p)
    (hafter : h.after Route53.provider readyAnswers o zone = h') :
    (cycle none).foldl (step Route53.provider) { object := some o, zone := zone, history := h }
      = write { object := some o, zone := zone', pending := pending', history := h' } := by
  show step Route53.provider (step Route53.provider
    { object := some o, zone := zone, pending := .read o, history := h } (.work readyAnswers))
      (.write true) = _
  have hwork : step Route53.provider
      { object := some o, zone := zone, pending := .read o, history := h } (.work readyAnswers)
        = { object := some o, zone := zone', pending := pending', history := h' } := by
    simp only [step, hreconcile, hafter]
  rw [hwork]
  cases pending' with
  | read p => exact absurd rfl (hread p)
  | idle | update r | updateStatus r => rfl

/-- The first reconcile of a record adds the finalizer. -/
theorem foldl_cycle_finalizer (hdel : o.metadata.deletionTimestamp = false)
    (hfinalizers : o.metadata.finalizers = []) :
    (cycle none).foldl (step Route53.provider) { object := some o, zone := zone, history := h }
      = { object := some (nextVersion (addFinalizer o)), zone := zone, history := h } := by
  have hnotMem : dnsRecordFinalizer ∉ o.metadata.finalizers := by
    rw [hfinalizers]
    exact List.not_mem_nil
  have hreconcile : reconcile Route53.provider readyAnswers o zone
      = (zone, .update (addFinalizer o)) := by
    simp [reconcile, hdel, hnotMem]
  have hafter : h.after Route53.provider readyAnswers o zone = h := by
    refine after_of_request_eq_none ?_
    simp [request, readyAnswers, hdel, hnotMem]
  have hupdate : apiUpdate o (addFinalizer o) = some (nextVersion (addFinalizer o)) := by
    have hchanged : updated o (addFinalizer o) = addFinalizer o := by
      simp [updated, addFinalizer]
    have hne : addFinalizer o ≠ o := by
      intro heq
      have hmem := congrArg (fun r : DNSRecord => r.metadata.finalizers) heq
      simp [addFinalizer] at hmem
    rw [apiUpdate, hchanged, if_neg hne, if_neg]
    rintro ⟨hdel', -⟩
    rw [hdel] at hdel'
    cases hdel'
  rw [foldl_cycle hreconcile (fun p hp => by cases hp) hafter]
  simp only [write]
  rw [if_pos (by rfl), hupdate]
  have hdel' : (addFinalizer o).metadata.deletionTimestamp = false := hdel
  rw [hdel', Bool.or_false]

/-- The next one publishes the endpoints and records them in the status. -/
theorem foldl_cycle_publish (hdel : o.metadata.deletionTimestamp = false)
    (hfinalizer : dnsRecordFinalizer ∈ o.metadata.finalizers)
    (hnew : o.metadata.generation ≠ o.status.observedGeneration)
    (hensure : Route53.ensure none o readyZone.id zone = .ok zone') :
    (cycle none).foldl (step Route53.provider) { object := some o, zone := zone, history := h }
      = { object := some (nextVersion { o with status := publishedStatus o }), zone := zone',
          history := { h with
            created := o.spec.endpoints :: h.created, published := o.spec.endpoints } } := by
  have hready : isReady readyZone = true := by decide
  have hcall : Route53.provider.ensure none o readyZone zone = .done zone' := by
    simp [Route53.provider, hensure, Route53.callResult]
  have hstatus : publishedStatus o ≠ o.status := by
    intro heq
    exact hnew (congrArg DNSRecordStatus.observedGeneration heq)
  have hreconcile : reconcile Route53.provider readyAnswers o zone
      = (zone', .updateStatus { o with status := publishedStatus o }) := by
    simp [reconcile, hdel, hfinalizer, publishRecord, readyAnswers, hready, hnew, hcall,
      statusWrite, hstatus]
  have hrequest : request readyAnswers o = some (.ensure readyZone) := by
    simp [request, readyAnswers, hready, hdel, hfinalizer, hnew]
  have hafter : h.after Route53.provider readyAnswers o zone = { h with
      created := o.spec.endpoints :: h.created, published := o.spec.endpoints } := by
    have hcall' : Route53.provider.ensure readyAnswers.call o readyZone zone = .done zone' := hcall
    simp [History.after, hrequest, hcall']
  rw [foldl_cycle hreconcile (fun p hp => by cases hp) hafter]
  simp only [write]
  rw [if_pos trivial, apiUpdateStatus, if_neg hstatus]

/-- Endpoints are written to a new record and published. -/
def publication (es : List Endpoint) : List (Event (Option String)) :=
  .edit es :: (cycle none ++ cycle none)

theorem foldl_publication {record : DNSRecord} {es : List Endpoint}
    (hspec : record.spec.endpoints = []) (hfinalizers : record.metadata.finalizers = [])
    (hes : es ≠ [])
    (hensure : ∀ r : DNSRecord, r.spec.endpoints = es → r.status.endpoints = [] →
      Route53.ensure none r readyZone.id zone = .ok zone') :
    ∃ o : DNSRecord, (publication es).foldl (step Route53.provider) (start record zone)
        = { object := some o, zone := zone', history := { created := [es], published := es } } ∧
      o.spec.endpoints = es ∧ o.metadata.finalizers ≠ [] ∧
      o.metadata.deletionTimestamp = false := by
  let o₀ : DNSRecord := { record with
    metadata := { record.metadata with
      generation := 1, resourceVersion := 1, deletionTimestamp := false }
    status := {} }
  let r : DNSRecord := { o₀ with spec := { o₀.spec with endpoints := es } }
  have hne : r.spec ≠ o₀.spec := by
    intro heq
    exact hes ((congrArg DNSRecordSpec.endpoints heq).trans hspec)
  have hupdate : apiUpdate o₀ r = some (nextVersion (updated o₀ r)) := by
    have hchanged : updated o₀ r ≠ o₀ := fun heq =>
      hne (@congrArg _ _ (updated o₀ r) o₀ DNSRecord.spec heq)
    rw [apiUpdate, if_neg hchanged, if_neg]
    rintro ⟨hdel, -⟩
    cases hdel
  let o₁ := nextVersion (updated o₀ r)
  let o₂ := nextVersion (addFinalizer o₁)
  have hedit : step Route53.provider (start record zone) (.edit es)
      = { object := some o₁, zone := zone } := by
    show ({ object := apiUpdate o₀ r, zone := zone } : State Route53.Zone) = _
    rw [hupdate]
  have hgeneration : o₁.metadata.generation = 2 := if_neg hne
  have hfinalizer : dnsRecordFinalizer ∈ o₂.metadata.finalizers :=
    List.mem_append_right _ List.mem_cons_self
  refine ⟨nextVersion { o₂ with status := publishedStatus o₂ }, ?_, rfl, ?_, rfl⟩
  · rw [publication, List.foldl_cons, hedit, List.foldl_append,
      @foldl_cycle_finalizer zone o₁ {} rfl hfinalizers]
    refine foldl_cycle_publish rfl hfinalizer ?_ (hensure o₂ rfl rfl)
    intro hseen
    rw [show o₂.metadata.generation = 2 from hgeneration] at hseen
    cases hseen
  · exact List.ne_nil_of_mem hfinalizer

/-- The deletion of a published record is requested, and the reconcile has read it. -/
theorem foldl_requestDelete (hdel : o.metadata.deletionTimestamp = false)
    (hfinalizers : o.metadata.finalizers ≠ []) :
    ∃ p : DNSRecord, [Event.requestDelete, .read].foldl (step Route53.provider)
        { object := some o, zone := zone, history := h }
          = { object := some p, zone := zone, pending := .read p, history := h } ∧
      p.spec = o.spec ∧ p.metadata.deletionTimestamp = true := by
  let p : DNSRecord := nextVersion { o with metadata := { o.metadata with
    deletionTimestamp := true
    generation := o.metadata.generation + 1 } }
  have hdelete : apiDelete o = some p := by
    rw [apiDelete, if_neg hfinalizers, if_neg]
    rw [hdel]
    exact Bool.false_ne_true
  have hmarked : step Route53.provider { object := some o, zone := zone, history := h }
      .requestDelete = { object := some p, zone := zone, history := h } := by
    show ({ object := apiDelete o, zone := zone, history := h } : State Route53.Zone) = _
    rw [hdelete]
  refine ⟨p, ?_, rfl, rfl⟩
  rw [List.foldl_cons, hmarked]
  rfl

/-- The reconcile of a record that is to be deleted. -/
theorem step_work_delete (hdel : o.metadata.deletionTimestamp = true)
    (hdelete : Route53.delete none o readyZone.id zone = .ok zone') (object : Option DNSRecord) :
    (step Route53.provider { object := object, zone := zone, pending := .read o, history := h }
      (.work readyAnswers)).zone = zone' := by
  have hready : isReady readyZone = true := by decide
  have hcall : Route53.provider.delete none o readyZone zone = .done zone' := by
    simp [Route53.provider, hdelete, Route53.callResult]
  simp [step, reconcile, hdel, deleteRecord, readyAnswers, hready, hcall]

end

end MultiClusterGateway.DnsRecord
