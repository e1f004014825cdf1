import MultiClusterGateway.DnsRecord.Shared

set_option autoImplicit false

/-! # What the status of a DNSRecord says, and where reconciles lead

For any provider, whatever clients, conflicts, restarts and failing calls do in between: a record
that is ready has had the endpoints of its status published, and one whose generation has been
observed has the endpoints of its spec there (`ready_truthful`). From any state that can be reached,
two undisturbed reconciles whose call succeeds publish the spec and record it, or take a marked record
away, and further ones change nothing (`settles`). -/

universe u

namespace MultiClusterGateway.DnsRecord

/-- The record reports that it has been published. -/
def Ready (o : DNSRecord) : Prop :=
  isStatusConditionTrue o.status.conditions conditionTypeReady = true

theorem ready_published (p : DNSRecord) : Ready { p with status := publishedStatus p } :=
  isStatusConditionTrue_set _ _

theorem not_ready_failed (p : DNSRecord) (err : String) :
    ¬ Ready { p with status := failedStatus p err } := by
  intro h
  have hfalse : isStatusConditionTrue (failedStatus p err).conditions conditionTypeReady = false :=
    isStatusConditionTrue_set _ _
  unfold Ready at h
  simp [hfalse] at h

/-! ## What the status says -/

/-- What a version of the record claims has been done. -/
structure Truthful (created : List (List Endpoint)) (v : DNSRecord) : Prop where
  ready : Ready v → v.status.endpoints ∈ created
  current : v.status.observedGeneration = v.metadata.generation →
    v.status.endpoints = v.spec.endpoints ∧ v.status.endpoints ∈ created

namespace Truthful

variable {created created' : List (List Endpoint)} {o o' p : DNSRecord}

theorem mono (h : Truthful created o) (hsub : created ⊆ created') : Truthful created' o :=
  ⟨fun hready => hsub (h.ready hready),
    fun hobs => ⟨(h.current hobs).1, hsub (h.current hobs).2⟩⟩

/-- A change that is not about the status leaves the generation or makes the claim void. -/
theorem changed (h : Truthful created o) (hle : o.status.observedGeneration ≤ o.metadata.generation)
    (hchange : Changed o o') : Truthful created o' := by
  have hstatus := hchange.status
  have hgen := hchange.later.generation
  refine ⟨fun hready => ?_, fun hobs => ?_⟩
  · rw [hstatus]
    exact h.ready (by unfold Ready at hready ⊢; rwa [hstatus] at hready)
  · rw [hstatus] at hobs ⊢
    have hsame : o'.metadata.generation = o.metadata.generation := by omega
    rw [(hchange.sameGeneration hsame).1]
    exact h.current (hobs.trans hsame)

theorem published (hspec : p.spec.endpoints ∈ created) :
    Truthful created { p with status := publishedStatus p } :=
  ⟨fun _ => hspec, fun _ => ⟨rfl, hspec⟩⟩

theorem failed (h : Truthful created p) (err : String) :
    Truthful created { p with status := failedStatus p err } :=
  ⟨fun hready => absurd hready (not_ready_failed p err), h.current⟩

/-- The status of the version that was read fits the version in the server if it is the same one. -/
theorem apiUpdateStatus (ho : Truthful created o) (hp : Truthful created p)
    (hgen : p.metadata.generation = o.metadata.generation) (hspec : p.spec = o.spec) :
    Truthful created (apiUpdateStatus o p) := by
  unfold DnsRecord.apiUpdateStatus
  split
  · exact ho
  · refine ⟨hp.ready, fun hobs => ?_⟩
    have hcurrent := hp.current (hgen ▸ hobs)
    rw [hspec] at hcurrent
    exact hcurrent

end Truthful

section
variable {Zone : Type} {Call : Type u} {provider : Provider Zone Call}

theorem Outcome.created_subset {answers : Answers Call} {p : DNSRecord} {zone zone' : Zone}
    {h h' : History} {pending' : Pending}
    (hout : Outcome provider answers p zone h zone' pending' h') : h.created ⊆ h'.created := by
  cases hout with
  | ensured => exact List.subset_cons_self _ _
  | deleted | deleteIgnored | deleteFailed | noZone | stopped | finalizer | ensureFailed | skipped
  | notPublished => exact List.Subset.refl _

/-- The status that is due claims nothing that has not been done. -/
theorem Outcome.truthful {answers : Answers Call} {p q : DNSRecord} {zone zone' : Zone}
    {h h' : History} {pending' : Pending}
    (hout : Outcome provider answers p zone h zone' pending' h') (hp : Truthful h.created p)
    (hq : pending' = .updateStatus q) : Truthful h'.created q := by
  cases hout with
  | ensured =>
      rw [eq_of_statusWrite_updateStatus hq]
      exact .published List.mem_cons_self
  | skipped hdel hseen =>
      obtain ⟨hspec, hmem⟩ := hp.current hseen.symm
      rw [eq_of_statusWrite_updateStatus hq]
      exact .published (hspec ▸ hmem)
  | ensureFailed mz zone' err | notPublished err =>
      rw [eq_of_statusWrite_updateStatus hq]
      exact hp.failed err
  | deleted | deleteIgnored | deleteFailed | noZone | stopped | finalizer => cases hq

/-- All versions of the record that are around are truthful. -/
structure AllTruthful (s : State Zone) : Prop where
  object : ∀ o, s.object = some o → Truthful s.history.created o
  read : ∀ p, s.pending = .read p → Truthful s.history.created p
  updateStatus : ∀ r, s.pending = .updateStatus r → Truthful s.history.created r

theorem AllTruthful.of_idle {s : State Zone} (hidle : s.pending = .idle)
    (hobject : ∀ o, s.object = some o → Truthful s.history.created o) : AllTruthful s :=
  ⟨hobject, by simp [hidle], by simp [hidle]⟩

theorem AllTruthful.moves {s s' : State Zone} {e : Event Call} (h : AllTruthful s)
    (ht : Tracked s) (hv : Viewed s) (hmoves : Moves provider s e s') : AllTruthful s' := by
  cases hmoves with
  | client _ f hf =>
      refine ⟨fun o' ho' => ?_, h.read, h.updateStatus⟩
      obtain ⟨o, ho, hchange⟩ := Option.bind_eq_some_iff.1 ho'
      exact (h.object o ho).changed (hv.object o ho).observed_le (hf o o' hchange)
  | read o hobject =>
      refine ⟨h.object, fun p hp => ?_, fun r hr => by cases hr⟩
      cases hp
      exact h.object o hobject
  | work answers p hread zone' pending' history' hout =>
      exact ⟨fun o ho => (h.object o ho).mono hout.created_subset,
        fun q hq => absurd hq (hout.ne_read q), fun q hq => hout.truthful (h.read p hread) hq⟩
  | update r o hpending hobject hversion =>
      refine .of_idle rfl fun o' ho' => ?_
      exact (h.object o hobject).changed (hv.object o hobject).observed_le (changed_apiUpdate ho')
  | updateStatus r o hpending hobject hversion =>
      refine .of_idle rfl fun o' ho' => ?_
      obtain ⟨hgen, -, hspec⟩ := (ht.later r (by simp [hpending, Pending.record]) o hobject).same
        hversion
      rw [← Option.some.inj ho']
      exact (h.object o hobject).apiUpdateStatus (h.updateStatus r hpending) hgen hspec
  | dropped => exact .of_idle rfl h.object
  | unchanged => exact h

theorem allTruthful_start (record : DNSRecord) (zone : Zone) :
    AllTruthful (start record zone) := by
  refine .of_idle rfl fun o ho => ?_
  cases ho
  exact ⟨fun hready => (by cases hready), fun hobs => by cases hobs⟩

/-- What every state that can be reached satisfies, with any provider. -/
structure Sound (s : State Zone) : Prop where
  tracked : Tracked s
  viewed : Viewed s
  truthful : AllTruthful s

theorem sound_foldl (provider : Provider Zone Call) (record : DNSRecord) (zone : Zone)
    (run : List (Event Call)) : Sound (run.foldl (step provider) (start record zone)) := by
  refine Run.preserved (fun s e h => ?_) ?_ run
  · have hmoves := moves_step provider s e
    exact ⟨h.tracked.moves hmoves, h.viewed.moves h.tracked hmoves,
      h.truthful.moves h.tracked h.viewed hmoves⟩
  · exact ⟨Contract.tracked_start record zone, Contract.viewed_start record zone,
      allTruthful_start record zone⟩

/-- In every state that a run can reach: the observed generation is not ahead; a record that is ready
    has had the endpoints of its status published; and once the generation of the record has been
    observed, these are the endpoints of the spec, the record is not marked for deletion, and no later
    publication or deletion has succeeded. -/
theorem ready_truthful (provider : Provider Zone Call) (record : DNSRecord) (zone : Zone)
    (run : List (Event Call)) :
    let s := run.foldl (step provider) (start record zone)
    ∀ o, s.object = some o →
      o.status.observedGeneration ≤ o.metadata.generation ∧
      (Ready o → o.status.endpoints ∈ s.history.created) ∧
      (o.status.observedGeneration = o.metadata.generation →
        o.metadata.deletionTimestamp = false ∧ o.status.endpoints = o.spec.endpoints ∧
        o.spec.endpoints ∈ s.history.created ∧ s.history.published = o.spec.endpoints) := by
  intro s o ho
  have hsound := sound_foldl provider record zone run
  have hview := hsound.viewed.object o ho
  have htrue := hsound.truthful.object o ho
  refine ⟨hview.observed_le, htrue.ready, fun hobs => ?_⟩
  obtain ⟨hdel, hpublished⟩ := hview.current hobs
  obtain ⟨hspec, hmem⟩ := htrue.current hobs
  exact ⟨hdel, hspec, hspec ▸ hmem, hpublished.symm⟩

end

/-- Publish, then change the spec. -/
def publishAndEdit (es : List Endpoint) : List (Event (Option String)) :=
  cycle none ++ cycle none ++ [.edit es]

/-- The record is ready, and rightly so, although it is not up to date. -/
theorem ready_truthful_publishAndEdit :
    let s := (publishAndEdit [exampleB]).foldl (step Route53.provider)
      (start (recordOf [exampleA] []) .empty)
    ∃ o, s.object = some o ∧ Ready o ∧ o.status.endpoints ∈ s.history.created ∧
      o.status.endpoints = [exampleA] ∧ o.spec.endpoints = [exampleB] := by
  refine ⟨_, rfl, rfl, ?_, rfl, rfl⟩
  exact (ready_truthful Route53.provider (recordOf [exampleA] []) .empty
    (publishAndEdit [exampleB]) _ rfl).2.1 rfl

/-! ## An undisturbed reconcile -/

section
variable {Zone : Type} {Call : Type u} {provider : Provider Zone Call} {answers : Answers Call}
  {s : State Zone} {o : DNSRecord} {mz : ManagedZone} {zone' : Zone}

/-- A reconcile during which nobody else writes. -/
def pass (answers : Answers Call) : List (Event Call) := [.read, .work answers, .write true]

theorem foldl_pass {pending' : Pending} {h' : History} (hidle : s.pending = .idle)
    (hobject : s.object = some o)
    (hreconcile : reconcile provider answers o s.zone = (zone', pending'))
    (hread : ∀ p, pending' ≠ .read p) (hafter : s.history.after provider answers o s.zone = h') :
    (pass answers).foldl (step provider) s
      = write { object := some o, zone := zone', pending := pending', history := h' } := by
  have hwork : [Event.read, .work answers].foldl (step provider) s
      = { object := some o, zone := zone', pending := pending', history := h' } := by
    simp [step, hidle, hobject, hreconcile, hafter]
  have hpass : pass answers = [Event.read, .work answers] ++ [.write true] := rfl
  rw [hpass, List.foldl_append, hwork]
  cases pending' with
  | read p => exact absurd rfl (hread p)
  | idle | update r | updateStatus r => rfl

/-- The managed zone is there and ready, and the provider could be set up. -/
def Answers.Serves (answers : Answers Call) (mz : ManagedZone) : Prop :=
  answers.managedZone = .found mz ∧ isReady mz = true ∧ answers.providerErr = none

/-- Without a finalizer, it is added. -/
theorem foldl_pass_finalizer (hidle : s.pending = .idle) (hobject : s.object = some o)
    (hdel : o.metadata.deletionTimestamp = false)
    (hfinalizer : dnsRecordFinalizer ∉ o.metadata.finalizers) :
    (pass answers).foldl (step provider) s
      = { s with object := some (nextVersion (addFinalizer o)) } := by
  have hreconcile : reconcile provider answers o s.zone = (s.zone, .update (addFinalizer o)) := by
    simp [reconcile, hdel, hfinalizer]
  have hafter : s.history.after provider answers o s.zone = s.history := by
    refine after_of_request_eq_none ?_
    unfold request
    split <;> simp [hdel, hfinalizer]
  have hne : updated o (addFinalizer o) ≠ o := by
    intro heq
    have hmem := congrArg (fun r : DNSRecord => r.metadata.finalizers) heq
    simp [updated, addFinalizer] at hmem
  have hupdate : apiUpdate o (addFinalizer o) = some (nextVersion (addFinalizer o)) := by
    simp only [apiUpdate, if_neg hne, hdel]
    simp [updated, addFinalizer]
  rw [foldl_pass hidle hobject hreconcile (fun p hp => by cases hp) hafter]
  have hversion : (addFinalizer o).metadata.resourceVersion = o.metadata.resourceVersion := rfl
  have hmarked : (addFinalizer o).metadata.deletionTimestamp = false := hdel
  simp [write, hversion, hupdate, hmarked, hidle]

/-- A status that changes is written; one that does not, is not. Either way the server has it. -/
theorem write_statusWrite (zone : Zone) (h : History) (o : DNSRecord) (status : DNSRecordStatus) :
    ∃ o' : DNSRecord, write ⟨some o, zone, statusWrite o status, h⟩
        = { object := some o', zone := zone, history := h } ∧
      o'.status = status ∧ o'.spec = o.spec ∧ o'.metadata.generation = o.metadata.generation ∧
      o'.metadata.deletionTimestamp = o.metadata.deletionTimestamp ∧
      o'.metadata.finalizers = o.metadata.finalizers := by
  unfold statusWrite
  by_cases hsame : status = o.status
  · rw [if_pos hsame]
    exact ⟨o, rfl, hsame.symm, rfl, rfl, rfl, rfl⟩
  · rw [if_neg hsame]
    refine ⟨nextVersion { o with status := status }, ?_, rfl, rfl, rfl, rfl, rfl⟩
    simp [write, apiUpdateStatus, hsame]

/-- With a finalizer, the endpoints are published unless that has been done. -/
theorem foldl_pass_publish (hidle : s.pending = .idle) (hobject : s.object = some o)
    (hdel : o.metadata.deletionTimestamp = false)
    (hfinalizer : dnsRecordFinalizer ∈ o.metadata.finalizers) (hserves : answers.Serves mz)
    (hview : View s.history.published o)
    (hensure : o.metadata.generation ≠ o.status.observedGeneration →
      provider.ensure answers.call o mz s.zone = .done zone') :
    ∃ (o' : DNSRecord) (zone' : Zone) (h : History), (pass answers).foldl (step provider) s
        = { object := some o', zone := zone', history := h } ∧
      h.published = o.spec.endpoints ∧ o'.status = publishedStatus o ∧ o'.spec = o.spec ∧
      o'.metadata.generation = o.metadata.generation ∧
      o'.metadata.deletionTimestamp = o.metadata.deletionTimestamp ∧
      o'.metadata.finalizers = o.metadata.finalizers := by
  obtain ⟨hmz, hready, herr⟩ := hserves
  by_cases hseen : o.metadata.generation = o.status.observedGeneration
  · have hreconcile : reconcile provider answers o s.zone
        = (s.zone, statusWrite o (publishedStatus o)) := by
      simp [reconcile, hdel, hfinalizer, publishRecord, hmz, hready, hseen]
    have hafter : s.history.after provider answers o s.zone = s.history := by
      refine after_of_request_eq_none ?_
      simp [request, hmz, herr, hready, hdel, hseen]
    rw [foldl_pass hidle hobject hreconcile (fun p => statusWrite_ne_read) hafter]
    obtain ⟨o', hwrite, hkept⟩ := write_statusWrite s.zone s.history o (publishedStatus o)
    exact ⟨o', s.zone, s.history, hwrite, (hview.current hseen.symm).2.symm, hkept⟩
  · have hcall := hensure hseen
    have hreconcile : reconcile provider answers o s.zone
        = (zone', statusWrite o (publishedStatus o)) := by
      simp [reconcile, hdel, hfinalizer, publishRecord, hmz, hready, hseen, herr, hcall]
    have hrequest : request answers o = some (.ensure mz) := by
      simp [request, hmz, herr, hready, hdel, hfinalizer, hseen]
    have hafter : s.history.after provider answers o s.zone = { s.history with
        created := o.spec.endpoints :: s.history.created, published := o.spec.endpoints } := by
      simp [History.after, hrequest, hcall]
    rw [foldl_pass hidle hobject hreconcile (fun p => statusWrite_ne_read) hafter]
    obtain ⟨o', hwrite, hkept⟩ := write_statusWrite zone' _ o (publishedStatus o)
    exact ⟨o', zone', _, hwrite, rfl, hkept⟩

/-! ## Nothing left to do -/

/-- Setting a condition once more. -/
theorem setStatusCondition_twice (conditions : List Condition) (c : Condition) :
    setStatusCondition (setStatusCondition conditions c) c = setStatusCondition conditions c := by
  unfold setStatusCondition
  by_cases hany : conditions.any (fun d => d.type == c.type) = true
  · simp only [hany, if_true]
    have hagain : (conditions.map fun d => if d.type == c.type then c else d).any
        (fun d => d.type == c.type) = true := by
      obtain ⟨d, hd, htype⟩ := List.any_eq_true.1 hany
      refine List.any_eq_true.2 ⟨c, List.mem_map.2 ⟨d, hd, if_pos htype⟩, by simp⟩
    rw [if_pos hagain, List.map_map]
    refine List.map_congr_left fun d _ => ?_
    by_cases htype : d.type = c.type <;> simp [htype]
  · have hnone : ∀ d ∈ conditions, ¬ d.type = c.type := by simpa using hany
    have hmap : conditions.map (fun d => if d.type = c.type then c else d) = conditions := by
      refine (List.map_congr_left fun d hd => ?_).trans (List.map_id _)
      simp [hnone d hd]
    simp [hany, hmap]

/-- The record has been published and says so. -/
structure Settled (o : DNSRecord) : Prop where
  marked : o.metadata.deletionTimestamp = false
  finalizer : dnsRecordFinalizer ∈ o.metadata.finalizers
  observed : o.metadata.generation = o.status.observedGeneration
  status : publishedStatus o = o.status

/-- A status that was written for the published endpoints is not written again. -/
theorem settled_of_published {p : DNSRecord} (hstatus : o.status = publishedStatus p)
    (hspec : o.spec = p.spec) (hgen : o.metadata.generation = p.metadata.generation)
    (hdel : o.metadata.deletionTimestamp = false)
    (hfinalizer : dnsRecordFinalizer ∈ o.metadata.finalizers) : Settled o := by
  refine ⟨hdel, hfinalizer, hstatus ▸ hgen, ?_⟩
  simp only [publishedStatus, setDNSRecordCondition] at hstatus ⊢
  rw [hstatus, hspec, hgen]
  simp [setStatusCondition_twice]

/-- Nothing happens in a reconcile of such a record. -/
theorem foldl_pass_settled (hidle : s.pending = .idle) (hobject : s.object = some o)
    (hsettled : Settled o) (hserves : answers.Serves mz) :
    (pass answers).foldl (step provider) s = s := by
  obtain ⟨hmz, hready, herr⟩ := hserves
  obtain ⟨hdel, hfinalizer, hseen, hstatus⟩ := hsettled
  have hreconcile : reconcile provider answers o s.zone = (s.zone, .idle) := by
    simp [reconcile, hdel, hfinalizer, publishRecord, hmz, hready, hseen, statusWrite, hstatus]
  have hafter : s.history.after provider answers o s.zone = s.history := by
    refine after_of_request_eq_none ?_
    simp [request, hmz, herr, hready, hdel, hseen]
  rw [foldl_pass hidle hobject hreconcile (fun p hp => by cases hp) hafter]
  simp [write, ← hidle, ← hobject]

/-- Nor in any number of them. -/
theorem foldl_passes_settled (hidle : s.pending = .idle) (hobject : s.object = some o)
    (hsettled : Settled o) (more : List (Answers Call)) (hserve : ∀ a ∈ more, ∃ mz, a.Serves mz) :
    (more.flatMap pass).foldl (step provider) s = s := by
  induction more with
  | nil => rfl
  | cons a rest ih =>
      obtain ⟨⟨mz, ha⟩, hrest⟩ := List.forall_mem_cons.1 hserve
      rw [List.flatMap_cons, List.foldl_append, foldl_pass_settled hidle hobject hsettled ha]
      exact ih hrest

/-! ## Where reconciles lead -/

/-- Once the finalizer is there, one reconcile settles the record. -/
theorem exists_settled (hidle : s.pending = .idle) (hobject : s.object = some o)
    (hdel : o.metadata.deletionTimestamp = false)
    (hfinalizer : dnsRecordFinalizer ∈ o.metadata.finalizers) (hserves : answers.Serves mz)
    (hview : View s.history.published o)
    (hensure : o.metadata.generation ≠ o.status.observedGeneration →
      provider.ensure answers.call o mz s.zone = .done zone') :
    ∃ (o' : DNSRecord) (zone' : Zone) (h : History), (pass answers).foldl (step provider) s
        = { object := some o', zone := zone', history := h } ∧
      h.published = o.spec.endpoints ∧ o'.spec = o.spec ∧
      o'.metadata.generation = o.metadata.generation ∧ Ready o' ∧
      o'.status.endpoints = o.spec.endpoints ∧ Settled o' := by
  obtain ⟨o', zone', h, hpass, hpublished, hstatus, hspec, hgen, hdel', hfinalizers⟩ :=
    foldl_pass_publish hidle hobject hdel hfinalizer hserves hview hensure
  refine ⟨o', zone', h, hpass, hpublished, hspec, hgen, ?_, ?_, ?_⟩
  · unfold Ready
    rw [hstatus]
    exact ready_published o
  · rw [hstatus]
    rfl
  · exact settled_of_published hstatus hspec hgen (hdel'.trans hdel) (hfinalizers ▸ hfinalizer)

/-- The reconcile of a marked record with the last finalizer. -/
theorem foldl_pass_delete (hidle : s.pending = .idle) (hobject : s.object = some o)
    (hdel : o.metadata.deletionTimestamp = true)
    (hfinalizers : o.metadata.finalizers = [dnsRecordFinalizer]) (hserves : answers.Serves mz)
    (hdelete : provider.delete answers.call o mz s.zone = .done zone') :
    (pass answers).foldl (step provider) s = { object := none, zone := zone', history :=
      { s.history with published := [], finalizerRemoved := true } } := by
  obtain ⟨hmz, hready, herr⟩ := hserves
  have hreconcile : reconcile provider answers o s.zone
      = (zone', .update (removeFinalizer o)) := by
    simp [reconcile, hdel, deleteRecord, hmz, hready, herr, hdelete]
  have hrequest : request answers o = some (.delete mz) := by
    simp [request, hmz, herr, hready, hdel]
  have hafter : s.history.after provider answers o s.zone = { s.history with published := [] } := by
    simp [History.after, hrequest, hdelete]
  have hnil : (removeFinalizer o).metadata.finalizers = [] := by
    simp [removeFinalizer, hfinalizers]
  have hne : updated o (removeFinalizer o) ≠ o := by
    intro heq
    have hmem := congrArg (fun r : DNSRecord => r.metadata.finalizers) heq
    simp [updated, hnil, hfinalizers] at hmem
  have hupdate : apiUpdate o (removeFinalizer o) = none := by
    simp [apiUpdate, hne, hdel, hnil]
  have hversion : (removeFinalizer o).metadata.resourceVersion = o.metadata.resourceVersion := rfl
  have hmarked : (removeFinalizer o).metadata.deletionTimestamp = true := hdel
  rw [foldl_pass hidle hobject hreconcile (fun p hp => by cases hp) hafter]
  simp [write, hversion, hupdate, hmarked]

theorem foldl_passes_none (hidle : s.pending = .idle) (hobject : s.object = none)
    (more : List (Answers Call)) : (more.flatMap pass).foldl (step provider) s = s := by
  induction more with
  | nil => rfl
  | cons a rest ih =>
      have hpass : (pass a).foldl (step provider) s = s := by
        simp [pass, step, write, hidle, hobject]
      rw [List.flatMap_cons, List.foldl_append, hpass]
      exact ih

end

/-- From every state that a run can reach with no reconcile under way, with a ready zone and a provider
    that accepts: two reconciles leave the record ready with its generation observed and its endpoints
    published, one takes a marked record without other finalizers away once its endpoints are deleted,
    and however many follow change nothing in the server or the zone. -/
theorem settles {Zone : Type} {Call : Type u} (provider : Provider Zone Call) (record : DNSRecord)
    (zone : Zone) (run : List (Event Call)) (answers : Answers Call) (mz : ManagedZone)
    (hserves : answers.Serves mz) (more : List (Answers Call))
    (hmore : ∀ a ∈ more, ∃ mz, a.Serves mz) (o : DNSRecord) :
    let s := run.foldl (step provider) (start record zone)
    s.pending = .idle → s.object = some o →
      (o.metadata.deletionTimestamp = false →
        (∀ p : DNSRecord, p.spec = o.spec → p.status = o.status →
          ∃ zone', provider.ensure answers.call p mz s.zone = .done zone') →
        let s' := (pass answers ++ pass answers).foldl (step provider) s
        (∃ o', s'.object = some o' ∧ o'.spec = o.spec ∧
          o'.status.observedGeneration = o'.metadata.generation ∧
          o'.status.endpoints = o.spec.endpoints ∧ Ready o') ∧
        s'.history.published = o.spec.endpoints ∧
        (more.flatMap pass).foldl (step provider) s' = s') ∧
      (o.metadata.deletionTimestamp = true → o.metadata.finalizers = [dnsRecordFinalizer] →
        (∃ zone', provider.delete answers.call o mz s.zone = .done zone') →
        let s' := (pass answers).foldl (step provider) s
        s'.object = none ∧ s'.history.published = [] ∧
        (more.flatMap pass).foldl (step provider) s' = s') := by
  intro s hidle hobject
  have hview : View s.history.published o :=
    (sound_foldl provider record zone run).viewed.object o hobject
  refine ⟨fun hdel haccepts => ?_, fun hdel hfinalizers hdelete => ?_⟩
  · rw [List.foldl_append]
    by_cases hfinalizer : dnsRecordFinalizer ∈ o.metadata.finalizers
    · -- the first reconcile publishes, the second finds nothing to do
      obtain ⟨zone', hensure⟩ := haccepts o rfl rfl
      obtain ⟨o', zone₁, h, hpass, hpublished, hspec, -, hready, hendpoints, hsettled⟩ :=
        exists_settled hidle hobject hdel hfinalizer hserves hview fun _ => hensure
      rw [hpass, foldl_pass_settled rfl rfl hsettled hserves]
      exact ⟨⟨o', rfl, hspec, hsettled.observed.symm, hendpoints, hready⟩, hpublished,
        foldl_passes_settled rfl rfl hsettled more hmore⟩
    · -- the first reconcile adds the finalizer, the second publishes
      rw [foldl_pass_finalizer hidle hobject hdel hfinalizer]
      obtain ⟨zone', hensure⟩ := haccepts (nextVersion (addFinalizer o)) rfl rfl
      obtain ⟨o', zone₁, h, hpass, hpublished, hspec, -, hready, hendpoints, hsettled⟩ :=
        @exists_settled _ _ provider answers
          { s with object := some (nextVersion (addFinalizer o)) } _ mz zone' hidle rfl hdel
          (List.mem_append_right _ List.mem_cons_self) hserves
          ⟨hview.observed_le, hview.current⟩ fun _ => hensure
      rw [hpass]
      exact ⟨⟨o', rfl, hspec, hsettled.observed.symm, hendpoints, hready⟩, hpublished,
        foldl_passes_settled rfl rfl hsettled more hmore⟩
  · obtain ⟨zone', hdelete⟩ := hdelete
    rw [foldl_pass_delete hidle hobject hdel hfinalizers hserves hdelete]
    exact ⟨rfl, rfl, foldl_passes_none rfl rfl more⟩

theorem readyAnswers_serves : readyAnswers.Serves readyZone := ⟨rfl, rfl, rfl⟩

/-- Publish, then ask for the deletion. -/
def publishAndMark : List (Event (Option String)) := cycle none ++ cycle none ++ [.requestDelete]

/-- A record that is new, and one that is marked after it was published. -/
theorem settles_exampleA :
    (let s' := (pass readyAnswers ++ pass readyAnswers).foldl (step Route53.provider)
        (start (recordOf [exampleA] []) .empty)
     s'.history.published = [exampleA] ∧
      ([readyAnswers].flatMap pass).foldl (step Route53.provider) s' = s') ∧
    (let s' := (pass readyAnswers).foldl (step Route53.provider)
        (publishAndMark.foldl (step Route53.provider) (start (recordOf [exampleA] []) .empty))
     s'.object = none ∧ s'.history.published = [] ∧
      ([readyAnswers].flatMap pass).foldl (step Route53.provider) s' = s') := by
  have hmore : ∀ a ∈ [readyAnswers], ∃ mz, a.Serves mz :=
    List.forall_mem_singleton.2 ⟨readyZone, readyAnswers_serves⟩
  constructor
  · have hsettles := settles Route53.provider (recordOf [exampleA] []) .empty [] readyAnswers
      readyZone readyAnswers_serves [readyAnswers] hmore _ rfl rfl
    refine (hsettles.1 rfl fun p hspec hstatus => ?_).2
    obtain ⟨metadata, spec, status⟩ := p
    subst hspec hstatus
    exact ⟨_, rfl⟩
  · obtain ⟨o, ho, hdel, hfinalizers, hdelete⟩ : ∃ o,
        (publishAndMark.foldl (step Route53.provider)
          (start (recordOf [exampleA] []) .empty)).object = some o ∧
        o.metadata.deletionTimestamp = true ∧ o.metadata.finalizers = [dnsRecordFinalizer] ∧
        ∃ zone', Route53.provider.delete readyAnswers.call o readyZone
          (publishAndMark.foldl (step Route53.provider)
            (start (recordOf [exampleA] []) .empty)).zone = .done zone' :=
      ⟨_, rfl, rfl, rfl, _, rfl⟩
    exact (settles Route53.provider (recordOf [exampleA] []) .empty publishAndMark readyAnswers
      readyZone readyAnswers_serves [readyAnswers] hmore o rfl ho).2 hdel hfinalizers hdelete

end MultiClusterGateway.DnsRecord
