import MultiClusterGateway.DnsRecord.Machine

set_option autoImplicit false

/-! # What runs of the DNSRecord reconciler keep

`Contract` says what the reconciler needs of a provider, in terms of the record sets that a list of
endpoints stands for, and under which conditions on a call the provider gives it. From a contract
follow two facts about every run whose calls all meet the conditions: a record whose status is up to
date has exactly its own endpoints published (`Contract.upToDate`), and when the finalizer is gone,
so is everything that was ever published (`Contract.nothingLeft`). -/

universe u

namespace MultiClusterGateway.DnsRecord

/-! ## Versions of the object -/

/-- `o` is the same version as `p` or a later one. -/
structure Later (p o : DNSRecord) : Prop where
  version : p.metadata.resourceVersion ≤ o.metadata.resourceVersion
  generation : p.metadata.generation ≤ o.metadata.generation
  deleting : p.metadata.deletionTimestamp = true → o.metadata.deletionTimestamp = true
  same : p.metadata.resourceVersion = o.metadata.resourceVersion →
    p.metadata.generation = o.metadata.generation ∧
    p.metadata.deletionTimestamp = o.metadata.deletionTimestamp ∧ p.spec = o.spec

theorem Later.refl (o : DNSRecord) : Later o o :=
  ⟨le_refl _, le_refl _, id, fun _ => ⟨rfl, rfl, rfl⟩⟩

theorem Later.trans {p o o' : DNSRecord} (h : Later p o) (h' : Later o o') : Later p o' := by
  refine ⟨h.version.trans h'.version, h.generation.trans h'.generation,
    fun hdel => h'.deleting (h.deleting hdel), fun hversion => ?_⟩
  have hpo : p.metadata.resourceVersion = o.metadata.resourceVersion :=
    le_antisymm h.version (hversion ▸ h'.version)
  obtain ⟨hgen, hdel, hspec⟩ := h.same hpo
  obtain ⟨hgen', hdel', hspec'⟩ := h'.same (hpo ▸ hversion)
  exact ⟨hgen.trans hgen', hdel.trans hdel', hspec.trans hspec'⟩

/-- A change that is not about the status: one of the spec or of the deletion mark raises the
    generation. -/
structure Changed (o o' : DNSRecord) : Prop where
  later : Later o o'
  status : o'.status = o.status
  sameGeneration : o'.metadata.generation = o.metadata.generation →
    o'.spec = o.spec ∧ o'.metadata.deletionTimestamp = o.metadata.deletionTimestamp

theorem Changed.refl (o : DNSRecord) : Changed o o := ⟨.refl o, rfl, fun _ => ⟨rfl, rfl⟩⟩

theorem later_nextVersion {o o' : DNSRecord}
    (hversion : o'.metadata.resourceVersion = o.metadata.resourceVersion)
    (hgen : o.metadata.generation ≤ o'.metadata.generation)
    (hdel : o.metadata.deletionTimestamp = true → o'.metadata.deletionTimestamp = true) :
    Later o (nextVersion o') := by
  have hlt : o.metadata.resourceVersion < (nextVersion o').metadata.resourceVersion := by
    show o.metadata.resourceVersion < o'.metadata.resourceVersion + 1
    omega
  exact ⟨hlt.le, hgen, hdel, fun heq => absurd heq hlt.ne⟩

theorem changed_updated (o r : DNSRecord) : Changed o (nextVersion (updated o r)) := by
  have hgen : (updated o r).metadata.generation
      = if r.spec = o.spec then o.metadata.generation else o.metadata.generation + 1 := rfl
  refine ⟨later_nextVersion rfl ?_ id, rfl, fun hsame => ⟨?_, rfl⟩⟩
  · rw [hgen]
    split <;> omega
  · have hsame' : (updated o r).metadata.generation = o.metadata.generation := hsame
    rw [hgen] at hsame'
    by_contra hspec
    have hspec' : ¬ r.spec = o.spec := hspec
    rw [if_neg hspec'] at hsame'
    omega

theorem changed_apiUpdate {o r o' : DNSRecord} (h : apiUpdate o r = some o') : Changed o o' := by
  unfold apiUpdate at h
  split at h
  · cases h
    exact .refl o
  · split at h
    · cases h
    · cases h
      exact changed_updated o r

theorem changed_apiDelete {o o' : DNSRecord} (h : apiDelete o = some o') : Changed o o' := by
  unfold apiDelete at h
  split at h
  · cases h
  · split at h
    · cases h
      exact .refl o
    · cases h
      refine ⟨later_nextVersion rfl (Nat.le_succ _) (fun _ => rfl), rfl, fun hsame => ?_⟩
      exact absurd hsame (Nat.succ_ne_self _)

/-! ## What a step does -/

/-- The object that a pending reconcile has in its hands. -/
def Pending.record : Pending → Option DNSRecord
  | .idle => none
  | .read p => some p
  | .update r => some r
  | .updateStatus r => some r

section
variable {Zone : Type} {Call : Type u}

/-- The kinds of steps. -/
inductive Moves (provider : Provider Zone Call) (s : State Zone) : Event Call → State Zone → Prop
  | client (e : Event Call) (f : DNSRecord → Option DNSRecord)
      (hf : ∀ o o', f o = some o' → Changed o o') :
      Moves provider s e { s with object := s.object.bind f }
  | read (o : DNSRecord) (hobject : s.object = some o) :
      Moves provider s .read { s with pending := .read o }
  | work (answers : Answers Call) (p : DNSRecord) (hread : s.pending = .read p) (zone' : Zone)
      (pending' : Pending) (history' : History)
      (hout : Outcome provider answers p s.zone s.history zone' pending' history') :
      Moves provider s (.work answers)
        { s with zone := zone', pending := pending', history := history' }
  | update (r o : DNSRecord) (hpending : s.pending = .update r) (hobject : s.object = some o)
      (hversion : r.metadata.resourceVersion = o.metadata.resourceVersion) :
      Moves provider s (.write true)
        { s with
          object := apiUpdate o r
          pending := .idle
          history := { s.history with
            finalizerRemoved := s.history.finalizerRemoved || r.metadata.deletionTimestamp } }
  | updateStatus (r o : DNSRecord) (hpending : s.pending = .updateStatus r)
      (hobject : s.object = some o)
      (hversion : r.metadata.resourceVersion = o.metadata.resourceVersion) :
      Moves provider s (.write true)
        { s with object := some (apiUpdateStatus o r), pending := .idle }
  | dropped (e : Event Call) : Moves provider s e { s with pending := .idle }
  | unchanged (e : Event Call) : Moves provider s e s

theorem moves_write (provider : Provider Zone Call) (s : State Zone) :
    Moves provider s (.write true) (write s) := by
  unfold write
  split
  · rename_i r o hpending hobject
    split
    · rename_i hversion
      exact .update r o hpending hobject hversion
    · exact .dropped _
  · rename_i r o hpending hobject
    split
    · rename_i hversion
      exact .updateStatus r o hpending hobject hversion
    · exact .dropped _
  · exact .dropped _
  · exact .dropped _
  · exact .unchanged _

theorem moves_step (provider : Provider Zone Call) (s : State Zone) (e : Event Call) :
    Moves provider s e (step provider s e) := by
  cases e with
  | edit endpoints => exact .client _ _ fun o o' h => changed_apiUpdate h
  | annotate annotations => exact .client _ _ fun o o' h => changed_apiUpdate h
  | requestDelete => exact .client _ _ fun o o' h => changed_apiDelete h
  | read =>
      simp only [step]
      split
      · rename_i o _ hobject
        exact .read o hobject
      · exact .unchanged _
  | work answers =>
      simp only [step]
      split
      · rename_i p hread
        exact .work answers p hread _ _ _ outcome_reconcile
      · exact .unchanged _
  | write served =>
      simp only [step]
      split
      · exact .unchanged _
      · cases served with
        | true => exact moves_write provider s
        | false => exact .dropped _
  | crash => exact .dropped _

/-! ## The object in hand -/

/-- A reconcile works on a version of the object, and nobody else writes the status. -/
structure Tracked (s : State Zone) : Prop where
  later : ∀ p, s.pending.record = some p → ∀ o, s.object = some o → Later p o
  status : ∀ p, s.pending = .read p → ∀ o, s.object = some o → o.status = p.status

theorem eq_of_statusWrite_record {p q : DNSRecord} {status : DNSRecordStatus}
    (h : (statusWrite p status).record = some q) : q = { p with status := status } := by
  unfold statusWrite at h
  split at h
  · cases h
  · exact (Option.some.inj h).symm

theorem statusWrite_ne_read {p q : DNSRecord} {status : DNSRecordStatus} :
    statusWrite p status ≠ .read q := by
  unfold statusWrite
  split <;> intro h <;> cases h

theorem statusWrite_ne_update {p q : DNSRecord} {status : DNSRecordStatus} :
    statusWrite p status ≠ .update q := by
  unfold statusWrite
  split <;> intro h <;> cases h

section
variable {provider : Provider Zone Call} {answers : Answers Call} {p : DNSRecord} {zone zone' : Zone}
  {h h' : History} {pending' : Pending}

theorem Outcome.ne_read (hout : Outcome provider answers p zone h zone' pending' h')
    (q : DNSRecord) : pending' ≠ .read q := by
  cases hout with
  | ensured | ensureFailed | skipped | notPublished => exact statusWrite_ne_read
  | deleted | deleteIgnored | deleteFailed | noZone | stopped | finalizer =>
      intro heq
      cases heq

/-- What is written back is the object that was read, but for its finalizers and its status. -/
theorem Outcome.metadata (hout : Outcome provider answers p zone h zone' pending' h')
    {q : DNSRecord} (hq : pending'.record = some q) :
    q.spec = p.spec ∧ q.metadata.resourceVersion = p.metadata.resourceVersion ∧
      q.metadata.generation = p.metadata.generation ∧
      q.metadata.deletionTimestamp = p.metadata.deletionTimestamp := by
  cases hout with
  | ensured | ensureFailed | skipped | notPublished =>
      rw [eq_of_statusWrite_record hq]
      exact ⟨rfl, rfl, rfl, rfl⟩
  | deleted | deleteIgnored | noZone | finalizer =>
      rw [← Option.some.inj hq]
      exact ⟨rfl, rfl, rfl, rfl⟩
  | deleteFailed | stopped => cases hq

end

theorem Tracked.moves {provider : Provider Zone Call} {s s' : State Zone} {e : Event Call}
    (h : Tracked s) (hmoves : Moves provider s e s') : Tracked s' := by
  cases hmoves with
  | client _ f hf =>
      refine ⟨fun p hp o' ho' => ?_, fun p hp o' ho' => ?_⟩
      · obtain ⟨o, ho, hchange⟩ := Option.bind_eq_some_iff.1 ho'
        exact (h.later p hp o ho).trans (hf o o' hchange).later
      · obtain ⟨o, ho, hchange⟩ := Option.bind_eq_some_iff.1 ho'
        exact ((hf o o' hchange).status).trans (h.status p hp o ho)
  | read o hobject =>
      refine ⟨fun p hp o' ho' => ?_, fun p hp o' ho' => ?_⟩
      · cases hp
        rw [hobject] at ho'
        cases ho'
        exact .refl o
      · cases hp
        rw [hobject] at ho'
        cases ho'
        rfl
  | work answers p hread zone' pending' history' hout =>
      refine ⟨fun q hq o ho => ?_, fun q hq => absurd hq (hout.ne_read q)⟩
      have hlater := h.later p (by rw [hread]; rfl) o ho
      obtain ⟨hspec, hversion, hgen, hdel⟩ := hout.metadata hq
      refine ⟨hversion ▸ hlater.version, hgen ▸ hlater.generation, hdel ▸ hlater.deleting, ?_⟩
      rw [hversion, hgen, hdel, hspec]
      exact hlater.same
  | update | updateStatus | dropped =>
      exact ⟨fun _ hp => (nomatch hp), fun _ hp => (nomatch hp)⟩
  | unchanged => exact h

/-! ## Generations -/

/-- A version with its generation observed has the published endpoints. -/
structure View (published : List Endpoint) (v : DNSRecord) : Prop where
  observed_le : v.status.observedGeneration ≤ v.metadata.generation
  current : v.status.observedGeneration = v.metadata.generation →
    v.metadata.deletionTimestamp = false ∧ v.spec.endpoints = published

theorem View.changed {published : List Endpoint} {o o' : DNSRecord} (h : View published o)
    (hchange : Changed o o') : View published o' := by
  have hle := h.observed_le
  have hgen := hchange.later.generation
  refine ⟨by rw [hchange.status]; omega, fun hobs => ?_⟩
  rw [hchange.status] at hobs
  have hsame : o'.metadata.generation = o.metadata.generation := by omega
  obtain ⟨hspec, hdel⟩ := hchange.sameGeneration hsame
  rw [hspec, hdel]
  exact h.current (hobs.trans hsame)

/-- Nothing is said of a version whose generation has not been observed. -/
theorem View.of_ne {published published' : List Endpoint} {v : DNSRecord} (h : View published v)
    (hne : v.status.observedGeneration ≠ v.metadata.generation) : View published' v :=
  ⟨h.observed_le, fun heq => absurd heq hne⟩

/-- `View` of the object and of every version that the reconcile holds. -/
structure Viewed (s : State Zone) : Prop where
  object : ∀ o, s.object = some o → View s.history.published o
  read : ∀ p, s.pending = .read p → View s.history.published p
  updateStatus : ∀ r, s.pending = .updateStatus r → View s.history.published r

section
variable {provider : Provider Zone Call} {answers : Answers Call} {p : DNSRecord} {zone zone' : Zone}
  {h h' : History} {pending' : Pending}

theorem eq_of_statusWrite_updateStatus {q : DNSRecord} {status : DNSRecordStatus}
    (hq : statusWrite p status = .updateStatus q) : q = { p with status := status } :=
  eq_of_statusWrite_record (by rw [hq]; rfl)

theorem view_failed {published : List Endpoint} {err : String} (hp : View published p) :
    View published { p with status := failedStatus p err } :=
  ⟨hp.observed_le, hp.current⟩

theorem view_published {published : List Endpoint} (hdel : p.metadata.deletionTimestamp = false)
    (hspec : p.spec.endpoints = published) :
    View published { p with status := publishedStatus p } :=
  ⟨le_refl _, fun _ => ⟨hdel, hspec⟩⟩

/-- The status that is due is right about what is published now. -/
theorem Outcome.view_updateStatus (hout : Outcome provider answers p zone h zone' pending' h')
    (hp : View h.published p) {q : DNSRecord} (hq : pending' = .updateStatus q) :
    View h'.published q := by
  cases hout with
  | ensured mz zone' hdel =>
      rw [eq_of_statusWrite_updateStatus hq]
      exact view_published hdel rfl
  | skipped hdel hseen =>
      rw [eq_of_statusWrite_updateStatus hq]
      exact view_published hdel (hp.current hseen.symm).2
  | ensureFailed | notPublished =>
      rw [eq_of_statusWrite_updateStatus hq]
      exact view_failed hp
  | deleted | deleteIgnored | deleteFailed | noZone | stopped | finalizer => cases hq

/-- Only a version that is out of date, or marked, makes the published endpoints change. -/
theorem Outcome.view_object (hout : Outcome provider answers p zone h zone' pending' h')
    (hp : View h.published p) {o : DNSRecord} (ho : View h.published o) (hlater : Later p o)
    (hstatus : o.status = p.status) : View h'.published o := by
  cases hout with
  | deleted mz zone' hdel =>
      refine ho.of_ne fun heq => ?_
      have hmarked := hlater.deleting hdel
      rw [(ho.current heq).1] at hmarked
      cases hmarked
  | ensured mz zone' hdel hnew =>
      refine ho.of_ne fun heq => ?_
      have hle := hp.observed_le
      have hgen := hlater.generation
      rw [hstatus] at heq
      omega
  | deleteIgnored | deleteFailed | noZone | stopped | finalizer | ensureFailed | skipped
  | notPublished => exact ho

end

theorem Viewed.moves {provider : Provider Zone Call} {s s' : State Zone} {e : Event Call}
    (h : Viewed s) (ht : Tracked s) (hmoves : Moves provider s e s') : Viewed s' := by
  cases hmoves with
  | client _ f hf =>
      refine ⟨fun o' ho' => ?_, h.read, h.updateStatus⟩
      obtain ⟨o, ho, hchange⟩ := Option.bind_eq_some_iff.1 ho'
      exact (h.object o ho).changed (hf o o' hchange)
  | read o hobject =>
      refine ⟨h.object, fun p hp => ?_, fun _ hr => (nomatch hr)⟩
      cases hp
      exact h.object o hobject
  | work answers p hread zone' pending' history' hout =>
      have hp := h.read p hread
      refine ⟨fun o ho => ?_, fun q hq => absurd hq (hout.ne_read q),
        fun q hq => hout.view_updateStatus hp hq⟩
      exact hout.view_object hp (h.object o ho) (ht.later p (by rw [hread]; rfl) o ho)
        (ht.status p hread o ho)
  | update r o hpending hobject hversion =>
      refine ⟨fun o' ho' => ?_, fun _ hp => (nomatch hp), fun _ hr => (nomatch hr)⟩
      exact (h.object o hobject).changed (changed_apiUpdate ho')
  | updateStatus r o hpending hobject hversion =>
      refine ⟨fun o' ho' => ?_, fun _ hp => (nomatch hp), fun _ hr => (nomatch hr)⟩
      -- the version that was read is the one in the server, so the new status fits its spec
      obtain ⟨hgen, hdel, hspec⟩ := (ht.later r (by rw [hpending]; rfl) o hobject).same hversion
      have hr := h.updateStatus r hpending
      rw [← Option.some.inj ho']
      unfold apiUpdateStatus
      split
      · exact h.object o hobject
      · refine ⟨?_, fun hobs => ?_⟩
        · exact hgen ▸ hr.observed_le
        · have hobs' : r.status.observedGeneration = r.metadata.generation := hgen ▸ hobs
          obtain ⟨hnot, hendpoints⟩ := hr.current hobs'
          exact ⟨hdel ▸ hnot, hspec ▸ hendpoints⟩
  | dropped => exact ⟨h.object, fun _ hp => (nomatch hp), fun _ hr => (nomatch hr)⟩
  | unchanged => exact h

/-! ## Contracts of providers -/

/-- What a provider does for the reconciler. `ids` are the record sets that endpoints stand for, and
    `present` those of the zone; `Exact` says that the zone has the endpoints as they were published.
    The other two predicates are conditions on a call, given the endpoints published last. -/
structure Contract (provider : Provider Zone Call) where
  Id : Type
  ids : List Endpoint → Set Id
  present : Zone → Set Id
  Exact : Zone → List Endpoint → Prop
  CleanEnsure : Call → DNSRecord → ManagedZone → Zone → List Endpoint → Prop
  CleanDelete : Call → DNSRecord → ManagedZone → Zone → List Endpoint → Prop
  ids_nil : ids [] = ∅
  exact_nil : ∀ zone, Exact zone []
  ensure_done : ∀ {call record mz zone published zone'},
    CleanEnsure call record mz zone published → Exact zone published →
    provider.ensure call record mz zone = .done zone' →
    Exact zone' record.spec.endpoints ∧
      present zone' ⊆ ids record.spec.endpoints ∪ (present zone \ ids published)
  ensure_failed : ∀ {call record mz zone published zone' err},
    CleanEnsure call record mz zone published → Exact zone published →
    provider.ensure call record mz zone = .failed zone' err → zone' = zone
  delete_done : ∀ {call record mz zone published zone'},
    CleanDelete call record mz zone published → Exact zone published →
    provider.delete call record mz zone = .done zone' →
    present zone' ⊆ present zone \ ids published
  delete_failed : ∀ {call record mz zone published zone' err},
    CleanDelete call record mz zone published → Exact zone published →
    provider.delete call record mz zone = .failed zone' err →
    zone' = zone ∧ (ignoredOnDelete err = true → published = [])

namespace Contract

variable {provider : Provider Zone Call} (contract : Contract provider)

/-- The call of the provider that a step makes, if any, is clean. -/
def Clean (s : State Zone) : Event Call → Prop
  | .work answers =>
    match s.pending with
    | .read p =>
      match request answers p with
      | some (.ensure mz) => contract.CleanEnsure answers.call p mz s.zone s.history.published
      | some (.delete mz) => contract.CleanDelete answers.call p mz s.zone s.history.published
      | none => True
    | _ => True
  | _ => True

/-- The zone has the endpoints published last, and of all others that were ever published nothing
    but what these share with them. -/
structure Kept (s : State Zone) : Prop where
  exactly : contract.Exact s.zone s.history.published
  nothingElse : ∀ es ∈ s.history.created,
    contract.ids es ∩ contract.present s.zone ⊆ contract.ids s.history.published

variable {contract}

theorem Clean.ensure {s : State Zone} {answers : Answers Call} {p : DNSRecord} {mz : ManagedZone}
    (h : contract.Clean s (.work answers)) (hread : s.pending = .read p)
    (hreq : request answers p = some (.ensure mz)) :
    contract.CleanEnsure answers.call p mz s.zone s.history.published := by
  simp only [Clean, hread, hreq] at h
  exact h

theorem Clean.delete {s : State Zone} {answers : Answers Call} {p : DNSRecord} {mz : ManagedZone}
    (h : contract.Clean s (.work answers)) (hread : s.pending = .read p)
    (hreq : request answers p = some (.delete mz)) :
    contract.CleanDelete answers.call p mz s.zone s.history.published := by
  simp only [Clean, hread, hreq] at h
  exact h

theorem Kept.moves {s s' : State Zone} {e : Event Call} (h : contract.Kept s)
    (hclean : contract.Clean s e) (hmoves : Moves provider s e s') : contract.Kept s' := by
  -- only the call of the provider touches the zone or what was published
  cases hmoves with
  | client | read | update | updateStatus | dropped => exact ⟨h.exactly, h.nothingElse⟩
  | unchanged => exact h
  | work answers p hread zone' pending' history' hout =>
      cases hout with
      | deleted mz zone' hdel hreq hcall =>
          have hgone := contract.delete_done (hclean.delete hread hreq) h.exactly hcall
          refine ⟨contract.exact_nil zone', fun es hes id hid => ?_⟩
          obtain ⟨hpresent, hnot⟩ := hgone hid.2
          exact absurd (h.nothingElse es hes ⟨hid.1, hpresent⟩) hnot
      | deleteIgnored mz zone' err hdel hreq hcall =>
          obtain ⟨rfl, -⟩ := contract.delete_failed (hclean.delete hread hreq) h.exactly hcall
          exact ⟨h.exactly, h.nothingElse⟩
      | deleteFailed mz zone' err hreq hcall =>
          obtain ⟨rfl, -⟩ := contract.delete_failed (hclean.delete hread hreq) h.exactly hcall
          exact ⟨h.exactly, h.nothingElse⟩
      | ensured mz zone' hdel hnew hreq hcall =>
          obtain ⟨hexact, hsub⟩ :=
            contract.ensure_done (hclean.ensure hread hreq) h.exactly hcall
          refine ⟨hexact, fun es hes id hid => ?_⟩
          rcases List.mem_cons.1 hes with rfl | hes
          · exact hid.1
          · rcases hsub hid.2 with hin | ⟨hpresent, hnot⟩
            · exact hin
            · exact absurd (h.nothingElse es hes ⟨hid.1, hpresent⟩) hnot
      | ensureFailed mz zone' err hdel hreq hcall =>
          have hzone := contract.ensure_failed (hclean.ensure hread hreq) h.exactly hcall
          subst hzone
          exact ⟨h.exactly, h.nothingElse⟩
      | noZone | stopped | finalizer | skipped | notPublished =>
          exact ⟨h.exactly, h.nothingElse⟩

/-! ## Up to date -/

theorem tracked_start (record : DNSRecord) (zone : Zone) : Tracked (start record zone) :=
  ⟨fun _ hp => (nomatch hp), fun _ hp => (nomatch hp)⟩

theorem viewed_start (record : DNSRecord) (zone : Zone) : Viewed (start record zone) := by
  refine ⟨fun o ho => ?_, fun _ hp => (nomatch hp), fun _ hr => (nomatch hr)⟩
  cases ho
  exact ⟨Nat.zero_le _, fun h => (nomatch h)⟩

theorem kept_start (record : DNSRecord) (zone : Zone) : contract.Kept (start record zone) :=
  ⟨contract.exact_nil zone, fun _ hes => (nomatch hes)⟩

/-- With clean calls, a record whose generation has been observed has its endpoints published, and
    of all that was ever published only what these share with it. -/
theorem upToDate {record : DNSRecord} {zone : Zone} {run : List (Event Call)}
    (hrun : Run.Always (step provider) contract.Clean (start record zone) run) {o : DNSRecord}
    (ho : (run.foldl (step provider) (start record zone)).object = some o)
    (hobs : o.status.observedGeneration = o.metadata.generation) :
    let s := run.foldl (step provider) (start record zone)
    contract.Exact s.zone o.spec.endpoints ∧ ∀ es ∈ s.history.created,
      contract.ids es ∩ contract.present s.zone ⊆ contract.ids o.spec.endpoints := by
  obtain ⟨-, hview, hkept⟩ := Run.invariant
    (P := fun s => Tracked s ∧ Viewed s ∧ contract.Kept s)
    (fun s e hinv hclean =>
      have hmoves := moves_step provider s e
      ⟨hinv.1.moves hmoves, hinv.2.1.moves hinv.1 hmoves, hinv.2.2.moves hclean hmoves⟩)
    ⟨tracked_start record zone, viewed_start record zone, kept_start record zone⟩ hrun
  have hspec := ((hview.object o ho).current hobs).2
  rw [hspec]
  exact ⟨hkept.exactly, hkept.nothingElse⟩

/-! ## The finalizer -/

/-- The managed zone is found and ready. -/
def ZoneReady : Event Call → Prop
  | .work answers => ∃ mz, answers.managedZone = .found mz ∧ isReady mz = true
  | _ => True

/-- The finalizer is only taken off a marked record, of which nothing is published any more. -/
structure Released (s : State Zone) : Prop where
  update : ∀ r, s.pending = .update r → r.metadata.deletionTimestamp = true →
    s.history.published = []
  published : s.history.finalizerRemoved = true → s.history.published = []
  object : s.history.finalizerRemoved = true → ∀ o, s.object = some o →
    o.metadata.deletionTimestamp = true
  pending : s.history.finalizerRemoved = true → ∀ p, s.pending.record = some p →
    p.metadata.deletionTimestamp = true

theorem released_start (record : DNSRecord) (zone : Zone) : Released (start record zone) :=
  ⟨fun _ hr => (nomatch hr), fun h => (nomatch h), fun h => (nomatch h), fun h => (nomatch h)⟩

/-- What a reconcile with a ready zone does to the endpoints that are published. -/
theorem published_of_outcome {s : State Zone} {answers : Answers Call} {p : DNSRecord}
    (hkept : contract.Kept s) (hclean : contract.Clean s (.work answers))
    (hready : ZoneReady (.work answers)) (hread : s.pending = .read p) {zone' : Zone}
    {pending' : Pending} {history' : History}
    (hout : Outcome provider answers p s.zone s.history zone' pending' history') :
    (∀ r, pending' = .update r → r.metadata.deletionTimestamp = true → history'.published = []) ∧
      history'.finalizerRemoved = s.history.finalizerRemoved ∧
      (p.metadata.deletionTimestamp = true → s.history.published = [] →
        history'.published = []) := by
  cases hout with
  | deleted => exact ⟨fun _ _ _ => rfl, rfl, fun _ _ => rfl⟩
  | deleteIgnored mz zone' err hdel hreq hcall hignored =>
      have hnil := (contract.delete_failed (hclean.delete hread hreq) hkept.exactly hcall).2 hignored
      exact ⟨fun _ _ _ => hnil, rfl, fun _ hpub => hpub⟩
  | noZone err hdel hzone =>
      obtain ⟨mz, hmz, -⟩ := hready
      rw [hzone] at hmz
      cases hmz
  | finalizer hdel =>
      refine ⟨fun r hr hmarked => ?_, rfl, fun _ hpub => hpub⟩
      cases hr
      have hmarked' : p.metadata.deletionTimestamp = true := hmarked
      rw [hdel] at hmarked'
      cases hmarked'
  | ensured mz zone' hdel =>
      refine ⟨fun r hr => absurd hr statusWrite_ne_update, rfl, fun hmarked => ?_⟩
      rw [hdel] at hmarked
      cases hmarked
  | ensureFailed | skipped | notPublished =>
      exact ⟨fun r hr => absurd hr statusWrite_ne_update, rfl, fun _ hpub => hpub⟩
  | deleteFailed | stopped => exact ⟨fun _ hr => (nomatch hr), rfl, fun _ hpub => hpub⟩

theorem Released.moves {s s' : State Zone} {e : Event Call} (h : Released s) (ht : Tracked s)
    (hkept : contract.Kept s) (hready : ZoneReady e) (hclean : contract.Clean s e)
    (hmoves : Moves provider s e s') : Released s' := by
  cases hmoves with
  | client _ f hf =>
      refine ⟨h.update, h.published, fun hrem o' ho' => ?_, h.pending⟩
      obtain ⟨o, ho, hchange⟩ := Option.bind_eq_some_iff.1 ho'
      exact (hf o o' hchange).later.deleting (h.object hrem o ho)
  | read o hobject =>
      refine ⟨fun _ hr => (nomatch hr), h.published, h.object, fun hrem p hp => ?_⟩
      rw [← Option.some.inj hp]
      exact h.object hrem o hobject
  | work answers p hread zone' pending' history' hout =>
      obtain ⟨hupdate, hrem, hpub⟩ := published_of_outcome hkept hclean hready hread hout
      have hp : ∀ _ : history'.finalizerRemoved = true, p.metadata.deletionTimestamp = true :=
        fun hremoved => h.pending (hrem ▸ hremoved) p (by rw [hread]; rfl)
      refine ⟨hupdate, fun hremoved => ?_, fun hremoved => h.object (hrem ▸ hremoved), ?_⟩
      · exact hpub (hp hremoved) (h.published (hrem ▸ hremoved))
      · intro hremoved q hq
        rw [(hout.metadata hq).2.2.2]
        exact hp hremoved
  | update r o hpending hobject hversion =>
      -- the finalizer was gone before, or goes with this write of a marked record
      have hmarked : (s.history.finalizerRemoved || r.metadata.deletionTimestamp) = true →
          s.history.published = [] ∧ o.metadata.deletionTimestamp = true := by
        intro hremoved
        rcases Bool.or_eq_true_iff.1 hremoved with hrem | hdel
        · exact ⟨h.published hrem, h.object hrem o hobject⟩
        · exact ⟨h.update r hpending hdel,
            (ht.later r (by rw [hpending]; rfl) o hobject).deleting hdel⟩
      refine ⟨fun _ hr => (nomatch hr), fun hremoved => (hmarked hremoved).1, ?_,
        fun _ p hp => nomatch hp⟩
      intro hremoved o' ho'
      exact (changed_apiUpdate ho').later.deleting (hmarked hremoved).2
  | updateStatus r o hpending hobject hversion =>
      refine ⟨fun _ hr => (nomatch hr), h.published, fun hrem o' ho' => ?_,
        fun _ p hp => nomatch hp⟩
      rw [← Option.some.inj ho']
      unfold apiUpdateStatus
      split <;> exact h.object hrem o hobject
  | dropped =>
      exact ⟨fun _ hr => (nomatch hr), h.published, h.object, fun _ p hp => nomatch hp⟩
  | unchanged => exact h

/-- With clean calls and a ready zone, nothing that was ever published is left when the finalizer
    has been removed. -/
theorem nothingLeft {record : DNSRecord} {zone : Zone} {run : List (Event Call)}
    (hrun : Run.Always (step provider) (fun s e => ZoneReady e ∧ contract.Clean s e)
      (start record zone) run)
    (hremoved : (run.foldl (step provider) (start record zone)).history.finalizerRemoved = true) :
    let s := run.foldl (step provider) (start record zone)
    ∀ es ∈ s.history.created, Disjoint (contract.ids es) (contract.present s.zone) := by
  obtain ⟨-, hkept, hreleased⟩ := Run.invariant
    (P := fun s => Tracked s ∧ contract.Kept s ∧ Released s)
    (fun s e hinv hcond =>
      have hmoves := moves_step provider s e
      ⟨hinv.1.moves hmoves, hinv.2.1.moves hcond.2 hmoves,
        hinv.2.2.moves hinv.1 hinv.2.1 hcond.1 hcond.2 hmoves⟩)
    ⟨tracked_start record zone, kept_start record zone, released_start record zone⟩ hrun
  intro s es hes
  have hsub := hkept.nothingElse es hes
  rw [hreleased.published hremoved, contract.ids_nil] at hsub
  exact Set.disjoint_iff.2 hsub

end Contract

end

end MultiClusterGateway.DnsRecord
