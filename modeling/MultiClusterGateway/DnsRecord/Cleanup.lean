import MultiClusterGateway.DnsRecord.Providers

set_option autoImplicit false

/-! # What a DNSRecord leaves in its zone

The reconciler publishes before it writes the status, and finds what to clean up in the spec or in
the status of the version it has read. If the write of the status is refused, or the spec changes
before the record is deleted, it looks in the wrong place, and a refused deletion counts as done.
`nothing_left_behind` and `published_exactly` say what holds when all calls are clean.

A clean call is what `DnsRecord.Providers` says of each provider. The results here put the
invariants of runs and the contracts of the two providers together, and the runs below each of them
show what goes wrong without the condition: a spec that changes before its deletion, and a write of
the status that is refused because something else was written in between. -/

namespace MultiClusterGateway.DnsRecord

/-! ## After the finalizer -/

/-- When the finalizer is removed, after clean calls with a ready zone, the zone has nothing of what
    the record ever published: on Route 53 under its keys, on Cloud DNS under its names. -/
theorem nothing_left_behind (record : DNSRecord) :
    (∀ (zone : Route53.Zone) (run : List (Event (Option String))),
      Run.Always (step Route53.provider)
        (fun s e => Contract.ZoneReady e ∧ Route53.contract.Clean s e) (start record zone) run →
      let s := run.foldl (step Route53.provider) (start record zone)
      s.history.finalizerRemoved = true →
        ∀ es ∈ s.history.created, ∀ e ∈ es, s.zone.get (Route53.endpointKey e) = none) ∧
    (∀ (parseFloat : Google.ParseFloat) (zone : Google.Zone)
      (run : List (Event (Google.Orders × Google.Faults))),
      Run.Always (step (Google.provider parseFloat))
        (fun s e => Contract.ZoneReady e ∧ (Google.contract parseFloat).Clean s e)
        (start record zone) run →
      let s := run.foldl (step (Google.provider parseFloat)) (start record zone)
      s.history.finalizerRemoved = true →
        ∀ es ∈ s.history.created, ∀ x ∈ s.zone.entries, ¬ Google.Published es x.name) := by
  constructor
  · intro zone run hrun s hremoved es hes e he
    have hdisjoint := Route53.contract.nothingLeft hrun hremoved es hes
    by_contra hne
    exact Set.disjoint_iff.1 hdisjoint ⟨⟨e, he, rfl⟩, hne⟩
  · intro parseFloat zone run hrun s hremoved es hes x hx hname
    have hdisjoint := (Google.contract parseFloat).nothingLeft hrun hremoved es hes
    exact Set.disjoint_iff.1 hdisjoint ⟨hname, ⟨x, hx, rfl⟩⟩

/-- A zone that is ready. -/
def readyZone : ManagedZone where
  name := "mz"
  ns := "testns"
  domainName := "example.com"
  conditions := [⟨conditionTypeReady, true, "", "", 1⟩]
  id := "Z1"

/-- An undisturbed reconcile. -/
def cycle {Call : Type*} (call : Call) : List (Event Call) :=
  [.read, .work { managedZone := .found readyZone, call := call }, .write true]

theorem zoneReady_cycle {Call : Type*} (call : Call) :
    ∀ e ∈ cycle call, Contract.ZoneReady e := by
  simp only [cycle, List.forall_mem_cons]
  exact ⟨trivial, ⟨readyZone, rfl, rfl⟩, trivial, fun e he => (nomatch he)⟩

/-- Publish, then delete. -/
def publishAndDelete {Call : Type*} (call : Call) : List (Event Call) :=
  cycle call ++ cycle call ++ [.requestDelete] ++ cycle call

/-- A call of the Google provider in which no request fails. -/
def plainCall : Google.Orders × Google.Faults := (.inserted, {})

def exampleA : Endpoint := addressEndpoint "a.example.com" "1.1.1.1"

def exampleB : Endpoint := addressEndpoint "b.example.com" "2.2.2.2"

/-- A record that is published and then deleted leaves nothing. -/
theorem nothing_left_behind_publishAndDelete :
    (let s := (publishAndDelete none).foldl (step Route53.provider)
        (start (recordOf [exampleA] []) .empty)
     s.history.finalizerRemoved = true ∧ s.history.created = [[exampleA]] ∧
      ∀ es ∈ s.history.created, ∀ e ∈ es, s.zone.get (Route53.endpointKey e) = none) ∧
    (let s := (publishAndDelete plainCall).foldl (step (Google.provider fun _ => none))
        (start (recordOf [exampleA] []) .empty)
     s.history.finalizerRemoved = true ∧ s.history.created = [[exampleA]] ∧
      ∀ es ∈ s.history.created, ∀ x ∈ s.zone.entries, ¬ Google.Published es x.name) := by
  have hready : Contract.ZoneReady (.work { managedZone := .found readyZone, call := none } :
      Event (Option String)) := ⟨readyZone, rfl, rfl⟩
  have hready' : Contract.ZoneReady (.work { managedZone := .found readyZone, call := plainCall }) :=
    ⟨readyZone, rfl, rfl⟩
  constructor
  · refine ⟨rfl, rfl, (nothing_left_behind _).1 _ _ ?_ rfl⟩
    refine ⟨⟨trivial, trivial⟩, ⟨hready, trivial⟩, ⟨trivial, trivial⟩, ⟨trivial, trivial⟩,
      ⟨hready, ?_⟩, ⟨trivial, trivial⟩, ⟨trivial, trivial⟩, ⟨trivial, trivial⟩, ⟨hready, ?_⟩,
      ⟨trivial, trivial⟩, trivial⟩
    · exact Route53.CleanEnsure.mk (fun _ => rfl) (List.nodup_singleton _) (fun e he => (nomatch he))
    · exact Or.inr ⟨rfl, fun h => absurd rfl h⟩
  · refine ⟨rfl, rfl, (nothing_left_behind _).2 _ _ _ ?_ rfl⟩
    refine ⟨⟨trivial, trivial⟩, ⟨hready', trivial⟩, ⟨trivial, trivial⟩, ⟨trivial, trivial⟩,
      ⟨hready', ?_⟩, ⟨trivial, trivial⟩, ⟨trivial, trivial⟩, ⟨trivial, trivial⟩, ⟨hready', ?_⟩,
      ⟨trivial, trivial⟩, trivial⟩
    · refine Google.CleanEnsure.mk (fun e he => (nomatch he)) ?_ (fun x hx => (nomatch hx)) ?_
      · intro e he e' he' _
        rw [List.mem_singleton.1 he, List.mem_singleton.1 he']
      · decide
    · refine Google.CleanDelete.mk (fun e he => ⟨e, he, rfl⟩) ?_ (Or.inr ?_)
      · decide
      · rintro err (h | h)
        · cases h
        · cases h

/-- Publish, change the spec, delete before the change is published. -/
def editAndDelete {Call : Type*} (call : Call) (es : List Endpoint) : List (Event Call) :=
  cycle call ++ cycle call ++ [.edit es, .requestDelete] ++ cycle call

/-- Publish while the metadata changes, so that the write of the status is refused, then delete. -/
def disturbedAndDelete {Call : Type*} (call : Call) : List (Event Call) :=
  cycle call ++
    [.read, .work { managedZone := .found readyZone, call := call },
      .annotate [("example.com/touched", "true")], .write true, .requestDelete] ++ cycle call

/-- Route 53 refuses to delete what only the new spec has, and Cloud DNS finds no name in the status;
    the reconciler removes the finalizer, and the record set stays. -/
theorem left_behind_exampleA :
    (∃ run : List (Event (Option String)), (∀ e ∈ run, Contract.ZoneReady e) ∧
      let s := run.foldl (step Route53.provider) (start (recordOf [exampleA] []) .empty)
      s.history.finalizerRemoved = true ∧
        ∃ es ∈ s.history.created, ∃ e ∈ es, s.zone.get (Route53.endpointKey e) ≠ none) ∧
    ∃ run : List (Event (Google.Orders × Google.Faults)), (∀ e ∈ run, Contract.ZoneReady e) ∧
      let s := run.foldl (step (Google.provider fun _ => none))
        (start (recordOf [exampleA] []) .empty)
      s.history.finalizerRemoved = true ∧
        ∃ es ∈ s.history.created, ∃ x ∈ s.zone.entries, Google.Published es x.name := by
  constructor
  · refine ⟨editAndDelete none [exampleB], ?_, by decide +kernel, [exampleA], by decide +kernel,
      exampleA, List.mem_singleton.2 rfl, by decide +kernel⟩
    simp only [editAndDelete, List.forall_mem_append, List.forall_mem_cons]
    exact ⟨⟨⟨zoneReady_cycle none, zoneReady_cycle none⟩, trivial, trivial, fun e he => (nomatch he)⟩,
      zoneReady_cycle none⟩
  · refine ⟨disturbedAndDelete plainCall, ?_, rfl, [exampleA], List.mem_singleton.2 rfl, _,
      List.mem_singleton.2 rfl, exampleA, List.mem_singleton.2 rfl, rfl⟩
    simp only [disturbedAndDelete, List.forall_mem_append, List.forall_mem_cons]
    exact ⟨⟨zoneReady_cycle plainCall, trivial, ⟨readyZone, rfl, rfl⟩, trivial, trivial, trivial,
      fun e he => (nomatch he)⟩, zoneReady_cycle plainCall⟩

/-! ## Up to date -/

/-- After clean calls, when the generation of the record has been observed, the zone has its
    endpoints, and nothing else of what the record ever published. -/
theorem published_exactly (record : DNSRecord) (zone : Route53.Zone)
    (run : List (Event (Option String)))
    (hrun : Run.Always (step Route53.provider) Route53.contract.Clean (start record zone) run) :
    let s := run.foldl (step Route53.provider) (start record zone)
    ∀ o, s.object = some o → o.status.observedGeneration = o.metadata.generation →
      (∀ e ∈ o.spec.endpoints,
        s.zone.get (Route53.endpointKey e) = some (Route53.resourceRecordSet e)) ∧
      ∀ es ∈ s.history.created, ∀ e ∈ es, s.zone.get (Route53.endpointKey e) ≠ none →
        ∃ e' ∈ o.spec.endpoints, Route53.endpointKey e' = Route53.endpointKey e := by
  intro s o ho hobs
  obtain ⟨hexact, honly⟩ := Route53.contract.upToDate hrun ho hobs
  exact ⟨hexact.stored, fun es hes e he hne => honly es hes ⟨⟨e, he, rfl⟩, hne⟩⟩

/-- Publish, change the spec, publish again. -/
def publishTwice (es : List Endpoint) : List (Event (Option String)) :=
  cycle none ++ cycle none ++ [.edit es] ++ cycle none

/-- An edit between two undisturbed publications: only the new record set is left. -/
theorem published_exactly_publishTwice :
    let s := (publishTwice [exampleB]).foldl (step Route53.provider)
      (start (recordOf [exampleA] []) .empty)
    ∃ o, s.object = some o ∧ o.status.observedGeneration = o.metadata.generation ∧
      s.history.created = [[exampleB], [exampleA]] ∧ s.zone.get (Route53.endpointKey exampleA) = none ∧
      (∀ e ∈ o.spec.endpoints,
        s.zone.get (Route53.endpointKey e) = some (Route53.resourceRecordSet e)) ∧
      ∀ es ∈ s.history.created, ∀ e ∈ es, s.zone.get (Route53.endpointKey e) ≠ none →
        ∃ e' ∈ o.spec.endpoints, Route53.endpointKey e' = Route53.endpointKey e := by
  refine ⟨_, rfl, rfl, rfl, rfl, published_exactly _ _ (publishTwice [exampleB]) ?_ _ rfl rfl⟩
  refine ⟨trivial, trivial, trivial, trivial, ?_, trivial, trivial, trivial, ?_, trivial, trivial⟩
  · exact Route53.CleanEnsure.mk (fun _ => rfl) (List.nodup_singleton _) (fun e he => (nomatch he))
  · refine Route53.CleanEnsure.mk (fun h => (nomatch h)) (List.nodup_singleton _) fun e he => ?_
    right
    rw [List.mem_singleton.1 he]
    exact List.mem_singleton.2 rfl

/-- Publish while the spec changes, so that the write of the status is refused, then publish. -/
def editWhilePublishing (es : List Endpoint) : List (Event (Option String)) :=
  cycle none ++
    [.read, .work { managedZone := .found readyZone, call := none }, .edit es, .write true] ++
    cycle none

/-- The record set of the first publication stays although the record is ready and up to date. -/
theorem stale_exampleA :
    let s := (editWhilePublishing [exampleB]).foldl (step Route53.provider)
      (start (recordOf [exampleA] []) .empty)
    ∃ o, s.object = some o ∧ o.status.observedGeneration = o.metadata.generation ∧
      isStatusConditionTrue o.status.conditions conditionTypeReady = true ∧
      ∃ es ∈ s.history.created, ∃ e ∈ es, s.zone.get (Route53.endpointKey e) ≠ none ∧
        ∀ e' ∈ o.spec.endpoints, Route53.endpointKey e' ≠ Route53.endpointKey e := by
  refine ⟨_, rfl, rfl, rfl, [exampleA], List.mem_cons_of_mem _ (List.mem_singleton.2 rfl), exampleA,
    List.mem_singleton.2 rfl, fun h => (nomatch h), fun e' he' => ?_⟩
  rw [List.mem_singleton.1 he']
  decide

end MultiClusterGateway.DnsRecord
