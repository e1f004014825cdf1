import MultiClusterGateway.Api.Deletions
import MultiClusterGateway.DnsPolicy.Controller
import MultiClusterGateway.DnsPolicy.Listeners
import MultiClusterGateway.Lib.Fallible

set_option autoImplicit false

/-! # The records and probes of a Gateway that a call leaves as they are

A reconcile of a Gateway looks up records and probes by name, and the policy they were made for plays
no part in it. What is under each key afterwards is given by what was there, so it can be said when
the objects of the Gateway are as they were: exactly if there was nothing to write
(`records_untouched_iff`, `probes_untouched_iff`). -/

namespace MultiClusterGateway

/-! ## Objects of a Gateway -/

/-- The labels name the Gateway. -/
def ofGateway (gwKey : ObjectKey) (labels : Labels) : Bool :=
  labels.matches [(labelGatewayNSRef, gwKey.ns), (labelGatewayReference, gwKey.name)]

/-- What is under a key, if it is an object of the Gateway. -/
def Kind.own {V : Type} (kind : Kind V) (gwKey : ObjectKey) (o : Option V) : Option V :=
  o.filter (fun v => ofGateway gwKey (kind.get v).labels)

/-- The records and probes of the Gateway are the same. -/
structure GatewayUntouched (gwKey : ObjectKey) (hub hub' : DnsHub) : Prop where
  records : ∀ k, dnsRecordKind.own gwKey (hub'.records.get k)
    = dnsRecordKind.own gwKey (hub.records.get k)
  probes : ∀ k, probeKind.own gwKey (hub'.probes.get k) = probeKind.own gwKey (hub.probes.get k)

theorem ofGateway_iff {gwKey : ObjectKey} {labels : Labels} :
    ofGateway gwKey labels = true ↔ labels.get? labelGatewayNSRef = some gwKey.ns ∧
      labels.get? labelGatewayReference = some gwKey.name := by
  simp [ofGateway, Labels.matches]

/-- Objects that are selected for a policy and a Gateway are objects of the Gateway. -/
theorem ofGateway_of_matches {gwKey gwKey' apKey : ObjectKey} {labels : Labels}
    (h : labels.matches (commonDNSRecordLabels gwKey' apKey) = true) :
    ofGateway gwKey labels = true ↔ gwKey = gwKey' := by
  simp only [Labels.matches, commonDNSRecordLabels, List.all_cons, List.all_nil, Bool.and_true,
    Bool.and_eq_true, beq_iff_eq] at h
  obtain ⟨-, -, hns, hname⟩ := h
  rw [ofGateway_iff, hns, hname, Option.some.injEq, Option.some.injEq]
  constructor
  · rintro ⟨hns, hname⟩
    cases gwKey
    cases gwKey'
    cases hns
    cases hname
    rfl
  · rintro rfl
    exact ⟨rfl, rfl⟩

section
variable {V : Type} {kind : Kind V} {gwKey : ObjectKey} {o : Option V} {v v' : V} {p : V → Bool}

theorem own_eq_some : kind.own gwKey o = some v ↔
    o = some v ∧ ofGateway gwKey (kind.get v).labels = true := by
  unfold Kind.own
  rw [Option.filter_eq_some_iff]

theorem own_of_true (h : ofGateway gwKey (kind.get v).labels = true) :
    kind.own gwKey (some v) = some v :=
  own_eq_some.2 ⟨rfl, h⟩

theorem own_of_false (h : ofGateway gwKey (kind.get v).labels = false) :
    kind.own gwKey (some v) = none := by
  simp [Kind.own, h]

theorem labels_mark (b : Bool) (v : V) : (kind.get (kind.mark b v)).labels = (kind.get v).labels := by
  unfold Kind.mark
  rw [kind.get_set]

/-- An object of the Gateway that is left by deletions was one before. -/
theorem exists_of_deleteIf (h : kind.deleteIf p o = some v') :
    ∃ v, o = some v ∧ (kind.get v').labels = (kind.get v).labels ∧
      (v' = v ∨ p v = true ∧ v' = kind.mark true v) := by
  rcases Kind.eq_or_marked_of_deleteIf h with rfl | ⟨v, rfl, hp, rfl⟩
  · exact ⟨v', rfl, rfl, Or.inl rfl⟩
  · exact ⟨v, rfl, labels_mark true v, Or.inr ⟨hp, rfl⟩⟩

theorem own_deleted_of_false (h : ofGateway gwKey (kind.get v).labels = false) :
    kind.own gwKey (kind.deleted v) = none := by
  unfold Kind.deleted
  split
  · rfl
  · exact own_of_false (by rw [labels_mark, h])

/-- Deletions leave the objects of a Gateway that they do not select. -/
theorem own_deleteIf_of_disjoint
    (h : ∀ v, p v = true → ofGateway gwKey (kind.get v).labels = false) :
    kind.own gwKey (kind.deleteIf p o) = kind.own gwKey o := by
  cases o with
  | none => rfl
  | some v =>
      cases hp : p v with
      | false => rw [Kind.deleteIf_of_false hp]
      | true => rw [Kind.deleteIf_of_true hp, own_of_false (h v hp), own_deleted_of_false (h v hp)]

/-- Deletions leave the objects of the Gateway exactly if those they select are being deleted. -/
theorem own_deleteIf_iff (hkept : ∀ v, o = some v → kind.marked v = true → kind.finalizers v ≠ []) :
    kind.own gwKey (kind.deleteIf p o) = kind.own gwKey o ↔
      ∀ v, o = some v → ofGateway gwKey (kind.get v).labels = true → p v = true →
        kind.marked v = true := by
  constructor
  · rintro h v rfl hown hp
    rw [own_of_true hown, Kind.deleteIf_of_true hp, own_eq_some] at h
    rw [(Kind.deleted_eq_some.1 h.1).2]
    exact kind.marked_mark true v
  · intro h
    cases o with
    | none => rfl
    | some v =>
        cases hp : p v with
        | false => rw [Kind.deleteIf_of_false hp]
        | true =>
            rw [Kind.deleteIf_of_true hp]
            cases hown : ofGateway gwKey (kind.get v).labels with
            | true =>
                have hmarked := h v rfl hown hp
                rw [Kind.deleted_of_marked (hkept v rfl hmarked) hmarked]
            | false => rw [own_of_false hown, own_deleted_of_false hown]

/-- An object of the Gateway that deletions have changed does not come back by deletions. -/
theorem own_deleteIf_deleteIf {q : V → Bool}
    (h : kind.own gwKey (kind.deleteIf q (kind.deleteIf p o)) = kind.own gwKey o) :
    kind.own gwKey (kind.deleteIf p o) = kind.own gwKey o := by
  cases o with
  | none => rfl
  | some v =>
      cases hown : ofGateway gwKey (kind.get v).labels with
      | true =>
          rw [own_of_true hown] at h ⊢
          obtain ⟨hv, -⟩ := own_eq_some.1 h
          obtain ⟨v₁, hv₁, -, hsame | ⟨-, hmark⟩⟩ := exists_of_deleteIf hv
          · rw [hv₁, ← hsame]
            exact own_of_true hown
          · -- the object is marked in the end, so it was in the beginning
            have hmarked : kind.marked v = true := by
              rw [hmark]
              exact kind.marked_mark true v₁
            obtain ⟨v₀, hv₀, -, rfl | ⟨-, rfl⟩⟩ := exists_of_deleteIf hv₁
            · cases hv₀
              rw [hv₁]
              exact own_of_true hown
            · cases hv₀
              rw [hv₁, kind.mark_eq_self hmarked]
              exact own_of_true hown
      | false =>
          rw [own_of_false hown]
          cases hleft : kind.deleteIf p (some v) with
          | none => rfl
          | some v₁ =>
              obtain ⟨v₀, hv₀, hlabels, -⟩ := exists_of_deleteIf hleft
              cases hv₀
              exact own_of_false (by rw [hlabels, hown])

/-- Removals leave the objects of a Gateway that none of them selects. -/
theorem own_deleteEach_of_disjoint {G : Type} {selects : G → V → Bool} {gs : List G}
    (h : ∀ g ∈ gs, ∀ v, selects g v = true → ofGateway gwKey (kind.get v).labels = false) :
    kind.own gwKey (kind.deleteEach selects gs o) = kind.own gwKey o := by
  induction gs generalizing o with
  | nil => rfl
  | cons g rest ih =>
      refine (ih fun g' hg' => h g' (List.mem_cons_of_mem g hg')).trans ?_
      exact own_deleteIf_of_disjoint (h g List.mem_cons_self)

end

variable {env : Env} {suffixes : SuffixList} {orders : String → MapOrder} {placer : Placer}
  {gateway : Gateway} {dnsPolicy : DNSPolicy} {clusters : List String} {hub hub' : DnsHub}

/-! ## Records that are removed -/

/-- What `removeDNSForDeletedListeners` deletes. -/
def isStale (gateway : Gateway) (dns : DNSRecord) : Bool :=
  (dns.metadata.ns == gateway.ns &&
    dns.metadata.labels.matches [(labelGatewayReference, gateway.name)]) &&
  !(gateway.listeners.any fun listener =>
    listener.name == (dns.metadata.labels.get? labelListenerReference).getD "")

/-- What `deleteGatewayDNSRecords` deletes. -/
def isRecordOf (gateway : Gateway) (dnsPolicy : DNSPolicy) (record : DNSRecord) : Bool :=
  record.metadata.labels.matches (commonDNSRecordLabels gateway.key dnsPolicy.key)

theorem triple_removeDNSForDeletedListeners :
    Api.Triple (fun s => s = hub) (removeDNSForDeletedListeners gateway)
      (fun _ => Api.Altered recordsPart (fun _ => dnsRecordKind.deleteIf (isStale gateway)) hub)
      (fun _ _ => True) :=
  Api.triple_list_delete (fun _ _ => Api.triple_ignoreNotFound_delete) hub

theorem triple_deleteGatewayDNSRecords :
    Api.Triple (fun s => s = hub) (deleteGatewayDNSRecords gateway dnsPolicy)
      (fun _ => Api.Altered recordsPart
        (fun _ => dnsRecordKind.deleteIf (isRecordOf gateway dnsPolicy)) hub)
      (fun _ _ => True) := by
  have h := @Api.triple_list_delete DnsHub DNSRecord dnsRecordKind recordsPart
    (isRecordOf gateway dnsPolicy) (fun _ => false) _
    (fun v s₀ => Api.triple_ignoreNotFound_delete) hub
  refine Effect.Spec.mono (x := deleteGatewayDNSRecords gateway dnsPolicy) h (fun _ h => h) ?_
    fun _ _ h => h
  intro _ s hs
  exact hs.congr fun k => by simp

/-! ## The loop over the listeners -/

theorem triple_of_true {S α : Type} {P : S → Prop} (x : Api S α) :
    Api.Triple P x (fun _ _ => True) (fun _ _ => True) := by
  intro w _
  split
  · trivial
  · trivial

/-- The record of the listener that the loop ends with. -/
theorem triple_reconcileListener_done (listener : Listener) :
    Api.Triple (fun s => s = hub)
      (reconcileListener env suffixes orders placer gateway dnsPolicy clusters listener)
      (fun flow s => flow = .done → s.records.get (dnsRecordKey gateway listener.name)
        = (hub.records.get (dnsRecordKey gateway listener.name)).bind dnsRecordKind.deleted)
      (fun _ _ => True) := by
  unfold reconcileListener
  refine (triple_getManagedZoneForListener gateway.ns listener).bind (fun _ _ _ => trivial)
    fun mz => ?_
  refine Effect.Spec.mono (P := fun s => s = hub) ?_ (fun _ h => h.1) (fun _ _ h => h)
    fun _ _ h => h
  split
  · exact Effect.Spec.fail fun _ _ => trivial
  · exact Effect.Spec.pure fun _ _ h => nomatch h
  · split
    · exact Effect.Spec.fail fun _ _ => trivial
    · refine (triple_mapError Api.triple_ignoreNotFound_delete _).bind (fun _ _ _ => trivial)
        fun _ => Effect.Spec.pure fun s hs _ => ?_
      rw [show s.records.get _ = _ from hs.get _, Api.deletesAt, if_pos rfl]
      rfl
    · refine Effect.Spec.bind (Q := fun _ _ => True) (triple_of_true _) (fun _ _ _ => trivial)
        fun _ => Effect.Spec.pure fun _ _ h => nomatch h

theorem reconcileListeners_first {listeners rest : List Listener} {first : Listener}
    {w w' : Served DnsHub}
    (h : reconcileListeners env suffixes orders placer gateway dnsPolicy clusters listeners w
      = (.ok (), w'))
    (hdrop : listeners.dropWhile (hasRoutes placer clusters) = first :: rest)
    (hnames : (listeners.map (·.name)).Nodup) :
    w'.state.records.get (dnsRecordKey gateway first.name)
      = (w.state.records.get (dnsRecordKey gateway first.name)).bind dnsRecordKind.deleted := by
  induction listeners generalizing w with
  | nil => cases hdrop
  | cons listener others ih =>
      unfold reconcileListeners at h
      obtain ⟨flow, w₁, hround, hrest⟩ := Effect.bind_eq_ok.1 h
      obtain ⟨host, mz, cgs, -, -, hcollect, hcases⟩ :=
        (triple_reconcileListener clusters listener).of_ok rfl hround
      rcases hcases with ⟨hempty, rfl, -⟩ | ⟨hsome, rfl, record, t, -, -, hwritten⟩
      · have hno := (eq_nil_iff_hasRoutes hcollect).1 hempty
        rw [List.dropWhile_cons_of_neg (by simp [hno])] at hdrop
        cases hdrop
        cases hrest
        exact (triple_reconcileListener_done first).of_ok rfl hround rfl
      · have hroutes := hasRoutes_of_ne_nil hcollect hsome
        rw [List.dropWhile_cons_of_pos hroutes] at hdrop
        rw [List.map_cons, List.nodup_cons] at hnames
        have hmem : first ∈ others :=
          (List.dropWhile_sublist _).subset (hdrop ▸ List.mem_cons_self)
        rw [ih hrest hdrop hnames.2, hwritten.others]
        exact dnsRecordKey_ne fun heq => hnames.1 (List.mem_map.2 ⟨first, hmem, heq⟩)

/-- The listeners whose records the loop publishes. -/
def visited (placer : Placer) (clusters : List String) (listeners : List Listener) :
    List Listener :=
  listeners.takeWhile (hasRoutes placer clusters)

section
variable (env orders placer gateway dnsPolicy clusters)

/-- The endpoints that a call sets for a listener, given its record and the probes. -/
def computedEndpoints (probes : ProbeStore) (listener : Listener) (record : DNSRecord) :
    Option (List Endpoint) :=
  match listener.hostname, collectClusterGateways placer listener.name clusters with
  | some host, .ok clusterGateways =>
    match MultiClusterGatewayTarget.new gateway clusterGateways dnsPolicy.loadBalancing with
    | .ok t => some (setEndpoints env (orders listener.name) t record.spec.endpoints
        (listedProbes gateway dnsPolicy probes) listener.name host)
    | .error _ => none
  | _, _ => none

/-- The record of a listener after the loop: with the endpoints that the call sets, on the record
    that was there or on a new one. -/
def SetFor (probes : ProbeStore) (listener : Listener) (o o' : Option DNSRecord) : Prop :=
  ∃ record endpoints, (o = some record ∨
      o = none ∧ ∃ mz, record = buildDNSRecordForListener gateway dnsPolicy listener mz) ∧
    computedEndpoints env orders placer gateway dnsPolicy clusters probes listener record
      = some endpoints ∧
    o' = some (record.withEndpoints endpoints)

end

theorem reconcileListeners_visited {w w' : Served DnsHub}
    (h : reconcileListeners env suffixes orders placer gateway dnsPolicy clusters gateway.listeners w
      = (.ok (), w'))
    (hnames : (gateway.listeners.map (·.name)).Nodup) {listener : Listener}
    (hl : listener ∈ visited placer clusters gateway.listeners) :
    SetFor env orders placer gateway dnsPolicy clusters w.state.probes listener
      (w.state.records.get (dnsRecordKey gateway listener.name))
      (w'.state.records.get (dnsRecordKey gateway listener.name)) := by
  have hrun := (triple_reconcileListeners clusters gateway.listeners).of_ok rfl h
  obtain ⟨host, mz, cgs, hhost, -, hcollect, record, t, hrecord, hnew, hget⟩ :=
    hrun.published hnames hl
  refine ⟨record, _, ?_, ?_, hget⟩
  · rcases hrecord with hrecord | ⟨hnone, hbuilt⟩
    · exact Or.inl hrecord
    · exact Or.inr ⟨hnone, mz, hbuilt⟩
  · simp only [computedEndpoints, hhost, hcollect, hnew]

/-- All other records stay. -/
theorem reconcileListeners_other {w w' : Served DnsHub}
    (h : reconcileListeners env suffixes orders placer gateway dnsPolicy clusters gateway.listeners w
      = (.ok (), w'))
    (hnames : (gateway.listeners.map (·.name)).Nodup) {k : ObjectKey}
    (hvisited : ∀ listener ∈ visited placer clusters gateway.listeners,
      k ≠ dnsRecordKey gateway listener.name)
    (hfirst : ∀ first rest,
      gateway.listeners.dropWhile (hasRoutes placer clusters) = first :: rest →
        k ≠ dnsRecordKey gateway first.name) :
    w'.state.records.get k = w.state.records.get k := by
  have hrun := (triple_reconcileListeners clusters gateway.listeners).of_ok rfl h
  by_cases hlistener : ∃ listener ∈ gateway.listeners, k = dnsRecordKey gateway listener.name
  · obtain ⟨listener, hl, rfl⟩ := hlistener
    refine hrun.get_skipped hnames ?_
    rw [← List.takeWhile_append_dropWhile (p := hasRoutes placer clusters)
      (l := gateway.listeners)] at hl
    rcases List.mem_append.1 hl with hl | hl
    · exact absurd rfl (hvisited listener hl)
    · unfold skipped
      cases hdrop : gateway.listeners.dropWhile (hasRoutes placer clusters) with
      | nil =>
          rw [hdrop] at hl
          cases hl
      | cons first rest =>
          rw [hdrop] at hl
          rcases List.mem_cons.1 hl with rfl | hl
          · exact absurd rfl (hfirst listener rest hdrop)
          · exact hl
  · push Not at hlistener
    exact hrun.frame.2.2 k hlistener

/-! ## Records that are left as they are -/

section
variable {gwKey : ObjectKey} {o o' : Option DNSRecord} {probes : ProbeStore} {listener : Listener}

/-- Stale records of the Gateway under a key are being deleted already. -/
def NothingStale (gateway : Gateway) (o : Option DNSRecord) : Prop :=
  ∀ record, dnsRecordKind.own gateway.key o = some record → isStale gateway record = true →
    record.metadata.deletionTimestamp = true

section
variable (env orders placer gateway dnsPolicy clusters)

/-- The record of a listener is there, and if it is one of the Gateway, it has the endpoints that
    the call sets. -/
def PublishedAlready (probes : ProbeStore) (listener : Listener) (o : Option DNSRecord) : Prop :=
  ∃ record, o = some record ∧ (ofGateway gateway.key record.metadata.labels = true →
    computedEndpoints env orders placer gateway dnsPolicy clusters probes listener record
      = some record.spec.endpoints)

end

theorem isStale_build (hl : listener ∈ gateway.listeners) (mz : ManagedZoneObject)
    (endpoints : List Endpoint) :
    isStale gateway ((buildDNSRecordForListener gateway dnsPolicy listener mz).withEndpoints
      endpoints) = false := by
  have hlabel : ((buildDNSRecordForListener gateway dnsPolicy listener mz).withEndpoints
      endpoints).metadata.labels.get? labelListenerReference = some listener.name := rfl
  have hany : (gateway.listeners.any fun l => l.name
      == (((buildDNSRecordForListener gateway dnsPolicy listener mz).withEndpoints
        endpoints).metadata.labels.get? labelListenerReference).getD "") = true := by
    refine List.any_eq_true.2 ⟨listener, hl, ?_⟩
    rw [hlabel]
    exact beq_self_eq_true _
  unfold isStale
  rw [hany]
  simp

theorem ofGateway_build (mz : ManagedZoneObject) (endpoints : List Endpoint) :
    ofGateway gateway.key ((buildDNSRecordForListener gateway dnsPolicy listener mz).withEndpoints
      endpoints).metadata.labels = true :=
  ofGateway_iff.2 ⟨rfl, rfl⟩

/-- A listener that is published leaves its record as it is exactly if there is nothing to set. -/
theorem own_published_iff (hl : listener ∈ gateway.listeners)
    (hset : SetFor env orders placer gateway dnsPolicy clusters probes listener
      (dnsRecordKind.deleteIf (isStale gateway) o) o') :
    dnsRecordKind.own gateway.key o' = dnsRecordKind.own gateway.key o ↔
      NothingStale gateway o ∧ PublishedAlready env orders placer gateway dnsPolicy clusters probes
        listener (dnsRecordKind.deleteIf (isStale gateway) o) := by
  obtain ⟨record, endpoints, hrecord, hcomputed, rfl⟩ := hset
  constructor
  · intro h
    constructor
    · intro r hown hstale
      rw [hown, own_eq_some] at h
      obtain ⟨rfl, -⟩ := own_eq_some.1 hown
      rcases hrecord with hleft | ⟨-, mz, rfl⟩
      · rw [Kind.deleteIf_of_true hstale] at hleft
        rw [← Option.some.inj h.1, (Kind.deleted_eq_some.1 hleft).2]
        rfl
      · rw [← Option.some.inj h.1, isStale_build hl] at hstale
        cases hstale
    · rcases hrecord with hleft | ⟨hnone, mz, rfl⟩
      · refine ⟨record, hleft, fun hown => ?_⟩
        have hown' : ofGateway gateway.key (record.withEndpoints endpoints).metadata.labels = true :=
          hown
        rw [own_of_true hown', eq_comm, own_eq_some] at h
        rw [h.1] at hleft
        obtain ⟨v, hv, -, hsame⟩ := exists_of_deleteIf hleft
        cases hv
        have hspec : record.spec = (record.withEndpoints endpoints).spec := by
          rcases hsame with heq | ⟨-, heq⟩
          · exact congrArg DNSRecord.spec heq
          · have hmarked := congrArg DNSRecord.spec heq
            exact hmarked
        rw [hcomputed, hspec]
        rfl
      · rw [own_of_true (ofGateway_build mz endpoints), eq_comm, own_eq_some] at h
        rw [h.1, Kind.deleteIf_of_false (isStale_build hl mz endpoints)] at hnone
        cases hnone
  · rintro ⟨hstale, r, hleft, hendpoints⟩
    have hr : record = r := by
      rcases hrecord with hrecord | ⟨hnone, -⟩
      · exact Option.some.inj (hrecord.symm.trans hleft)
      · rw [hnone] at hleft
        cases hleft
    subst hr
    obtain ⟨v, rfl, hlabels, hsame⟩ := exists_of_deleteIf hleft
    cases hown : ofGateway gateway.key record.metadata.labels with
    | true =>
        have hsameEndpoints : endpoints = record.spec.endpoints :=
          Option.some.inj (hcomputed.symm.trans (hendpoints hown))
        have hown' : ofGateway gateway.key v.metadata.labels = true := by
          rw [← hown]
          exact congrArg _ hlabels.symm
        have hv : record = v := by
          rcases hsame with heq | ⟨hp, heq⟩
          · exact heq
          · rw [heq]
            exact dnsRecordKind.mark_eq_self (hstale v (own_of_true hown') hp)
        rw [hsameEndpoints, ← hv]
        rfl
    | false =>
        have hown' : ofGateway gateway.key v.metadata.labels = false := by
          rw [← hown]
          exact congrArg _ hlabels.symm
        rw [@own_of_false _ dnsRecordKind _ v hown']
        exact @own_of_false _ dnsRecordKind _ (record.withEndpoints endpoints) hown

/-- Where nothing is published, the removal of stale records is all that counts. -/
theorem own_deleteIf_stale_iff
    (hkept : ∀ v, o = some v → dnsRecordKind.marked v = true → dnsRecordKind.finalizers v ≠ []) :
    dnsRecordKind.own gateway.key (dnsRecordKind.deleteIf (isStale gateway) o)
      = dnsRecordKind.own gateway.key o ↔ NothingStale gateway o := by
  rw [own_deleteIf_iff hkept]
  constructor
  · intro h record hown hstale
    obtain ⟨ho, hlabels⟩ := own_eq_some.1 hown
    exact h record ho hlabels hstale
  · intro h record ho hlabels hstale
    exact h record (own_eq_some.2 ⟨ho, hlabels⟩) hstale

/-- The record of a listener without routes is left exactly if it is being deleted. -/
theorem own_withdrawn_iff
    (hgone : o' = (dnsRecordKind.deleteIf (isStale gateway) o).bind dnsRecordKind.deleted)
    (hkept : ∀ v, o = some v → dnsRecordKind.marked v = true → dnsRecordKind.finalizers v ≠ [])
    (hkept' : ∀ v, dnsRecordKind.deleteIf (isStale gateway) o = some v →
      dnsRecordKind.marked v = true → dnsRecordKind.finalizers v ≠ []) :
    dnsRecordKind.own gateway.key o' = dnsRecordKind.own gateway.key o ↔
      NothingStale gateway o ∧ ∀ record,
        dnsRecordKind.own gateway.key (dnsRecordKind.deleteIf (isStale gateway) o) = some record →
          record.metadata.deletionTimestamp = true := by
  have hall : o'
      = dnsRecordKind.deleteIf (fun _ => true) (dnsRecordKind.deleteIf (isStale gateway) o) := hgone
  rw [hall, ← own_deleteIf_stale_iff hkept]
  constructor
  · intro h
    have hfirst := own_deleteIf_deleteIf h
    refine ⟨hfirst, fun record hown => ?_⟩
    rw [← hfirst, own_deleteIf_iff hkept'] at h
    obtain ⟨ho, hlabels⟩ := own_eq_some.1 hown
    exact h record ho hlabels rfl
  · rintro ⟨hfirst, h⟩
    rw [← hfirst, own_deleteIf_iff hkept']
    intro record ho hlabels _
    exact h record (own_eq_some.2 ⟨ho, hlabels⟩)

end

section
variable (env orders placer gateway dnsPolicy clusters)

/-- There is nothing to write for the records of the Gateway; `records` are those before the stale
    ones are removed. -/
structure RecordsSettled (records : ObjectKey → Option DNSRecord) (probes : ProbeStore) : Prop where
  stale : ∀ k, NothingStale gateway (records k)
  published : ∀ listener ∈ visited placer clusters gateway.listeners,
    PublishedAlready env orders placer gateway dnsPolicy clusters probes listener
      (dnsRecordKind.deleteIf (isStale gateway) (records (dnsRecordKey gateway listener.name)))
  withdrawn : ∀ first rest,
    gateway.listeners.dropWhile (hasRoutes placer clusters) = first :: rest → ∀ record,
      dnsRecordKind.own gateway.key (dnsRecordKind.deleteIf (isStale gateway)
        (records (dnsRecordKey gateway first.name))) = some record →
      record.metadata.deletionTimestamp = true

end

/-- A reconcile of the Gateway's records leaves them as they are exactly if there is nothing to
    write. -/
theorem records_untouched_iff {w w' : Served DnsHub}
    (h : reconcileGatewayDNSRecords env suffixes orders placer gateway dnsPolicy w = (.ok (), w'))
    (hclusters : placer.getPlacedClusters = .ok clusters)
    (hnames : (gateway.listeners.map (·.name)).Nodup) :
    (∀ k, dnsRecordKind.own gateway.key (w'.state.records.get k)
      = dnsRecordKind.own gateway.key (w.state.records.get k)) ↔
    RecordsSettled env orders placer gateway dnsPolicy clusters w.state.records.get w.state.probes := by
  unfold reconcileGatewayDNSRecords at h
  obtain ⟨_, w₁, hremove, hloop⟩ := Effect.bind_eq_ok.1 h
  rw [hclusters] at hloop
  have hremoved := triple_removeDNSForDeletedListeners.of_ok rfl hremove
  have hget (k : ObjectKey) : w₁.state.records.get k
      = dnsRecordKind.deleteIf (isStale gateway) (w.state.records.get k) := hremoved.get k
  have hprobes : w₁.state.probes = w.state.probes := by
    obtain ⟨records, hset, -⟩ := hremoved
    rw [hset]
    rfl
  have hkept (k : ObjectKey) : ∀ v, w.state.records.get k = some v →
      dnsRecordKind.marked v = true → dnsRecordKind.finalizers v ≠ [] :=
    fun v hv hmarked => Objects.finalizers_ne_nil hv hmarked
  have hkept' (k : ObjectKey) : ∀ v,
      dnsRecordKind.deleteIf (isStale gateway) (w.state.records.get k) = some v →
      dnsRecordKind.marked v = true → dnsRecordKind.finalizers v ≠ [] :=
    fun v hv hmarked => Objects.finalizers_ne_nil ((hget k).trans hv) hmarked
  have hset {listener : Listener} (hl : listener ∈ visited placer clusters gateway.listeners) :
      SetFor env orders placer gateway dnsPolicy clusters w.state.probes listener
        (dnsRecordKind.deleteIf (isStale gateway)
          (w.state.records.get (dnsRecordKey gateway listener.name)))
        (w'.state.records.get (dnsRecordKey gateway listener.name)) := by
    rw [← hget, ← hprobes]
    exact reconcileListeners_visited hloop hnames hl
  have hmem {listener : Listener} (hl : listener ∈ visited placer clusters gateway.listeners) :
      listener ∈ gateway.listeners := (List.takeWhile_sublist _).subset hl
  have hgone {first : Listener} {rest : List Listener}
      (hdrop : gateway.listeners.dropWhile (hasRoutes placer clusters) = first :: rest) :
      w'.state.records.get (dnsRecordKey gateway first.name)
        = (dnsRecordKind.deleteIf (isStale gateway)
            (w.state.records.get (dnsRecordKey gateway first.name))).bind dnsRecordKind.deleted := by
    rw [← hget]
    exact reconcileListeners_first hloop hdrop hnames
  -- every key is that of a published listener, that of the last one, or left alone by the loop
  have hcases (k : ObjectKey) : (∃ listener ∈ visited placer clusters gateway.listeners,
      k = dnsRecordKey gateway listener.name) ∨
      (∃ first rest, gateway.listeners.dropWhile (hasRoutes placer clusters) = first :: rest ∧
        k = dnsRecordKey gateway first.name) ∨
      w'.state.records.get k
        = dnsRecordKind.deleteIf (isStale gateway) (w.state.records.get k) := by
    by_cases hvisited : ∃ listener ∈ visited placer clusters gateway.listeners,
        k = dnsRecordKey gateway listener.name
    · exact Or.inl hvisited
    · by_cases hfirst : ∃ first rest,
          gateway.listeners.dropWhile (hasRoutes placer clusters) = first :: rest ∧
          k = dnsRecordKey gateway first.name
      · exact Or.inr (Or.inl hfirst)
      · push Not at hvisited hfirst
        rw [← hget]
        exact Or.inr (Or.inr (reconcileListeners_other hloop hnames hvisited hfirst))
  constructor
  · intro hsame
    refine ⟨fun k => ?_,
      fun listener hl => ((own_published_iff (hmem hl) (hset hl)).1 (hsame _)).2,
      fun first rest hdrop => ((own_withdrawn_iff (hgone hdrop) (hkept _) (hkept' _)).1 (hsame _)).2⟩
    rcases hcases k with ⟨listener, hl, rfl⟩ | ⟨first, rest, hdrop, rfl⟩ | hother
    · exact ((own_published_iff (hmem hl) (hset hl)).1 (hsame _)).1
    · exact ((own_withdrawn_iff (hgone hdrop) (hkept _) (hkept' _)).1 (hsame _)).1
    · rw [← own_deleteIf_stale_iff (hkept k), ← hother]
      exact hsame k
  · rintro ⟨hstale, hpublished, hwithdrawn⟩ k
    rcases hcases k with ⟨listener, hl, rfl⟩ | ⟨first, rest, hdrop, rfl⟩ | hother
    · exact (own_published_iff (hmem hl) (hset hl)).2 ⟨hstale _, hpublished listener hl⟩
    · exact (own_withdrawn_iff (hgone hdrop) (hkept _) (hkept' _)).2
        ⟨hstale _, hwithdrawn first rest hdrop⟩
    · rw [hother]
      exact (own_deleteIf_stale_iff (hkept k)).2 (hstale k)

/-! ## Probes -/

section
variable {gwKey : ObjectKey} {expectedProbes : List DNSHealthCheckProbe}
  {o : Option DNSHealthCheckProbe} {k : ObjectKey}

/-- What `createOrUpdateProbe` leaves under a key. -/
def upsertsAt (hcProbe : DNSHealthCheckProbe) (k : ObjectKey) (o : Option DNSHealthCheckProbe) :
    Option DNSHealthCheckProbe :=
  if k = hcProbe.metadata.key then
    some { o.getD hcProbe with spec := hcProbe.spec }
  else o

theorem triple_createOrUpdateProbe {hcProbe : DNSHealthCheckProbe}
    (hlive : hcProbe.metadata.deletionTimestamp = false) :
    Api.Triple (fun s => s = hub) (createOrUpdateProbe hcProbe)
      (fun _ => Api.Altered probesPart (upsertsAt hcProbe) hub) (fun _ _ => True) := by
  have hmarked : probeKind.marked hcProbe = false := hlive
  refine Api.triple_get.attempt_bind (fun p => ?_) fun e => ?_
  · refine Api.triple_update.mono (fun _ h => h) ?_ fun _ _ _ => trivial
    rintro _ _ ⟨s, ⟨rfl, hget⟩, -, rfl⟩
    refine ⟨_, rfl, fun k => ?_⟩
    rw [Objects.get_put_same_meta { p with spec := hcProbe.spec } hget rfl, upsertsAt]
    split
    · rename_i hk
      rw [hk, hget]
      rfl
    · rfl
  · show Api.Triple _ (if e.kind = .notFound then Api.create probesPart hcProbe
      else Effect.fail e) _ _
    split
    · refine (Api.triple_create hmarked).mono (fun _ h => h) ?_ fun _ _ _ => trivial
      rintro _ _ ⟨s, ⟨rfl, -⟩, hfree, rfl⟩
      refine ⟨_, rfl, fun k => ?_⟩
      rw [upsertsAt]
      split
      · rename_i hk
        subst hk
        rw [show (probesPart.get s).get hcProbe.metadata.key = none from hfree]
        exact Objects.get_put_self rfl fun h => (nomatch hmarked.symm.trans h)
      · rename_i hk
        exact Objects.get_put_of_ne hk
    · exact Effect.Spec.fail fun _ _ => trivial

/-- What `createOrUpdateProbes` leaves under a key. -/
def upserted (expectedProbes : List DNSHealthCheckProbe) (k : ObjectKey)
    (o : Option DNSHealthCheckProbe) : Option DNSHealthCheckProbe :=
  expectedProbes.foldl (fun o hcProbe => upsertsAt hcProbe k o) o

theorem triple_createOrUpdateProbes
    (hlive : ∀ e ∈ expectedProbes, e.metadata.deletionTimestamp = false) :
    Api.Triple (fun s => s = hub) (createOrUpdateProbes expectedProbes)
      (fun _ => Api.Altered probesPart (upserted expectedProbes) hub) (fun _ _ => True) := by
  induction expectedProbes generalizing hub with
  | nil =>
      refine Effect.Spec.pure ?_
      rintro s rfl
      exact Api.Altered.refl s
  | cons e rest ih =>
      refine (triple_createOrUpdateProbe (hlive e List.mem_cons_self)).bind (fun _ _ _ => trivial)
        fun _ => ?_
      intro w hw
      refine (@ih w.state fun e' he' => hlive e' (List.mem_cons_of_mem e he')).mono (fun _ h => h) ?_
        (fun _ _ h => h) w rfl
      exact fun _ s hs => hw.trans hs

/-- The last of the expected probes with a key, whose spec the loop leaves there. -/
def lastExpected (expectedProbes : List DNSHealthCheckProbe) (k : ObjectKey) :
    Option DNSHealthCheckProbe :=
  (expectedProbes.filter (fun e => e.metadata.key = k)).getLast?

/-- A probe that was there keeps all but its spec. -/
theorem upserted_some (p : DNSHealthCheckProbe) : upserted expectedProbes k (some p)
    = some { p with spec := ((lastExpected expectedProbes k).map (·.spec)).getD p.spec } := by
  unfold upserted lastExpected
  induction expectedProbes using List.reverseRecOn with
  | nil => rfl
  | append_singleton rest e ih =>
      rw [List.foldl_append, ih, List.filter_append]
      show upsertsAt e k _ = _
      unfold upsertsAt
      by_cases hk : k = e.metadata.key
      · subst hk
        simp
      · rw [if_neg hk]
        simp [Ne.symm hk]

theorem lastExpected_eq_none :
    lastExpected expectedProbes k = none ↔ ∀ e ∈ expectedProbes, e.metadata.key ≠ k := by
  simp [lastExpected]

theorem mem_of_lastExpected {e : DNSHealthCheckProbe} (h : lastExpected expectedProbes k = some e) :
    e ∈ expectedProbes ∧ e.metadata.key = k := by
  have hmem := List.mem_filter.1 (List.mem_of_getLast? h)
  exact ⟨hmem.1, of_decide_eq_true hmem.2⟩

/-- Keys of no expected probe are left alone. -/
theorem upserted_of_none (h : lastExpected expectedProbes k = none) :
    upserted expectedProbes k o = o := by
  rw [lastExpected_eq_none] at h
  induction expectedProbes with
  | nil => rfl
  | cons e rest ih =>
      have hround : upserted (e :: rest) k o = upserted rest k o := by
        unfold upserted
        rw [List.foldl_cons, upsertsAt, if_neg (h e List.mem_cons_self).symm]
      rw [hround]
      exact ih fun e' he' => h e' (List.mem_cons_of_mem e he')

/-- A new probe is one of the expected ones, but for its spec. -/
theorem upserted_none (h : ∃ e ∈ expectedProbes, e.metadata.key = k) :
    ∃ e ∈ expectedProbes, ∃ spec, upserted expectedProbes k none = some { e with spec := spec } := by
  induction expectedProbes with
  | nil =>
      obtain ⟨e, he, -⟩ := h
      cases he
  | cons e rest ih =>
      by_cases hk : k = e.metadata.key
      · have hround : upserted (e :: rest) k none = upserted rest k (some e) := by
          unfold upserted
          rw [List.foldl_cons, upsertsAt, if_pos hk]
          rfl
        rw [hround, upserted_some]
        exact ⟨e, List.mem_cons_self, _, rfl⟩
      · have hround : upserted (e :: rest) k none = upserted rest k none := by
          unfold upserted
          rw [List.foldl_cons, upsertsAt, if_neg hk]
        obtain ⟨e', he', hkey⟩ := h
        have hrest : e' ∈ rest := by
          rcases List.mem_cons.1 he' with rfl | hrest
          · exact absurd hkey.symm hk
          · exact hrest
        obtain ⟨e₁, he₁, hspec⟩ := ih ⟨e', hrest, hkey⟩
        rw [hround]
        exact ⟨e₁, List.mem_cons_of_mem e he₁, hspec⟩

/-- What `deleteUnexpectedGatewayProbes` deletes. -/
def isUnexpected (expectedProbes : List DNSHealthCheckProbe) (gateway : Gateway)
    (dnsPolicy : DNSPolicy) (p : DNSHealthCheckProbe) : Bool :=
  p.metadata.labels.matches (commonDNSRecordLabels gateway.key dnsPolicy.key) &&
    !(expectedProbes.any (fun expected => expected.metadata.name == p.metadata.name &&
      expected.metadata.ns == p.metadata.ns))

theorem triple_deleteUnexpectedGatewayProbes :
    Api.Triple (fun s => s = hub) (deleteUnexpectedGatewayProbes expectedProbes gateway dnsPolicy)
      (fun _ => Api.Altered probesPart
        (fun _ => probeKind.deleteIf (isUnexpected expectedProbes gateway dnsPolicy)) hub)
      (fun _ _ => True) :=
  Api.triple_list_delete (fun _ _ => Api.triple_delete_altered.mono (fun _ h => h) (fun _ _ h => h)
    fun _ _ _ => trivial) hub

theorem isUnexpected_of_key {e p : DNSHealthCheckProbe} (he : e ∈ expectedProbes)
    (hkey : e.metadata.key = p.metadata.key) :
    isUnexpected expectedProbes gateway dnsPolicy p = false := by
  have hany : (expectedProbes.any fun expected => expected.metadata.name == p.metadata.name &&
      expected.metadata.ns == p.metadata.ns) = true := by
    refine List.any_eq_true.2 ⟨e, he, ?_⟩
    rw [Bool.and_eq_true, beq_iff_eq, beq_iff_eq]
    exact ⟨congrArg ObjectKey.name hkey, congrArg ObjectKey.ns hkey⟩
  unfold isUnexpected
  rw [hany]
  simp

/-- There is nothing to write for the probe under a key: the one that is expected there has its
    spec, and one that is not expected is being deleted. -/
structure ProbeSettled (expectedProbes : List DNSHealthCheckProbe) (gateway : Gateway)
    (dnsPolicy : DNSPolicy) (k : ObjectKey) (o : Option DNSHealthCheckProbe) : Prop where
  expected : ∀ e, lastExpected expectedProbes k = some e → ∃ p, o = some p ∧
    (ofGateway gateway.key p.metadata.labels = true → p.spec = e.spec)
  unexpected : ∀ p, o = some p → isUnexpected expectedProbes gateway dnsPolicy p = true →
    p.metadata.deletionTimestamp = true

/-- The probe under a key is left as it is exactly if there is nothing to write. -/
theorem own_probe_iff (hown : ∀ e ∈ expectedProbes, ofGateway gateway.key e.metadata.labels = true)
    (hkey : ∀ p, o = some p → p.metadata.key = k)
    (hkept : ∀ p, o = some p → probeKind.marked p = true → probeKind.finalizers p ≠ []) :
    probeKind.own gateway.key (probeKind.deleteIf (isUnexpected expectedProbes gateway dnsPolicy)
        (upserted expectedProbes k o)) = probeKind.own gateway.key o ↔
      ProbeSettled expectedProbes gateway dnsPolicy k o := by
  cases hlast : lastExpected expectedProbes k with
  | none =>
      rw [upserted_of_none hlast, own_deleteIf_iff hkept]
      constructor
      · intro h
        refine ⟨fun e he => (nomatch hlast.symm.trans he), fun p hp hun => ?_⟩
        have hmatches := (Bool.and_eq_true _ _ ▸ hun).1
        exact h p hp ((ofGateway_of_matches hmatches).2 rfl) hun
      · intro h p hp _ hun
        exact h.unexpected p hp hun
  | some e =>
      obtain ⟨he, hek⟩ := mem_of_lastExpected hlast
      cases o with
      | none =>
          obtain ⟨e₁, he₁, spec, hnew⟩ := upserted_none ⟨e, he, hek⟩
          rw [hnew, Kind.deleteIf_of_false
            (isUnexpected_of_key (p := { e₁ with spec := spec }) he₁ rfl)]
          constructor
          · intro h
            have hown₁ := @own_of_true _ probeKind _ { e₁ with spec := spec } (hown e₁ he₁)
            cases hown₁.symm.trans h
          · intro h
            obtain ⟨p, hp, -⟩ := h.expected e hlast
            cases hp
      | some p =>
          have hpk := hkey p rfl
          have hspec : upserted expectedProbes k (some p) = some { p with spec := e.spec } := by
            rw [upserted_some, hlast]
            rfl
          have hexpected : isUnexpected expectedProbes gateway dnsPolicy p = false :=
            isUnexpected_of_key he (hek.trans hpk.symm)
          rw [hspec, Kind.deleteIf_of_false
            (isUnexpected_of_key (p := { p with spec := e.spec }) he (hek.trans hpk.symm))]
          cases hp : ofGateway gateway.key p.metadata.labels with
          | true =>
              rw [@own_of_true _ probeKind _ p hp,
                @own_of_true _ probeKind _ { p with spec := e.spec } hp]
              constructor
              · intro h
                have hsame := congrArg DNSHealthCheckProbe.spec (Option.some.inj h)
                refine ⟨fun e' he' => ⟨p, rfl, fun _ => ?_⟩, fun p' hp' hun => ?_⟩
                · cases hlast.symm.trans he'
                  exact hsame.symm
                · cases hp'
                  cases hexpected.symm.trans hun
              · intro h
                obtain ⟨p', hp', hsame⟩ := h.expected e hlast
                cases hp'
                rw [← hsame hp]
          | false =>
              rw [@own_of_false _ probeKind _ p hp,
                @own_of_false _ probeKind _ { p with spec := e.spec } hp]
              refine ⟨fun _ => ⟨fun e' he' => ⟨p, rfl, fun hp' => ?_⟩, fun p' hp' hun => ?_⟩,
                fun _ => rfl⟩
              · cases hp.symm.trans hp'
              · cases hp'
                cases hexpected.symm.trans hun

end

/-- An expected probe is one of the Gateway. -/
theorem mem_expectedListenerProbes {healthCheck : HealthCheckSpec} {address : String}
    {listeners : List Listener} {probes : List DNSHealthCheckProbe} {e : DNSHealthCheckProbe}
    (h : expectedListenerProbes gateway dnsPolicy healthCheck address listeners = .ok probes)
    (he : e ∈ probes) :
    ∃ listener hostname, e = expectedProbe gateway dnsPolicy healthCheck address listener hostname := by
  induction listeners generalizing probes with
  | nil =>
      cases h
      cases he
  | cons listener rest ih =>
      unfold expectedListenerProbes at h
      cases hhost : listener.hostname with
      | none =>
          rw [hhost] at h
          cases h
      | some hostname =>
          rw [hhost] at h
          obtain ⟨others, hothers, hlist⟩ := Fallible.bind_eq_ok.1 h
          split at hlist
          · cases hlist
            exact ih hothers he
          · cases hlist
            rcases List.mem_cons.1 he with rfl | he
            · exact ⟨listener, hostname, rfl⟩
            · exact ih hothers he

theorem mem_expectedAddressProbes {healthCheck : HealthCheckSpec} {addresses : List GatewayAddress}
    {healthChecks probes : List DNSHealthCheckProbe} {e : DNSHealthCheckProbe}
    (h : expectedAddressProbes gateway dnsPolicy healthCheck healthChecks addresses = .ok probes)
    (he : e ∈ probes) :
    e ∈ healthChecks ∨ ∃ address listener hostname,
      e = expectedProbe gateway dnsPolicy healthCheck address listener hostname := by
  induction addresses generalizing healthChecks with
  | nil =>
      cases h
      exact Or.inl he
  | cons address rest ih =>
      unfold expectedAddressProbes at h
      split at h
      · obtain ⟨listed, hlisted, hrest⟩ := Fallible.bind_eq_ok.1 h
        rcases ih hrest with hmem | hexpected
        · rcases List.mem_append.1 hmem with hmem | hmem
          · exact Or.inl hmem
          · obtain ⟨listener, hostname, heq⟩ := mem_expectedListenerProbes hlisted hmem
            exact Or.inr ⟨_, listener, hostname, heq⟩
        · exact Or.inr hexpected
      · cases h
        cases he

theorem mem_expectedProbesForGateway {probes : List DNSHealthCheckProbe} {e : DNSHealthCheckProbe}
    (h : expectedProbesForGateway gateway dnsPolicy = .ok probes) (he : e ∈ probes) :
    ∃ healthCheck address listener hostname,
      e = expectedProbe gateway dnsPolicy healthCheck address listener hostname := by
  unfold expectedProbesForGateway at h
  split at h
  · cases h
    cases he
  · rcases mem_expectedAddressProbes h he with hmem | ⟨address, listener, hostname, heq⟩
    · cases hmem
    · exact ⟨_, address, listener, hostname, heq⟩

/-- A reconcile of the Gateway's probes leaves them as they are exactly if there is nothing to
    write, and leaves all else. -/
theorem probes_untouched_iff {expectedProbes : List DNSHealthCheckProbe} {w w' : Served DnsHub}
    (h : reconcileGatewayProbes gateway dnsPolicy w = (.ok (), w'))
    (hexpected : expectedProbesForGateway gateway dnsPolicy = .ok expectedProbes) :
    w'.state.records = w.state.records ∧
    ((∀ k, probeKind.own gateway.key (w'.state.probes.get k)
      = probeKind.own gateway.key (w.state.probes.get k)) ↔
    ∀ k, ProbeSettled expectedProbes gateway dnsPolicy k (w.state.probes.get k)) := by
  have hlive : ∀ e ∈ expectedProbes, e.metadata.deletionTimestamp = false := by
    intro e he
    obtain ⟨healthCheck, address, listener, hostname, rfl⟩ :=
      mem_expectedProbesForGateway hexpected he
    rfl
  have hown : ∀ e ∈ expectedProbes, ofGateway gateway.key e.metadata.labels = true := by
    intro e he
    obtain ⟨healthCheck, address, listener, hostname, rfl⟩ :=
      mem_expectedProbesForGateway hexpected he
    exact ofGateway_iff.2 ⟨rfl, rfl⟩
  unfold reconcileGatewayProbes at h
  rw [hexpected] at h
  obtain ⟨_, w₁, hupsert, hdelete⟩ := Effect.bind_eq_ok.1 h
  have hupserted := (triple_mapError (triple_createOrUpdateProbes hlive) _).of_ok rfl hupsert
  have hdeleted := (triple_mapError triple_deleteUnexpectedGatewayProbes _).of_ok rfl hdelete
  have hboth := hupserted.trans hdeleted
  constructor
  · obtain ⟨probes, hset, -⟩ := hboth
    rw [hset]
    rfl
  · have hget (k : ObjectKey) : w'.state.probes.get k
        = probeKind.deleteIf (isUnexpected expectedProbes gateway dnsPolicy)
            (upserted expectedProbes k (w.state.probes.get k)) := hboth.get k
    refine forall_congr' fun k => ?_
    rw [hget]
    exact own_probe_iff hown (fun p hp => Objects.key_of_get hp)
      fun p hp hmarked => Objects.finalizers_ne_nil hp hmarked

end MultiClusterGateway
