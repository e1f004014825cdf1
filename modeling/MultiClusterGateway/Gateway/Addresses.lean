import MultiClusterGateway.Gateway.Reconcile

set_option autoImplicit false

/-! # The addresses in the status of a Gateway

A reconcile asks every cluster for its addresses and is to write all of them, in the order of the
clusters, or none. Three things go wrong. The loop stops at the first cluster that fails, but its
error is lost, and what was collected so far is written. When the placed clusters cannot be listed,
those that `Place` returned are asked instead, in the order of a map. And for a Gateway without
listeners no cluster is asked, and the empty list is written.

What the placer answers is given with the reconcile (`Answers`): which clusters the Gateway is placed
on, and what each of them reports, are inputs of the controller. So is the fault of each call that
the controller makes itself. -/

namespace MultiClusterGateway.GatewayController

open Placement

/-! ## What should be written -/

/-- The form of an address in the status of the Gateway, if it has one. -/
def multiClusterAddress (cluster : String) (address : FeedbackAddress) : Option GatewayAddress :=
  match address.type with
  | some .ipAddress => some ⟨multiClusterIPAddressType, cluster ++ "/" ++ address.value⟩
  | some .hostname => some ⟨multiClusterHostnameAddressType, cluster ++ "/" ++ address.value⟩
  | _ => none

/-- The call returns, with a value or an error: it does not panic. -/
def Returns {α : Type} (answer : Except ApiError α) : Prop :=
  ∀ e, answer = .error e → e.kind ≠ .panic

/-- What the calls of the placer return in one reconcile. -/
structure Answers where
  place : Except ApiError (List String)
  getPlacedClusters : Except ApiError (List String)
  getAddresses : String → Except ApiError (List FeedbackAddress)
  listenerTotalAttachedRoutes : String → String → Except ApiError Int
  place_returns : Returns place
  getPlacedClusters_returns : Returns getPlacedClusters
  getAddresses_returns : ∀ cluster, Returns (getAddresses cluster)
  listenerTotalAttachedRoutes_returns : ∀ listener cluster,
    Returns (listenerTotalAttachedRoutes listener cluster)

/-- A call that only returns an answer. -/
def answering {α : Type} (answer : Except ApiError α) : Api Hub α := fun w => (answer, w)

namespace Answers

variable (answers : Answers)

/-- The placer with these answers. -/
def placer : Placer where
  place _ := answering answers.place
  getPlacedClusters _ := answering answers.getPlacedClusters
  getAddresses _ cluster := answering (answers.getAddresses cluster)
  listenerTotalAttachedRoutes _ listener cluster :=
    answering (answers.listenerTotalAttachedRoutes listener cluster)

/-- The clusters that the Gateway is placed on, in order. If they cannot be listed, they are those
    that `Place` has returned. -/
def placed : List String :=
  match answers.getPlacedClusters, answers.place with
  | .ok placed, _ => placed.insertionSort (· ≤ ·)
  | .error _, .ok targets => targets.insertionSort (· ≤ ·)
  | .error _, .error _ => []

/-- `GetAddresses` succeeds for the cluster. -/
def answered (cluster : String) : Bool :=
  match answers.getAddresses cluster with
  | .ok _ => true
  | .error _ => false

/-- The addresses that the cluster reports. -/
def reported (cluster : String) : List FeedbackAddress :=
  match answers.getAddresses cluster with
  | .ok addresses => addresses
  | .error _ => []

/-- The forms of all addresses of the clusters, in their order. -/
def addresses (clusters : List String) : List GatewayAddress :=
  clusters.flatMap (fun cluster => (answers.reported cluster).filterMap (multiClusterAddress cluster))

/-- The clusters before the first one that does not answer. -/
def beforeFailure (clusters : List String) : List String := clusters.takeWhile answers.answered

/-- No address is reported without a type, which the controller would dereference. -/
def Typed (clusters : List String) : Prop :=
  ∀ cluster ∈ clusters, ∀ address ∈ answers.reported cluster, address.type ≠ none

/-- The clusters that are asked for their addresses once the Gateway is handed to the placer, if the
    reconcile comes to that: it does not if `Place` fails or the annotation has to be updated. -/
def asked (input : Input) (gw : GatewayObject) : Option (List String) :=
  if gw.spec.listeners = [] then some []
  else
    match answers.place, answers.getPlacedClusters with
    | .error _, _ => none
    | .ok targets, .error _ => some (input.targets.visit targets)
    | .ok _, .ok placed =>
      if withClusters gw (placed.insertionSort (· ≤ ·)) = gw then
        some (placed.insertionSort (· ≤ ·))
      else none

end Answers

/-- The Gateway is to be placed: it has the finalizer and is accepted, and its class is valid. -/
def Placeable (input : Input) (gw : GatewayObject) : Prop :=
  gatewayFinalizer ∈ gw.metadata.finalizers ∧ isAccepted gw = true ∧
    ∃ downstreamClass, input.params = .found downstreamClass

/-- The secrets that the listeners refer to are there. -/
def SecretsFound (hub : Hub) (gw : GatewayObject) : Prop :=
  ∀ ref ∈ tlsRefs gw, hub.secrets.get ⟨ref.2.ns.getD gw.metadata.ns, ref.2.name⟩ ≠ none

/-- The next `n` calls are served. -/
def NextServed (n : Nat) (faults : List (Option Fault)) : Prop := ∀ fault ∈ faults.take n, fault = none

/-- The addresses in the status of a Gateway. -/
def addressesAt (key : ObjectKey) (hub : Hub) : Option (List GatewayAddress) :=
  (hub.gateways.get key).map (·.status.addresses)

/-- The reconcile leaves the addresses as they are, or every placed cluster answers and it writes
    exactly what they report, in the order of the clusters. -/
def AllOrNothing (answers : Answers) (input : Input) (key : ObjectKey) (w : Served Hub) : Prop :=
  addressesAt key (reconcile answers.placer input key w).2.state = addressesAt key w.state ∨
    (∀ cluster ∈ answers.placed, answers.answered cluster = true) ∧
      addressesAt key (reconcile answers.placer input key w).2.state
        = some (answers.addresses answers.placed)

/-! ## Up to the address phase -/

section

variable {answers : Answers} {input : Input} {key : ObjectKey} {hub : Hub} {gw : GatewayObject}

theorem keeps_answering {α : Type} (answer : Except ApiError α) :
    Api.Keeps Hub.gateways (answering answer) := fun _ => rfl

theorem keeps_collectSecrets (ns downstreamNS : String)
    (refs : List (String × SecretObjectReference)) :
    Api.Keeps Hub.gateways (collectSecrets ns downstreamNS refs) := by
  induction refs with
  | nil => exact Api.keeps_pure _
  | cons entry rest ih =>
      refine (Api.keeps_read _).outcome_bind fun r => ?_
      cases r with
      | ok s => exact ih.bind fun _ => Api.keeps_pure _
      | error e => exact ih.bind fun _ => Api.keeps_pure _

theorem keeps_prepareBundle (params : Option String) (gw : GatewayObject) :
    Api.Keeps Hub.gateways (prepareBundle params gw) := by
  unfold prepareBundle
  split
  · exact Api.keeps_pure _
  · refine (keeps_collectSecrets _ _ _).bind fun found => ?_
    dsimp only
    split
    · exact Api.keeps_pure _
    · exact Api.keeps_pure _

theorem keeps_reconcileDownstream (params : Option String) (gw : GatewayObject) :
    Api.Keeps Hub.gateways (reconcileDownstream answers.placer input params gw) := by
  unfold reconcileDownstream
  split
  · refine (keeps_answering answers.place).outcome_bind fun r => ?_
    cases r with
    | ok targets => exact Api.keeps_pure _
    | error e => exact Api.keeps_pure _
  · refine (keeps_prepareBundle params gw).bind fun bundle => ?_
    cases bundle with
    | inl result => exact Api.keeps_pure _
    | inr bundle =>
        refine (keeps_answering answers.place).outcome_bind fun r => ?_
        cases r with
        | error e => exact Api.keeps_pure _
        | ok targets =>
            refine (keeps_answering answers.getPlacedClusters).outcome_bind fun r => ?_
            cases r with
            | error e => exact Api.keeps_pure _
            | ok placed =>
                dsimp only
                split
                · exact Api.keeps_pure _
                · exact Api.keeps_pure _

/-- Writing a Gateway with the addresses it has. -/
theorem triple_update_addresses {v : GatewayObject} (hkey : v.metadata.key = key)
    (hlive : v.metadata.deletionTimestamp = false) :
    Api.Triple (fun s => addressesAt key s = some v.status.addresses) (Api.update gatewaysPart v)
      (fun _ s => addressesAt key s = some v.status.addresses)
      (fun _ s => addressesAt key s = some v.status.addresses) := by
  refine Api.triple_update.mono (fun _ h => h) ?_ fun _ _ h => h
  rintro _ _ ⟨s, hs, -, rfl⟩
  have hwritten : (s.gateways.put v).get key = some v := Objects.get_put_live hkey hlive
  show ((s.gateways.put v).get key).map _ = _
  rw [hwritten]
  rfl

/-- Writing a status. -/
theorem triple_updateStatus {v : GatewayObject} (hkey : v.metadata.key = key)
    (hget : hub.gateways.get key = some gw) (hlive : gw.metadata.deletionTimestamp = false) :
    Api.Triple (fun s => s.gateways = hub.gateways) (updateStatus v)
      (fun _ s => addressesAt key s = some v.status.addresses)
      (fun _ s => s.gateways = hub.gateways) := by
  refine Api.triple_write.mono (fun _ h => h) ?_ fun _ _ h => h.1
  rintro _ _ ⟨s, gateways, hs, hwrite, rfl⟩
  have hstored : (gatewaysPart.get s).get v.metadata.key = some gw := by
    rw [hkey, ← hget, ← hs]
    rfl
  rw [hstored] at hwrite
  cases hwrite
  have hgwKey : gatewayKind.key gw = key := Objects.key_of_get hget
  have hwritten : (s.gateways.put { gw with status := v.status }).get key
      = some { gw with status := v.status } := Objects.get_put_live hgwKey hlive
  show ((s.gateways.put { gw with status := v.status }).get key).map _ = _
  rw [hwritten]
  rfl

theorem withClusters_eq (gw : GatewayObject) (clusters : List String) :
    ∃ annotations, withClusters gw clusters =
      { gw with metadata := { gw.metadata with annotations := annotations } } := by
  unfold withClusters
  split
  · exact ⟨gw.metadata.annotations, rfl⟩
  · exact ⟨_, rfl⟩

variable (key gw) in
/-- What is left when the reconcile ends before the address phase, and when it comes to it. -/
def Before (hub : Hub) : Result ⊕ Phase → Hub → Prop
  | .inl _, s => addressesAt key s = some gw.status.addresses
  | .inr phase, s => s.gateways = hub.gateways ∧ phase.previous = gw ∧
      phase.upstream.metadata.key = key

/-- A reconcile that ends with a write before the address phase. -/
theorem triple_ended {P E : Hub → Prop} {x : Api Hub Unit} (result : Result)
    (hx : Api.Triple P x (fun _ s => addressesAt key s = some gw.status.addresses) (fun _ => E)) :
    Api.Triple P (do x; return Sum.inl result) (Before key gw hub) (fun _ => E) :=
  hx.bind (fun _ _ h => h) fun _ => fun _ h => h

/-- The reconcile before the address phase leaves the addresses alone. -/
theorem triple_reconcilePlacement (hget : hub.gateways.get key = some gw)
    (hlive : gw.metadata.deletionTimestamp = false) :
    Api.Triple (fun s => s.gateways = hub.gateways) (reconcilePlacement answers.placer input gw)
      (Before key gw hub) (fun _ s => addressesAt key s = some gw.status.addresses) := by
  have hkey : gw.metadata.key = key := Objects.key_of_get hget
  have hsame {s : Hub} (hs : s.gateways = hub.gateways) :
      addressesAt key s = some gw.status.addresses := by
    unfold addressesAt
    rw [hs, hget]
    rfl
  have hkept {v : GatewayObject} (hv : v.metadata.key = key)
      (haddresses : v.status.addresses = gw.status.addresses) :
      Api.Triple (fun s => s.gateways = hub.gateways) (updateStatus v)
        (fun _ s => addressesAt key s = some gw.status.addresses)
        (fun _ s => addressesAt key s = some gw.status.addresses) :=
    (triple_updateStatus hv hget hlive).mono (fun _ h => h) (fun _ _ h => haddresses ▸ h)
      fun _ _ h => hsame h
  unfold reconcilePlacement
  split
  · -- the finalizer is added
    refine Effect.Spec.attempt_bind ((triple_update_addresses ?_ ?_).mono (fun _ h => hsame h)
      (fun _ _ h => h) fun _ _ h => h) (fun _ => Effect.Spec.pure fun _ h => h)
      fun _ => Effect.Spec.fail fun _ h => h
    · exact hkey
    · exact hlive
  · split
    · -- the parameters are invalid
      dsimp only
      split
      · exact triple_ended {} (hkept hkey rfl)
      · exact Effect.Spec.pure fun _ h => hsame h
    · exact Effect.Spec.fail fun _ h => hsame h
    · split
      · -- the Gateway is accepted
        exact triple_ended {} (hkept hkey rfl)
      · refine ((keeps_reconcileDownstream _ gw).triple (· = hub.gateways)).bind
          (fun _ _ h => hsame h) fun downstream => ?_
        obtain ⟨annotations, hclusters⟩ := withClusters_eq gw downstream.clusters
        unfold afterPlacement
        dsimp only
        rw [hclusters]
        split
        · split
          · split
            · exact triple_ended {} (hkept hkey rfl)
            · exact Effect.Spec.pure fun _ h => hsame h
          · exact Effect.Spec.pure fun _ h => ⟨h, rfl, hkey⟩
        · split
          · refine triple_ended {} ((triple_update_addresses ?_ ?_).mono (fun _ h => hsame h)
              (fun _ _ h => h) fun _ _ h => h)
            · exact hkey
            · exact hlive
          · exact Effect.Spec.pure fun _ h => ⟨h, rfl, hkey⟩

theorem triple_beforeAddresses (hget : hub.gateways.get key = some gw)
    (hlive : gw.metadata.deletionTimestamp = false) :
    Api.Triple (fun s => s = hub) (beforeAddresses answers.placer input key)
      (Before key gw hub)
      (fun _ s => addressesAt key s = some gw.status.addresses) := by
  have hsame : addressesAt key hub = some gw.status.addresses := by
    unfold addressesAt
    rw [hget]
    rfl
  refine Api.triple_get.attempt_bind (fun previous => ?_) fun e => ?_
  · refine Effect.Spec.mono (P := fun s => s.gateways = hub.gateways ∧ previous = gw)
      (Effect.Spec.given fun hprevious => ?_) ?_ (fun _ _ h => h) fun _ _ h => h
    · subst hprevious
      show Api.Triple _ (if previous.metadata.deletionTimestamp then _ else _) _ _
      rw [hlive, if_neg Bool.false_ne_true]
      exact triple_reconcilePlacement hget hlive
    · rintro s ⟨rfl, hprevious⟩
      exact ⟨rfl, Option.some.inj (hprevious.symm.trans hget)⟩
  · show Api.Triple _ (if e.kind = .notFound then pure (Sum.inl ({} : Result)) else Effect.fail e) _ _
    split
    · exact Effect.Spec.pure fun s hs => hs.1 ▸ hsame
    · exact Effect.Spec.fail fun s hs => hs.1 ▸ hsame

end

/-! ## Up to the address phase, with given answers -/

theorem outcome_answering {α : Type} {answer : Except ApiError α} (h : Returns answer)
    (w : Served Hub) : Api.outcome (answering answer) w = (.ok answer, w) := by
  cases answer with
  | ok a => exact Api.outcome_of_ok rfl
  | error e =>
      unfold Api.outcome
      rw [Effect.bind_apply, Effect.attempt_apply]
      show (if e.kind = .panic then Effect.fail e else pure (Except.error e)) w = _
      rw [if_neg (h e rfl)]
      rfl

section

variable (answers : Answers) (w : Served Hub)

theorem outcome_place (c : PlaceCall) :
    Api.outcome (answers.placer.place c) w = (.ok answers.place, w) :=
  outcome_answering answers.place_returns w

theorem outcome_getPlacedClusters (gw : GatewayObject) :
    Api.outcome (answers.placer.getPlacedClusters gw) w = (.ok answers.getPlacedClusters, w) :=
  outcome_answering answers.getPlacedClusters_returns w

theorem outcome_getAddresses (gw : GatewayObject) (cluster : String) :
    Api.outcome (answers.placer.getAddresses gw cluster) w
      = (.ok (answers.getAddresses cluster), w) :=
  outcome_answering (answers.getAddresses_returns cluster) w

theorem outcome_listenerTotalAttachedRoutes (gw : GatewayObject) (listener cluster : String) :
    Api.outcome (answers.placer.listenerTotalAttachedRoutes gw listener cluster) w
      = (.ok (answers.listenerTotalAttachedRoutes listener cluster), w) :=
  outcome_answering (answers.listenerTotalAttachedRoutes_returns listener cluster) w

end

theorem nextServed_succ {n : Nat} {faults : List (Option Fault)} :
    NextServed (n + 1) faults ↔ faults.head?.join = none ∧ NextServed n faults.tail := by
  unfold NextServed
  cases faults with
  | nil => simp
  | cons fault rest => simp

theorem nextServed_add_one {n : Nat} {faults : List (Option Fault)} :
    NextServed (n + 1) faults ↔ NextServed n faults ∧ (faults.drop n).head?.join = none := by
  induction n generalizing faults with
  | zero =>
      rw [nextServed_succ, List.drop_zero]
      simp [NextServed]
  | succ n ih =>
      rw [nextServed_succ, ih, nextServed_succ, List.drop_tail]
      exact (and_assoc).symm

/-- One lookup of a secret: it is not there, or the call is not served, or it is found. -/
theorem outcome_getSecret (k : ObjectKey) (w : Served Hub) :
    ∃ answer, Api.outcome (Api.get secretsPart k) w = (.ok answer, ⟨w.state, w.faults.tail⟩) ∧
      ((∃ s, answer = .ok s) ↔ w.faults.head?.join = none ∧ w.state.secrets.get k ≠ none) := by
  unfold Api.outcome
  rw [Effect.bind_apply, Effect.attempt_apply]
  unfold Api.get Api.read Api.call
  cases hfault : w.faults.head?.join with
  | some fault =>
      refine ⟨.error fault.error, ?_, by simp⟩
      show (if fault.error.kind = .panic then Effect.fail fault.error
        else pure (Except.error fault.error)) _ = _
      rw [if_neg (by unfold Fault.error; split <;> simp)]
      rfl
  | none =>
      cases hget : w.state.secrets.get k with
      | none =>
          have hfind : (secretsPart.get w.state).find k = .error (Objects.notFound k) :=
            Objects.find_eq_error.2 ⟨hget, rfl⟩
          refine ⟨.error (Objects.notFound k), ?_, by simp⟩
          simp only [hfind, Except.map]
          rfl
      | some s =>
          have hfind : (secretsPart.get w.state).find k = .ok s := Objects.find_eq_ok.2 hget
          refine ⟨.ok s, ?_, by simp⟩
          simp only [hfind, Except.map]
          rfl

/-- The loop over the references makes one call for each, and ends without an error if all secrets
    are found. -/
theorem collectSecrets_eq (ns downstreamNS : String) (refs : List (String × SecretObjectReference))
    (hub : Hub) (faults : List (Option Fault)) :
    ∃ secrets err, collectSecrets ns downstreamNS refs ⟨hub, faults⟩
        = (.ok (secrets, err), ⟨hub, faults.drop refs.length⟩) ∧
      (err = none ↔ NextServed refs.length faults ∧
        ∀ ref ∈ refs, hub.secrets.get ⟨ref.2.ns.getD ns, ref.2.name⟩ ≠ none) := by
  induction refs generalizing faults with
  | nil => exact ⟨[], none, rfl, by simp [NextServed]⟩
  | cons entry rest ih =>
      obtain ⟨listener, ref⟩ := entry
      obtain ⟨answer, hcall, hanswer⟩ := outcome_getSecret ⟨ref.ns.getD ns, ref.name⟩ ⟨hub, faults⟩
      obtain ⟨secrets, err, hrest, hserved⟩ := ih faults.tail
      rw [List.drop_tail] at hrest
      unfold collectSecrets
      rw [Effect.bind_of_ok hcall]
      rw [List.length_cons, nextServed_succ, List.forall_mem_cons]
      cases answer with
      | error e =>
          dsimp only
          rw [Effect.bind_of_ok hrest]
          refine ⟨secrets, _, rfl, ?_⟩
          constructor
          · intro h
            cases h
          · rintro ⟨⟨hhead, -⟩, hget, -⟩
            obtain ⟨s, hs⟩ := hanswer.2 ⟨hhead, hget⟩
            cases hs
      | ok s =>
          dsimp only
          rw [Effect.bind_of_ok hrest]
          obtain ⟨hhead, hget⟩ := hanswer.1 ⟨s, rfl⟩
          refine ⟨_, err, rfl, hserved.trans ?_⟩
          constructor
          · rintro ⟨htail, hfound⟩
            exact ⟨⟨hhead, htail⟩, hget, hfound⟩
          · rintro ⟨⟨-, htail⟩, -, hfound⟩
            exact ⟨htail, hfound⟩

section

variable {answers : Answers} {input : Input} {key : ObjectKey} {hub : Hub} {gw : GatewayObject}
  {faults : List (Option Fault)}

/-- The reconcile comes to the address phase from what the placement has returned. -/
def Downstream.GoesOn (gw : GatewayObject) (d : Downstream) : Prop :=
  match d.err with
  | none => withClusters gw d.clusters = gw
  | some e => e.kind ≠ .gracePeriodNotExpired ∧ d.requeue = false

theorem afterPlacement_of_goesOn {d : Downstream} (h : d.GoesOn gw) (w : Served Hub) :
    afterPlacement gw d w = (.ok (.inr ⟨gw, withClusters gw d.clusters, d⟩), w) := by
  unfold Downstream.GoesOn at h
  unfold afterPlacement
  cases herr : d.err with
  | none =>
      rw [herr] at h
      simp only [h]
      rw [if_neg (not_not.2 rfl)]
      rfl
  | some e =>
      rw [herr] at h
      simp only [h.1, h.2]
      rfl

/-- Otherwise it ends, perhaps after one more write. -/
theorem goesOn_of_afterPlacement {d : Downstream} {w w' : Served Hub} {phase : Phase}
    (h : afterPlacement gw d w = (.ok (.inr phase), w')) :
    d.GoesOn gw ∧ phase.downstream = d ∧ w' = w := by
  unfold afterPlacement at h
  unfold Downstream.GoesOn
  cases herr : d.err with
  | none =>
      rw [herr] at h
      dsimp only at h
      split at h
      · obtain ⟨-, w₁, -, hreturn⟩ := Effect.bind_eq_ok.1 h
        cases hreturn
      · rename_i hsame
        cases h
        exact ⟨not_not.1 hsame, rfl, rfl⟩
  | some e =>
      rw [herr] at h
      dsimp only at h
      split at h
      · split at h
        · obtain ⟨-, w₁, -, hreturn⟩ := Effect.bind_eq_ok.1 h
          cases hreturn
        · cases h
      · rename_i hnot
        cases h
        simp only [not_or, Bool.not_eq_true] at hnot
        exact ⟨hnot, rfl, rfl⟩

/-- With listeners, the Gateway is handed to the placer exactly if the secrets are found. -/
theorem prepareBundle_eq (params : Option String) (hlisteners : gw.spec.listeners ≠ []) :
    ∃ bundle, prepareBundle params gw ⟨hub, faults⟩
        = (.ok bundle, ⟨hub, faults.drop (tlsRefs gw).length⟩) ∧
      ((∃ e, bundle = .inl { requeue := true, status := .false, err := some e }) ∧
          ¬ (NextServed (tlsRefs gw).length faults ∧ SecretsFound hub gw) ∨
        (∃ placing, bundle = .inr placing) ∧
          NextServed (tlsRefs gw).length faults ∧ SecretsFound hub gw) := by
  obtain ⟨secrets, err, hsecrets, hserved⟩ :=
    collectSecrets_eq gw.metadata.ns (downstreamNamespace gw.metadata.ns) (tlsRefs gw) hub faults
  have hget : getTLSSecrets gw (downstreamOf gw) ⟨hub, faults⟩
      = (.ok (secrets, err), ⟨hub, faults.drop (tlsRefs gw).length⟩) := hsecrets
  unfold prepareBundle
  rw [if_neg hlisteners, Effect.bind_of_ok hget]
  cases err with
  | some e =>
      refine ⟨_, rfl, Or.inl ⟨⟨_, rfl⟩, fun h => ?_⟩⟩
      cases hserved.2 h
  | none => exact ⟨_, rfl, Or.inr ⟨⟨_, rfl⟩, hserved.1 rfl⟩⟩

/-- What the placement returns with the answers. The reconcile goes on from it exactly if the secrets
    are found and there are clusters to ask. -/
theorem reconcileDownstream_answering (params : Option String)
    (hlive : gw.metadata.deletionTimestamp = false) :
    ∃ d, reconcileDownstream answers.placer input params gw ⟨hub, faults⟩
        = (.ok d, ⟨hub, faults.drop (tlsRefs gw).length⟩) ∧
      ∀ clusters, d.GoesOn gw ∧ d.clusters = clusters ↔
        (NextServed (tlsRefs gw).length faults ∧ SecretsFound hub gw) ∧
          answers.asked input gw = some clusters := by
  unfold reconcileDownstream Answers.asked
  rw [hlive]
  simp only [Bool.false_eq_true, if_false]
  by_cases hnone : gw.spec.listeners = []
  · -- no cluster is asked
    have hrefs : tlsRefs gw = [] := by simp [tlsRefs, hnone]
    refine ⟨{ requeue := false, status := .false, err := some ⟨.other, "no managed listeners found"⟩ },
      ?_, fun clusters => ?_⟩
    · unfold prepareBundle
      simp only [hnone, hrefs]
      rfl
    · simp [Downstream.GoesOn, hrefs, NextServed, SecretsFound, hnone]
  · rw [if_neg hnone]
    obtain ⟨bundle, hbundle, ⟨⟨e, rfl⟩, hnot⟩ | ⟨⟨⟨downstream, secrets⟩, rfl⟩, hserved⟩⟩ :=
      @prepareBundle_eq hub gw faults params hnone
    · rw [Effect.bind_of_ok hbundle]
      refine ⟨_, rfl, fun clusters => ?_⟩
      simp [Downstream.GoesOn, hnot]
    · rw [Effect.bind_of_ok hbundle]
      dsimp only
      rw [Effect.bind_of_ok (outcome_place answers _ _)]
      cases hplace : answers.place with
      | error e =>
          refine ⟨_, rfl, fun clusters => ?_⟩
          simp [Downstream.GoesOn]
      | ok targets =>
          dsimp only
          rw [Effect.bind_of_ok (outcome_getPlacedClusters answers _ _)]
          cases hplaced : answers.getPlacedClusters with
          | error e =>
              refine ⟨_, rfl, fun clusters => ?_⟩
              simp [Downstream.GoesOn, ApiError.describe, hserved]
          | ok placed =>
              dsimp only
              split
              · refine ⟨_, rfl, fun clusters => ?_⟩
                simp [Downstream.GoesOn, hserved]
              · refine ⟨_, rfl, fun clusters => ?_⟩
                simp [Downstream.GoesOn, hserved]

theorem getGateway_of_served (hget : hub.gateways.get key = some gw)
    (hserved : faults.head?.join = none) :
    Api.get gatewaysPart key ⟨hub, faults⟩ = (.ok gw, ⟨hub, faults.tail⟩) := by
  have hfind : (gatewaysPart.get hub).find key = .ok gw := Objects.find_eq_ok.2 hget
  unfold Api.get Api.read
  rw [Api.call_of_served hserved]
  simp only [hfind, Except.map]

/-- A reconcile of a Gateway that is to be placed, with its own calls served, comes to the address
    phase with the clusters to ask. -/
theorem beforeAddresses_of_asked (hget : hub.gateways.get key = some gw)
    (hlive : gw.metadata.deletionTimestamp = false) (hplaceable : Placeable input gw)
    (hserved : NextServed ((tlsRefs gw).length + 1) faults) (hsecrets : SecretsFound hub gw)
    {clusters : List String} (hasked : answers.asked input gw = some clusters) :
    ∃ phase, beforeAddresses answers.placer input key ⟨hub, faults⟩
        = (.ok (.inr phase), ⟨hub, faults.drop ((tlsRefs gw).length + 1)⟩) ∧
      phase.downstream.clusters = clusters := by
  obtain ⟨hfin, haccepted, downstreamClass, hparams⟩ := hplaceable
  obtain ⟨hhead, htail⟩ := nextServed_succ.1 hserved
  obtain ⟨d, hplacement, hgoesOn⟩ := @reconcileDownstream_answering answers input hub gw
    faults.tail (some downstreamClass) hlive
  obtain ⟨hd, hclusters⟩ := (hgoesOn clusters).2 ⟨⟨htail, hsecrets⟩, hasked⟩
  refine ⟨⟨gw, withClusters gw d.clusters, d⟩, ?_, hclusters⟩
  unfold beforeAddresses
  rw [Effect.bind_apply, Effect.attempt_apply, getGateway_of_served hget hhead]
  simp only [hlive, reconcilePlacement, hfin, hparams, haccepted]
  rw [List.drop_tail] at hplacement
  simp only [not_true_eq_false, if_false, Bool.not_true, Bool.false_eq_true]
  rw [Effect.bind_of_ok hplacement]
  exact afterPlacement_of_goesOn hd _

/-- And it does so in no other case. -/
theorem asked_of_beforeAddresses (hget : hub.gateways.get key = some gw)
    (hlive : gw.metadata.deletionTimestamp = false) {phase : Phase} {w₁ : Served Hub}
    (h : beforeAddresses answers.placer input key ⟨hub, faults⟩ = (.ok (.inr phase), w₁)) :
    Placeable input gw ∧ NextServed ((tlsRefs gw).length + 1) faults ∧ SecretsFound hub gw ∧
      answers.asked input gw = some phase.downstream.clusters ∧
      w₁ = ⟨hub, faults.drop ((tlsRefs gw).length + 1)⟩ := by
  unfold beforeAddresses at h
  rw [Effect.bind_apply, Effect.attempt_apply] at h
  cases hhead : faults.head?.join with
  | some fault =>
      have hcall : Api.get gatewaysPart key ⟨hub, faults⟩
          = (.error fault.error, ⟨hub, faults.tail⟩) := by
        unfold Api.get Api.read
        exact Api.call_of_fault hhead
      rw [hcall] at h
      simp only [fault.kind_error_ne, if_false] at h
      cases h
  | none =>
      rw [getGateway_of_served hget hhead] at h
      simp only [hlive, reconcilePlacement, Bool.false_eq_true, if_false] at h
      split at h
      · -- the finalizer is added first
        obtain ⟨answer, w₂, -, hafter⟩ := Effect.bind_eq_ok.1 h
        cases answer with
        | ok _ => cases hafter
        | error e => cases hafter
      · rename_i hfin
        cases hparams : input.params with
        | invalid message =>
          simp only [hparams] at h
          split at h
          · obtain ⟨-, w₂, -, hreturn⟩ := Effect.bind_eq_ok.1 h
            cases hreturn
          · cases h
        | failed message =>
          simp only [hparams] at h
          cases h
        | found downstreamClass =>
          simp only [hparams] at h
          split at h
          · obtain ⟨-, w₂, -, hreturn⟩ := Effect.bind_eq_ok.1 h
            cases hreturn
          · rename_i haccepted
            obtain ⟨d, hplacement, hgoesOn⟩ := @reconcileDownstream_answering answers input hub gw
              faults.tail (some downstreamClass) hlive
            rw [Effect.bind_of_ok hplacement] at h
            obtain ⟨hd, hphase, hw⟩ := goesOn_of_afterPlacement h
            obtain ⟨⟨htail, hsecrets⟩, hasked⟩ := (hgoesOn d.clusters).1 ⟨hd, rfl⟩
            rw [hphase, hw, List.drop_tail]
            exact ⟨⟨not_not.1 hfin, by simpa using haccepted, downstreamClass, hparams⟩,
              nextServed_succ.2 ⟨hhead, htail⟩, hsecrets, hasked, rfl⟩

end

/-! ## The address phase, with given answers -/

theorem clusterAddresses_eq_ok {cluster : String} {addresses : List FeedbackAddress}
    {here : List GatewayAddress} : clusterAddresses cluster addresses = .ok here ↔
      (∀ address ∈ addresses, address.type ≠ none) ∧
        here = addresses.filterMap (multiClusterAddress cluster) := by
  induction addresses generalizing here with
  | nil => simp [clusterAddresses, eq_comm]
  | cons address rest ih =>
      unfold clusterAddresses
      cases htype : address.type with
      | none => simp [htype]
      | some type =>
          cases hrest : clusterAddresses cluster rest with
          | error e =>
              -- an address further on has no type
              have hnot : ¬ ∀ address ∈ rest, address.type ≠ none := by
                intro h
                have hok : clusterAddresses cluster rest = .ok _ := ih.2 ⟨h, rfl⟩
                rw [hrest] at hok
                cases hok
              constructor
              · intro h
                cases h
              · rintro ⟨h, -⟩
                exact absurd (fun a ha => h a (List.mem_cons_of_mem _ ha)) hnot
          | ok more =>
              obtain ⟨htypes, rfl⟩ := ih.1 hrest
              have hall : ∀ a ∈ address :: rest, a.type ≠ none := by
                intro a ha
                rcases List.mem_cons.1 ha with rfl | ha
                · rw [htype]
                  exact Option.some_ne_none _
                · exact htypes a ha
              rw [and_iff_right hall]
              cases type with
              | ipAddress =>
                  simp [multiClusterAddress, htype, bind, Except.bind, pure, Except.pure, eq_comm]
              | hostname =>
                  simp [multiClusterAddress, htype, bind, Except.bind, pure, Except.pure, eq_comm]
              | other text =>
                  simp [multiClusterAddress, htype, bind, Except.bind, pure, Except.pure, eq_comm]

theorem keeps_collectAddresses (answers : Answers) (gw : GatewayObject) (clusters : List String) :
    Api.Keeps Hub.gateways (collectAddresses answers.placer gw clusters) := by
  induction clusters with
  | nil => exact Api.keeps_pure _
  | cons cluster rest ih =>
      refine (keeps_answering (answers.getAddresses cluster)).outcome_bind fun r => ?_
      cases r with
      | error e => exact Api.keeps_pure _
      | ok addresses =>
          dsimp only
          split
          · exact Api.keeps_fail _
          · exact ih.bind fun _ => Api.keeps_pure _

section

variable {answers : Answers} {input : Input} {key : ObjectKey} {hub : Hub} {gw : GatewayObject}
  {faults : List (Option Fault)} {phase : Phase} {addresses : List GatewayAddress}
  {listeners : List ListenerStatus} {w : Served Hub}

/-- The loop over the clusters collects the addresses of those before the first that fails. -/
theorem collectAddresses_eq_ok {clusters : List String} {w' : Served Hub} :
    collectAddresses answers.placer gw clusters w = (.ok addresses, w') ↔
      answers.Typed (answers.beforeFailure clusters) ∧
        addresses = answers.addresses (answers.beforeFailure clusters) ∧ w' = w := by
  induction clusters generalizing addresses w' with
  | nil =>
      simp [collectAddresses, Answers.beforeFailure, Answers.Typed, Answers.addresses, eq_comm]
  | cons cluster rest ih =>
      unfold collectAddresses
      rw [Effect.bind_of_ok (outcome_getAddresses answers w gw cluster)]
      cases hanswer : answers.getAddresses cluster with
      | error e =>
          have hbefore : answers.beforeFailure (cluster :: rest) = [] := by
            simp [Answers.beforeFailure, Answers.answered, hanswer]
          rw [hbefore]
          simp [Answers.Typed, Answers.addresses, eq_comm]
      | ok reported =>
          have hreported : answers.reported cluster = reported := by
            simp [Answers.reported, hanswer]
          have hbefore : answers.beforeFailure (cluster :: rest)
              = cluster :: answers.beforeFailure rest := by
            simp [Answers.beforeFailure, Answers.answered, hanswer]
          have htyped : answers.Typed (cluster :: answers.beforeFailure rest) ↔
              (∀ address ∈ reported, address.type ≠ none) ∧
                answers.Typed (answers.beforeFailure rest) := by
            simp [Answers.Typed, hreported]
          rw [hbefore, htyped]
          dsimp only
          cases hhere : clusterAddresses cluster reported with
          | error e =>
              constructor
              · intro h
                cases h
              · rintro ⟨⟨htypes, -⟩, -⟩
                have hok : clusterAddresses cluster reported = .ok _ :=
                  clusterAddresses_eq_ok.2 ⟨htypes, rfl⟩
                rw [hhere] at hok
                cases hok
          | ok here =>
              obtain ⟨htypes, rfl⟩ := clusterAddresses_eq_ok.1 hhere
              dsimp only
              constructor
              · intro h
                obtain ⟨more, w₁, hmore, hreturn⟩ := Effect.bind_eq_ok.1 h
                obtain ⟨hrest, rfl, rfl⟩ := ih.1 hmore
                cases hreturn
                exact ⟨⟨htypes, hrest⟩, by simp [Answers.addresses, hreported], rfl⟩
              · rintro ⟨⟨-, hrest⟩, rfl, rfl⟩
                rw [Effect.bind_of_ok (ih.2 ⟨hrest, rfl, rfl⟩)]
                simp [Answers.addresses, hreported]

theorem listenerStatuses_answering (gw : GatewayObject) (pairs : List (String × String))
    (w : Served Hub) : ∃ listeners,
      listenerStatuses answers.placer gw pairs w = (.ok listeners, w) := by
  induction pairs with
  | nil => exact ⟨[], rfl⟩
  | cons pair rest ih =>
      obtain ⟨more, hmore⟩ := ih
      unfold listenerStatuses
      rw [Effect.bind_of_ok (outcome_listenerTotalAttachedRoutes answers w gw pair.1 pair.2)]
      cases answers.listenerTotalAttachedRoutes pair.1 pair.2 with
      | error e => exact ⟨more, hmore⟩
      | ok attachedRoutes =>
          dsimp only
          rw [Effect.bind_of_ok hmore]
          exact ⟨_, rfl⟩

theorem updateStatus_of_served {v : GatewayObject}
    (hget : w.state.gateways.get v.metadata.key = some gw)
    (hserved : w.faults.head?.join = none) : ∃ w', updateStatus v w = (.ok (), w') := by
  have hstored : (gatewaysPart.get w.state).get v.metadata.key = some gw := hget
  unfold updateStatus Api.write
  rw [Api.call_of_served hserved]
  simp only [hstored, Except.map]
  exact ⟨_, rfl⟩

theorem updateStatus_of_fault {v : GatewayObject} {fault : Fault}
    (hfault : w.faults.head?.join = some fault) :
    updateStatus v w = (.error fault.error, ⟨w.state, w.faults.tail⟩) := by
  unfold updateStatus Api.write
  exact Api.call_of_fault hfault

/-- If the last call is served, the addresses are in the status afterwards: written, or there
    before. If it is not, nothing is written. -/
theorem writeStatus_addresses (hget : w.state.gateways.get key = some phase.previous)
    (hlive : phase.previous.metadata.deletionTimestamp = false)
    (hkey : phase.upstream.metadata.key = key) :
    (w.faults.head?.join = none →
      addressesAt key (writeStatus phase addresses listeners w).2.state = some addresses) ∧
    (w.faults.head?.join ≠ none →
      (writeStatus phase addresses listeners w).2.state = w.state) := by
  unfold writeStatus
  split
  · refine ⟨fun hserved => ?_, fun hfault => ?_⟩
    · have hfinal : (phase.final addresses listeners).metadata.key = key := hkey
      obtain ⟨w', hwrite⟩ := updateStatus_of_served (hfinal ▸ hget) hserved
      rw [Effect.bind_of_ok hwrite]
      exact (triple_updateStatus hfinal hget hlive).of_ok rfl hwrite
    · obtain ⟨fault, hsome⟩ := Option.ne_none_iff_exists'.1 hfault
      rw [Effect.bind_of_error (updateStatus_of_fault hsome)]
  · rename_i hsame
    have haddresses : addresses = phase.previous.status.addresses :=
      congrArg GatewayStatus.addresses (not_not.1 (not_or.1 hsame).1)
    have hstored : addressesAt key w.state = some addresses := by
      unfold addressesAt
      rw [hget, haddresses]
      rfl
    cases phase.downstream.err with
    | some e => exact ⟨fun _ => hstored, fun _ => rfl⟩
    | none => exact ⟨fun _ => hstored, fun _ => rfl⟩

/-- The address phase, from the clusters that are asked to the addresses in the status. -/
theorem reconcileStatus_addresses (hget : w.state.gateways.get key = some phase.previous)
    (hlive : phase.previous.metadata.deletionTimestamp = false)
    (hkey : phase.upstream.metadata.key = key) :
    (answers.Typed (answers.beforeFailure phase.downstream.clusters) ∧ w.faults.head?.join = none →
      addressesAt key (reconcileStatus answers.placer phase w).2.state
        = some (answers.addresses (answers.beforeFailure phase.downstream.clusters))) ∧
    (¬ (answers.Typed (answers.beforeFailure phase.downstream.clusters) ∧
        w.faults.head?.join = none) →
      (reconcileStatus answers.placer phase w).2.state.gateways = w.state.gateways) := by
  unfold reconcileStatus
  by_cases htyped : answers.Typed (answers.beforeFailure phase.downstream.clusters)
  · have hcollect : collectAddresses answers.placer phase.upstream phase.downstream.clusters w
        = (.ok _, w) := collectAddresses_eq_ok.2 ⟨htyped, rfl, rfl⟩
    obtain ⟨listeners, hlisteners⟩ := @listenerStatuses_answering answers phase.upstream
      (phase.upstream.spec.listeners.flatMap
        (fun l => phase.downstream.clusters.map (fun c => (l.name, c)))) w
    rw [Effect.bind_of_ok hcollect, Effect.bind_of_ok hlisteners]
    obtain ⟨hserved, hfault⟩ := @writeStatus_addresses key phase
      (answers.addresses (answers.beforeFailure phase.downstream.clusters)) listeners w hget hlive
      hkey
    refine ⟨fun h => hserved h.2, fun h => ?_⟩
    rw [hfault fun hnone => h ⟨htyped, hnone⟩]
  · refine ⟨fun h => absurd h.1 htyped, fun _ => ?_⟩
    have hkept := keeps_collectAddresses answers phase.upstream
      phase.downstream.clusters w
    rcases hcollect : collectAddresses answers.placer phase.upstream phase.downstream.clusters w
      with ⟨e | addresses, w'⟩
    · rw [hcollect] at hkept
      rw [Effect.bind_of_error hcollect]
      exact hkept
    · exact absurd (collectAddresses_eq_ok.1 hcollect).1 htyped

end

/-! ## All or nothing -/

/-- The reconcile comes to the status write with what it has collected from `clusters`: the Gateway is
    to be placed, the calls of the controller itself are served and find the secrets, and nothing
    that it dereferences is nil. -/
structure Collects (answers : Answers) (input : Input) (hub : Hub) (faults : List (Option Fault))
    (gw : GatewayObject) (clusters : List String) : Prop where
  placeable : Placeable input gw
  served : NextServed ((tlsRefs gw).length + 2) faults
  secrets : SecretsFound hub gw
  asked : answers.asked input gw = some clusters
  typed : answers.Typed (answers.beforeFailure clusters)

section

variable {answers : Answers} {input : Input} {key : ObjectKey} {hub : Hub} {gw : GatewayObject}
  {faults : List (Option Fault)} (hget : hub.gateways.get key = some gw)
  (hlive : gw.metadata.deletionTimestamp = false)

include hget hlive

/-- What the reconcile writes if it comes to that. -/
theorem addresses_of_collects {clusters : List String}
    (h : Collects answers input hub faults gw clusters) :
    addressesAt key (reconcile answers.placer input key ⟨hub, faults⟩).2.state
      = some (answers.addresses (answers.beforeFailure clusters)) := by
  obtain ⟨hserved, hlast⟩ := nextServed_add_one.1 h.served
  obtain ⟨phase, hrun, rfl⟩ :=
    beforeAddresses_of_asked hget hlive h.placeable hserved h.secrets h.asked
  have hbefore : Api.Triple (fun s => s = hub) (beforeAddresses answers.placer input key) _ _ :=
    triple_beforeAddresses hget hlive
  obtain ⟨-, rfl, hkey⟩ := hbefore.of_ok rfl hrun
  rw [show reconcile answers.placer input key ⟨hub, faults⟩ = _ from Effect.bind_of_ok hrun]
  exact (reconcileStatus_addresses hget hlive hkey).1 ⟨h.typed, hlast⟩

/-- If the reconcile changes the addresses, it has come to that. -/
theorem collects_of_changed
    (hchanged : addressesAt key (reconcile answers.placer input key ⟨hub, faults⟩).2.state
      ≠ some gw.status.addresses) :
    ∃ clusters, Collects answers input hub faults gw clusters := by
  have hbefore : Api.Triple (fun s => s = hub) (beforeAddresses answers.placer input key) _ _ :=
    triple_beforeAddresses hget hlive
  rcases hrun : beforeAddresses answers.placer input key ⟨hub, faults⟩ with ⟨e | result | phase, w₁⟩
  · refine absurd ?_ hchanged
    rw [show reconcile answers.placer input key ⟨hub, faults⟩ = (.error e, w₁) from
      Effect.bind_of_error hrun]
    exact hbefore.of_error rfl hrun
  · refine absurd ?_ hchanged
    rw [show reconcile answers.placer input key ⟨hub, faults⟩ = (.ok result, w₁) from
      Effect.bind_of_ok hrun]
    exact hbefore.of_ok rfl hrun
  · obtain ⟨-, rfl, hkey⟩ := hbefore.of_ok rfl hrun
    obtain ⟨hplaceable, hserved, hsecrets, hasked, rfl⟩ := asked_of_beforeAddresses hget hlive hrun
    -- a status that is not written leaves the addresses as they were
    have hends : answers.Typed (answers.beforeFailure phase.downstream.clusters) ∧
        (faults.drop ((tlsRefs phase.previous).length + 1)).head?.join = none := by
      by_contra hnot
      refine hchanged ?_
      rw [show reconcile answers.placer input key ⟨hub, faults⟩ = _ from Effect.bind_of_ok hrun]
      unfold addressesAt
      rw [(reconcileStatus_addresses hget hlive hkey).2 hnot]
      show (hub.gateways.get key).map _ = _
      rw [hget]
      rfl
    exact ⟨_, hplaceable, nextServed_add_one.2 ⟨hserved, hends.2⟩, hsecrets, hasked, hends.1⟩

end

/-- In the case that the program is made for it is all or nothing: the Gateway has listeners, the
    placed clusters can be listed, and each of them answers. -/
theorem allOrNothing_of_answered {answers : Answers} {input : Input} {key : ObjectKey} {hub : Hub}
    {faults : List (Option Fault)} {gw : GatewayObject} (hget : hub.gateways.get key = some gw)
    (hlive : gw.metadata.deletionTimestamp = false) (hlisteners : gw.spec.listeners ≠ [])
    {placed : List String} (hplaced : answers.getPlacedClusters = .ok placed)
    (hanswered : ∀ cluster ∈ placed, answers.answered cluster = true) :
    AllOrNothing answers input key ⟨hub, faults⟩ := by
  have hall : answers.placed = placed.insertionSort (· ≤ ·) := by
    simp [Answers.placed, hplaced]
  have hanswers : ∀ cluster ∈ answers.placed, answers.answered cluster = true := by
    rw [hall]
    simpa using hanswered
  by_cases hsame : addressesAt key (reconcile answers.placer input key ⟨hub, faults⟩).2.state
      = addressesAt key hub
  · exact Or.inl hsame
  · have hold : addressesAt key hub = some gw.status.addresses := by
      unfold addressesAt
      rw [hget]
      rfl
    obtain ⟨clusters, hcollects⟩ := collects_of_changed hget hlive (hold ▸ hsame)
    -- the clusters asked are the placed ones, and the loop comes to its end
    have hclusters : clusters = answers.placed := by
      have hasked := hcollects.asked
      unfold Answers.asked at hasked
      rw [if_neg hlisteners, hplaced] at hasked
      cases hplace : answers.place with
      | error e => simp [hplace] at hasked
      | ok targets =>
          simp only [hplace] at hasked
          split at hasked
          · rw [hall]
            exact (Option.some.inj hasked).symm
          · cases hasked
    refine Or.inr ⟨hanswers, ?_⟩
    rw [addresses_of_collects hget hlive hcollects, hclusters, Answers.beforeFailure,
      List.takeWhile_eq_self_iff.2 hanswers]

/-! ## A Gateway on two clusters -/

/-- An address as the clusters report it. -/
def ipAddress (value : String) : FeedbackAddress := ⟨some .ipAddress, value⟩

end MultiClusterGateway.GatewayController
