import MultiClusterGateway.Api.DNSRecord
import MultiClusterGateway.Lib.Batch
import MultiClusterGateway.Lib.Effect
import MultiClusterGateway.Lib.Text

set_option autoImplicit false

/-! # The API server

Objects by namespace and name, and the calls of a client that create, update and delete them. An
object with finalizers is only marked by a deletion, and a marked object goes with its last
finalizer. Every call may fail instead of being served: the faults of a run are given with its first
state. That an object is not found, or exists already, is only ever said when it is so. -/

namespace MultiClusterGateway

/-! ## Errors -/

/-- What the program finds out about an error, through `apierrors` and `errors.Is`. -/
inductive ErrorKind where
  | notFound
  | alreadyExists
  | conflict
  | gracePeriodNotExpired
  | invalidHeader
  /-- a nil pointer was dereferenced: not an error that anything can handle -/
  | panic
  | other
deriving DecidableEq, Repr

/-- An error of a call: its kind, as `apierrors` tells them apart, and its text. -/
structure ApiError where
  kind : ErrorKind
  message : String
deriving DecidableEq, Repr

/-- `fmt.Errorf` with `%w`. -/
def ApiError.wrap (text : String) (e : ApiError) : ApiError := { e with message := text ++ e.message }

/-- `fmt.Errorf` with `%s`: only the text is left. -/
def ApiError.describe (text : String) (e : ApiError) : ApiError := ⟨.other, text ++ e.message⟩

/-- What a nil pointer gives when it is dereferenced. -/
def nilPointer : ApiError := ⟨.panic, "invalid memory address or nil pointer dereference"⟩

/-! ## Names -/

/-- The runes of a valid name: the server takes no other names than non-empty ones of these. -/
def nameRune (c : Char) : Bool := c.isDigit || c.isLower || c == '-' || c == '.'

/-- What every valid name of an object or a namespace is. -/
def ValidName (s : String) : Prop := s ≠ "" ∧ s.toList.all nameRune = true

/-- Both parts are names that the server admits. -/
structure ObjectKey.Valid (k : ObjectKey) : Prop where
  ns : ValidName k.ns
  name : ValidName k.name

theorem toLower_of_validName (fold : Text.CaseFold) {s : String} (h : ValidName s) :
    Text.toLower fold s = s := by
  apply Text.toLower_eq_self
  intro c hc
  have hrune := List.all_eq_true.1 h.2 c hc
  simp only [nameRune, Bool.or_eq_true, beq_iff_eq] at hrune
  rcases hrune with (halnum | rfl) | rfl
  · exact Text.ascii_of_alnum halnum
  · decide
  · decide

/-! ## Calls -/

/-- Why a call is not served: the object has changed in between, or anything else. -/
structure Fault where
  conflict : Bool := false
  message : String := ""
deriving DecidableEq, Repr

/-- The error that the caller sees. -/
def Fault.error (fault : Fault) : ApiError :=
  ⟨if fault.conflict then .conflict else .other, fault.message⟩

theorem Fault.kind_error_ne (fault : Fault) : fault.error.kind ≠ .notFound := by
  unfold Fault.error
  split
  · simp
  · simp

/-- A state behind the server, and for each of the next calls the fault it fails with, if any. -/
structure Served (S : Type) where
  state : S
  faults : List (Option Fault) := []

/-- A client's computation. -/
abbrev Api (S α : Type) := Effect (Served S) ApiError α

/-- A part of a larger value, such as the metadata of an object. -/
structure Part (S T : Type) where
  get : S → T
  set : S → T → S
  get_set : ∀ s t, get (set s t) = t
  set_get : ∀ s, set s (get s) = s
  set_set : ∀ s t t', set (set s t) t' = set s t'

namespace Api

variable {S T α β : Type}

/-- One call. -/
def call (f : S → Except ApiError (α × S)) : Api S α := fun w =>
  match w.faults.head?.join with
  | some fault => (.error fault.error, { w with faults := w.faults.tail })
  | none =>
    match f w.state with
    | .ok (a, s) => (.ok a, ⟨s, w.faults.tail⟩)
    | .error e => (.error e, { w with faults := w.faults.tail })

theorem call_of_served {f : S → Except ApiError (α × S)} {w : Served S}
    (h : w.faults.head?.join = none) :
    call f w = match f w.state with
      | .ok (a, s) => (.ok a, ⟨s, w.faults.tail⟩)
      | .error e => (.error e, { w with faults := w.faults.tail }) := by
  unfold call
  rw [h]

theorem call_of_fault {f : S → Except ApiError (α × S)} {w : Served S} {fault : Fault}
    (h : w.faults.head?.join = some fault) :
    call f w = (.error fault.error, { w with faults := w.faults.tail }) := by
  unfold call
  rw [h]

/-- A call that only looks. -/
def read (f : S → Except ApiError α) : Api S α := call fun s => (f s).map fun a => (a, s)

/-- A call that changes one part of the state. -/
def write (part : Part S T) (f : T → Except ApiError T) : Api S Unit :=
  call fun s => (f (part.get s)).map fun t => ((), part.set s t)

/-- `client.IgnoreNotFound`. -/
def ignoreNotFound (x : Api S Unit) : Api S Unit := do
  match ← Effect.attempt x with
  | .ok _ => pure ()
  | .error e => if e.kind = .notFound then pure () else Effect.fail e

theorem read_of_no_faults (f : S → Except ApiError α) (s : S) : read f ⟨s, []⟩ = (f s, ⟨s, []⟩) := by
  unfold read call
  cases hf : f s with
  | ok a => simp [hf, Except.map]
  | error e => simp [hf, Except.map]

theorem write_of_no_faults {part : Part S T} {f : T → Except ApiError T} {s : S} {t : T}
    (h : f (part.get s) = .ok t) : write part f ⟨s, []⟩ = (.ok (), ⟨part.set s t, []⟩) := by
  unfold write call
  simp [h, Except.map]

theorem write_error_of_no_faults {part : Part S T} {f : T → Except ApiError T} {s : S} {e : ApiError}
    (h : f (part.get s) = .error e) : write part f ⟨s, []⟩ = (.error e, ⟨s, []⟩) := by
  unfold write call
  simp [h, Except.map]

/-- What a function returns, value or error. -/
def outcome (x : Api S α) : Api S (Except ApiError α) := do
  match ← Effect.attempt x with
  | .ok a => pure (.ok a)
  | .error e => if e.kind = .panic then Effect.fail e else pure (.error e)

theorem outcome_of_ok {x : Api S α} {w w' : Served S} {a : α} (h : x w = (.ok a, w')) :
    outcome x w = (.ok (.ok a), w') := by
  unfold outcome
  rw [Effect.bind_apply, Effect.attempt_apply, h]
  rfl

theorem outcome_eq_ok {x : Api S α} {w w' : Served S} {a : α} :
    outcome x w = (.ok (.ok a), w') ↔ x w = (.ok a, w') := by
  refine ⟨fun h => ?_, outcome_of_ok⟩
  unfold outcome at h
  rw [Effect.bind_apply, Effect.attempt_apply] at h
  rcases hx : x w with ⟨e | b, w₁⟩
  · rw [hx] at h
    change (if e.kind = .panic then Effect.fail e else pure (Except.error e)) w₁ = _ at h
    split at h
    · cases h
    · cases h
  · rw [hx] at h
    cases h
    rfl

theorem outcome_eq_error {x : Api S α} {w w' : Served S} {e : ApiError}
    (h : outcome x w = (.ok (.error e), w')) : x w = (.error e, w') := by
  unfold outcome at h
  rw [Effect.bind_apply, Effect.attempt_apply] at h
  rcases hx : x w with ⟨e' | a, w₁⟩
  · rw [hx] at h
    change (if e'.kind = .panic then Effect.fail e' else pure (Except.error e')) w₁ = _ at h
    split at h
    · cases h
    · cases h
      rfl
  · rw [hx] at h
    cases h

/-- A triple about the state behind the server. -/
abbrev Triple (P : S → Prop) (x : Api S α) (Q : α → S → Prop) (E : ApiError → S → Prop) : Prop :=
  Effect.Spec Served.state P x Q E

theorem triple_read {P : S → Prop} {f : S → Except ApiError α} :
    Triple P (read f) (fun a s => P s ∧ f s = .ok a)
      (fun e s => P s ∧ (e.kind = .notFound → f s = .error e)) := by
  intro w hw
  unfold read call
  cases w.faults.head?.join with
  | some fault => exact ⟨hw, fun h => absurd h fault.kind_error_ne⟩
  | none =>
      cases hf : f w.state with
      | ok a => simpa only [hf] using ⟨hw, hf⟩
      | error e => simpa only [hf] using ⟨hw, fun _ => hf⟩

theorem triple_write {P : S → Prop} {part : Part S T} {f : T → Except ApiError T} :
    Triple P (write part f) (fun _ s' => ∃ s t, P s ∧ f (part.get s) = .ok t ∧ s' = part.set s t)
      (fun e s => P s ∧ (e.kind = .notFound → f (part.get s) = .error e)) := by
  intro w hw
  unfold write call
  cases w.faults.head?.join with
  | some fault => exact ⟨hw, fun h => absurd h fault.kind_error_ne⟩
  | none =>
      cases hf : f (part.get w.state) with
      | ok t => simpa only [hf] using ⟨w.state, t, hw, hf, rfl⟩
      | error e => simpa only [hf] using ⟨hw, fun _ => hf⟩

/-- Why a call fails: the objects say so, or a fault does. -/
def Explains (answer : Except ApiError α) (e : ApiError) : Prop :=
  answer = .error e ∨ ∃ fault : Fault, e = fault.error

/-- No fault says that an object exists already. -/
theorem Explains.of_alreadyExists {answer : Except ApiError α} {e : ApiError}
    (h : Explains answer e) (hkind : e.kind = .alreadyExists) : answer = .error e := by
  rcases h with hanswer | ⟨fault, rfl⟩
  · exact hanswer
  · unfold Fault.error at hkind
    split at hkind
    · cases hkind
    · cases hkind

theorem Explains.of_notFound {answer : Except ApiError α} {e : ApiError}
    (h : Explains answer e) (hkind : e.kind = .notFound) : answer = .error e := by
  rcases h with hanswer | ⟨fault, rfl⟩
  · exact hanswer
  · exact absurd hkind fault.kind_error_ne

theorem triple_read_explains {f : S → Except ApiError α} (s₀ : S) :
    Triple (fun s => s = s₀) (read f) (fun a s => s = s₀ ∧ f s₀ = .ok a)
      (fun e s => s = s₀ ∧ Explains (f s₀) e) := by
  intro w hw
  subst hw
  unfold read call
  cases w.faults.head?.join with
  | some fault => exact ⟨rfl, Or.inr ⟨fault, rfl⟩⟩
  | none =>
      cases hf : f w.state with
      | ok a => simp [hf, Except.map]
      | error e => simp [hf, Except.map, Explains]

theorem triple_write_explains {part : Part S T} {f : T → Except ApiError T} (s₀ : S) :
    Triple (fun s => s = s₀) (write part f)
      (fun _ s => ∃ t, f (part.get s₀) = .ok t ∧ s = part.set s₀ t)
      (fun e s => s = s₀ ∧ Explains (f (part.get s₀)) e) := by
  intro w hw
  subst hw
  unfold write call
  cases w.faults.head?.join with
  | some fault => exact ⟨rfl, Or.inr ⟨fault, rfl⟩⟩
  | none =>
      cases hf : f (part.get w.state) with
      | ok t => simp [hf, Except.map]
      | error e => simp [hf, Except.map, Explains]

/-- Both results of a function are gone on with. -/
theorem triple_outcome_bind {P : S → Prop} {x : Api S α} {f : Except ApiError α → Api S β}
    {Q : α → S → Prop} {R : β → S → Prop} {E E' : ApiError → S → Prop} (hx : Triple P x Q E')
    (hpanic : ∀ e s, E' e s → E e s) (hok : ∀ a, Triple (Q a) (f (.ok a)) R E)
    (herror : ∀ e, Triple (E' e) (f (.error e)) R E) : Triple P (outcome x >>= f) R E := by
  have houtcome : Triple P (outcome x) (fun r s => match r with
      | .ok a => Q a s
      | .error e => E' e s) E := by
    refine hx.attempt_bind (fun a => Effect.Spec.pure fun s hs => hs) fun e => ?_
    show Triple (E' e) (if e.kind = .panic then Effect.fail e else pure (Except.error e)) _ _
    split
    · exact Effect.Spec.fail fun s hs => hpanic e s hs
    · exact Effect.Spec.pure fun s hs => hs
  refine houtcome.bind (fun _ _ h => h) fun r => ?_
  cases r with
  | ok a => exact hok a
  | error e => exact herror e

/-- An error other than not found ends the computation. -/
theorem triple_ignoreNotFound {P : S → Prop} {x : Api S Unit} {Q : S → Prop}
    {E E' : ApiError → S → Prop} (hx : Triple P x (fun _ => Q) E)
    (hignored : ∀ e s, e.kind = .notFound → E e s → Q s)
    (hfailed : ∀ e s, e.kind ≠ .notFound → E e s → E' e s) :
    Triple P (ignoreNotFound x) (fun _ => Q) E' := by
  refine hx.attempt_bind (fun _ => Effect.Spec.pure fun s hs => hs) fun e => ?_
  show Triple (E e) (if e.kind = .notFound then pure () else Effect.fail e) _ _
  split
  · rename_i h
    exact Effect.Spec.pure fun s hs => hignored e s h hs
  · rename_i h
    exact Effect.Spec.fail fun s hs => hfailed e s h hs

/-! ### Computations whose calls are all served -/

/-- No call of what follows fails with a fault, and the state has `P`. -/
def NoFaults (P : S → Prop) (w : Served S) : Prop := w.faults = [] ∧ P w.state

/-- A triple for computations whose calls are all served: an error is one that the state explains. -/
abbrev Unfaulted (P : S → Prop) (x : Api S α) (Q : α → S → Prop) (E : ApiError → S → Prop) : Prop :=
  Effect.Spec id (NoFaults P) x (fun a => NoFaults (Q a)) (fun e => NoFaults (E e))

theorem unfaulted_pure {P : S → Prop} {a : α} {Q : α → S → Prop} {E : ApiError → S → Prop}
    (h : ∀ s, P s → Q a s) : Unfaulted P (pure a) Q E :=
  Effect.Spec.pure fun w hw => ⟨hw.1, h w.state hw.2⟩

theorem unfaulted_read {P : S → Prop} {f : S → Except ApiError α} :
    Unfaulted P (read f) (fun a s => P s ∧ f s = .ok a) (fun e s => P s ∧ f s = .error e) := by
  rintro ⟨s, faults⟩ ⟨rfl, hP⟩
  rw [read_of_no_faults]
  cases hf : f s with
  | ok a => exact ⟨rfl, hP, hf⟩
  | error e => exact ⟨rfl, hP, hf⟩

theorem unfaulted_write {P : S → Prop} {part : Part S T} {f : T → Except ApiError T} :
    Unfaulted P (write part f)
      (fun _ s' => ∃ s t, P s ∧ f (part.get s) = .ok t ∧ s' = part.set s t)
      (fun e s => P s ∧ f (part.get s) = .error e) := by
  rintro ⟨s, faults⟩ ⟨rfl, hP⟩
  unfold write call
  cases hf : f (part.get s) with
  | ok t => simpa only [id_eq, hf] using ⟨rfl, s, t, hP, hf, rfl⟩
  | error e => simpa only [id_eq, hf] using ⟨rfl, hP, hf⟩

/-! ### What a computation keeps -/

/-- The computation changes nothing of what `view` shows, however it ends. -/
def Keeps (view : S → T) (x : Api S α) : Prop := ∀ w, view (x w).2.state = view w.state

section

variable {view : S → T} {x : Api S α}

theorem Keeps.triple (hx : Keeps view x) (P : T → Prop) :
    Triple (fun s => P (view s)) x (fun _ s => P (view s)) (fun _ s => P (view s)) :=
  Effect.Spec.of_ends (R := fun s => P (view s)) fun w hw => (hx w).symm ▸ hw

theorem keeps_pure (a : α) : Keeps view (pure a : Api S α) := fun _ => rfl

theorem keeps_fail (e : ApiError) : Keeps view (Effect.fail e : Api S α) := fun _ => rfl

theorem keeps_read (f : S → Except ApiError α) : Keeps view (read f) := by
  intro w
  unfold read call
  split
  · rfl
  · cases hf : f w.state with
    | ok a => simp only [hf, Except.map]
    | error e => simp only [hf, Except.map]

/-- A write that does not change what `view` shows. -/
theorem keeps_write_of_ok {U : Type} {part : Part S U} {f : U → Except ApiError U}
    (h : ∀ s u, f (part.get s) = .ok u → view (part.set s u) = view s) :
    Keeps view (write part f) := by
  intro w
  unfold write call
  split
  · rfl
  · cases hf : f (part.get w.state) with
    | ok u =>
        simp only [hf, Except.map]
        exact h w.state u hf
    | error e => simp only [hf, Except.map]

/-- A write to a part that `view` does not show. -/
theorem keeps_write {U : Type} {part : Part S U} {f : U → Except ApiError U}
    (h : ∀ s u, view (part.set s u) = view s) : Keeps view (write part f) :=
  keeps_write_of_ok fun s u _ => h s u

theorem Keeps.bind {f : α → Api S β} (hx : Keeps view x) (hf : ∀ a, Keeps view (f a)) :
    Keeps view (x >>= f) := by
  intro w
  have hxw := hx w
  rw [Effect.bind_apply]
  rcases hw : x w with ⟨e | a, w'⟩
  · rw [hw] at hxw
    exact hxw
  · rw [hw] at hxw
    exact (hf a w').trans hxw

theorem Keeps.attempt_bind {f : Except ApiError α → Api S β} (hx : Keeps view x)
    (hf : ∀ r, Keeps view (f r)) : Keeps view (Effect.attempt x >>= f) :=
  fun w => (hf (x w).1 (x w).2).trans (hx w)

theorem Keeps.forEach {l : List β} {f : β → Api S Unit} (hf : ∀ b ∈ l, Keeps view (f b)) :
    Keeps view (Effect.forEach l f) := by
  induction l with
  | nil => exact keeps_pure ()
  | cons b rest ih =>
      exact (hf b List.mem_cons_self).bind fun _ => ih fun c hc => hf c (List.mem_cons_of_mem _ hc)

theorem Keeps.ignoreNotFound {x : Api S Unit} (hx : Keeps view x) :
    Keeps view (ignoreNotFound x) := by
  refine hx.attempt_bind fun r => ?_
  cases r with
  | ok _ => exact keeps_pure ()
  | error e =>
      show Keeps view (if e.kind = .notFound then pure () else Effect.fail e)
      split
      · exact keeps_pure ()
      · exact keeps_fail e

theorem Keeps.outcome_bind {f : Except ApiError α → Api S β} (hx : Keeps view x)
    (hf : ∀ r, Keeps view (f r)) : Keeps view (outcome x >>= f) := by
  refine Keeps.bind (hx.attempt_bind fun r => ?_) hf
  cases r with
  | ok a => exact keeps_pure _
  | error e =>
      show Keeps view (if e.kind = .panic then Effect.fail e else pure (Except.error e))
      split
      · exact keeps_fail _
      · exact keeps_pure _

end

/-! ### What a computation preserves -/

/-- However the computation ends, what holds before holds after. -/
abbrev Preserves (I : S → Prop) (x : Api S α) : Prop := Triple I x (fun _ => I) (fun _ => I)

section

variable {I : S → Prop} {x : Api S α}

theorem preserves_pure (a : α) : Preserves I (pure a : Api S α) := fun _ h => h

theorem preserves_fail (e : ApiError) : Preserves I (Effect.fail e : Api S α) := fun _ h => h

theorem Preserves.bind {f : α → Api S β} (hx : Preserves I x) (hf : ∀ a, Preserves I (f a)) :
    Preserves I (x >>= f) :=
  Effect.Spec.bind hx (fun _ _ h => h) hf

theorem Preserves.outcome_bind {f : Except ApiError α → Api S β} (hx : Preserves I x)
    (hf : ∀ r, Preserves I (f r)) : Preserves I (outcome x >>= f) :=
  triple_outcome_bind hx (fun _ _ h => h) (fun a => hf (.ok a)) fun e => hf (.error e)

theorem Preserves.forEach {l : List β} {f : β → Api S Unit} (hf : ∀ b ∈ l, Preserves I (f b)) :
    Preserves I (Effect.forEach l f) :=
  Effect.Spec.forEach hf

theorem Preserves.ignoreNotFound {x : Api S Unit} (hx : Preserves I x) :
    Preserves I (ignoreNotFound x) :=
  triple_ignoreNotFound hx (fun _ _ _ h => h) fun _ _ _ h => h

end

end Api

/-! ## Objects -/

/-- A kind of objects: where the metadata is. -/
abbrev Kind (V : Type) := Part V ObjectMeta

namespace Kind

variable {V : Type} (kind : Kind V)

/-- The key that an object is stored under. -/
def key (v : V) : ObjectKey := (kind.get v).key

/-- The object is being deleted. -/
def marked (v : V) : Bool := (kind.get v).deletionTimestamp

/-- The finalizers of an object. -/
def finalizers (v : V) : List String := (kind.get v).finalizers

/-- The object with its deletion timestamp set or not. -/
def mark (b : Bool) (v : V) : V := kind.set v { kind.get v with deletionTimestamp := b }

@[simp] theorem key_mark (b : Bool) (v : V) : kind.key (kind.mark b v) = kind.key v := by
  unfold key mark
  rw [kind.get_set]
  rfl

@[simp] theorem marked_mark (b : Bool) (v : V) : kind.marked (kind.mark b v) = b := by
  unfold marked mark
  rw [kind.get_set]

@[simp] theorem finalizers_mark (b : Bool) (v : V) :
    kind.finalizers (kind.mark b v) = kind.finalizers v := by
  unfold finalizers mark
  rw [kind.get_set]

theorem mark_eq_self {v : V} {b : Bool} (h : kind.marked v = b) : kind.mark b v = v := by
  unfold mark
  rw [← h]
  exact kind.set_get v

end Kind

variable {V : Type} {kind : Kind V}

/-- The objects of a kind. One that is being deleted is kept by its finalizers. -/
structure Objects (kind : Kind V) where
  store : Batch.Store kind.key
  kept : ∀ v ∈ store.entries, kind.marked v = true → kind.finalizers v ≠ []

namespace Objects

/-- No objects. -/
def empty : Objects kind := ⟨.empty, fun _ h => absurd h List.not_mem_nil⟩

instance : EmptyCollection (Objects kind) := ⟨empty⟩

/-- All objects, the last one written at the end. -/
def entries (objects : Objects kind) : List V := objects.store.entries

/-- The object under a key. -/
def get (objects : Objects kind) (k : ObjectKey) : Option V := objects.store.get k

/-- Write an object in place of the one with its key; a marked one goes with its last finalizer. -/
def put (objects : Objects kind) (v : V) : Objects kind :=
  if h : kind.marked v = true ∧ kind.finalizers v = [] then
    ⟨objects.store.erase (kind.key v), fun v' hv' =>
      objects.kept v' (List.mem_filter.1 hv').1⟩
  else
    ⟨objects.store.put v, fun v' hv' hmarked hfin => by
      rcases List.mem_append.1 hv' with hold | hnew
      · exact objects.kept v' (List.mem_filter.1 hold).1 hmarked hfin
      · rw [List.mem_singleton] at hnew
        subst hnew
        exact h ⟨hmarked, hfin⟩⟩

/-- `NewNotFound`. -/
def notFound (k : ObjectKey) : ApiError := ⟨.notFound, k.name ++ " not found"⟩

/-- `NewAlreadyExists`. -/
def alreadyExists (k : ObjectKey) : ApiError := ⟨.alreadyExists, k.name ++ " already exists"⟩

/-- `Get`. -/
def find (objects : Objects kind) (k : ObjectKey) : Except ApiError V :=
  match objects.get k with
  | some v => .ok v
  | none => .error (notFound k)

/-- `Create`. -/
def create (objects : Objects kind) (v : V) : Except ApiError (Objects kind) :=
  match objects.get (kind.key v) with
  | some _ => .error (alreadyExists (kind.key v))
  | none => .ok (objects.put (kind.mark false v))

/-- `Update`. -/
def update (objects : Objects kind) (v : V) : Except ApiError (Objects kind) :=
  match objects.get (kind.key v) with
  | some _ => .ok (objects.put v)
  | none => .error (notFound (kind.key v))

/-- `Delete`: objects with finalizers are only marked. -/
def delete (objects : Objects kind) (k : ObjectKey) : Except ApiError (Objects kind) :=
  match objects.get k with
  | some v => .ok (objects.put (kind.mark true v))
  | none => .error (notFound k)

/-- The objects that are not being deleted. -/
def live (objects : Objects kind) (k : ObjectKey) : Option V :=
  (objects.get k).filter (fun v => !kind.marked v)

variable {objects objects' : Objects kind} {v : V} {k k' : ObjectKey}

@[simp] theorem get_empty : (∅ : Objects kind).get k = none := rfl

theorem key_of_get (h : objects.get k = some v) : kind.key v = k := Batch.Store.key_of_get h

theorem mem_entries : v ∈ objects.entries ↔ objects.get (kind.key v) = some v :=
  Batch.Store.mem_entries

/-- A marked object in the store has a finalizer. -/
theorem finalizers_ne_nil (h : objects.get k = some v) (hmarked : kind.marked v = true) :
    kind.finalizers v ≠ [] :=
  objects.kept v (Batch.Store.get_eq_some.1 h).1 hmarked

theorem get_put (objects : Objects kind) (v : V) (k : ObjectKey) :
    (objects.put v).get k = if k = kind.key v then
        if kind.marked v = true ∧ kind.finalizers v = [] then none else some v
      else objects.get k := by
  unfold put get
  by_cases h : kind.marked v = true ∧ kind.finalizers v = []
  · simp only [dif_pos h, if_pos h]
    exact Batch.Store.get_erase objects.store (kind.key v) k
  · simp only [dif_neg h, if_neg h]
    exact Batch.Store.get_put objects.store v k

theorem live_put (objects : Objects kind) (v : V) (k : ObjectKey) :
    (objects.put v).live k = if k = kind.key v then
        if kind.marked v = true then none else some v
      else objects.live k := by
  unfold live
  rw [get_put]
  by_cases hk : k = kind.key v
  · rw [if_pos hk, if_pos hk]
    cases hm : kind.marked v with
    | false => simp [hm]
    | true =>
        by_cases hfin : kind.finalizers v = []
        · simp [hfin]
        · simp [hfin, hm]
  · rw [if_neg hk, if_neg hk]

theorem get_put_of_ne (h : k ≠ kind.key v) : (objects.put v).get k = objects.get k := by
  rw [get_put, if_neg h]

theorem get_put_self (hkey : kind.key v = k)
    (hkept : kind.marked v = true → kind.finalizers v ≠ []) : (objects.put v).get k = some v := by
  rw [get_put, if_pos hkey.symm, if_neg fun h => hkept h.1 h.2]

theorem get_put_live (hkey : kind.key v = k) (hlive : kind.marked v = false) :
    (objects.put v).get k = some v :=
  get_put_self hkey fun hmarked => absurd hmarked (by simp [hlive])

/-- Writing a stored object with its metadata unchanged. -/
theorem get_put_same_meta (v' : V) (hget : objects.get k = some v) (hmeta : kind.get v' = kind.get v)
    (k' : ObjectKey) : (objects.put v').get k' = if k' = k then some v' else objects.get k' := by
  have hkey : kind.key v' = k := by
    rw [← key_of_get hget, Kind.key, Kind.key, hmeta]
  have hkept : ¬ (kind.marked v' = true ∧ kind.finalizers v' = []) := by
    rw [Kind.marked, Kind.finalizers, hmeta]
    exact fun h => finalizers_ne_nil hget h.1 h.2
  rw [get_put, if_neg hkept, hkey]

theorem live_put_of_ne (h : k ≠ kind.key v) : (objects.put v).live k = objects.live k := by
  rw [live_put, if_neg h]

theorem live_put_self (hkey : kind.key v = k) (hlive : kind.marked v = false) :
    (objects.put v).live k = some v := by
  rw [live_put, if_pos hkey.symm, hlive, if_neg Bool.false_ne_true]

theorem live_put_marked (hkey : kind.key v = k) (hmarked : kind.marked v = true) :
    (objects.put v).live k = none := by
  rw [live_put, if_pos hkey.symm, if_pos hmarked]

theorem live_eq_some : objects.live k = some v ↔
    objects.get k = some v ∧ kind.marked v = false := by
  unfold live
  rw [Option.filter_eq_some_iff]
  simp

theorem find_eq_ok : objects.find k = .ok v ↔ objects.get k = some v := by
  unfold find
  cases objects.get k with
  | none => simp
  | some w => simp

theorem find_eq_error {e : ApiError} : objects.find k = .error e ↔
    objects.get k = none ∧ e = notFound k := by
  unfold find
  cases objects.get k with
  | none => simp [eq_comm]
  | some w => simp

theorem create_eq_ok (hv : kind.marked v = false) : objects.create v = .ok objects' ↔
    objects.get (kind.key v) = none ∧ objects' = objects.put v := by
  unfold create
  rw [kind.mark_eq_self hv]
  cases objects.get (kind.key v) with
  | none => simp [eq_comm]
  | some w => simp

theorem create_eq_error {e : ApiError} : objects.create v = .error e ↔
    objects.get (kind.key v) ≠ none ∧ e = alreadyExists (kind.key v) := by
  unfold create
  cases objects.get (kind.key v) with
  | none => simp
  | some w => simp [eq_comm]

theorem update_eq_error {e : ApiError} : objects.update v = .error e ↔
    objects.get (kind.key v) = none ∧ e = notFound (kind.key v) := by
  unfold update
  cases objects.get (kind.key v) with
  | none => simp [eq_comm]
  | some w => simp

theorem update_eq_ok : objects.update v = .ok objects' ↔
    objects.get (kind.key v) ≠ none ∧ objects' = objects.put v := by
  unfold update
  cases objects.get (kind.key v) with
  | none => simp
  | some w => simp [eq_comm]

theorem delete_eq_ok : objects.delete k = .ok objects' ↔
    ∃ v, objects.get k = some v ∧ objects' = objects.put (kind.mark true v) := by
  unfold delete
  cases objects.get k with
  | none => simp
  | some w => simp [eq_comm]

theorem delete_eq_error {e : ApiError} : objects.delete k = .error e ↔
    objects.get k = none ∧ e = notFound k := by
  unfold delete
  cases objects.get k with
  | none => simp [eq_comm]
  | some w => simp

end Objects

/-! ## Calls for objects -/

namespace Api

variable {S : Type} (part : Part S (Objects kind))

/-- `Get` of the client. -/
def get (k : ObjectKey) : Api S V := read fun s => (part.get s).find k

/-- `List`, with what the options select. -/
def list (p : V → Bool) : Api S (List V) := read fun s => .ok ((part.get s).entries.filter p)

/-- `Create` of the client. -/
def create (v : V) : Api S Unit := write part (·.create v)

/-- `Update` of the client; that the version is compared is left out here. -/
def update (v : V) : Api S Unit := write part (·.update v)

/-- `Delete` of the client. -/
def delete (k : ObjectKey) : Api S Unit := write part (·.delete k)

variable {part}

theorem get_of_no_faults (k : ObjectKey) (s : S) :
    get part k ⟨s, []⟩ = ((part.get s).find k, ⟨s, []⟩) :=
  read_of_no_faults _ s

theorem list_of_no_faults (p : V → Bool) (s : S) :
    list part p ⟨s, []⟩ = (.ok ((part.get s).entries.filter p), ⟨s, []⟩) :=
  read_of_no_faults _ s

theorem create_of_no_faults {v : V} {s : S} (hv : kind.marked v = false)
    (hfree : (part.get s).get (kind.key v) = none) :
    create part v ⟨s, []⟩ = (.ok (), ⟨part.set s ((part.get s).put v), []⟩) :=
  write_of_no_faults ((Objects.create_eq_ok hv).2 ⟨hfree, rfl⟩)

theorem create_of_exists {v : V} {s : S} (hexists : (part.get s).get (kind.key v) ≠ none) :
    create part v ⟨s, []⟩ = (.error (Objects.alreadyExists (kind.key v)), ⟨s, []⟩) :=
  write_error_of_no_faults (Objects.create_eq_error.2 ⟨hexists, rfl⟩)

theorem update_of_no_faults {v : V} {s : S} (hexists : (part.get s).get (kind.key v) ≠ none) :
    update part v ⟨s, []⟩ = (.ok (), ⟨part.set s ((part.get s).put v), []⟩) :=
  write_of_no_faults (Objects.update_eq_ok.2 ⟨hexists, rfl⟩)

theorem delete_of_no_faults {k : ObjectKey} {v : V} {s : S} (hget : (part.get s).get k = some v) :
    delete part k ⟨s, []⟩ = (.ok (), ⟨part.set s ((part.get s).put (kind.mark true v)), []⟩) :=
  write_of_no_faults (Objects.delete_eq_ok.2 ⟨v, hget, rfl⟩)

theorem delete_of_missing {k : ObjectKey} {s : S} (hget : (part.get s).get k = none) :
    delete part k ⟨s, []⟩ = (.error (Objects.notFound k), ⟨s, []⟩) :=
  write_error_of_no_faults (Objects.delete_eq_error.2 ⟨hget, rfl⟩)

variable {P : S → Prop}

theorem triple_get {k : ObjectKey} :
    Triple P (get part k) (fun v s => P s ∧ (part.get s).get k = some v)
      (fun e s => P s ∧ (e.kind = .notFound → (part.get s).get k = none)) := by
  refine triple_read.mono (fun s hs => hs) ?_ ?_
  · rintro v s ⟨hP, hfind⟩
    exact ⟨hP, Objects.find_eq_ok.1 hfind⟩
  · rintro e s ⟨hP, hfind⟩
    exact ⟨hP, fun he => (Objects.find_eq_error.1 (hfind he)).1⟩

theorem triple_list {p : V → Bool} :
    Triple P (list part p) (fun vs s => P s ∧ vs = (part.get s).entries.filter p)
      (fun e s => P s ∧ e.kind ≠ .notFound) := by
  refine triple_read.mono (fun s hs => hs) ?_ ?_
  · rintro vs s ⟨hP, hvs⟩
    cases hvs
    exact ⟨hP, rfl⟩
  · rintro e s ⟨hP, he⟩
    exact ⟨hP, fun h => (nomatch he h)⟩

theorem triple_create {v : V} (hv : kind.marked v = false) :
    Triple P (create part v)
      (fun _ s' => ∃ s, P s ∧ (part.get s).get (kind.key v) = none ∧
        s' = part.set s ((part.get s).put v))
      (fun e s => P s ∧ e.kind ≠ .notFound) := by
  refine triple_write.mono (fun s hs => hs) ?_ ?_
  · rintro _ s' ⟨s, objects, hP, hcreate, hs⟩
    obtain ⟨hfree, rfl⟩ := (Objects.create_eq_ok hv).1 hcreate
    exact ⟨s, hP, hfree, hs⟩
  · rintro e s ⟨hP, he⟩
    refine ⟨hP, fun hkind => ?_⟩
    have hcreate := he hkind
    unfold Objects.create at hcreate
    split at hcreate
    · cases hcreate
      cases hkind
    · cases hcreate

theorem triple_update {v : V} :
    Triple P (update part v)
      (fun _ s' => ∃ s, P s ∧ (part.get s).get (kind.key v) ≠ none ∧
        s' = part.set s ((part.get s).put v))
      (fun _ s => P s) := by
  refine triple_write.mono (fun s hs => hs) ?_ fun e s h => h.1
  rintro _ s' ⟨s, objects, hP, hupdate, hs⟩
  obtain ⟨hpresent, rfl⟩ := Objects.update_eq_ok.1 hupdate
  exact ⟨s, hP, hpresent, hs⟩

theorem triple_delete {k : ObjectKey} :
    Triple P (delete part k)
      (fun _ s' => ∃ s v, P s ∧ (part.get s).get k = some v ∧
        s' = part.set s ((part.get s).put (kind.mark true v)))
      (fun e s => P s ∧ (e.kind = .notFound → (part.get s).get k = none)) := by
  refine triple_write.mono (fun s hs => hs) ?_ ?_
  · rintro _ s' ⟨s, objects, hP, hdelete, hs⟩
    obtain ⟨v, hv, rfl⟩ := Objects.delete_eq_ok.1 hdelete
    exact ⟨s, v, hP, hv, hs⟩
  · rintro e s ⟨hP, he⟩
    exact ⟨hP, fun hkind => (Objects.delete_eq_error.1 (he hkind)).1⟩

/-! ### Other objects stay -/

section
variable {k : ObjectKey}

theorem keeps_list {T : Type} {view : S → T} (p : V → Bool) : Keeps view (list part p) :=
  keeps_read _

theorem keeps_create_of_ne {v : V} (h : k ≠ kind.key v) :
    Keeps (fun s => (part.get s).get k) (create part v) := by
  refine keeps_write_of_ok fun s objects hcreate => ?_
  have hobjects : objects = (part.get s).put (kind.mark false v) := by
    unfold Objects.create at hcreate
    split at hcreate
    · cases hcreate
    · exact (Except.ok.inj hcreate).symm
  rw [part.get_set, hobjects]
  exact Objects.get_put_of_ne (by rwa [kind.key_mark])

theorem keeps_update_of_ne {v : V} (h : k ≠ kind.key v) :
    Keeps (fun s => (part.get s).get k) (update part v) := by
  refine keeps_write_of_ok fun s objects hupdate => ?_
  obtain ⟨-, rfl⟩ := Objects.update_eq_ok.1 hupdate
  rw [part.get_set]
  exact Objects.get_put_of_ne h

theorem keeps_delete_of_ne {k' : ObjectKey} (h : k ≠ k') :
    Keeps (fun s => (part.get s).get k) (delete part k') := by
  refine keeps_write_of_ok fun s objects hdelete => ?_
  obtain ⟨v, hv, rfl⟩ := Objects.delete_eq_ok.1 hdelete
  rw [part.get_set]
  exact Objects.get_put_of_ne (by rwa [kind.key_mark, Objects.key_of_get hv])

end

theorem unfaulted_get {k : ObjectKey} :
    Unfaulted P (get part k) (fun v s => P s ∧ (part.get s).get k = some v)
      (fun e s => P s ∧ (part.get s).get k = none ∧ e = Objects.notFound k) := by
  refine unfaulted_read.mono (fun _ h => h) ?_ ?_
  · rintro v w ⟨hfaults, hP, hfind⟩
    exact ⟨hfaults, hP, Objects.find_eq_ok.1 hfind⟩
  · rintro e w ⟨hfaults, hP, hfind⟩
    exact ⟨hfaults, hP, Objects.find_eq_error.1 hfind⟩

theorem unfaulted_list {p : V → Bool} :
    Unfaulted P (list part p) (fun vs s => P s ∧ vs = (part.get s).entries.filter p)
      (fun _ _ => False) := by
  refine unfaulted_read.mono (fun _ h => h) ?_ ?_
  · rintro vs w ⟨hfaults, hP, hvs⟩
    cases hvs
    exact ⟨hfaults, hP, rfl⟩
  · rintro e w ⟨-, -, he⟩
    cases he

theorem unfaulted_create {v : V} (hv : kind.marked v = false) :
    Unfaulted P (create part v)
      (fun _ s' => ∃ s, P s ∧ (part.get s).get (kind.key v) = none ∧
        s' = part.set s ((part.get s).put v))
      (fun e s => P s ∧ (part.get s).get (kind.key v) ≠ none ∧
        e = Objects.alreadyExists (kind.key v)) := by
  refine unfaulted_write.mono (fun _ h => h) ?_ ?_
  · rintro _ w ⟨hfaults, s, objects, hP, hcreate, hs⟩
    obtain ⟨hfree, rfl⟩ := (Objects.create_eq_ok hv).1 hcreate
    exact ⟨hfaults, s, hP, hfree, hs⟩
  · rintro e w ⟨hfaults, hP, hcreate⟩
    exact ⟨hfaults, hP, Objects.create_eq_error.1 hcreate⟩

theorem unfaulted_update {v : V} :
    Unfaulted P (update part v)
      (fun _ s' => ∃ s, P s ∧ (part.get s).get (kind.key v) ≠ none ∧
        s' = part.set s ((part.get s).put v))
      (fun e s => P s ∧ (part.get s).get (kind.key v) = none ∧
        e = Objects.notFound (kind.key v)) := by
  refine unfaulted_write.mono (fun _ h => h) ?_ ?_
  · rintro _ w ⟨hfaults, s, objects, hP, hupdate, hs⟩
    obtain ⟨hpresent, rfl⟩ := Objects.update_eq_ok.1 hupdate
    exact ⟨hfaults, s, hP, hpresent, hs⟩
  · rintro e w ⟨hfaults, hP, hupdate⟩
    exact ⟨hfaults, hP, Objects.update_eq_error.1 hupdate⟩

theorem unfaulted_delete {k : ObjectKey} :
    Unfaulted P (delete part k)
      (fun _ s' => ∃ s v, P s ∧ (part.get s).get k = some v ∧
        s' = part.set s ((part.get s).put (kind.mark true v)))
      (fun e s => P s ∧ (part.get s).get k = none ∧ e = Objects.notFound k) := by
  refine unfaulted_write.mono (fun _ h => h) ?_ ?_
  · rintro _ w ⟨hfaults, s, objects, hP, hdelete, hs⟩
    obtain ⟨v, hv, rfl⟩ := Objects.delete_eq_ok.1 hdelete
    exact ⟨hfaults, s, v, hP, hv, hs⟩
  · rintro e w ⟨hfaults, hP, hdelete⟩
    exact ⟨hfaults, hP, Objects.delete_eq_error.1 hdelete⟩

end Api

end MultiClusterGateway
