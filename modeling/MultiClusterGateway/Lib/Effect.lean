import Mathlib

set_option autoImplicit false

/-! # Computations on a world, with rules of pre- and postconditions

A computation reads and changes a world and ends with a value or an error. What it has changed
before an error stays changed, as in a program that returns early. `Spec` is a Hoare triple with one
postcondition for each way to end.

The rules follow the ways in which programs are put together: sequence, looking at an outcome, and
loops. A loop has three rules, for what each round keeps, for what holds after each part of the
list, and for rounds that each reach an aim of their own and keep those of the others. The triples
look at the world through a view, so that what is said of a part of the state does not have to
mention the rest. -/

/-- A computation on a world `W`, with errors in `ε`. -/
def Effect (W ε α : Type) := W → Except ε α × W

namespace Effect

variable {W ε α β : Type}

instance : Monad (Effect W ε) where
  pure a := fun w => (.ok a, w)
  bind x f := fun w =>
    match x w with
    | (.ok a, w') => f a w'
    | (.error e, w') => (.error e, w')

/-- Stop with an error. -/
def fail (e : ε) : Effect W ε α := fun w => (.error e, w)

/-- Look at the outcome of a computation instead of stopping with its error. -/
def attempt (x : Effect W ε α) : Effect W ε (Except ε α) := fun w => (.ok (x w).1, (x w).2)

/-- Run one computation for each element, up to the first error. -/
def forEach : List α → (α → Effect W ε Unit) → Effect W ε Unit
  | [], _ => pure ()
  | a :: rest, f => do
    f a
    forEach rest f

@[simp] theorem pure_apply (a : α) (w : W) : (pure a : Effect W ε α) w = (.ok a, w) := rfl

@[simp] theorem fail_apply (e : ε) (w : W) : (fail e : Effect W ε α) w = (.error e, w) := rfl

@[simp] theorem attempt_apply (x : Effect W ε α) (w : W) :
    attempt x w = (.ok (x w).1, (x w).2) := rfl

theorem bind_apply (x : Effect W ε α) (f : α → Effect W ε β) (w : W) :
    (x >>= f) w = match x w with
      | (.ok a, w') => f a w'
      | (.error e, w') => (.error e, w') := rfl

theorem bind_of_ok {x : Effect W ε α} {f : α → Effect W ε β} {w w' : W} {a : α}
    (h : x w = (.ok a, w')) : (x >>= f) w = f a w' := by
  rw [bind_apply, h]

theorem bind_of_error {x : Effect W ε α} {f : α → Effect W ε β} {w w' : W} {e : ε}
    (h : x w = (.error e, w')) : (x >>= f) w = (.error e, w') := by
  rw [bind_apply, h]

/-- A sequence succeeds if both parts do. -/
theorem bind_eq_ok {x : Effect W ε α} {f : α → Effect W ε β} {w w' : W} {b : β} :
    (x >>= f) w = (.ok b, w') ↔ ∃ a w₁, x w = (.ok a, w₁) ∧ f a w₁ = (.ok b, w') := by
  rw [bind_apply]
  cases hx : x w with
  | mk result w₁ =>
      cases result with
      | ok a =>
          constructor
          · intro h
            exact ⟨a, w₁, rfl, h⟩
          · rintro ⟨a', w₂, heq, h⟩
            cases heq
            exact h
      | error e =>
          constructor
          · intro h
            cases h
          · rintro ⟨a', w₂, heq, -⟩
            cases heq

/-! ## Triples -/

/-- From a world with `P`, the computation ends in `Q` with its value or in `E` with its error, as
    far as the worlds are seen through `view`. -/
def Spec {S : Type} (view : W → S) (P : S → Prop) (x : Effect W ε α) (Q : α → S → Prop)
    (E : ε → S → Prop) : Prop :=
  ∀ w, P (view w) → match x w with
    | (.ok a, w') => Q a (view w')
    | (.error e, w') => E e (view w')

namespace Spec

variable {S : Type} {view : W → S} {P P' : S → Prop} {x : Effect W ε α} {Q Q' : α → S → Prop}
  {E E' : ε → S → Prop}

theorem of_ok (h : Spec view P x Q E) {w w' : W} {a : α} (hw : P (view w))
    (hx : x w = (.ok a, w')) : Q a (view w') := by
  have := h w hw
  rwa [hx] at this

theorem of_error (h : Spec view P x Q E) {w w' : W} {e : ε} (hw : P (view w))
    (hx : x w = (.error e, w')) : E e (view w') := by
  have := h w hw
  rwa [hx] at this

/-- What holds however the computation ends. -/
theorem ends {R : S → Prop} (h : Spec view P x (fun _ => R) (fun _ => R)) {w : W}
    (hw : P (view w)) : R (view (x w).2) := by
  have := h w hw
  cases hx : x w with
  | mk result w' =>
      rw [hx] at this
      cases result with
      | ok a => exact this
      | error e => exact this

theorem of_ends {R : S → Prop} (h : ∀ w, P (view w) → R (view (x w).2)) :
    Spec view P x (fun _ => R) (fun _ => R) := by
  intro w hw
  have hR := h w hw
  cases hx : x w with
  | mk result w' =>
      rw [hx] at hR
      cases result with
      | ok a => exact hR
      | error e => exact hR

/-- A stronger precondition and weaker postconditions. -/
theorem mono (h : Spec view P x Q E) (hP : ∀ s, P' s → P s) (hQ : ∀ a s, Q a s → Q' a s)
    (hE : ∀ e s, E e s → E' e s) : Spec view P' x Q' E' := by
  intro w hw
  have := h w (hP (view w) hw)
  cases hx : x w with
  | mk result w' =>
      rw [hx] at this
      cases result with
      | ok a => exact hQ a (view w') this
      | error e => exact hE e (view w') this

theorem pure {a : α} (h : ∀ s, P s → Q a s) : Spec view P (Pure.pure a : Effect W ε α) Q E :=
  fun w hw => h (view w) hw

theorem fail {e : ε} (h : ∀ s, P s → E e s) : Spec view P (Effect.fail e : Effect W ε α) Q E :=
  fun w hw => h (view w) hw

/-- What a precondition says beside the state can be assumed. -/
theorem given {φ : Prop} (h : φ → Spec view P x Q E) : Spec view (fun s => P s ∧ φ) x Q E :=
  fun w hw => h hw.2 w hw.1

/-- One state at a time. -/
theorem of_state (h : ∀ s, P s → Spec view (fun s' => s' = s) x Q E) : Spec view P x Q E :=
  fun w hw => h (view w) hw w rfl

/-- Two things that are known of one computation. -/
theorem and {Q' : α → S → Prop} (h : Spec view P x Q E) (h' : Spec view P x Q' E') :
    Spec view P x (fun a s => Q a s ∧ Q' a s) (fun e s => E e s ∧ E' e s) := by
  intro w hw
  cases hxw : x w with
  | mk result w' =>
      cases result with
      | ok a => exact ⟨h.of_ok hw hxw, h'.of_ok hw hxw⟩
      | error e => exact ⟨h.of_error hw hxw, h'.of_error hw hxw⟩

theorem bind {f : α → Effect W ε β} {R : β → S → Prop} (hx : Spec view P x Q E')
    (hE : ∀ e s, E' e s → E e s) (hf : ∀ a, Spec view (Q a) (f a) R E) :
    Spec view P (x >>= f) R E := by
  intro w hw
  rw [bind_apply]
  cases hxw : x w with
  | mk result w' =>
      cases result with
      | ok a => exact hf a w' (hx.of_ok hw hxw)
      | error e => exact hE e (view w') (hx.of_error hw hxw)

/-- Both outcomes of the first part are gone on with. -/
theorem attempt_bind {f : Except ε α → Effect W ε β} {R : β → S → Prop}
    (hx : Spec view P x Q E') (hok : ∀ a, Spec view (Q a) (f (.ok a)) R E)
    (herror : ∀ e, Spec view (E' e) (f (.error e)) R E) :
    Spec view P (Effect.attempt x >>= f) R E := by
  intro w hw
  rw [bind_apply, attempt_apply]
  cases hxw : x w with
  | mk result w' =>
      cases result with
      | ok a => exact hok a w' (hx.of_ok hw hxw)
      | error e => exact herror e w' (hx.of_error hw hxw)

/-- A loop keeps what each of its rounds keeps. -/
theorem forEach {l : List α} {f : α → Effect W ε Unit} {I : S → Prop}
    (hf : ∀ a ∈ l, Spec view I (f a) (fun _ => I) E) :
    Spec view I (Effect.forEach l f) (fun _ => I) E := by
  induction l with
  | nil => exact Spec.pure fun s hs => hs
  | cons a rest ih =>
      exact (hf a List.mem_cons_self).bind (fun _ _ h => h) fun _ =>
        ih fun b hb => hf b (List.mem_cons_of_mem _ hb)

/-- A loop, with what holds after each part of its list. -/
theorem forEach_upto {l : List α} {f : α → Effect W ε Unit} {I : List α → S → Prop}
    (hf : ∀ done a rest, l = done ++ a :: rest → Spec view (I done) (f a) (fun _ => I (done ++ [a])) E) :
    Spec view (I []) (Effect.forEach l f) (fun _ => I l) E := by
  suffices h : ∀ rest done, l = done ++ rest →
      Spec view (I done) (Effect.forEach rest f) (fun _ => I l) E from h l [] rfl
  intro rest
  induction rest with
  | nil =>
      intro done hl
      rw [List.append_nil] at hl
      exact Spec.pure fun s hs => hl ▸ hs
  | cons a rest ih =>
      intro done hl
      exact (hf done a rest hl).bind (fun _ _ h => h) fun _ => ih (done ++ [a]) (by simpa using hl)

end Spec

end Effect
