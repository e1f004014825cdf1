import Mathlib

set_option autoImplicit false

/-! # Computations that can fail

`Except` is the model of a Go function that returns a value and an error. What is used of it: a
composition succeeds when both parts do, and a loop that stops at the first error succeeds when it
does so for every element, in any order.

The equations turn a statement about the outcome of a composite computation into statements about
its parts, from the outside in, and are rewritten with. For a loop the interesting question is
mostly whether it succeeds at all: `mapM_eq_ok_iff` answers it by a condition on the elements, and
`mapM_perm` says that the answer, and up to its order the result, does not depend on the order of
the elements. That is what is needed when a program ranges over a map. -/

namespace Fallible

variable {ε α β : Type}

theorem bind_eq_ok {x : Except ε α} {f : α → Except ε β} {b : β} :
    (x >>= f) = .ok b ↔ ∃ a, x = .ok a ∧ f a = .ok b := by
  cases x with
  | error e =>
      constructor
      · intro h
        cases h
      · rintro ⟨a, ha, -⟩
        cases ha
  | ok a =>
      constructor
      · intro h
        exact ⟨a, rfl, h⟩
      · rintro ⟨a', ha, h⟩
        cases ha
        exact h

theorem bind_eq_error {x : Except ε α} {f : α → Except ε β} {e : ε} :
    (x >>= f) = .error e ↔ x = .error e ∨ ∃ a, x = .ok a ∧ f a = .error e := by
  cases x with
  | error e' =>
      constructor
      · intro h
        cases h
        exact Or.inl rfl
      · rintro (h | ⟨a, ha, -⟩)
        · cases h
          rfl
        · cases ha
  | ok a =>
      constructor
      · intro h
        exact Or.inr ⟨a, rfl, h⟩
      · rintro (h | ⟨a', ha, h⟩)
        · cases h
        · cases ha
          exact h

theorem pure_eq_ok {a b : α} : (pure a : Except ε α) = .ok b ↔ a = b := by
  constructor
  · intro h
    cases h
    rfl
  · rintro rfl
    rfl

theorem mapM_cons_eq_ok {f : α → Except ε β} {a : α} {l : List α} {r : List β} :
    (a :: l).mapM f = .ok r ↔ ∃ b bs, f a = .ok b ∧ l.mapM f = .ok bs ∧ b :: bs = r := by
  rw [List.mapM_cons, bind_eq_ok]
  constructor
  · rintro ⟨b, hb, h⟩
    obtain ⟨bs, hbs, hr⟩ := bind_eq_ok.1 h
    exact ⟨b, bs, hb, hbs, pure_eq_ok.1 hr⟩
  · rintro ⟨b, bs, hb, hbs, hr⟩
    exact ⟨b, hb, bind_eq_ok.2 ⟨bs, hbs, pure_eq_ok.2 hr⟩⟩

theorem mapM_eq_error {f : α → Except ε β} {l : List α} {e : ε} (h : l.mapM f = .error e) :
    ∃ a ∈ l, f a = .error e := by
  induction l with
  | nil => cases h
  | cons a l ih =>
      rw [List.mapM_cons] at h
      rcases bind_eq_error.1 h with ha | ⟨b, -, h⟩
      · exact ⟨a, List.mem_cons_self, ha⟩
      · rcases bind_eq_error.1 h with hl | ⟨bs, -, hpure⟩
        · obtain ⟨a', ha', he⟩ := ih hl
          exact ⟨a', List.mem_cons_of_mem _ ha', he⟩
        · cases hpure

/-- A loop over a function that succeeds exactly where `p` holds. -/
theorem mapM_eq_ok_iff {f : α → Except ε β} {p : α → Prop} {g : α → β}
    (hf : ∀ a b, f a = .ok b ↔ p a ∧ b = g a) {l : List α} {r : List β} :
    l.mapM f = .ok r ↔ (∀ a ∈ l, p a) ∧ r = l.map g := by
  induction l generalizing r with
  | nil =>
      show (pure [] : Except ε (List β)) = .ok r ↔ _
      rw [pure_eq_ok]
      simp [eq_comm]
  | cons a l ih =>
      rw [mapM_cons_eq_ok, List.forall_mem_cons]
      constructor
      · rintro ⟨b, bs, hb, hbs, rfl⟩
        obtain ⟨ha, rfl⟩ := (hf a b).1 hb
        obtain ⟨hl, rfl⟩ := ih.1 hbs
        exact ⟨⟨ha, hl⟩, rfl⟩
      · rintro ⟨⟨ha, hl⟩, rfl⟩
        exact ⟨g a, l.map g, (hf a _).2 ⟨ha, rfl⟩, ih.2 ⟨hl, rfl⟩, rfl⟩

theorem exists_mapM_eq_ok {f : α → Except ε β} {l : List α} (h : ∀ a ∈ l, ∃ b, f a = .ok b) :
    ∃ r, l.mapM f = .ok r := by
  cases hr : l.mapM f with
  | ok r => exact ⟨r, rfl⟩
  | error e =>
      obtain ⟨a, ha, hfa⟩ := mapM_eq_error hr
      obtain ⟨b, hb⟩ := h a ha
      exact nomatch hb.symm.trans hfa

theorem mem_mapM_iff {f : α → Except ε β} {l : List α} {r : List β} (h : l.mapM f = .ok r) {b : β} :
    b ∈ r ↔ ∃ a ∈ l, f a = .ok b := by
  induction l generalizing r with
  | nil =>
      cases h
      simp
  | cons a l ih =>
      obtain ⟨b', bs, hb', hbs, rfl⟩ := mapM_cons_eq_ok.1 h
      simp [ih hbs, hb', eq_comm]

/-- What each step keeps, the whole loop keeps. -/
theorem mapM_map_eq {γ : Type} {f : α → Except ε β} {g : β → γ} {h : α → γ}
    (hf : ∀ a b, f a = .ok b → g b = h a) {l : List α} {r : List β} (hr : l.mapM f = .ok r) :
    r.map g = l.map h := by
  induction l generalizing r with
  | nil =>
      cases hr
      rfl
  | cons a l ih =>
      obtain ⟨b, bs, hb, hbs, rfl⟩ := mapM_cons_eq_ok.1 hr
      rw [List.map_cons, List.map_cons, hf a b hb, ih hbs]

theorem foldlM_preserves {σ : Type} {f : σ → α → Except ε σ} {p : σ → Prop}
    (hf : ∀ s a s', f s a = .ok s' → p s → p s') {l : List α} {s s' : σ}
    (h : l.foldlM f s = .ok s') (hs : p s) : p s' := by
  induction l generalizing s with
  | nil =>
      cases h
      exact hs
  | cons a l ih =>
      rw [List.foldlM_cons] at h
      obtain ⟨s₁, h₁, h⟩ := bind_eq_ok.1 h
      exact ih h (hf s a s₁ h₁ hs)

theorem mapM_perm {f : α → Except ε β} {l l' : List α} (hperm : l.Perm l') {r : List β}
    (h : l.mapM f = .ok r) : ∃ r', l'.mapM f = .ok r' ∧ r'.Perm r := by
  induction hperm generalizing r with
  | nil => exact ⟨r, h, List.Perm.refl r⟩
  | cons a _ ih =>
      obtain ⟨b, bs, hb, hbs, rfl⟩ := mapM_cons_eq_ok.1 h
      obtain ⟨bs', hbs', hp⟩ := ih hbs
      exact ⟨b :: bs', mapM_cons_eq_ok.2 ⟨b, bs', hb, hbs', rfl⟩, hp.cons b⟩
  | swap a a' l =>
      obtain ⟨b, bs, hb, hbs, rfl⟩ := mapM_cons_eq_ok.1 h
      obtain ⟨b', bs', hb', hbs', rfl⟩ := mapM_cons_eq_ok.1 hbs
      exact ⟨b' :: b :: bs', mapM_cons_eq_ok.2 ⟨b', b :: bs', hb',
        mapM_cons_eq_ok.2 ⟨b, bs', hb, hbs', rfl⟩, rfl⟩, List.Perm.swap _ _ _⟩
  | trans _ _ ih₁ ih₂ =>
      obtain ⟨r₁, h₁, hp₁⟩ := ih₁ h
      obtain ⟨r₂, h₂, hp₂⟩ := ih₂ h₁
      exact ⟨r₂, h₂, hp₂.trans hp₁⟩

end Fallible
