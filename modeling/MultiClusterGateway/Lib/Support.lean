import Mathlib

set_option autoImplicit false

/-! # Pruning a list to its greatest self-supporting part

An element may stay in a list if it is anchored or has a child there. Deleting elements that may
not stay can take away the children of others, so one goes on until nothing is left to delete.
The order of the deletions does not matter: whatever is deleted and whenever, what remains is the
part of the list formed by the largest set of elements that support each other
(`Deletes.eq_filter_kept`). -/

namespace Support

variable {α : Type} (anchored : α → Prop) (child : α → α → Prop)

/-- `e` may stay in `l`. -/
def Supported (l : List α) (e : α) : Prop :=
  anchored e ∨ ∃ x ∈ l, child e x

/-- Nothing is left to delete from `l`. -/
def SelfSupporting (l : List α) : Prop :=
  ∀ e ∈ l, Supported anchored child l e

/-- Within `l`, the elements with property `P` support each other. -/
def ClosedOn (l : List α) (P : α → Prop) : Prop :=
  ∀ e ∈ l, P e → anchored e ∨ ∃ x ∈ l, P x ∧ child e x

/-- `e` belongs to some set of elements of `l` that support each other, so to the largest one. -/
def Kept (l : List α) (e : α) : Prop :=
  ∃ P, ClosedOn anchored child l P ∧ P e

/-- `l'` is what remains of `l` after some deletions, each of an element that could not stay in
    what was left at the time. -/
inductive Deletes : List α → List α → Prop
  | refl (l : List α) : Deletes l l
  | step {front back l' : List α} {e : α} (h : ¬ Supported anchored child (front ++ e :: back) e)
      (hrest : Deletes (front ++ back) l') : Deletes (front ++ e :: back) l'

variable {anchored child}

theorem Deletes.trans {l l' l'' : List α} (h : Deletes anchored child l l')
    (h' : Deletes anchored child l' l'') : Deletes anchored child l l'' := by
  induction h with
  | refl l => exact h'
  | step hns _ ih => exact .step hns (ih h')

theorem Deletes.sublist {l l' : List α} (h : Deletes anchored child l l') : l'.Sublist l := by
  induction h with
  | refl l => exact List.Sublist.refl l
  | step _ _ ih =>
      exact ih.trans (List.Sublist.append (List.Sublist.refl _) (List.sublist_cons_self _ _))

/-- The part of the list that supports itself is never touched. -/
theorem Deletes.filter_eq {l l' : List α} (h : Deletes anchored child l l') {p : α → Bool}
    (hp : ClosedOn anchored child l (fun e => p e = true)) : l'.filter p = l.filter p := by
  induction h with
  | refl l => rfl
  | @step front back l' e hns _ ih =>
      have hpe : ¬ p e = true := by
        intro hpe
        apply hns
        rcases hp e (by simp) hpe with ha | ⟨x, hx, -, hc⟩
        · exact Or.inl ha
        · exact Or.inr ⟨x, hx, hc⟩
      have hclosed : ClosedOn anchored child (front ++ back) (fun e => p e = true) := by
        intro a ha hpa
        have ha' : a ∈ front ++ e :: back := by
          simp only [List.mem_append, List.mem_cons] at ha ⊢
          tauto
        rcases hp a ha' hpa with hanch | ⟨x, hx, hpx, hc⟩
        · exact Or.inl hanch
        · refine Or.inr ⟨x, ?_, hpx, hc⟩
          have hxe : x ≠ e := fun h => hpe (h ▸ hpx)
          simp only [List.mem_append, List.mem_cons] at hx ⊢
          tauto
      rw [ih hclosed]
      simp [List.filter_append, hpe]

theorem closedOn_kept (l : List α) : ClosedOn anchored child l (Kept anchored child l) := by
  rintro e he ⟨P, hP, hPe⟩
  rcases hP e he hPe with ha | ⟨x, hx, hPx, hc⟩
  · exact Or.inl ha
  · exact Or.inr ⟨x, hx, ⟨P, hP, hPx⟩, hc⟩

/-- What is kept of a list depends only on the elements that are kept. -/
theorem Kept.of_subset {l l' : List α} (hsub : ∀ e ∈ l, Kept anchored child l e → e ∈ l') {e : α}
    (he : e ∈ l) (h : Kept anchored child l e) : Kept anchored child l' e := by
  refine ⟨fun x => x ∈ l ∧ Kept anchored child l x, ?_, he, h⟩
  rintro a - ⟨ha, hkept⟩
  rcases closedOn_kept l a ha hkept with hanch | ⟨x, hx, hxkept, hc⟩
  · exact Or.inl hanch
  · exact Or.inr ⟨x, hsub x hx hxkept, ⟨hx, hxkept⟩, hc⟩

open Classical in
/-- Whatever the order of the deletions, once nothing is left to delete the list is cut down to
    its greatest self-supporting part. -/
theorem Deletes.eq_filter_kept {l l' : List α} (h : Deletes anchored child l l')
    (hl' : SelfSupporting anchored child l') :
    l' = l.filter (fun e => decide (Kept anchored child l e)) := by
  have hkept : ∀ e ∈ l', Kept anchored child l e := by
    intro e he
    refine ⟨fun x => x ∈ l', fun a _ ha => ?_, he⟩
    rcases hl' a ha with hanch | ⟨x, hx, hc⟩
    · exact Or.inl hanch
    · exact Or.inr ⟨x, h.sublist.subset hx, hx, hc⟩
  have hclosed : ClosedOn anchored child l
      (fun e => decide (Kept anchored child l e) = true) := by
    simpa only [decide_eq_true_eq] using closedOn_kept l
  rw [← h.filter_eq hclosed]
  exact (List.filter_eq_self.2 (fun e he => decide_eq_true (hkept e he))).symm

end Support
