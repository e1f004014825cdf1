import Mathlib

set_option autoImplicit false

/-! # What Go leaves open: map iteration and `sort.Slice`

`range` over a map visits every entry once, in an order the language does not specify;
`sort.Slice` orders a slice by a key and leaves the order of equal keys open. A function of the
program that uses either takes the choice as an argument, so that a theorem about it holds for
every choice.

An order of iteration is a function on lists of entries that rearranges them. Every `range` of a
program has one of its own, so that two iterations of one map may go differently. A sorter is given
with the laws that its result is sorted and a rearrangement. Results that do not depend on the
choice are proved by `List.Perm`, or from the fact that a sorted list in which equal keys mean equal
elements is determined by its elements. -/

/-- One iteration order of `range` over a map, as a rearrangement of the entries. -/
structure MapOrder where
  visit : {α : Type} → List α → List α
  perm : ∀ {α : Type} (l : List α), (visit l).Perm l

namespace MapOrder

/-- The entries in the order they were inserted. -/
def inserted : MapOrder := ⟨fun l => l, fun l => List.Perm.refl l⟩

/-- The entries in the reverse of the order they were inserted. -/
def reversed : MapOrder := ⟨List.reverse, fun l => List.reverse_perm l⟩

/-- The entries from the `k`-th on, then those before it. -/
def rotated (k : Nat) : MapOrder := ⟨fun l => l.rotate k, fun l => List.rotate_perm l k⟩

theorem mem_visit (order : MapOrder) {α : Type} {l : List α} {a : α} :
    a ∈ order.visit l ↔ a ∈ l :=
  (order.perm l).mem_iff

@[simp] theorem visit_nil (order : MapOrder) {α : Type} : order.visit ([] : List α) = [] :=
  (order.perm []).eq_nil

end MapOrder

/-- An implementation of `sort.Slice` with a less function that compares keys. -/
structure SliceSorter where
  sort : {α κ : Type} → [LinearOrder κ] → (α → κ) → List α → List α
  perm : ∀ {α κ : Type} [LinearOrder κ] (key : α → κ) (l : List α), (sort key l).Perm l
  sorted : ∀ {α κ : Type} [LinearOrder κ] (key : α → κ) (l : List α),
    (sort key l).Pairwise (fun a b => key a ≤ key b)

namespace SliceSorter

/-- Insertion sort, which `sort.Slice` uses for slices of at most 12 elements. -/
def insertion : SliceSorter where
  sort key l := l.insertionSort (fun a b => key a ≤ key b)
  perm key l := List.perm_insertionSort _ l
  sorted key l := by
    have : Std.Total (fun a b => key a ≤ key b) := ⟨fun a b => le_total (key a) (key b)⟩
    have : IsTrans _ (fun a b => key a ≤ key b) := ⟨fun _ _ _ h h' => le_trans h h'⟩
    exact List.pairwise_insertionSort _ l

theorem mem_sort (sorter : SliceSorter) {α κ : Type} [LinearOrder κ] {key : α → κ} {l : List α}
    {a : α} : a ∈ sorter.sort key l ↔ a ∈ l :=
  (sorter.perm key l).mem_iff

end SliceSorter

/-- A sorted list is determined by its elements, as long as equal keys mean equal elements. -/
theorem List.Perm.eq_of_sorted_by {α κ : Type} [LinearOrder κ] {key : α → κ} {l l' : List α}
    (hperm : l.Perm l') (hl : l.Pairwise (fun a b => key a ≤ key b))
    (hl' : l'.Pairwise (fun a b => key a ≤ key b))
    (hkey : ∀ a ∈ l, ∀ b ∈ l, key a = key b → a = b) : l = l' := by
  refine @List.Perm.eq_of_pairwise _ (fun a b => key a ≤ key b) _ _ ?_ hl hl' hperm
  intro a b ha hb hab hba
  exact hkey a ha b (hperm.mem_iff.2 hb) (le_antisymm hab hba)
