import MultiClusterGateway.Lib.Text

set_option autoImplicit false

/-! # Domain names and their parents

The parent of a name is what follows its first dot, and a name is below another if it is that one
with labels in front. The names below a given one are then its parent and the names that the parent
is below (`below_iff`), which is what a search from label to label needs.

Names are lists of labels only implicitly: the definitions cut the text at its first dot, as a
program does that walks up a name with `strings.SplitN`. A search by recursion on the text then
visits exactly the names that a given one is below, and a property of all of them is proved along
`below_iff`. -/

namespace Domain

/-- What is before and after the first dot. -/
def cut : List Char → Option (List Char × List Char)
  | [] => none
  | c :: rest =>
    if c = '.' then some ([], rest) else (cut rest).map (fun parts => (c :: parts.1, parts.2))

/-- The second part of `strings.SplitN(s, ".", 2)`, if there is one. -/
def parent? (s : String) : Option String := (cut s.toList).map (fun parts => String.ofList parts.2)

/-- The name is `d` with one or more labels in front. -/
def Below (d name : String) : Prop := ∃ labels, name = labels ++ "." ++ d

theorem cut_eq_some {l a b : List Char} : cut l = some (a, b) ↔ l = a ++ '.' :: b ∧ '.' ∉ a := by
  induction l generalizing a with
  | nil => simp [cut]
  | cons c rest ih =>
      unfold cut
      by_cases hc : c = '.'
      · rw [if_pos hc, hc]
        constructor
        · rintro ⟨⟩
          simp
        · rintro ⟨h, ha⟩
          obtain ⟨rfl, rfl⟩ := Text.list_split_at (List.not_mem_nil) ha (show [] ++ '.' :: rest = _ from h)
          rfl
      · rw [if_neg hc]
        constructor
        · intro h
          obtain ⟨⟨a', b'⟩, hcut, hab⟩ := Option.map_eq_some_iff.1 h
          cases hab
          obtain ⟨rfl, ha'⟩ := ih.1 hcut
          exact ⟨rfl, by simp [ha', Ne.symm hc]⟩
        · rintro ⟨h, ha⟩
          cases a with
          | nil =>
              cases h
              exact absurd rfl hc
          | cons c' a' =>
              cases h
              rw [ih.2 ⟨rfl, fun hmem => ha (List.mem_cons_of_mem _ hmem)⟩]
              rfl

theorem cut_eq_none {l : List Char} : cut l = none ↔ '.' ∉ l := by
  induction l with
  | nil => simp [cut]
  | cons c rest ih =>
      unfold cut
      by_cases hc : c = '.'
      · simp [hc]
      · simp [hc, ih, Ne.symm hc]

theorem parent?_eq_some {s p : String} :
    parent? s = some p ↔ ∃ label, Text.DotFree label ∧ s = label ++ "." ++ p := by
  unfold parent?
  constructor
  · intro h
    obtain ⟨⟨a, b⟩, hcut, rfl⟩ := Option.map_eq_some_iff.1 h
    obtain ⟨hs, ha⟩ := cut_eq_some.1 hcut
    refine ⟨String.ofList a, by simpa [Text.DotFree] using ha, ?_⟩
    apply String.toList_inj.1
    simp [hs]
  · rintro ⟨label, hlabel, rfl⟩
    have hcut : cut (label ++ "." ++ p).toList = some (label.toList, p.toList) :=
      cut_eq_some.2 ⟨by simp, hlabel⟩
    rw [hcut]
    simp

theorem parent?_eq_none {s : String} : parent? s = none ↔ Text.DotFree s := by
  unfold parent?
  rw [Option.map_eq_none_iff]
  exact cut_eq_none

theorem below_of_parent? {s p : String} (h : parent? s = some p) : Below p s := by
  obtain ⟨label, -, rfl⟩ := parent?_eq_some.1 h
  exact ⟨label, rfl⟩

/-- A name is below its parent and what the parent is below. -/
theorem below_iff {s p d : String} (h : parent? s = some p) : Below d s ↔ d = p ∨ Below d p := by
  obtain ⟨label, hlabel, rfl⟩ := parent?_eq_some.1 h
  constructor
  · rintro ⟨labels, hs⟩
    cases hcut : parent? labels with
    | none =>
        have hsplit := @Text.split_at '.' label labels p d hlabel (parent?_eq_none.1 hcut) hs
        exact Or.inl hsplit.2.symm
    | some rest =>
        -- the first of the labels is the one of the name
        obtain ⟨first, hfirst, rfl⟩ := parent?_eq_some.1 hcut
        have hs' : label ++ "." ++ p = first ++ "." ++ (rest ++ "." ++ d) := by
          rw [hs]
          simp only [String.append_assoc]
        have hsplit := @Text.split_at '.' label first p (rest ++ "." ++ d) hlabel hfirst hs'
        exact Or.inr ⟨rest, hsplit.2⟩
  · rintro (rfl | ⟨labels, rfl⟩)
    · exact ⟨label, rfl⟩
    · exact ⟨label ++ "." ++ labels, by simp only [String.append_assoc]⟩

theorem Below.length_lt {d name : String} (h : Below d name) : d.length < name.length := by
  obtain ⟨labels, rfl⟩ := h
  have hdot : ".".length = 1 := by decide
  simp only [String.length_append, hdot]
  omega

theorem Below.append {d name : String} (labels : String) (h : Below d name) :
    Below d (labels ++ name) := by
  obtain ⟨inner, rfl⟩ := h
  exact ⟨labels ++ inner, by simp only [String.append_assoc]⟩

end Domain
