import Mathlib

set_option autoImplicit false

/-! # A heap of cells

Code that stores pointers in maps and slices and writes through them later is modelled over an
explicit heap: a pointer is the index of a cell, `alloc` adds a cell at the end, `modify` rewrites
one in place. `Heap.run` executes a list of *requests*, each of which rewrites the cell a partial
map of pointers gives for its key, or allocates a fresh one. `Heap.run_read` says what the
pointers it returns denote once all requests have been executed: a cell that was requested several
times carries all of the rewrites, a fresh cell only its own. -/

/-- Cells addressed by their position. -/
structure Heap (α : Type) where
  cells : List α

namespace Heap

variable {α : Type}

/-- A position on the heap. -/
abbrev Ptr := Nat

/-- How many values there are. -/
def size (h : Heap α) : Nat := h.cells.length

/-- The value at a pointer. -/
def read [Inhabited α] (h : Heap α) (p : Ptr) : α := h.cells.getD p default

/-- A new value, and the pointer to it. -/
def alloc (h : Heap α) (a : α) : Ptr × Heap α := (h.cells.length, ⟨h.cells ++ [a]⟩)

/-- Change the value at a pointer. -/
def modify (h : Heap α) (p : Ptr) (f : α → α) : Heap α := ⟨h.cells.modify p f⟩

@[simp] theorem size_alloc (h : Heap α) (a : α) : (h.alloc a).2.size = h.size + 1 := by
  simp [alloc, size]

@[simp] theorem size_modify (h : Heap α) (p : Ptr) (f : α → α) : (h.modify p f).size = h.size := by
  simp [modify, size]

@[simp] theorem alloc_fst (h : Heap α) (a : α) : (h.alloc a).1 = h.size := rfl

section
variable [Inhabited α]

theorem read_alloc_of_lt (h : Heap α) (a : α) {p : Ptr} (hp : p < h.size) :
    (h.alloc a).2.read p = h.read p := by
  simp only [read, alloc, List.getD_eq_getElem?_getD]
  rw [List.getElem?_append_left hp]

@[simp] theorem read_alloc_self (h : Heap α) (a : α) : (h.alloc a).2.read h.size = a := by
  simp [read, alloc, size]

theorem read_modify_self (h : Heap α) {p : Ptr} (f : α → α) (hp : p < h.size) :
    (h.modify p f).read p = f (h.read p) := by
  have hp' : p < h.cells.length := hp
  simp [read, modify, hp']

theorem read_modify_of_ne (h : Heap α) {p q : Ptr} (f : α → α) (hpq : p ≠ q) :
    (h.modify p f).read q = h.read q := by
  simp [read, modify, hpq]

end

theorem modify_alloc_comm (h : Heap α) {p : Ptr} (f : α → α) (a : α) (hp : p < h.size) :
    ((h.modify p f).alloc a).2 = (h.alloc a).2.modify p f := by
  have hp' : p < h.cells.length := hp
  simp only [modify, alloc]
  congr 1
  apply List.ext_getElem?
  intro i
  simp only [List.getElem?_modify, List.getElem?_append, List.length_modify]
  by_cases hpi : p = i
  · subst hpi
    simp [hp']
  · simp [hpi]

theorem modify_modify (h : Heap α) (p : Ptr) (f g : α → α) :
    (h.modify p f).modify p g = h.modify p (fun a => g (f a)) := by
  simp only [modify]
  congr 1
  apply List.ext_getElem?
  intro i
  simp only [List.getElem?_modify, Option.map_eq_map, Option.map_map]
  by_cases hp : p = i <;> simp [hp, Function.comp_def]

theorem modify_alloc_self (h : Heap α) (a : α) (f : α → α) :
    (h.alloc a).2.modify h.size f = (h.alloc (f a)).2 := by
  simp only [modify, alloc, size]
  congr 1
  apply List.ext_getElem?
  intro i
  simp only [List.getElem?_modify, List.getElem?_append]
  by_cases hi : i < h.cells.length
  · have hne : ¬ h.cells.length = i := by omega
    simp [hi, hne]
  · by_cases heq : h.cells.length = i
    · subst heq
      simp
    · have hlen : 1 ≤ i - h.cells.length := by omega
      simp only [if_neg hi, if_neg heq, id_map']
      rw [List.getElem?_eq_none hlen, List.getElem?_eq_none hlen]

theorem modify_modify_comm (h : Heap α) {p q : Ptr} (f g : α → α) (hpq : p ≠ q) :
    (h.modify p f).modify q g = (h.modify q g).modify p f := by
  simp only [modify]
  congr 1
  apply List.ext_getElem?
  intro i
  simp only [List.getElem?_modify]
  by_cases hp : p = i
  · subst hp
    simp [Ne.symm hpq]
  · simp [hp]

/-! ## Changing the cells of a list of pointers -/

/-- Rewrite, one after the other, the cells of the pointers that meet a condition. -/
def modifyWhere [Inhabited α] (ptrs : List Ptr) (c : α → Bool) (f : α → α) (h : Heap α) : Heap α :=
  ptrs.foldl (fun h p => if c (h.read p) then h.modify p f else h) h

@[simp] theorem modifyWhere_nil [Inhabited α] (c : α → Bool) (f : α → α) (h : Heap α) :
    h.modifyWhere [] c f = h := rfl

@[simp] theorem modifyWhere_cons [Inhabited α] (p : Ptr) (ptrs : List Ptr) (c : α → Bool)
    (f : α → α) (h : Heap α) : h.modifyWhere (p :: ptrs) c f
      = (if c (h.read p) then h.modify p f else h).modifyWhere ptrs c f := rfl

@[simp] theorem size_modifyWhere [Inhabited α] (ptrs : List Ptr) (c : α → Bool) (f : α → α)
    (h : Heap α) : (h.modifyWhere ptrs c f).size = h.size := by
  induction ptrs generalizing h with
  | nil => rfl
  | cons p ptrs ih =>
      rw [modifyWhere_cons, ih]
      split
      · exact size_modify h p f
      · rfl

theorem read_modifyWhere [Inhabited α] {ptrs : List Ptr} (hnodup : ptrs.Nodup) (c : α → Bool)
    (f : α → α) {h : Heap α} (hlt : ∀ p ∈ ptrs, p < h.size) (q : Ptr) :
    (h.modifyWhere ptrs c f).read q
      = if q ∈ ptrs ∧ c (h.read q) = true then f (h.read q) else h.read q := by
  induction ptrs generalizing h with
  | nil => simp
  | cons p ptrs ih =>
      obtain ⟨hp, hnodup⟩ := List.nodup_cons.1 hnodup
      obtain ⟨hpsize, hlt⟩ := List.forall_mem_cons.1 hlt
      have hsize : (if c (h.read p) then h.modify p f else h).size = h.size := by
        split
        · exact size_modify h p f
        · rfl
      rw [modifyWhere_cons, ih hnodup fun r hr => by rw [hsize]; exact hlt r hr]
      by_cases hq : q = p
      · subst hq
        by_cases hc : c (h.read q) = true
        · simp [hp, hc, read_modify_self h f hpsize]
        · simp [hp, hc]
      · have hread : (if c (h.read p) then h.modify p f else h).read q = h.read q := by
          split
          · exact read_modify_of_ne h f (Ne.symm hq)
          · rfl
        rw [hread]
        simp [hq]

/-! ## Requests -/

/-- A request for the cell of a key: how an existing cell is rewritten, and the value of a fresh
    one. -/
structure Request (α : Type) where
  key : String
  assign : α → α
  fresh : α

/-- Execute one request. -/
def request (current : String → Option Ptr) (h : Heap α) (r : Request α) : Ptr × Heap α :=
  match current r.key with
  | some p => (p, h.modify p r.assign)
  | none => h.alloc r.fresh

/-- Execute requests in order, returning the pointer each one was answered with. -/
def run (current : String → Option Ptr) : List (Request α) → Heap α → List Ptr × Heap α
  | [], h => ([], h)
  | r :: rs, h =>
    let (p, h₁) := request current h r
    let (ps, h₂) := run current rs h₁
    (p :: ps, h₂)

/-- What the requests of `rs` make of the cell at `p`. -/
def rewrite (current : String → Option Ptr) (rs : List (Request α)) (p : Ptr) (a : α) : α :=
  rs.foldl (fun a r => if current r.key = some p then r.assign a else a) a

/-- What the pointer of request `r` denotes after all of `rs`. -/
def settled [Inhabited α] (current : String → Option Ptr) (h : Heap α) (rs : List (Request α)) (r : Request α) :
    α :=
  match current r.key with
  | some p => rewrite current rs p (h.read p)
  | none => r.fresh

section
variable {current : String → Option Ptr} {n : Nat}

/-- A request leaves alone, and does not notice, a change to a cell it does not name. -/
theorem request_modify (h : Heap α) (r : Request α) {p : Ptr} (f : α → α) (hp : p < h.size)
    (hne : current r.key ≠ some p) :
    request current (h.modify p f) r
      = ((request current h r).1, (request current h r).2.modify p f) := by
  unfold request
  cases hc : current r.key with
  | none =>
      have hfst : ((h.modify p f).alloc r.fresh).1 = (h.alloc r.fresh).1 := size_modify h p f
      exact Prod.ext hfst (modify_alloc_comm h f r.fresh hp)
  | some q =>
      have hpq : p ≠ q := fun he => hne (by rw [hc, he])
      exact Prod.ext rfl (modify_modify_comm h f r.assign hpq)

theorem size_le_size_request (h : Heap α) (r : Request α) :
    h.size ≤ (request current h r).2.size := by
  unfold request
  split <;> simp

theorem size_le_size_run (rs : List (Request α)) (h : Heap α) :
    h.size ≤ (run current rs h).2.size := by
  induction rs generalizing h with
  | nil => exact le_rfl
  | cons r rs ih => exact (size_le_size_request h r).trans (ih _)

variable [Inhabited α]

/-- A cell that exists before the requests is changed by those that name it, in order. -/
theorem read_run_of_lt (rs : List (Request α)) (h : Heap α) {p : Ptr} (hp : p < h.size) :
    (run current rs h).2.read p = rewrite current rs p (h.read p) := by
  induction rs generalizing h with
  | nil => rfl
  | cons r rs ih =>
      have hp₁ : p < (request current h r).2.size := lt_of_lt_of_le hp (size_le_size_request h r)
      have hread : (request current h r).2.read p
          = if current r.key = some p then r.assign (h.read p) else h.read p := by
        unfold request
        cases hc : current r.key with
        | none => simpa using read_alloc_of_lt h r.fresh hp
        | some q =>
            by_cases hqp : q = p
            · subst hqp
              simpa using read_modify_self h r.assign hp
            · simpa [hqp] using read_modify_of_ne h r.assign hqp
      have := ih (request current h r).2 hp₁
      rw [hread] at this
      exact this

omit [Inhabited α] in
theorem rewrite_of_forall_ne {rs : List (Request α)} {p : Ptr} (a : α)
    (h : ∀ r ∈ rs, ¬ current r.key = some p) : rewrite current rs p a = a := by
  unfold rewrite
  induction rs with
  | nil => rfl
  | cons r rs ih =>
      simp only [List.foldl_cons, if_neg (h r List.mem_cons_self)]
      exact ih (fun r' hr' => h r' (List.mem_cons_of_mem _ hr'))

/-- The pointers a run returns denote the settled values of its requests. -/
theorem run_read (hcur : ∀ k p, current k = some p → p < n) (rs : List (Request α))
    (h : Heap α) (hn : n ≤ h.size) :
    (run current rs h).1.map (run current rs h).2.read = rs.map (settled current h rs) := by
  induction rs generalizing h with
  | nil => rfl
  | cons r rs ih =>
      have hn₁ : n ≤ (request current h r).2.size := hn.trans (size_le_size_request h r)
      have htail := ih (request current h r).2 hn₁
      have hhead : (run current rs (request current h r).2).2.read (request current h r).1
          = settled current h (r :: rs) r := by
        cases hc : current r.key with
        | none =>
            have hreq : request current h r = h.alloc r.fresh := by simp [request, hc]
            rw [hreq, read_run_of_lt _ _ (by simp)]
            -- no request of the rest names the fresh cell: it lies beyond the mapped ones
            have hnone : ∀ r' ∈ rs, ¬ current r'.key = some h.size := fun r' _ hr' =>
              absurd (hcur _ _ hr') (Nat.not_lt.2 hn)
            simp only [settled, hc, alloc_fst, read_alloc_self]
            exact rewrite_of_forall_ne r.fresh hnone
        | some p =>
            have hreq : request current h r = (p, h.modify p r.assign) := by simp [request, hc]
            have hp : p < h.size := lt_of_lt_of_le (hcur _ _ hc) hn
            rw [hreq, read_run_of_lt _ _ (by simpa using hp), read_modify_self h r.assign hp]
            simp [settled, hc, rewrite]
      have hrest : rs.map (settled current (request current h r).2 rs)
          = rs.map (settled current h (r :: rs)) := by
        apply List.map_congr_left
        intro r' _
        unfold settled
        cases hc' : current r'.key with
        | none => rfl
        | some p' =>
            have hp' : p' < h.size := lt_of_lt_of_le (hcur _ _ hc') hn
            have h1 : (run current [r] h).2.read p' = rewrite current [r] p' (h.read p') :=
              read_run_of_lt [r] h hp'
            simp only [run, rewrite, List.foldl_cons, List.foldl_nil] at h1
            simp only [rewrite, List.foldl_cons]
            rw [h1]
      simp only [run, List.map_cons]
      rw [hhead, ← hrest]
      exact congrArg _ htail

omit [Inhabited α] in
theorem run_append (rs₁ rs₂ : List (Request α)) (h : Heap α) :
    run current (rs₁ ++ rs₂) h
      = ((run current rs₁ h).1 ++ (run current rs₂ (run current rs₁ h).2).1,
          (run current rs₂ (run current rs₁ h).2).2) := by
  induction rs₁ generalizing h with
  | nil => rfl
  | cons r rs₁ ih => simp only [List.cons_append, run, ih]

omit [Inhabited α] in
/-- A request is answered with the cell of its key, or with one the run has allocated. -/
theorem mem_zip_run (rs : List (Request α)) (h : Heap α) {x : Request α × Ptr}
    (hx : x ∈ rs.zip (run current rs h).1) :
    current x.1.key = some x.2 ∨ (current x.1.key = none ∧ h.size ≤ x.2) := by
  induction rs generalizing h with
  | nil => simp at hx
  | cons r rs ih =>
      simp only [run, List.zip_cons_cons, List.mem_cons] at hx
      rcases hx with rfl | hx
      · cases hc : current r.key with
        | none => exact Or.inr ⟨rfl, by simp [request, hc]⟩
        | some q => exact Or.inl (by simp [request, hc])
      · rcases ih _ hx with hmapped | ⟨hnone, hge⟩
        · exact Or.inl hmapped
        · exact Or.inr ⟨hnone, (size_le_size_request h r).trans hge⟩

omit [Inhabited α] in
/-- Two requests share a cell only if the map gives it for both of their keys. -/
theorem pairwise_zip_run (hcur : ∀ k p, current k = some p → p < n) (rs : List (Request α))
    (h : Heap α) (hn : n ≤ h.size) :
    (rs.zip (run current rs h).1).Pairwise (fun x y => x.2 = y.2 →
      current x.1.key = some x.2 ∧ current y.1.key = some y.2) := by
  induction rs generalizing h with
  | nil => simp
  | cons r rs ih =>
      have hn₁ : n ≤ (request current h r).2.size := hn.trans (size_le_size_request h r)
      simp only [run, List.zip_cons_cons, List.pairwise_cons]
      refine ⟨fun y hy heq => ?_, ih _ hn₁⟩
      have hy' := mem_zip_run rs (request current h r).2 hy
      cases hc : current r.key with
      | some q =>
          have hfst : (request current h r).1 = q := by simp [request, hc]
          have hqy : y.2 = q := heq.symm.trans hfst
          rcases hy' with hmapped | ⟨-, hge⟩
          · exact ⟨congrArg some hfst.symm, hmapped⟩
          · rw [hqy] at hge
            exact absurd (hcur _ _ hc) (Nat.not_lt.2 (hn₁.trans hge))
      | none =>
          -- the fresh cell lies beyond the mapped ones and before those allocated later
          have hfst : (request current h r).1 = h.size := by simp [request, hc]
          have hsize : (request current h r).2.size = h.size + 1 := by simp [request, hc]
          have hy : y.2 = h.size := heq.symm.trans hfst
          rw [hy, hsize] at hy'
          rcases hy' with hmapped | ⟨-, hge⟩
          · exact absurd (hcur _ _ hmapped) (Nat.not_lt.2 hn)
          · omega

omit [Inhabited α] in
theorem mem_run_lt (hcur : ∀ k p, current k = some p → p < n) (rs : List (Request α)) (h : Heap α)
    (hn : n ≤ h.size) {p : Ptr} (hp : p ∈ (run current rs h).1) :
    p < (run current rs h).2.size := by
  induction rs generalizing h with
  | nil => simp [run] at hp
  | cons r rs ih =>
      have hn₁ : n ≤ (request current h r).2.size := hn.trans (size_le_size_request h r)
      simp only [run, List.mem_cons] at hp
      rcases hp with rfl | hp
      · refine lt_of_lt_of_le ?_ (size_le_size_run rs _)
        unfold request
        cases hc : current r.key with
        | none => simp
        | some q => simpa using lt_of_lt_of_le (hcur _ _ hc) hn
      · exact ih _ hn₁ hp

omit [Inhabited α] in
theorem length_run (rs : List (Request α)) (h : Heap α) :
    (run current rs h).1.length = rs.length := by
  induction rs generalizing h with
  | nil => rfl
  | cons r rs ih => simp [run, ih]

omit [Inhabited α] in
theorem rewrite_append (rs₁ rs₂ : List (Request α)) (p : Ptr) (a : α) :
    rewrite current (rs₁ ++ rs₂) p a = rewrite current rs₂ p (rewrite current rs₁ p a) := by
  simp [rewrite, List.foldl_append]

omit [Inhabited α] in
/-- A cell keeps what each of the requests that name it keeps. -/
theorem rewrite_preserves {rs : List (Request α)} {p : Ptr} {P : α → Prop}
    (h : ∀ r ∈ rs, current r.key = some p → ∀ a, P a → P (r.assign a)) {a : α} (ha : P a) :
    P (rewrite current rs p a) := by
  unfold rewrite
  induction rs generalizing a with
  | nil => exact ha
  | cons r rs ih =>
      refine ih (fun r' hr' => h r' (List.mem_cons_of_mem _ hr')) ?_
      by_cases hr : current r.key = some p
      · simpa only [if_pos hr] using h r List.mem_cons_self hr a ha
      · simpa only [if_neg hr] using ha

omit [Inhabited α] in
/-- A cell that is named at all was last rewritten by one of the requests that name it. -/
theorem exists_rewrite_eq {rs : List (Request α)} {p : Ptr} (a : α)
    (h : ∃ r ∈ rs, current r.key = some p) :
    ∃ r ∈ rs, current r.key = some p ∧ ∃ b, rewrite current rs p a = r.assign b := by
  induction rs generalizing a with
  | nil => simp at h
  | cons r rs ih =>
      by_cases hrest : ∃ r' ∈ rs, current r'.key = some p
      · obtain ⟨r', hr', hcur', b, hb⟩ := ih _ hrest
        exact ⟨r', List.mem_cons_of_mem _ hr', hcur', b, hb⟩
      · have hr : current r.key = some p := by
          obtain ⟨r', hr', hcur'⟩ := h
          rcases List.mem_cons.1 hr' with rfl | hr'
          · exact hcur'
          · exact absurd ⟨r', hr', hcur'⟩ hrest
        refine ⟨r, List.mem_cons_self, hr, a, ?_⟩
        have hnone : ∀ r' ∈ rs, ¬ current r'.key = some p := fun r' hr' hcur' =>
          hrest ⟨r', hr', hcur'⟩
        have := rewrite_of_forall_ne (r.assign a) hnone
        simpa [rewrite, hr] using this

omit [Inhabited α] in
/-- What the rewrites of a cell do is lost on a function that does not see any of them. -/
theorem apply_rewrite_eq {rs : List (Request α)} {p : Ptr} {f : α → α}
    (h : ∀ r ∈ rs, current r.key = some p → ∀ a, f (r.assign a) = f a) (a : α) :
    f (rewrite current rs p a) = f a := by
  induction rs generalizing a with
  | nil => rfl
  | cons r rs ih =>
      have htail := ih (fun r' hr' => h r' (List.mem_cons_of_mem _ hr'))
      unfold rewrite at htail ⊢
      rw [List.foldl_cons, htail]
      split
      · rename_i hr
        exact h r List.mem_cons_self hr a
      · rfl

end

end Heap
