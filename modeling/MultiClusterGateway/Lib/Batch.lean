import Mathlib

set_option autoImplicit false

/-! # A keyed store with atomic change batches

A store holds at most one value for each key. A batch is a list of changes that are applied in
order and either all take effect or none: a create asks for a free key, a delete for a value that is
present exactly as given. What a batch does to one key is decided by the last change for that key
(`get_applyAll`); a batch fails only at a create or a delete. -/

namespace Batch

variable {K V : Type} [DecidableEq K]

/-- The contents of a store: values with pairwise different keys. -/
structure Store (key : V → K) where
  entries : List V
  nodup : (entries.map key).Nodup

namespace Store

variable {key : V → K}

/-- The store without values. -/
def empty : Store key := ⟨[], List.nodup_nil⟩

/-- The value with a key. -/
def get (s : Store key) (k : K) : Option V := s.entries.find? (fun v => key v == k)

/-- The store without a key. -/
def erase (s : Store key) (k : K) : Store key where
  entries := s.entries.filter (fun v => key v != k)
  nodup := s.nodup.sublist (List.filter_sublist.map key)

/-- Write a value, in place of the one with the same key. -/
def put (s : Store key) (v : V) : Store key where
  entries := (s.erase (key v)).entries ++ [v]
  nodup := by
    rw [List.map_append, List.nodup_append]
    refine ⟨(s.erase (key v)).nodup, List.nodup_singleton _, ?_⟩
    rintro a ha b hb rfl
    obtain ⟨w, hw, hwa⟩ := List.mem_map.1 ha
    have hne := (List.mem_filter.1 hw).2
    rw [List.map_singleton, List.mem_singleton] at hb
    rw [hwa, hb] at hne
    simp at hne

/-- The stores hold the same values. -/
def Same (s s' : Store key) : Prop := ∀ k, s.get k = s'.get k

theorem get_eq_some {s : Store key} {k : K} {v : V} :
    s.get k = some v ↔ v ∈ s.entries ∧ key v = k := by
  constructor
  · intro h
    have hkey : (key v == k) = true := List.find?_some (p := fun v => key v == k) h
    exact ⟨List.mem_of_find?_eq_some h, eq_of_beq hkey⟩
  · rintro ⟨hv, rfl⟩
    cases hfind : s.get (key v) with
    | none => exact absurd (beq_self_eq_true _) (List.find?_eq_none.1 hfind v hv)
    | some w =>
        have hw := List.mem_of_find?_eq_some hfind
        have hkey : (key w == key v) = true := List.find?_some (p := fun w => key w == key v) hfind
        rw [List.inj_on_of_nodup_map s.nodup hw hv (eq_of_beq hkey)]

theorem get_eq_none {s : Store key} {k : K} : s.get k = none ↔ ∀ v ∈ s.entries, key v ≠ k := by
  unfold get
  simp

theorem mem_entries {s : Store key} {v : V} : v ∈ s.entries ↔ s.get (key v) = some v := by
  rw [get_eq_some]
  simp

theorem key_of_get {s : Store key} {k : K} {v : V} (h : s.get k = some v) : key v = k :=
  (get_eq_some.1 h).2

theorem get_erase (s : Store key) (k k' : K) :
    (s.erase k).get k' = if k' = k then none else s.get k' := by
  split
  · rename_i h
    rw [get_eq_none]
    intro v hv hkey
    have := (List.mem_filter.1 hv).2
    rw [hkey, h] at this
    simp at this
  · rename_i h
    cases hget : s.get k' with
    | none =>
        rw [get_eq_none] at hget ⊢
        intro v hv
        exact hget v (List.mem_filter.1 hv).1
    | some v =>
        obtain ⟨hv, hkey⟩ := get_eq_some.1 hget
        exact get_eq_some.2 ⟨List.mem_filter.2 ⟨hv, by simpa [hkey] using h⟩, hkey⟩

theorem get_put (s : Store key) (v : V) (k : K) :
    (s.put v).get k = if k = key v then some v else s.get k := by
  split
  · rename_i h
    exact get_eq_some.2 ⟨List.mem_append_right _ (List.mem_singleton.2 rfl), h.symm⟩
  · rename_i h
    have herase : (s.erase (key v)).get k = s.get k := by rw [get_erase, if_neg h]
    rw [← herase]
    unfold get put
    rw [List.find?_append]
    have hv : [v].find? (fun w => key w == k) = none := by
      simpa using fun hk => h hk.symm
    rw [hv, Option.or_none]

end Store

/-! ## Changes -/

/-- A change of a batch. -/
inductive Change (V : Type) where
  | create (v : V)
  | upsert (v : V)
  | delete (v : V)
deriving DecidableEq

namespace Change

/-- The value the change is about. -/
def value : Change V → V
  | .create v => v
  | .upsert v => v
  | .delete v => v

/-- What the change leaves under its key. -/
def result : Change V → Option V
  | .create v => some v
  | .upsert v => some v
  | .delete _ => none

variable [DecidableEq V] {key : V → K}

/-- What a change makes of the store, or `none` if it is refused: creating what exists, or deleting
    what is not there as given. -/
def apply (s : Store key) : Change V → Option (Store key)
  | .create v => if s.get (key v) = none then some (s.put v) else none
  | .upsert v => some (s.put v)
  | .delete v => if s.get (key v) = some v then some (s.erase (key v)) else none

/-- The change can be applied. -/
def Allowed (s : Store key) : Change V → Prop
  | .create v => s.get (key v) = none
  | .upsert _ => True
  | .delete v => s.get (key v) = some v

theorem isSome_apply {s : Store key} {c : Change V} : (c.apply s).isSome = true ↔ c.Allowed s := by
  cases c with
  | create v => simp [apply, Allowed]
  | upsert v => simp [apply, Allowed]
  | delete v => simp [apply, Allowed]

theorem get_apply {s s' : Store key} {c : Change V} (h : c.apply s = some s') (k : K) :
    s'.get k = if k = key c.value then c.result else s.get k := by
  cases c with
  | create v =>
      simp only [apply] at h
      split at h
      · cases h
        exact Store.get_put s v k
      · cases h
  | upsert v =>
      cases h
      exact Store.get_put s v k
  | delete v =>
      simp only [apply] at h
      split at h
      · cases h
        exact Store.get_erase s (key v) k
      · cases h

end Change

/-! ## Batches -/

section
variable [DecidableEq V] {key : V → K}

/-- Apply the changes in order; `none` if one of them cannot be applied. -/
def applyAll : List (Change V) → Store key → Option (Store key)
  | [], s => some s
  | c :: rest, s => (c.apply s).bind (applyAll rest)

@[simp] theorem applyAll_nil (s : Store key) : applyAll [] s = some s := rfl

theorem applyAll_cons (c : Change V) (rest : List (Change V)) (s : Store key) :
    applyAll (c :: rest) s = (c.apply s).bind (applyAll rest) := rfl

theorem applyAll_append (cs cs' : List (Change V)) (s : Store key) :
    applyAll (cs ++ cs') s = (applyAll cs s).bind (applyAll cs') := by
  induction cs generalizing s with
  | nil => rfl
  | cons c rest ih =>
      rw [List.cons_append, applyAll_cons, applyAll_cons]
      cases c.apply s with
      | none => rfl
      | some s' => exact ih s'

/-- The last change for a key decides what is stored under it. -/
theorem get_applyAll {cs : List (Change V)} {s s' : Store key} (h : applyAll cs s = some s')
    (k : K) :
    s'.get k = match (cs.filter (fun c => key c.value == k)).getLast? with
      | none => s.get k
      | some c => c.result := by
  induction cs generalizing s with
  | nil =>
      cases h
      rfl
  | cons c rest ih =>
      rw [applyAll_cons] at h
      obtain ⟨s₁, h₁, hrest⟩ := Option.bind_eq_some_iff.1 h
      rw [ih hrest, List.filter_cons]
      by_cases hk : key c.value = k
      · rw [if_pos (beq_iff_eq.2 hk), List.getLast?_cons]
        cases (rest.filter (fun c => key c.value == k)).getLast? with
        | none => simp [Change.get_apply h₁, hk]
        | some d => rfl
      · rw [if_neg (fun h => hk (beq_iff_eq.1 h))]
        cases (rest.filter (fun c => key c.value == k)).getLast? with
        | none =>
            have : ¬ k = key c.value := fun h => hk h.symm
            simp [Change.get_apply h₁, this]
        | some d => rfl

/-- Keys without a change keep their value. -/
theorem get_applyAll_of_notMem {cs : List (Change V)} {s s' : Store key}
    (h : applyAll cs s = some s') {k : K} (hk : ∀ c ∈ cs, key c.value ≠ k) :
    s'.get k = s.get k := by
  have hnil : cs.filter (fun c => key c.value == k) = [] := by
    rw [List.filter_eq_nil_iff]
    intro c hc heq
    exact hk c hc (eq_of_beq heq)
  rw [get_applyAll h, hnil]
  rfl

/-- If all changes for a key leave the same under it, that is what is stored. -/
theorem get_applyAll_of_mem {cs : List (Change V)} {s s' : Store key}
    (h : applyAll cs s = some s') {c : Change V} (hc : c ∈ cs)
    (huniq : ∀ d ∈ cs, key d.value = key c.value → d.result = c.result) :
    s'.get (key c.value) = c.result := by
  rw [get_applyAll h]
  cases hlast : (cs.filter (fun d => key d.value == key c.value)).getLast? with
  | none =>
      rw [List.getLast?_eq_none_iff, List.filter_eq_nil_iff] at hlast
      exact absurd (beq_self_eq_true _) (hlast c hc)
  | some d =>
      obtain ⟨hd, hkey⟩ := List.mem_filter.1 (List.mem_of_getLast? hlast)
      exact huniq d hd (eq_of_beq hkey)

omit [DecidableEq V] in
theorem Change.Allowed.congr {s s' : Store key} {c : Change V}
    (h : s.get (key c.value) = s'.get (key c.value)) : c.Allowed s ↔ c.Allowed s' := by
  cases c with
  | create v => exact Eq.congr_left h
  | upsert v => exact Iff.rfl
  | delete v => exact Eq.congr_left h

/-- A batch with pairwise different keys succeeds if each of its changes would. -/
theorem exists_applyAll_iff {cs : List (Change V)}
    (hkeys : cs.Pairwise (fun c d => key c.value ≠ key d.value)) (s : Store key) :
    (∃ s', applyAll cs s = some s') ↔ ∀ c ∈ cs, c.Allowed s := by
  induction cs generalizing s with
  | nil => simp
  | cons c rest ih =>
      obtain ⟨hc, hrest⟩ := List.pairwise_cons.1 hkeys
      rw [List.forall_mem_cons, ← Change.isSome_apply, applyAll_cons]
      cases happly : c.apply s with
      | none => simp
      | some s₁ =>
          have hallowed : (∀ d ∈ rest, d.Allowed s₁) ↔ ∀ d ∈ rest, d.Allowed s := by
            refine forall₂_congr fun d hd => Change.Allowed.congr ?_
            rw [Change.get_apply happly, if_neg (hc d hd).symm]
          simpa [hallowed] using ih hrest s₁

theorem exists_applyAll_upsert (vs : List V) (s : Store key) :
    ∃ s', applyAll (vs.map Change.upsert) s = some s' := by
  induction vs generalizing s with
  | nil => exact ⟨s, rfl⟩
  | cons v rest ih => exact ih (s.put v)

omit [DecidableEq K] [DecidableEq V] in
theorem pairwise_map_of_nodup {op : V → Change V} (hop : ∀ v, (op v).value = v) {vs : List V}
    (h : (vs.map key).Nodup) :
    (vs.map op).Pairwise (fun c d => key c.value ≠ key d.value) := by
  rw [List.pairwise_map]
  refine (List.pairwise_map.1 h).imp fun hne => ?_
  rw [hop, hop]
  exact hne

/-- What was just deleted cannot be deleted again, and what was created cannot be created. -/
theorem nodup_of_applyAll {op : V → Change V} (hop : op = Change.create ∨ op = Change.delete)
    {vs : List V} {s s' : Store key} (h : applyAll (vs.map op) s = some s') :
    (vs.map key).Nodup := by
  induction vs generalizing s with
  | nil => exact List.nodup_nil
  | cons v rest ih =>
      rw [List.map_cons, applyAll_cons] at h
      obtain ⟨s₁, h₁, hrest⟩ := Option.bind_eq_some_iff.1 h
      rw [List.map_cons, List.nodup_cons]
      refine ⟨fun hmem => ?_, ih hrest⟩
      obtain ⟨w, hw, hkey⟩ := List.mem_map.1 hmem
      have hpair : (rest.map op).Pairwise (fun c d => key c.value ≠ key d.value) := by
        refine pairwise_map_of_nodup (fun v => ?_) (ih hrest)
        rcases hop with rfl | rfl <;> rfl
      have hallowed := (exists_applyAll_iff hpair s₁).1 ⟨s', hrest⟩ (op w)
        (List.mem_map.2 ⟨w, hw, rfl⟩)
      have hget : s₁.get (key w) = (op v).result := by
        rw [Change.get_apply h₁, if_pos]
        rcases hop with rfl | rfl <;> exact hkey
      rcases hop with rfl | rfl
      · exact absurd (hget.symm.trans hallowed) (by simp [Change.result])
      · exact absurd (hget.symm.trans hallowed) (by simp [Change.result])

/-! ## One key at a time

Changes of different keys do not see each other, so that a batch may be rearranged as long as the
changes of each key stay in order. -/

theorem Change.exists_apply_congr {s t : Store key} {c : Change V}
    (h : s.get (key c.value) = t.get (key c.value)) {s' : Store key} (hs : c.apply s = some s') :
    ∃ t', c.apply t = some t' := by
  refine Option.isSome_iff_exists.1 (Change.isSome_apply.2 ((Change.Allowed.congr h).1 ?_))
  exact Change.isSome_apply.1 (Option.isSome_iff_exists.2 ⟨s', hs⟩)

/-- Changes of one key see only what is stored under it. -/
theorem exists_applyAll_congr {cs : List (Change V)} {k : K} (hcs : ∀ c ∈ cs, key c.value = k)
    {s t : Store key} (h : s.get k = t.get k) {s' : Store key} (hs : applyAll cs s = some s') :
    ∃ t', applyAll cs t = some t' := by
  induction cs generalizing s t with
  | nil => exact ⟨t, rfl⟩
  | cons c rest ih =>
      obtain ⟨hc, hrest⟩ := List.forall_mem_cons.1 hcs
      rw [applyAll_cons] at hs
      obtain ⟨s₁, hs₁, hs⟩ := Option.bind_eq_some_iff.1 hs
      obtain ⟨t₁, ht₁⟩ := Change.exists_apply_congr (hc ▸ h) hs₁
      have hget : s₁.get k = t₁.get k := by
        rw [Change.get_apply hs₁, Change.get_apply ht₁, h]
      obtain ⟨t', ht'⟩ := ih hrest hget hs
      exact ⟨t', by rw [applyAll_cons, ht₁]; exact ht'⟩

/-- A batch succeeds if the changes of each key do. -/
theorem exists_applyAll_iff_filter (cs : List (Change V)) (s : Store key) :
    (∃ s', applyAll cs s = some s') ↔
      ∀ k, ∃ s', applyAll (cs.filter (fun c => key c.value == k)) s = some s' := by
  induction cs generalizing s with
  | nil => simp
  | cons c rest ih =>
      have hother : ∀ k, key c.value ≠ k →
          (c :: rest).filter (fun c => key c.value == k) = rest.filter (fun c => key c.value == k) :=
        fun k hk => List.filter_cons_of_neg (fun h => hk (eq_of_beq h))
      have hown : (c :: rest).filter (fun d => key d.value == key c.value)
          = c :: rest.filter (fun d => key d.value == key c.value) :=
        List.filter_cons_of_pos (beq_self_eq_true _)
      have hkeys : ∀ k, ∀ d ∈ rest.filter (fun d => key d.value == k), key d.value = k :=
        fun k d hd => eq_of_beq (List.mem_filter.1 hd).2
      constructor
      · rintro ⟨s', h⟩ k
        rw [applyAll_cons] at h
        obtain ⟨s₁, h₁, hrest⟩ := Option.bind_eq_some_iff.1 h
        obtain ⟨t, ht⟩ := (ih s₁).1 ⟨s', hrest⟩ k
        by_cases hk : key c.value = k
        · subst hk
          exact ⟨t, by rw [hown, applyAll_cons, h₁]; exact ht⟩
        · rw [hother k hk]
          refine exists_applyAll_congr (hkeys k) ?_ ht
          rw [Change.get_apply h₁, if_neg (Ne.symm hk)]
      · intro h
        obtain ⟨t, ht⟩ := h (key c.value)
        rw [hown, applyAll_cons] at ht
        obtain ⟨s₁, h₁, hown'⟩ := Option.bind_eq_some_iff.1 ht
        rw [applyAll_cons, h₁]
        refine (ih s₁).2 fun k => ?_
        by_cases hk : key c.value = k
        · subst hk
          exact ⟨t, hown'⟩
        · obtain ⟨t', ht'⟩ := h k
          rw [hother k hk] at ht'
          refine exists_applyAll_congr (hkeys k) ?_ ht'
          rw [Change.get_apply h₁, if_neg (Ne.symm hk)]

/-- Batches with the same changes for each key do the same. -/
theorem applyAll_rearranged {cs cs' : List (Change V)}
    (h : ∀ k, cs.filter (fun c => key c.value == k) = cs'.filter (fun c => key c.value == k))
    {s s₁ : Store key} (hcs : applyAll cs s = some s₁) :
    ∃ s₂, applyAll cs' s = some s₂ ∧ s₂.Same s₁ := by
  obtain ⟨s₂, h₂⟩ : ∃ s₂, applyAll cs' s = some s₂ := by
    rw [exists_applyAll_iff_filter]
    intro k
    rw [← h k]
    exact (exists_applyAll_iff_filter cs s).1 ⟨s₁, hcs⟩ k
  refine ⟨s₂, h₂, fun k => ?_⟩
  rw [get_applyAll h₂, get_applyAll hcs, h k]

/-! ## Stores that agree on some keys -/

/-- The stores have the same under the keys of a region. -/
def Store.AgreeOn (R : K → Prop) (s t : Store key) : Prop := ∀ k, R k → s.get k = t.get k

/-- A batch within the region goes the same way in both, and they agree after it. -/
theorem applyAll_agree {R : K → Prop} {cs : List (Change V)} (hcs : ∀ c ∈ cs, R (key c.value))
    {s t : Store key} (h : s.AgreeOn R t) :
    Option.Rel (Store.AgreeOn R) (applyAll cs s) (applyAll cs t) := by
  induction cs generalizing s t with
  | nil => exact .some h
  | cons c rest ih =>
      obtain ⟨hc, hrest⟩ := List.forall_mem_cons.1 hcs
      rw [applyAll_cons, applyAll_cons]
      cases hs : c.apply s with
      | none =>
          have ht : c.apply t = none := by
            rw [Option.eq_none_iff_forall_ne_some]
            intro t' ht
            obtain ⟨s', hs'⟩ := Change.exists_apply_congr (h _ hc).symm ht
            simp [hs] at hs'
          rw [ht]
          exact .none
      | some s' =>
          obtain ⟨t', ht⟩ := Change.exists_apply_congr (h _ hc) hs
          rw [ht]
          refine ih hrest fun k hk => ?_
          rw [Change.get_apply hs, Change.get_apply ht, h k hk]

/-! ## Replacing some values by others -/

/-- Delete the values `ds`, then create the values `vs`. -/
def replacing (ds vs : List V) : List (Change V) := ds.map .delete ++ vs.map .create

theorem get_replacing {ds vs : List V} {s s' : Store key}
    (h : applyAll (replacing ds vs) s = some s') :
    (∀ v ∈ vs, s'.get (key v) = some v) ∧
    (∀ d ∈ ds, key d ∉ vs.map key → s'.get (key d) = none) ∧
    ∀ k, k ∉ vs.map key → k ∉ ds.map key → s'.get k = s.get k := by
  rw [replacing, applyAll_append] at h
  obtain ⟨s₀, hds, hvs⟩ := Option.bind_eq_some_iff.1 h
  have hnodup := nodup_of_applyAll (Or.inl rfl) hvs
  have hframe : ∀ k, k ∉ vs.map key → s'.get k = s₀.get k := by
    intro k hk
    refine get_applyAll_of_notMem hvs fun c hc heq => hk ?_
    obtain ⟨v, hv, rfl⟩ := List.mem_map.1 hc
    exact List.mem_map.2 ⟨v, hv, heq⟩
  refine ⟨fun v hv => ?_, fun d hd hk => ?_, fun k hk hk' => ?_⟩
  · refine get_applyAll_of_mem hvs (List.mem_map.2 ⟨v, hv, rfl⟩) fun c hc hkey => ?_
    obtain ⟨w, hw, rfl⟩ := List.mem_map.1 hc
    rw [List.inj_on_of_nodup_map hnodup hw hv hkey]
  · rw [hframe _ hk]
    refine get_applyAll_of_mem hds (List.mem_map.2 ⟨d, hd, rfl⟩) fun c hc _ => ?_
    obtain ⟨d', -, rfl⟩ := List.mem_map.1 hc
    rfl
  · rw [hframe k hk]
    refine get_applyAll_of_notMem hds fun c hc heq => hk' ?_
    obtain ⟨d, hd, rfl⟩ := List.mem_map.1 hc
    exact List.mem_map.2 ⟨d, hd, heq⟩

/-- Values that are present can be replaced by values with free or freed keys. -/
theorem exists_replacing_iff {ds vs : List V} {s : Store key}
    (hds : ∀ d ∈ ds, s.get (key d) = some d) (hnodup : (ds.map key).Nodup) :
    (∃ s', applyAll (replacing ds vs) s = some s') ↔
      (vs.map key).Nodup ∧ ∀ v ∈ vs, s.get (key v) = none ∨ key v ∈ ds.map key := by
  obtain ⟨s₀, h₀⟩ : ∃ s₀, applyAll (ds.map Change.delete) s = some s₀ := by
    rw [exists_applyAll_iff (pairwise_map_of_nodup (fun _ => rfl) hnodup)]
    intro c hc
    obtain ⟨d, hd, rfl⟩ := List.mem_map.1 hc
    exact hds d hd
  have hfree : ∀ v, s₀.get (key v) = none ↔ s.get (key v) = none ∨ key v ∈ ds.map key := by
    intro v
    by_cases hv : key v ∈ ds.map key
    · obtain ⟨d, hd, hkey⟩ := List.mem_map.1 hv
      have hnone : s₀.get (key d) = none :=
        get_applyAll_of_mem h₀ (List.mem_map.2 ⟨d, hd, rfl⟩) fun c hc _ => by
          obtain ⟨d', -, rfl⟩ := List.mem_map.1 hc
          rfl
      rw [← hkey, hnone]
      simp [hkey, hv]
    · have hsame : s₀.get (key v) = s.get (key v) :=
        get_applyAll_of_notMem h₀ fun c hc heq => hv (by
          obtain ⟨d, hd, rfl⟩ := List.mem_map.1 hc
          exact List.mem_map.2 ⟨d, hd, heq⟩)
      rw [hsame]
      simp [hv]
  have hsplit : (∃ s', applyAll (replacing ds vs) s = some s') ↔
      ∃ s', applyAll (vs.map Change.create) s₀ = some s' := by
    rw [replacing, applyAll_append, h₀]
    rfl
  rw [hsplit]
  constructor
  · rintro ⟨s', h⟩
    have hvs := nodup_of_applyAll (Or.inl rfl) h
    refine ⟨hvs, fun v hv => (hfree v).1 ?_⟩
    exact (exists_applyAll_iff (pairwise_map_of_nodup (fun _ => rfl) hvs) s₀).1 ⟨s', h⟩ _
      (List.mem_map.2 ⟨v, hv, rfl⟩)
  · rintro ⟨hvs, hall⟩
    rw [exists_applyAll_iff (pairwise_map_of_nodup (fun _ => rfl) hvs)]
    intro c hc
    obtain ⟨v, hv, rfl⟩ := List.mem_map.1 hc
    exact (hfree v).2 (hall v hv)

theorem nodup_of_replacing {ds vs : List V} {s s' : Store key}
    (h : applyAll (replacing ds vs) s = some s') : (vs.map key).Nodup := by
  rw [replacing, applyAll_append] at h
  obtain ⟨s₀, -, hcreate⟩ := Option.bind_eq_some_iff.1 h
  exact nodup_of_applyAll (Or.inl rfl) hcreate

/-- Values that are present can be created again if all of them are deleted first; the store stays
    what it was if nothing else is deleted. -/
theorem replacing_present_iff {ds vs : List V} {s : Store key}
    (hvs : ∀ v ∈ vs, s.get (key v) = some v) (hvsnodup : (vs.map key).Nodup)
    (hds : ∀ d ∈ ds, s.get (key d) = some d) (hnodup : (ds.map key).Nodup) :
    (∃ s', applyAll (replacing ds vs) s = some s' ∧ s'.Same s) ↔
      (∀ v ∈ vs, key v ∈ ds.map key) ∧ ∀ d ∈ ds, key d ∈ vs.map key := by
  constructor
  · rintro ⟨s', h, hsame⟩
    obtain ⟨-, hall⟩ := (exists_replacing_iff hds hnodup).1 ⟨s', h⟩
    refine ⟨fun v hv => ?_, fun d hd => ?_⟩
    · rcases hall v hv with hnone | hmem
      · rw [hvs v hv] at hnone
        cases hnone
      · exact hmem
    · by_contra hnot
      have hgone := (get_replacing h).2.1 d hd hnot
      rw [hsame, hds d hd] at hgone
      cases hgone
  · rintro ⟨hall, hback⟩
    obtain ⟨s', h⟩ := (exists_replacing_iff hds hnodup).2
      ⟨hvsnodup, fun v hv => Or.inr (hall v hv)⟩
    refine ⟨s', h, fun k => ?_⟩
    obtain ⟨hin, -, hout⟩ := get_replacing h
    by_cases hk : k ∈ vs.map key
    · obtain ⟨v, hv, rfl⟩ := List.mem_map.1 hk
      rw [hin v hv, hvs v hv]
    · refine hout k hk fun hmem => hk ?_
      obtain ⟨d, hd, rfl⟩ := List.mem_map.1 hmem
      exact hback d hd

end

end Batch
