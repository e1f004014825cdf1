import MultiClusterGateway.Api.Server

set_option autoImplicit false

/-! # Deleting what a selector lists

The controllers clean up by listing objects and deleting some of them, one call each. The objects
afterwards are given key by key: a deletion drops an object without finalizers and marks any other
one, and to delete it twice is to delete it once.

The description is one function from what was under a key to what is under it afterwards
(`deleteIf`), so that several removals are composed as functions, and whether two runs leave the
same is a matter of rewriting. A call may fail on the way. What is true however far a list of
deletions gets is stated separately, as something that each single deletion preserves. `AllMarked`
is the aim of a removal: of the objects with a property, those that are left are being deleted. -/

namespace MultiClusterGateway

namespace Kind

variable {V : Type} (kind : Kind V)

/-- What a deletion leaves of an object. -/
def deleted (v : V) : Option V := if kind.finalizers v = [] then none else some (kind.mark true v)

/-- What is left under a key when the objects of a kind that `p` selects are deleted. -/
def deleteIf (p : V → Bool) (o : Option V) : Option V :=
  o.bind fun v => if p v then kind.deleted v else some v

/-- One such removal for each of a list. -/
def deleteEach {G : Type} (selects : G → V → Bool) (gs : List G) (o : Option V) : Option V :=
  gs.foldl (fun o g => kind.deleteIf (selects g) o) o

variable {kind} {p : V → Bool} {v v' : V} {o : Option V}

theorem deleted_eq_some : kind.deleted v = some v' ↔
    kind.finalizers v ≠ [] ∧ v' = kind.mark true v := by
  unfold deleted
  by_cases h : kind.finalizers v = []
  · simp [h]
  · simp [h, eq_comm]

/-- An object that is being deleted already stays as it is. -/
theorem deleted_of_marked (hfin : kind.finalizers v ≠ []) (h : kind.marked v = true) :
    kind.deleted v = some v :=
  deleted_eq_some.2 ⟨hfin, (kind.mark_eq_self h).symm⟩

theorem bind_deleted_bind_deleted (o : Option V) :
    (o.bind kind.deleted).bind kind.deleted = o.bind kind.deleted := by
  cases o with
  | none => rfl
  | some v =>
      show (kind.deleted v).bind kind.deleted = kind.deleted v
      cases h : kind.deleted v with
      | none => rfl
      | some v' =>
          obtain ⟨hfin, rfl⟩ := deleted_eq_some.1 h
          refine deleted_of_marked ?_ (kind.marked_mark true v)
          rwa [kind.finalizers_mark]

theorem deleteIf_of_false (h : p v = false) : kind.deleteIf p (some v) = some v := by
  simp [deleteIf, h]

theorem deleteIf_of_true (h : p v = true) : kind.deleteIf p (some v) = kind.deleted v := by
  simp [deleteIf, h]

theorem deleteIf_congr {q : V → Bool} (h : ∀ v, o = some v → p v = q v) :
    kind.deleteIf p o = kind.deleteIf q o := by
  cases o with
  | none => rfl
  | some v => simp [deleteIf, h v rfl]

/-- What was deleted is not deleted again. -/
theorem deleteIf_bind_deleted : kind.deleteIf p (o.bind kind.deleted) = o.bind kind.deleted := by
  cases ho : o.bind kind.deleted with
  | none => rfl
  | some v =>
      cases hp : p v with
      | false => exact deleteIf_of_false hp
      | true =>
          rw [deleteIf_of_true hp]
          have htwice := @bind_deleted_bind_deleted _ kind o
          rwa [ho] at htwice

/-- Deleting what is selected, twice. -/
theorem deleteIf_deleteIf :
    kind.deleteIf p (kind.deleteIf p o) = kind.deleteIf p o := by
  cases o with
  | none => rfl
  | some v =>
      cases hv : p v with
      | false => rw [deleteIf_of_false hv, deleteIf_of_false hv]
      | true =>
          rw [deleteIf_of_true hv]
          exact @deleteIf_bind_deleted _ kind p (some v)

/-- One removal after the other is the removal of what either selects. -/
theorem deleteIf_comp {q : V → Bool} :
    kind.deleteIf p (kind.deleteIf q o) = kind.deleteIf (fun v => q v || p v) o := by
  cases o with
  | none => rfl
  | some v =>
      cases hq : q v with
      | false =>
          rw [deleteIf_of_false hq]
          simp [deleteIf, hq]
      | true =>
          rw [deleteIf_of_true hq, deleteIf_of_true (by simp [hq])]
          cases hdeleted : kind.deleted v with
          | none => rfl
          | some v' =>
              have hmarked : kind.deleted v' = some v' := by
                have htwice := @bind_deleted_bind_deleted _ kind (some v)
                rw [show (some v).bind kind.deleted = some v' from hdeleted] at htwice
                exact htwice
              cases hp : p v' with
              | false => exact deleteIf_of_false hp
              | true => rw [deleteIf_of_true hp, hmarked]

theorem deleteEach_eq_deleteIf {G : Type} {selects : G → V → Bool} (gs : List G) :
    kind.deleteEach selects gs o = kind.deleteIf (fun v => gs.any (selects · v)) o := by
  induction gs using List.reverseRecOn with
  | nil =>
      cases o with
      | none => rfl
      | some v => simp [deleteEach, deleteIf]
  | append_singleton rest g ih =>
      have hlast : kind.deleteEach selects (rest ++ [g]) o
          = kind.deleteIf (selects g) (kind.deleteEach selects rest o) := by simp [deleteEach]
      rw [hlast, ih, deleteIf_comp]
      simp

/-- What is left was there, as it is or not yet marked. -/
theorem eq_or_marked_of_deleteIf (h : kind.deleteIf p o = some v') :
    o = some v' ∨ ∃ v, o = some v ∧ p v = true ∧ v' = kind.mark true v := by
  cases o with
  | none => cases h
  | some v =>
      cases hp : p v with
      | false =>
          rw [deleteIf_of_false hp] at h
          exact Or.inl h
      | true =>
          rw [deleteIf_of_true hp] at h
          exact Or.inr ⟨v, rfl, hp, (deleted_eq_some.1 h).2⟩

/-- What is selected and left is being deleted. -/
theorem marked_of_deleteIf (h : kind.deleteIf p o = some v) (hv : p v = true) :
    kind.marked v = true := by
  have hstays := @deleteIf_deleteIf _ kind p o
  rw [h, deleteIf_of_true hv] at hstays
  have hmark : v = kind.mark true v := (deleted_eq_some.1 hstays).2
  rw [hmark, kind.marked_mark]

/-- What is not selected, marked or not, is left as it is. -/
theorem deleteIf_eq_some_iff (hmark : ∀ v, p (kind.mark true v) = p v) (hv : p v = false) :
    kind.deleteIf p o = some v ↔ o = some v := by
  constructor
  · intro h
    rcases eq_or_marked_of_deleteIf h with hsame | ⟨v', -, hv', rfl⟩
    · exact hsame
    · rw [hmark, hv'] at hv
      cases hv
  · intro h
    rw [h]
    exact deleteIf_of_false hv

end Kind

namespace Api

variable {S V : Type} {kind : Kind V} {part : Part S (Objects kind)}

/-- The objects have changed key by key, and nothing else has. -/
def Altered (part : Part S (Objects kind)) (f : ObjectKey → Option V → Option V) (s s' : S) : Prop :=
  ∃ objects : Objects kind, s' = part.set s objects ∧
    ∀ k, objects.get k = f k ((part.get s).get k)

theorem Altered.refl (s : S) : Altered part (fun _ o => o) s s :=
  ⟨part.get s, (part.set_get s).symm, fun _ => rfl⟩

theorem Altered.trans {f g : ObjectKey → Option V → Option V} {s₁ s₂ s₃ : S}
    (h : Altered part f s₁ s₂) (h' : Altered part g s₂ s₃) :
    Altered part (fun k o => g k (f k o)) s₁ s₃ := by
  obtain ⟨objects, rfl, hobjects⟩ := h
  obtain ⟨objects', rfl, hobjects'⟩ := h'
  refine ⟨objects', part.set_set _ _ _, fun k => ?_⟩
  rw [hobjects', part.get_set, hobjects]

theorem Altered.congr {f g : ObjectKey → Option V → Option V} {s s' : S}
    (h : Altered part f s s') (hfg : ∀ k, f k ((part.get s).get k) = g k ((part.get s).get k)) :
    Altered part g s s' := by
  obtain ⟨objects, rfl, hobjects⟩ := h
  exact ⟨objects, rfl, fun k => (hobjects k).trans (hfg k)⟩

theorem Altered.get {f : ObjectKey → Option V → Option V} {s s' : S} (h : Altered part f s s')
    (k : ObjectKey) : (part.get s').get k = f k ((part.get s).get k) := by
  obtain ⟨objects, rfl, hobjects⟩ := h
  rw [part.get_set, hobjects]

/-- One change after the other. -/
theorem triple_forEach_altered {α : Type} {f : α → ObjectKey → Option V → Option V}
    {x : α → Api S Unit} {l : List α}
    (hx : ∀ a ∈ l, ∀ s₀, Triple (fun s => s = s₀) (x a) (fun _ => Altered part (f a) s₀)
      (fun _ _ => True)) (s₀ : S) :
    Triple (fun s => s = s₀) (Effect.forEach l x)
      (fun _ => Altered part (fun k o => l.foldl (fun o a => f a k o) o) s₀)
      (fun _ _ => True) := by
  induction l generalizing s₀ with
  | nil =>
      refine Effect.Spec.pure fun s hs => ?_
      rw [hs]
      exact Altered.refl s₀
  | cons a rest ih =>
      refine (hx a List.mem_cons_self s₀).bind (fun _ _ _ => trivial) fun _ => ?_
      refine Effect.Spec.of_state fun s hs => ?_
      refine (ih (fun b hb => hx b (List.mem_cons_of_mem a hb)) s).mono (fun _ h => h)
        (fun _ s' hs' => ?_) fun _ _ h => h
      exact hs.trans hs'

/-- The deletion of one object. -/
def deletesAt (kind : Kind V) (k : ObjectKey) : ObjectKey → Option V → Option V :=
  fun k' o => if k' = k then o.bind kind.deleted else o

theorem altered_put_marked {k : ObjectKey} {s : S} {v : V} (hget : (part.get s).get k = some v) :
    Altered part (deletesAt kind k) s (part.set s ((part.get s).put (kind.mark true v))) := by
  refine ⟨_, rfl, fun k' => ?_⟩
  rw [Objects.get_put, kind.key_mark, Objects.key_of_get hget, deletesAt]
  by_cases hk : k' = k
  · subst hk
    rw [if_pos rfl, if_pos rfl, hget]
    simp [Kind.deleted]
  · rw [if_neg hk, if_neg hk]

theorem triple_delete_altered {k : ObjectKey} {s₀ : S} :
    Triple (fun s => s = s₀) (delete part k) (fun _ => Altered part (deletesAt kind k) s₀)
      (fun e s => s = s₀ ∧ (e.kind = .notFound → (part.get s).get k = none)) := by
  refine triple_delete.mono (fun _ h => h) ?_ fun _ _ h => h
  rintro _ _ ⟨s, v, rfl, hget, rfl⟩
  exact altered_put_marked hget

theorem triple_ignoreNotFound_delete {k : ObjectKey} {s₀ : S} :
    Triple (fun s => s = s₀) (ignoreNotFound (delete part k))
      (fun _ => Altered part (deletesAt kind k) s₀) (fun _ _ => True) := by
  refine triple_ignoreNotFound triple_delete_altered ?_ fun _ _ _ _ => trivial
  rintro e s hkind ⟨rfl, hnone⟩
  refine (Altered.refl s).congr fun k' => ?_
  rw [deletesAt]
  split
  · rename_i hk
    rw [hk, hnone hkind]
    rfl
  · rfl

/-- One deletion for each object of a list that is not to be kept. -/
theorem triple_forEach_delete {keep : V → Bool} {x : V → Api S Unit}
    (hx : ∀ v s₀, Triple (fun s => s = s₀) (x v)
      (fun _ => Altered part (deletesAt kind (kind.key v)) s₀) (fun _ _ => True))
    (vs : List V) (s₀ : S) :
    Triple (fun s => s = s₀) (Effect.forEach vs fun v => if keep v then pure () else x v)
      (fun _ => Altered part (fun k o =>
        if k ∈ (vs.filter (fun v => !keep v)).map kind.key then o.bind kind.deleted else o) s₀)
      (fun _ _ => True) := by
  induction vs generalizing s₀ with
  | nil =>
      refine Effect.Spec.pure ?_
      rintro s rfl
      exact (Altered.refl s).congr fun k => by simp
  | cons v rest ih =>
      have hround : Triple (fun s => s = s₀) (if keep v then pure () else x v)
          (fun _ => Altered part (fun k o => if keep v then o else deletesAt kind (kind.key v) k o)
            s₀) (fun _ _ => True) := by
        split
        · refine Effect.Spec.pure ?_
          rintro s rfl
          exact Altered.refl s
        · exact hx v s₀
      refine hround.bind (fun _ _ _ => trivial) fun _ => ?_
      intro w hw
      refine (ih w.state).mono (fun _ h => h) ?_ (fun _ _ h => h) w rfl
      intro _ s hs
      refine (hw.trans hs).congr fun k => ?_
      cases hkeep : keep v with
      | true => rw [List.filter_cons_of_neg (by simp [hkeep]), if_pos rfl]
      | false =>
          rw [List.filter_cons_of_pos (by simp [hkeep]), List.map_cons, if_neg Bool.false_ne_true,
            deletesAt]
          by_cases hk : k = kind.key v
          · rw [if_pos hk, Kind.bind_deleted_bind_deleted, ite_self]
            rw [if_pos (List.mem_cons.2 (Or.inl hk))]
          · rw [if_neg hk]
            simp only [List.mem_cons, hk, false_or]

/-- The objects that are listed and not to be kept are deleted. -/
theorem triple_list_delete {selects keep : V → Bool} {x : V → Api S Unit}
    (hx : ∀ v s₀, Triple (fun s => s = s₀) (x v)
      (fun _ => Altered part (deletesAt kind (kind.key v)) s₀) (fun _ _ => True)) (s₀ : S) :
    Triple (fun s => s = s₀)
      (list part selects >>= fun vs => Effect.forEach vs fun v => if keep v then pure () else x v)
      (fun _ => Altered part (fun _ => kind.deleteIf (fun v => selects v && !keep v)) s₀)
      (fun _ _ => True) := by
  refine triple_list.bind (fun _ _ _ => trivial) fun vs => ?_
  rintro w ⟨rfl, hvs⟩
  refine (triple_forEach_delete hx vs w.state).mono (fun _ h => h) ?_ (fun _ _ h => h) w rfl
  intro _ s hs
  refine hs.congr fun k => ?_
  have hmem : k ∈ (vs.filter (fun v => !keep v)).map kind.key ↔
      ∃ v, (part.get w.state).get k = some v ∧ (selects v && !keep v) = true := by
    rw [hvs, List.filter_filter]
    constructor
    · intro h
      obtain ⟨v, hv, rfl⟩ := List.mem_map.1 h
      obtain ⟨hentries, hp⟩ := List.mem_filter.1 hv
      refine ⟨v, Objects.mem_entries.1 hentries, ?_⟩
      rwa [Bool.and_comm]
    · rintro ⟨v, hget, hp⟩
      have hkey := Objects.key_of_get hget
      refine List.mem_map.2 ⟨v, List.mem_filter.2 ⟨Objects.mem_entries.2 (hkey ▸ hget), ?_⟩, hkey⟩
      rwa [Bool.and_comm]
  cases hget : (part.get w.state).get k with
  | none => simp [Kind.deleteIf]
  | some v =>
      cases hp : selects v && !keep v with
      | true =>
          rw [if_pos (hmem.2 ⟨v, hget, hp⟩)]
          exact (Kind.deleteIf_of_true (p := fun v => selects v && !keep v) hp).symm
      | false =>
          have hnot : k ∉ (vs.filter (fun v => !keep v)).map kind.key := by
            intro h
            obtain ⟨v', hv', hp'⟩ := hmem.1 h
            cases hget.symm.trans hv'
            rw [hp] at hp'
            cases hp'
          rw [if_neg hnot]
          exact (Kind.deleteIf_of_false (p := fun v => selects v && !keep v) hp).symm

/-- One removal after the other. -/
theorem triple_forEach_deleteEach {G : Type} {selects : G → V → Bool} {x : G → Api S Unit}
    (hx : ∀ g s₀, Triple (fun s => s = s₀) (x g)
      (fun _ => Altered part (fun _ => kind.deleteIf (selects g)) s₀) (fun _ _ => True))
    (gs : List G) (s₀ : S) :
    Triple (fun s => s = s₀) (Effect.forEach gs x)
      (fun _ => Altered part (fun _ => kind.deleteEach selects gs) s₀) (fun _ _ => True) := by
  induction gs generalizing s₀ with
  | nil =>
      refine Effect.Spec.pure ?_
      rintro s rfl
      exact Altered.refl s
  | cons g rest ih =>
      refine (hx g s₀).bind (fun _ _ _ => trivial) fun _ => ?_
      intro w hw
      refine (ih w.state).mono (fun _ h => h) ?_ (fun _ _ h => h) w rfl
      exact fun _ s hs => hw.trans hs

/-! ## What single calls preserve -/

section
variable {I : S → Prop}

end

/-! ## Objects of which none is left -/

/-- The objects that have `p` are all being deleted. -/
def AllMarked (part : Part S (Objects kind)) (p : V → Prop) (s : S) : Prop :=
  ∀ k v, (part.get s).get k = some v → p v → kind.marked v = true

variable {p : V → Prop} {s s' : S} {v : V}

theorem AllMarked.mono {q : V → Prop} (h : AllMarked part p s) (hq : ∀ v, q v → p v) :
    AllMarked part q s :=
  fun k v hget hv => h k v hget (hq v hv)

theorem AllMarked.put (h : AllMarked part p s) (hv : p v → kind.marked v = true) :
    AllMarked part p (part.set s ((part.get s).put v)) := by
  intro k v' hget hp
  rw [part.get_set, Objects.get_put] at hget
  split at hget
  · split at hget
    · cases hget
    · rw [← Option.some.inj hget] at hp ⊢
      exact hv hp
  · exact h k v' hget hp

end Api

end MultiClusterGateway
