import Mathlib

set_option autoImplicit false

/-! # Optimistic writes

A cell behind a server that many clients read and write. Every write gives the value a version that
no value of the cell had before, and a client that has read a value writes only if the version of the
cell is still the one it has read. Then nothing has been written in between: a value that was read
from the cell at any time and has the version that is stored now is what is stored now
(`Cell.Seen`). -/

/-- A value in a version. -/
structure Versioned (α : Type) where
  version : Nat
  value : α

/-- A value with its version, or none, and the version of the next write. -/
structure Cell (α : Type) where
  next : Nat
  stored : Option (Versioned α)
  lt_next : ∀ v, stored = some v → v.version < next

namespace Cell

variable {α : Type}

/-- Nothing stored. -/
def empty : Cell α := ⟨0, none, fun _ h => absurd h (by simp)⟩

/-- Every write takes a new version. -/
def write (c : Cell α) (a : α) : Cell α where
  next := c.next + 1
  stored := some ⟨c.next, a⟩
  lt_next v h := by
    cases h
    exact Nat.lt_succ_self c.next

/-- Versions are not used again after a removal. -/
def remove (c : Cell α) : Cell α := ⟨c.next, none, fun _ h => absurd h (by simp)⟩

@[simp] theorem stored_write (c : Cell α) (a : α) : (c.write a).stored = some ⟨c.next, a⟩ := rfl

@[simp] theorem stored_remove (c : Cell α) : c.remove.stored = none := rfl

/-- The value was read from the cell at some time. -/
structure Seen (c : Cell α) (v : Versioned α) : Prop where
  lt_next : v.version < c.next
  eq_stored : ∀ w, c.stored = some w → w.version = v.version → w = v

variable {c : Cell α} {v : Versioned α}

theorem seen_of_stored (h : c.stored = some v) : c.Seen v := by
  refine ⟨c.lt_next v h, fun w hw _ => ?_⟩
  rw [h] at hw
  exact (Option.some.inj hw).symm

theorem Seen.write (h : c.Seen v) (a : α) : (c.write a).Seen v := by
  refine ⟨Nat.lt_succ_of_lt h.lt_next, fun w hw hversion => ?_⟩
  cases hw
  exact absurd hversion (Nat.ne_of_gt h.lt_next)

theorem Seen.remove (h : c.Seen v) : c.remove.Seen v :=
  ⟨h.lt_next, fun _ hw => absurd hw (by simp)⟩

end Cell
