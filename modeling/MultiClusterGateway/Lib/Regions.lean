import Mathlib

set_option autoImplicit false

/-! # Changes that keep to regions

The keys of a map lie in regions, and a change of the map is local to a region if it neither reads
nor writes outside of it. Local changes of different regions do not meet: making them one after the
other, in any order, is making all of them at once (`Regions.each`).

A map is a function from keys to values, which may be optional. That a change neither reads nor
writes outside of its region is stated by two conditions, and such changes are closed under
composition and under tests of what is found in the region. The order of the list of regions does
not matter for `Regions.each`, nor does a region in which nothing changes (`each_of_quiet`), so two
lists with the same interesting regions come to the same thing. -/

namespace Regions

variable {K V ι : Type} {region : K → ι} {i : ι}

/-- The change keeps to the keys of the region `i`. -/
structure Local (region : K → ι) (i : ι) (g : (K → V) → K → V) : Prop where
  outside : ∀ f k, region k ≠ i → g f k = f k
  inside : ∀ f f' : K → V, (∀ k, region k = i → f k = f' k) → ∀ k, region k = i → g f k = g f' k

theorem Local.id : Local region i (fun f : K → V => f) where
  outside _ _ _ := rfl
  inside _ _ h := h

theorem Local.comp {g g' : (K → V) → K → V} (hg : Local region i g) (hg' : Local region i g') :
    Local region i (fun f => g' (g f)) where
  outside f k hk := (hg'.outside (g f) k hk).trans (hg.outside f k hk)
  inside f f' h := hg'.inside (g f) (g f') (hg.inside f f' h)

/-- What is found at a key of the region may decide on the change. -/
theorem Local.read {k : K} (hk : region k = i) {g : V → (K → V) → K → V}
    (hg : ∀ v, Local region i (g v)) : Local region i (fun f => g (f k) f) where
  outside f := (hg (f k)).outside f
  inside f f' h := by
    rw [h k hk]
    exact (hg (f' k)).inside f f' h

section

variable [DecidableEq K]

/-- The map with another value at one key. -/
def alter (k : K) (h : V → V) (f : K → V) : K → V := Function.update f k (h (f k))

theorem alter_apply (k : K) (h : V → V) (f : K → V) (k' : K) :
    alter k h f k' = if k' = k then h (f k') else f k' := by
  unfold alter
  by_cases hk : k' = k
  · rw [hk, Function.update_self, if_pos rfl]
  · rw [Function.update_of_ne hk, if_neg hk]

theorem Local.alter {k : K} (hk : region k = i) (h : V → V) :
    Local region i (Regions.alter k h) where
  outside f k' hk' := by
    have hne : k' ≠ k := by
      rintro rfl
      exact hk' hk
    rw [alter_apply, if_neg hne]
  inside f f' heq k' hk' := by
    rw [alter_apply, alter_apply, heq k' hk']

end

/-! ## All at once -/

variable [DecidableEq ι]

/-- The changes of the regions in the list, each made on the map as it is. -/
def each (region : K → ι) (g : ι → (K → V) → K → V) (l : List ι) (f : K → V) : K → V :=
  fun k => if region k ∈ l then g (region k) f k else f k

variable {g : ι → (K → V) → K → V} {l l' : List ι} {f : K → V} {k : K}

theorem each_of_mem (h : region k ∈ l) : each region g l f k = g (region k) f k := if_pos h

theorem each_of_notMem (h : region k ∉ l) : each region g l f k = f k := if_neg h

theorem each_nil : each region g [] f = f := funext fun _ => each_of_notMem List.not_mem_nil

theorem each_congr (h : ∀ i, i ∈ l ↔ i ∈ l') : each region g l f = each region g l' f := by
  funext k
  unfold each
  rw [if_congr (h (region k)) rfl rfl]

/-- The change of one region, then those of others. -/
theorem each_cons (hg : ∀ i, Local region i (g i)) (hi : i ∉ l) :
    each region g (i :: l) f = each region g l (g i f) := by
  funext k
  by_cases hk : region k = i
  · rw [each_of_mem (hk ▸ List.mem_cons_self), each_of_notMem (hk ▸ hi), hk]
  · have houtside (k' : K) (hk' : region k' = region k) : f k' = g i f k' :=
      ((hg i).outside f k' (hk' ▸ hk)).symm
    by_cases hmem : region k ∈ l
    · rw [each_of_mem (List.mem_cons_of_mem i hmem), each_of_mem hmem]
      exact (hg (region k)).inside f (g i f) houtside k rfl
    · rw [each_of_notMem (by simp [hk, hmem]), each_of_notMem hmem, houtside k rfl]

/-- Regions in which nothing changes need not be in the list. -/
theorem each_of_quiet (hsub : ∀ i ∈ l, i ∈ l') (hquiet : ∀ i ∈ l', i ∉ l → g i f = f) :
    each region g l f = each region g l' f := by
  funext k
  by_cases hmem : region k ∈ l
  · rw [each_of_mem hmem, each_of_mem (hsub _ hmem)]
  · by_cases hmem' : region k ∈ l'
    · rw [each_of_notMem hmem, each_of_mem hmem', hquiet _ hmem' hmem]
    · rw [each_of_notMem hmem, each_of_notMem hmem']

end Regions
