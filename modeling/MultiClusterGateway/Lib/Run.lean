import Mathlib

set_option autoImplicit false

/-! # Runs of a state machine

A machine is a function from states and events to states; a run is a list of events. A condition on
the single steps is a relation between the state before a step and its event, and `Always` says that
every step of a run meets it.

A safety property is proved in two parts: a step that meets the condition preserves an invariant,
and the invariant implies the property. `invariant` puts them together once and for all. The
condition may depend on the state before the step, so that assumptions such as "others do not touch
what is not theirs" can be stated where they are made. `always_congr` exchanges a condition for one
that agrees with it wherever an invariant holds, and `always_map` takes one over from a part of the
state that runs by itself. -/

universe u v

namespace Run

variable {σ : Type u} {ι : Type v}

/-- Every step of the run meets the condition. -/
def Always (step : σ → ι → σ) (cond : σ → ι → Prop) : σ → List ι → Prop
  | _, [] => True
  | s, i :: rest => cond s i ∧ Always step cond (step s i) rest

/-- One run after another. -/
theorem always_append_iff {step : σ → ι → σ} {cond : σ → ι → Prop} {s : σ} {run run' : List ι} :
    Always step cond s (run ++ run') ↔
      Always step cond s run ∧ Always step cond (run.foldl step s) run' := by
  induction run generalizing s with
  | nil => simp [Always]
  | cons j rest ih => simp [Always, ih, and_assoc]

/-- A run and one more step. -/
theorem always_append {step : σ → ι → σ} {cond : σ → ι → Prop} {s : σ} {run : List ι} {i : ι} :
    Always step cond s (run ++ [i]) ↔
      Always step cond s run ∧ cond (run.foldl step s) i := by
  simp [always_append_iff, Always]

/-- A condition that the events meet in any state. -/
theorem always_of_forall {step : σ → ι → σ} {cond : σ → ι → Prop} {run : List ι}
    (h : ∀ i ∈ run, ∀ s, cond s i) (s : σ) : Always step cond s run := by
  induction run generalizing s with
  | nil => trivial
  | cons i rest ih =>
      exact ⟨h i List.mem_cons_self s, ih (fun j hj => h j (List.mem_cons_of_mem i hj)) _⟩

/-- What the steps that meet a condition preserve holds at the end of every such run. -/
theorem invariant {step : σ → ι → σ} {cond : σ → ι → Prop} {P : σ → Prop}
    (hstep : ∀ s i, P s → cond s i → P (step s i)) {s : σ} {run : List ι} (hs : P s)
    (hrun : Always step cond s run) : P (run.foldl step s) := by
  induction run generalizing s with
  | nil => exact hs
  | cons i rest ih => exact ih (hstep s i hs hrun.1) hrun.2

/-- What every step preserves holds at the end of every run. -/
theorem preserved {step : σ → ι → σ} {P : σ → Prop} (hstep : ∀ s i, P s → P (step s i)) {s : σ}
    (hs : P s) (run : List ι) : P (run.foldl step s) := by
  induction run generalizing s with
  | nil => exact hs
  | cons i rest ih => exact ih (hstep s i hs)

/-- Two conditions that agree where an invariant holds are met by the same runs. -/
theorem always_congr {step : σ → ι → σ} {cond cond' : σ → ι → Prop} {P : σ → Prop}
    (hstep : ∀ s i, P s → P (step s i)) (hcond : ∀ s i, P s → (cond s i ↔ cond' s i)) {s : σ}
    (hs : P s) (run : List ι) : Always step cond s run ↔ Always step cond' s run := by
  induction run generalizing s with
  | nil => exact Iff.rfl
  | cons i rest ih => exact and_congr (hcond s i hs) (ih (hstep s i hs))

/-- A condition on a part of the state that runs by itself. -/
theorem always_map {τ : Type*} {step : σ → ι → σ} {step' : τ → ι → τ} {cond : τ → ι → Prop}
    {f : σ → τ} (hf : ∀ s i, f (step s i) = step' (f s) i) (s : σ) (run : List ι) :
    Always step (fun s => cond (f s)) s run ↔ Always step' cond (f s) run := by
  induction run generalizing s with
  | nil => exact Iff.rfl
  | cons i rest ih => exact and_congr Iff.rfl (by rw [← hf]; exact ih (step s i))

end Run
