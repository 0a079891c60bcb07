import Mathlib.Data.List.Basic

/-!
# Runs of a transition system

A run is the list of the events that happened; the state after it is a fold of
the step function. `Along` says that each event met a condition in the state it
happened in, and the rules carry an invariant from one step to a whole run.
-/
namespace MylifeHome.Lib

universe u v

variable {S : Type u} {E : Type v}

/-- The condition holds at every step of the run, in the state before the step. -/
def Along (step : S → E → S) (cond : S → E → Prop) : S → List E → Prop
  | _, [] => True
  | s, e :: es => cond s e ∧ Along step cond (step s e) es

namespace Along

variable {step : S → E → S} {cond cond' : S → E → Prop} {s : S} {es : List E}

instance decidable [∀ s e, Decidable (cond s e)] : (s : S) → (es : List E) →
    Decidable (Along step cond s es)
  | _, [] => isTrue trivial
  | s, e :: es => @instDecidableAnd _ _ _ (decidable (step s e) es)

theorem mono (h : Along step cond s es) (hc : ∀ s e, cond s e → cond' s e) :
    Along step cond' s es := by
  induction es generalizing s with
  | nil => trivial
  | cons e es ih => exact ⟨hc s e h.1, ih h.2⟩

/-- What holds at the start and is kept by every step that meets the condition
holds after the run. -/
theorem invariant {P : S → Prop} (h : Along step cond s es) (hs : P s)
    (hstep : ∀ s e, P s → cond s e → P (step s e)) : P (es.foldl step s) := by
  induction es generalizing s with
  | nil => exact hs
  | cons e es ih => exact ih h.2 (hstep s e hs h.1)

theorem append {es' : List E} :
    Along step cond s (es ++ es') ↔ Along step cond s es ∧
      Along step cond (es.foldl step s) es' := by
  induction es generalizing s with
  | nil => simp [Along]
  | cons e es ih => simp [Along, ih, and_assoc]

/-- Two conditions that say the same in the states of an invariant, which the steps that meet them
keep. -/
theorem iff_of_step {P : S → Prop} {cond₀ : S → E → Prop} (h : Along step cond₀ s es) (hs : P s)
    (hstep : ∀ s e, P s → cond₀ s e → (cond s e ↔ cond' s e) ∧ (cond' s e → P (step s e))) :
    Along step cond s es ↔ Along step cond' s es := by
  induction es generalizing s with
  | nil => exact Iff.rfl
  | cons e es ih =>
    obtain ⟨hiff, hkeep⟩ := hstep s e hs h.1
    constructor
    · rintro ⟨hc, hrest⟩
      have hc' := hiff.mp hc
      exact ⟨hc', (ih h.2 (hkeep hc')).mp hrest⟩
    · rintro ⟨hc, hrest⟩
      exact ⟨hiff.mpr hc, (ih h.2 (hkeep hc)).mpr hrest⟩

end Along

end MylifeHome.Lib
