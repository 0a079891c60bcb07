import Mathlib.Data.List.Basic

/-!
# Sets that tell their changes

A set that emits an event for each member that enters or leaves, and none when
nothing changes.
-/
namespace MylifeHome.Lib

universe u

structure Toggles (K : Type u) where
  members : List K := []
  events : List (K × Bool) := []

namespace Toggles

variable {K : Type u} [DecidableEq K]

/-- What a listener does with an event. -/
def apply (l : List K) (e : K × Bool) : List K := if e.2 then l ++ [e.1]
    else l.filter fun k => decide (k ≠ e.1)

def turn (t : Toggles K) (k : K) (on : Bool) : Toggles K :=
  if decide (k ∈ t.members) = on then t
  else { members := apply t.members (k, on), events := t.events ++ [(k, on)] }

def turnAll (t : Toggles K) (on : Bool) (l : List K) : Toggles K :=
  l.foldl (fun t k => t.turn k on) t

/-- The events replayed give the members, and each event is a change. -/
structure Faithful (t : Toggles K) : Prop where
  replayed : t.events.foldl apply [] = t.members
  changes : ∀ before k on after, t.events = before ++ (k, on) :: after →
    (k ∈ before.foldl apply [] ↔ on = false)

theorem mem_turn {t : Toggles K} {k k' : K} {on : Bool} :
    k' ∈ (t.turn k on).members ↔ if k' = k then on = true else k' ∈ t.members := by
  rw [turn]
  split
  next h => by_cases hk : k' = k <;> simp [← h, hk]
  next h => cases on <;> by_cases hk : k' = k <;> simp [apply, hk]

theorem mem_turnAll {t : Toggles K} {on : Bool} {l : List K} {k : K} :
    k ∈ (t.turnAll on l).members ↔ if k ∈ l then on = true else k ∈ t.members := by
  induction l generalizing t with
  | nil => simp [turnAll]
  | cons k' l ih =>
    rw [turnAll, List.foldl_cons, ← turnAll, ih, mem_turn]
    by_cases hl : k ∈ l <;> by_cases hk : k = k' <;> simp [hl, hk]

theorem turnAll_eq_self {t : Toggles K} {on : Bool} {l : List K}
    (h : ∀ k ∈ l, decide (k ∈ t.members) = on) :
    t.turnAll on l = t := by
  induction l with
  | nil => rfl
  | cons k l ih =>
    obtain ⟨hk, hl⟩ := List.forall_mem_cons.mp h
    rw [turnAll, List.foldl_cons, turn, if_pos hk]
    exact ih hl

theorem Faithful.turn {t : Toggles K} (h : t.Faithful) (k : K) (on : Bool) :
    (t.turn k on).Faithful := by
  rw [Toggles.turn]
  split
  · exact h
  next hon =>
    refine ⟨by rw [List.foldl_append, h.replayed]; rfl, ?_⟩
    intro before k' on' after heq
    rcases List.eq_nil_or_concat' after with rfl | ⟨after, last, rfl⟩
    · obtain ⟨rfl, he⟩ := List.append_inj' heq rfl
      cases he
      rw [h.replayed]
      cases on <;> simpa using hon
    · rw [← List.cons_append, ← List.append_assoc] at heq
      exact h.changes before k' on' after (List.append_inj' heq rfl).1

theorem Faithful.turnAll {t : Toggles K} (h : t.Faithful) (on : Bool) (l : List K) :
    (t.turnAll on l).Faithful := by
  induction l generalizing t with
  | nil => exact h
  | cons k l ih => exact ih (h.turn k on)

theorem faithful_empty : ({} : Toggles K).Faithful := ⟨rfl, by simp⟩

end Toggles

end MylifeHome.Lib
