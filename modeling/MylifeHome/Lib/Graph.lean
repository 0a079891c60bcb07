import Mathlib.Logic.Relation
import Mathlib.Data.Finset.Card
import Mathlib.Data.Finset.Filter

/-!
# Relations without cycles

What an added edge does to the paths of a relation, and the rank that a relation
without cycles gives to its points when only finitely many of them are reached.
-/
namespace MylifeHome.Lib

universe u v

variable {α : Type u} {R R' : α → α → Prop}

open Relation

/-- No path leads from a point to itself. -/
def Acyclic (R : α → α → Prop) : Prop := ∀ a, ¬ TransGen R a a

theorem Acyclic.mono (h : Acyclic R) (hR : ∀ a b, R' a b → R a b) : Acyclic R' :=
  fun a ha => h a (TransGen.mono hR a a ha)

theorem Acyclic.swap (h : Acyclic R) : Acyclic (Function.swap R) :=
  fun a ha => h a (transGen_swap.mp ha)

/-- From a point whose paths all end, no cycle is reached. -/
theorem not_cycle_of_acc {a b : α} (h : Acc (flip R) a) (hab : ReflTransGen R a b) :
    ¬TransGen R b b := by
  induction h with
  | intro a _ ih =>
    rcases ReflTransGen.cases_head hab with rfl | ⟨c, hac, hcb⟩
    · intro hcycle
      obtain ⟨c, hac, hca⟩ := TransGen.head'_iff.mp hcycle
      exact ih c hac hca hcycle
    · exact ih c hac hcb

/-- A path of the extended relation is an old one, or goes through the new edge. -/
theorem transGen_insert {x y : α} (hR : ∀ a b, R' a b → R a b ∨ (a = x ∧ b = y)) {a b : α}
    (h : TransGen R' a b) :
    TransGen R a b ∨ (ReflTransGen R a x ∧ ReflTransGen R y b) := by
  induction h with
  | single hab =>
    rcases hR _ _ hab with hab | ⟨rfl, rfl⟩
    · exact Or.inl (.single hab)
    · exact Or.inr ⟨.refl, .refl⟩
  | tail _ hbc ih =>
    rcases hR _ _ hbc with hbc | ⟨rfl, rfl⟩
    · exact ih.imp (fun h => h.tail hbc) (fun h => ⟨h.1, h.2.tail hbc⟩)
    · rcases ih with ih | ih
      · exact Or.inr ⟨ih.to_reflTransGen, .refl⟩
      · exact Or.inr ⟨ih.1, .refl⟩

/-- An edge makes no cycle when its end does not lead to its start. -/
theorem Acyclic.insert (h : Acyclic R) {x y : α} (hR : ∀ a b, R' a b → R a b ∨ (a = x ∧ b = y))
    (hxy : ¬ ReflTransGen R y x) : Acyclic R' := by
  intro a ha
  rcases transGen_insert hR ha with ha | ⟨hax, hya⟩
  · exact h a ha
  · exact hxy (hya.trans hax)

theorem Acyclic.of_map {β : Type v} {S : β → β → Prop} (h : Acyclic R) (f : β → α)
    (hS : ∀ a b, S a b → TransGen R (f a) (f b)) : Acyclic S :=
  fun a ha => h (f a) (TransGen.lift' f hS a a ha)

/-- A point that leads to what another one leads to, and that edges to the other one may lead to,
makes no cycle when the other one does not lead to it. -/
theorem Acyclic.merge [DecidableEq α] (h : Acyclic R) {x y : α} (hyx : ¬ TransGen R y x)
    (hR : ∀ a b, R' a b → R (if a = x then y else a) b ∨
      R (if a = x then y else a) (if b = x then y else b)) :
    Acyclic R' := by
  by_cases hxy : x = y
  · subst hxy
    refine h.mono fun a b hab => ?_
    have hself : ∀ c, (if c = x then x else c) = c := fun c => by split <;> simp_all
    simpa only [hself, or_self] using hR a b hab
  · have hnot : ¬ ReflTransGen R y x :=
      fun hr => (reflTransGen_iff_eq_or_transGen.mp hr).elim hxy hyx
    have hins : Acyclic (fun a b => R a b ∨ (a = x ∧ b = y)) := h.insert (fun _ _ hab => hab) hnot
    refine hins.of_map (fun a => if a = x then y else a) fun a b hab => ?_
    rcases hR a b hab with hab | hab
    · by_cases hb : b = x
      · rw [if_pos hb]
        exact .head (Or.inl (hb ▸ hab)) (.single (Or.inr ⟨rfl, rfl⟩))
      · rw [if_neg hb]
        exact .single (Or.inl hab)
    · exact .single (Or.inl hab)

/-- The number of points that a point leads to goes down along the edges. -/
theorem Acyclic.exists_rank (h : Acyclic R) (S : Finset α) (hS : ∀ a b, R a b → b ∈ S) :
    ∃ rank : α → Nat, (∀ a b, R a b → rank b < rank a) ∧ ∀ a, rank a ≤ S.card := by
  classical
  refine ⟨fun a => (S.filter (TransGen R a)).card, ?_, fun a => Finset.card_filter_le S _⟩
  intro a b hab
  refine Finset.card_lt_card ⟨?_, ?_⟩
  · intro x hx
    obtain ⟨hxS, hbx⟩ := Finset.mem_filter.mp hx
    exact Finset.mem_filter.mpr ⟨hxS, hbx.head hab⟩
  · intro hsub
    have hb := hsub (Finset.mem_filter.mpr ⟨hS a b hab, .single hab⟩)
    exact h b (Finset.mem_filter.mp hb).2

end MylifeHome.Lib
