import Mathlib.Data.List.Sort
import Mathlib.Order.Lattice

/-!
# Comparison functions

What `Array.prototype.sort` asks of a comparison function and gives for it, and the
comparison of lists of parts some of which are missing: a part that one of the two lists
lacks does not count. Whether that is an order depends on the lists.
-/
namespace MylifeHome.Lib.Comparators

section Sorts

variable {β : Type*}

/-- The comparison is one on the items of the list: either order of two items gives the same answer,
and both the order and the ties are transitive. -/
structure Consistent (cmp : β → β → Int) (l : List β) : Prop where
  antisymm : ∀ a ∈ l, ∀ b ∈ l, cmp a b < 0 ↔ 0 < cmp b a
  trans : ∀ a ∈ l, ∀ b ∈ l, ∀ c ∈ l, cmp a b < 0 → cmp b c < 0 → cmp a c < 0
  ties : ∀ a ∈ l, ∀ b ∈ l, ∀ c ∈ l, cmp a b = 0 → cmp b c = 0 → cmp a c = 0

/-- `Array.prototype.sort`: the items in some order, and sorted when the comparison is
consistent. -/
structure Sorting (β : Type*) where
  sort : (β → β → Int) → List β → List β
  perm : ∀ cmp l, (sort cmp l).Perm l
  sorted : ∀ cmp l, Consistent cmp l → (sort cmp l).Pairwise fun a b => cmp a b ≤ 0

variable {cmp : β → β → Int} {l l' : List β} {a b c : β}

theorem Consistent.mono (h : Consistent cmp l) (hl : ∀ x ∈ l', x ∈ l) : Consistent cmp l' where
  antisymm a ha b hb := h.antisymm a (hl a ha) b (hl b hb)
  trans a ha b hb c hc := h.trans a (hl a ha) b (hl b hb) c (hl c hc)
  ties a ha b hb c hc := h.ties a (hl a ha) b (hl b hb) c (hl c hc)

theorem Consistent.congr {cmp' : β → β → Int} (h : Consistent cmp l)
    (heq : ∀ a ∈ l, ∀ b ∈ l, cmp a b = cmp' a b) :
    Consistent cmp' l where
  antisymm a ha b hb := by
    rw [← heq a ha b hb, ← heq b hb a ha]
    exact h.antisymm a ha b hb
  trans a ha b hb c hc := by
    rw [← heq a ha b hb, ← heq b hb c hc, ← heq a ha c hc]
    exact h.trans a ha b hb c hc
  ties a ha b hb c hc := by
    rw [← heq a ha b hb, ← heq b hb c hc, ← heq a ha c hc]
    exact h.ties a ha b hb c hc

theorem Consistent.total (h : Consistent cmp l) (ha : a ∈ l) (hb : b ∈ l) : cmp a b ≤ 0 ∨
    cmp b a ≤ 0 := by
  have := h.antisymm b hb a ha
  omega

theorem Consistent.le_trans (h : Consistent cmp l) (ha : a ∈ l) (hb : b ∈ l) (hc : c ∈ l)
    (hab : cmp a b ≤ 0) (hbc : cmp b c ≤ 0) : cmp a c ≤ 0 := by
  by_contra hac
  have hca : cmp c a < 0 := (h.antisymm c hc a ha).mpr (by omega)
  rcases Int.lt_or_eq_of_le hab with hab | hab
  · have := h.trans c hc a ha b hb hca hab
    have := (h.antisymm c hc b hb).mp this
    omega
  · rcases Int.lt_or_eq_of_le hbc with hbc | hbc
    · have := h.trans b hb c hc a ha hbc hca
      have := (h.antisymm b hb a ha).mp this
      omega
    · have := h.ties a ha b hb c hc hab hbc
      omega

/-- The first item of a sorted list is before every other. -/
theorem Sorting.head_le (sorting : Sorting β) (h : Consistent cmp l)
    (ha : (sorting.sort cmp l).head? = some a) (hb : b ∈ l) :
    cmp a b ≤ 0 := by
  have hsorted := sorting.sorted cmp l h
  have hmem := (sorting.perm cmp l).mem_iff (a := b)
  have hself : cmp b b ≤ 0 := (h.total hb hb).elim (fun hbb => hbb) fun hbb => hbb
  cases hl : sorting.sort cmp l with
  | nil =>
    rw [hl] at ha
    cases ha
  | cons x rest =>
    rw [hl] at ha hsorted hmem
    cases ha
    rcases List.mem_cons.mp (hmem.mpr hb) with rfl | hb
    · exact hself
    · exact (List.pairwise_cons.mp hsorted).1 b hb

theorem orderedInsert_sorted (h : Consistent cmp (a :: l))
    (hl : l.Pairwise fun x y => cmp x y ≤ 0) :
    (l.orderedInsert (fun x y => cmp x y ≤ 0) a).Pairwise fun x y => cmp x y ≤ 0 := by
  induction l with
  | nil => simp
  | cons b l ih =>
    obtain ⟨hb, hl⟩ := List.pairwise_cons.mp hl
    rw [List.orderedInsert_cons]
    split
    · next hab =>
      refine List.pairwise_cons.mpr ⟨fun x hx => ?_, List.pairwise_cons.mpr ⟨hb, hl⟩⟩
      rcases List.mem_cons.mp hx with rfl | hx
      · exact hab
      · exact h.le_trans (by simp) (by simp) (by simp [hx]) hab (hb x hx)
    · next hab =>
      have hrest := ih (h.mono fun x hx => by
        rcases List.mem_cons.mp hx with rfl | hx
        · simp
        · simp [hx]) hl
      refine List.pairwise_cons.mpr ⟨fun x hx => ?_, hrest⟩
      rcases List.mem_cons.mp ((List.perm_orderedInsert _ a l).mem_iff.mp hx) with rfl | hx
      · exact (h.total (by simp) (by simp)).resolve_left hab
      · exact hb x hx

/-- Sorting by insertion. -/
def insertion (β : Type*) : Sorting β where
  sort cmp l := l.insertionSort fun a b => cmp a b ≤ 0
  perm cmp l := List.perm_insertionSort _ l
  sorted cmp l h := by
    induction l with
    | nil => simp
    | cons a l ih =>
      rw [List.insertionSort_cons]
      refine orderedInsert_sorted (h.mono fun x hx => ?_)
        (ih (h.mono fun x hx => List.mem_cons_of_mem _ hx))
      rcases List.mem_cons.mp hx with rfl | hx
      · exact List.mem_cons_self
      · exact List.mem_cons_of_mem _ ((List.perm_insertionSort _ l).mem_iff.mp hx)

end Sorts

section Gaps

variable {α : Type*} [LinearOrder α]

/-- Both parts are there, and the first one is below. -/
def below : Option α → Option α → Bool
  | some x, some y => decide (x < y)
  | _, _ => false

/-- The first part that counts is above. -/
def above : List (Option α) → List (Option α) → Bool
  | x :: a, y :: b => if below x y then false else if below y x then true else above a b
  | _, _ => false

/-- Neither of the parts is below the other. -/
def level (x y : Option α) : Bool := !below x y && !below y x

/-- The first list lacks the part in which the second is above the third, and its later parts place
it neither below the second nor above the third. -/
def splits : List (Option α) → List (Option α) → List (Option α) → Bool
  | x :: a, y :: b, z :: c =>
    if level x y && level y z && level x z then splits a b c
    else x.isNone && below z y && !above b a && !above a c
  | _, _, _ => false

variable {x y z : Option α} {a b c : List (Option α)}

theorem below_eq_true : below x y = true ↔ ∃ u v, x = some u ∧ y = some v ∧ u < v := by
  cases x <;> cases y <;> simp [below]

theorem below_asymm (h : below x y = true) : below y x = false := by
  obtain ⟨u, v, rfl, rfl, huv⟩ := below_eq_true.mp h
  simp [below, le_of_lt huv]

theorem above_cons_of_below (h : below y x = true) : above (x :: a) (y :: b) = true := by
  simp [above, h, below_asymm h]

theorem above_cons_of_level (h : level x y = true) : above (x :: a) (y :: b) = above a b := by
  rw [level, Bool.and_eq_true, Bool.not_eq_true', Bool.not_eq_true'] at h
  simp [above, h]

theorem above_cons : above (x :: a) (y :: b) = true ↔ below y x = true ∨
    (level x y = true ∧ above a b = true) := by
  cases hxy : below x y <;> cases hyx : below y x <;> simp [above, level, hxy, hyx]
  simp [below_asymm hxy] at hyx

theorem level_comm : level x y = level y x := Bool.and_comm _ _

theorem above_asymm (h : above a b = true) : above b a = false := by
  induction a generalizing b with
  | nil => cases b <;> simp [above] at h
  | cons x a ih =>
    cases b with
    | nil => simp [above] at h
    | cons y b =>
      rcases above_cons.mp h with hyx | ⟨hlevel, h⟩
      · simp [above, hyx]
      · rw [above_cons_of_level (level_comm.trans hlevel)]
        exact ih h

/-- A last part counts when the others do not decide. -/
theorem above_concat (hab : a.length = b.length) :
    above (a ++ [x]) (b ++ [y]) = if above a b then true else if above b a then false
      else below y x := by
  induction a generalizing b with
  | nil =>
    rw [List.length_nil, eq_comm, List.length_eq_zero_iff] at hab
    subst hab
    cases hxy : below x y <;> cases hyx : below y x <;> simp [above, hxy, hyx]
    simp [below_asymm hxy] at hyx
  | cons z a ih =>
    match b, hab with
    | w :: b, hab =>
    have hrest := ih (b := b) (Nat.succ.inj hab)
    cases hzw : below z w <;> cases hwz : below w z <;> simp [above, hzw, hwz, hrest]
    simp [below_asymm hzw] at hwz

theorem level_eq_true : level x y = true ↔ x = none ∨ y = none ∨ x = y := by
  cases x <;> cases y <;> simp [level, below]
  exact ⟨fun h => le_antisymm h.2 h.1, fun h => ⟨h.ge, h.le⟩⟩

theorem not_above_cons : above (x :: a) (y :: b) = false ↔ below x y = true ∨
    (level x y = true ∧ above a b = false) := by
  cases hxy : below x y <;> cases hyx : below y x <;> simp [above, level, hxy, hyx]

theorem splits_of_below (hx : x = none) (hzy : below z y = true) (hba : above b a = false)
    (hac : above a c = false) :
    splits (x :: a) (y :: b) (z :: c) = true := by
  have hlevel : level y z = false := by simp [level, hzy]
  simp [splits, hlevel, hx, hzy, hba, hac]

theorem splits_of_level (hxy : level x y = true) (hyz : level y z = true) (hxz : level x z = true) :
    splits (x :: a) (y :: b) (z :: c) = splits a b c := by simp [splits, hxy, hyz, hxz]

/-- Two lists are apart, and a third is neither below the first nor above the second: one of the
three lacks the part that sets the other two apart. -/
theorem exists_splits (hab : a.length = b.length) (hbc : b.length = c.length) (h : above b c = true)
    (hba : above b a = false) (hac : above a c = false) :
    splits a b c = true ∨ splits c a b = true ∨ splits b c a = true := by
  induction a generalizing b c with
  | nil =>
    rw [List.length_nil, eq_comm, List.length_eq_zero_iff] at hab
    subst hab
    cases h
  | cons x a ih =>
    match b, c, hab, hbc with
    | y :: b, z :: c, hab, hbc =>
    rcases not_above_cons.mp hba with hyx | ⟨hyx, hba⟩
      <;> rcases not_above_cons.mp hac with hxz | ⟨hxz, hac⟩ <;>
      rcases above_cons.mp h with hzy | ⟨hyz, h⟩
    · grind [below_eq_true, level_eq_true]
    · grind [below_eq_true, level_eq_true]
    · grind [below_eq_true, level_eq_true]
    · refine .inr (.inl (splits_of_below ?_ hyx hac (above_asymm h)))
      grind [below_eq_true, level_eq_true]
    · grind [below_eq_true, level_eq_true]
    · refine .inr (.inr (splits_of_below ?_ hxz (above_asymm h) hba))
      grind [below_eq_true, level_eq_true]
    · refine .inl (splits_of_below ?_ hzy hba hac)
      grind [below_eq_true, level_eq_true]
    · -- the first parts do not count
      have hxy := level_comm.trans hyx
      have hzx := level_comm.trans hxz
      have hzy := level_comm.trans hyz
      rw [splits_of_level hxy hyz hxz, splits_of_level hzx hxy hzy, splits_of_level hyz hzx hyx]
      exact ih (Nat.succ.inj hab) (Nat.succ.inj hbc) h hba hac

theorem not_between_of_splits (h : splits a b c = true) : above b c = true ∧ above b a = false ∧
    above a c = false := by
  induction a generalizing b c with
  | nil => simp [splits] at h
  | cons x a ih =>
    match b, c, h with
    | y :: b, z :: c, h =>
    rw [splits] at h
    split at h
    · next hlevel =>
      simp only [Bool.and_eq_true] at hlevel
      obtain ⟨⟨hxy, hyz⟩, hxz⟩ := hlevel
      rw [above_cons_of_level hyz, above_cons_of_level (level_comm.trans hxy),
        above_cons_of_level hxz]
      exact ih h
    · simp only [Bool.and_eq_true, Option.isNone_iff_eq_none, Bool.not_eq_true'] at h
      obtain ⟨⟨⟨rfl, hzy⟩, hba⟩, hac⟩ := h
      have hnone : ∀ w : Option α, level none w = true := fun w => level_eq_true.mpr (.inl rfl)
      rw [above_cons_of_level (level_comm.trans (hnone y)), above_cons_of_level (hnone z)]
      exact ⟨above_cons_of_below hzy, hba, hac⟩

end Gaps

section Order

variable {α β : Type*} [LinearOrder α] (parts : β → List (Option α))

/-- The items with the higher parts come first. -/
def descending (a b : β) : Int := if above (parts b) (parts a) then 1
    else if above (parts a) (parts b) then -1 else 0

variable {parts} {a b : β}

theorem descending_neg : descending parts a b < 0 ↔ above (parts a) (parts b) = true := by
  unfold descending
  split
  · next h => simp [above_asymm h]
  · split <;> simp [*]

theorem descending_pos : 0 < descending parts a b ↔ above (parts b) (parts a) = true := by
  unfold descending
  split
  · next h => simp [h]
  · split <;> simp [*]

theorem descending_eq_zero : descending parts a b = 0 ↔ above (parts a) (parts b) = false ∧
    above (parts b) (parts a) = false := by
  have hneg : descending parts a b < 0 ↔ _ := descending_neg
  have hpos : 0 < descending parts a b ↔ _ := descending_pos
  rw [← Bool.not_eq_true, ← Bool.not_eq_true, ← hneg, ← hpos]
  omega

/-- The comparison is consistent exactly on the lists of items none of which lacks the part that
decides between two others, without being placed by its later parts. -/
theorem consistent_descending_iff {l : List β}
    (hlength : ∀ a ∈ l, ∀ b ∈ l, (parts a).length = (parts b).length) :
    Consistent (descending parts) l ↔
      ∀ a ∈ l, ∀ b ∈ l, ∀ c ∈ l, splits (parts a) (parts b) (parts c) = false := by
  constructor
  · intro h a ha b hb c hc
    by_contra hsplits
    rw [Bool.not_eq_false] at hsplits
    obtain ⟨hbc, hba, hac⟩ := not_between_of_splits hsplits
    -- whatever the place of the first item, the other two would be tied
    have hab : above (parts a) (parts b) = false := by
      by_contra hab
      rw [Bool.not_eq_false] at hab
      have := h.trans a ha b hb c hc (descending_neg.mpr hab) (descending_neg.mpr hbc)
      rw [descending_neg, hac] at this
      cases this
    have hca : above (parts c) (parts a) = false := by
      by_contra hca
      rw [Bool.not_eq_false] at hca
      have := h.trans b hb c hc a ha (descending_neg.mpr hbc) (descending_neg.mpr hca)
      rw [descending_neg, hba] at this
      cases this
    have := h.ties b hb a ha c hc (descending_eq_zero.mpr ⟨hba, hab⟩)
      (descending_eq_zero.mpr ⟨hac, hca⟩)
    rw [descending_eq_zero, hbc] at this
    cases this.1
  · intro h
    have hbetween : ∀ b ∈ l, ∀ c ∈ l, above (parts b) (parts c) = true → ∀ a ∈ l,
        above (parts b) (parts a) = true ∨ above (parts a) (parts c) = true := by
      intro b hb c hc hbc a ha
      by_contra hno
      rw [not_or, Bool.not_eq_true, Bool.not_eq_true] at hno
      rcases exists_splits (hlength a ha b hb) (hlength b hb c hc) hbc hno.1 hno.2 with hs | hs | hs
      · rw [h a ha b hb c hc] at hs
        cases hs
      · rw [h c hc a ha b hb] at hs
        cases hs
      · rw [h b hb c hc a ha] at hs
        cases hs
    refine ⟨fun a _ b _ => by rw [descending_neg, descending_pos], fun a ha b hb c hc hab hbc => ?_,
      fun a ha b hb c hc hab hbc => ?_⟩
    · rw [descending_neg] at hab hbc ⊢
      refine (hbetween a ha b hb hab c hc).resolve_right ?_
      rw [above_asymm hbc]
      exact Bool.false_ne_true
    · rw [descending_eq_zero] at hab hbc ⊢
      constructor
      · by_contra hac
        rw [Bool.not_eq_false] at hac
        rcases hbetween a ha c hc hac b hb with h' | h'
        · rw [hab.1] at h'
          cases h'
        · rw [hbc.1] at h'
          cases h'
      · by_contra hca
        rw [Bool.not_eq_false] at hca
        rcases hbetween c hc a ha hca b hb with h' | h'
        · rw [hbc.2] at h'
          cases h'
        · rw [hab.2] at h'
          cases h'

end Order

end MylifeHome.Lib.Comparators
