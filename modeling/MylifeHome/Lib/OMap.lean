import Mathlib.Data.List.Induction
import Mathlib.Data.List.Nodup
import Mathlib.Data.List.Basic
import Mathlib.Data.List.Perm.Subperm

/-!
# Insertion-ordered finite maps

The dictionary that JavaScript's `Map` and its plain objects are: writing an
existing key keeps the key's place, writing a new key appends it, deleting and
writing again moves it to the end. Distinctness of the keys is a field, so that
lookup and membership of an entry are the same thing.
-/
namespace MylifeHome.Lib

universe u v w

namespace AssocList

variable {K : Type u} {V : Type v} [DecidableEq K]

def lookup (k : K) : List (K × V) → Option V
  | [] => none
  | e :: l => if e.1 = k then some e.2 else lookup k l

/-- Overwrite in place, or append. -/
def assign (k : K) (x : V) : List (K × V) → List (K × V)
  | [] => [(k, x)]
  | e :: l => if e.1 = k then (k, x) :: l else e :: assign k x l

def remove (k : K) (l : List (K × V)) : List (K × V) := l.filter (fun e => decide (e.1 ≠ k))

theorem lookup_eq_none {k : K} {l : List (K × V)} : lookup k l = none ↔ k ∉ l.map Prod.fst := by
  induction l with
  | nil => simp [lookup]
  | cons e l ih =>
    by_cases h : e.1 = k
    · simp [lookup, h]
    · simp only [lookup, if_neg h, ih, List.map_cons, List.mem_cons, not_or]
      exact ⟨fun hl => ⟨fun he => h he.symm, hl⟩, fun hl => hl.2⟩

theorem mem_of_lookup {k : K} {x : V} {l : List (K × V)} (h : lookup k l = some x) :
    (k, x) ∈ l := by
  induction l with
  | nil => simp [lookup] at h
  | cons e l ih =>
    by_cases he : e.1 = k
    · simp only [lookup, if_pos he, Option.some.injEq] at h
      subst he h
      exact List.mem_cons_self
    · rw [lookup, if_neg he] at h
      exact List.mem_cons_of_mem _ (ih h)

theorem lookup_of_mem {k : K} {x : V} {l : List (K × V)} (hn : (l.map Prod.fst).Nodup)
    (h : (k, x) ∈ l) : lookup k l = some x := by
  induction l with
  | nil => cases h
  | cons e l ih =>
    rw [List.map_cons, List.nodup_cons] at hn
    rcases List.mem_cons.mp h with rfl | hl
    · simp [lookup]
    · have hk : e.1 ≠ k := by
        intro he
        exact hn.1 (he ▸ List.mem_map_of_mem hl)
      rw [lookup, if_neg hk]
      exact ih hn.2 hl

theorem lookup_assign (k k' : K) (x : V) (l : List (K × V)) :
    lookup k' (assign k x l) = if k' = k then some x else lookup k' l := by
  induction l with
  | nil =>
    by_cases h : k' = k
    · simp [assign, lookup, h]
    · simp [assign, lookup, h, Ne.symm h]
  | cons e l ih =>
    by_cases he : e.1 = k
    · by_cases h : k' = k
      · simp [assign, lookup, he, h]
      · simp [assign, lookup, he, h, Ne.symm h]
    · rw [assign, if_neg he, lookup, ih]
      by_cases h : k' = k
      · subst h; simp [he]
      · simp [lookup, h]

theorem lookup_remove (k k' : K) (l : List (K × V)) :
    lookup k' (remove k l) = if k' = k then none else lookup k' l := by
  induction l with
  | nil => simp [remove, lookup]
  | cons e l ih =>
    have ih' : lookup k' (l.filter (fun e => decide (e.1 ≠ k))) = if k' = k then none
      else lookup k' l := ih
    by_cases he : e.1 = k
    · have hf : (e :: l).filter (fun e => decide (e.1 ≠ k)) =
          l.filter (fun e => decide (e.1 ≠ k)) := by
        simp [he]
      rw [remove, hf, ih']
      by_cases h : k' = k
      · simp [h]
      · simp [lookup, he, h, Ne.symm h]
    · have hf : (e :: l).filter (fun e => decide (e.1 ≠ k)) =
          e :: l.filter (fun e => decide (e.1 ≠ k)) := by
        simp [he]
      rw [remove, hf, lookup, ih']
      by_cases h : k' = k
      · subst h; simp [he]
      · simp [lookup, h]

theorem assign_assign (k : K) (x y : V) (l : List (K × V)) :
    assign k y (assign k x l) = assign k y l := by
  induction l with
  | nil => simp [assign]
  | cons e l ih =>
    by_cases he : e.1 = k
    · simp [assign, he]
    · simp [assign, he, ih]

theorem fst_assign (k : K) (x : V) (l : List (K × V)) :
    (assign k x l).map Prod.fst = if k ∈ l.map Prod.fst then l.map Prod.fst
      else l.map Prod.fst ++ [k] := by
  induction l with
  | nil => simp [assign]
  | cons e l ih =>
    by_cases he : e.1 = k
    · simp [assign, he]
    · rw [assign, if_neg he, List.map_cons, ih]
      by_cases hk : k ∈ l.map Prod.fst
      · simp [hk]
      · simp only [hk, List.map_cons, List.mem_cons, or_false, Ne.symm he, if_false,
          List.cons_append]

theorem nodup_assign {k : K} {x : V} {l : List (K × V)} (hn : (l.map Prod.fst).Nodup) :
    ((assign k x l).map Prod.fst).Nodup := by
  rw [fst_assign]
  split
  · exact hn
  · next hk => exact hn.append (List.nodup_singleton k) (by simpa using hk)

theorem nodup_remove {k : K} {l : List (K × V)} (hn : (l.map Prod.fst).Nodup) :
    ((remove k l).map Prod.fst).Nodup :=
  hn.sublist (List.filter_sublist.map Prod.fst)

end AssocList

/-- A finite map with the insertion order of its keys. -/
structure OMap (K : Type u) (V : Type v) where
  entries : List (K × V)
  nodup : (entries.map Prod.fst).Nodup

namespace OMap

variable {K : Type u} {V : Type v} {W : Type w}

theorem ext_entries {m n : OMap K V} (h : m.entries = n.entries) : m = n := by
  cases m; cases n; cases h; rfl

instance [DecidableEq K] [DecidableEq V] : DecidableEq (OMap K V) := fun m n =>
  decidable_of_iff (m.entries = n.entries) ⟨ext_entries, fun h => h ▸ rfl⟩

def empty : OMap K V := ⟨[], List.nodup_nil⟩

instance : EmptyCollection (OMap K V) := ⟨empty⟩

def keys (m : OMap K V) : List K := m.entries.map Prod.fst

def values (m : OMap K V) : List V := m.entries.map Prod.snd

def size (m : OMap K V) : Nat := m.entries.length

/-- Rewrite every value, keeping keys and order. -/
def mapVal (f : V → W) (m : OMap K V) : OMap K W :=
  ⟨m.entries.map (fun e => (e.1, f e.2)), by
    have h : (m.entries.map (fun e => (e.1, f e.2))).map Prod.fst = m.entries.map Prod.fst := by
      simp [List.map_map, Function.comp_def]
    rw [h]; exact m.nodup⟩

@[simp] theorem entries_empty : (∅ : OMap K V).entries = [] := rfl

theorem keys_nodup (m : OMap K V) : m.keys.Nodup := m.nodup

@[simp] theorem mapVal_id (m : OMap K V) : m.mapVal (fun x => x) = m :=
  ext_entries (List.map_id' m.entries)

variable [DecidableEq K]

def get (m : OMap K V) (k : K) : Option V := AssocList.lookup k m.entries

def has (m : OMap K V) (k : K) : Bool := (m.get k).isSome

def set (m : OMap K V) (k : K) (x : V) : OMap K V :=
  ⟨AssocList.assign k x m.entries, AssocList.nodup_assign m.nodup⟩

def delete (m : OMap K V) (k : K) : OMap K V :=
  ⟨AssocList.remove k m.entries, AssocList.nodup_remove m.nodup⟩

/-- A loop over the entries of a map that writes something in another one for some of them. -/
def putEach (g : K → V → Option W) (n : OMap K V) (m : OMap K W) : OMap K W :=
  n.entries.foldl (fun m e => match g e.1 e.2 with | some x => m.set e.1 x | none => m) m

/-- Build a map by writing a list of entries one after the other. -/
def ofList (l : List (K × V)) : OMap K V := l.foldl (fun m e => m.set e.1 e.2) empty

/-- Rewrite the value of a key, if there is one. -/
def modify (m : OMap K V) (k : K) (f : V → V) : OMap K V :=
  match m.get k with
  | some x => m.set k (f x)
  | none => m

/-- Give the value of a key to another one, at the end; without a value nothing happens. -/
def rename (m : OMap K V) (k k' : K) : OMap K V :=
  match m.get k with
  | some x => (m.delete k).set k' x
  | none => m

/-- Append to the list under a key. -/
def push (m : OMap K (List V)) (k : K) (x : V) : OMap K (List V) :=
  m.set k ((m.get k).getD [] ++ [x])

@[simp] theorem get_empty (k : K) : (∅ : OMap K V).get k = none := rfl

theorem get_set (m : OMap K V) (k k' : K) (x : V) :
    (m.set k x).get k' = if k' = k then some x else m.get k' :=
  AssocList.lookup_assign k k' x m.entries

@[simp] theorem get_set_self (m : OMap K V) (k : K) (x : V) : (m.set k x).get k = some x := by
  simp [get_set]

theorem get_set_ne (m : OMap K V) {k k' : K} (x : V) (h : k' ≠ k) :
    (m.set k x).get k' = m.get k' := by
  simp [get_set, h]

theorem get_delete (m : OMap K V) (k k' : K) :
    (m.delete k).get k' = if k' = k then none else m.get k' :=
  AssocList.lookup_remove k k' m.entries

@[simp] theorem get_delete_self (m : OMap K V) (k : K) : (m.delete k).get k = none := by
  simp [get_delete]

theorem get_delete_ne (m : OMap K V) {k k' : K} (h : k' ≠ k) : (m.delete k).get k' = m.get k' := by
  simp [get_delete, h]

theorem get_delete_eq_some {m : OMap K V} {k k' : K} {x : V} :
    (m.delete k).get k' = some x ↔ k' ≠ k ∧ m.get k' = some x := by
  rw [get_delete]; split <;> simp_all

theorem get_set_eq_some {m : OMap K V} {k k' : K} {x y : V} :
    (m.set k x).get k' = some y ↔ (k' = k ∧ x = y) ∨ (k' ≠ k ∧ m.get k' = some y) := by
  rw [get_set]; split <;> simp_all

theorem mem_entries {m : OMap K V} {k : K} {x : V} : (k, x) ∈ m.entries ↔ m.get k = some x :=
  ⟨AssocList.lookup_of_mem m.nodup, AssocList.mem_of_lookup⟩

theorem mem_keys {m : OMap K V} {k : K} : k ∈ m.keys ↔ ∃ x, m.get k = some x := by
  constructor
  · intro h
    obtain ⟨⟨k', x⟩, he, rfl⟩ := List.mem_map.mp h
    exact ⟨x, mem_entries.mp he⟩
  · rintro ⟨x, h⟩
    exact List.mem_map.mpr ⟨(k, x), mem_entries.mpr h, rfl⟩

theorem mem_values {m : OMap K V} {x : V} : x ∈ m.values ↔ ∃ k, m.get k = some x := by
  constructor
  · intro h
    obtain ⟨⟨k, x'⟩, he, rfl⟩ := List.mem_map.mp h
    exact ⟨k, mem_entries.mp he⟩
  · rintro ⟨k, h⟩
    exact List.mem_map.mpr ⟨(k, x), mem_entries.mpr h, rfl⟩

theorem get_eq_none {m : OMap K V} {k : K} : m.get k = none ↔ k ∉ m.keys := AssocList.lookup_eq_none

theorem has_iff {m : OMap K V} {k : K} : m.has k = true ↔ ∃ x, m.get k = some x :=
  Option.isSome_iff_exists

theorem has_eq_false {m : OMap K V} {k : K} : m.has k = false ↔ m.get k = none := by
  simp [has]

theorem has_set (m : OMap K V) (k k' : K) (x : V) :
    (m.set k x).has k' = (decide (k' = k) || m.has k') := by
  rw [has, has, get_set]
  by_cases h : k' = k <;> simp [h]

theorem has_delete (m : OMap K V) (k k' : K) :
    (m.delete k).has k' = (!decide (k' = k) && m.has k') := by
  rw [has, get_delete]
  by_cases h : k' = k <;> simp [h, has]

theorem get_mapVal (f : V → W) (m : OMap K V) (k : K) : (m.mapVal f).get k = (m.get k).map f := by
  unfold get mapVal
  simp only
  induction m.entries with
  | nil => rfl
  | cons e l ih =>
    by_cases h : e.1 = k
    · simp [AssocList.lookup, h]
    · simp [AssocList.lookup, h, ih]

theorem mapVal_congr {f g : V → W} {m : OMap K V} (h : ∀ k x, m.get k = some x → f x = g x) :
    m.mapVal f = m.mapVal g := by
  refine ext_entries (List.map_congr_left fun e he => ?_)
  rw [h e.1 e.2 (mem_entries.mp he)]

theorem mapVal_eq_mapVal {f g : V → W} {m : OMap K V} :
    m.mapVal f = m.mapVal g ↔ ∀ k x, m.get k = some x → f x = g x := by
  refine ⟨fun h k x hx => ?_, mapVal_congr⟩
  have hget := congrArg (fun n => n.get k) h
  simp only [get_mapVal, hx, Option.map_some, Option.some.injEq] at hget
  exact hget

theorem has_mapVal (f : V → W) (m : OMap K V) (k : K) : (m.mapVal f).has k = m.has k := by
  rw [has, get_mapVal, Option.isSome_map, has]

theorem get_modify (m : OMap K V) (k k' : K) (f : V → V) :
    (m.modify k f).get k' = if k' = k then (m.get k).map f else m.get k' := by
  unfold modify
  split
  · next x h => rw [get_set, h]; rfl
  · next h =>
    by_cases hk : k' = k
    · rw [if_pos hk, hk, h]; rfl
    · rw [if_neg hk]

theorem has_modify (m : OMap K V) (k k' : K) (f : V → V) : (m.modify k f).has k' = m.has k' := by
  rw [has, has, get_modify]
  split
  · next h => rw [h, Option.isSome_map]
  · rfl

theorem modify_congr {m : OMap K V} {k : K} {f g : V → V} (h : ∀ x, m.get k = some x → f x = g x) :
    m.modify k f = m.modify k g := by
  unfold modify
  split
  · next x hx => rw [h x hx]
  · rfl

theorem set_set (m : OMap K V) (k : K) (x y : V) : (m.set k x).set k y = m.set k y :=
  ext_entries (AssocList.assign_assign k x y m.entries)

theorem modify_set (m : OMap K V) (k : K) (x : V) (f : V → V) :
    (m.set k x).modify k f = m.set k (f x) := by
  rw [modify, get_set_self]
  exact set_set m k x (f x)

theorem modify_modify (m : OMap K V) (k : K) (f g : V → V) :
    (m.modify k f).modify k g = m.modify k (g ∘ f) := by
  cases h : m.get k with
  | none => simp only [modify, h]
  | some x => rw [modify.eq_def m k f, modify.eq_def m k (g ∘ f), h]; exact modify_set m k (f x) g

theorem get_rename {m : OMap K V} {k k' : K} {x : V} (h : m.get k = some x) (j : K) :
    (m.rename k k').get j = if j = k' then some x else if j = k then none else m.get j := by
  rw [rename, h]
  simp only [get_set, get_delete]

/-- Each value of a renamed map was there before. -/
theorem exists_of_get_rename {m : OMap K V} {k k' j : K} {x : V}
    (h : (m.rename k k').get j = some x) :
    ∃ j', m.get j' = some x := by
  cases hk : m.get k with
  | none =>
    rw [rename, hk] at h
    exact ⟨j, h⟩
  | some y =>
    rw [get_rename hk] at h
    split at h
    · exact ⟨k, hk.trans h⟩
    · split at h
      · cases h
      · exact ⟨j, h⟩

/-- A rename changes one key, and moves its entry. -/
theorem entries_rename_perm {m : OMap K V} {k k' : K} (h : m.get k' = none) :
    (m.rename k k').entries.Perm (m.entries.map fun e => (if e.1 = k then k' else e.1, e.2)) := by
  have hinj : ∀ e ∈ m.entries, ∀ e' ∈ m.entries, (if e.1 = k then k' else e.1) =
    (if e'.1 = k then k' else e'.1) →
      e.1 = e'.1 := by
    intro e he e' he' heq
    have hne : ∀ e ∈ m.entries, e.1 ≠ k' := by
      rintro e he rfl
      cases (mem_entries.mp he).symm.trans h
    split at heq <;> split at heq
    · next h₁ h₂ => exact h₁.trans h₂.symm
    · exact absurd heq.symm (hne e' he')
    · exact absurd heq (hne e he)
    · exact heq
  have hnodup : (m.entries.map fun e => (if e.1 = k then k' else e.1, e.2)).Nodup := by
    refine List.Nodup.map_on (fun e he e' he' heq => ?_) m.nodup.of_map
    have hkey := hinj e he e' he' (congrArg Prod.fst heq)
    exact Prod.ext hkey (Prod.mk.inj heq).2
  refine (List.perm_ext_iff_of_nodup (m.rename k k').nodup.of_map hnodup).mpr ?_
  rintro ⟨j, x⟩
  rw [mem_entries, List.mem_map]
  cases hk : m.get k with
  | none =>
    have hne : ∀ e ∈ m.entries, e.1 ≠ k := by
      rintro e he rfl
      cases (mem_entries.mp he).symm.trans hk
    rw [rename, hk]
    constructor
    · intro hj
      exact ⟨(j, x), mem_entries.mpr hj, by rw [if_neg (hne _ (mem_entries.mpr hj))]⟩
    · rintro ⟨e, he, heq⟩
      rw [if_neg (hne e he)] at heq
      exact mem_entries.mp (heq ▸ he)
  | some y =>
    rw [get_rename hk]
    constructor
    · intro hj
      split at hj
      · next hj' =>
        cases hj
        exact ⟨(k, x), mem_entries.mpr hk, by rw [if_pos rfl, hj']⟩
      · split at hj
        · cases hj
        · next hne => exact ⟨(j, x), mem_entries.mpr hj, by rw [if_neg hne]⟩
    · rintro ⟨⟨i, z⟩, he, heq⟩
      have hi := mem_entries.mp he
      obtain ⟨rfl, rfl⟩ := Prod.mk.inj heq
      by_cases hik : i = k
      · subst hik
        simp only [if_true]
        exact hk.symm.trans hi
      · have hik' : i ≠ k' := fun heq => by
          rw [heq] at hi
          cases hi.symm.trans h
        simp only [if_neg hik, if_neg hik']
        exact hi

/-- When a value tells its key, the keys are the values' tags. -/
theorem keys_eq_map_values {m : OMap K V} {f : V → K} (h : ∀ k x, m.get k = some x → f x = k) :
    m.keys = m.values.map f := by
  unfold keys values
  rw [List.map_map]
  apply List.map_congr_left
  rintro ⟨k, x⟩ he
  exact (h k x (mem_entries.mp he)).symm

theorem values_nodup {m : OMap K V} {f : V → K} (h : ∀ k x, m.get k = some x → f x = k) :
    m.values.Nodup := by
  have hk := m.keys_nodup
  rw [keys_eq_map_values h] at hk
  exact hk.of_map f

theorem get_foldl_delete (l : List K) (m : OMap K V) (k : K) :
    (l.foldl (fun m k => m.delete k) m).get k = if k ∈ l then none else m.get k := by
  induction l generalizing m with
  | nil => simp
  | cons a l ih =>
    rw [List.foldl_cons, ih, get_delete]
    by_cases hl : k ∈ l
    · simp [hl]
    · by_cases ha : k = a <;> simp [hl, ha]

theorem get_putEach (g : K → V → Option W) (n : OMap K V) (m : OMap K W) (k : K) :
    (putEach g n m).get k = ((n.get k).bind (g k)).or (m.get k) := by
  obtain ⟨l, hn⟩ := n
  show (l.foldl _ m).get k = ((AssocList.lookup k l).bind (g k)).or (m.get k)
  induction l generalizing m with
  | nil => simp [AssocList.lookup]
  | cons e l ih =>
    rw [List.map_cons, List.nodup_cons] at hn
    rw [List.foldl_cons, ih _ hn.2]
    by_cases he : e.1 = k
    · subst he
      have hl : AssocList.lookup e.1 l = none := AssocList.lookup_eq_none.mpr hn.1
      rw [hl, AssocList.lookup, if_pos rfl]
      cases hg : g e.1 e.2 with
      | none => simp [hg]
      | some x => simp [hg]
    · rw [AssocList.lookup, if_neg he]
      cases hg : g e.1 e.2 with
      | none => simp
      | some x => simp only [get_set_ne _ _ (Ne.symm he)]

/-- The last write of a loop under a key is the one that stays. -/
theorem get_foldl_set_last {α : Type*} (f : α → K) (g : α → V) (l : List α) (m : OMap K V) (k : K) :
    (l.foldl (fun m x => m.set (f x) (g x)) m).get k =
      ((l.filter (fun x => decide (f x = k))).getLast?.map g).or (m.get k) := by
  induction l using List.reverseRecOn with
  | nil => simp
  | append_singleton l a ih =>
    rw [List.foldl_append, List.foldl_cons, List.foldl_nil, get_set, ih, List.filter_append]
    by_cases hk : f a = k
    · simp [hk]
    · simp [hk, Ne.symm hk]

/-- A loop that sorts values into the lists under their keys. -/
theorem get_foldl_push (l : List (K × V)) (m : OMap K (List V)) (k : K) :
    ((l.foldl (fun m e => m.push e.1 e.2) m).get k).getD [] =
      (m.get k).getD [] ++ (l.filter (fun e => decide (e.1 = k))).map Prod.snd := by
  induction l generalizing m with
  | nil => simp
  | cons e l ih =>
    rw [List.foldl_cons, ih, push, get_set]
    by_cases hk : k = e.1
    · subst hk
      simp
    · simp [hk, Ne.symm hk]

theorem mem_keys_foldl_push (l : List (K × V)) (m : OMap K (List V)) {k : K} :
    k ∈ (l.foldl (fun m e => m.push e.1 e.2) m).keys ↔ k ∈ m.keys ∨ ∃ e ∈ l, e.1 = k := by
  induction l generalizing m with
  | nil => simp
  | cons e l ih =>
    have hpush : k ∈ (m.push e.1 e.2).keys ↔ k ∈ m.keys ∨ e.1 = k := by
      simp only [mem_keys, push, get_set_eq_some]
      constructor
      · rintro ⟨x, ⟨rfl, _⟩ | ⟨_, h⟩⟩
        · exact Or.inr rfl
        · exact Or.inl ⟨x, h⟩
      · rintro (⟨x, h⟩ | rfl)
        · by_cases hk : k = e.1
          · exact ⟨_, Or.inl ⟨hk, rfl⟩⟩
          · exact ⟨x, Or.inr ⟨hk, h⟩⟩
        · exact ⟨_, Or.inl ⟨rfl, rfl⟩⟩
    rw [List.foldl_cons, ih, hpush, or_assoc]
    simp

/-- The lists that such a loop makes are the values of one key each, and none is empty. -/
theorem get_foldl_push_eq_some {l : List (K × V)} {k : K} {values : List V} :
    (l.foldl (fun m e => m.push e.1 e.2) (∅ : OMap K (List V))).get k = some values ↔
      values = (l.filter (fun e => decide (e.1 = k))).map Prod.snd ∧ values ≠ [] := by
  have hvalues := get_foldl_push l ∅ k
  have hkeys := mem_keys_foldl_push l (∅ : OMap K (List V)) (k := k)
  rw [mem_keys] at hkeys
  have hempty : (∅ : OMap K (List V)).get k = none := rfl
  have hnokey : k ∉ (∅ : OMap K (List V)).keys := List.not_mem_nil
  rw [hempty, Option.getD_none, List.nil_append] at hvalues
  cases hget : (l.foldl (fun m e => m.push e.1 e.2) (∅ : OMap K (List V))).get k with
  | none =>
    rw [hget, Option.getD_none] at hvalues
    refine iff_of_false nofun ?_
    rintro ⟨rfl, hne⟩
    exact hne hvalues.symm
  | some found =>
    rw [hget, Option.getD_some] at hvalues
    rw [Option.some.injEq]
    constructor
    · rintro rfl
      obtain ⟨e, he, rfl⟩ := (hkeys.mp ⟨found, hget⟩).resolve_left hnokey
      refine ⟨hvalues, ?_⟩
      rw [hvalues]
      exact List.ne_nil_of_mem (List.mem_map_of_mem (List.mem_filter.mpr ⟨he, decide_eq_true rfl⟩))
    · rintro ⟨rfl, -⟩
      exact hvalues

theorem entries_set_of_get_none {m : OMap K V} {k : K} (h : m.get k = none) (x : V) :
    (m.set k x).entries = m.entries ++ [(k, x)] := by
  show AssocList.assign k x m.entries = m.entries ++ [(k, x)]
  have hk : k ∉ m.entries.map Prod.fst := AssocList.lookup_eq_none.mp h
  revert hk
  generalize m.entries = l
  intro hk
  induction l with
  | nil => rfl
  | cons e l ih =>
    rw [List.map_cons, List.mem_cons, not_or] at hk
    rw [AssocList.assign, if_neg (Ne.symm hk.1), ih hk.2, List.cons_append]

/-- Entries with new keys are appended one after the other. -/
theorem entries_foldl_set (l : List (K × V)) {n : OMap K V}
    (hn : ((n.entries ++ l).map Prod.fst).Nodup) :
    (l.foldl (fun m e => m.set e.1 e.2) n).entries = n.entries ++ l := by
  induction l generalizing n with
  | nil => simp
  | cons e l ih =>
    have hget : n.get e.1 = none := by
      rw [get_eq_none]
      intro hmem
      rw [List.map_append, List.nodup_append] at hn
      exact hn.2.2 _ hmem _ (List.mem_map.mpr ⟨e, List.mem_cons_self, rfl⟩) rfl
    have hset : (n.set e.1 e.2).entries ++ l = n.entries ++ e :: l := by
      rw [entries_set_of_get_none hget, List.append_assoc]
      rfl
    rw [List.foldl_cons, ih (hset ▸ hn), hset]

theorem ofList_entries (m : OMap K V) : ofList m.entries = m :=
  ext_entries (entries_foldl_set (n := empty) m.entries m.nodup)

/-- A map is rebuilt from its values by a function that gives each value its key. -/
theorem foldl_set_values {m : OMap K V} {f : V → K} (h : ∀ k x, m.get k = some x → f x = k) :
    m.values.foldl (fun m x => m.set (f x) x) ∅ = m := by
  have hkeys : ∀ n : OMap K V,
      m.entries.foldl (fun n e => n.set (f e.2) e.2) n =
        m.entries.foldl (fun n e => n.set e.1 e.2) n := by
    intro n
    refine List.foldl_ext _ _ _ fun n e he => ?_
    rw [h e.1 e.2 (mem_entries.mp he)]
  rw [values, List.foldl_map, hkeys]
  exact ofList_entries m

theorem size_eq_zero {m : OMap K V} : m.size = 0 ↔ ∀ k, m.get k = none := by
  constructor
  · intro h k
    have : m.entries = [] := List.length_eq_zero_iff.mp h
    simp [get, this, AssocList.lookup]
  · intro h
    rw [size, List.length_eq_zero_iff, List.eq_nil_iff_forall_not_mem]
    rintro ⟨k, x⟩ hk
    have := mem_entries.mp hk
    rw [h k] at this
    cases this

/-! ## Indexes -/

/-- The map holds exactly the pairs of a relation. -/
def Indexes (m : OMap K V) (R : K → V → Prop) : Prop := ∀ k x, m.get k = some x ↔ R k x

namespace Indexes

variable {m : OMap K V} {R R' : K → V → Prop}

theorem congr (h : m.Indexes R) (hR : ∀ k x, R' k x ↔ R k x) : m.Indexes R' :=
  fun k x => (h k x).trans (hR k x).symm

theorem functional (h : m.Indexes R) {k : K} {x y : V} (hx : R k x) (hy : R k y) : x = y := by
  have hx := (h k x).mpr hx
  rw [(h k y).mpr hy, Option.some.injEq] at hx
  exact hx.symm

/-- A key that stands for nothing yet. -/
theorem set (h : m.Indexes R) {k : K} (hk : ∀ x, ¬ R k x) (x : V) :
    (m.set k x).Indexes (fun k' y => (k' = k ∧ y = x) ∨ R k' y) := by
  intro k' y
  rw [get_set_eq_some]
  constructor
  · rintro (⟨hk', rfl⟩ | ⟨_, hy⟩)
    · exact Or.inl ⟨hk', rfl⟩
    · exact Or.inr ((h k' y).mp hy)
  · rintro (⟨hk', rfl⟩ | hy)
    · exact Or.inl ⟨hk', rfl⟩
    · exact Or.inr ⟨fun he => hk y (he ▸ hy), (h k' y).mpr hy⟩

theorem delete (h : m.Indexes R) (k : K) : (m.delete k).Indexes (fun k' y => k' ≠ k ∧ R k' y) := by
  intro k' y
  rw [get_delete_eq_some]
  exact and_congr_right fun _ => h k' y

theorem mem_values (h : m.Indexes R) {x : V} : x ∈ m.values ↔ ∃ k, R k x :=
  OMap.mem_values.trans (exists_congr fun k => h k x)

theorem size_eq_zero (h : m.Indexes R) : m.size = 0 ↔ ∀ k x, ¬ R k x := by
  rw [OMap.size_eq_zero]
  constructor
  · intro hm k x hx
    exact absurd ((h k x).mpr hx) (by simp [hm k])
  · intro hR k
    by_contra hne
    obtain ⟨x, hx⟩ := Option.ne_none_iff_exists'.mp hne
    exact hR k x ((h k x).mp hx)

end Indexes

end OMap
end MylifeHome.Lib
