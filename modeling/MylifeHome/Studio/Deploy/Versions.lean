import MylifeHome.Studio.Deploy.Apk

/-!
# The order of the packages

The indexes list the packages of a name by their versions. A version may lack its minor part
or its revision, and a part that is missing is not compared: the comparison is an order only
on sets of packages that the missing parts do not mix up.
-/
namespace MylifeHome.Studio.Deploy.Apk

open MylifeHome.Lib MylifeHome.Lib.Comparators

/-! ## Indexed databases -/

section Index

variable {sorting : Sorting Package} {packages : List Package} {db : Database}

def named (packages : List Package) (name : String) : List Package :=
  packages.filter fun p => p.name = name

def providing (packages : List Package) (name : String) : List Package :=
  packages.filter fun p => p.provides.has name

theorem mem_named {p : Package} {name : String} : p ∈ named packages name ↔ p ∈ packages ∧
    p.name = name := by
  simp [named]

theorem mem_providing {p : Package} {name : String} : p ∈ providing packages name ↔ p ∈ packages ∧
    p.provides.has name = true := by
  simp [providing]

theorem named_pairs (packages : List Package) (name : String) :
    ((packages.map fun item => (item.name, item)).filter fun e => e.1 = name).map Prod.snd =
      named packages name := by
  induction packages with
  | nil => rfl
  | cons p packages ih =>
    rw [List.map_cons, List.filter_cons, named, List.filter_cons]
    split
    · rw [List.map_cons, ih]
      rfl
    · exact ih

/-- A package is listed once under each name that it provides. -/
theorem providing_pairs (packages : List Package) (name : String) :
    ((packages.flatMap fun item => item.provides.keys.map fun prov => (prov, item)).filter fun e =>
      e.1 = name).map Prod.snd =
      providing packages name := by
  induction packages with
  | nil => rfl
  | cons p packages ih =>
    have hown : ((p.provides.keys.map fun prov => (prov, p)).filter fun e => e.1 = name).map
      Prod.snd =
        if p.provides.has name then [p] else [] := by
      rw [List.filter_map, List.map_map]
      have hfilter : p.provides.keys.filter
        ((fun e : String × Package => decide (e.1 = name)) ∘ fun prov => (prov, p)) =
          if p.provides.has name then [name] else [] := by
        show p.provides.keys.filter (fun prov => decide (prov = name)) = _
        rw [← List.filter_congr (fun _ _ => beq_eq_decide _ _), List.filter_beq]
        split
        · next h =>
          rw [List.count_eq_one_of_mem p.provides.keys_nodup
            (OMap.mem_keys.mpr (OMap.has_iff.mp h))]
          rfl
        · next h =>
          rw [List.count_eq_zero.mpr]
          · rfl
          · rw [← OMap.get_eq_none, ← OMap.has_eq_false, Bool.eq_false_iff]
            exact h
      rw [hfilter]
      split <;> rfl
    rw [List.flatMap_cons, List.filter_append, List.map_append, ih, hown, providing, providing,
      List.filter_cons]
    split <;> rfl

theorem sortMapList_ok {m m' : OMap String (List Package)} (h : sortMapList sorting m = .ok m') :
    m' = m.mapVal (sorting.sort comparison) := by
  obtain ⟨-, -, h⟩ := except_bind_ok.mp h
  exact (Except.ok.inj h).symm

theorem index_ok (h : index sorting packages = .ok db) :
    (∀ name l, db.names.get name = some l ↔ l = sorting.sort comparison (named packages name) ∧
      named packages name ≠ []) ∧
      ∀ name l, db.provides.get name = some l ↔
        l = sorting.sort comparison (providing packages name) ∧ providing packages name ≠ [] := by
  obtain ⟨names, hnames, h⟩ := except_bind_ok.mp h
  obtain ⟨provides, hprovides, h⟩ := except_bind_ok.mp h
  cases h
  rw [sortMapList_ok hnames, sortMapList_ok hprovides]
  constructor <;> intro name l <;>
    simp only [OMap.get_mapVal, Option.map_eq_some_iff, OMap.get_foldl_push_eq_some, named_pairs,
      providing_pairs]
  all_goals
    constructor
    · rintro ⟨_, ⟨rfl, hne⟩, rfl⟩
      exact ⟨rfl, hne⟩
    · rintro ⟨rfl, hne⟩
      exact ⟨_, ⟨rfl, hne⟩, rfl⟩

/-- The packages of a name are found at the head of their list. -/
theorem getByName_eq_some (h : index sorting packages = .ok db) {name : String} {p : Package} :
    db.getByName name = some p ↔ (sorting.sort comparison (named packages name)).head? =
      some p := by
  unfold Database.getByName
  rw [Option.bind_eq_some_iff]
  simp only [(index_ok h).1]
  constructor
  · rintro ⟨l, ⟨rfl, -⟩, hp⟩
    exact hp
  · intro hp
    refine ⟨_, ⟨rfl, ?_⟩, hp⟩
    rintro hnil
    have hperm := sorting.perm comparison (named packages name)
    rw [hnil, List.perm_nil] at hperm
    rw [hnil, hperm] at hp
    cases hp

theorem mem_of_getByName (h : index sorting packages = .ok db) {name : String} {p : Package}
    (hp : db.getByName name = some p) :
    p ∈ packages ∧ p.name = name := by
  have hhead := (getByName_eq_some h).mp hp
  exact mem_named.mp ((sorting.perm comparison _).mem_iff.mp (List.mem_of_mem_head? hhead))

theorem exists_getByName (h : index sorting packages = .ok db) {p : Package} (hp : p ∈ packages) :
    ∃ q, db.getByName p.name = some q := by
  have hmem : p ∈ sorting.sort comparison (named packages p.name) :=
    (sorting.perm comparison _).mem_iff.mpr (mem_named.mpr ⟨hp, rfl⟩)
  cases hsort : sorting.sort comparison (named packages p.name) with
  | nil =>
    rw [hsort] at hmem
    cases hmem
  | cons q rest => exact ⟨q, (getByName_eq_some h).mpr (by rw [hsort]; rfl)⟩

theorem mem_of_getByProvide (h : index sorting packages = .ok db) {name : String} {l : List Package}
    (hl : db.getByProvide name = some l)
    {p : Package} : p ∈ l ↔ p ∈ packages ∧ p.provides.has name = true := by
  obtain ⟨rfl, -⟩ := ((index_ok h).2 name l).mp hl
  rw [(sorting.perm comparison _).mem_iff, mem_providing]

/-- Packages whose versions are accepted are indexed. -/
theorem index_returns (sorting : Sorting Package) (packages : List Package)
    (h : ∀ p ∈ packages, ∃ v, Version.parse p.version = .ok v) :
    ∃ db, index sorting packages = .ok db := by
  have hparse : ∀ p ∈ packages, (discard (Version.parse p.version) : Except Err PUnit) =
      .ok ⟨⟩ := by
    intro p hp
    obtain ⟨v, hv⟩ := h p hp
    rw [hv]
    rfl
  have hsort : ∀ pairs : List (String × Package), (∀ e ∈ pairs, e.2 ∈ packages) →
      ∃ m, sortMapList sorting (pairs.foldl (fun m e => m.push e.1 e.2) ∅) = .ok m := by
    intro pairs hpairs
    refine ⟨_, except_bind_ok.mpr ⟨⟨⟩, except_forEach_ok fun l hl => ?_, rfl⟩⟩
    split
    · refine except_forEach_ok fun p hp => hparse p ?_
      obtain ⟨k, hk⟩ := OMap.mem_values.mp hl
      obtain ⟨rfl, -⟩ := OMap.get_foldl_push_eq_some.mp hk
      obtain ⟨e, he, rfl⟩ := List.mem_map.mp hp
      exact hpairs e (List.mem_of_mem_filter he)
    · rfl
  obtain ⟨names, hnames⟩ := hsort (packages.map fun item => (item.name, item)) (by simp)
  obtain ⟨provides, hprovides⟩ :=
    hsort (packages.flatMap fun item => item.provides.keys.map fun prov => (prov, item)) (by
    intro e he
    obtain ⟨p, hp, he⟩ := List.mem_flatMap.mp he
    obtain ⟨_, _, rfl⟩ := List.mem_map.mp he
    exact hp)
  exact ⟨_, except_bind_ok.mpr ⟨names, hnames, except_bind_ok.mpr ⟨provides, hprovides, rfl⟩⟩⟩

/-- The check that all the versions can be read, for packages that are given. -/
theorem index_returns_of_all (sorting : Sorting Package) (packages : List Package)
    (h : packages.all (fun p => (Version.parse p.version).toOption.isSome) = true) :
    ∃ db, index sorting packages = .ok db := by
  refine index_returns sorting packages fun p hp => ?_
  have hsome := List.all_eq_true.mp h p hp
  cases hparse : Version.parse p.version with
  | ok v => exact ⟨v, rfl⟩
  | error e =>
    rw [hparse] at hsome
    cases hsome

end Index

/-! ## The comparison -/

/-- What the comparison looks at, in its order. -/
def ranking (p : Package) : List (Option Int) :=
  match Version.parse p.version with
  | .ok v => [some v.major, v.minor, v.revision, some v.release, some (if isLocal p then 1 else 0)]
  | .error _ => []

/-- The first package has the greater version. -/
def newer (p q : Package) : Bool :=
  match Version.parse p.version, Version.parse q.version with
  | .ok v, .ok w => v.greater w
  | _, _ => false

/-- The version is accepted by the constructor. -/
def Accepted (p : Package) : Prop := ∃ v, Version.parse p.version = .ok v

theorem greater_eq_above (v w : Version) :
    v.greater w = above [some v.major, v.minor, v.revision, some v.release] [some w.major, w.minor,
      w.revision, some w.release] := by
  have hmajor : ∀ x y : Int, below (some x) (some y) = decide (x < y) := fun _ _ => rfl
  have hrelease : (if v.release < w.release then false else if w.release < v.release then true
    else false) =
      decide (v.release > w.release) := by grind
  simp only [Version.greater, above, hmajor, decide_eq_true_eq, hrelease, gt_iff_lt]

/-- The versions first, and the last part when they do not differ. -/
theorem above_versions (v w : Version) (x y : Int) :
    above ([some v.major, v.minor, v.revision, some v.release] ++ [some x])
        ([some w.major, w.minor, w.revision, some w.release] ++ [some y]) =
      if v.greater w then true else if w.greater v then false else decide (y < x) := by
  rw [above_concat, ← greater_eq_above, ← greater_eq_above]
  · rfl
  · rfl

theorem Accepted.ranking {p : Package} (hp : Accepted p) : ∃ v, Version.parse p.version = .ok v ∧
    Apk.ranking p = [some v.major, v.minor, v.revision, some v.release] ++
      [some (if isLocal p then 1 else 0)] := by
  obtain ⟨v, hv⟩ := hp
  refine ⟨v, hv, ?_⟩
  rw [Apk.ranking, hv]
  rfl

theorem comparison_eq_descending {p q : Package} (hp : Accepted p) (hq : Accepted q) :
    comparison p q = descending ranking p q := by
  obtain ⟨v, hv, hp⟩ := hp.ranking
  obtain ⟨w, hw, hq⟩ := hq.ranking
  rw [comparison, sortByVersionAndLocal, descending, hp, hq, above_versions, above_versions, hv, hw]
  cases hwv : w.greater v <;> cases hvw : v.greater w <;> cases hpl : isLocal p
    <;> cases hql : isLocal q <;>
    simp [hwv, hvw, bind, Except.bind, pure, Except.pure, Except.toOption]

theorem newer_of_comparison {p q : Package} (hp : Accepted p) (hq : Accepted q)
    (h : comparison p q ≤ 0) : newer q p = false := by
  obtain ⟨v, hv⟩ := hp
  obtain ⟨w, hw⟩ := hq
  rw [newer, hw, hv]
  by_contra hwv
  rw [Bool.not_eq_false] at hwv
  simp [comparison, sortByVersionAndLocal, hv, hw, hwv, bind, Except.bind, pure, Except.pure,
    Except.toOption] at h

theorem consistent_comparison_iff {packages : List Package} (h : ∀ p ∈ packages, Accepted p) :
    Consistent comparison packages ↔
    ∀ a ∈ packages, ∀ b ∈ packages, ∀ c ∈ packages, splits (ranking a) (ranking b) (ranking c) =
      false := by
  have hlength : ∀ a ∈ packages, ∀ b ∈ packages, (ranking a).length = (ranking b).length := by
    intro a ha b hb
    obtain ⟨v, -, ha⟩ := (h a ha).ranking
    obtain ⟨w, -, hb⟩ := (h b hb).ranking
    rw [ha, hb]
    rfl
  have heq : ∀ a ∈ packages, ∀ b ∈ packages, comparison a b = descending ranking a b :=
    fun a ha b hb => comparison_eq_descending (h a ha) (h b hb)
  rw [← consistent_descending_iff hlength]
  exact ⟨fun hc => hc.congr heq, fun hc => hc.congr fun a ha b hb => (heq a ha b hb).symm⟩

/-- The package that is found for a name is the newest when the comparison is consistent. -/
theorem newest_of_consistent {packages : List Package} (h : ∀ p ∈ packages, Accepted p)
    (hc : Consistent comparison packages) {sorting : Sorting Package} {db : Database}
    (hdb : index sorting packages = .ok db) {p : Package}
    (hp : db.getByName p.name = some p) : ∀ q ∈ packages, q.name = p.name → newer q p = false := by
  intro q hq hname
  have hnamed : Consistent comparison (named packages p.name) :=
    hc.mono fun x hx => (mem_named.mp hx).1
  have hle := sorting.head_le hnamed ((getByName_eq_some hdb).mp hp) (mem_named.mpr ⟨hq, hname⟩)
  exact newer_of_comparison (h p (mem_of_getByName hdb hp).1) (h q hq) hle

/-! ## The newest package of a name -/

/-- The comparison is consistent and the newest package of every name is found, whatever the order
of the packages. -/
def NewestFound (packages : List Package) : Prop :=
  Consistent comparison packages ∧
    ∀ (sorting : Sorting Package) (order : List Package), order.Perm packages →
    ∃ db, index sorting order = .ok db ∧ ∀ name ∈ packages.map Package.name, ∃ p ∈ packages,
      db.getByName name = some p ∧ p.name = name ∧ ∀ q ∈ packages, q.name = name → newer q p = false

end MylifeHome.Studio.Deploy.Apk
