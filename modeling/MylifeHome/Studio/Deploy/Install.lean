import Mathlib.Data.Finset.Card
import MylifeHome.Studio.Deploy.Versions

/-!
# The packages to install

The list of the packages to install is filled by a recursion over the dependencies that
stops at names that were chosen before. It is closed under the dependencies when the package
that is listed under such a name provides what was asked for, and it does not depend on the
order of a request when that package is the very one that would have been added.
-/
namespace MylifeHome.Studio.Deploy.Apk

open MylifeHome.Lib MylifeHome.Lib.Comparators InstallList

/-! ## The lookup of a dependency -/

section Lookup

variable {sorting : Sorting Package} {packages : List Package} {db : Database} {n v : String}
    {p : Package}

/-- The packages of the lookup, in its order: the newest package of the name, then those that
provide it. -/
def candidates (db : Database) (name : String) : List Package :=
  (db.getByName name).toList ++ (db.getByProvide name).getD []

theorem mem_candidates (hdb : index sorting packages = .ok db) : p ∈ candidates db n ↔
    p ∈ packages ∧ p.provides.has n = true := by
  have hprovide : p ∈ (db.getByProvide n).getD [] ↔ p ∈ packages ∧ p.provides.has n = true := by
    cases hl : db.getByProvide n with
    | some l => exact mem_of_getByProvide hdb hl
    | none =>
      refine ⟨fun h => (nomatch h), fun h => ?_⟩
      have hne : providing packages n ≠ [] := List.ne_nil_of_mem (mem_providing.mpr h)
      rw [Database.getByProvide, ((index_ok hdb).2 n _).mpr ⟨rfl, hne⟩] at hl
      cases hl
  rw [candidates, List.mem_append, Option.mem_toList, hprovide]
  refine ⟨fun h => h.elim (fun hp => ?_) id, .inr⟩
  obtain ⟨hin, rfl⟩ := mem_of_getByName hdb hp
  exact ⟨hin, p.own⟩

theorem findDependency_eq (hv : v ≠ "*") : (findDependency db n v).toOption =
    (candidates db n).find? fun it => it.version = v := by
  unfold findDependency candidates
  cases hname : db.getByName n with
  | none =>
    cases hl : db.getByProvide n with
    | none => rfl
    | some l =>
      simp only [Option.filter_none, if_neg hv, Option.toList_none, List.nil_append,
        Option.getD_some]
      cases l.find? fun it => it.version = v <;> rfl
  | some q =>
    by_cases hq : q.version = v
    · simp [Option.filter, hq, Except.toOption]
    · cases hl : db.getByProvide n with
      | none => simp [Option.filter, hq, hv, Except.toOption]
      | some l =>
        simp only [Option.filter, hq, hv, if_false, or_false, decide_false, Option.toList_some,
          List.cons_append, List.nil_append,
          Option.getD_some, List.find?_cons_of_neg, Bool.false_eq_true, not_false_eq_true]
        cases l.find? fun it => it.version = v <;> rfl

theorem findDependency_star : (findDependency db n "*").toOption = (candidates db n).head? := by
  unfold findDependency candidates
  cases hname : db.getByName n with
  | some q => simp [Option.filter, Except.toOption]
  | none =>
    cases hl : db.getByProvide n with
    | none => rfl
    | some l => cases l <;> rfl

theorem mem_of_findDependency (hdb : index sorting packages = .ok db)
    (h : findDependency db n v = .ok p) :
    p ∈ packages ∧ p.provides.has n = true := by
  rw [← mem_candidates hdb]
  have hoption : (findDependency db n v).toOption = some p := by rw [h]; rfl
  by_cases hv : v = "*"
  · rw [hv, findDependency_star] at hoption
    exact List.mem_of_mem_head? hoption
  · rw [findDependency_eq hv] at hoption
    exact List.mem_of_find?_eq_some hoption

/-- The lookup finds a package that provides the name in the version if there is one, and throws if
there is none. -/
def FindsProvided (packages : List Package) (db : Database) (n v : String) : Prop :=
  ((∃ q ∈ packages, q.provides.get n = some v) → ∃ p ∈ packages,
    findDependency db n v = .ok p ∧ p.provides.get n = some v) ∧
    ((∀ q ∈ packages, q.provides.get n ≠ some v) → ∃ e, findDependency db n v = .error e)

/-- The lookup compares the version of a package, not the version in which it provides the name. It
is right exactly when the first of the packages with the wanted version as their own provides the
name in that version, or when there is no such package and none provides the name in the version
either. -/
theorem findsProvided_iff (hdb : index sorting packages = .ok db) (hv : v ≠ "*") :
    FindsProvided packages db n v ↔
    (∀ p ∈ candidates db n, p.version ≠ v ∧ p.provides.get n ≠ some v) ∨
      ∃ before p after, candidates db n = before ++ p :: after ∧ (∀ q ∈ before, q.version ≠ v) ∧
        p.version = v ∧
        p.provides.get n = some v := by
  have hprovides : ∀ q ∈ packages, q.provides.get n = some v → q ∈ candidates db n :=
    fun q hq hget => (mem_candidates hdb).mpr ⟨hq, OMap.has_iff.mpr ⟨v, hget⟩⟩
  have heq : (findDependency db n v).toOption = _ := findDependency_eq hv
  cases hfind : findDependency db n v with
  | error e =>
    rw [hfind, eq_comm] at heq
    have hnone := List.find?_eq_none.mp heq
    simp only [decide_eq_true_eq] at hnone
    constructor
    · rintro ⟨hsome, -⟩
      refine .inl fun p hp => ⟨hnone p hp, fun hget => ?_⟩
      obtain ⟨_, _, h, _⟩ := hsome ⟨p, ((mem_candidates hdb).mp hp).1, hget⟩
      rw [hfind] at h
      cases h
    · rintro (hall | ⟨before, p, after, hsplit, -, hversion, -⟩)
      · exact ⟨fun ⟨q, hq, hget⟩ => absurd hget (hall q (hprovides q hq hget)).2,
          fun _ => ⟨e, hfind⟩⟩
      · exact absurd hversion (hnone p (by simp [hsplit]))
  | ok p =>
    rw [hfind, eq_comm] at heq
    obtain ⟨hversion, before, after, hsplit, hbefore⟩ := List.find?_eq_some_iff_append.mp heq
    rw [decide_eq_true_eq] at hversion
    have hp := mem_of_findDependency hdb hfind
    have hiff : FindsProvided packages db n v ↔ p.provides.get n = some v := by
      constructor
      · rintro ⟨hsome, hthrows⟩
        by_cases hq : ∃ q ∈ packages, q.provides.get n = some v
        · obtain ⟨_, _, h, hget⟩ := hsome hq
          rw [hfind] at h
          cases h
          exact hget
        · obtain ⟨e, he⟩ := hthrows fun q hin hget => hq ⟨q, hin, hget⟩
          rw [hfind] at he
          cases he
      · exact fun hget => ⟨fun _ => ⟨p, hp.1, hfind, hget⟩, fun hnone => absurd hget (hnone p hp.1)⟩
    rw [hiff]
    constructor
    · intro hget
      refine .inr ⟨before, p, after, hsplit, fun q hq => ?_, hversion, hget⟩
      simpa using hbefore q hq
    · rintro (hall | ⟨before', p', after', hsplit', hbefore', hversion', hget⟩)
      · exact absurd hversion (hall p (by simp [hsplit])).1
      · have hfirst : (candidates db n).find? (fun it => it.version = v) = some p' :=
          List.find?_eq_some_iff_append.mpr ⟨by simpa using hversion', before', after', hsplit',
            fun q hq => by simpa using hbefore' q hq⟩
        rw [hfirst] at heq
        cases heq
        exact hget

/-- Two packages that provide `nodejs`, each in its own version. -/
def nodejsLts : Package :=
  packageOf "http://repo" "nodejs-lts" "14.18.1-r0" (by decide) [] ["nodejs=14.18.1-r0"]

def nodejsCurrent : Package :=
  packageOf "http://repo" "nodejs-current" "17.0.1-r0" (by decide) [] ["nodejs=17.0.1-r0"]

/-- The older one is found by its version, after the newer one was passed. -/
theorem findsProvided_nodejs : ∃ db, index (insertion Package) [nodejsLts, nodejsCurrent] = .ok db ∧
    "14.18.1-r0" ≠ "*" ∧ FindsProvided [nodejsLts, nodejsCurrent] db "nodejs" "14.18.1-r0" := by
  obtain ⟨db, hdb⟩ := index_returns_of_all (insertion Package) [nodejsLts, nodejsCurrent]
    (by decide +kernel)
  refine ⟨db, hdb, by decide, (findsProvided_iff hdb (by decide)).mpr (.inr ?_)⟩
  have hcandidates : (index (insertion Package) [nodejsLts, nodejsCurrent]).toOption.map
      (fun db => candidates db "nodejs") = some [nodejsCurrent, nodejsLts] := by
    decide +kernel
  rw [hdb] at hcandidates
  exact ⟨[nodejsCurrent], nodejsLts, [], Option.some.inj hcandidates, by decide, rfl,
    by decide +kernel⟩

/-- `nodejs` 14.18.1-r0 provides `nodejs-lts` in the version 14.18.1: who depends on that version
gets an error. -/
theorem provided_not_found : ∃ (p : Package) (db : Database), index (insertion Package) [p] =
    .ok db ∧
    p.provides.get "nodejs-lts" = some "14.18.1" ∧ ∃ e, findDependency db "nodejs-lts" "14.18.1" =
      .error e := by
  let p := packageOf "http://repo" "nodejs" "14.18.1-r0" (by decide) [] ["nodejs-lts=14.18.1"]
  obtain ⟨db, hdb⟩ := index_returns_of_all (insertion Package) [p] (by decide +kernel)
  have hfind : (index (insertion Package) [p]).toOption.map
      (fun db => (findDependency db "nodejs-lts" "14.18.1").toOption) = some none := by
    decide +kernel
  refine ⟨p, db, hdb, by decide +kernel, ?_⟩
  rw [hdb] at hfind
  cases h : findDependency db "nodejs-lts" "14.18.1" with
  | error e => exact ⟨e, rfl⟩
  | ok q =>
    have hsome : (findDependency db "nodejs-lts" "14.18.1").toOption = none := Option.some.inj hfind
    rw [h] at hsome
    cases hsome

end Lookup

/-! ## What the list keeps -/

namespace InstallList

def added (l : InstallList) (item : Package) : InstallList :=
  { l with map := l.map.set item.name item.version, list := l.list ++ [item] }

def passing (l : InstallList) (name : String) (item : Package) : InstallList :=
  { l with passed := l.passed ++ [(name, item)] }

/-- The versions are those of the packages of the list, one for each name, all of them of a given
kind. A package is passed over when one of its name is listed. -/
structure Kept (S : Package → Prop) (l : InstallList) : Prop where
  sync : ∀ name v, l.map.get name = some v ↔ ∃ p ∈ l.list, p.name = name ∧ p.version = v
  nodup : (l.list.map Package.name).Nodup
  within : ∀ p ∈ l.list, S p
  skipped : ∀ x ∈ l.passed, S x.2 ∧ ∃ q ∈ l.list, q.name = x.2.name

/-- The dependency is found, and listed, or passed over for a package of that name and version. -/
def Settled (db : Database) (l : InstallList) (e : String × String) : Prop :=
  ∃ d, findDependency db e.1 e.2 = .ok d ∧
    (d ∈ l.list ∨ (e.1, d) ∈ l.passed ∧ ∃ q ∈ l.list, q.name = d.name ∧ q.version = d.version)

/-- Nothing is taken away, and the dependencies of what is new are listed. -/
structure Grows (db : Database) (l l' : InstallList) : Prop where
  keeps : ∀ p ∈ l.list, p ∈ l'.list
  passes : ∀ x ∈ l.passed, x ∈ l'.passed
  settles : ∀ p ∈ l'.list, p ∈ l.list ∨ ∀ e ∈ p.dependencies.entries, Settled db l' e

section Kept

variable {S : Package → Prop} {db : Database} {l l' l'' : InstallList} {d : Package}
    {packages : List Package}

theorem kept_empty (S : Package → Prop) : Kept S {} where
  sync name v := by simp
  nodup := List.nodup_nil
  within p hp := by cases hp
  skipped x hx := by cases hx

theorem Kept.chosen_eq_some (h : Kept S l) {name v : String} :
    l.chosen name = some v ↔ ∃ p ∈ l.list, p.name = name ∧ p.version = v := by
  rw [chosen, Option.filter_eq_some_iff, h.sync]
  refine ⟨And.left, fun hp => ⟨hp, ?_⟩⟩
  obtain ⟨p, -, -, rfl⟩ := hp
  simpa using p.versioned

theorem Kept.chosen_eq_none (h : Kept S l) {name : String} : l.chosen name = none ↔
    ∀ p ∈ l.list, p.name ≠ name := by
  rw [Option.eq_none_iff_forall_ne_some]
  constructor
  · exact fun hno p hp hname => hno p.version (h.chosen_eq_some.mpr ⟨p, hp, hname, rfl⟩)
  · intro hno v hv
    obtain ⟨p, hp, hname, -⟩ := h.chosen_eq_some.mp hv
    exact hno p hp hname

theorem Kept.added (h : Kept S l) (hd : S d) (hfree : ∀ p ∈ l.list, p.name ≠ d.name) :
    Kept S (l.added d) where
  sync name v := by
    show (l.map.set d.name d.version).get name = some v ↔ _
    rw [OMap.get_set]
    simp only [InstallList.added, List.mem_append, List.mem_singleton]
    split
    · next hname =>
      subst hname
      constructor
      · intro hv
        exact ⟨d, .inr rfl, rfl, Option.some.inj hv⟩
      · rintro ⟨p, hp | rfl, hname, rfl⟩
        · exact absurd hname (hfree p hp)
        · rfl
    · next hname =>
      rw [h.sync]
      constructor
      · rintro ⟨p, hp, heq⟩
        exact ⟨p, .inl hp, heq⟩
      · rintro ⟨p, hp | rfl, hpname, hv⟩
        · exact ⟨p, hp, hpname, hv⟩
        · exact absurd hpname.symm hname
  nodup := by
    rw [InstallList.added, List.map_append, List.map_singleton]
    refine List.nodup_append.mpr ⟨h.nodup, List.nodup_singleton _,
      fun name hname other hother => ?_⟩
    obtain ⟨p, hp, rfl⟩ := List.mem_map.mp hname
    rw [List.mem_singleton.mp hother]
    exact hfree p hp
  within p hp := by
    rcases List.mem_append.mp hp with hp | hp
    · exact h.within p hp
    · exact List.mem_singleton.mp hp ▸ hd
  skipped x hx := by
    obtain ⟨hS, q, hq, hname⟩ := h.skipped x hx
    exact ⟨hS, q, List.mem_append_left _ hq, hname⟩

theorem Kept.passing (h : Kept S l) (hd : S d) (hlisted : ∃ q ∈ l.list, q.name = d.name)
    (name : String) :
    Kept S (l.passing name d) where
  sync := h.sync
  nodup := h.nodup
  within := h.within
  skipped x hx := by
    rcases List.mem_append.mp hx with hx | hx
    · exact h.skipped x hx
    · exact List.mem_singleton.mp hx ▸ ⟨hd, hlisted⟩

theorem Kept.inj (h : Kept S l) {p q : Package} (hp : p ∈ l.list) (hq : q ∈ l.list)
    (hname : p.name = q.name) : p = q :=
  List.inj_on_of_nodup_map h.nodup hp hq hname

theorem Settled.mono {e : String × String} (h : Grows db l l') (he : Settled db l e) :
    Settled db l' e := by
  obtain ⟨d, hd, hin | ⟨hover, q, hq, heq⟩⟩ := he
  · exact ⟨d, hd, .inl (h.keeps d hin)⟩
  · exact ⟨d, hd, .inr ⟨h.passes _ hover, q, h.keeps q hq, heq⟩⟩

theorem Grows.refl (db : Database) (l : InstallList) : Grows db l l :=
  ⟨fun _ hp => hp, fun _ hx => hx, fun _ hp => .inl hp⟩

theorem Grows.trans (h : Grows db l l') (h' : Grows db l' l'') : Grows db l l'' where
  keeps p hp := h'.keeps p (h.keeps p hp)
  passes x hx := h'.passes x (h.passes x hx)
  settles p hp := by
    rcases h'.settles p hp with hp | hp
    · exact (h.settles p hp).imp id fun hall e he => (hall e he).mono h'
    · exact .inr hp

theorem grows_passing (db : Database) (l : InstallList) (name : String) (d : Package) :
    Grows db l (l.passing name d) :=
  ⟨fun _ hp => hp, fun _ hx => List.mem_append_left _ hx, fun _ hp => .inl hp⟩

/-- The new package with its dependencies. -/
theorem grows_added (h : Grows db (l.added d) l')
    (hd : ∀ e ∈ d.dependencies.entries, Settled db l' e) : Grows db l l' where
  keeps p hp := h.keeps p (List.mem_append_left _ hp)
  passes := h.passes
  settles p hp := by
    rcases h.settles p hp with hp | hp
    · rcases List.mem_append.mp hp with hp | hp
      · exact .inl hp
      · exact .inr (List.mem_singleton.mp hp ▸ hd)
    · exact .inr hp

/-- The packages whose names have not been chosen. -/
def waiting (packages : List Package) (l : InstallList) : Finset Package :=
  packages.toFinset.filter fun p => l.chosen p.name = none

theorem card_waiting_le (packages : List Package) (l : InstallList) :
    (waiting packages l).card ≤ packages.length :=
  (Finset.card_filter_le _ _).trans packages.toFinset_card_le

theorem Kept.waiting_subset (h : Kept S l) (h' : Kept S l') (hkeeps : ∀ p ∈ l.list, p ∈ l'.list) :
    waiting packages l' ⊆ waiting packages l := by
  intro p hp
  obtain ⟨hin, hp⟩ := Finset.mem_filter.mp hp
  refine Finset.mem_filter.mpr ⟨hin, h.chosen_eq_none.mpr fun q hq => ?_⟩
  exact h'.chosen_eq_none.mp hp q (hkeeps q hq)

theorem Kept.card_waiting_added (h : Kept S l) (hS : S d) (hd : d ∈ packages)
    (hfree : ∀ p ∈ l.list, p.name ≠ d.name) :
    (waiting packages (l.added d)).card < (waiting packages l).card := by
  have h' := h.added hS hfree
  refine Finset.card_lt_card (Finset.ssubset_iff_subset_ne.mpr
    ⟨h.waiting_subset h' fun p hp => List.mem_append_left _ hp, fun heq => ?_⟩)
  have hwaiting : d ∈ waiting packages l :=
    Finset.mem_filter.mpr ⟨List.mem_toFinset.mpr hd, h.chosen_eq_none.mpr hfree⟩
  rw [← heq] at hwaiting
  exact h'.chosen_eq_none.mp (Finset.mem_filter.mp hwaiting).2 d (by simp [InstallList.added]) rfl

end Kept

/-! ## How the calls end -/

/-- Something that a package of the given kind depends on is not found. -/
def Missing (db : Database) (S : Package → Prop) : Prop :=
  ∃ p, S p ∧ ∃ e ∈ p.dependencies.entries, ∃ err, findDependency db e.1 e.2 = .error err

/-- Two packages of the given kind are different versions of one. -/
def Clashing (S : Package → Prop) : Prop := ∃ p q, S p ∧ S q ∧ p.name = q.name ∧
    p.version ≠ q.version

/-- The packages of the given kind are closed under what the dependencies are resolved to. -/
def ClosedUnder (db : Database) (S : Package → Prop) : Prop :=
  ∀ p, S p → ∀ e ∈ p.dependencies.entries, ∀ d, findDependency db e.1 e.2 = .ok d → S d

section Calls

variable {S : Package → Prop} {db : Database} {l : InstallList} {d item : Package}
    {packages : List Package} {fuel : Nat}

theorem findDependency_ne_stackOverflow (name version : String) :
    findDependency db name version ≠ .error .stackOverflow := by
  unfold findDependency
  intro h
  split at h
  · cases h
  · split at h
    · cases h
    · split at h <;> cases h

theorem ends_addDependency (hl : Kept S l) :
    Ends (addDependency d) l
      (fun b l' => (b = true ∧ l' = l.added d ∧ ∀ p ∈ l.list, p.name ≠ d.name) ∨
        (b = false ∧ l' = l ∧ ∃ q ∈ l.list, q.name = d.name ∧ q.version = d.version))
      (fun e => e ≠ .stackOverflow ∧ ∃ q ∈ l.list, q.name = d.name ∧ q.version ≠ d.version) := by
  refine ends_get_bind ?_
  cases hchosen : l.chosen d.name with
  | none => exact .inl ⟨rfl, rfl, hl.chosen_eq_none.mp hchosen⟩
  | some existing =>
    obtain ⟨q, hq, hname, rfl⟩ := hl.chosen_eq_some.mp hchosen
    by_cases hversion : q.version = d.version
    · simp only [if_pos hversion]
      exact ends_pure (.inr ⟨rfl, rfl, q, hq, hname, hversion⟩)
    · simp only [if_neg hversion]
      exact ends_throw ⟨nofun, q, hq, hname, hversion⟩

/-- The recursion settles the dependencies of a package and of all that it adds. It ends at the
latest when every name is chosen. -/
theorem ends_listDependencies (hS : ClosedUnder db S) (hpackages : ∀ p, S p → p ∈ packages)
    (hitem : S item) (hl : Kept S l) :
    Ends (listDependencies db fuel item) l
      (fun _ l' => Kept S l' ∧ Grows db l l' ∧ ∀ e ∈ item.dependencies.entries, Settled db l' e)
      (fun e => if e = .stackOverflow then fuel ≤ (waiting packages l).card
        else Missing db S ∨ Clashing S) := by
  induction fuel generalizing item l with
  | zero => exact ends_throw (by simp)
  | succ fuel ih =>
    have hloop : Ends (listDependencies db (fuel + 1) item) l
        (fun _ l' => (Kept S l' ∧ (waiting packages l').card ≤ (waiting packages l).card) ∧
          Grows db l l' ∧
          ∀ e ∈ item.dependencies.entries, Settled db l' e)
        (fun e => if e = .stackOverflow then fuel + 1 ≤ (waiting packages l).card
          else Missing db S ∨ Clashing S) := by
      refine ends_forEach (Grows.refl db) (fun _ _ _ => Grows.trans) (fun _ _ _ h => Settled.mono h)
        ?_ ⟨hl, le_rfl⟩
      rintro e he s ⟨hs, hle⟩
      have hfind : Ends (orThrow (findDependency db e.1 e.2)) s
        (fun d s' => findDependency db e.1 e.2 = .ok d ∧ s' = s)
          (fun err => if err = Err.stackOverflow then fuel + 1 ≤ (waiting packages l).card
            else Missing db S ∨ Clashing S) := by
        refine ends_orThrow (fun d hd => ⟨hd, rfl⟩) fun err herr => ?_
        rw [if_neg]
        · exact .inl ⟨item, hitem, e, he, err, herr⟩
        · rintro rfl
          exact findDependency_ne_stackOverflow _ _ herr
      refine hfind.bind ?_
      rintro d _ ⟨hd, rfl⟩
      have hSd : S d := hS item hitem e he d hd
      refine ((ends_addDependency hs).mono (fun _ _ h => h) fun err herr => ?_).bind ?_
      · obtain ⟨hne, q, hq, hname, hversion⟩ := herr
        rw [if_neg hne]
        exact .inr ⟨q, d, hs.within q hq, hSd, hname, hversion⟩
      · rintro b s' (⟨rfl, rfl, hfree⟩ | ⟨rfl, rfl, q, hq, heq⟩)
        · -- a new name: the recursion has one name less to choose
          have hlt := hs.card_waiting_added hSd (hpackages d hSd) hfree
          refine (ih hSd (hs.added hSd hfree)).mono ?_ fun err herr => ?_
          · rintro - s'' ⟨hs'', hgrows, hsettled⟩
            have hgrows' := grows_added hgrows hsettled
            have hsubset : waiting packages s'' ⊆ waiting packages _ :=
              hs.waiting_subset hs'' hgrows'.keeps
            have hcard := Finset.card_le_card hsubset
            exact ⟨⟨hs'', hcard.trans hle⟩, hgrows', d, hd,
              .inl (hgrows.keeps d (by simp [InstallList.added]))⟩
          · split at herr
            · next h => rw [if_pos h]; omega
            · next h => rw [if_neg h]; exact herr
        · have hover : (e.1, d) ∈ (s'.passing e.1 d).passed :=
            List.mem_append_right _ (List.mem_singleton_self _)
          exact ends_modify ⟨⟨hs.passing hSd ⟨q, hq, heq.1⟩ e.1, hle⟩, grows_passing db s' e.1 d, d,
            hd, .inr ⟨hover, q, hq, heq⟩⟩
    exact hloop.mono (fun _ _ h => ⟨h.1.1, h.2⟩) fun _ he => he

/-- A package of the name is listed, and the newest one is listed or passed over. -/
def Served (db : Database) (name : String) (l : InstallList) : Prop :=
  (∃ p ∈ l.list, p.name = name) ∧ ∀ p, db.getByName name = some p → p ∈ l.list ∨
    (name, p) ∈ l.passed

theorem Served.mono {name : String} {l' : InstallList} (hg : Grows db l l') (h : Served db name l) :
    Served db name l' :=
  ⟨h.1.imp fun p hp => ⟨hg.keeps p hp.1, hp.2⟩,
    fun p hp => (h.2 p hp).imp (hg.keeps p) (hg.passes _)⟩

theorem ends_addPackage (hS : ClosedUnder db S) (hpackages : ∀ p, S p → p ∈ packages)
    {name : String} (hname : ∀ p, db.getByName name = some p → S p ∧ p.name = name)
    (hl : Kept S l) :
    Ends (addPackage db fuel name) l
      (fun _ l' => Kept S l' ∧ Grows db l l' ∧ Served db name l' ∧
        ((∀ p ∈ l.list, p.name ≠ name) → ∃ p ∈ l'.list, db.getByName name = some p))
      (fun e => if e = .stackOverflow then fuel ≤ packages.length else db.getByName name = none ∨
        Missing db S ∨ Clashing S) := by
  refine ends_get_bind ?_
  cases hchosen : l.chosen name with
  | some v =>
    obtain ⟨p, hp, heq, -⟩ := hl.chosen_eq_some.mp hchosen
    have hno : ¬∀ p ∈ l.list, p.name ≠ name := fun hno => hno p hp heq
    cases hitem : db.getByName name with
    | none => exact ends_pure ⟨hl, Grows.refl db l, ⟨⟨p, hp, heq⟩, by simp [hitem]⟩,
      fun h => absurd h hno⟩
    | some item =>
      obtain ⟨hSitem, hitemName⟩ := hname item hitem
      refine (ends_modify (Q := fun _ l' => l' = l.passing name item) rfl).bind ?_
      rintro - _ rfl
      refine ends_pure ⟨hl.passing hSitem ⟨p, hp, heq.trans hitemName.symm⟩ name,
        grows_passing db l name item, ⟨⟨p, hp, heq⟩, fun p hp => .inr ?_⟩, fun h => absurd h hno⟩
      rw [hitem] at hp
      cases hp
      exact List.mem_append_right _ (List.mem_singleton_self _)
  | none =>
    have hfree := hl.chosen_eq_none.mp hchosen
    cases hitem : db.getByName name with
    | none => exact ends_throw (by simp)
    | some item =>
      obtain ⟨hSitem, rfl⟩ := hname item hitem
      refine (ends_modify (Q := fun _ l' => l' = l.added item) rfl).bind ?_
      rintro - _ rfl
      refine (ends_listDependencies hS hpackages hSitem (hl.added hSitem hfree)).mono ?_ fun err
        herr => ?_
      · rintro - l' ⟨hl', hgrows, hsettled⟩
        have hin : item ∈ l'.list := hgrows.keeps item (by simp [InstallList.added])
        refine ⟨hl', grows_added hgrows hsettled, ⟨⟨item, hin, rfl⟩, fun p hp => .inl ?_⟩,
          fun _ => ⟨item, hin, rfl⟩⟩
        rw [hitem] at hp
        cases hp
        exact hin
      · split at herr
        · next h =>
          rw [if_pos h]
          exact herr.trans (card_waiting_le packages _)
        · next h =>
          rw [if_neg h]
          exact .inr herr

theorem ends_requests (hS : ClosedUnder db S) (hpackages : ∀ p, S p → p ∈ packages)
    {request : List String}
    (hrequest : ∀ name ∈ request, ∀ p, db.getByName name = some p → S p ∧ p.name = name)
    (hl : Kept S l) :
    Ends (forEach request (addPackage db fuel)) l
      (fun _ l' => Kept S l' ∧ Grows db l l' ∧ ∀ name ∈ request, Served db name l')
      (fun e => if e = .stackOverflow then fuel ≤ packages.length
        else (∃ name ∈ request, db.getByName name = none) ∨ Missing db S ∨ Clashing S) := by
  refine ends_forEach (Grows.refl db) (fun _ _ _ => Grows.trans) (fun _ _ _ => Served.mono) ?_ hl
  intro name hname s hs
  refine (ends_addPackage hS hpackages (hrequest name hname) hs).mono
    (fun _ _ h => ⟨h.1, h.2.1, h.2.2.1⟩) fun err herr => ?_
  split at herr
  · next h => rwa [if_pos h]
  · next h =>
    rw [if_neg h]
    exact herr.imp (fun hnone => ⟨name, hname, hnone⟩) id

/-! ## The depth of the recursion -/

theorem listDependencies_succ
    (h : ∀ l', (listDependencies db fuel item).run l ≠ .error .stackOverflow l') :
    (listDependencies db (fuel + 1) item).run l = (listDependencies db fuel item).run l := by
  induction fuel generalizing item l with
  | zero => exact absurd rfl (h l)
  | succ fuel ih =>
    refine run_forEach_congr (fun e _ s hs => ?_) h
    rw [EStateM.run_bind] at hs ⊢
    rw [EStateM.run_bind]
    cases hfind : (orThrow (findDependency db e.1 e.2) : I Package).run s with
    | error err s' => rfl
    | ok d s' =>
      simp only [hfind, EStateM.run_bind] at hs ⊢
      cases hadd : (addDependency d).run s' with
      | error err s'' => rfl
      | ok b s'' =>
        simp only [hadd] at hs ⊢
        cases b with
        | false => rfl
        | true => exact ih hs

theorem addPackage_succ {name : String}
    (h : ∀ l', (addPackage db fuel name).run l ≠ .error .stackOverflow l') :
    (addPackage db (fuel + 1) name).run l = (addPackage db fuel name).run l := by
  unfold addPackage at h ⊢
  rw [EStateM.run_bind] at h ⊢
  rw [EStateM.run_bind]
  simp only [EStateM.run_get] at h ⊢
  cases hchosen : l.chosen name with
  | some v => rfl
  | none =>
    cases hitem : db.getByName name with
    | none => rfl
    | some item =>
      simp only [hchosen, hitem, Option.isSome_none] at h ⊢
      exact listDependencies_succ h

theorem install_succ {request : List String}
    (h : ∀ l', install db fuel request ≠ .error .stackOverflow l') :
    install db (fuel + 1) request = install db fuel request :=
  run_forEach_congr (fun _ _ _ hs => addPackage_succ hs) h

end Calls

/-! ## What a request needs -/

/-- The newest packages of the names of the request, and what their dependencies are resolved to. -/
inductive Needs (db : Database) (request : List String) : Package → Prop
  | requested {name : String} {p : Package} : name ∈ request → db.getByName name = some p →
    Needs db request p
  | dependency {p d : Package} {e : String × String} : Needs db request p →
    e ∈ p.dependencies.entries →
      findDependency db e.1 e.2 = .ok d → Needs db request d

section Needs

variable {sorting : Sorting Package} {packages : List Package} {db : Database}
    {request request' : List String} {l : InstallList}
  {p : Package} {fuel : Nat}

theorem needs_closedUnder : ClosedUnder db (Needs db request) :=
  fun _ hp _ he _ hd => .dependency hp he hd

theorem Needs.mem (hdb : index sorting packages = .ok db) (h : Needs db request p) :
    p ∈ packages := by
  cases h with
  | requested _ hp => exact (mem_of_getByName hdb hp).1
  | dependency _ _ hd => exact (mem_of_findDependency hdb hd).1

theorem Needs.mono (h : ∀ name ∈ request, name ∈ request') (hp : Needs db request p) :
    Needs db request' p := by
  induction hp with
  | requested hname hp => exact .requested (h _ hname) hp
  | dependency _ he hd ih => exact .dependency ih he hd

theorem needs_requested (hdb : index sorting packages = .ok db) :
    ∀ name ∈ request, ∀ p, db.getByName name = some p →
    Needs db request p ∧ p.name = name :=
  fun _ hname _ hp => ⟨.requested hname hp, (mem_of_getByName hdb hp).2⟩

theorem ends_install (hdb : index sorting packages = .ok db) :
    Ends (forEach request (addPackage db fuel)) {}
      (fun _ l => Kept (Needs db request) l ∧ Grows db {} l ∧ ∀ name ∈ request, Served db name l)
      (fun e => if e = .stackOverflow then fuel ≤ packages.length
        else (∃ name ∈ request, db.getByName name = none) ∨ Missing db (Needs db request) ∨
          Clashing (Needs db request)) :=
  ends_requests needs_closedUnder (fun _ hp => hp.mem hdb) (needs_requested hdb) (kept_empty _)

theorem Grows.settled (h : Grows db {} l) (hp : p ∈ l.list) :
    ∀ e ∈ p.dependencies.entries, Settled db l e :=
  (h.settles p hp).resolve_left (by simp)

/-- A recursion as deep as the number of packages is enough. -/
theorem install_returns (hdb : index sorting packages = .ok db) (hfuel : packages.length < fuel) :
    install db fuel request = install db (packages.length + 1) request ∧
      ∀ l, install db fuel request ≠ .error .stackOverflow l := by
  have hne : ∀ k, packages.length < k → ∀ l, install db k request ≠ .error .stackOverflow l := by
    intro k hk l h
    have herror := (ends_install hdb).error h
    rw [if_pos rfl] at herror
    omega
  refine ⟨?_, hne fuel hfuel⟩
  induction fuel, hfuel using Nat.le_induction with
  | base => rfl
  | succ k hk ih => exact (install_succ (hne k hk)).trans ih

/-- Whenever a package is passed over, the listed package of its name provides what was asked
for. -/
def PassesProvided (l : InstallList) : Prop := ∀ x ∈ l.passed, ∀ q ∈ l.list, q.name = x.2.name →
    q.provides.has x.1 = true

/-- Whenever a package is passed over, it is itself the listed package of its name. -/
def PassesListed (l : InstallList) : Prop := ∀ x ∈ l.passed, x.2 ∈ l.list

/-- For each name that a listed package depends on, a listed package provides it. -/
def Closed (l : InstallList) : Prop :=
  ∀ p ∈ l.list, ∀ n ∈ p.dependencies.keys, ∃ q ∈ l.list, q.provides.has n = true

end Needs

end InstallList
/-! ## The installed packages -/

/-- The packages of a list that was filled without an error, and those that were passed over. -/
def installed : EStateM.Result Err InstallList PUnit →
    Option (List Package × List (String × Package))
  | .ok _ l => some (l.list, l.passed)
  | .error _ _ => none

theorem installed_eq_some {r : EStateM.Result Err InstallList PUnit} {ps : List Package}
    {passed : List (String × Package)} (h : installed r = some (ps, passed)) :
    ∃ l, r = .ok ⟨⟩ l ∧ l.list = ps ∧ l.passed = passed := by
  cases r with
  | ok _ l => exact ⟨l, rfl, Prod.mk.inj (Option.some.inj h)⟩
  | error _ _ => cases h

/-- A list that was filled has nothing but what the request needs, and a request is refused for a
reason only: a name that is unknown, a dependency that no package meets, or two needed packages that
differ in the version only. -/
theorem install_needed_or_refused {sorting : Sorting Package} {packages : List Package}
    {db : Database} (hdb : index sorting packages = .ok db) (request : List String) {fuel : Nat}
    (hfuel : packages.length < fuel) :
    (∀ l, install db fuel request = .ok ⟨⟩ l → ∀ p ∈ l.list, Needs db request p) ∧
    ∀ e l, install db fuel request = .error e l → (∃ name ∈ request, db.getByName name = none) ∨
      Missing db (Needs db request) ∨ Clashing (Needs db request) := by
  refine ⟨fun l hl => ((ends_install hdb).ok hl).1.within, fun e l he => ?_⟩
  have herror := (ends_install hdb).error he
  rwa [if_neg (by rintro rfl; exact (install_returns hdb hfuel).2 l he)] at herror

/-- The package is there, and what it depends on is not. -/
theorem unknown_package_is_refused :
    let packages := [packageOf "http://repo" "a" "1.0-r0" (by decide) ["b", "c"],
      packageOf "http://repo" "b" "1.0-r0" (by decide)]
    ∃ db, index (insertion Package) packages = .ok db ∧ db.getByName "a" = packages.head? ∧
      ((∃ name ∈ ["a"], db.getByName name = none) ∨ Missing db (Needs db ["a"]) ∨
        Clashing (Needs db ["a"])) := by
  intro packages
  obtain ⟨db, hdb⟩ := index_returns_of_all (insertion Package) packages (by decide +kernel)
  have hrun : (index (insertion Package) packages).toOption.map
      (fun db => (db.getByName "a", installed (install db 3 ["a"]))) =
        some (packages.head?, none) := by
    decide +kernel
  rw [hdb] at hrun
  obtain ⟨ha, hrun⟩ := Prod.mk.inj (Option.some.inj hrun)
  cases he : install db 3 ["a"] with
  | ok _ l => simp [he, installed] at hrun
  | error e l => exact ⟨db, hdb, ha, (install_needed_or_refused hdb ["a"] (by decide)).2 e l he⟩

/-- Both fail, or both succeed with the same names and versions. -/
def SameOutcome : EStateM.Result Err InstallList PUnit → EStateM.Result Err InstallList PUnit → Prop
  | .ok _ l, .ok _ l' => ∀ name version, (∃ p ∈ l.list, p.name = name ∧ p.version = version) ↔
      ∃ p ∈ l'.list, p.name = name ∧ p.version = version
  | .error _ _, .error _ _ => True
  | _, _ => False

/-- A request needs one package of each name. -/
def OnePerName (db : Database) (request : List String) : Prop :=
  ∀ p q, Needs db request p → Needs db request q → p.name = q.name → p = q

/-- A requested package is not there, or something that the request needs. -/
def Unmet (db : Database) (request : List String) : Prop :=
  (∃ name ∈ request, db.getByName name = none) ∨ Missing db (Needs db request)

/-- The name and the version tell the packages apart. -/
def NoTwins (packages : List Package) : Prop :=
  ∀ p ∈ packages, ∀ q ∈ packages, p.name = q.name → p.version = q.version → p = q

section Orders

variable {sorting : Sorting Package} {packages : List Package} {db : Database}
    {request order : List String} {l : InstallList}
  {fuel : Nat}

theorem needs_congr (h : ∀ name, name ∈ request ↔ name ∈ order) :
    Needs db request = Needs db order :=
  funext fun _ => propext ⟨Needs.mono fun name => (h name).mp, Needs.mono fun name => (h name).mpr⟩

theorem unmet_congr (h : ∀ name, name ∈ request ↔ name ∈ order) : Unmet db request ↔
    Unmet db order := by
  simp only [Unmet, needs_congr h, h]

/-- What was requested is listed with all that it needs, when the packages that were passed over
are. -/
theorem needs_listed (hgrows : Grows db {} l)
    (hrequest : ∀ name ∈ request, ∀ p, db.getByName name = some p → p ∈ l.list)
    (hover : ∀ p ∈ l.list, ∀ e ∈ p.dependencies.entries, ∀ d, findDependency db e.1 e.2 = .ok d →
      (e.1, d) ∈ l.passed →
      (∃ q ∈ l.list, q.name = d.name ∧ q.version = d.version) →
        d ∈ l.list) {p : Package} (hp : Needs db request p) :
    p ∈ l.list := by
  induction hp with
  | requested hname hp => exact hrequest _ hname _ hp
  | @dependency p d e _ he hd ih =>
    obtain ⟨d', hd', hin | ⟨hpassed, hlisted⟩⟩ := hgrows.settled ih e he
    · rw [hd] at hd'
      cases hd'
      exact hin
    · rw [hd] at hd'
      cases hd'
      exact hover p ih e he d hd hpassed hlisted

/-- When only listed packages are passed over, the request needs what is listed, one package of each
name. -/
theorem onePerName_of_passes (hdb : index sorting packages = .ok db)
    (h : install db fuel request = .ok ⟨⟩ l) (hover : l.PassesListed) : OnePerName db request := by
  obtain ⟨hkept, hgrows, hserved⟩ := (ends_install hdb).ok h
  have hlisted : ∀ p, Needs db request p → p ∈ l.list := fun p hp =>
    needs_listed hgrows (fun name hname q hq => ((hserved name hname).2 q hq).elim id (hover _))
      (fun _ _ _ _ _ _ hpassed _ => hover _ hpassed) hp
  exact fun p q hp hq hname => hkept.inj (hlisted p hp) (hlisted q hq) hname

theorem listed_iff_needs (hdb : index sorting packages = .ok db) (hone : OnePerName db request)
    (h : install db fuel request = .ok ⟨⟩ l) (p : Package) : p ∈ l.list ↔ Needs db request p := by
  obtain ⟨hkept, hgrows, hlisted⟩ := (ends_install hdb).ok h
  refine ⟨hkept.within p,
    fun hp => needs_listed hgrows (fun name hname q hq => ?_) (fun x hx e he d hd _ hq => ?_) hp⟩
  · obtain ⟨x, hx, rfl⟩ := (hlisted name hname).1
    exact hone x q (hkept.within x hx) (.requested hname hq) (mem_of_getByName hdb hq).2.symm ▸ hx
  · obtain ⟨q, hq, hname, -⟩ := hq
    exact hone q d (hkept.within q hq) (.dependency (hkept.within x hx) he hd) hname ▸ hq

/-- A request that needs one package of each name fails only for what is not there. -/
theorem install_ok_iff (hdb : index sorting packages = .ok db) (hfuel : packages.length < fuel)
    (hone : OnePerName db request) :
    (∃ l, install db fuel request = .ok ⟨⟩ l) ↔ ¬Unmet db request := by
  constructor
  · rintro ⟨l, hl⟩ hunmet
    obtain ⟨hkept, hgrows, hlisted⟩ := (ends_install hdb).ok hl
    rcases hunmet with ⟨name, hname, hnone⟩ | ⟨p, hp, e, he, err, herr⟩
    · obtain ⟨p, hp, rfl⟩ := (hlisted name hname).1
      obtain ⟨q, hq⟩ := exists_getByName hdb ((hkept.within p hp).mem hdb)
      rw [hnone] at hq
      cases hq
    · obtain ⟨d, hd, -⟩ := hgrows.settled ((listed_iff_needs hdb hone hl p).mpr hp) e he
      rw [herr] at hd
      cases hd
  · intro hmet
    cases h : install db fuel request with
    | ok u l => exact ⟨l, rfl⟩
    | error e l =>
      have herror := (ends_install hdb).error h
      rw [if_neg fun he => (install_returns hdb hfuel).2 l (he ▸ h)] at herror
      rcases herror with hnone | hmissing | ⟨p, q, hp, hq, hname, hversion⟩
      · exact absurd (.inl hnone) hmet
      · exact absurd (.inr hmissing) hmet
      · exact absurd (congrArg Package.version (hone p q hp hq hname)) hversion

/-- The first name of a request gets its newest package. -/
theorem newest_listed (hdb : index sorting packages = .ok db) {name : String} {p : Package}
    (hp : db.getByName name = some p)
    (h : install db fuel (name :: request) = .ok ⟨⟩ l) : p ∈ l.list := by
  obtain ⟨_, l₁, h₁, h₂⟩ := run_bind_ok.mp h
  have hfirst : Ends (addPackage db fuel name) {} _ _ :=
    ends_addPackage needs_closedUnder (fun _ hq => hq.mem hdb)
    (needs_requested hdb name List.mem_cons_self) (kept_empty (Needs db (name :: request)))
  obtain ⟨hkept, -, -, hnewest⟩ := hfirst.ok h₁
  obtain ⟨q, hq, hname⟩ := hnewest (by simp)
  rw [hp] at hname
  cases hname
  have hrest : Ends (forEach request (addPackage db fuel)) l₁ _ _ :=
    ends_requests needs_closedUnder (fun _ hq => hq.mem hdb)
    (fun n hn => needs_requested hdb n (List.mem_cons_of_mem _ hn)) hkept
  exact (hrest.ok h₂).2.1.keeps p hq

/-- All orders of a request that needs one package of each name end alike. -/
theorem sameOutcome_of_onePerName (hdb : index sorting packages = .ok db)
    (hfuel : packages.length < fuel) (hone : OnePerName db request)
    (hmem : ∀ name, name ∈ request ↔ name ∈ order) :
    SameOutcome (install db fuel request) (install db fuel order) := by
  have hone' : OnePerName db order := by
    rw [OnePerName, ← needs_congr hmem]
    exact hone
  have hok := install_ok_iff hdb hfuel hone
  have hok' := install_ok_iff hdb hfuel hone'
  rw [unmet_congr hmem, ← hok'] at hok
  cases h : install db fuel request with
  | ok u l =>
    obtain ⟨l', h'⟩ := hok.mp ⟨l, h⟩
    rw [h']
    intro name version
    simp only [listed_iff_needs hdb hone h, listed_iff_needs hdb hone' h', needs_congr hmem]
  | error e l =>
    cases h' : install db fuel order with
    | error e' l' => trivial
    | ok u' l' =>
      obtain ⟨l, hl⟩ := hok.mpr ⟨l', h'⟩
      rw [h] at hl
      cases hl

/-- A request whose orders all end alike needs one package of each name, if it succeeds at all and
the name and the version tell the packages apart. -/
theorem onePerName_of_sameOutcome (hdb : index sorting packages = .ok db)
    (htwins : NoTwins packages) (hl : install db fuel request = .ok ⟨⟩ l)
    (hsame : ∀ order, order.Perm request →
      SameOutcome (install db fuel request) (install db fuel order)) :
    OnePerName db request := by
  obtain ⟨hkept, hgrows, -⟩ := (ends_install hdb).ok hl
  -- every requested name can come first, and then gets its newest package
  have hnewest : ∀ name ∈ request, ∀ p, db.getByName name = some p → p ∈ l.list := by
    intro name hname p hp
    have hsame := hsame _ (List.perm_cons_erase hname).symm
    rw [hl] at hsame
    cases h : install db fuel (name :: request.erase name) with
    | error e l' =>
      rw [h] at hsame
      exact hsame.elim
    | ok u l' =>
      rw [h] at hsame
      obtain ⟨q, hq, hqname, hqversion⟩ :=
        (hsame p.name p.version).mpr ⟨p, newest_listed hdb hp h, rfl, rfl⟩
      exact htwins q ((hkept.within q hq).mem hdb) p (mem_of_getByName hdb hp).1 hqname
        hqversion ▸ hq
  have hlisted : ∀ p, Needs db request p → p ∈ l.list := by
    intro p hp
    refine needs_listed hgrows hnewest (fun _ _ e _ d hd _ hlisted => ?_) hp
    obtain ⟨q, hq, hname, hversion⟩ := hlisted
    exact htwins q ((hkept.within q hq).mem hdb) d (mem_of_findDependency hdb hd).1 hname
      hversion ▸ hq
  exact fun p q hp hq hname => hkept.inj (hlisted p hp) (hlisted q hq) hname

end Orders

end MylifeHome.Studio.Deploy.Apk
