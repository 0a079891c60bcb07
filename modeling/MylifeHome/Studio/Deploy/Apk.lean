import MylifeHome.Lib.Comparators
import MylifeHome.Lib.Effect
import MylifeHome.Lib.OMap
import MylifeHome.Lib.Text

/-!
# Packages

`deploy/engine/apk.ts`: the packages with the words of their fields, the versions, the database
with its two indexes, and the list of the packages to install. The recursion over the dependencies
is bounded by a stack depth.
-/
namespace MylifeHome.Studio.Deploy.Apk

open MylifeHome.Lib MylifeHome.Lib.Comparators

inductive Err where
  | error (message : String)
  | stackOverflow
  deriving DecidableEq, Repr

/-- A package has a version, and provides its own name. -/
structure Package where
  repo : String
  name : String
  version : String
  dependencies : OMap String String
  provides : OMap String String
  versioned : version ≠ ""
  own : provides.has name = true
  deriving DecidableEq

/-! ## Versions -/

/-- A part that is not a number (`NaN`) is `none`. -/
structure Version where
  major : Int
  minor : Option Int
  revision : Option Int
  release : Int
  deriving DecidableEq

namespace Version

/-- The parts of the text before the first `-r`, and the text up to the next one. -/
def texts (value : String) : List (List Char) × Option (List Char) :=
  match Text.cut "-r".toList value.toList with
  | none => (value.toList.splitOn '.', none)
  | some (version, rest) =>
    (version.splitOn '.', some ((Text.cut "-r".toList rest).elim rest Prod.fst))

/-- The constructor. -/
def parse (value : String) : Except Err Version :=
  let (parts, release) := texts value
  match (parts[0]?).bind Text.parseInt, release.bind Text.parseInt with
  | some major, some release =>
    .ok { major, minor := (parts[1]?).bind Text.parseInt,
          revision := (parts[2]?).bind Text.parseInt, release }
  | _, _ => .error (.error ("Invalid version: '" ++ value ++ "'"))

def greater (v other : Version) : Bool :=
  if v.major < other.major then false
  else if v.major > other.major then true
  else if below v.minor other.minor then false
  else if below other.minor v.minor then true
  else if below v.revision other.revision then false
  else if below other.revision v.revision then true
  else decide (v.release > other.release)

end Version

def isLocal (pack : Package) : Bool := pack.repo.toList.head? = some '/'

/-- Higher versions first, then local packages. -/
def sortByVersionAndLocal (p1 p2 : Package) : Except Err Int := do
  let v1 ← Version.parse p1.version
  let v2 ← Version.parse p2.version
  if v2.greater v1 then return 1
  if v1.greater v2 then return -1
  if isLocal p1 = isLocal p2 then return 0
  return if isLocal p1 then -1 else 1

/-! ## The index files -/

/-- A word of the dependencies. Bounds are not looked at. -/
def dependency (dep : String) : String × String :=
  if '<' ∈ dep.toList then ((Text.split dep '<').headD "", "*")
  else if '>' ∈ dep.toList then ((Text.split dep '>').headD "", "*")
  else ((Text.split dep '=').headD "", (((Text.split dep '=')[1]?).filter (· ≠ "")).getD "*")

/-- A word of the provided names. -/
def provided (prov : String) : String × String :=
  ((Text.split prov '=').headD "", (((Text.split prov '=')[1]?).filter (· ≠ "")).getD "*")

def setWords (word : String → String × String) (l : List String) (m : OMap String String) :
    OMap String String :=
  l.foldl (fun m w => m.set (word w).1 (word w).2) m

theorem has_setWords (word : String → String × String) (l : List String) {m : OMap String String}
    {k : String} (h : m.has k = true) : (setWords word l m).has k = true := by
  unfold setWords
  induction l generalizing m with
  | nil => exact h
  | cons w l ih => exact ih (by rw [OMap.has_set, h, Bool.or_true])

/-- The package with the words of its fields. It provides itself in its own version, unless the
words say otherwise. -/
def packageOf (repo name version : String) (h : version ≠ "")
    (dependencies provides : List String := []) : Package where
  repo := repo
  name := name
  version := version
  dependencies := setWords dependency dependencies ∅
  provides := setWords provided provides ((∅ : OMap String String).set name version)
  versioned := h
  own := has_setWords provided _ (by rw [OMap.has_set, decide_eq_true rfl, Bool.true_or])

/-! ## The database -/

/-- The packages by their names, and by the names that they provide. -/
structure Database where
  names : OMap String (List Package) := ∅
  provides : OMap String (List Package) := ∅

section Index

variable (sorting : Sorting Package)

/-- The comparison of two packages of a list; those that have no version have thrown before. -/
def comparison (p1 p2 : Package) : Int := ((sortByVersionAndLocal p1 p2).toOption).getD 0

/-- Every package of a list is compared, unless it is alone. -/
def sortMapList (m : OMap String (List Package)) : Except Err (OMap String (List Package)) := do
  forEach m.values fun list => if 2 ≤ list.length then forEach list fun p =>
    discard (Version.parse p.version) else pure ⟨⟩
  return m.mapVal (sorting.sort comparison)

/-- `Database.index`, of a database with the packages of its repositories. -/
def index (list : List Package) : Except Err Database := do
  let names := (list.map fun item => (item.name, item)).foldl (fun m e => m.push e.1 e.2) ∅
  let provides := (list.flatMap fun item => item.provides.keys.map fun prov => (prov, item)).foldl
    (fun m e => m.push e.1 e.2) ∅
  return { names := ← sortMapList sorting names, provides := ← sortMapList sorting provides }

end Index

namespace Database

def getByName (db : Database) (name : String) : Option Package :=
  (db.names.get name).bind List.head?

def getByProvide (db : Database) (provide : String) : Option (List Package) :=
  db.provides.get provide

end Database

/-! ## The packages to install -/

/-- The version chosen for each name, and the packages in the order in which they were chosen. -/
structure InstallList where
  map : OMap String String := ∅
  list : List Package := []
  /-- The history of what was asked for when the name of its package was chosen before: the name
  that was asked for, and the package that it is resolved to. -/
  passed : List (String × Package) := []

abbrev I := EStateM Err InstallList

namespace InstallList

/-- What `map.get(name)` is taken for: an empty text counts as missing. -/
def chosen (l : InstallList) (name : String) : Option String := (l.map.get name).filter (· ≠ "")

def addItem (item : Package) : I PUnit :=
  modify fun l => { l with map := l.map.set item.name item.version, list := l.list ++ [item] }

/-- Nothing is added for the name. -/
def pass (name : String) (item : Package) : I PUnit :=
  modify fun l => { l with passed := l.passed ++ [(name, item)] }

/-- `_findDependency` -/
def findDependency (db : Database) (name version : String) : Except Err Package :=
  match (db.getByName name).filter fun byName => byName.version = version ∨ version = "*" with
  | some byName => .ok byName
  | none =>
    match db.getByProvide name with
    | none => .error (.error ("Dependency not found : " ++ name))
    | some list =>
      match if version = "*" then list.head? else list.find? fun it => it.version = version with
      | some item => .ok item
      | none => .error (.error
        ("Dependency not found : " ++ name ++ "-" ++ version ++ " (available are : " ++
          ",".intercalate (list.map fun it => it.name ++ "-" ++ it.version)))

/-- `_addDependency` -/
def addDependency (dep : Package) : I Bool := do
  match (← get).chosen dep.name with
  | none =>
    addItem dep
    return true
  | some existing =>
    if existing = dep.version then return false
    throw (.error ("version mismatch for dependency " ++ dep.name ++ " : " ++ dep.version ++
      " vs " ++ existing))

/-- `_listDependencies` -/
def listDependencies (db : Database) : Nat → Package → I PUnit
  | 0, _ => throw .stackOverflow
  | fuel + 1, item => forEach item.dependencies.entries fun e => do
    let dep ← orThrow (findDependency db e.1 e.2)
    if ← addDependency dep then listDependencies db fuel dep else pass e.1 dep

def addPackage (db : Database) (fuel : Nat) (name : String) : I PUnit := do
  if ((← get).chosen name).isSome then forEach (db.getByName name).toList (pass name)
  else
    match db.getByName name with
    | none => throw (.error ("Package not found : " ++ name))
    | some item =>
      addItem item
      listDependencies db fuel item

/-- The packages of a request, on an empty list. -/
def install (db : Database) (fuel : Nat) (request : List String) :
    EStateM.Result Err InstallList PUnit :=
  (forEach request (addPackage db fuel)).run {}

end InstallList
end MylifeHome.Studio.Deploy.Apk
