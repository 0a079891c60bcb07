import MylifeHome.Lib.Bytes
import MylifeHome.Lib.Effect

/-!
# The file tree of an image

`deploy/engine/vfs.ts` and the edits of text files of `deploy/engine/tasks-utils.ts`. A
directory lists its nodes by their names. Texts are read as UTF-8 and written as ASCII.
-/
namespace MylifeHome.Studio.Deploy.Vfs

open MylifeHome.Lib MylifeHome.Lib.Bytes

inductive Err where
  | error (message : String)
  | typeError
  deriving DecidableEq, Repr

/-- The attributes that every node has; the access and change times are not used. -/
structure Attributes where
  name : String
  uid : Nat := 0
  gid : Nat := 0
  mode : Nat
  mtime : Option Int := none
  deriving DecidableEq, Repr

inductive Node where
  | file (attributes : Attributes) (content : List UInt8)
  | symlink (attributes : Attributes) (target : String)
  | directory (attributes : Attributes) (missing : Bool) (nodes : List Node)

namespace Node

def attributes : Node → Attributes
  | .file attributes _ => attributes
  | .symlink attributes _ => attributes
  | .directory attributes _ _ => attributes

def name (node : Node) : String := node.attributes.name

/-- A node without what is below it. -/
def shallow : Node → Node
  | .directory attributes missing _ => .directory attributes missing []
  | node => node

end Node

/-- `Directory.get` -/
def get (nodes : List Node) (name : String) : Option Node :=
  nodes.find? fun node => node.name = name

/-- `Map.set` keeps the place of a key that is there. -/
def add (nodes : List Node) (node : Node) : List Node :=
  if (get nodes node.name).isSome then nodes.map fun n => if n.name = node.name then node else n
  else nodes ++ [node]

def path (nothrow : Bool) : Node → List String → Except Err (Option Node)
  | node, [] => .ok (some node)
  | .directory attributes _ nodes, name :: rest =>
    match get nodes name with
    | some child => path nothrow child rest
    | none => if nothrow then .ok none
      else .error (.error ("'" ++ name ++ "' not found in '" ++ attributes.name ++ "'"))
  | _, _ :: _ => .error (.error "Wrong node type")

def readText (root : Node) (nodes : List String) : Except Err Units := do
  match ← path false root nodes with
  | some (.file _ content) => return ofUtf8 content
  | _ => throw .typeError

/-- The node that `path` finds is written in its place. -/
def modifyAt (f : Node → Except Err Node) : Node → List String → Except Err Node
  | node, [] => f node
  | .directory attributes missing nodes, name :: rest =>
    match get nodes name with
    | some child => (modifyAt f child rest).map fun child =>
      .directory attributes missing (add nodes child)
    | none => .error (.error ("'" ++ name ++ "' not found in '" ++ attributes.name ++ "'"))
  | _, _ :: _ => .error (.error "Wrong node type")

/-- The file of the name in a directory, with new content. -/
def writeIn (name : String) (content : List UInt8) : Node → Except Err Node
  | .directory attributes missing nodes =>
    match get nodes name with
    | none =>
      if name = "" then .error (.error "name required")
      else .ok (.directory attributes missing (add nodes (.file { name, mode := 0o644 } content)))
    | some (.file a _) => .ok (.directory attributes missing (add nodes (.file a content)))
    | some _ => .error (.error "Wrong node type")
  | _ => .error .typeError

def writeText (root : Node) (nodes : List String) (content : Units) : Except Err Node :=
  modifyAt (writeIn (nodes.getLast?.getD "") (ascii content)) root nodes.dropLast

/-- The code unit of `\n`. -/
def newline : UInt16 := 10

/-- The text of a file that may not be there. -/
def textOf (root : Node) (nodes : List String) : Except Err (Option Units) := do
  match ← path true root nodes with
  | some _ => return some (← readText root nodes)
  | none => return none

/-- The text without its final newline is updated. -/
def updateRow (updater : Units → Units) (content : Units) : Units :=
  if content.getLast? = some newline then updater content.dropLast ++ [newline] else updater content

def singleRowFileUpdate (root : Node) (nodes : List String) (updater : Units → Units) :
    Except Err Node := do
  let content := (← textOf root nodes).getD []
  writeText root nodes (updateRow updater content)

/-- A text that ends with a newline. -/
def ended (content : Units) : Units := if content.getLast? = some newline then content
    else content ++ [newline]

def fileAppendLine (root : Node) (nodes : List String) (line : Units) : Except Err Node := do
  let content := ((← textOf root nodes).map ended).getD []
  writeText root nodes (content ++ line ++ [newline])

/-! ## What is at a path -/

def lookup (root : Node) (nodes : List String) : Option Node :=
  ((path true root nodes).toOption).join

section Lookup

variable {attributes : Attributes} {missing : Bool} {nodes : List Node} {name : String}
    {rest : List String} {node child : Node}

@[simp] theorem lookup_nil (node : Node) : lookup node [] = some node := by
  unfold lookup path
  rfl

theorem lookup_cons : lookup (.directory attributes missing nodes) (name :: rest) =
    (get nodes name).bind fun child => lookup child rest := by
  unfold lookup
  rw [path]
  cases get nodes name <;> rfl

theorem name_of_get (h : get nodes name = some child) : child.name = name := by
  simpa using List.find?_some h

theorem get_add (node : Node) : get (add nodes node) name = if name = node.name then some node
    else get nodes name := by
  have hmap : ∀ l : List Node, get (l.map fun n => if n.name = node.name then node else n) name =
      if name = node.name then (get l name).map fun _ => node else get l name := by
    intro l
    induction l with
    | nil => simp [get]
    | cons n l ih =>
      unfold get at ih ⊢
      rw [List.map_cons, List.find?_cons, List.find?_cons, ih]
      by_cases hn : n.name = node.name
      · rw [if_pos hn, hn]
        by_cases hname : name = node.name
        · simp [hname]
        · simp [hname, Ne.symm hname]
      · rw [if_neg hn]
        by_cases hname : name = node.name
        · simp [hname, hn]
        · simp [hname]
  unfold add
  split
  · next h =>
    rw [hmap]
    split
    · next hname =>
      subst hname
      obtain ⟨child, hchild⟩ := Option.isSome_iff_exists.mp h
      rw [hchild]
      rfl
    · rfl
  · next h =>
    rw [Option.not_isSome_iff_eq_none] at h
    unfold get at h ⊢
    rw [List.find?_append]
    split
    · next hname =>
      rw [hname, h]
      simp
    · next hname =>
      have hnone : [node].find? (fun n => n.name = name) = none := by simp [Ne.symm hname]
      rw [hnone, Option.or_none]

theorem path_append {p q : List String} (h : lookup node p = some child) (nothrow : Bool) :
    path nothrow node (p ++ q) = path nothrow child q := by
  induction p generalizing node with
  | nil =>
    rw [lookup_nil] at h
    rw [List.nil_append, Option.some.inj h]
  | cons name p ih =>
    cases node with
    | file => cases h
    | symlink => cases h
    | directory attributes missing nodes =>
      rw [lookup_cons, Option.bind_eq_some_iff] at h
      obtain ⟨c, hc, h⟩ := h
      rw [List.cons_append, path, hc]
      exact ih h

theorem lookup_append {p q : List String} (h : lookup node p = some child) :
    lookup node (p ++ q) = lookup child q := by
  rw [lookup, path_append h]
  rfl

/-- What is above a node that is found is found. -/
theorem exists_lookup_of_append {p q : List String} (h : lookup node (p ++ q) = some child) :
    ∃ n, lookup node p = some n ∧ lookup n q = some child := by
  induction p generalizing node with
  | nil => exact ⟨node, lookup_nil node, h⟩
  | cons name p ih =>
    cases node with
    | file => cases h
    | symlink => cases h
    | directory attributes missing nodes =>
      rw [List.cons_append, lookup_cons, Option.bind_eq_some_iff] at h
      obtain ⟨c, hc, h⟩ := h
      obtain ⟨n, hn, hchild⟩ := ih h
      exact ⟨n, by rw [lookup_cons, hc]; exact hn, hchild⟩

end Lookup

/-! ## Writing a file -/

section Write

/-- Nothing but the node at the path differs. -/
def Frame (root root' : Node) (nodes : List String) : Prop :=
  ∀ p, p ≠ nodes → (lookup root' p).map Node.shallow = (lookup root p).map Node.shallow

variable {root node target target' : Node} {f : Node → Except Err Node} {dir : List String}
    {name : String}

theorem modifyAt_ok (h : lookup node dir = some target) (hf : f target = .ok target')
    (hname : target'.name = target.name) :
    ∃ node', modifyAt f node dir = .ok node' ∧ node'.name = node.name ∧
      (∀ rest, lookup node' (dir ++ rest) = lookup target' rest) ∧
      ∀ p, ¬dir <+: p → (lookup node' p).map Node.shallow = (lookup node p).map Node.shallow := by
  induction dir generalizing node with
  | nil =>
    rw [lookup_nil] at h
    cases h
    exact ⟨target', by rw [modifyAt, hf], hname, fun _ => rfl,
      fun p hp => absurd List.nil_prefix hp⟩
  | cons n dir ih =>
    cases node with
    | file => cases h
    | symlink => cases h
    | directory attributes missing nodes =>
      rw [lookup_cons, Option.bind_eq_some_iff] at h
      obtain ⟨child, hchild, h⟩ := h
      obtain ⟨child', hmodify, hsame, hin, hout⟩ := ih h
      have hn : child'.name = n := hsame.trans (name_of_get hchild)
      refine ⟨.directory attributes missing (add nodes child'), ?_, rfl, fun rest => ?_,
        fun p hp => ?_⟩
      · rw [modifyAt, hchild]
        show (modifyAt f child dir).map _ = _
        rw [hmodify]
        rfl
      · rw [List.cons_append, lookup_cons, get_add, if_pos hn.symm]
        exact hin rest
      · cases p with
        | nil => rfl
        | cons m p =>
          rw [lookup_cons, lookup_cons, get_add]
          split
          · next hm =>
            rw [hm.trans hn, hchild]
            refine hout p fun hbegins => hp ?_
            rw [hm.trans hn]
            exact List.cons_prefix_cons.mpr ⟨rfl, hbegins⟩
          · rfl

/-- The text file at a path, or the place for it. -/
def Target (root : Node) (dir : List String) (name : String) : Option (Attributes × Units) → Prop
  | some (a, text) => wellFormed text = true ∧ lookup root (dir ++ [name]) =
    some (.file a (utf8 text))
  | none => name ≠ "" ∧ lookup root (dir ++ [name]) = none ∧ ∃ a missing nodes, lookup root dir =
    some (.directory a missing nodes)

/-- A file that is not there is created with the default attributes. -/
def attributesOf (name : String) (prior : Option (Attributes × Units)) : Attributes :=
  (prior.map Prod.fst).getD { name, mode := 0o644 }

variable {prior : Option (Attributes × Units)}

/-- The directory of the file. -/
theorem Target.directory (h : Target root dir name prior) : ∃ a missing nodes, lookup root dir =
    some (.directory a missing nodes) ∧
    get nodes name = prior.map (fun e => .file e.1 (utf8 e.2)) ∧ (prior = none → name ≠ "") ∧
      (attributesOf name prior).name = name := by
  match prior, h with
  | none, ⟨hname, hnone, a, missing, nodes, hdir⟩ =>
    rw [lookup_append hdir, lookup_cons] at hnone
    refine ⟨a, missing, nodes, hdir, ?_, fun _ => hname, rfl⟩
    cases hget : get nodes name with
    | none => rfl
    | some child => simp [hget] at hnone
  | some (a, text), ⟨_, hfile⟩ =>
    obtain ⟨n, hdir, hfile⟩ := exists_lookup_of_append hfile
    cases n with
    | file => cases hfile
    | symlink => cases hfile
    | directory b missing nodes =>
      rw [lookup_cons, Option.bind_eq_some_iff] at hfile
      obtain ⟨child, hget, hchild⟩ := hfile
      rw [lookup_nil] at hchild
      cases hchild
      exact ⟨b, missing, nodes, hdir, hget, nofun, name_of_get hget⟩

theorem writeText_ok (h : Target root dir name prior) (content : Units) :
    ∃ root', writeText root (dir ++ [name]) content = .ok root' ∧
    lookup root' (dir ++ [name]) = some (.file (attributesOf name prior) (ascii content)) ∧
      Frame root root' (dir ++ [name]) := by
  obtain ⟨a, missing, nodes, hdir, hget, hname, hattributes⟩ := h.directory
  have hwrite : writeIn name (ascii content) (.directory a missing nodes) =
      .ok (.directory a missing (add nodes (.file (attributesOf name prior) (ascii content)))) := by
    rw [writeIn, hget]
    match prior, hname with
    | none, hname => exact if_neg (hname rfl)
    | some _, _ => rfl
  obtain ⟨root', hmodify, -, hin, hout⟩ := modifyAt_ok hdir hwrite rfl
  refine ⟨root', by simpa [writeText] using hmodify, ?_, fun p hp => ?_⟩
  · rw [hin, lookup_cons, get_add]
    exact congrArg (Option.bind · _) (if_pos hattributes.symm)
  · by_cases hbegins : dir <+: p
    · obtain ⟨rest, rfl⟩ := hbegins
      rw [hin, lookup_append hdir]
      cases rest with
      | nil => rfl
      | cons n rest =>
        rw [lookup_cons, lookup_cons, get_add]
        split
        · next hn =>
          have hn : n = name := hn.trans hattributes
          cases rest with
          | nil => exact absurd (by rw [hn]) hp
          | cons m rest =>
            rw [hn, hget]
            cases prior <;> rfl
        · rfl
    · exact hout p hbegins

theorem textOf_target (h : Target root dir name prior) :
    textOf root (dir ++ [name]) = .ok (prior.map Prod.snd) := by
  obtain ⟨a, missing, nodes, hdir, hget, -, -⟩ := h.directory
  unfold textOf readText
  rw [path_append hdir, path_append hdir, path, path, hget]
  match prior, h with
  | none, _ => rfl
  | some (b, text), ⟨hwf, _⟩ =>
    show Except.ok (some (ofUtf8 (utf8 text))) = _
    rw [ofUtf8_utf8_eq_iff.mpr hwf]
    rfl

end Write

/-! ## Edits of text files -/

/-- The bytes before, a newline if there were some without a newline at the end, the line and a
newline. -/
def appended (prior : Option (Attributes × Units)) (line : Units) : List UInt8 :=
  match prior with
  | none => utf8 line ++ [10]
  | some (_, text) => utf8 text ++ (if text.getLast? = some newline then [] else [10]) ++
    utf8 line ++ [10]

theorem utf8_newline (l : Units) : utf8 (l ++ [newline]) = utf8 l ++ [10] := by
  rw [utf8, toChars_concat l (by decide), List.flatMap_append]
  rfl

theorem wellFormed_ended {text : Units} (h : wellFormed text = true) :
    wellFormed (ended text) = true := by
  unfold ended
  split
  · exact h
  · rw [← toUnits_toChars h, show [newline] = Bytes.toUnits ['\n'] from rfl, Bytes.toUnits,
      Bytes.toUnits, ← List.flatMap_append]
    exact wellFormed_toUnits _

theorem utf8_appended {root : Node} {dir : List String} {name : String}
    {prior : Option (Attributes × Units)} (h : Target root dir name prior) (line : Units) :
    utf8 (((prior.map Prod.snd).map ended).getD [] ++ line ++ [newline]) = appended prior line := by
  rw [utf8_newline]
  match prior, h with
  | none, _ => rfl
  | some (a, text), ⟨hwf, _⟩ =>
    show utf8 (ended text ++ line) ++ [10] = _
    rw [utf8_append (wellFormed_ended hwf), appended, ended]
    split
    · simp
    · rw [utf8_newline]

/-- The edits keep all other nodes, and write the UTF-8 bytes exactly when all the text is ASCII. -/
theorem edits_exact (root : Node) (dir : List String) (name : String)
    (prior : Option (Attributes × Units)) (h : Target root dir name prior) :
    (∀ updater, ∃ root', singleRowFileUpdate root (dir ++ [name]) updater = .ok root' ∧
      Frame root root' (dir ++ [name]) ∧
      (lookup root' (dir ++ [name]) =
        some (.file (attributesOf name prior)
          (utf8 (updateRow updater ((prior.map Prod.snd).getD [])))) ↔
        ∀ unit ∈ updateRow updater ((prior.map Prod.snd).getD []), unit.toNat < 128)) ∧
    ∀ line, ∃ root', fileAppendLine root (dir ++ [name]) line = .ok root' ∧
      Frame root root' (dir ++ [name]) ∧
      (lookup root' (dir ++ [name]) = some (.file (attributesOf name prior) (appended prior line)) ↔
        ∀ unit ∈ (prior.map Prod.snd).getD [] ++ line, unit.toNat < 128) := by
  have hbytes : ∀ (root' : Node) (content : Units), lookup root' (dir ++ [name]) =
    some (.file (attributesOf name prior) (ascii content)) →
      (lookup root' (dir ++ [name]) = some (.file (attributesOf name prior) (utf8 content)) ↔
        ∀ unit ∈ content, unit.toNat < 128) := by
    intro root' content hroot'
    rw [hroot', ← ascii_eq_utf8_iff]
    simp
  constructor
  · intro updater
    obtain ⟨root', hwrite, hlookup, hframe⟩ :=
      writeText_ok h (updateRow updater ((prior.map Prod.snd).getD []))
    refine ⟨root', ?_, hframe, hbytes root' _ hlookup⟩
    rw [singleRowFileUpdate, textOf_target h]
    exact hwrite
  · intro line
    obtain ⟨root', hwrite, hlookup, hframe⟩ :=
      writeText_ok h (((prior.map Prod.snd).map ended).getD [] ++ line ++ [newline])
    refine ⟨root', ?_, hframe, ?_⟩
    · rw [fileAppendLine, textOf_target h]
      exact hwrite
    · rw [← utf8_appended h, hbytes root' _ hlookup]
      have hnewline : newline.toNat < 128 := by decide
      match prior with
      | none => simp [or_imp, forall_and, hnewline]
      | some (a, text) =>
        show (∀ unit ∈ ended text ++ line ++ [newline], _) ↔ ∀ unit ∈ text ++ line, _
        unfold ended
        split <;> simp only [List.mem_append, List.mem_singleton, or_imp, forall_and, forall_eq,
          hnewline, and_true]

/-- An image with one file, `/etc/motd`. -/
def motd (content : List UInt8) : Node :=
  .directory { name := "", mode := 0o755 } true
    [.directory { name := "etc", mode := 0o755 } false
      [.file { name := "motd", mode := 0o644 } content]]

/-- An exclamation mark at the end of the row of an ASCII file, and a row more. -/
theorem edits_exact_hello :
    Target (motd (utf8 [104, 105, 10])) ["etc"] "motd"
      (some ({ name := "motd", mode := 0o644 }, [104, 105, 10])) ∧
    (∃ root', singleRowFileUpdate (motd (utf8 [104, 105, 10])) ["etc", "motd"] (· ++ [33]) =
      .ok root' ∧
      lookup root' ["etc", "motd"] =
        some (.file { name := "motd", mode := 0o644 } [104, 105, 33, 10])) ∧
    ∃ root', fileAppendLine (motd (utf8 [104, 105, 10])) ["etc", "motd"] [111, 107] = .ok root' ∧
      lookup root' ["etc", "motd"] =
        some (.file { name := "motd", mode := 0o644 } [104, 105, 10, 111, 107, 10]) := by
  have htarget : Target (motd (utf8 [104, 105, 10])) ["etc"] "motd"
      (some ({ name := "motd", mode := 0o644 }, [104, 105, 10])) := ⟨by decide, rfl⟩
  have hexact := edits_exact _ _ _ _ htarget
  obtain ⟨root₁, hupdate, -, hrow⟩ := hexact.1 (· ++ [33])
  obtain ⟨root₂, happend, -, hline⟩ := hexact.2 [111, 107]
  have hascii : ∀ text : Units, text.all (·.toNat < 128) = true → ∀ unit ∈ text, unit.toNat < 128 :=
    fun _ hall unit hunit => of_decide_eq_true (List.all_eq_true.mp hall unit hunit)
  exact ⟨htarget, ⟨root₁, hupdate, hrow.mpr (hascii _ (by decide))⟩, root₂, happend,
    hline.mpr (hascii _ (by decide))⟩

/-- The file with the text `é` has the bytes C3 A9. The updater that changes nothing leaves the byte
E9, and appending a line does so too. -/
theorem edits_not_exact : utf8 [0xE9] = [0xC3, 0xA9] ∧
    (∃ root', singleRowFileUpdate (motd [0xC3, 0xA9]) ["etc", "motd"] id = .ok root' ∧
      lookup root' ["etc", "motd"] = some (.file { name := "motd", mode := 0o644 } [0xE9])) ∧
    ∃ root', fileAppendLine (motd [0xC3, 0xA9]) ["etc", "motd"] [104, 105] = .ok root' ∧
      lookup root' ["etc", "motd"] =
        some (.file { name := "motd", mode := 0o644 } [0xE9, 10, 104, 105, 10]) := by
  have htext : utf8 [0xE9] = [0xC3, 0xA9] := by decide
  have htarget : Target (motd [0xC3, 0xA9]) ["etc"] "motd"
      (some ({ name := "motd", mode := 0o644 }, [0xE9])) := by
    refine ⟨by decide, ?_⟩
    rw [htext]
    rfl
  refine ⟨htext, ?_, ?_⟩
  · obtain ⟨root', hwrite, hlookup, -⟩ := writeText_ok htarget [0xE9]
    refine ⟨root', ?_, hlookup⟩
    rw [singleRowFileUpdate, show ["etc", "motd"] = ["etc"] ++ ["motd"] from rfl,
      textOf_target htarget]
    exact hwrite
  · obtain ⟨root', hwrite, hlookup, -⟩ := writeText_ok htarget [0xE9, 10, 104, 105, 10]
    refine ⟨root', ?_, hlookup⟩
    rw [fileAppendLine, show ["etc", "motd"] = ["etc"] ++ ["motd"] from rfl, textOf_target htarget]
    exact hwrite

end MylifeHome.Studio.Deploy.Vfs
