import MylifeHome.Lib.Path
import MylifeHome.Studio.Deploy.Vfs

/-!
# Archives of a file tree

`deploy/engine/archive.ts`: a tree is packed as a list of entries with paths, without its
missing directories, and extraction makes the directories of a path again. The libraries
for tar and gzip give the entries back as they were given.
-/
namespace MylifeHome.Studio.Deploy.Archive

open MylifeHome.Lib MylifeHome.Lib.Path Vfs

/-- What the type of an entry comes with. -/
inductive Kind where
  | directory
  | file (data : List UInt8)
  | symlink (linkname : String)
  | other (type : String)
  deriving DecidableEq

/-- An entry, with its header. -/
structure Entry where
  name : String
  mode : Nat
  uid : Nat
  gid : Nat
  mtime : Option Int
  kind : Kind
  deriving DecidableEq

/-! ## Packing -/

def nodeToHeader (a : Attributes) (baseDirectory : String) (kind : Kind) : Entry :=
  { name := join baseDirectory a.name, mode := a.mode, uid := a.uid, gid := a.gid,
    mtime := a.mtime, kind }

mutual

/-- `packFile`, `packDirectory`, `packSymlink` -/
def packNode (baseDirectory : String) : Node → List Entry
  | .file a content => [nodeToHeader a baseDirectory (.file content)]
  | .symlink a target => [nodeToHeader a baseDirectory (.symlink target)]
  | .directory a missing nodes =>
    (if missing then [] else [nodeToHeader a baseDirectory .directory]) ++
      packNodes (join baseDirectory a.name) nodes

def packNodes (baseDirectory : String) : List Node → List Entry
  | [] => []
  | node :: nodes => packNode baseDirectory node ++ packNodes baseDirectory nodes

end

def pack (directory : Node) (baseDirectory : String := "") : List Entry :=
  packNode baseDirectory directory

/-! ## Extraction -/

def headerToNodeOptions (header : Entry) (name : String) : Attributes :=
  { name, mode := header.mode, uid := header.uid, gid := header.gid, mtime := header.mtime }

/-- `extractDirectory`, `extractFile`, `extractSymlink` -/
def extractInto (base : String) (header : Entry) (nodes : List Node) : Except Err (List Node) :=
  match header.kind with
  | .directory =>
    if base = "" ∨ (get nodes base).isSome then .ok nodes
    else .ok (add nodes (.directory (headerToNodeOptions header base) false []))
  | .file data =>
    if base = "" then .error (.error "name required")
    else .ok (add nodes (.file (headerToNodeOptions header base) data))
  | .symlink linkname =>
    if base = "" then .error (.error "name required")
    else .ok (add nodes (.symlink (headerToNodeOptions header base) linkname))
  | .other type => .error (.error ("Unknown entry type : " ++ type))

/-- The directory of an entry, made if it is not there. -/
def enter (f : List Node → Except Err (List Node)) : List String → List Node →
    Except Err (List Node)
  | [], nodes => f nodes
  | name :: rest, nodes =>
    match get nodes name with
    | some (.directory a missing children) => (enter f rest children).map fun children =>
      add nodes (.directory a missing children)
    | some _ => .error .typeError
    | none => (enter f rest []).map fun children =>
      add nodes (.directory { name, mode := 0o755 } true children)

def extractEntry (cwd baseDirectory : String) (nodes : List Node) (header : Entry) :
    Except Err (List Node) :=
  let name := relative cwd baseDirectory header.name
  enter (extractInto (base name) header) (if dir name = "" then []
    else Text.split (dir name) '/') nodes

/-- The entries of an archive into a directory with the nodes. -/
def extract (cwd : String) (entries : List Entry) (nodes : List Node)
    (baseDirectory : String := "") : Except Err (List Node) :=
  entries.foldlM (extractEntry cwd baseDirectory) nodes

/-! ## Trees that can be packed -/

mutual

/-- The node, or something below it, is in the archive. -/
def archived : Node → Bool
  | .directory _ missing nodes => !missing || anyArchived nodes
  | _ => true

def anyArchived : List Node → Bool
  | [] => false
  | node :: nodes => archived node || anyArchived nodes

end

mutual

/-- The names are names of files, the siblings have distinct ones, and no missing directory is
empty. -/
def Packable : Node → Prop
  | .file a _ => Plain a.name
  | .symlink a _ => Plain a.name
  | .directory a missing nodes => Plain a.name ∧ (missing = true → anyArchived nodes = true) ∧
    AllPackable nodes

def AllPackable : List Node → Prop
  | [] => True
  | node :: nodes => Packable node ∧ (∀ other ∈ nodes, other.name ≠ node.name) ∧ AllPackable nodes

end

mutual

/-- The node with the default attributes for the missing directories. -/
def restored : Node → Node
  | .directory a missing nodes => .directory (if missing then { name := a.name, mode := 0o755 }
    else a) missing (allRestored nodes)
  | node => node

def allRestored : List Node → List Node
  | [] => []
  | node :: nodes => restored node :: allRestored nodes

end

/-! ## The entries by their segments -/

/-- An entry below a directory: the segments of its path, the attributes and the type. -/
structure Item where
  segments : List String
  attributes : Attributes
  kind : Kind

def Item.below (name : String) (item : Item) : Item :=
  { item with segments := name :: item.segments }

/-- The entry of an item below a directory. -/
def Item.entry (directory : List String) (item : Item) : Entry :=
  { name := ofSegments (directory ++ item.segments), mode := item.attributes.mode,
    uid := item.attributes.uid,
    gid := item.attributes.gid, mtime := item.attributes.mtime, kind := item.kind }

mutual

def items : Node → List Item
  | .file a content => [⟨[a.name], a, .file content⟩]
  | .symlink a target => [⟨[a.name], a, .symlink target⟩]
  | .directory a missing nodes => (if missing then [] else [⟨[a.name], a, .directory⟩]) ++
    (allItems nodes).map (Item.below a.name)

def allItems : List Node → List Item
  | [] => []
  | node :: nodes => items node ++ allItems nodes

end

/-- The extraction of an item. -/
def place (nodes : List Node) (item : Item) : Except Err (List Node) :=
  enter (extractInto (item.segments.getLast?.getD "") (item.entry [])) item.segments.dropLast nodes

section Items

variable {directory : List String}

mutual

theorem packNode_eq (directory : List String) (hd : ∀ s ∈ directory, Plain s) :
    ∀ node, Packable node →
    packNode (ofSegments directory) node = (items node).map (Item.entry directory)
  | .file a content, h => by
    rw [packNode, items, nodeToHeader, join_ofSegments hd (by simpa [Packable] using h)]
    rfl
  | .symlink a target, h => by
    rw [packNode, items, nodeToHeader, join_ofSegments hd (by simpa [Packable] using h)]
    rfl
  | .directory a missing nodes, h => by
    obtain ⟨hname, -, hnodes⟩ : Plain a.name ∧ _ ∧ AllPackable nodes := by simpa [Packable] using h
    have hd' : ∀ s ∈ directory ++ [a.name], Plain s := by
      intro s hs
      rcases List.mem_append.mp hs with hs | hs
      · exact hd s hs
      · exact List.mem_singleton.mp hs ▸ hname
    rw [packNode, items, nodeToHeader, join_ofSegments hd hname, packNodes_eq _ hd' nodes hnodes,
      List.map_append, List.map_map]
    congr 1
    · cases missing <;> rfl
    · refine List.map_congr_left fun item _ => ?_
      simp [Item.entry, Item.below]

theorem packNodes_eq (directory : List String) (hd : ∀ s ∈ directory, Plain s) :
    ∀ nodes, AllPackable nodes →
    packNodes (ofSegments directory) nodes = (allItems nodes).map (Item.entry directory)
  | [], _ => rfl
  | node :: nodes, h => by
    obtain ⟨hnode, -, hnodes⟩ : Packable node ∧ _ ∧ AllPackable nodes := by
      simpa [AllPackable] using h
    rw [packNodes, allItems, packNode_eq directory hd node hnode,
      packNodes_eq directory hd nodes hnodes, List.map_append]

end

mutual

theorem items_plain : ∀ node, Packable node → ∀ item ∈ items node, item.segments ≠ [] ∧
    (∀ s ∈ item.segments, Plain s) ∧
    item.segments.getLast? = some item.attributes.name
  | .file a content, h, item, hitem => by
    rw [items, List.mem_singleton] at hitem
    subst hitem
    simpa [Packable] using h
  | .symlink a target, h, item, hitem => by
    rw [items, List.mem_singleton] at hitem
    subst hitem
    simpa [Packable] using h
  | .directory a missing nodes, h, item, hitem => by
    obtain ⟨hname, -, hnodes⟩ : Plain a.name ∧ _ ∧ AllPackable nodes := by simpa [Packable] using h
    rw [items, List.mem_append] at hitem
    rcases hitem with hitem | hitem
    · cases missing with
      | true => cases hitem
      | false =>
        cases List.mem_singleton.mp hitem
        simpa using hname
    · obtain ⟨item, hmem, rfl⟩ := List.mem_map.mp hitem
      obtain ⟨hne, hplain, hlast⟩ := allItems_plain nodes hnodes item hmem
      refine ⟨by simp [Item.below], List.forall_mem_cons.mpr ⟨hname, hplain⟩, ?_⟩
      rw [Item.below, List.getLast?_cons_of_ne_nil hne]
      exact hlast

theorem allItems_plain : ∀ nodes, AllPackable nodes → ∀ item ∈ allItems nodes, item.segments ≠ [] ∧
    (∀ s ∈ item.segments, Plain s) ∧
    item.segments.getLast? = some item.attributes.name
  | [], _, item, hitem => by simp [allItems] at hitem
  | node :: nodes, h, item, hitem => by
    obtain ⟨hnode, -, hnodes⟩ : Packable node ∧ _ ∧ AllPackable nodes := by
      simpa [AllPackable] using h
    rw [allItems, List.mem_append] at hitem
    rcases hitem with hitem | hitem
    · exact items_plain node hnode item hitem
    · exact allItems_plain nodes hnodes item hitem

end

/-- The entry of an item is extracted along its segments. -/
theorem extractEntry_entry (cwd : String) (nodes : List Node) {item : Item}
    (hne : item.segments ≠ []) (h : ∀ s ∈ item.segments, Plain s) :
    extractEntry cwd "" nodes (item.entry []) = place nodes item := by
  have hname : (item.entry []).name = ofSegments item.segments := rfl
  have hplain : ∀ s ∈ item.segments.dropLast, Plain s := fun s hs => h s (List.dropLast_subset _ hs)
  unfold extractEntry place
  simp only [hname, relative_ofSegments cwd hne h, base_plain hne h, dir_intercalate hne h]
  congr 1
  by_cases hnil : item.segments.dropLast = []
  · rw [hnil]
    rfl
  · have hsplit := split_intercalate hnil hplain
    rw [if_neg, hsplit]
    intro hempty
    rw [hempty] at hsplit
    have hmem : "" ∈ item.segments.dropLast := by rw [← hsplit]; decide
    exact (hplain "" hmem).ne_empty rfl

theorem extract_entries (cwd : String) {l : List Item}
    (h : ∀ item ∈ l, item.segments ≠ [] ∧ ∀ s ∈ item.segments, Plain s)
    (nodes : List Node) : extract cwd (l.map (Item.entry [])) nodes = l.foldlM place nodes := by
  unfold extract
  induction l generalizing nodes with
  | nil => rfl
  | cons item l ih =>
    obtain ⟨hitem, hl⟩ := List.forall_mem_cons.mp h
    rw [List.map_cons, List.foldlM_cons, List.foldlM_cons,
      extractEntry_entry cwd nodes hitem.1 hitem.2]
    exact congrArg _ (funext fun nodes => ih hl nodes)

end Items

/-! ## The tree that is extracted -/

section Extraction

variable {nodes children : List Node} {node other : Node} {name : String}

theorem get_none (h : ∀ n ∈ nodes, n.name ≠ name) : get nodes name = none := by
  simpa [Vfs.get] using h

theorem add_new (h : ∀ n ∈ nodes, n.name ≠ node.name) : add nodes node = nodes ++ [node] := by
  rw [add, get_none h]
  rfl

theorem get_last (h : ∀ n ∈ nodes, n.name ≠ node.name) : get (nodes ++ [node]) node.name =
    some node := by
  have hnone := get_none h
  unfold Vfs.get at hnone ⊢
  rw [List.find?_append, hnone]
  simp

theorem add_last (h : ∀ n ∈ nodes, n.name ≠ node.name) (hname : other.name = node.name) :
    add (nodes ++ [node]) other = nodes ++ [other] := by
  have hid : ∀ n ∈ nodes, (if n.name = node.name then other else n) = id n :=
    fun n hn => if_neg (h n hn)
  have hmap : nodes.map (fun n => if n.name = node.name then other else n) = nodes := by
    rw [List.map_congr_left hid, List.map_id]
  rw [add, hname, get_last h]
  simp [hmap]

theorem place_single (nodes : List Node) (a : Attributes) (kind : Kind) :
    place nodes ⟨[a.name], a, kind⟩ =
      extractInto a.name (Item.entry [] ⟨[a.name], a, kind⟩) nodes := by
  simp [place, enter]

/-- An item below a directory goes into that directory. -/
theorem place_below (nodes : List Node) {item : Item} (hne : item.segments ≠ []) (name : String) :
    place nodes (item.below name) =
    match get nodes name with
    | some (.directory a missing children) => (place children item).map fun children =>
      add nodes (.directory a missing children)
    | some _ => .error .typeError
    | none => (place [] item).map fun children =>
      add nodes (.directory { name, mode := 0o755 } true children) := by
  unfold place
  have hlast : (item.below name).segments.getLast? = item.segments.getLast? :=
    List.getLast?_cons_of_ne_nil hne
  have hdrop : (item.below name).segments.dropLast = name :: item.segments.dropLast :=
    List.dropLast_cons_of_ne_nil hne
  rw [hlast, hdrop]
  rfl

/-- Items below the last directory. -/
theorem foldlM_place_below {a : Attributes} {missing : Bool} {l : List Item}
    (h : ∀ item ∈ l, item.segments ≠ []) (hnodes : ∀ n ∈ nodes, n.name ≠ a.name)
    (children : List Node) :
    (l.map (Item.below a.name)).foldlM place (nodes ++ [.directory a missing children]) =
      (l.foldlM place children).map fun children => nodes ++ [.directory a missing children] := by
  induction l generalizing children with
  | nil => rfl
  | cons item l ih =>
    obtain ⟨hitem, hl⟩ := List.forall_mem_cons.mp h
    have hget : get (nodes ++ [.directory a missing children]) a.name =
      some (.directory a missing children) := get_last hnodes
    have hplace : place (nodes ++ [.directory a missing children]) (item.below a.name) =
        (place children item).map fun children => nodes ++ [.directory a missing children] := by
      rw [place_below _ hitem, hget]
      exact congrArg (Except.map · _) (funext fun children' => add_last hnodes rfl)
    rw [List.map_cons, List.foldlM_cons, List.foldlM_cons, hplace]
    cases place children item with
    | error e => rfl
    | ok children' => exact ih hl children'

/-- The first item below a directory that is not there makes it. -/
theorem foldlM_place_missing {l : List Item} (hne : l ≠ []) (h : ∀ item ∈ l, item.segments ≠ [])
    (hnodes : ∀ n ∈ nodes, n.name ≠ name) :
    (l.map (Item.below name)).foldlM place nodes =
      (l.foldlM place []).map fun children =>
        nodes ++ [.directory { name, mode := 0o755 } true children] := by
  obtain ⟨item, l, rfl⟩ := List.exists_cons_of_ne_nil hne
  obtain ⟨hitem, hl⟩ := List.forall_mem_cons.mp h
  have hplace : place nodes (item.below name) =
      (place [] item).map fun children =>
        nodes ++ [.directory { name, mode := 0o755 } true children] := by
    rw [place_below _ hitem, get_none hnodes]
    exact congrArg (Except.map · _) (funext fun children => add_new hnodes)
  rw [List.map_cons, List.foldlM_cons, List.foldlM_cons, hplace]
  cases place [] item with
  | error e => rfl
  | ok children => exact foldlM_place_below (a := { name, mode := 0o755 }) hl hnodes children

theorem name_restored (node : Node) : (restored node).name = node.name := by
  cases node with
  | file => rfl
  | symlink => rfl
  | directory a missing nodes => cases missing <;> rfl

mutual

theorem items_ne_nil : ∀ node, archived node = true → items node ≠ []
  | .file a content, _ => by simp [items]
  | .symlink a target, _ => by simp [items]
  | .directory a true nodes, h => by
    have hnodes : anyArchived nodes = true := by simpa [archived] using h
    simpa [items] using allItems_ne_nil nodes hnodes
  | .directory a false nodes, _ => by simp [items]

theorem allItems_ne_nil : ∀ nodes, anyArchived nodes = true → allItems nodes ≠ []
  | [], h => by simp [anyArchived] at h
  | node :: nodes, h => by
    rw [anyArchived, Bool.or_eq_true] at h
    rw [allItems, Ne, List.append_eq_nil_iff, not_and_or]
    exact h.imp (items_ne_nil node) (allItems_ne_nil nodes)

end

mutual

/-- The items of a node give the node after those that were there. -/
theorem foldlM_place_items : ∀ node, Packable node → ∀ nodes :
    List Node, (∀ n ∈ nodes, n.name ≠ node.name) →
    (items node).foldlM place nodes = .ok (nodes ++ [restored node])
  | .file a content, h, nodes, hnodes => by
    have hname : Plain a.name := by simpa [Packable] using h
    rw [items, List.foldlM_cons, place_single, extractInto]
    simp only [Item.entry, if_neg hname.ne_empty]
    exact congrArg Except.ok (add_new hnodes)
  | .symlink a target, h, nodes, hnodes => by
    have hname : Plain a.name := by simpa [Packable] using h
    rw [items, List.foldlM_cons, place_single, extractInto]
    simp only [Item.entry, if_neg hname.ne_empty]
    exact congrArg Except.ok (add_new hnodes)
  | .directory a false children, h, nodes, hnodes => by
    obtain ⟨hname, hchildren⟩ : Plain a.name ∧ AllPackable children := by simpa [Packable] using h
    have hnodes' : ∀ n ∈ nodes, n.name ≠ a.name := hnodes
    have hne : ∀ item ∈ allItems children, item.segments ≠ [] :=
      fun item hitem => (allItems_plain children hchildren item hitem).1
    have hfirst : place nodes ⟨[a.name], a, .directory⟩ =
        .ok (nodes ++ [.directory a false []]) := by
      have hfree : ¬(a.name = "" ∨ (Vfs.get nodes a.name).isSome = true) := by
        rw [get_none hnodes']
        simpa using hname.ne_empty
      rw [place_single, extractInto]
      simp only [Item.entry, if_neg hfree]
      exact congrArg Except.ok (add_new hnodes')
    show (⟨[a.name], a, .directory⟩ :: (allItems children).map (Item.below a.name)).foldlM place
      nodes = _
    rw [List.foldlM_cons, hfirst]
    show ((allItems children).map (Item.below a.name)).foldlM place
      (nodes ++ [.directory a false []]) = _
    rw [foldlM_place_below hne hnodes', foldlM_place_allItems children hchildren [] (by simp)]
    rfl
  | .directory a true children, h, nodes, hnodes => by
    obtain ⟨-, harchived, hchildren⟩ : Plain a.name ∧ (true = true → anyArchived children = true) ∧
      AllPackable children := by
      simpa [Packable] using h
    have hnodes' : ∀ n ∈ nodes, n.name ≠ a.name := hnodes
    have hne : ∀ item ∈ allItems children, item.segments ≠ [] :=
      fun item hitem => (allItems_plain children hchildren item hitem).1
    show ((allItems children).map (Item.below a.name)).foldlM place nodes = _
    rw [foldlM_place_missing (allItems_ne_nil children (harchived rfl)) hne hnodes',
      foldlM_place_allItems children hchildren [] (by simp)]
    rfl

theorem foldlM_place_allItems : ∀ nodes', AllPackable nodes' → ∀ nodes :
    List Node, (∀ n ∈ nodes, ∀ n' ∈ nodes', n.name ≠ n'.name) →
    (allItems nodes').foldlM place nodes = .ok (nodes ++ allRestored nodes')
  | [], _, nodes, _ => by
    rw [allItems, allRestored, List.append_nil]
    rfl
  | node :: nodes', h, nodes, hnodes => by
    obtain ⟨hnode, hother, hnodes'⟩ : Packable node ∧ (∀ other ∈ nodes', other.name ≠ node.name) ∧
      AllPackable nodes' := by
      simpa [AllPackable] using h
    have hfirst := foldlM_place_items node hnode nodes fun n hn =>
      hnodes n hn node List.mem_cons_self
    have hrest := foldlM_place_allItems nodes' hnodes' (nodes ++ [restored node]) fun n hn n'
      hn' => by
      rcases List.mem_append.mp hn with hn | hn
      · exact hnodes n hn n' (List.mem_cons_of_mem _ hn')
      · rw [List.mem_singleton.mp hn, name_restored]
        exact (hother n' hn').symm
    rw [allItems, List.foldlM_append, hfirst]
    show (allItems nodes').foldlM place (nodes ++ [restored node]) = _
    rw [hrest, allRestored, List.append_assoc]
    rfl

end

end Extraction

mutual

/-- The missing directories have the default attributes. -/
def Defaulted : Node → Prop
  | .directory a missing nodes => (missing = true → a = { name := a.name, mode := 0o755 }) ∧
    AllDefaulted nodes
  | _ => True

def AllDefaulted : List Node → Prop
  | [] => True
  | node :: nodes => Defaulted node ∧ AllDefaulted nodes

end

mutual

theorem restored_eq_self : ∀ node, restored node = node ↔ Defaulted node
  | .file a content => by simp [restored, Defaulted]
  | .symlink a target => by simp [restored, Defaulted]
  | .directory a missing nodes => by
    have hnodes := allRestored_eq_self nodes
    cases missing with
    | false => simp [restored, Defaulted, hnodes]
    | true =>
      have hcomm : ({ name := a.name, mode := 0o755 } : Attributes) = a ↔
        a = { name := a.name, mode := 0o755 } := eq_comm
      simp [restored, Defaulted, hnodes, hcomm]

theorem allRestored_eq_self : ∀ nodes, allRestored nodes = nodes ↔ AllDefaulted nodes
  | [] => by simp [allRestored, AllDefaulted]
  | node :: nodes => by simp [allRestored, AllDefaulted, restored_eq_self node,
    allRestored_eq_self nodes]

end

/-- A tree below an unnamed directory is extracted as it was packed, with the default attributes for
its missing directories; so it is the same exactly when they had them. A directory with a name comes
back with that name. -/
theorem extract_pack (cwd : String) (a : Attributes) (missing : Bool) (nodes : List Node)
    (hname : a.name = "") (h : AllPackable nodes) :
    extract cwd (pack (.directory a missing nodes)) [] = .ok (allRestored nodes) ∧
      (allRestored nodes = nodes ↔ AllDefaulted nodes) ∧
      ∀ b, Packable (.directory b missing nodes) →
        extract cwd (pack (.directory b missing nodes)) [] =
          .ok [restored (.directory b missing nodes)] := by
  have hplain : ∀ l : List Item, (∀ item ∈ l, item.segments ≠ [] ∧ (∀ s ∈ item.segments, Plain s) ∧
    item.segments.getLast? = some item.attributes.name) →
      ∀ item ∈ l, item.segments ≠ [] ∧ ∀ s ∈ item.segments, Plain s :=
    fun l hl item hitem => ⟨(hl item hitem).1, (hl item hitem).2.1⟩
  refine ⟨?_, allRestored_eq_self nodes, fun b hb => ?_⟩
  · have hdot : join "" a.name = ofSegments [] := by
      rw [hname]
      decide
    -- the entry of the root, if there is one, changes nothing
    have hfirst : extractEntry cwd "" [] (nodeToHeader a "" .directory) = .ok [] := by
      have hentry : (nodeToHeader a "" .directory).name = "." := hdot
      unfold extractEntry
      rw [hentry, relative_dot]
      rfl
    have hrest : extract cwd (packNodes (join "" a.name) nodes) [] = .ok (allRestored nodes) := by
      rw [hdot, packNodes_eq [] (by simp) nodes h, extract_entries cwd
        (hplain _ (allItems_plain nodes h))]
      exact foldlM_place_allItems nodes h [] (by simp)
    rw [pack, packNode]
    cases missing with
    | true => exact hrest
    | false =>
      show (nodeToHeader a "" .directory :: packNodes (join "" a.name) nodes).foldlM
        (extractEntry cwd "") [] = _
      rw [List.foldlM_cons, hfirst]
      exact hrest
  · obtain ⟨hplainName, -, -⟩ : Plain b.name ∧ _ ∧ _ := by simpa only [Packable] using hb
    have hentries : pack (.directory b missing nodes) =
        (items (.directory b missing nodes)).map (Item.entry []) := by
      rw [← packNode_eq [] (by simp) _ hb, pack, packNode, packNode, nodeToHeader, nodeToHeader,
        join_empty hplainName, join_ofSegments (by simp) hplainName]
      rfl
    rw [hentries, extract_entries cwd (hplain _ (items_plain _ hb))]
    exact foldlM_place_items _ hb [] (by simp)

/-- An image with a missing directory `etc` and the given mode for it. -/
def missingEtc (mode : Nat) : List Node :=
  [.directory { name := "etc", mode } true [.file { name := "motd", mode := 0o644 } [104, 105, 10]]]

theorem plain_motd : Plain "etc" ∧ Plain "motd" :=
  ⟨⟨by decide, by decide, by decide, by decide⟩, by decide, by decide, by decide, by decide⟩

/-- A missing directory with the default attributes comes back. -/
theorem extract_pack_default : AllPackable (missingEtc 0o755) ∧
    extract "/" (pack (.directory { name := "", mode := 0o755 } true (missingEtc 0o755))) [] =
      .ok (missingEtc 0o755) := by
  have h : AllPackable (missingEtc 0o755) := by
    simp [missingEtc, AllPackable, Packable, plain_motd, anyArchived, archived]
  refine ⟨h, ?_⟩
  have hextract := extract_pack "/" { name := "", mode := 0o755 } true (missingEtc 0o755) rfl h
  rw [hextract.1, hextract.2.1.mpr]
  simp [missingEtc, AllDefaulted, Defaulted]

/-- The mode of a missing directory is not in the archive. -/
theorem extract_pack_mode : AllPackable (missingEtc 0o700) ∧
    extract "/" (pack (.directory { name := "", mode := 0o755 } true (missingEtc 0o700))) [] =
      .ok (missingEtc 0o755) ∧
    missingEtc 0o755 ≠ missingEtc 0o700 := by
  refine ⟨?_, rfl, ?_⟩
  · simp [missingEtc, AllPackable, Packable, plain_motd, anyArchived, archived]
  · simp [missingEtc]

end MylifeHome.Studio.Deploy.Archive
