import MylifeHome.Lib.Path
import MylifeHome.Lib.Run
import MylifeHome.Studio.Core.Data
import Mathlib.Data.Set.Insert

/-!
# Collections of files

`utils/fs-collection.ts`: a collection keeps the JSON files of a directory in memory. Its own
calls change the files and the items at once, and the watcher tells later of every change of a
file, whoever made it; the content of the file is read when the watcher tells of it.
-/
namespace MylifeHome.Studio.Files

open MylifeHome.Lib
open MylifeHome.Studio.Core (Err)

abbrev Buffer := List UInt8

variable {α : Type}

/-- `JSON.stringify` and `JSON.parse` of contents, and which contents are not falsy. -/
structure Json (α : Type) where
  stringify : α → Buffer
  parse : Buffer → Option α
  truthy : α → Bool

structure Item (α : Type) where
  raw : Buffer
  content : α
  deriving DecidableEq

inductive ChangeType where
  | internal
  | external
  deriving DecidableEq

/-- The events that the collection emits. -/
inductive Emitted where
  | create (id : String) (type : ChangeType)
  | update (id : String) (type : ChangeType)
  | delete (id : String) (type : ChangeType)
  | rename (id newId : String) (type : ChangeType)
  deriving DecidableEq

/-- The events of the watcher that concern files. -/
inductive WatcherEvent where
  | add (fullPath : String)
  | change (fullPath : String)
  | unlink (fullPath : String)
  deriving DecidableEq

/-- The items, the files of the directory, the events that the watcher has still to tell and
what was emitted. -/
structure FsCollection (α : Type) where
  items : OMap String (Item α) := ∅
  files : OMap String Buffer
  queue : List WatcherEvent
  emitted : List Emitted := []

inductive Call (α : Type) where
  | create (id : String) (content : α)
  | update (id : String) (content : α)
  | delete (id : String)
  | rename (id newId : String)

inductive Event (α : Type) where
  | call (c : Call α)
  /-- Another program writes a file, or removes it. -/
  | write (fullPath : String) (raw : Buffer)
  | remove (fullPath : String)
  /-- The watcher tells of the next change. -/
  | deliver

namespace FsCollection

variable (directory : String) (json : Json α) (s : FsCollection α)

def buildPath (id : String) : String := Path.join directory (id ++ ".json")

def ids : List String := s.items.keys

def emit (e : Emitted) : FsCollection α := { s with emitted := s.emitted ++ [e] }

/-! ## The watcher -/

/-- A file that cannot be read or parsed is left alone: the error is caught. -/
def handleSet (fullPath : String) : FsCollection α :=
  let id := Path.name fullPath
  match s.files.get fullPath with
  | none => s
  | some raw =>
    let existing := s.items.get id
    if existing.any (fun item => decide (item.raw = raw)) then s
    else
      match json.parse raw with
      | none => s
      | some content =>
        { s with items := s.items.set id { raw, content } }.emit
          (if existing.isSome then .update id .external else .create id .external)

/-- An item that is not there is only logged. -/
def handleDelete (fullPath : String) : FsCollection α :=
  let id := Path.name fullPath
  { s with items := s.items.delete id }.emit (.delete id .external)

def handleEvent : WatcherEvent → FsCollection α
  | .add fullPath => s.handleSet json fullPath
  | .change fullPath => s.handleSet json fullPath
  | .unlink fullPath => s.handleDelete fullPath

/-! ## The files -/

def writeFile (fullPath : String) (raw : Buffer) : FsCollection α :=
  { s with
    files := s.files.set fullPath raw
    queue := s.queue ++ [if s.files.has fullPath then .change fullPath else .add fullPath] }

/-- `unlinkSync` and `renameSync` throw when there is no file. -/
def removeFile (fullPath : String) : Except Err (FsCollection α) :=
  if s.files.has fullPath then
    .ok { s with files := s.files.delete fullPath, queue := s.queue ++ [.unlink fullPath] }
  else .error (.error "ENOENT")

/-- Two ids can have the same path, which is then left alone. -/
def renameFile (fullPath newPath : String) : Except Err (FsCollection α) :=
  match s.files.get fullPath with
  | none => .error (.error "ENOENT")
  | some raw =>
    if fullPath = newPath then .ok s
    else (s.removeFile fullPath).map fun s => s.writeFile newPath raw

/-! ## The calls -/

def set (id : String) (content : α) : Except Err (FsCollection α) :=
  if json.truthy content then
    let raw := json.stringify content
    let s' := s.writeFile (buildPath directory id) raw
    .ok ({ s' with items := s'.items.set id { raw, content } }.emit
      (if s.items.has id then .update id .internal else .create id .internal))
  else .error (.error ("Cannot set an item without content: '" ++ id ++ "'"))

def create (id : String) (content : α) : Except Err (FsCollection α) :=
  if s.items.has id then .error (.error ("Item does already exist: '" ++ id ++ "'"))
  else s.set directory json id content

def update (id : String) (content : α) : Except Err (FsCollection α) :=
  if s.items.has id then s.set directory json id content
  else .error (.error ("Item does not exist: '" ++ id ++ "'"))

def delete (id : String) : Except Err (FsCollection α) :=
  if s.items.has id then
    (s.removeFile (buildPath directory id)).map fun s =>
      { s with items := s.items.delete id }.emit (.delete id .internal)
  else .error (.error ("Item does not exist: '" ++ id ++ "'"))

def rename (id newId : String) : Except Err (FsCollection α) :=
  match s.items.get id with
  | none => .error (.error ("Item does not exist: '" ++ id ++ "'"))
  | some item =>
    if s.items.has newId then .error (.error ("Item does already exist: '" ++ newId ++ "'"))
    else
      (s.renameFile (buildPath directory id) (buildPath directory newId)).map fun s =>
        { s with items := (s.items.delete id).set newId item }.emit (.rename id newId .internal)

def call : Call α → Except Err (FsCollection α)
  | .create id content => s.create directory json id content
  | .update id content => s.update directory json id content
  | .delete id => s.delete directory id
  | .rename id newId => s.rename directory id newId

/-- A call that throws leaves everything as it was. -/
def step : Event α → FsCollection α
  | .call c => (s.call directory json c).toOption.getD s
  | .write fullPath raw => s.writeFile fullPath raw
  | .remove fullPath => (s.removeFile fullPath).toOption.getD s
  | .deliver =>
    match s.queue with
    | [] => s
    | e :: queue => { s with queue }.handleEvent json e

/-- The watcher tells first of the files that are there. -/
def init (files : OMap String Buffer) : FsCollection α := { files, queue := files.keys.map .add }

end FsCollection

/-! ## What the events tell -/

/-- The ids after an event, for one who only hears the events. -/
def Emitted.apply (ids : Set String) : Emitted → Set String
  | .create id _ => insert id ids
  | .update _ _ => ids
  | .delete id _ => ids \ {id}
  | .rename id newId _ => insert newId (ids \ {id})

def replay (emitted : List Emitted) : Set String := emitted.foldl Emitted.apply ∅

namespace FsCollection

variable (directory : String) (json : Json α) (s : FsCollection α)

/-- The item of a deletion or an update is there. -/
def Present : Emitted → Prop
  | .update id _ => s.items.has id = true
  | .delete id _ => s.items.has id = true
  | _ => True

/-- What a step emits is about items that are there just before. -/
def EmitsPresent (e : Event α) : Prop :=
  ∀ x, (s.step directory json e).emitted = s.emitted ++ [x] → s.Present x

/-- The watcher tells of a removed file only while its item is there. -/
def UnlinksPresent : Event α → Prop
  | .deliver => ∀ fullPath, s.queue.head? = some (.unlink fullPath) →
    s.items.has (Path.name fullPath) = true
  | _ => True

/-- The watcher tells all it has still to tell. -/
def settle : FsCollection α := s.queue.foldl (fun s _ => s.step directory json .deliver) s

/-- A file that is written is found under the name of its item, or what is found under the
other name needs no change; a file that is renamed keeps its path. -/
def Unechoed : Call α → Prop
  | .create id content | .update id content =>
    let name := Path.name (buildPath directory id)
    name = id ∨ (s.items.get name).map Item.raw = some (json.stringify content) ∨
      json.parse (json.stringify content) = none
  | .rename id newId => buildPath directory id = buildPath directory newId
  | .delete _ => False

section Steps

variable {directory json s} {s' : FsCollection α}

/-- A step tells what it does: nothing, or an event that gives the ids after it and, but for
the deletions of the watcher, is about an item that is there. -/
def Tells (s s' : FsCollection α) (present : Prop) : Prop :=
  (s'.emitted = s.emitted ∧ s'.items = s.items ∧ present) ∨
    ∃ x, s'.emitted = s.emitted ++ [x] ∧ {id | s'.items.has id = true} =
      x.apply {id | s.items.has id = true} ∧
      (s.Present x ↔ present)

theorem has_set_eq (items : OMap String (Item α)) (id : String) (item : Item α) :
    {id' | (items.set id item).has id' = true} = insert id {id' | items.has id' = true} := by
  ext id'
  simp [OMap.has_set]

theorem has_delete_eq (items : OMap String (Item α)) (id : String) :
    {id' | (items.delete id).has id' = true} = {id' | items.has id' = true} \ {id} := by
  ext id'
  simp [OMap.has_delete, and_comm]

/-- An item that is set is created or updated. -/
theorem tells_set {id : String} {item : Item α} {type : ChangeType}
    (hemitted : s'.emitted = s.emitted ++
      [if s.items.has id then .update id type else .create id type])
        (hitems : s'.items = s.items.set id item) :
    Tells s s' True := by
  refine .inr ⟨_, hemitted, ?_, ?_⟩
  · rw [hitems, has_set_eq]
    cases hid : s.items.has id with
    | false => rfl
    | true => exact Set.insert_eq_of_mem hid
  · cases hid : s.items.has id with
    | false => simp [Present]
    | true => simp [Present, hid]

theorem tells_handleSet (fullPath : String) : Tells s (s.handleSet json fullPath) True := by
  unfold handleSet
  dsimp only
  split
  · exact .inl ⟨rfl, rfl, trivial⟩
  · split
    · exact .inl ⟨rfl, rfl, trivial⟩
    · split
      · exact .inl ⟨rfl, rfl, trivial⟩
      · exact tells_set rfl rfl

theorem tells_handleDelete (fullPath : String) :
    Tells s (s.handleDelete fullPath) (s.items.has (Path.name fullPath) = true) :=
  .inr ⟨.delete (Path.name fullPath) .external, rfl, has_delete_eq _ _, Iff.rfl⟩

theorem tells_call {c : Call α} (h : s.call directory json c = .ok s') : Tells s s' True := by
  have hset : ∀ {id content}, s.set directory json id content = .ok s' → Tells s s' True := by
    intro id content h
    unfold set at h
    split at h
    · obtain rfl := Except.ok.inj h
      exact tells_set rfl rfl
    · cases h
  have hremove : ∀ {s₁ s₂ : FsCollection α} {fullPath}, s₁.removeFile fullPath = .ok s₂ →
      s₂.items = s₁.items ∧ s₂.emitted = s₁.emitted := by
    intro s₁ s₂ fullPath h
    unfold removeFile at h
    split at h
    · obtain rfl := Except.ok.inj h
      exact ⟨rfl, rfl⟩
    · cases h
  cases c with
  | create id content =>
    simp only [call, create] at h
    split at h
    · cases h
    · exact hset h
  | update id content =>
    simp only [call, update] at h
    split at h
    · exact hset h
    · cases h
  | delete id =>
    simp only [call, delete] at h
    split at h
    next hid =>
      obtain ⟨s₁, hs₁, rfl⟩ := except_map_ok.mp h
      obtain ⟨hitems, hemitted⟩ := hremove hs₁
      refine .inr ⟨.delete id .internal, by rw [← hemitted]; rfl, ?_, by simp [Present, hid]⟩
      rw [← hitems]
      exact has_delete_eq _ _
    · cases h
  | rename id newId =>
    simp only [call, rename] at h
    split at h
    · cases h
    · split at h
      · cases h
      · obtain ⟨s₂, hs₂, rfl⟩ := except_map_ok.mp h
        unfold renameFile at hs₂
        split at hs₂
        · cases hs₂
        · obtain ⟨hitems, hemitted⟩ : s₂.items = s.items ∧ s₂.emitted = s.emitted := by
            split at hs₂
            · obtain rfl := Except.ok.inj hs₂
              exact ⟨rfl, rfl⟩
            · obtain ⟨s₁, hs₁, rfl⟩ := except_map_ok.mp hs₂
              obtain ⟨hitems, hemitted⟩ := hremove hs₁
              exact ⟨hitems, hemitted⟩
          refine .inr ⟨.rename id newId .internal, by rw [← hemitted]; rfl, ?_, by simp [Present]⟩
          rw [← hitems]
          exact (has_set_eq _ _ _).trans (congrArg _ (has_delete_eq _ _))

theorem tells_step (e : Event α) : Tells s (s.step directory json e) (s.UnlinksPresent e) := by
  cases e with
  | call c =>
    simp only [step, UnlinksPresent]
    cases h : s.call directory json c with
    | error e => exact .inl ⟨rfl, rfl, trivial⟩
    | ok s' => exact tells_call h
  | write fullPath raw => exact .inl ⟨rfl, rfl, trivial⟩
  | remove fullPath =>
    simp only [step, removeFile]
    split <;> exact .inl ⟨rfl, rfl, trivial⟩
  | deliver =>
    simp only [step, UnlinksPresent]
    cases hqueue : s.queue with
    | nil => exact .inl ⟨rfl, rfl, nofun⟩
    | cons e queue =>
      cases e with
      | add fullPath =>
        simp only [List.head?_cons, Option.some.injEq, reduceCtorEq, false_implies, implies_true]
        exact tells_handleSet (s := { s with queue }) fullPath
      | change fullPath =>
        simp only [List.head?_cons, Option.some.injEq, reduceCtorEq, false_implies, implies_true]
        exact tells_handleSet (s := { s with queue }) fullPath
      | unlink fullPath =>
        simp only [List.head?_cons, Option.some.injEq, WatcherEvent.unlink.injEq, forall_eq']
        exact tells_handleDelete (s := { s with queue }) fullPath

theorem emitsPresent_iff (e : Event α) : s.EmitsPresent directory json e ↔ s.UnlinksPresent e := by
  unfold EmitsPresent
  obtain ⟨hemitted, -, hpresent⟩ | ⟨x, hemitted, -, hpresent⟩ := @tells_step _ directory json s e
  · simp [hemitted, hpresent]
  · simp [hemitted, hpresent]

/-- Who only hears the events knows the ids. -/
theorem replay_step (h : replay s.emitted = {id | s.items.has id = true}) (e : Event α) :
    replay (s.step directory json e).emitted =
      {id | (s.step directory json e).items.has id = true} := by
  obtain ⟨hemitted, hitems, -⟩ | ⟨x, hemitted, hids, -⟩ := @tells_step _ directory json s e
  · rw [hemitted, hitems, h]
  · rw [hemitted, hids, replay, List.foldl_append, ← replay, h]
    rfl

theorem along_iff {cond cond' : FsCollection α → Event α → Prop} (h : ∀ s e, cond s e ↔ cond' s e)
    (s : FsCollection α) (events : List (Event α)) :
    Along (step directory json) cond s events ↔ Along (step directory json) cond' s events :=
  ⟨fun hrun => hrun.mono fun s e => (h s e).mp, fun hrun => hrun.mono fun s e => (h s e).mpr⟩

/-! ## The echo of a call -/

/-- The watcher tells of a file whose content is known. -/
theorem handleSet_emitted_iff {fullPath : String} {raw : Buffer}
    (hfile : s.files.get fullPath = some raw) :
    (s.handleSet json fullPath).emitted = s.emitted ↔
      (s.items.get (Path.name fullPath)).map Item.raw = some raw ∨ json.parse raw = none := by
  unfold handleSet
  simp only [hfile]
  split
  next h =>
    refine ⟨fun _ => .inl ?_, fun _ => rfl⟩
    cases hitem : s.items.get (Path.name fullPath) with
    | none => simp [hitem] at h
    | some item => simpa [hitem] using h
  next h =>
    have hne : (s.items.get (Path.name fullPath)).map Item.raw ≠ some raw := by
      cases hitem : s.items.get (Path.name fullPath) with
      | none => simp
      | some item => simpa [hitem] using h
    cases json.parse raw with
    | none => simp
    | some content => simp [emit, hne]

theorem settle_set {id : String} {content : α} (hqueue : s.queue = [])
    (h : s.set directory json id content = .ok s') :
    (s'.settle directory json).emitted = s'.emitted ↔
      Path.name (buildPath directory id) = id ∨
        (s.items.get (Path.name (buildPath directory id))).map Item.raw =
          some (json.stringify content) ∨
        json.parse (json.stringify content) = none := by
  unfold set at h
  split at h
  · obtain rfl := Except.ok.inj h
    have hdeliver : ∀ e, (if s.files.has (buildPath directory id) then WatcherEvent.change
      (buildPath directory id)
        else .add (buildPath directory id)) = e → ∀ s : FsCollection α,
        s.handleEvent json e = s.handleSet json (buildPath directory id) := by
      rintro e rfl s
      split <;> rfl
    simp only [settle, emit, writeFile, hqueue, List.nil_append, List.foldl_cons,
      List.foldl_nil, step, hdeliver _ rfl]
    rw [handleSet_emitted_iff (OMap.get_set_self ..), OMap.get_set]
    by_cases hname : Path.name (buildPath directory id) = id
    · simp [hname]
    · simp [hname]
  · cases h

theorem length_le_emitted_step (e : Event α) :
    s.emitted.length ≤ (s.step directory json e).emitted.length := by
  obtain ⟨hemitted, -⟩ | ⟨x, hemitted, -⟩ := @tells_step _ directory json s e
  · rw [hemitted]
  · rw [hemitted, List.length_append]
    exact Nat.le_add_right _ _

/-- A file that is removed is told of. -/
theorem settle_unlink {fullPath : String} {queue : List WatcherEvent}
    (hqueue : s.queue = .unlink fullPath :: queue) :
    (s.settle directory json).emitted ≠ s.emitted := by
  have hrest : ∀ (l : List WatcherEvent) (s : FsCollection α),
      s.emitted.length ≤ (l.foldl (fun s _ => s.step directory json .deliver)
        s).emitted.length := by
    intro l
    induction l with
    | nil => exact fun s => Nat.le_refl _
    | cons e l ih => exact fun s => Nat.le_trans (length_le_emitted_step _) (ih _)
  have hfirst : s.emitted.length < (s.step directory json .deliver).emitted.length := by
    simp [step, hqueue, handleEvent, handleDelete, emit]
  intro heq
  rw [settle, hqueue, List.foldl_cons] at heq
  have hle := hrest queue (s.step directory json .deliver)
  rw [heq] at hle
  omega

theorem settle_call {c : Call α} (hqueue : s.queue = []) (h : s.call directory json c = .ok s') :
    (s'.settle directory json).emitted = s'.emitted ↔ s.Unechoed directory json c := by
  cases c with
  | create id content =>
    simp only [call, create] at h
    split at h
    · cases h
    · exact settle_set hqueue h
  | update id content =>
    simp only [call, update] at h
    split at h
    · exact settle_set hqueue h
    · cases h
  | delete id =>
    simp only [call, delete] at h
    split at h
    · obtain ⟨s₁, hs₁, rfl⟩ := except_map_ok.mp h
      unfold removeFile at hs₁
      split at hs₁
      · obtain rfl := Except.ok.inj hs₁
        exact iff_of_false (settle_unlink (by rw [hqueue]; rfl)) not_false
      · cases hs₁
    · cases h
  | rename id newId =>
    simp only [call, rename] at h
    split at h
    · cases h
    · split at h
      · cases h
      · obtain ⟨s₂, hs₂, rfl⟩ := except_map_ok.mp h
        unfold renameFile at hs₂
        split at hs₂
        · cases hs₂
        · split at hs₂
          next hpath =>
            obtain rfl := Except.ok.inj hs₂
            exact iff_of_true (by rw [settle, emit, hqueue]; rfl) hpath
          next hpath =>
            obtain ⟨s₁, hs₁, rfl⟩ := except_map_ok.mp hs₂
            unfold removeFile at hs₁
            split at hs₁
            · obtain rfl := Except.ok.inj hs₁
              exact iff_of_false (settle_unlink (by rw [hqueue]; rfl)) hpath
            · cases hs₁

/-- A call that writes the file of a plain id. -/
def Plain : Call α → Prop
  | .create id _ | .update id _ => id ≠ "" ∧ '/' ∉ id.toList
  | _ => False

theorem unechoed_of_plain {c : Call α} (h : Plain c) : s.Unechoed directory json c := by
  have hname : ∀ {id : String}, id ≠ "" ∧ '/' ∉ id.toList → Path.name (buildPath directory id) =
      id := by
    intro id hid
    have hpath := @Path.name_join id "json" hid.1 (by simpa using hid.2) (by decide) (by decide)
      directory
    rwa [String.append_assoc] at hpath
  cases c with
  | create id content => exact .inl (hname h)
  | update id content => exact .inl (hname h)
  | delete | rename => exact h.elim

end Steps

/-- In every run who only hears the events knows the ids. What is emitted is about items that
are there just before in the runs in which the watcher tells of a removed file only while its
item is there. The watcher does not repeat a call that was made when it had told all just when
the call writes a file that is found under its own name. -/
theorem events_tell_the_files (directory : String) (json : Json α) (files : OMap String Buffer)
    (events : List (Event α)) :
    let s := events.foldl (step directory json) (init files)
    replay s.emitted = {id | id ∈ s.ids} ∧
    (Along (step directory json) (EmitsPresent directory json) (init files) events ↔
      Along (step directory json) UnlinksPresent (init files) events) ∧
    (∀ c s', s.queue = [] → s.call directory json c = .ok s' →
      ((s'.settle directory json).emitted = s'.emitted ↔ s.Unechoed directory json c)) ∧
    ∀ c, Plain c → s.Unechoed directory json c := by
  intro s
  refine ⟨?_, along_iff (fun s e => emitsPresent_iff e) _ _, fun c s' => settle_call,
    fun c => unechoed_of_plain⟩
  have hrun : ∀ s : FsCollection α, replay s.emitted = {id | s.items.has id = true} →
      replay (events.foldl (step directory json) s).emitted =
        {id | (events.foldl (step directory json) s).items.has id = true} := by
    induction events with
    | nil => exact fun _ h => h
    | cons e events ih => exact fun s h => ih _ (replay_step h e)
  rw [hrun (init files) (by simp [init, replay, OMap.has])]
  ext id
  simp [ids, OMap.has_iff, OMap.mem_keys, s]

/-- A project that is deleted is told of as deleted again. -/
theorem deletion_is_repeated :
    ([.call (.create "house" [1]), .deliver, .call (.delete "house"), .deliver].foldl
        (step "/projects" ⟨id, some, fun _ => true⟩) (init ∅)).emitted =
      [.create "house" .internal, .delete "house" .internal, .delete "house" .external] ∧
    ([.call (.create "house" [1]), .deliver, .call (.delete "house")].foldl
        (step "/projects" ⟨id, some, fun _ => true⟩) (init ∅)).ids = [] := by
  decide

end FsCollection

end MylifeHome.Studio.Files
