import MylifeHome.Lib.Buffer
import MylifeHome.Lib.Run
import Mathlib.Logic.Function.Basic

/-!
# Files sent in chunks

The browser sends a file to the deploy service in chunks, each with a call of its
own, and reads it back in the same way. Between the calls of one transfer come
those of others.
-/
namespace MylifeHome.Studio.Deploy.Files

open MylifeHome.Lib

abbrev Bytes := List UInt8

/-- The content of each file of the directory. -/
abbrev Disk := String → Option Bytes

inductive FsError where
  | noent
  deriving DecidableEq

inductive WriteType where
  | init
  | append

def write (disk : Disk) (id : String) (buffer : Bytes) : WriteType → Except FsError Disk
  | .init => .ok (Function.update disk id (some buffer))
  | .append =>
    match disk id with
    | some content => .ok (Function.update disk id (some (content ++ buffer)))
    | none => .error .noent

def read (disk : Disk) (id : String) (offset size : Nat) : Except FsError Bytes :=
  match disk id with
  | some content => .ok (Buffer.slice content offset size)
  | none => .error .noent

def CHUNK_SIZE : Nat := 4 * 1024 * 1024

/-- A call of `uploadFileImpl` before a round of its loop. -/
structure Upload where
  file : Bytes
  offset : Nat := 0
  failed : Bool := false

structure World where
  disk : Disk
  uploads : String → Option Upload := fun _ => none

inductive Event where
  | upload (name : String) (file : Bytes)
  | round (name : String)
  | other (name : String) (content : Option Bytes)

namespace World

variable (w : World)

/-- A round of the loop of an upload. -/
def round (name : String) (u : Upload) : World :=
  if u.failed = false ∧ u.offset < u.file.length then
    let chunkSize := min (u.file.length - u.offset) CHUNK_SIZE
    let chunk := Buffer.slice u.file u.offset chunkSize
    match write w.disk name chunk (if u.offset = 0 then .init else .append) with
    | .ok disk =>
      { disk, uploads := Function.update w.uploads name (some { u with
        offset := u.offset + chunkSize }) }
    | .error _ => { w with
      uploads := Function.update w.uploads name (some { u with failed := true }) }
  else w

def step : Event → World
  | .upload name file => { w with uploads := Function.update w.uploads name (some { file }) }
  | .round name => (w.uploads name).elim w (w.round name)
  | .other name content => { w with disk := Function.update w.disk name content }

end World

/-- A name is uploaded once, and no one else changes its file from then on. -/
def Enabled (w : World) : Event → Prop
  | .upload name _ => (w.uploads name).isNone
  | .round _ => True
  | .other name _ => (w.uploads name).isNone

/-- `downloadFileImpl` from an offset on, with the disk at each call. -/
def download (disks : Nat → Disk) (name : String) (size offset : Nat) : Except FsError Bytes :=
  if offset < size then do
    let chunkSize := min (size - offset) CHUNK_SIZE
    let buffer ← read (disks offset) name offset chunkSize
    let buffers ← download disks name size (offset + chunkSize)
    .ok (buffer ++ buffers)
  else .ok []
termination_by size - offset
decreasing_by unfold CHUNK_SIZE; omega

/-- The file on disk is what was sent of it. -/
def Sent (w : World) (name : String) (u : Upload) : Prop :=
  u.failed = false ∧ (0 < u.offset → w.disk name = some (u.file.take u.offset))

def Good (w : World) : Prop := ∀ name u, w.uploads name = some u → Sent w name u

theorem take_add_slice (l : Bytes) (i n : Nat) :
    l.take i ++ Buffer.slice l i n = l.take (i + n) := by
  rw [Buffer.slice, List.take_add]

theorem write_chunk {w : World} {name : String} {u : Upload} (h : Sent w name u) (n : Nat) :
    write w.disk name (Buffer.slice u.file u.offset n) (if u.offset = 0 then .init else .append) =
      .ok (Function.update w.disk name (some (u.file.take (u.offset + n)))) := by
  rw [← take_add_slice]
  split
  next h0 => simp [write, h0]
  next h0 => simp [write, h.2 (Nat.pos_of_ne_zero h0)]

theorem Good.step {w : World} (hw : Good w) {e : Event} (he : Enabled w e) : Good (w.step e) := by
  intro name u hu
  cases e with
  | upload name' file =>
    by_cases hn : name = name'
    · simp only [World.step, hn, Function.update_self, Option.some.injEq] at hu
      simp [Sent, ← hu]
    · exact hw name u (by simpa [World.step, hn] using hu)
  | round name' =>
    cases hu' : w.uploads name' with
    | none =>
      rw [World.step, hu'] at hu ⊢
      exact hw name u hu
    | some u' =>
      have hsent := hw name' u' hu'
      rw [World.step, hu'] at hu ⊢
      simp only [Option.elim_some, World.round, write_chunk hsent] at hu ⊢
      split at hu
      next hlt =>
        by_cases hn : name = name'
        · simp only [hn, Function.update_self, Option.some.injEq] at hu ⊢
          simp [Sent, hlt, ← hu]
        · simpa [Sent, hlt, hn] using hw name u (by simpa [hn] using hu)
      next hlt => rw [if_neg hlt]; exact hw name u hu
  | other name' content =>
    have hn : name ≠ name' := by
      rintro rfl
      simp [Enabled, show w.uploads name = some u from hu] at he
    simpa [Sent, World.step, hn] using hw name u hu

theorem download_eq {disks : Nat → Disk} {name : String} {file : Bytes}
    (h : ∀ i, disks i name = some file)
    (offset : Nat) : download disks name file.length offset = .ok (file.drop offset) := by
  rw [download]
  split
  · have ih := download_eq h (offset + min (file.length - offset) CHUNK_SIZE)
    simp only [read, h, ih, bind, Except.bind]
    rw [Buffer.slice, ← List.drop_drop, List.take_append_drop]
  next hle => rw [List.drop_of_length_le (by omega)]
termination_by file.length - offset
decreasing_by unfold CHUNK_SIZE; omega

/-- Whatever others do in between, no round of an upload fails, each takes it a chunk further, and
when it is complete the file is read back as it was. An empty file is never written. -/
theorem uploaded_file_comes_back (disk : Disk) (es : List Event)
    (h : Along World.step Enabled { disk } es) {name : String} {u : Upload}
    (hu : (es.foldl World.step { disk }).uploads name = some u) :
    (u.offset < u.file.length → ((es.foldl World.step { disk }).step (.round name)).uploads name =
      some { u with offset := min (u.offset + CHUNK_SIZE) u.file.length }) ∧
    (u.file ≠ [] → u.file.length ≤ u.offset → ∀ disks : Nat → Disk,
      (∀ i, disks i name = (es.foldl World.step { disk }).disk name) →
        download disks name u.file.length 0 = .ok u.file) := by
  have hsent := h.invariant (P := Good) (fun _ _ hnone => by cases hnone)
    (fun w e hw he => hw.step he) name u hu
  constructor
  · intro hlt
    rw [World.step, hu]
    simp only [Option.elim_some, World.round, write_chunk hsent, if_pos (And.intro hsent.1 hlt),
      Function.update_self]
    congr 2
    omega
  · intro hne hdone disks hdisks
    refine download_eq (fun i => ?_) 0
    rw [hdisks, hsent.2 (lt_of_lt_of_le (List.length_pos_iff.mpr hne) hdone),
      List.take_of_length_le hdone]

/-- Two rounds send a file of one byte more than a chunk, after another file was removed. -/
theorem small_file_comes_back : ∃ file : Bytes, file.length = CHUNK_SIZE + 1 ∧
    let w := [Event.upload "a" file, .other "b" none, .round "a", .round "a"].foldl World.step
      { disk := fun _ => some [0] }
    w.uploads "a" = some { file, offset := CHUNK_SIZE + 1 } ∧
      download (fun _ => w.disk) "a" file.length 0 = .ok file := by
  obtain ⟨file, hlength⟩ : ∃ file : Bytes, file.length = CHUNK_SIZE + 1 :=
    ⟨List.replicate (CHUNK_SIZE + 1) 7, List.length_replicate⟩
  have hchunk : 0 < CHUNK_SIZE := by decide
  have hfirst := (@uploaded_file_comes_back (fun _ => some [0]) [.upload "a" file, .other "b" none]
    ⟨rfl, rfl, trivial⟩ "a" { file } rfl).1 (by dsimp only; omega)
  have hsecond := (@uploaded_file_comes_back (fun _ => some [0])
    [.upload "a" file, .other "b" none, .round "a"] ⟨rfl, rfl, trivial, trivial⟩ "a" _ hfirst).1
    (by dsimp only; omega)
  have hdone := hsecond.trans (congrArg (fun offset => some { file, offset : Upload })
    (show min (min (0 + CHUNK_SIZE) file.length + CHUNK_SIZE) file.length =
      CHUNK_SIZE + 1 by omega))
  exact ⟨file, hlength, hdone, (@uploaded_file_comes_back (fun _ => some [0])
    [.upload "a" file, .other "b" none, .round "a", .round "a"] ⟨rfl, rfl, trivial, trivial,
      trivial⟩ "a" _
    hdone).2 (show file ≠ [] from List.ne_nil_of_length_pos (by omega)) (by dsimp only; omega) _
      fun _ => rfl⟩

end MylifeHome.Studio.Deploy.Files
