import MylifeHome.Lib.Toggles
import Mathlib.Data.List.Induction

/-!
# Pinned recipes

The pins are kept in a file, which a call of `pin` writes and which others may
change; the watcher reads it some time after each change.
-/
namespace MylifeHome.Studio.Deploy

open MylifeHome.Lib

/-- The file is kept as `JSON.parse` reads it, `none` if it cannot be read. -/
structure Pins where
  pins : Toggles String := {}
  file : Option (List String) := none

namespace Pins

inductive Event where
  | pin (id : String) (value : Bool)
  | edited (file : Option (List String))
  | changed
  | unlinked

variable (s : Pins)

def handleNewContent (content : List String) : Pins :=
  let deleted := s.pins.members.filter fun id => decide (id ∉ content)
  { s with pins := (s.pins.turnAll false deleted).turnAll true content }

/-- `changed` stands for the `add` and `change` events of the watcher; an error while reading is
logged only. -/
def step : Event → Pins
  | .pin id value =>
    if decide (id ∈ s.pins.members) = value then s
    else { pins := s.pins.turn id value, file := some (s.pins.turn id value).members }
  | .edited file => { s with file }
  | .changed =>
    match s.file with
    | some content => s.handleNewContent content
    | none => s
  | .unlinked => s.handleNewContent []

variable {s}

theorem mem_handleNewContent {content : List String} {id : String} :
    id ∈ (s.handleNewContent content).pins.members ↔ id ∈ content := by
  simp only [handleNewContent, Toggles.mem_turnAll, List.mem_filter, decide_eq_true_eq]
  by_cases hc : id ∈ content <;> by_cases hm : id ∈ s.pins.members <;> simp [hc, hm]

theorem handleNewContent_self : s.handleNewContent s.pins.members = s := by
  have h : s.pins.members.filter (fun id => decide (id ∉ s.pins.members)) = [] :=
    List.filter_eq_nil_iff.mpr fun id hid => by simp [hid]
  rw [handleNewContent, h]
  show { s with pins := s.pins.turnAll true s.pins.members } = s
  rw [Toggles.turnAll_eq_self (by simp)]

theorem faithful_step (h : s.pins.Faithful) (e : Event) : (s.step e).pins.Faithful := by
  have hnew : ∀ content, (s.handleNewContent content).pins.Faithful :=
    fun _ => (h.turnAll false _).turnAll true _
  cases e with
  | pin id value =>
    rw [step]
    split
    · exact h
    · exact h.turn id value
  | edited file => exact h
  | changed =>
    rw [step]
    split
    · exact hnew _
    · exact h
  | unlinked => exact hnew []

/-- The `pin` events tell the pins; a file that was read is what is pinned; and the file that `pin`
writes brings no further event. -/
theorem pins_follow_file (es : List Event) :
    let s := es.foldl step {}
    s.pins.Faithful ∧
      (∀ content, s.file = some content → ∀ id, id ∈ (s.step .changed).pins.members ↔
        id ∈ content) ∧
      ∀ id value, decide (id ∈ s.pins.members) ≠ value → (s.step (.pin id value)).step .changed =
        s.step (.pin id value) := by
  refine ⟨?_, ?_, ?_⟩
  · induction es using List.reverseRecOn with
    | nil => exact Toggles.faithful_empty
    | append_singleton es e ih =>
      rw [List.foldl_concat]
      exact faithful_step ih e
  · intro content hfile id
    simp only [step, hfile]
    exact mem_handleNewContent
  · intro id value hne
    simp only [step, if_neg hne]
    exact handleNewContent_self

end Pins

end MylifeHome.Studio.Deploy
