import MylifeHome.Bus.Encoding
import MylifeHome.Lib.Toggles

/-!
# Presence of instances

`Presence` with tracking: the instances that said on `<name>/online` that they are
online, forgotten when the connection changes.
-/
namespace MylifeHome.Bus

open MylifeHome.Lib MylifeHome.Lib.Mqtt

structure Presence where
  instanceName : String
  onlineInstances : Toggles String := {}

namespace Presence

inductive Event where
  | onlineChange
  | message (topic : String) (payload : Payload)

/-- The instance of an `online` topic. -/
def onlineTopic (topic : String) : Option String :=
  match Text.split topic '/' with
  | instanceName :: domain :: _ => if domain = "online" then some instanceName else none
  | _ => none

/-- An empty payload is the deletion of the retained message. -/
def readOnline (payload : Payload) : Bool :=
  decide (0 < payload.length) && decide (readBool payload = some true)

def step (p : Presence) : Event → Presence
  | .onlineChange =>
    { p with onlineInstances := p.onlineInstances.turnAll false p.onlineInstances.members }
  | .message topic payload =>
    match onlineTopic topic with
    | none => p
    | some instanceName =>
      if instanceName = p.instanceName then p
      else { p with onlineInstances := p.onlineInstances.turn instanceName (readOnline payload) }

/-- What was last said about an instance since the connection changed. -/
def said (name : String) (last : Bool) : Event → Bool
  | .onlineChange => false
  | .message topic payload => if onlineTopic topic = some name then readOnline payload else last

theorem step_instanceName (p : Presence) (e : Event) :
    (step p e).instanceName = p.instanceName := by
  rw [step.eq_def]
  repeat' split
  all_goals rfl

theorem faithful_step {p : Presence} (h : p.onlineInstances.Faithful) (e : Event) :
    (step p e).onlineInstances.Faithful := by
  rw [step.eq_def]
  repeat' split
  · exact h.turnAll false _
  · exact h
  · exact h
  · exact h.turn _ _

theorem mem_step {p : Presence} {name : String} {last : Bool}
    (h : name ∈ p.onlineInstances.members ↔ name ≠ p.instanceName ∧ last = true) (e : Event) :
    name ∈ (step p e).onlineInstances.members ↔ name ≠ p.instanceName ∧
      said name last e = true := by
  cases e with
  | onlineChange => simp [step, said, Toggles.mem_turnAll]
  | message topic payload =>
    cases ht : onlineTopic topic with
    | none => simpa [step, said, ht] using h
    | some instanceName =>
      simp only [step, said, ht, Option.some.injEq]
      split
      next hself =>
        rw [h]
        by_cases hn : instanceName = name
        · simp [← hn, hself]
        · simp [hn]
      next hself =>
        rw [Toggles.mem_turn, h]
        by_cases hn : name = instanceName
        · simp [hn, hself]
        · simp [hn, Ne.symm hn]

/-- The instances online are the others that said so last, and the `instanceChange` events tell
them. -/
theorem presence_follows_messages (self : String) (es : List Event) :
    let p := es.foldl step { instanceName := self }
    p.onlineInstances.Faithful ∧
      ∀ name, name ∈ p.onlineInstances.members ↔ name ≠ self ∧ es.foldl (said name) false =
        true := by
  suffices h : (es.foldl step { instanceName := self }).instanceName = self ∧ _ from h.2
  induction es using List.reverseRecOn with
  | nil => exact ⟨rfl, Toggles.faithful_empty, by simp⟩
  | append_singleton es e ih =>
    obtain ⟨hself, hf, hm⟩ := ih
    simp only [List.foldl_concat]
    refine ⟨(step_instanceName _ e).trans hself, faithful_step hf e, fun name => ?_⟩
    have h := mem_step (by rw [hself]; exact hm name) e
    rwa [hself] at h

end Presence

end MylifeHome.Bus
