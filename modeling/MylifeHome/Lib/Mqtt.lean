import MylifeHome.Lib.OMap
import MylifeHome.Lib.Text

/-!
# A message broker with retained messages

What one client of an MQTT broker sees of it: the filters it is subscribed to and
the retained messages. A retained message with an empty payload removes the one
that is kept for its topic. The kept messages are sent on a subscribe, with the
retain flag set; a message that arrives while subscribed has it cleared. Messages
carry a tag, which the broker only hands on.
-/
namespace MylifeHome.Lib.Mqtt

universe u

abbrev Payload := List UInt8

/-- Whether a topic, cut into levels, matches a filter. -/
def levelsMatch : List String → List String → Bool
  | [], [] => true
  | [], _ :: _ => false
  | f :: fs, ts =>
    if f = "#" then decide (fs = [])
    else
      match ts with
      | [] => false
      | t :: ts => (decide (f = "+") || decide (f = t)) && levelsMatch fs ts

def topicMatches (filter topic : String) : Bool :=
  levelsMatch (Text.split filter '/') (Text.split topic '/')

structure Message (τ : Type u) where
  topic : String
  payload : Payload
  retain : Bool
  tag : τ
  deriving DecidableEq

inductive Packet (τ : Type u) where
  | publish (message : Message τ)
  | subscribe (filters : List String)
  | unsubscribe (filters : List String)
  deriving DecidableEq

structure Broker (τ : Type u) where
  retained : OMap String (Message τ) := ∅
  filters : List String := []

variable {τ : Type u}

namespace Broker

variable (b : Broker τ)

def keep (m : Message τ) : Broker τ :=
  if m.retain then
    { b with retained := if m.payload = [] then b.retained.delete m.topic
        else b.retained.set m.topic m }
  else b

/-- The client gets a message on the topic. -/
def sends (topic : String) : Bool := b.filters.any (topicMatches · topic)

/-- The broker takes a packet of the client: its new state and what it sends back. -/
def process : Packet τ → Broker τ × List (Message τ)
  | .publish m => (b.keep m, if b.sends m.topic then [{ m with retain := false }] else [])
  | .subscribe filters =>
    ({ b with filters := b.filters ∪ filters },
      filters.flatMap fun f =>
        (b.retained.values.filter fun m => topicMatches f m.topic).map ({ · with retain := true }))
  | .unsubscribe filters =>
    ({ b with filters := b.filters.filter fun f => decide (f ∉ filters) }, [])

end Broker

namespace Packet

/-- The filters after the packet was taken. -/
def applyFilters (filters : List String) : Packet τ → List String
  | .publish _ => filters
  | .subscribe fs => filters ∪ fs
  | .unsubscribe fs => filters.filter fun f => decide (f ∉ fs)

def isPublish : Packet τ → Bool
  | .publish _ => true
  | _ => false

end Packet

variable {b : Broker τ} {p : Packet τ} {m : Message τ} {f t : String}

theorem filters_process : (b.process p).1.filters = p.applyFilters b.filters := by
  cases p with
  | publish m =>
    show (b.keep m).filters = b.filters
    unfold Broker.keep
    split <;> rfl
  | subscribe fs => rfl
  | unsubscribe fs => rfl

theorem mem_applyFilters_subscribe {filters fs : List String} :
    f ∈ (Packet.subscribe fs : Packet τ).applyFilters filters ↔ f ∈ filters ∨ f ∈ fs :=
  List.mem_union_iff

theorem mem_applyFilters_unsubscribe {filters fs : List String} :
    f ∈ (Packet.unsubscribe fs : Packet τ).applyFilters filters ↔ f ∈ filters ∧ f ∉ fs := by
  simp [Packet.applyFilters]

theorem mem_applyFilters_mono {p : Packet τ} {fs gs : List String} (h : f ∈ fs → f ∈ gs)
    (hf : f ∈ p.applyFilters fs) : f ∈ p.applyFilters gs := by
  cases p with
  | publish m => exact h hf
  | subscribe l => exact mem_applyFilters_subscribe.mpr ((mem_applyFilters_subscribe.mp hf).imp_left
    h)
  | unsubscribe l =>
    obtain ⟨hmem, hnot⟩ := mem_applyFilters_unsubscribe.mp hf
    exact mem_applyFilters_unsubscribe.mpr ⟨h hmem, hnot⟩

/-- A client that is subscribed to nothing gets nothing for its publications. -/
theorem process_publish_unsubscribed (h : b.filters = []) :
    b.process (.publish m) = (b.keep m, []) := by
  simp [Broker.process, Broker.sends, h]

theorem retained_keep_ne (ht : t ≠ m.topic) : (b.keep m).retained.get t = b.retained.get t := by
  unfold Broker.keep
  split
  · split
    · exact OMap.get_delete_ne _ ht
    · exact OMap.get_set_ne _ _ ht
  · rfl

/-! ## Matching -/

/-- A part of a topic that is neither cut nor a wildcard. -/
def Level (part : String) : Prop := '/' ∉ part.toList ∧ part ≠ "+" ∧ part ≠ "#"

instance (part : String) : Decidable (Level part) := inferInstanceAs (Decidable (_ ∧ _))

theorem levelsMatch_literal {fs ts : List String} (h : ∀ f ∈ fs, f ≠ "+" ∧ f ≠ "#") :
    levelsMatch fs ts = true ↔ ts = fs := by
  induction fs generalizing ts with
  | nil => cases ts <;> simp [levelsMatch]
  | cons f fs ih =>
    have hf := h f List.mem_cons_self
    cases ts with
    | nil => simp [levelsMatch, hf.2]
    | cons t ts =>
      simp only [levelsMatch, if_neg hf.2, decide_eq_false hf.1, Bool.false_or, Bool.and_eq_true,
        decide_eq_true_eq, ih (fun g hg => h g (List.mem_cons_of_mem _ hg)), List.cons.injEq]
      rw [eq_comm (a := f)]

theorem topicMatches_literal (h : ∀ l ∈ Text.split f '/', l ≠ "+" ∧ l ≠ "#") :
    topicMatches f t = true ↔ t = f := by
  rw [topicMatches, levelsMatch_literal h]
  exact ⟨fun hs => Text.split_inj hs, fun hs => by rw [hs]⟩

theorem sends_of_mem (hf : f ∈ b.filters) (ht : topicMatches f t = true) : b.sends t = true :=
  List.any_eq_true.mpr ⟨f, hf, ht⟩

end MylifeHome.Lib.Mqtt
