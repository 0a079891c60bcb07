import Mathlib.Data.List.Basic

/-!
# Gestures of a button

`InputManager` of the smart input: presses that follow each other closely make one
gesture, whose word of short and long presses is looked up when a pause ends it.
Times are in milliseconds.
-/
namespace MylifeHome.Plugins.SmartInput

/-- `endWait` is the time at which the timeout is due; `executed` are the stacks that
`executeEvents` looked up. -/
structure InputManager where
  eventStack : List Char := []
  endWait : Option Nat := none
  lastDown : Option Nat := none
  executed : List (List Char) := []

namespace InputManager

variable (m : InputManager)

/-- The timeout comes before what happens at a time at or after it. -/
def expire (now : Nat) : InputManager :=
  match m.endWait with
  | some due =>
    if due ≤ now then { m with
      executed := m.executed ++ [m.eventStack], eventStack := [], endWait := none } else m
  | none => m

def down (now : Nat) : InputManager := { m with endWait := none, lastDown := some now }

def up (now : Nat) : InputManager :=
  match m.lastDown with
  | none => { m with endWait := none, eventStack := [] }
  | some downTs =>
    { m with
      lastDown := none
      eventStack := m.eventStack ++ [if now - downTs < 500 then 's' else 'l']
      endWait := some (now + 300) }

/-- `action` of the component at a time. -/
def action (now : Nat) (arg : Bool) : InputManager := if arg then (m.expire now).down now
    else (m.expire now).up now

end InputManager

/-- The times at which the button goes down and up. -/
structure Press where
  down : Nat
  up : Nat

def Press.letter (p : Press) : Char := if p.up - p.down < 500 then 's' else 'l'

def play (m : InputManager) (ps : List Press) : InputManager :=
  ps.foldl (fun m p => (m.action p.down true).action p.up false) m

def lastUp (t : Nat) (ps : List Press) : Nat := ps.foldl (fun _ p => p.up) t

/-- The words of a gesture under way, whose last press went up at `t`, and of those that follow: a
press after a pause begins a new one. -/
def words (word : List Char) (t : Nat) : List Press → List (List Char)
  | [] => [word]
  | p :: ps => if t + 300 ≤ p.down then word :: words [p.letter] p.up ps
    else words (word ++ [p.letter]) p.up ps

/-- The manager waits for the end of a gesture. -/
def waiting (executed : List (List Char)) (eventStack : List Char) (t : Nat) : InputManager :=
  { executed, eventStack, endWait := some (t + 300) }

variable (executed : List (List Char)) (word : List Char) (t : Nat)

theorem play_press (p : Press) : play (waiting executed word t) [p] =
    if t + 300 ≤ p.down then waiting (executed ++ [word]) [p.letter] p.up
    else waiting executed (word ++ [p.letter]) p.up := by
  have hexpire : (waiting executed word t).expire p.down =
    if t + 300 ≤ p.down then { executed := executed ++ [word] } else waiting executed word t := rfl
  show (((waiting executed word t).expire p.down).down p.down).action p.up false = _
  rw [hexpire]
  split <;> rfl

theorem play_waiting (ps : List Press) (later : Nat) :
    (play (waiting executed word t) ps).expire (lastUp t ps + 300 + later) =
      { executed := executed ++ words word t ps } := by
  induction ps generalizing executed word t with
  | nil => simp [play, lastUp, waiting, InputManager.expire, words]
  | cons p ps ih =>
    have hcons : play (waiting executed word t) (p :: ps) =
      play (play (waiting executed word t) [p]) ps := rfl
    rw [hcons, play_press, words, show lastUp t (p :: ps) = lastUp p.up ps from rfl]
    split
    · rw [ih, List.append_assoc, List.singleton_append]
    · exact ih ..

theorem flatten_words (ps : List Press) :
    (words word t ps).flatten = word ++ ps.map Press.letter := by
  induction ps generalizing word t with
  | nil => simp [words]
  | cons p ps ih =>
    rw [words]
    split <;> simp [ih]

/-- The words that are looked up are those of the gestures, and no press is lost or counted
twice. -/
theorem gestures_are_recognised (p : Press) (ps : List Press) (later : Nat) :
    let m := (play {} (p :: ps)).expire (lastUp p.up ps + 300 + later)
    m.executed = words [p.letter] p.up ps ∧ m.executed.flatten = (p :: ps).map Press.letter ∧
      m.eventStack = [] := by
  have hplay : (play {} (p :: ps)).expire _ = _ := play_waiting [] [p.letter] p.up ps later
  rw [hplay]
  exact ⟨rfl, flatten_words [p.letter] p.up ps, rfl⟩

end MylifeHome.Plugins.SmartInput
