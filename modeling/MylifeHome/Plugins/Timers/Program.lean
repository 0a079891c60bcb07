import MylifeHome.Lib.Effect
import MylifeHome.Lib.Text
import Mathlib.Data.Rat.Floor

/-!
# The programs of the smart timers

`Program` of the timers plugin: a text is read into steps, which set outputs or wait.
Steps run on until a wait, whose timer goes on with the next one. A second timer shows the
progress. What the runtime does is explicit: the pending timers, the instant of each call,
and for each call of `setOutput` whether it throws or calls `interrupt()`.
-/
namespace MylifeHome.Plugins.Timers

open MylifeHome.Lib

/-! ## The text of a program -/

/-- What the code asks the runtime about a number: integers are exact below 2^53. -/
structure Numbers where
  round : Nat → Nat
  printedLength : Nat → Nat
  round_eq : ∀ n < 2 ^ 53, round n = n
  printedLength_eq : ∀ n < 2 ^ 53, printedLength n = (Nat.toDigits 10 n).length

/-- Numbers that are exact, and printed in full. -/
def exactNumbers : Numbers where
  round n := n
  printedLength n := (Nat.toDigits 10 n).length
  round_eq _ _ := rfl
  printedLength_eq _ _ := rfl

/-- A step; the delay of a wait is a number of milliseconds or NaN. -/
inductive Step (Value : Type) where
  | wait (delay : Option Nat)
  | setOutput (output : Fin 10) (value : Value)
  | setAllOutputs (value : Value)
  deriving DecidableEq

inductive ParseError where
  | invalidStep (part : List Char)
  | invalidOutput (value : List Char)
  | waitNotAllowed
  | invalidWait (arg : List Char)
  | invalidOperation (op : List Char)
  deriving DecidableEq

/-- The names that a plain object has from its prototype. -/
def prototypeNames : List String :=
  ["constructor", "__defineGetter__", "__defineSetter__", "hasOwnProperty", "__lookupGetter__",
    "__lookupSetter__",
    "isPrototypeOf", "propertyIsEnumerable", "toString", "valueOf", "__proto__", "toLocaleString"]

/-- `TIMER_SUFFIXES[suffix]`; a property of the prototype is there, but not a number. -/
def timerSuffix (suffix : List Char) : Option (Option Nat) :=
  if suffix = ['s'] then some (some 1000)
  else if suffix = ['m'] then some (some (60 * 1000))
  else if suffix = ['h'] then some (some (60 * 60 * 1000))
  else if String.ofList suffix ∈ prototypeNames then some none
  else none

section Parse

variable {Value : Type} (numbers : Numbers) (parseOutputValue : List Char → Except ParseError Value)

/-- The constructor of `WaitStep`. A number of an argument is not negative, since steps are split at
`-`. -/
def waitDelay (arg : List Char) : Except ParseError (Option Nat) :=
  match Text.parseNumber arg with
  | none => .error (.invalidWait arg)
  | some n =>
    let delay := numbers.round n.toNat
    match arg.drop (numbers.printedLength delay) with
    | [] => .ok (some delay)
    | suffix =>
      match timerSuffix suffix with
      | none => .error (.invalidWait arg)
      | some mul => .ok (mul.map fun mul => numbers.round (delay * mul))

/-- `OUTPUTS.get(op)` -/
def outputKey : List Char → Option (Fin 10)
  | ['o', c] => if c.isDigit then some (Fin.ofNat 10 (c.toNat - 48)) else none
  | _ => none

def createStep (canWait : Bool) (op arg : List Char) : Except ParseError (Step Value) :=
  match outputKey op with
  | some output => (parseOutputValue arg).map (.setOutput output)
  | none =>
    if op = ['o', '*'] then (parseOutputValue arg).map .setAllOutputs
    else if op = ['w'] then
      if canWait then (waitDelay numbers arg).map .wait else .error .waitNotAllowed
    else .error (.invalidOperation op)

/-- `source.split(/(?:\|| )+/)`: empty parts are left at the two ends only. -/
def splitParts (source : List Char) : List (List Char) :=
  match source.splitOnP fun c => c = '|' || c = ' ' with
  | [] => []
  | first :: rest => first :: (rest.dropLast.filter (· ≠ []) ++ rest.getLast?.toList)

/-- `parse`: an invalid program is empty. -/
def parse (canWait : Bool) (source : List Char) : List (Step Value) :=
  let steps := (splitParts source).mapM fun part =>
    match part.splitOn '-' with
    | [op, arg] => createStep numbers parseOutputValue canWait op arg
    | _ => .error (.invalidStep part)
  match steps with
  | .ok steps => steps
  | .error _ => []

end Parse

/-- `PercentProgram.parseOutputValue` -/
def percentValue (value : List Char) : Except ParseError Nat :=
  match Text.parseNumber value with
  | some n => if n < 0 ∨ 100 < n then .error (.invalidOutput value) else .ok n.toNat
  | none => .error (.invalidOutput value)

/-! ## The state of a program -/

inductive Callback where
  | step (index : Nat)
  | progress
  deriving DecidableEq

structure Timer where
  id : Nat
  due : ℚ
  callback : Callback
  deriving DecidableEq

/-- The calls of the abstract methods; a percentage is an integer or NaN. -/
inductive Notification (Value : Type) where
  | output (output : Fin 10) (value : Value)
  | progress (percent : Option Int) (progressTime : ℚ)
  | running (value : Bool)
  deriving DecidableEq

/-- What a call of `setOutput` does; an `interrupt()` that it makes may be caught by its maker. -/
inductive Behaviour where
  | returns
  | throws
  | interrupts (caught : Bool)
  deriving DecidableEq

inductive RunError where
  | output
  | cannotInterrupt
  | wrongValue
  | mixedTypes
  deriving DecidableEq

/-- A program with the timer of each wait step, the timers of it that are pending, the number of
calls of `setOutput` and all notifications so far. -/
structure Program (Value : Type) where
  steps : List (Step Value)
  totalWait : Option Nat
  currentStepIndex : Option Nat := none
  startTime : Option ℚ := none
  currentProgressTimer : Option Nat := none
  stepTimers : Nat → Option Nat := fun _ => none
  pending : List Timer := []
  nextTimer : Nat := 0
  outputCalls : Nat := 0
  notified : List (Notification Value) := []

section Methods

variable {Value : Type}

/-- The delays of the wait steps, added up. -/
def totalDelay (numbers : Numbers) (steps : List (Step Value)) : Option Nat :=
  steps.foldl (fun total step =>
    match step with
    | .wait delay => do numbers.round ((← total) + (← delay))
    | _ => total) (some 0)

namespace Program

def currentStep (p : Program Value) : Option (Step Value) := p.currentStepIndex.bind (p.steps[·]?)

def running (p : Program Value) : Bool := p.currentStep.isSome

/-- The index of the step that is next. -/
def nextIndex (p : Program Value) : Nat := (p.currentStepIndex.map (· + 1)).getD 0

def notify (p : Program Value) (l : List (Notification Value)) : Program Value :=
  { p with notified := p.notified ++ l }

def clearTimeout (p : Program Value) (id : Option Nat) : Program Value :=
  { p with pending := p.pending.filter fun t => some t.id ≠ id }

end Program

abbrev Run (Value : Type) := EStateM RunError (Program Value)

/-- `try … catch`: what was done before an error stays. -/
def attempt (body handler : Run Value PUnit) : Run Value PUnit := fun p =>
  match body.run p with
  | .ok a p' => .ok a p'
  | .error _ p' => handler.run p'

theorem attempt_run (body handler : Run Value PUnit) (p : Program Value) :
    (attempt body handler).run p =
    match body.run p with
    | .ok a p' => .ok a p'
    | .error _ p' => handler.run p' := rfl

/-- The delay that `setTimeout` goes by. -/
def timeoutDelay : Option Nat → Nat
  | some delay => if 1 ≤ delay ∧ delay ≤ 2 ^ 31 - 1 then delay else 1
  | none => 1

def setTimeout (now : ℚ) (delay : Option Nat) (callback : Callback) : Run Value Nat := do
  let p ← get
  let timer : Timer := { id := p.nextTimer, due := now + timeoutDelay delay, callback }
  set { p with nextTimer := p.nextTimer + 1, pending := p.pending ++ [timer] }
  return timer.id

/-- A value of the type `range[0;100]`. -/
def validPercent : Option Int → Bool
  | some percent => 0 ≤ percent && percent ≤ 100
  | none => false

/-- The states `progressTime` and `progress` are assigned; the second has the type
`range[0;100]`. -/
def setProgress (percent : Option Int) (progressTime : ℚ) : Run Value PUnit := do
  modify (·.notify [.progress percent progressTime])
  throwIf (!validPercent percent) RunError.wrongValue

def Step.interrupt (index : Nat) : Step Value → Run Value PUnit
  | .wait _ => modify fun p : Program Value =>
    { p.clearTimeout (p.stepTimers index) with
      stepTimers := Function.update p.stepTimers index none }
  | _ => throw .cannotInterrupt

/-- `currentStep?.interrupt()` -/
def interruptStep : Run Value PUnit := do
  let p ← get
  match p.currentStepIndex, p.currentStep with
  | some index, some step => step.interrupt index
  | _, _ => pure ⟨⟩

def reset : Run Value PUnit := do
  interruptStep
  modify fun p =>
    { p.clearTimeout p.currentProgressTimer with
      currentStepIndex := none, currentProgressTimer := none, startTime := none }
  setProgress (some 0) 0
  modify (·.notify [.running false])

def interrupt : Run Value PUnit := do
  if (← get).running then reset

variable (behave : Nat → Behaviour)

def setOutput (output : Fin 10) (value : Value) : Run Value PUnit := do
  let p ← get
  set { p.notify [.output output value] with outputCalls := p.outputCalls + 1 }
  match behave p.outputCalls with
  | .returns => pure ⟨⟩
  | .throws => throw .output
  | .interrupts false => interrupt
  | .interrupts true => attempt interrupt (pure ⟨⟩)

/-- The outputs that a step sets. -/
def Step.outputs : Step Value → List (Fin 10 × Value)
  | .wait _ => []
  | .setOutput output value => [(output, value)]
  | .setAllOutputs value => (List.finRange 10).map (·, value)

/-- `execute`; `done` goes on with the next step. -/
def Step.execute (now : ℚ) (index : Nat) (done : Run Value PUnit) : Step Value → Run Value PUnit
  | .wait delay => do
    let id ← setTimeout now delay (.step index)
    modify fun p => { p with stepTimers := Function.update p.stepTimers index (some id) }
  | step => do
    forEach step.outputs fun e => Timers.setOutput behave e.1 e.2
    done

/-- `executeStep` with the steps that are left. -/
def executeSteps (now : ℚ) : List (Step Value) → Run Value PUnit
  | [] => attempt (do
      modify fun p => { p with currentStepIndex := some p.nextIndex }
      reset) reset
  | step :: rest => attempt (do
      let index := (← get).nextIndex
      modify fun p => { p with currentStepIndex := some index }
      modify (·.notify [.running true])
      step.execute behave now index (executeSteps now rest)) reset

def executeStep (now : ℚ) : Run Value PUnit := do
  let p ← get
  executeSteps behave now (p.steps.drop p.nextIndex)

/-- `Math.round(elapsed / total * 100)` -/
def percentOf (elapsed : ℚ) (total : Nat) : Int := ⌊elapsed / total * 100 + 1 / 2⌋

def executeProgress (now : ℚ) : Run Value PUnit := do
  let p ← get
  if p.totalWait = some 0 then
    setProgress (some 0) 0
  else
    match p.startTime with
    | none => throw .mixedTypes
    | some startTime =>
      let progressTime := now - startTime
      setProgress (p.totalWait.map (percentOf progressTime)) (progressTime / 1000)
      let id ← setTimeout now (some 1000) .progress
      modify fun p => { p with currentProgressTimer := some id }

/-- `run`, which reads the clock again once the steps are done. -/
def run (now later : ℚ) : Run Value PUnit := do
  modify fun p => { p with currentStepIndex := none, startTime := some now }
  executeStep behave now
  executeProgress later

/-- A timer fires. -/
def fire (now : ℚ) (timer : Timer) : Run Value PUnit := do
  modify (·.clearTimeout (some timer.id))
  match timer.callback with
  | .step index => do
    modify fun p => { p with stepTimers := Function.update p.stepTimers index none }
    executeStep behave now
  | .progress => executeProgress now

end Methods

/-- A program after `setup`. -/
def setup {Value : Type} (numbers : Numbers) (steps : List (Step Value)) : Program Value :=
  after reset { steps, totalWait := totalDelay numbers steps }

end MylifeHome.Plugins.Timers
