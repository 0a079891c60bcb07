import MylifeHome.Plugins.Timers.Runs
import Mathlib.Data.List.TakeWhile

/-!
# The smart timers

`SmartTimerPercent` and `SmartTimerBinary` differ in the values of their outputs only. Three
programs share the outputs of the component: one for its start, one that is triggered, and
one that runs whenever the triggered one is interrupted. The history of the component holds
the outputs with the program that sets them, and where a run starts or is interrupted.
-/
namespace MylifeHome.Plugins.Timers

open MylifeHome.Lib EStateM

variable {Value : Type}

/-! ## The component -/

inductive Which where
  | init
  | trigger
  | cancel
  deriving DecidableEq

inductive Entry (Value : Type) where
  | started
  | interrupted
  | output (which : Which) (output : Fin 10 × Value)
  deriving DecidableEq

structure SmartTimer (Value : Type) where
  program : Which → Program Value
  history : List (Entry Value) := []

/-- When a `run()` starts, and when it is done with its steps. -/
structure Span where
  now : ℚ
  later : ℚ

namespace SmartTimer

/-- A program is changed; its new outputs are those of the component. -/
def record (t : SmartTimer Value) (which : Which) (q : Program Value) : SmartTimer Value where
  program := Function.update t.program which q
  history := t.history ++ ((Notification.outputs q.notified).drop
    (Notification.outputs (t.program which).notified).length).map (.output which)

def mark (t : SmartTimer Value) (entry : Entry Value) : SmartTimer Value :=
  { t with history := t.history ++ [entry] }

end SmartTimer

abbrev Action (Value α : Type) := EStateM RunError (SmartTimer Value) α

/-- A method of one of the programs. -/
def on (which : Which) (method : Run Value PUnit) : Action Value PUnit := fun t =>
  match method.run (t.program which) with
  | .ok _ q => .ok ⟨⟩ (t.record which q)
  | .error error q => .error error (t.record which q)

/-- `run()` with outputs that neither throw nor call back -/
def runProgram (span : Span) : Run Value PUnit := run (fun _ => .returns) span.now span.later

def clear (clearing : Span) : Action Value PUnit := do
  if ((← get).program .trigger).running then
    modify (·.mark .interrupted)
    on .trigger interrupt
    on .cancel (runProgram clearing)

def trigger (clearing running : Span) (arg : Bool) : Action Value PUnit :=
  if !arg then pure ⟨⟩ else do
    clear clearing
    modify (·.mark .started)
    on .trigger (runProgram running)

def cancel (clearing : Span) (arg : Bool) : Action Value PUnit :=
  if !arg then pure ⟨⟩ else clear clearing

def toggle (clearing running : Span) (arg : Bool) : Action Value PUnit := do
  if ((← get).program .trigger).running then cancel clearing arg else trigger clearing running arg

def destroy (clearing : Span) : Action Value PUnit := clear clearing

/-- A pending timer of one of the programs fires. -/
def expire (which : Which) (now : ℚ) (timer : Timer) : Action Value PUnit := do
  if timer ∈ ((← get).program which).pending then on which (fire (fun _ => .returns) now timer)

structure Config where
  initProgram : List Char
  triggerProgram : List Char
  cancelProgram : List Char

def Config.source (config : Config) : Which → List Char
  | .init => config.initProgram
  | .trigger => config.triggerProgram
  | .cancel => config.cancelProgram

/-- Only the triggered program may wait. -/
def Config.steps (numbers : Numbers) (parseOutputValue : List Char → Except ParseError Value)
    (config : Config) (which : Which) :
    List (Step Value) :=
  parse numbers parseOutputValue (which = .trigger) (config.source which)

/-- The constructor. -/
def create (numbers : Numbers) (parseOutputValue : List Char → Except ParseError Value)
    (config : Config) (running : Span) :
    SmartTimer Value :=
  after (on .init (runProgram running))
    { program := fun which => setup numbers (config.steps numbers parseOutputValue which) }

inductive TimerEvent where
  | trigger (clearing running : Span) (arg : Bool)
  | cancel (clearing : Span) (arg : Bool)
  | toggle (clearing running : Span) (arg : Bool)
  | destroy (clearing : Span)
  | expire (which : Which) (now : ℚ) (timer : Timer)

def TimerEvent.exec : TimerEvent → Action Value PUnit
  | .trigger clearing running arg => Timers.trigger clearing running arg
  | .cancel clearing arg => Timers.cancel clearing arg
  | .toggle clearing running arg => Timers.toggle clearing running arg
  | .destroy clearing => Timers.destroy clearing
  | .expire which now timer => Timers.expire which now timer

def SmartTimer.step (t : SmartTimer Value) (e : TimerEvent) : SmartTimer Value := after e.exec t

/-! ## What the history has to be -/

/-- The outputs of all steps. -/
def outputsOf (steps : List (Step Value)) : List (Fin 10 × Value) := steps.flatMap Step.outputs

def entries (which : Which) (steps : List (Step Value)) : List (Entry Value) :=
  (outputsOf steps).map (.output which)

/-- The outputs of the first program, then one run of the triggered program after the other. A run
sets the outputs of all its steps in order, or it is interrupted after some of them and the outputs
of the cancel program follow. -/
inductive Runs (steps : Which → List (Step Value)) : List (Entry Value) → Prop where
  | init : Runs steps (entries .init (steps .init))
  | completed {history : List (Entry Value)} (h : Runs steps history) :
    Runs steps (history ++ .started :: entries .trigger (steps .trigger))
  | interrupted {history : List (Entry Value)} (h : Runs steps history) (k : Nat) :
    Runs steps (history ++ .started :: entries .trigger ((steps .trigger).take k) ++
      .interrupted :: entries .cancel (steps .cancel))

/-- The timers that are pending. -/
def SmartTimer.pending (t : SmartTimer Value) : List Timer :=
  (t.program .init).pending ++ (t.program .trigger).pending ++ (t.program .cancel).pending

def SmartTimer.running (t : SmartTimer Value) : Bool :=
  (t.program .init).running || (t.program .trigger).running || (t.program .cancel).running

/-- The wait at step `i` is over: the outputs up to the next wait are set, where the program waits
again, or those up to the end, and nothing runs any more. -/
structure Continues (steps : Which → List (Step Value)) (i : Nat) (t t' : SmartTimer Value) :
    Prop where
  outputs : t'.history = t.history ++
    entries .trigger (((steps .trigger).drop (i + 1)).takeWhile Step.isSync)
  state : if ((steps .trigger).drop (i + 1)).all Step.isSync then t'.running = false
    else t'.running = true ∧ (t'.program .trigger).currentStepIndex =
      some (i + 1 + (((steps .trigger).drop (i + 1)).takeWhile Step.isSync).length)

/-- While the triggered program runs, a timer is pending for the wait that it is at, and the program
goes on when that timer fires. -/
structure NoOverlap (steps : Which → List (Step Value)) (t : SmartTimer Value) : Prop where
  waits : (t.pending.filter (·.callback ≠ .progress)).length ≤ 1
  progresses : (t.pending.filter (·.callback = .progress)).length ≤ 1
  rest : t.running = false → t.pending = [] ∧ Runs steps t.history
  run : t.running = true → ∃ i history, (t.program .trigger).currentStepIndex = some i ∧
    Runs steps history ∧
    t.history = history ++ .started :: entries .trigger ((steps .trigger).take i) ∧
    (∃ timer ∈ (t.program .trigger).pending, timer.callback = .step i) ∧
    ∀ now, ∀ timer ∈ (t.program .trigger).pending, timer.callback ≠ .progress →
      Continues steps i t (t.step (.expire .trigger now timer))

/-! ## One event -/

variable {steps : Which → List (Step Value)} {t : SmartTimer Value} {which : Which}

theorem on_run (which : Which) (method : Run Value PUnit) (t : SmartTimer Value) :
    (on which method).run t =
    match method.run (t.program which) with
    | .ok _ q => .ok ⟨⟩ (t.record which q)
    | .error error q => .error error (t.record which q) := rfl

theorem after_on (which : Which) (method : Run Value PUnit) (t : SmartTimer Value) :
    after (on which method) t = t.record which (after method (t.program which)) := by
  rw [after, after, on_run]
  cases method.run (t.program which) <;> rfl

theorem on_ok {method : Run Value PUnit} {q : Program Value}
    (h : method.run (t.program which) = .ok ⟨⟩ q) :
    (on which method).run t = .ok ⟨⟩ (t.record which q) := by
  rw [on_run, h]

theorem record_self (t : SmartTimer Value) (which : Which) (q : Program Value) :
    (t.record which q).program which = q :=
  Function.update_self ..

theorem record_of_ne {other : Which} (t : SmartTimer Value) (h : other ≠ which)
    (q : Program Value) :
    (t.record which q).program other = t.program other :=
  Function.update_of_ne h ..

theorem record_history {q : Program Value} {l : List (Fin 10 × Value)}
    (h : Notification.outputs q.notified = Notification.outputs (t.program which).notified ++ l) :
    (t.record which q).history = t.history ++ l.map (.output which) := by
  rw [SmartTimer.record, h, List.drop_left]

/-- What every event keeps of the programs. -/
structure Tidy (steps : Which → List (Step Value)) (t : SmartTimer Value) : Prop where
  steps_eq : ∀ which, (t.program which).steps = steps which
  total : ∀ which, (∀ step ∈ steps which, step.isSync = true) → (t.program which).totalWait = some 0
  others : ∀ which ≠ .trigger, AtRest (t.program which)

def Idle (steps : Which → List (Step Value)) (t : SmartTimer Value) : Prop :=
  AtRest (t.program .trigger) ∧ Runs steps t.history

def Busy (steps : Which → List (Step Value)) (t : SmartTimer Value) : Prop :=
  ∃ i a progress history, Waiting (t.program .trigger) i a progress ∧ Runs steps history ∧
    t.history = history ++ .started :: entries .trigger ((steps .trigger).take i)

structure Settled (steps : Which → List (Step Value)) (t : SmartTimer Value) : Prop where
  tidy : Tidy steps t
  state : Idle steps t ∨ Busy steps t

theorem Tidy.record (h : Tidy steps t) {q : Program Value}
    (hsteps : q.steps = (t.program which).steps)
    (htotal : q.totalWait = (t.program which).totalWait) (hrest : which ≠ .trigger → AtRest q) :
    Tidy steps (t.record which q) := by
  refine ⟨fun other => ?_, fun other hsync => ?_, fun other hne => ?_⟩
  · rcases eq_or_ne other which with rfl | hother
    · rw [record_self, hsteps, h.steps_eq]
    · rw [record_of_ne t hother, h.steps_eq]
  · rcases eq_or_ne other which with rfl | hother
    · rw [record_self, htotal, h.total other hsync]
    · rw [record_of_ne t hother, h.total other hsync]
  · rcases eq_or_ne other which with rfl | hother
    · rw [record_self]
      exact hrest hne
    · rw [record_of_ne t hother]
      exact h.others other hne

theorem Tidy.mark (h : Tidy steps t) (entry : Entry Value) : Tidy steps (t.mark entry) :=
  { h with }

/-- A program without waits sets all its outputs at once. -/
theorem runProgram_sync {p : Program Value} (span : Span) (hrest : AtRest p)
    (hsync : ∀ step ∈ p.steps, step.isSync = true)
    (htotal : p.totalWait = some 0) : ∃ q, (runProgram span).run p = .ok ⟨⟩ q ∧ AtRest q ∧
      q.steps = p.steps ∧
      q.totalWait = p.totalWait ∧ Notification.outputs q.notified =
        Notification.outputs p.notified ++ outputsOf p.steps := by
  have hready : (Op.run span.now span.later).Ready p := ⟨fun _ => htotal, hrest⟩
  have hquiet : AllQuiet (fun _ => .returns) p.outputCalls (leadingOutputs p.steps) :=
    fun _ _ => rfl
  obtain ⟨-, htotal', -⟩ := arrive_frame span.now p.steps (Op.begun p (.run span.now span.later))
  have hok := (hready.exec_quiet hquiet).trans (executeProgress_zero (htotal'.trans htotal))
  obtain ⟨hsteps, htotal'', houtputs, hatRest⟩ := hready.arrives _ hquiet
  rw [after_ok hok] at hsteps htotal'' houtputs hatRest
  rw [if_pos (show ∀ step ∈ (Op.run span.now span.later).steps p,
    step.isSync = true from hsync)] at hatRest
  refine ⟨_, hok, hatRest, hsteps, htotal'', houtputs.trans ?_⟩
  rw [leadingOutputs, show (Op.run span.now span.later).steps p = p.steps from rfl,
    List.takeWhile_eq_self_iff.mpr hsync]
  rfl

section Outputs

variable {l : List (Step Value)}

theorem outputsOf_append (l l' : List (Step Value)) :
    outputsOf (l ++ l') = outputsOf l ++ outputsOf l' :=
  List.flatMap_append

/-- The outputs up to the next wait. -/
theorem outputsOf_take (l : List (Step Value)) (n : Nat) :
    outputsOf (l.take (n + ((l.drop n).takeWhile Step.isSync).length)) =
      outputsOf (l.take n) ++ leadingOutputs (l.drop n) := by
  have hlead : (l.drop n).take ((l.drop n).takeWhile Step.isSync).length =
      (l.drop n).takeWhile Step.isSync :=
    (List.prefix_iff_eq_take.mp (List.takeWhile_prefix _)).symm
  rw [List.take_add, hlead, outputsOf_append]
  rfl

/-- The outputs up to the end. -/
theorem outputsOf_end (l : List (Step Value)) (n : Nat)
    (h : ∀ step ∈ l.drop n, step.isSync = true) :
    outputsOf l = outputsOf (l.take n) ++ leadingOutputs (l.drop n) := by
  rw [leadingOutputs, List.takeWhile_eq_self_iff.mpr h]
  exact (congrArg outputsOf (List.take_append_drop n l).symm).trans (outputsOf_append _ _)

theorem outputsOf_wait {i : Nat} {delay : Option Nat} (h : l[i]? = some (.wait delay)) :
    outputsOf (l.take (i + 1)) = outputsOf (l.take i) := by
  rw [List.take_add_one, h, outputsOf_append]
  exact List.append_nil _

end Outputs

/-- The triggered program goes on with its steps. -/
theorem Tidy.arrives (h : Tidy steps t) {op : Op} (hop : op.Ready (t.program .trigger))
    {history : List (Entry Value)} (hruns : Runs steps history) (hhistory : t.history = history ++
      .started :: entries .trigger
        ((steps .trigger).take (op.begun (t.program .trigger)).nextIndex)) :
    Settled steps (t.record .trigger (after (op.exec fun _ => .returns) (t.program .trigger))) := by
  have hdrop := hop.begun.2.1
  have hbegun := hop.begun.2.2.2.2.1
  rw [hbegun, h.steps_eq] at hdrop
  obtain ⟨hsteps, htotal, houtputs, hwhere⟩ := hop.arrives (fun _ => .returns) fun _ _ => rfl
  generalize after (op.exec fun _ => .returns) (t.program .trigger) = q at *
  refine ⟨h.record hsteps htotal fun hne => absurd rfl hne, ?_⟩
  have hnew := record_history houtputs
  rw [hhistory, ← hdrop, List.append_assoc, List.cons_append, entries, ← List.map_append] at hnew
  split at hwhere
  · rename_i hsync
    rw [← hdrop] at hsync
    rw [← outputsOf_end _ _ hsync] at hnew
    refine .inl ⟨?_, hnew ▸ .completed hruns⟩
    rw [record_self]
    exact hwhere
  · obtain ⟨a, progress, hwaiting⟩ := hwhere
    rw [← outputsOf_take] at hnew
    refine .inr ⟨_, a, progress, history, ?_, hruns, hnew⟩
    rw [record_self, hdrop]
    exact hwaiting

variable (hnoWait : ∀ which ≠ .trigger, ∀ step ∈ steps which, step.isSync = true)

include hnoWait in
/-- `clear` does not throw; the triggered program is at rest then. -/
theorem Settled.clear (h : Settled steps t) (clearing : Span) :
    ∃ t', (Timers.clear clearing).run t = .ok ⟨⟩ t' ∧ Tidy steps t' ∧ Idle steps t' := by
  obtain hidle | ⟨i, a, progress, history, hwaiting, hruns, hhistory⟩ := h.state
  · refine ⟨t, ?_, h.tidy, hidle⟩
    simp only [Timers.clear, run_bind, run_get, hidle.1.running]
    rfl
  · obtain ⟨q, hinterrupt, hrest, hsteps, htotal, -, hnotified⟩ := hwaiting.interrupted
    have hmarked := h.tidy.mark .interrupted
    have htidy : Tidy steps ((t.mark .interrupted).record .trigger q) :=
      hmarked.record hsteps htotal fun hne => absurd rfl hne
    have hsame : Notification.outputs q.notified =
        Notification.outputs (t.program .trigger).notified ++ [] := by
      rw [hnotified, Notification.outputs, List.filterMap_append]
      rfl
    have hhistory₁ : ((t.mark .interrupted).record .trigger q).history =
        t.history ++ [.interrupted] := by
      rw [record_history (t := t.mark .interrupted) hsame]
      exact List.append_nil _
    have hcancel := htidy.others .cancel (by decide)
    have hsync := hnoWait .cancel (by decide)
    obtain ⟨q', hrun, hrest', hsteps', htotal', houtputs'⟩ := runProgram_sync clearing hcancel
      (by rw [htidy.steps_eq]; exact hsync) (htidy.total _ hsync)
    refine ⟨((t.mark .interrupted).record .trigger q).record .cancel q', ?_,
      htidy.record hsteps' htotal' fun _ => hrest', ?_, ?_⟩
    · have hon : (on .trigger interrupt).run (t.mark .interrupted) =
          .ok ⟨⟩ ((t.mark .interrupted).record .trigger q) :=
        on_ok hinterrupt
      simp only [Timers.clear, run_bind, run_get, hwaiting.running, if_true, run_modify, hon]
      exact on_ok hrun
    · rw [record_of_ne _ (by decide), record_self]
      exact hrest
    · rw [record_history houtputs', hhistory₁, hhistory, htidy.steps_eq, List.append_assoc,
        List.singleton_append]
      exact .interrupted hruns i

include hnoWait in
theorem Settled.trigger (h : Settled steps t) (clearing running : Span) (arg : Bool) :
    Settled steps (after (Timers.trigger clearing running arg) t) := by
  cases arg with
  | false => exact h
  | true =>
    obtain ⟨t', hclear, htidy, hidle⟩ := h.clear hnoWait clearing
    have hafter : after (Timers.trigger clearing running true) t =
        after (on .trigger (runProgram running)) (t'.mark .started) :=
      after_bind hclear
    have hready : (Op.run running.now running.later).Ready
        ((t'.mark .started).program .trigger) := by
      refine ⟨fun hsync => htidy.total _ ?_, hidle.1⟩
      rw [show (t'.mark .started).program = t'.program from rfl, htidy.steps_eq] at hsync
      exact hsync
    rw [hafter, after_on]
    exact (htidy.mark .started).arrives hready hidle.2 rfl

theorem after_expire {now : ℚ} {timer : Timer} (hmem : timer ∈ (t.program which).pending) :
    after (Timers.expire which now timer) t =
      t.record which (after (fire (fun _ => .returns) now timer) (t.program which)) := by
  rw [← after_on, after, Timers.expire]
  simp only [run_bind, run_get, if_pos hmem]
  rfl

section Fired

variable {i a : Nat} {progress : List Timer} {timer : Timer}

theorem Tidy.fire_ready (h : Tidy steps t) (hwaiting : Waiting (t.program .trigger) i a progress)
    (now : ℚ) (hmem : timer ∈ (t.program .trigger).pending) (hcallback : timer.callback = .step i) :
    (Op.fire now timer).Ready (t.program .trigger) := by
  refine ⟨fun hsync => h.total _ ?_, hmem, i, a, progress, hcallback, hwaiting⟩
  rw [h.steps_eq] at hsync
  exact hsync

theorem Tidy.running_eq (h : Tidy steps t) : t.running = (t.program .trigger).running := by
  rw [SmartTimer.running, (h.others .init (by decide)).running,
    (h.others .cancel (by decide)).running]
  simp

theorem Tidy.continues (h : Tidy steps t) (hwaiting : Waiting (t.program .trigger) i a progress)
    (now : ℚ) (hmem : timer ∈ (t.program .trigger).pending) (hcallback : timer.callback = .step i) :
    Continues steps i t (t.step (.expire .trigger now timer)) := by
  have hready := h.fire_ready hwaiting now hmem hcallback
  obtain ⟨hsteps, htotal, houtputs, hwhere⟩ := hready.arrives (fun _ => .returns) fun _ _ => rfl
  have hrest : (Op.fire now timer).steps (t.program .trigger) = (steps .trigger).drop (i + 1) := by
    simp only [Op.steps, hcallback, h.steps_eq]
  have hindex : (Op.begun (t.program .trigger) (.fire now timer)).nextIndex = i + 1 := by
    simp [Op.begun, hcallback, Program.nextIndex, Program.clearTimeout, hwaiting.index]
  rw [hrest] at houtputs hwhere
  rw [hindex] at hwhere
  have hstep : t.step (.expire .trigger now timer) =
      t.record .trigger (after ((Op.fire now timer).exec fun _ => .returns) (t.program .trigger)) :=
        after_expire hmem
  rw [hstep]
  generalize after ((Op.fire now timer).exec fun _ => .returns) (t.program .trigger) = q at *
  have htidy : Tidy steps (t.record .trigger q) := h.record hsteps htotal fun hne => absurd rfl hne
  refine ⟨record_history houtputs, ?_⟩
  rw [htidy.running_eq, record_self]
  split at hwhere
  next hsync => rw [if_pos (List.all_eq_true.mpr hsync), hwhere.running]
  next hwait =>
    obtain ⟨a', progress', hwaiting'⟩ := hwhere
    rw [if_neg fun hsync => hwait (List.all_eq_true.mp hsync)]
    exact ⟨hwaiting'.running, hwaiting'.index⟩

end Fired

/-- A timer that fires belongs to the triggered program. -/
theorem Settled.expire (h : Settled steps t) (which : Which) (now : ℚ) (timer : Timer) :
    Settled steps (after (Timers.expire which now timer) t) := by
  have htidy := h.tidy
  by_cases hmem : timer ∈ (t.program which).pending
  · obtain rfl : which = .trigger := by
      by_contra hne
      rw [(htidy.others which hne).pending] at hmem
      cases hmem
    rw [after_expire hmem]
    obtain hidle | ⟨i, a, progress, history, hwaiting, hruns, hhistory⟩ := h.state
    · rw [hidle.1.pending] at hmem
      cases hmem
    · cases hcallback : timer.callback with
      | step j =>
        obtain ⟨rfl, -⟩ := hwaiting.fired hmem hcallback
        refine htidy.arrives (htidy.fire_ready hwaiting now hmem hcallback) hruns ?_
        have hindex : (Op.begun (t.program .trigger) (.fire now timer)).nextIndex = j + 1 := by
          simp only [Op.begun, hcallback]
          simp [Program.nextIndex, Program.clearTimeout, hwaiting.index]
        obtain ⟨delay, hstep⟩ := hwaiting.step
        rw [htidy.steps_eq] at hstep
        rw [hhistory, hindex, entries, entries, outputsOf_wait hstep]
      | progress =>
        have hfire : after (fire (fun _ => .returns) now timer) (t.program .trigger) =
            after (executeProgress now) ((t.program .trigger).clearTimeout (some timer.id)) := by
          rw [after, after, fire]
          simp only [run_bind, run_modify, hcallback]
        obtain ⟨progress', hwaiting'⟩ := (hwaiting.progressed hmem hcallback).executeProgress now
        obtain ⟨hsteps, htotal, -, -, houtputs⟩ :=
          executeProgress_frame now ((t.program .trigger).clearTimeout (some timer.id))
        rw [hfire]
        refine ⟨htidy.record hsteps htotal fun hne => absurd rfl hne,
          .inr ⟨i, a, progress', history, ?_, hruns, ?_⟩⟩
        · rw [record_self]
          exact hwaiting'
        · rw [record_history (houtputs.trans (List.append_nil _).symm), hhistory]
          exact List.append_nil _
  · have hafter : after (Timers.expire which now timer) t = t := by
      rw [after, Timers.expire]
      simp only [run_bind, run_get, if_neg hmem]
      rfl
    rw [hafter]
    exact h

include hnoWait in
theorem Settled.cancel (h : Settled steps t) (clearing : Span) (arg : Bool) :
    Settled steps (after (Timers.cancel clearing arg) t) := by
  cases arg with
  | false => exact h
  | true =>
    obtain ⟨t', hclear, htidy, hidle⟩ := h.clear hnoWait clearing
    rw [show Timers.cancel clearing true = (Timers.clear clearing : Action Value PUnit) from rfl,
      after_ok hclear]
    exact ⟨htidy, .inl hidle⟩

include hnoWait in
theorem Settled.step (h : Settled steps t) (e : TimerEvent) : Settled steps (t.step e) := by
  cases e with
  | trigger clearing running arg => exact h.trigger hnoWait clearing running arg
  | cancel clearing arg => exact h.cancel hnoWait clearing arg
  | toggle clearing running arg =>
    show Settled steps (after (Timers.toggle clearing running arg) t)
    cases hrunning : (t.program .trigger).running with
    | true =>
      have htoggle : after (Timers.toggle clearing running arg) t =
          after (Timers.cancel clearing arg) t := by
        rw [after, after, Timers.toggle]
        simp only [run_bind, run_get, hrunning, if_true]
      rw [htoggle]
      exact h.cancel hnoWait clearing arg
    | false =>
      have htoggle : after (Timers.toggle clearing running arg) t =
          after (Timers.trigger clearing running arg) t := by
        rw [after, after, Timers.toggle]
        simp only [run_bind, run_get, hrunning, Bool.false_eq_true, if_false]
      rw [htoggle]
      exact h.trigger hnoWait clearing running arg
  | destroy clearing => exact h.cancel hnoWait clearing true
  | expire which now timer => exact h.expire which now timer

/-! ## Every history -/

/-- A program that may not wait does not wait. -/
theorem parse_sync (numbers : Numbers) (parseOutputValue : List Char → Except ParseError Value)
    (source : List Char) :
    ∀ step ∈ parse numbers parseOutputValue false source, step.isSync = true := by
  intro step hstep
  simp only [parse] at hstep
  split at hstep
  · rename_i steps hsteps
    obtain ⟨part, -, hpart⟩ := mem_mapM_ok hsteps hstep
    split at hpart
    · simp only [createStep] at hpart
      split at hpart
      · obtain ⟨value, -, rfl⟩ := except_map_ok.mp hpart
        rfl
      · split at hpart
        · obtain ⟨value, -, rfl⟩ := except_map_ok.mp hpart
          rfl
        · split at hpart <;> simp at hpart
    · cases hpart
  · cases hstep

theorem settled_create (numbers : Numbers) (parseOutputValue : List Char → Except ParseError Value)
    (config : Config) (running : Span) (hnoWait : ∀ which ≠ .trigger,
      ∀ step ∈ config.steps numbers parseOutputValue which, step.isSync = true) :
    Settled (config.steps numbers parseOutputValue)
      (create numbers parseOutputValue config running) := by
  let t : SmartTimer Value :=
    { program := fun which => setup numbers (config.steps numbers parseOutputValue which) }
  have htidy : Tidy (config.steps numbers parseOutputValue) t := by
    refine ⟨fun which => ?_, fun which hsync => ?_, fun which _ => setup_rest numbers _⟩
    · exact congrArg Program.steps (setup_eq numbers _)
    · exact (congrArg Program.totalWait (setup_eq numbers _)).trans (totalDelay_sync numbers hsync)
  have hsync := hnoWait .init (by decide)
  obtain ⟨q, hrun, hrest, hsteps, htotal, houtputs⟩ :=
    runProgram_sync running (htidy.others .init (by decide))
    (by rw [htidy.steps_eq]; exact hsync) (htidy.total _ hsync)
  have hcreate : create numbers parseOutputValue config running = t.record .init q := by
    rw [← after_ok hrun, ← after_on]
    rfl
  rw [hcreate]
  refine ⟨htidy.record hsteps htotal fun _ => hrest, .inl ⟨?_, ?_⟩⟩
  · rw [record_of_ne _ (by decide)]
    exact setup_rest numbers _
  · rw [record_history houtputs, htidy.steps_eq]
    exact .init

theorem Settled.noOverlap (h : Settled steps t) : NoOverlap steps t := by
  have hpending : t.pending = (t.program .trigger).pending := by
    rw [SmartTimer.pending, (h.tidy.others .init (by decide)).pending,
      (h.tidy.others .cancel (by decide)).pending]
    simp
  have hrunning := h.tidy.running_eq
  obtain ⟨hrest, hruns⟩ | ⟨i, a, progress, history, hwaiting, hruns, hhistory⟩ := h.state
  · rw [hrest.pending] at hpending
    rw [hrest.running] at hrunning
    exact ⟨by simp [hpending], by simp [hpending], fun _ => ⟨hpending, hruns⟩,
      fun htrue => by simp [hrunning] at htrue⟩
  · obtain ⟨due, hperm⟩ := hwaiting.pending
    rw [← hpending] at hperm
    rw [hwaiting.running] at hrunning
    refine ⟨?_, ?_, fun hfalse => by simp [hrunning] at hfalse, fun _ => ?_⟩
    · rw [(hperm.filter _).length_eq]
      obtain rfl | ⟨b, due', -, -, rfl⟩ := hwaiting.shown <;> simp
    · rw [(hperm.filter _).length_eq]
      obtain rfl | ⟨b, due', -, -, rfl⟩ := hwaiting.shown <;> simp
    · rw [hpending] at hperm
      refine ⟨i, history, hwaiting.index, hruns, hhistory,
        ⟨_, hperm.mem_iff.mpr List.mem_cons_self, rfl⟩, fun now timer hmem hne => ?_⟩
      cases hcallback : timer.callback with
      | step j =>
        obtain ⟨rfl, -⟩ := hwaiting.fired hmem hcallback
        exact h.tidy.continues hwaiting now hmem hcallback
      | progress => exact absurd hcallback hne

end MylifeHome.Plugins.Timers
