import MylifeHome.Plugins.Timers.Program
import Mathlib.Data.List.Perm.Basic

/-!
# What the methods of a program do

A program is at rest or waits at a step. Each method is described once: where it leaves the
program, which outputs it sets and which timers are pending then. A step that sets outputs
cannot be interrupted, so an error in it goes through all the handlers.
-/
namespace MylifeHome.Plugins.Timers

open MylifeHome.Lib EStateM

variable {Value : Type}

/-! ## Outputs -/

def Step.isSync : Step Value → Bool
  | .wait _ => false
  | _ => true

/-- The outputs of the steps before the first wait. -/
def leadingOutputs (steps : List (Step Value)) : List (Fin 10 × Value) :=
  (steps.takeWhile Step.isSync).flatMap Step.outputs

/-- A call that ends without an error. -/
def Behaviour.quiet : Behaviour → Bool
  | .returns => true
  | .interrupts true => true
  | _ => false

/-- The next calls of `setOutput`, as many as there are outputs, end without an error. -/
def AllQuiet (behave : Nat → Behaviour) (calls : Nat) (outputs : List (Fin 10 × Value)) : Prop :=
  ∀ k < outputs.length, (behave (calls + k)).quiet = true

theorem allQuiet_append {behave : Nat → Behaviour} {calls : Nat} {l l' : List (Fin 10 × Value)} :
    AllQuiet behave calls (l ++ l') ↔ AllQuiet behave calls l ∧
      AllQuiet behave (calls + l.length) l' := by
  simp only [AllQuiet, List.length_append]
  constructor
  · intro h
    refine ⟨fun k hk => h k (by omega), fun k hk => ?_⟩
    rw [Nat.add_assoc]
    exact h _ (by omega)
  · rintro ⟨h, h'⟩ k hk
    by_cases hlt : k < l.length
    · exact h k hlt
    · have hsum : calls + k = calls + l.length + (k - l.length) := by omega
      rw [hsum]
      exact h' _ (by omega)

/-- The outputs that were set, in order. -/
def Notification.outputs (notified : List (Notification Value)) : List (Fin 10 × Value) :=
  notified.filterMap fun
    | .output key value => some (key, value)
    | _ => none

namespace Program

/-- The program once these outputs are set. -/
def perform (p : Program Value) (outputs : List (Fin 10 × Value)) : Program Value :=
  { p.notify (outputs.map fun e => .output e.1 e.2) with
    outputCalls := p.outputCalls + outputs.length }

/-- The program at its next step. -/
def begin (p : Program Value) : Program Value :=
  { p.notify [.running true] with currentStepIndex := some p.nextIndex }

/-- The program after its last step. -/
def ended (p : Program Value) : Program Value :=
  { p.clearTimeout p.currentProgressTimer with
    currentStepIndex := none, currentProgressTimer := none, startTime := none
    notified := p.notified ++ [.progress (some 0) 0, .running false] }

/-- The program at a wait, which is its next step. -/
def waitAt (now : ℚ) (delay : Option Nat) (p : Program Value) : Program Value :=
  { p.begin with
    nextTimer := p.nextTimer + 1
    pending := p.pending ++
      [{ id := p.nextTimer, due := now + timeoutDelay delay, callback := .step p.nextIndex }]
    stepTimers := Function.update p.stepTimers p.nextIndex (some p.nextTimer) }

end Program

open MylifeHome.Plugins.Timers.Program

/-- Where steps that do not fail lead to. -/
def arrive (now : ℚ) : List (Step Value) → Program Value → Program Value
  | [], p => p.ended
  | .wait delay :: _, p => p.waitAt now delay
  | .setOutput output value :: rest, p =>
    arrive now rest (p.begin.perform (Step.setOutput output value).outputs)
  | .setAllOutputs value :: rest, p =>
    arrive now rest (p.begin.perform (Step.setAllOutputs value).outputs)

theorem arrive_sync {step : Step Value} (h : step.isSync = true) (now : ℚ)
    (rest : List (Step Value)) (p : Program Value) :
    arrive now (step :: rest) p = arrive now rest (p.begin.perform step.outputs) := by
  cases step with
  | wait => cases h
  | setOutput | setAllOutputs => rfl

theorem leadingOutputs_sync {step : Step Value} (h : step.isSync = true)
    (rest : List (Step Value)) :
    leadingOutputs (step :: rest) = step.outputs ++ leadingOutputs rest := by
  rw [leadingOutputs, List.takeWhile_cons_of_pos h, List.flatMap_cons, leadingOutputs]

variable {p : Program Value} {behave : Nat → Behaviour} {now : ℚ}

@[simp] theorem perform_nil : p.perform [] = p := by simp [perform, notify]

theorem perform_perform (l l' : List (Fin 10 × Value)) :
    (p.perform l).perform l' = p.perform (l ++ l') := by
  simp [perform, notify, Nat.add_assoc]

/-! ## Errors -/

/-- The program is at a step that sets outputs. -/
def AtSync (p : Program Value) : Prop := ∃ i step, p.currentStepIndex = some i ∧
    p.steps[i]? = some step ∧ step.isSync = true

theorem AtSync.running (h : AtSync p) : p.running = true := by
  obtain ⟨i, step, hi, hstep, -⟩ := h
  simp [Program.running, currentStep, hi, hstep]

theorem AtSync.perform (h : AtSync p) (outputs : List (Fin 10 × Value)) :
    AtSync (p.perform outputs) := h

theorem reset_sync (h : AtSync p) : reset.run p = .error .cannotInterrupt p := by
  obtain ⟨i, step, hi, hstep, hsync⟩ := h
  have hcurrent : p.currentStep = some step := by rw [currentStep, hi, Option.bind_some, hstep]
  cases step with
  | wait => cases hsync
  | setOutput | setAllOutputs =>
    simp only [reset, interruptStep, run_bind, run_get, hi, hcurrent]
    rfl

theorem interrupt_sync (h : AtSync p) : interrupt.run p = .error .cannotInterrupt p := by
  simp only [interrupt, run_bind, run_get, h.running, if_true]
  exact reset_sync h

theorem setOutput_quiet (h : AtSync p) (e : Fin 10 × Value)
    (hq : (behave p.outputCalls).quiet = true) :
    (setOutput behave e.1 e.2).run p = .ok ⟨⟩ (p.perform [e]) := by
  have hinterrupt := interrupt_sync (h.perform [e])
  simp only [setOutput, run_bind, run_get, run_set]
  cases hb : behave p.outputCalls with
  | returns => rfl
  | throws => simp [hb, Behaviour.quiet] at hq
  | interrupts caught =>
    cases caught with
    | false => simp [hb, Behaviour.quiet] at hq
    | true =>
      show (attempt interrupt (pure ⟨⟩)).run (p.perform [e]) = _
      rw [attempt_run, hinterrupt]
      rfl

theorem setOutput_loud (h : AtSync p) (e : Fin 10 × Value)
    (hq : (behave p.outputCalls).quiet = false) :
    ∃ error, (setOutput behave e.1 e.2).run p = .error error (p.perform [e]) := by
  have hinterrupt := interrupt_sync (h.perform [e])
  simp only [setOutput, run_bind, run_get, run_set]
  cases hb : behave p.outputCalls with
  | returns => simp [hb, Behaviour.quiet] at hq
  | throws => exact ⟨.output, rfl⟩
  | interrupts caught =>
    cases caught with
    | true => simp [hb, Behaviour.quiet] at hq
    | false => exact ⟨.cannotInterrupt, hinterrupt⟩

theorem setOutputs_quiet (h : AtSync p) {outputs : List (Fin 10 × Value)}
    (hq : AllQuiet behave p.outputCalls outputs) :
    (forEach outputs fun e => setOutput behave e.1 e.2).run p = .ok ⟨⟩ (p.perform outputs) := by
  induction outputs generalizing p with
  | nil => simp [forEach, perform_nil]
  | cons e outputs ih =>
    obtain ⟨hhead, htail⟩ := (allQuiet_append (l := [e])).mp hq
    rw [forEach, run_bind, setOutput_quiet h e (hhead 0 (by simp))]
    exact (ih (h.perform [e]) htail).trans (by rw [perform_perform]; rfl)

/-- The first call with an error is the last one. -/
theorem setOutputs_loud (h : AtSync p) {outputs : List (Fin 10 × Value)}
    (hq : ¬ AllQuiet behave p.outputCalls outputs) :
    ∃ error set, (forEach outputs fun e => setOutput behave e.1 e.2).run p =
      .error error (p.perform set) ∧
      ¬ AllQuiet behave p.outputCalls set := by
  induction outputs generalizing p with
  | nil => exact absurd (fun k hk => by simp at hk) hq
  | cons e outputs ih =>
    cases hb : (behave p.outputCalls).quiet with
    | false =>
      obtain ⟨error, herror⟩ := setOutput_loud h e hb
      refine ⟨error, [e], ?_, fun hall => ?_⟩
      · rw [forEach, run_bind, herror]
      · have hzero := hall 0 (by simp)
        rw [Nat.add_zero, hb] at hzero
        cases hzero
    | true =>
      have hone : AllQuiet behave p.outputCalls [e] := by
        intro k hk
        obtain rfl : k = 0 := by simpa using hk
        exact hb
      have hrest : ¬ AllQuiet behave (p.perform [e]).outputCalls outputs := fun hall =>
        hq ((allQuiet_append (l := [e])).mpr ⟨hone, hall⟩)
      obtain ⟨error, set, herror, hset⟩ := ih (h.perform [e]) hrest
      refine ⟨error, e :: set, ?_, fun hall => hset ((allQuiet_append (l := [e])).mp hall).2⟩
      rw [forEach, run_bind, setOutput_quiet h e hb]
      exact herror.trans (by rw [perform_perform]; rfl)

theorem execute_sync {step : Step Value} (h : step.isSync = true) (index : Nat)
    (next : Run Value PUnit) :
    step.execute behave now index next =
      (forEach step.outputs fun e => setOutput behave e.1 e.2) >>= fun _ => next := by
  cases step with
  | wait => cases h
  | setOutput | setAllOutputs => rfl

/-! ## The steps up to a wait -/

theorem begin_next {step : Step Value} {rest : List (Step Value)}
    (hl : p.steps.drop p.nextIndex = step :: rest)
    (h : step.isSync = true) : AtSync p.begin ∧ ∀ outputs,
      (p.begin.perform outputs).steps.drop (p.begin.perform outputs).nextIndex = rest := by
  have hget : p.steps[p.nextIndex]? = some step := by
    rw [← List.head?_drop, hl, List.head?_cons]
  refine ⟨⟨_, step, rfl, hget, h⟩, fun outputs => ?_⟩
  show p.steps.drop (p.nextIndex + 1) = rest
  rw [← List.tail_drop, hl, List.tail_cons]

theorem interruptStep_past (h : p.currentStep = none) : interruptStep.run p = .ok ⟨⟩ p := by
  simp only [interruptStep, run_bind, run_get, h]
  cases p.currentStepIndex <;> rfl

/-- `reset` once the step is interrupted. -/
theorem reset_of_interrupted {q : Program Value} (h : interruptStep.run p = .ok ⟨⟩ q) :
    reset.run p = .ok ⟨⟩ q.ended := by
  rw [reset, run_bind, h]
  simp [setProgress, validPercent, run_bind, ended, notify, clearTimeout, run_throwIf_false]

theorem executeSteps_ok {l : List (Step Value)} (hl : p.steps.drop p.nextIndex = l)
    (hq : AllQuiet behave p.outputCalls (leadingOutputs l)) : (executeSteps behave now l).run p =
      .ok ⟨⟩ (arrive now l p) := by
  induction l generalizing p with
  | nil =>
    have hpast : p.steps[p.nextIndex]? = none := List.getElem?_eq_none (List.drop_eq_nil_iff.mp hl)
    have hreset := reset_of_interrupted
      (interruptStep_past (p := { p with currentStepIndex := some p.nextIndex }) hpast)
    rw [executeSteps, attempt_run]
    simp only [run_bind, run_modify]
    rw [hreset]
    rfl
  | cons step rest ih =>
    cases hstep : step.isSync with
    | false =>
      cases step with
      | wait delay => rfl
      | setOutput | setAllOutputs => cases hstep
    | true =>
      obtain ⟨hsync, hnext⟩ := begin_next hl hstep
      rw [leadingOutputs_sync hstep, allQuiet_append] at hq
      rw [arrive_sync hstep, ← ih (hnext step.outputs) hq.2, executeSteps, attempt_run]
      simp only [run_bind, run_get, run_modify, execute_sync hstep]
      have hset := setOutputs_quiet hsync hq.1
      rw [show ({ p with currentStepIndex := some p.nextIndex } : Program Value).notify
        [.running true] = p.begin from rfl, hset]
      have hok := ih (hnext step.outputs) hq.2
      simp only [hok]

/-- An error leaves the program at the step that it comes from. -/
theorem executeSteps_error (now : ℚ) {l : List (Step Value)} (hl : p.steps.drop p.nextIndex = l)
    (hq : ¬ AllQuiet behave p.outputCalls (leadingOutputs l)) :
    ∃ p', (executeSteps behave now l).run p = .error .cannotInterrupt p' ∧ AtSync p' ∧
      ∃ k, p.outputCalls ≤ k ∧ k < p'.outputCalls ∧ (behave k).quiet = false := by
  induction l generalizing p with
  | nil => exact absurd (fun k hk => by simp [leadingOutputs] at hk) hq
  | cons step rest ih =>
    cases hstep : step.isSync with
    | false =>
      refine absurd (fun k hk => ?_) hq
      simp [leadingOutputs, hstep] at hk
    | true =>
      obtain ⟨hsync, hnext⟩ := begin_next hl hstep
      have hbody : ∃ error p',
        (forEach step.outputs (fun e => setOutput behave e.1 e.2) >>= fun _ =>
          executeSteps behave now rest).run p.begin = .error error p' ∧ AtSync p' ∧
            ∃ k, p.outputCalls ≤ k ∧ k < p'.outputCalls ∧ (behave k).quiet = false := by
        by_cases hset : AllQuiet behave p.outputCalls step.outputs
        · rw [leadingOutputs_sync hstep, allQuiet_append, not_and] at hq
          obtain ⟨p', herror, hp', k, hk, hk', hloud⟩ := ih (hnext step.outputs) (hq hset)
          refine ⟨.cannotInterrupt, p', ?_, hp', k, Nat.le_of_add_right_le hk, hk', hloud⟩
          rw [run_bind, setOutputs_quiet hsync hset]
          exact herror
        · obtain ⟨error, set, herror, hloud⟩ := setOutputs_loud hsync hset
          simp only [AllQuiet, not_forall, Bool.not_eq_true] at hloud
          obtain ⟨k, hk, hloud⟩ := hloud
          refine ⟨error, _, by rw [run_bind, herror], hsync.perform set, p.outputCalls + k, ?_,
            ?_, hloud⟩
          · exact Nat.le_add_right _ _
          · exact Nat.add_lt_add_left hk _
      obtain ⟨error, p', herror, hp', hloud⟩ := hbody
      refine ⟨p', ?_, hp', hloud⟩
      rw [executeSteps, attempt_run]
      simp only [run_bind, run_get, run_modify, execute_sync hstep] at herror ⊢
      rw [show ({ p with currentStepIndex := some p.nextIndex } : Program Value).notify
        [.running true] = p.begin from rfl, herror]
      exact reset_sync hp'

theorem executeStep_eq (p : Program Value) :
    (executeStep behave now).run p = (executeSteps behave now (p.steps.drop p.nextIndex)).run p :=
      rfl

/-! ## At rest and waiting -/

structure AtRest (p : Program Value) : Prop where
  index : p.currentStepIndex = none
  startTime : p.startTime = none
  progressTimer : p.currentProgressTimer = none
  pending : p.pending = []

/-- The program is between two steps: no timer is pending but the one for the progress. -/
structure Stepping (p : Program Value) : Prop where
  progress : p.pending = [] ∨ ∃ b due, p.currentProgressTimer = some b ∧
    p.pending = [⟨b, due, .progress⟩]
  fresh : ∀ t ∈ p.pending, t.id < p.nextTimer

/-- The program waits at step `i` for the timer `a`; besides, a timer for the progress may be
pending. -/
structure Waiting (p : Program Value) (i a : Nat) (progress : List Timer) : Prop where
  index : p.currentStepIndex = some i
  step : ∃ delay, p.steps[i]? = some (.wait delay)
  timer : p.stepTimers i = some a
  pending : ∃ due, p.pending.Perm (⟨a, due, .step i⟩ :: progress)
  shown : progress = [] ∨ ∃ b due, p.currentProgressTimer = some b ∧ b ≠ a ∧
    progress = [⟨b, due, .progress⟩]
  fresh : ∀ t ∈ p.pending, t.id < p.nextTimer
  started : p.startTime ≠ none

theorem AtRest.running (h : AtRest p) : p.running = false := by
  simp [Program.running, currentStep, h.index]

theorem AtRest.stepping (h : AtRest p) (startTime : Option ℚ) :
    Stepping { p with currentStepIndex := none, startTime } where
  progress := .inl h.pending
  fresh t ht := by
    rw [show ({ p with currentStepIndex := none, startTime } : Program Value).pending =
      [] from h.pending] at ht
    cases ht

theorem Stepping.next (h : Stepping p) (outputs : List (Fin 10 × Value)) :
    Stepping (p.begin.perform outputs) :=
  ⟨h.progress, h.fresh⟩

theorem Stepping.ended (h : Stepping p) : AtRest p.ended where
  index := rfl
  startTime := rfl
  progressTimer := rfl
  pending := by
    obtain hnone | ⟨b, due, hb, hpending⟩ := h.progress
    · simp [Program.ended, clearTimeout, hnone]
    · simp [Program.ended, clearTimeout, hpending, hb]

theorem Stepping.waitAt (h : Stepping p) {delay : Option Nat}
    (hstep : p.steps[p.nextIndex]? = some (.wait delay))
    (hstart : p.startTime ≠ none) : ∃ progress, Waiting (p.waitAt now delay) p.nextIndex p.nextTimer
      progress := by
  have hfresh : ∀ t ∈ (p.waitAt now delay).pending, t.id < (p.waitAt now delay).nextTimer := by
    intro t ht
    rcases List.mem_append.mp ht with hold | hnew
    · exact Nat.lt_succ_of_lt (h.fresh t hold)
    · rw [List.mem_singleton.mp hnew]
      exact Nat.lt_succ_self _
  refine ⟨p.pending, rfl, ⟨delay, hstep⟩, Function.update_self .., ⟨now + timeoutDelay delay, ?_⟩,
    ?_, hfresh, hstart⟩
  · exact List.perm_append_singleton _ _
  · obtain hnone | ⟨b, due, hb, hpending⟩ := h.progress
    · exact .inl hnone
    · have hlt := h.fresh ⟨b, due, .progress⟩ (by simp [hpending])
      exact .inr ⟨b, due, hb, Nat.ne_of_lt hlt, hpending⟩

/-- What the steps up to a wait leave as it was, and the outputs that they set. -/
theorem arrive_frame (now : ℚ) (l : List (Step Value)) (p : Program Value) :
    (arrive now l p).steps = p.steps ∧ (arrive now l p).totalWait = p.totalWait ∧
      (arrive now l p).outputCalls = p.outputCalls + (leadingOutputs l).length ∧
      Notification.outputs (arrive now l p).notified = Notification.outputs p.notified ++
        leadingOutputs l := by
  induction l generalizing p with
  | nil => simp [arrive, Program.ended, clearTimeout, leadingOutputs, Notification.outputs]
  | cons step rest ih =>
    cases hstep : step.isSync with
    | false =>
      cases step with
      | wait delay => simp [arrive, Program.waitAt, begin, notify, leadingOutputs, Step.isSync,
        Notification.outputs]
      | setOutput | setAllOutputs => cases hstep
    | true =>
      obtain ⟨hsteps, htotal, hcalls, houtputs⟩ := ih (p.begin.perform step.outputs)
      rw [arrive_sync hstep, leadingOutputs_sync hstep]
      refine ⟨hsteps, htotal, ?_, ?_⟩
      · rw [hcalls, List.length_append, ← Nat.add_assoc]
        rfl
      · rw [houtputs, ← List.append_assoc]
        congr 1
        have hmap : (step.outputs.map fun e => Notification.output e.1 e.2).filterMap (fun
            | .output key value => some (key, value)
            | _ => none) = step.outputs := by
          rw [List.filterMap_map]
          exact List.filterMap_some
        simp only [perform, begin, notify, Notification.outputs, List.filterMap_append, hmap]
        simp

theorem arrive_rest (now : ℚ) {l : List (Step Value)} (h : Stepping p)
    (hl : ∀ step ∈ l, step.isSync = true) :
    AtRest (arrive now l p) ∧ ∃ before, (arrive now l p).notified =
      before ++ [.progress (some 0) 0, .running false] := by
  induction l generalizing p with
  | nil => exact ⟨h.ended, p.notified, rfl⟩
  | cons step rest ih =>
    rw [arrive_sync (hl step List.mem_cons_self)]
    exact ih (h.next _) fun s hs => hl s (List.mem_cons_of_mem _ hs)

/-- The program stops at the first wait. -/
theorem arrive_waiting (now : ℚ) {l : List (Step Value)} (hl : p.steps.drop p.nextIndex = l)
    (h : Stepping p) (hstart : p.startTime ≠ none) (hwait : ∃ step ∈ l, step.isSync = false) :
    (∃ a progress, Waiting (arrive now l p) (p.nextIndex + (l.takeWhile Step.isSync).length) a
      progress) ∧
      (arrive now l p).startTime = p.startTime ∧
        ((arrive now l p).currentProgressTimer = p.currentProgressTimer) := by
  induction l generalizing p with
  | nil => simp at hwait
  | cons step rest ih =>
    have hget : p.steps[p.nextIndex]? = some step := by
      rw [← List.head?_drop, hl, List.head?_cons]
    cases hstep : step.isSync with
    | false =>
      cases step with
      | wait delay => exact ⟨⟨_, h.waitAt hget hstart⟩, rfl, rfl⟩
      | setOutput | setAllOutputs => cases hstep
    | true =>
      obtain ⟨s, hs, hswait⟩ := hwait
      have hrest : ∃ step ∈ rest, step.isSync = false := by
        rcases List.mem_cons.mp hs with rfl | hs
        · rw [hstep] at hswait
          cases hswait
        · exact ⟨s, hs, hswait⟩
      have hnext := ih ((begin_next hl hstep).2 step.outputs) (h.next _) hstart hrest
      have hindex : (p.begin.perform step.outputs).nextIndex = p.nextIndex + 1 := rfl
      rw [hindex] at hnext
      rw [arrive_sync hstep, List.takeWhile_cons_of_pos hstep, List.length_cons,
        Nat.add_comm (List.length _), ← Nat.add_assoc]
      exact hnext

/-! ## The other methods -/

theorem executeProgress_zero (h : p.totalWait = some 0) :
    (executeProgress now).run p = .ok ⟨⟩ (p.notify [.progress (some 0) 0]) := by
  simp [executeProgress, run_bind, h, setProgress, validPercent, run_throwIf_false]

section Progress

variable {startTime : ℚ}

/-- The progress is shown. -/
def Program.shown (now startTime : ℚ) (p : Program Value) : Program Value :=
  p.notify [.progress (p.totalWait.map (percentOf (now - startTime))) ((now - startTime) / 1000)]

theorem executeProgress_ok (h : p.totalWait ≠ some 0) (hstart : p.startTime = some startTime)
    (hvalid : validPercent (p.totalWait.map (percentOf (now - startTime))) = true) :
    (executeProgress now).run p = .ok ⟨⟩ { p.shown now startTime with
      nextTimer := p.nextTimer + 1
      pending := p.pending ++ [⟨p.nextTimer, now + (1000 : Nat), .progress⟩]
      currentProgressTimer := some p.nextTimer } := by
  simp only [executeProgress, run_bind, run_get, if_neg h, hstart, setProgress, hvalid]
  rfl

theorem executeProgress_error (h : p.totalWait ≠ some 0) (hstart : p.startTime = some startTime)
    (hvalid : validPercent (p.totalWait.map (percentOf (now - startTime))) = false) :
    (executeProgress now).run p = .error .wrongValue (p.shown now startTime) := by
  simp only [executeProgress, run_bind, run_get, if_neg h, hstart, setProgress, hvalid]
  rfl

/-- Showing the progress sets no output and stays at the step. -/
theorem executeProgress_frame (now : ℚ) (p : Program Value) :
    (after (executeProgress now) p).steps = p.steps ∧ (after (executeProgress now) p).totalWait =
      p.totalWait ∧
      (after (executeProgress now) p).currentStepIndex = p.currentStepIndex ∧
      (after (executeProgress now) p).outputCalls = p.outputCalls ∧
      Notification.outputs (after (executeProgress now) p).notified =
        Notification.outputs p.notified := by
  by_cases hzero : p.totalWait = some 0
  · rw [after_ok (executeProgress_zero hzero)]
    simp [notify, Notification.outputs]
  · cases hstart : p.startTime with
    | none =>
      have hthrow : (executeProgress now).run p = .error .mixedTypes p := by
        simp only [executeProgress, run_bind, run_get, if_neg hzero, hstart]
        rfl
      rw [after_error hthrow]
      simp
    | some startTime =>
      cases hvalid : validPercent (p.totalWait.map (percentOf (now - startTime))) with
      | false =>
        rw [after_error (executeProgress_error hzero hstart hvalid)]
        simp [shown, notify, Notification.outputs]
      | true =>
        rw [after_ok (executeProgress_ok hzero hstart hvalid)]
        simp [shown, notify, Notification.outputs]

end Progress

section Waiting

variable {i a : Nat} {progress : List Timer}

theorem Waiting.running (h : Waiting p i a progress) : p.running = true := by
  obtain ⟨delay, hstep⟩ := h.step
  simp [Program.running, currentStep, h.index, hstep]

theorem Waiting.notify (h : Waiting p i a progress) (l : List (Notification Value)) :
    Waiting (p.notify l) i a progress :=
  { h with }

/-- The progress that is shown while none is pending makes at most one timer, with or without an
error. -/
theorem Waiting.executeProgress (h : Waiting p i a []) (now : ℚ) :
    ∃ progress, Waiting (after (executeProgress now) p) i a progress := by
  by_cases hzero : p.totalWait = some 0
  · exact ⟨[], by rw [after_ok (executeProgress_zero hzero)]; exact h.notify _⟩
  · obtain ⟨startTime, hstart⟩ := Option.ne_none_iff_exists'.mp h.started
    cases hvalid : validPercent (p.totalWait.map (percentOf (now - startTime))) with
    | false => exact ⟨[],
      by rw [after_error (executeProgress_error hzero hstart hvalid)]; exact h.notify _⟩
    | true =>
      obtain ⟨due, hpending⟩ := h.pending
      have ha : a < p.nextTimer :=
        h.fresh ⟨a, due, .step i⟩ (hpending.mem_iff.mpr List.mem_cons_self)
      refine ⟨[⟨p.nextTimer, now + (1000 : Nat), .progress⟩], ?_⟩
      rw [after_ok (executeProgress_ok hzero hstart hvalid)]
      refine ⟨h.index, h.step, h.timer, ⟨due, ?_⟩, .inr ⟨_, _, rfl, Nat.ne_of_gt ha, rfl⟩, ?_,
        h.started⟩
      · exact hpending.append_right _
      · intro t ht
        rcases List.mem_append.mp ht with hold | hnew
        · exact Nat.lt_succ_of_lt (h.fresh t hold)
        · rw [List.mem_singleton.mp hnew]
          exact Nat.lt_succ_self _

theorem Waiting.interrupted (h : Waiting p i a progress) : ∃ q, interrupt.run p = .ok ⟨⟩ q ∧
    AtRest q ∧ q.steps = p.steps ∧
    q.totalWait = p.totalWait ∧ q.outputCalls = p.outputCalls ∧
      q.notified = p.notified ++ [.progress (some 0) 0, .running false] := by
  obtain ⟨delay, hstep⟩ := h.step
  have hcurrent : p.currentStep = some (.wait delay) := by
    rw [currentStep, h.index, Option.bind_some, hstep]
  have hinterrupt : interruptStep.run p = .ok ⟨⟩
      { p.clearTimeout (some a) with stepTimers := Function.update p.stepTimers i none } := by
    simp only [interruptStep, run_bind, run_get, h.index, hcurrent, ← h.timer]
    rfl
  have hrun : interrupt.run p = .ok ⟨⟩
      { p.clearTimeout (some a) with
        stepTimers := Function.update p.stepTimers i none : Program Value }.ended := by
    simp only [interrupt, run_bind, run_get, h.running, if_true]
    exact reset_of_interrupted hinterrupt
  refine ⟨_, hrun, ⟨rfl, rfl, rfl, ?_⟩, rfl, rfl, rfl, rfl⟩
  obtain ⟨due, hpending⟩ := h.pending
  show (p.pending.filter _).filter _ = []
  have hperm := (hpending.filter fun t => some t.id ≠ some a).filter fun t => some t.id ≠
    p.currentProgressTimer
  refine List.Perm.eq_nil (hperm.trans (List.Perm.of_eq ?_))
  obtain hnone | ⟨b, due', hb, -, hprogress⟩ := h.shown
  · simp [hnone]
  · by_cases hab : b = a <;> simp [hprogress, hb, hab]

/-- The timer of the wait fires, and the program goes on after it. -/
theorem Waiting.fired (h : Waiting p i a progress) {t : Timer} {j : Nat} (ht : t ∈ p.pending)
    (hj : t.callback = .step j) :
    j = i ∧ Stepping { p.clearTimeout (some t.id) with
      stepTimers := Function.update p.stepTimers j none } := by
  obtain ⟨due, hpending⟩ := h.pending
  have hmem := hpending.mem_iff.mp ht
  have hfirst : t = ⟨a, due, .step i⟩ := by
    rcases List.mem_cons.mp hmem with hfirst | hrest
    · exact hfirst
    · obtain hnone | ⟨b, due', -, -, hprogress⟩ := h.shown
      · rw [hnone] at hrest
        cases hrest
      · rw [hprogress, List.mem_singleton] at hrest
        rw [hrest] at hj
        cases hj
  subst hfirst
  cases hj
  have hperm := hpending.filter fun t => some t.id ≠ some a
  refine ⟨rfl, ⟨?_, fun t ht => h.fresh t (List.mem_of_mem_filter ht)⟩⟩
  obtain hnone | ⟨b, due', hb, hab, hprogress⟩ := h.shown
  · refine .inl (List.Perm.eq_nil (hperm.trans (List.Perm.of_eq ?_)))
    simp [hnone]
  · refine .inr ⟨b, due', hb, List.perm_singleton.mp (hperm.trans (List.Perm.of_eq ?_))⟩
    simp [hprogress, hab]

/-- The timer of the progress fires. -/
theorem Waiting.progressed (h : Waiting p i a progress) {t : Timer} (ht : t ∈ p.pending)
    (hcallback : t.callback = .progress) :
    Waiting (p.clearTimeout (some t.id)) i a [] := by
  obtain ⟨due, hpending⟩ := h.pending
  have hmem := hpending.mem_iff.mp ht
  have hperm := hpending.filter fun t' => some t'.id ≠ some t.id
  refine ⟨h.index, h.step, h.timer, ⟨due, hperm.trans (List.Perm.of_eq ?_)⟩, .inl rfl,
    fun t ht => h.fresh t (List.mem_of_mem_filter ht), h.started⟩
  rcases List.mem_cons.mp hmem with hfirst | hrest
  · rw [hfirst] at hcallback
    cases hcallback
  · obtain hnone | ⟨b, due', -, hab, hprogress⟩ := h.shown
    · rw [hnone] at hrest
      cases hrest
    · rw [hprogress, List.mem_singleton] at hrest
      simp [hrest, hprogress, hab.symm]

end Waiting

/-! ## Set up -/

/-- Steps that do not wait take no time. -/
theorem totalDelay_sync (numbers : Numbers) {steps : List (Step Value)}
    (h : ∀ step ∈ steps, step.isSync = true) :
    totalDelay numbers steps = some 0 := by
  unfold totalDelay
  induction steps with
  | nil => rfl
  | cons step rest ih =>
    have hrest := ih fun s hs => h s (List.mem_cons_of_mem _ hs)
    have hstep := h step List.mem_cons_self
    cases step with
    | wait => cases hstep
    | setOutput | setAllOutputs => exact hrest

/-- A program is at rest after `setup`. -/
theorem setup_eq (numbers : Numbers) (steps : List (Step Value)) :
    setup numbers steps =
      { steps, totalWait := totalDelay numbers steps, notified := [.progress (some 0) 0,
        .running false] } := by
  have hreset := reset_of_interrupted
    (interruptStep_past (p := ({ steps, totalWait := totalDelay numbers steps } : Program Value))
      rfl)
  rw [setup, after_ok hreset]
  rfl

theorem setup_rest (numbers : Numbers) (steps : List (Step Value)) :
    AtRest (setup numbers steps) := by
  rw [setup_eq]
  exact ⟨rfl, rfl, rfl, rfl⟩

/-! ## Failing outputs -/

/-- The calls that set outputs. -/
inductive Op where
  | run (now later : ℚ)
  | fire (now : ℚ) (timer : Timer)

def Op.exec (behave : Nat → Behaviour) : Op → Run Value PUnit
  | .run now later => Timers.run behave now later
  | .fire now timer => Timers.fire behave now timer

/-- The steps that a call goes on with. -/
def Op.steps (p : Program Value) : Op → List (Step Value)
  | .run _ _ => p.steps
  | .fire _ timer =>
    match timer.callback with
    | .step i => p.steps.drop (i + 1)
    | .progress => []

/-- `run()` is called at rest, and the timer of a wait fires while it is pending. A program without
waits has no time in total. -/
structure Op.Ready (p : Program Value) (op : Op) : Prop where
  total : (∀ step ∈ p.steps, step.isSync = true) → p.totalWait = some 0
  state : match op with
    | .run _ _ => AtRest p
    | .fire _ timer => timer ∈ p.pending ∧ ∃ i a progress, timer.callback = .step i ∧
      Waiting p i a progress

/-- During the call, `setOutput` throws or calls `interrupt()`. -/
def Touched (behave : Nat → Behaviour) (p : Program Value) (op : Op) : Prop :=
  ∃ k, p.outputCalls ≤ k ∧ k < (after (op.exec behave) p).outputCalls ∧ behave k ≠ .returns

/-- The call does not throw. The program is at rest then, so that `run()` starts with the first step
again, and the last notifications say so. -/
def EndsCleanly (behave : Nat → Behaviour) (p : Program Value) (op : Op) : Prop :=
  ∃ q, (op.exec behave).run p = .ok ⟨⟩ q ∧ AtRest q ∧ q.steps = p.steps ∧
    ∃ before, q.notified = before ++ [.progress (some 0) 0, .running false] ∨
      q.notified = before ++ [.running false, .progress (some 0) 0]

/-- The program before the steps of a call. -/
def Op.begun (p : Program Value) : Op → Program Value
  | .run now _ => { p with currentStepIndex := none, startTime := some now }
  | .fire _ timer =>
    match timer.callback with
    | .step i => { p.clearTimeout (some timer.id) with
      stepTimers := Function.update p.stepTimers i none }
    | .progress => p

def Op.instant : Op → ℚ
  | .run now _ => now
  | .fire now _ => now

/-- What a call does after the steps. -/
def Op.finish : Op → Run Value PUnit
  | .run _ later => executeProgress later
  | .fire _ _ => pure ⟨⟩

theorem Op.Ready.begun {op : Op} (h : op.Ready p) :
    Stepping (op.begun p) ∧ (op.begun p).steps.drop (op.begun p).nextIndex = op.steps p ∧
      (op.begun p).startTime ≠ none ∧ (op.begun p).outputCalls = p.outputCalls ∧
        (op.begun p).steps = p.steps ∧
      (op.begun p).totalWait = p.totalWait := by
  cases op with
  | run now later => exact ⟨h.state.stepping _, rfl, by simp [Op.begun], rfl, rfl, rfl⟩
  | fire now timer =>
    obtain ⟨htimer, i, a, progress, hcallback, hwaiting⟩ := h.state
    have hindex : (p.clearTimeout (some timer.id)).nextIndex = i + 1 := by
      simp [nextIndex, clearTimeout, hwaiting.index]
    simp only [Op.begun, Op.steps, hcallback]
    exact ⟨(hwaiting.fired htimer hcallback).2, congrArg (p.steps.drop ·) hindex, hwaiting.started,
      rfl, rfl, rfl⟩

theorem Op.Ready.exec (behave : Nat → Behaviour) {op : Op} (h : op.Ready p) :
    (op.exec behave).run p =
    (executeSteps behave op.instant (op.steps p) >>= fun _ => op.finish).run (op.begun p) := by
  have hdrop := h.begun.2.1
  cases op with
  | run now later => rfl
  | fire now timer =>
    obtain ⟨-, i, -, -, hcallback, -⟩ := h.state
    have hfire : (Op.exec behave (.fire now timer)).run p =
        (executeStep behave now).run (Op.begun p (.fire now timer)) := by
      simp only [Op.exec, Timers.fire, run_bind, run_modify, hcallback, Op.begun]
      rfl
    rw [hfire, run_bind, ← hdrop, Op.instant, ← executeStep_eq]
    cases (executeStep behave now).run (Op.begun p (.fire now timer)) <;> rfl

/-- A call whose outputs do not fail. -/
theorem Op.Ready.exec_quiet {op : Op} (h : op.Ready p)
    (hq : AllQuiet behave p.outputCalls (leadingOutputs (op.steps p))) :
    (op.exec behave).run p = op.finish.run (arrive op.instant (op.steps p) (op.begun p)) := by
  obtain ⟨-, hdrop, -, hcalls, -⟩ := h.begun
  rw [h.exec, run_bind, executeSteps_ok hdrop (hcalls ▸ hq)]

/-- Where a call leaves the program whose outputs do not fail: at its end, or at the next wait. -/
theorem Op.Ready.arrives (behave : Nat → Behaviour) {op : Op} (h : op.Ready p)
    (hq : AllQuiet behave p.outputCalls (leadingOutputs (op.steps p))) :
    (after (op.exec behave) p).steps = p.steps ∧ (after (op.exec behave) p).totalWait =
      p.totalWait ∧
      Notification.outputs (after (op.exec behave) p).notified = Notification.outputs p.notified ++
        leadingOutputs (op.steps p) ∧
      if ∀ step ∈ op.steps p, step.isSync = true then AtRest (after (op.exec behave) p)
      else ∃ a progress, Waiting (after (op.exec behave) p)
        ((op.begun p).nextIndex + ((op.steps p).takeWhile Step.isSync).length) a progress := by
  obtain ⟨hstepping, hdrop, hstart, -, hsteps, htotal⟩ := h.begun
  obtain ⟨hsteps', htotal', -, houtputs⟩ := arrive_frame op.instant (op.steps p) (op.begun p)
  have hrest := arrive_rest op.instant (l := op.steps p) hstepping
  have hwaits := arrive_waiting op.instant hdrop hstepping hstart
  have hafter : after (op.exec behave) p =
      after op.finish (arrive op.instant (op.steps p) (op.begun p)) := by
    rw [after, after, h.exec_quiet hq]
  rw [hafter]
  generalize arrive op.instant (op.steps p) (op.begun p) =
    q at hsteps' htotal' houtputs hrest hwaits ⊢
  cases op with
  | run now later =>
    obtain ⟨hsteps₁, htotal₁, -, -, houtputs₁⟩ := executeProgress_frame later q
    refine ⟨hsteps₁.trans (hsteps'.trans hsteps), htotal₁.trans (htotal'.trans htotal),
      houtputs₁.trans houtputs, ?_⟩
    split
    · rename_i hsync
      have hzero : q.totalWait = some 0 := htotal'.trans (htotal.trans (h.total hsync))
      have hatRest := (hrest hsync).1
      rw [Op.finish, after_ok (executeProgress_zero hzero)]
      exact { hatRest with }
    · rename_i hwait
      simp only [not_forall, Bool.not_eq_true, exists_prop] at hwait
      obtain ⟨⟨a, progress, hwaiting⟩, -, htimer⟩ := hwaits hwait
      have hnone : progress = [] := by
        obtain hnone | ⟨b, due, hb, -⟩ := hwaiting.shown
        · exact hnone
        · rw [htimer] at hb
          exact absurd (h.state.progressTimer.symm.trans hb) (by simp)
      subst hnone
      exact ⟨a, hwaiting.executeProgress later⟩
  | fire now timer =>
    have hkeys : Notification.outputs (Op.begun p (.fire now timer)).notified =
        Notification.outputs p.notified := by
      simp only [Op.begun]
      split <;> rfl
    refine ⟨hsteps'.trans hsteps, htotal'.trans htotal, houtputs.trans (by rw [hkeys]), ?_⟩
    split
    · rename_i hsync
      exact (hrest hsync).1
    · rename_i hwait
      simp only [not_forall, Bool.not_eq_true, exists_prop] at hwait
      exact (hwaits hwait).1

/-- A call with failing outputs ends cleanly exactly if none of them fails with an error, and if
what is left of the program has no wait as soon as one of them calls `interrupt()`. -/
theorem failing_outputs_iff (behave : Nat → Behaviour) (p : Program Value) (op : Op)
    (h : op.Ready p) :
    (Touched behave p op → EndsCleanly behave p op) ↔
      AllQuiet behave p.outputCalls (leadingOutputs (op.steps p)) ∧
        ((∃ k < (leadingOutputs (op.steps p)).length, behave (p.outputCalls + k) ≠ .returns) →
          ∀ step ∈ op.steps p, step.isSync = true) := by
  obtain ⟨hstepping, hdrop, hstart, hcalls, hsteps, htotal⟩ := h.begun
  by_cases hq : AllQuiet behave p.outputCalls (leadingOutputs (op.steps p))
  · have hexec := h.exec_quiet hq
    obtain ⟨hsteps', htotal', hcalls', -⟩ := arrive_frame op.instant (op.steps p) (op.begun p)
    have hrest := arrive_rest op.instant (l := op.steps p) hstepping
    have hwaits := arrive_waiting op.instant hdrop hstepping hstart
    generalize arrive op.instant (op.steps p) (op.begun p) =
      q at hexec hsteps' htotal' hcalls' hrest hwaits
    have hafter : after (op.exec behave) p = after op.finish q := by
      rw [after, after, hexec]
    have hkept : (after (op.exec behave) p).outputCalls = q.outputCalls ∧
        (after (op.exec behave) p).currentStepIndex = q.currentStepIndex := by
      rw [hafter]
      cases op with
      | run now later =>
        obtain ⟨-, -, hindex, hcalls, -⟩ := executeProgress_frame later q
        exact ⟨hcalls, hindex⟩
      | fire now timer => exact ⟨rfl, rfl⟩
    have htouched : Touched behave p op ↔
        ∃ k < (leadingOutputs (op.steps p)).length, behave (p.outputCalls + k) ≠ .returns := by
      rw [Touched, hkept.1, hcalls', hcalls]
      constructor
      · rintro ⟨k, hk, hk', hne⟩
        refine ⟨k - p.outputCalls, by omega, ?_⟩
        rwa [Nat.add_sub_cancel' hk]
      · rintro ⟨k, hk, hne⟩
        exact ⟨p.outputCalls + k, by omega, by omega, hne⟩
    rw [← htouched, and_iff_right hq]
    refine ⟨fun hclean ht => ?_, fun hcond ht => ?_⟩
    · -- a program that waits is not at rest
      by_contra hwait
      simp only [not_forall, Bool.not_eq_true, exists_prop] at hwait
      obtain ⟨⟨a, progress, hwaiting⟩, -⟩ := hwaits hwait
      obtain ⟨q₁, hok, hatRest, -⟩ := hclean ht
      have hindex := hkept.2
      rw [after_ok hok, hatRest.index, hwaiting.index] at hindex
      cases hindex
    · obtain ⟨hatRest, before, hnotified⟩ := hrest (hcond ht)
      cases op with
      | run now later =>
        have hzero : q.totalWait = some 0 := htotal'.trans (htotal.trans (h.total (hcond ht)))
        refine ⟨_, hexec.trans (executeProgress_zero hzero),
          { hatRest with },
          hsteps'.trans hsteps, before ++ [.progress (some 0) 0], .inr ?_⟩
        rw [Program.notify, hnotified]
        simp
      | fire now timer => exact ⟨q, hexec, hatRest, hsteps'.trans hsteps, before, .inl hnotified⟩
  · obtain ⟨q, herror, hsync, k, hk, hk', hloud⟩ :=
      executeSteps_error op.instant hdrop (hcalls ▸ hq)
    have hexec := h.exec behave
    rw [run_bind, herror] at hexec
    refine iff_of_false (fun hclean => ?_) fun hcond => hq hcond.1
    have htouched : Touched behave p op := by
      refine ⟨k, hcalls ▸ hk, ?_, fun hreturns => ?_⟩
      · rw [after_error hexec]
        exact hk'
      · rw [hreturns] at hloud
        cases hloud
    obtain ⟨q', hok, -⟩ := hclean htouched
    rw [hexec] at hok
    cases hok

/-- A program that sets one output. -/
def singleOutput : Program Nat := { steps := [.setOutput (Fin.last 9) 50], totalWait := some 0 }

/-- The listener of the output calls `interrupt()` and catches the error. -/
theorem failing_outputs_caught :
    Touched (fun _ => .interrupts true) singleOutput (.run 0 0) ∧
      EndsCleanly (fun _ => .interrupts true) singleOutput (.run 0 0) := by
  have htouched : Touched (fun _ => .interrupts true) singleOutput (.run 0 0) :=
    ⟨0, Nat.le_refl 0, by decide +kernel, by decide⟩
  have hready : Op.Ready singleOutput (.run 0 0) :=
    ⟨fun _ => rfl, (⟨rfl, rfl, rfl, rfl⟩ : AtRest singleOutput)⟩
  refine ⟨htouched, (failing_outputs_iff _ singleOutput _ hready).mpr ⟨fun _ _ => rfl,
    fun _ => ?_⟩ htouched⟩
  simp [Op.steps, singleOutput, Step.isSync]

/-- An output that throws: `run()` throws too and leaves the program running, and from then on
`interrupt()` throws. -/
theorem failing_output_stays : Touched (fun _ => .throws) singleOutput (.run 0 0) ∧
    ∃ q, (run (fun _ => .throws) 0 0).run singleOutput = .error .cannotInterrupt q ∧
      q.running = true ∧
      q.notified = [.running true, .output 9 50] ∧ interrupt.run q = .error .cannotInterrupt q := by
  refine ⟨⟨0, Nat.le_refl 0, by decide +kernel, by decide⟩, _, rfl, rfl, rfl, rfl⟩

end MylifeHome.Plugins.Timers
