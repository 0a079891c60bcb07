import MylifeHome.Plugins.Timers.Runs
import MylifeHome.Lib.Run
import Mathlib.Tactic.FieldSimp
import Mathlib.Tactic.Linarith

/-!
# The progress of a program

The percentage is the time since the start over the sum of the waits. Both timers can be
late, and the run ends with the last wait, whenever that is: a progress that is shown late
is over 100.
-/
namespace MylifeHome.Plugins.Timers

open MylifeHome.Lib

variable {Value : Type}

/-! ## Percentages -/

/-- The time since the start is rounded to at most 100 percent. -/
def InTime (elapsed : ℚ) (total : Nat) : Prop := elapsed * 200 < 201 * total

theorem percentOf_nonneg {elapsed : ℚ} {total : Nat} (h : 0 ≤ elapsed) :
    0 ≤ percentOf elapsed total := by
  refine Int.floor_nonneg.mpr ?_
  positivity

theorem percentOf_le_iff {elapsed : ℚ} {total : Nat} (ht : 0 < total) :
    percentOf elapsed total ≤ 100 ↔ InTime elapsed total := by
  have hpos : (0 : ℚ) < total := by exact_mod_cast ht
  rw [← Int.lt_add_one_iff, percentOf, Int.floor_lt, InTime]
  have hlt : elapsed / total * 100 + 1 / 2 < ((100 + 1 : Int) : ℚ) ↔
      elapsed / total < 201 / 200 := by
    push_cast
    constructor <;> intro h <;> linarith
  rw [hlt, div_lt_div_iff₀ hpos (by norm_num)]

theorem validPercent_iff {elapsed : ℚ} {total : Nat} (h : 0 ≤ elapsed) (ht : 0 < total) :
    validPercent (some (percentOf elapsed total)) = true ↔ InTime elapsed total := by
  rw [← percentOf_le_iff ht]
  simp [validPercent, percentOf_nonneg h]

theorem percentOf_mono {elapsed elapsed' : ℚ} (total : Nat) (h : elapsed ≤ elapsed') :
    percentOf elapsed total ≤ percentOf elapsed' total := by
  refine Int.floor_le_floor ?_
  gcongr

/-! ## A program that is watched -/

/-- The percentages that were assigned, in order. -/
def percents (notified : List (Notification Value)) : List (Option Int) :=
  notified.filterMap fun
    | .progress percent _ => some percent
    | _ => none

inductive Event where
  | run (now later : ℚ)
  | interrupt (now : ℚ)
  | fire (now : ℚ) (timer : Timer)

/-- The methods while outputs do not fail. -/
def Event.exec : Event → Run Value PUnit
  | .run now later => Timers.run (fun _ => .returns) now later
  | .interrupt _ => Timers.interrupt
  | .fire now timer => Timers.fire (fun _ => .returns) now timer

/-- A program, the time, and the percentages of the run that goes on. -/
structure Watched (Value : Type) where
  program : Program Value
  clock : ℚ
  shown : List (Option Int) := []

def newPercents (w : Watched Value) (e : Event) : List (Option Int) :=
  (percents (after e.exec w.program).notified).drop (percents w.program.notified).length

def Event.time : Event → ℚ
  | .run _ later => later
  | .interrupt now => now
  | .fire now _ => now

/-- The percentages so far of the run that the event belongs to. -/
def Watched.shownBefore (w : Watched Value) : Event → List (Option Int)
  | .run _ _ => []
  | _ => w.shown

def Watched.step (w : Watched Value) (e : Event) : Watched Value where
  program := after e.exec w.program
  clock := e.time
  shown := if (after e.exec w.program).running then w.shownBefore e ++ newPercents w e else []

/-- Time goes on, `run()` is called at rest, and a timer fires while it is pending, at its due time
or later. -/
def Timely (w : Watched Value) : Event → Prop
  | .run now later => w.clock ≤ now ∧ now ≤ later ∧ w.program.running = false
  | .interrupt now => w.clock ≤ now
  | .fire now timer => w.clock ≤ now ∧ timer ∈ w.program.pending ∧ timer.due ≤ now

/-- Nothing is thrown, only percentages are assigned, and those of a run do not decrease. -/
structure ProgressFits (w : Watched Value) (e : Event) : Prop where
  returns : ∃ q, (e.exec : Run Value PUnit).run w.program = .ok ⟨⟩ q
  valid : ∀ percent ∈ newPercents w e, validPercent percent = true
  grows : (w.step e).shown.Pairwise fun percent percent' => ∀ a ∈ percent, ∀ b ∈ percent', a ≤ b

/-- The progress is shown in time. -/
def ShownInTime (w : Watched Value) : Event → Prop
  | .run now later => ∀ total ∈ w.program.totalWait, InTime (later - now) total
  | .interrupt _ => True
  | .fire now timer => timer.callback = .progress →
    ∀ start ∈ w.program.startTime, ∀ total ∈ w.program.totalWait,
      InTime (now - start) total

/-! ## One step -/

variable {p : Program Value} {now start : ℚ} {total i a : Nat}

theorem percents_append (l l' : List (Notification Value)) :
    percents (l ++ l') = percents l ++ percents l' :=
  List.filterMap_append

theorem percents_outputs (outputs : List (Fin 10 × Value)) :
    percents (outputs.map fun e => .output e.1 e.2) = [] := by
  rw [percents, List.filterMap_map]
  exact List.filterMap_eq_nil_iff.mpr fun _ _ => rfl

/-- The steps up to a wait show no progress, and the end of the program shows none any more. -/
theorem percents_arrive (now : ℚ) (l : List (Step Value)) (p : Program Value) :
    percents (arrive now l p).notified =
      percents p.notified ++ if ∀ step ∈ l, step.isSync = true then [some 0] else [] := by
  induction l generalizing p with
  | nil => simp [arrive, Program.ended, percents]
  | cons step rest ih =>
    cases hstep : step.isSync with
    | false =>
      cases step with
      | wait delay => simp [arrive, Program.waitAt, Program.begin, Program.notify, percents,
        Step.isSync]
      | setOutput | setAllOutputs => cases hstep
    | true =>
      have hbegun : percents (p.begin.perform step.outputs).notified = percents p.notified := by
        simp only [Program.perform, Program.begin, Program.notify, percents_append,
          percents_outputs, List.append_nil]
        exact List.append_nil _
      rw [arrive_sync hstep, ih, hbegun]
      simp only [List.forall_mem_cons, hstep, true_and]

/-- The progress is shown while the program waits and no progress is pending. -/
theorem Waiting.shown_ok (h : Waiting p i a []) (htotal : p.totalWait = some total)
    (hpos : 0 < total) (hstart : p.startTime = some start) (hle : start ≤ now)
    (hin : InTime (now - start) total) :
    ∃ q progress, (Timers.executeProgress now).run p = .ok ⟨⟩ q ∧ Waiting q i a progress ∧
      q.startTime = some start ∧
      q.steps = p.steps ∧ q.totalWait = some total ∧
      percents q.notified = percents p.notified ++ [some (percentOf (now - start) total)] := by
  have hzero : p.totalWait ≠ some 0 := by
    rw [htotal]
    exact fun h0 => hpos.ne' (Option.some.inj h0)
  have hvalid : validPercent (p.totalWait.map (percentOf (now - start))) = true := by
    rw [htotal]
    exact (validPercent_iff (sub_nonneg.mpr hle) hpos).mpr hin
  have hok := executeProgress_ok hzero hstart hvalid
  obtain ⟨progress, hwaiting⟩ := h.executeProgress now
  rw [after_ok hok] at hwaiting
  refine ⟨_, progress, hok, hwaiting, hstart, rfl, htotal, ?_⟩
  simp [Program.shown, Program.notify, htotal, percents]

theorem shown_late (htotal : p.totalWait = some total) (hpos : 0 < total)
    (hstart : p.startTime = some start) (hle : start ≤ now)
    (hlate : ¬ InTime (now - start) total) : ∃ q, (executeProgress now).run p =
      .error .wrongValue q := by
  have hzero : p.totalWait ≠ some 0 := by
    rw [htotal]
    exact fun h0 => hpos.ne' (Option.some.inj h0)
  have hvalid : validPercent (p.totalWait.map (percentOf (now - start))) = false := by
    rw [htotal, ← Bool.not_eq_true]
    exact fun hvalid => hlate ((validPercent_iff (sub_nonneg.mpr hle) hpos).mp hvalid)
  exact ⟨_, executeProgress_error hzero hstart hvalid⟩

/-- Percentages that do not decrease, up to a bound. -/
def GrowsTo (shown : List (Option Int)) (bound : Int) : Prop :=
  shown.Pairwise (fun percent percent' => ∀ a ∈ percent, ∀ b ∈ percent', a ≤ b) ∧
    ∀ percent ∈ shown, ∀ a ∈ percent, a ≤ bound

theorem GrowsTo.mono {shown : List (Option Int)} {bound bound' : Int} (h : GrowsTo shown bound)
    (hle : bound ≤ bound') :
    GrowsTo shown bound' :=
  ⟨h.1, fun percent hp a ha => (h.2 percent hp a ha).trans hle⟩

theorem GrowsTo.append {shown : List (Option Int)} {bound : Int} (h : GrowsTo shown bound) :
    GrowsTo (shown ++ [some bound]) bound := by
  refine ⟨List.pairwise_append.mpr ⟨h.1, List.pairwise_singleton _ _,
    fun percent hp percent' hp' a ha b hb => ?_⟩, fun percent hp a ha => ?_⟩
  · rw [List.mem_singleton.mp hp'] at hb
    cases hb
    exact h.2 percent hp a ha
  · rcases List.mem_append.mp hp with hold | hnew
    · exact h.2 percent hold a ha
    · rw [List.mem_singleton.mp hnew] at ha
      cases ha
      exact le_rfl

/-- The program has something to wait for. It is at rest, or it waits and the percentages of the run
are at most the one of the present time. -/
structure Watching (total : Nat) (w : Watched Value) : Prop where
  totalWait : w.program.totalWait = some total
  wait : ∃ step ∈ w.program.steps, step.isSync = false
  state : AtRest w.program ∨ ∃ i a progress start, Waiting w.program i a progress ∧
    w.program.startTime = some start ∧
    start ≤ w.clock ∧ GrowsTo w.shown (percentOf (w.clock - start) total)

variable {w : Watched Value} {e : Event} {q : Program Value} {new : List (Option Int)}

theorem newPercents_eq (hok : (e.exec : Run Value PUnit).run w.program = .ok ⟨⟩ q)
    (hnew : percents q.notified = percents w.program.notified ++ new) : newPercents w e = new := by
  rw [newPercents, after_ok hok, hnew, List.drop_left]

/-- A step that leaves the program at rest shows that there is no progress any more. -/
theorem Watching.rested (h : Watching total w)
    (hok : (e.exec : Run Value PUnit).run w.program = .ok ⟨⟩ q) (hsteps : q.steps = w.program.steps)
    (htotal : q.totalWait = w.program.totalWait) (hrest : AtRest q)
    (hnew : percents q.notified = percents w.program.notified ++ new)
    (hvalid : ∀ percent ∈ new, validPercent percent = true) :
    ProgressFits w e ∧ Watching total (w.step e) := by
  have hprogram : (w.step e).program = q := after_ok hok
  have hshown : (w.step e).shown = [] := by
    simp only [Watched.step, after_ok hok, hrest.running, Bool.false_eq_true, if_false]
  refine ⟨⟨⟨q, hok⟩, newPercents_eq hok hnew ▸ hvalid, hshown ▸ List.Pairwise.nil⟩, ?_, ?_, .inl ?_⟩
  · rw [hprogram, htotal, h.totalWait]
  · rw [hprogram, hsteps]
    exact h.wait
  · rw [hprogram]
    exact hrest

/-- A step that leaves the program waiting. -/
theorem Watching.waits (h : Watching total w)
    (hok : (e.exec : Run Value PUnit).run w.program = .ok ⟨⟩ q) (hsteps : q.steps = w.program.steps)
    (htotal : q.totalWait = w.program.totalWait) {progress : List Timer}
    (hwaiting : Waiting q i a progress) (hstart : q.startTime = some start) (hle : start ≤ e.time)
    (hnew : percents q.notified = percents w.program.notified ++ new)
    (hvalid : ∀ percent ∈ new, validPercent percent = true)
    (hgrows : GrowsTo (w.shownBefore e ++ new) (percentOf (e.time - start) total)) :
    ProgressFits w e ∧ Watching total (w.step e) := by
  have hprogram : (w.step e).program = q := after_ok hok
  have hshown : (w.step e).shown = w.shownBefore e ++ new := by
    simp only [Watched.step, after_ok hok, hwaiting.running, if_true, newPercents_eq hok hnew]
  refine ⟨⟨⟨q, hok⟩, newPercents_eq hok hnew ▸ hvalid, hshown ▸ hgrows.1⟩, ?_, ?_,
    .inr ⟨i, a, progress, start, ?_, ?_, hle, ?_⟩⟩
  · rw [hprogram, htotal, h.totalWait]
  · rw [hprogram, hsteps]
    exact h.wait
  · rw [hprogram]
    exact hwaiting
  · rw [hprogram]
    exact hstart
  · rw [hshown]
    exact hgrows

theorem ProgressFits.not_error {error : RunError}
    (herror : (e.exec : Run Value PUnit).run w.program = .error error q) :
    ¬ ProgressFits w e := by
  intro h
  obtain ⟨q', hok⟩ := h.returns
  rw [herror] at hok
  cases hok

theorem allQuiet_returns (calls : Nat) (outputs : List (Fin 10 × Value)) :
    AllQuiet (fun _ => .returns) calls outputs :=
  fun _ _ => rfl

theorem Watching.ready (h : Watching total w) {op : Op}
    (hstate : match op with
      | .run _ _ => AtRest w.program
      | .fire _ timer => timer ∈ w.program.pending ∧ ∃ i a progress, timer.callback = .step i ∧
        Waiting w.program i a progress) :
    op.Ready w.program := by
  refine ⟨fun hsync => ?_, hstate⟩
  obtain ⟨step, hstep, hwait⟩ := h.wait
  rw [hsync step hstep] at hwait
  cases hwait

/-- `run()` goes to the first wait and shows the progress there. -/
theorem Watching.started (h : Watching total w) (hrest : AtRest w.program) (now later : ℚ) :
    ∃ q i a, (Event.exec (.run now later) : Run Value PUnit).run w.program =
      (executeProgress later).run q ∧
      Waiting q i a [] ∧ q.startTime = some now ∧ q.steps = w.program.steps ∧
        q.totalWait = some total ∧
      percents q.notified = percents w.program.notified := by
  have hready : (Op.run now later).Ready w.program := h.ready hrest
  obtain ⟨hstepping, hdrop, hstart, -, -, -⟩ := hready.begun
  obtain ⟨⟨a, progress, hwaiting⟩, hstart', htimer⟩ :=
    arrive_waiting now hdrop hstepping hstart h.wait
  obtain ⟨hsteps, htotal, -, -⟩ :=
    arrive_frame now w.program.steps (Op.begun w.program (.run now later))
  have hexec := hready.exec_quiet (allQuiet_returns _ _)
  have hnone : progress = [] := by
    obtain hnone | ⟨b, due, hb, -⟩ := hwaiting.shown
    · exact hnone
    · rw [htimer] at hb
      exact absurd (hrest.progressTimer.symm.trans hb) (by simp)
  subst hnone
  refine ⟨_, _, a, hexec, hwaiting, hstart', hsteps, htotal.trans h.totalWait, ?_⟩
  obtain ⟨step, hstep, hwait⟩ := h.wait
  have hsome : ¬ ∀ step ∈ w.program.steps, step.isSync = true := by
    intro hsync
    rw [hsync step hstep] at hwait
    cases hwait
  have hpercents := percents_arrive now w.program.steps (Op.begun w.program (.run now later))
  rw [if_neg hsome, List.append_nil] at hpercents
  exact hpercents

/-- The progress is shown at the end of the step. -/
theorem Watching.shows (h : Watching total w) (hpos : 0 < total) {p : Program Value}
    (hexec : (e.exec : Run Value PUnit).run w.program = (executeProgress e.time).run p)
    (hwaiting : Waiting p i a []) (hstart : p.startTime = some start)
    (hsteps : p.steps = w.program.steps) (htotal : p.totalWait = some total)
    (hpercents : percents p.notified = percents w.program.notified) (hle : start ≤ e.time)
    (hgrows : GrowsTo (w.shownBefore e) (percentOf (e.time - start) total)) :
    (ProgressFits w e ↔ InTime (e.time - start) total) ∧
      (InTime (e.time - start) total → Watching total (w.step e)) := by
  by_cases hin : InTime (e.time - start) total
  · obtain ⟨q, progress, hok, hwaiting', hstart', hsteps', htotal', hnew⟩ :=
      hwaiting.shown_ok htotal hpos hstart hle hin
    have hvalid : ∀ percent ∈ [some (percentOf (e.time - start) total)], validPercent percent =
        true := by
      intro percent hp
      rw [List.mem_singleton.mp hp]
      exact (validPercent_iff (sub_nonneg.mpr hle) hpos).mpr hin
    rw [hpercents] at hnew
    have hfits := h.waits (hexec.trans hok) (hsteps'.trans hsteps) (htotal'.trans h.totalWait.symm)
      hwaiting' hstart' hle hnew
      hvalid hgrows.append
    exact ⟨iff_of_true hfits.1 hin, fun _ => hfits.2⟩
  · obtain ⟨q, herror⟩ := shown_late htotal hpos hstart hle hin
    exact ⟨iff_of_false (ProgressFits.not_error (hexec.trans herror)) hin,
      fun hin' => absurd hin' hin⟩

/-- The timer of a wait fires: the program goes on to the next wait or to its end. -/
theorem Watching.stepFired (h : Watching total w) {timer : Timer} {progress : List Timer}
    (hwaiting : Waiting w.program i a progress) (hstart : w.program.startTime = some start)
    (hle : start ≤ now) (hgrows : GrowsTo w.shown (percentOf (now - start) total))
    (hmem : timer ∈ w.program.pending) (hcallback : timer.callback = .step i) :
    ProgressFits w (.fire now timer) ∧ Watching total (w.step (.fire now timer)) := by
  have hready : (Op.fire now timer).Ready w.program :=
    h.ready ⟨hmem, i, a, progress, hcallback, hwaiting⟩
  obtain ⟨hstepping, hdrop, hstart', -, hsteps₀, htotal₀⟩ := hready.begun
  have hbegun : (Op.begun w.program (.fire now timer)).startTime = w.program.startTime ∧
      (Op.begun w.program (.fire now timer)).notified = w.program.notified := by
    simp only [Op.begun, hcallback]
    exact ⟨rfl, rfl⟩
  have hexec := hready.exec_quiet (allQuiet_returns _ _)
  have hnew := percents_arrive now ((Op.fire now timer).steps w.program)
    (Op.begun w.program (.fire now timer))
  obtain ⟨hsteps, htotal, -, -⟩ :=
    arrive_frame now ((Op.fire now timer).steps w.program) (Op.begun w.program (.fire now timer))
  rw [hbegun.2] at hnew
  rw [hsteps₀] at hsteps
  rw [htotal₀] at htotal
  by_cases hsync : ∀ step ∈ (Op.fire now timer).steps w.program, step.isSync = true
  · rw [if_pos hsync] at hnew
    refine h.rested hexec hsteps htotal (arrive_rest now hstepping hsync).1 hnew fun percent
      hp => ?_
    rw [List.mem_singleton.mp hp]
    rfl
  · rw [if_neg hsync] at hnew
    simp only [not_forall, Bool.not_eq_true, exists_prop] at hsync
    obtain ⟨⟨a', progress', hwaiting'⟩, hstart'', -⟩ :=
      arrive_waiting now hdrop hstepping hstart' hsync
    rw [hbegun.1, hstart] at hstart''
    refine h.waits hexec hsteps htotal hwaiting' hstart'' hle hnew (by simp) ?_
    rw [List.append_nil]
    exact hgrows

/-- An interruption ends the run, if there is one. -/
theorem Watching.interrupted (h : Watching total w) (now : ℚ) :
    ProgressFits w (.interrupt now) ∧ Watching total (w.step (.interrupt now)) := by
  obtain hrest | ⟨i, a, progress, start, hwaiting, -⟩ := h.state
  · have hok : (Event.exec (.interrupt now) : Run Value PUnit).run w.program =
        .ok ⟨⟩ w.program := by
      simp only [Event.exec, Timers.interrupt, EStateM.run_bind, EStateM.run_get, hrest.running]
      rfl
    exact h.rested hok rfl rfl hrest (List.append_nil _).symm (by simp)
  · obtain ⟨q, hok, hrest, hsteps, htotal, -, hnotified⟩ := hwaiting.interrupted
    have hnew : percents q.notified = percents w.program.notified ++ [some 0] := by
      rw [hnotified, percents_append]
      rfl
    refine h.rested hok hsteps htotal hrest hnew fun percent hp => ?_
    rw [List.mem_singleton.mp hp]
    rfl

/-- Each step fits exactly if its progress is shown in time, and then the program is watched on. -/
theorem Watching.step (hpos : 0 < total) (w : Watched Value) (e : Event) (h : Watching total w)
    (ht : Timely w e) :
    (ProgressFits w e ↔ ShownInTime w e) ∧ (ShownInTime w e → Watching total (w.step e)) := by
  cases e with
  | run now later =>
    obtain ⟨-, hle, hidle⟩ := ht
    have hrest : AtRest w.program := by
      obtain hrest | ⟨i, a, progress, start, hwaiting, -⟩ := h.state
      · exact hrest
      · rw [hwaiting.running] at hidle
        cases hidle
    have hin : ShownInTime w (.run now later) ↔ InTime (later - now) total := by
      simp [ShownInTime, h.totalWait]
    obtain ⟨q, i, a, hexec, hwaiting, hstart, hsteps, htotal, hpercents⟩ :=
      h.started hrest now later
    rw [hin]
    exact h.shows hpos hexec hwaiting hstart hsteps htotal hpercents hle ⟨List.Pairwise.nil,
      by simp [Watched.shownBefore]⟩
  | interrupt now =>
    have hfits := h.interrupted now
    exact ⟨iff_of_true hfits.1 trivial, fun _ => hfits.2⟩
  | fire now timer =>
    obtain ⟨hclock, hmem, -⟩ := ht
    obtain hrest | ⟨i, a, progress, start, hwaiting, hstart, hle, hgrows⟩ := h.state
    · rw [hrest.pending] at hmem
      cases hmem
    · have hgrows' := hgrows.mono (percentOf_mono total (sub_le_sub_right hclock start))
      cases hcallback : timer.callback with
      | step j =>
        obtain ⟨rfl, -⟩ := hwaiting.fired hmem hcallback
        have hfits := h.stepFired hwaiting hstart (hle.trans hclock) hgrows' hmem hcallback
        have hin : ShownInTime w (.fire now timer) := by
          intro hprogress
          rw [hcallback] at hprogress
          cases hprogress
        exact ⟨iff_of_true hfits.1 hin, fun _ => hfits.2⟩
      | progress =>
        have hexec : (Event.exec (.fire now timer) : Run Value PUnit).run w.program =
            (executeProgress now).run (w.program.clearTimeout (some timer.id)) := by
          simp only [Event.exec, Timers.fire, EStateM.run_bind, EStateM.run_modify, hcallback]
        have hin : ShownInTime w (.fire now timer) ↔ InTime (now - start) total := by
          simp [ShownInTime, hcallback, hstart, h.totalWait]
        rw [hin]
        exact h.shows hpos hexec (hwaiting.progressed hmem hcallback) hstart rfl h.totalWait rfl
          (hle.trans hclock) hgrows'

/-! ## Every run -/

/-- A program after `setup`, watched from some time on. -/
def watch (numbers : Numbers) (steps : List (Step Value)) (clock : ℚ) : Watched Value :=
  { program := setup numbers steps, clock }

/-- In every history of a program that waits, all progress fits exactly if all of it is shown in
time. -/
theorem progress_fits_iff (numbers : Numbers) (steps : List (Step Value)) (clock : ℚ)
    (events : List Event) (total : Nat) (htotal : totalDelay numbers steps = some total)
    (hpos : 0 < total) (h : Along Watched.step Timely (watch numbers steps clock) events) :
    Along Watched.step ProgressFits (watch numbers steps clock) events ↔
      Along Watched.step ShownInTime (watch numbers steps clock) events := by
  refine h.iff_of_step (P := Watching total) ⟨?_, ?_, .inl (setup_rest numbers steps)⟩
    (Watching.step hpos)
  · rw [watch, setup_eq, htotal]
  · rw [watch, setup_eq]
    by_contra hnone
    simp only [not_exists, not_and, Bool.not_eq_false] at hnone
    rw [totalDelay_sync numbers hnone, Option.some_inj] at htotal
    omega

instance (w : Watched Value) (e : Event) : Decidable (Timely w e) :=
  match e with
  | .run now later => inferInstanceAs
    (Decidable (w.clock ≤ now ∧ now ≤ later ∧ w.program.running = false))
  | .interrupt now => inferInstanceAs (Decidable (w.clock ≤ now))
  | .fire now timer => inferInstanceAs
    (Decidable (w.clock ≤ now ∧ timer ∈ w.program.pending ∧ timer.due ≤ now))

/-- Two waits of a second each. -/
def twoSeconds : List (Step Nat) := [.wait (some 1000), .wait (some 1000)]

/-- The progress of a run that is interrupted after a second. -/
theorem progress_fits_second :
    Along Watched.step Timely (watch exactNumbers twoSeconds 0) [.run 0 0,
      .fire 1000 ⟨1, 1000, .progress⟩, .interrupt 1000] ∧
      Along Watched.step ProgressFits (watch exactNumbers twoSeconds 0)
        [.run 0 0, .fire 1000 ⟨1, 1000, .progress⟩, .interrupt 1000] := by
  have htimely : Along Watched.step Timely (watch exactNumbers twoSeconds 0)
      [.run 0 0, .fire 1000 ⟨1, 1000, .progress⟩, .interrupt 1000] := by decide +kernel
  refine ⟨htimely, (progress_fits_iff exactNumbers twoSeconds 0 _ 2000 rfl (by decide) htimely).mpr
    ?_⟩
  have hstart : ((watch exactNumbers twoSeconds 0).step (.run 0 0)).program.startTime = some 0 := by
    decide +kernel
  have htotal : ((watch exactNumbers twoSeconds 0).step (.run 0 0)).program.totalWait =
    some 2000 := by decide +kernel
  refine ⟨fun total ht => ?_, fun _ start hs total ht => ?_, trivial, trivial⟩
  · obtain rfl : 2000 = total := Option.some.inj ht
    norm_num [InTime]
  · obtain rfl : 0 = start := Option.some.inj (hstart.symm.trans hs)
    obtain rfl : 2000 = total := Option.some.inj (htotal.symm.trans ht)
    norm_num [InTime]

/-- Both timers fire late by a second and a half, in the order of their due times: the callback of
the progress assigns 125 percent, and the setter throws. -/
theorem late_progress_throws :
    Along Watched.step Timely (watch exactNumbers twoSeconds 0)
      [.run 0 0, .fire 2500 ⟨0, 1000, .step 0⟩, .fire 2500 ⟨1, 1000, .progress⟩] ∧
    (match (fire (fun _ => .returns) 2500 ⟨1, 1000, .progress⟩).run
        ((watch exactNumbers twoSeconds 0).step (.run 0 0) |>.step
          (.fire 2500 ⟨0, 1000, .step 0⟩)).program with
      | .ok _ _ => none
      | .error error q => some (error, (percents q.notified).getLast?)) =
        some (.wrongValue, some (some 125)) := by
  decide +kernel

end MylifeHome.Plugins.Timers
