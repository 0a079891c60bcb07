import MylifeHome.Lib.Effect
import MylifeHome.Lib.Run
import Mathlib.Order.Lattice

/-!
# The percent selector

`Percent` of the selectors plugin behind the setter that the component host puts in
place of its state `value`, of the type `range[-1;100]`. The setter refuses a value out
of the range and tells its listener about a change only.
-/
namespace MylifeHome.Plugins.Selectors

open MylifeHome.Lib EStateM

/-- The error of `Range.validate`. -/
structure WrongValue where
  value : Int
  min : Int
  max : Int
  deriving DecidableEq

structure Config where
  values : Fin 10 → Int
  step : Int

def configInt (value min max defaultValue : Int) : Int :=
  if min ≤ value ∧ value ≤ max then value else defaultValue

/-- The component, with all that was assigned to `value`, refused or not, and what its
listener got. -/
structure Percent where
  values : Fin 10 → Int
  step : Int
  loopbackValue : Int := 0
  value : Int := -1
  assigned : List Int := []
  emitted : List Int := []

def create (config : Config) : Percent :=
  let percent : Percent :=
    { values := fun i => configInt (config.values i) 0 100 (-1),
      step := configInt config.step 1 100 1 }
  -- the normalised step is not kept
  { percent with step := config.step }

/-- An assignment to the state `value`. -/
def assignValue (newValue : Int) : EStateM WrongValue Percent PUnit := do
  modify fun p => { p with assigned := p.assigned ++ [newValue] }
  throwIf (newValue < -1 || 100 < newValue) ⟨newValue, -1, 100⟩
  modify fun p => if newValue = p.value then p
    else { p with value := newValue, emitted := p.emitted ++ [newValue] }

def changeValue (value : Int) : EStateM WrongValue Percent PUnit := do
  assignValue value
  assignValue (-1)

inductive Action where
  | setValue (value : Int)
  | up (arg : Bool)
  | down (arg : Bool)
  | setX (x : Fin 10) (arg : Bool)
  deriving DecidableEq

/-- The arguments that the type of an action allows. -/
def Action.Valid : Action → Prop
  | .setValue value => 0 ≤ value ∧ value ≤ 100
  | _ => True

/-- The value that an action goes for. -/
def Percent.target (p : Percent) : Action → Option Int
  | .up true => some (min (p.loopbackValue + p.step) 100)
  | .down true => some (max (p.loopbackValue - p.step) 0)
  | .setX x true => some (p.values x)
  | _ => none

/-- `execute` of the host's action, which checks the argument. -/
def execute (a : Action) : EStateM WrongValue Percent PUnit := do
  match a with
  | .setValue value =>
    throwIf (value < 0 || 100 < value) ⟨value, 0, 100⟩
    modify fun p => { p with loopbackValue := value }
  | a =>
    match (← get).target a with
    | some value => changeValue value
    | none => pure ⟨⟩

def step (p : Percent) (a : Action) : Percent := after (execute a) p

def assignedBy (p : Percent) (a : Action) : List Int := (step p a).assigned.drop p.assigned.length

def emittedBy (p : Percent) (a : Action) : List Int := (step p a).emitted.drop p.emitted.length

/-- What an action is to do: it assigns values of the range, up and down do not go the other way,
and an action that goes for a value emits it and then the idle value. -/
structure Fits (p : Percent) (a : Action) : Prop where
  inRange : ∀ v ∈ assignedBy p a, -1 ≤ v ∧ v ≤ 100
  up : a = .up true → ∀ v ∈ (emittedBy p a).head?, p.loopbackValue ≤ v
  down : a = .down true → ∀ v ∈ (emittedBy p a).head?, v ≤ p.loopbackValue
  effective : ∀ v ∈ p.target a, v ≠ -1 → emittedBy p a = [v, -1]

/-! ## One action -/

/-- The component between two actions. -/
structure Idle (p : Percent) : Prop where
  forward : 0 ≤ p.step
  loopbackValue : 0 ≤ p.loopbackValue ∧ p.loopbackValue ≤ 100
  value : p.value = -1
  values : ∀ x, -1 ≤ p.values x ∧ p.values x ≤ 100

variable {p : Percent} {a : Action}

theorem configInt_bounds (value : Int) : -1 ≤ configInt value 0 100 (-1) ∧
    configInt value 0 100 (-1) ≤ 100 := by
  unfold configInt
  split <;> omega

theorem idle_create {config : Config} (h : 0 ≤ config.step) : Idle (create config) where
  forward := h
  loopbackValue := (by decide : (0 : Int) ≤ 0 ∧ (0 : Int) ≤ 100)
  value := rfl
  values x := configInt_bounds (config.values x)

theorem assignValue_ok {v : Int} (h : -1 ≤ v ∧ v ≤ 100) (p : Percent) :
    (assignValue v).run p = .ok ⟨⟩
    { p with value := v, assigned := p.assigned ++ [v], emitted := if v = p.value then p.emitted
        else p.emitted ++ [v] } := by
  have hcheck : (decide (v < -1) || decide (100 < v)) = false := by simpa using h
  by_cases hv : v = p.value
  · subst hv
    simp [assignValue, run_bind, hcheck, run_throwIf_false]
  · simp [assignValue, run_bind, hcheck, run_throwIf_false, hv]

theorem assignValue_error {v : Int} (h : v < -1 ∨ 100 < v) (p : Percent) :
    (assignValue v).run p = .error ⟨v, -1, 100⟩ { p with assigned := p.assigned ++ [v] } := by
  have hcheck : (decide (v < -1) || decide (100 < v)) = true := by simpa using h
  simp [assignValue, run_bind, hcheck, run_throwIf_true]

theorem changeValue_ok {v : Int} (h : -1 ≤ v ∧ v ≤ 100) (hp : p.value = -1) :
    (changeValue v).run p = .ok ⟨⟩
    { p with assigned := p.assigned ++ [v, -1], emitted := p.emitted ++ if v = -1 then []
        else [v, -1] } := by
  rw [changeValue, run_bind, assignValue_ok h]
  simp only [assignValue_ok (v := -1) (by decide), hp]
  by_cases hv : v = -1
  · simp [hv]
  · simp [hv, Ne.symm hv]

theorem target_bounds (h : Idle p) {v : Int} (hv : v ∈ p.target a) : -1 ≤ v ∧ v ≤ 100 := by
  have hforward := h.forward
  have hloopback := h.loopbackValue
  unfold Percent.target at hv
  split at hv <;> cases hv
  · omega
  · omega
  · exact h.values _

theorem step_target (h : Idle p) {v : Int} (hv : v ∈ p.target a) : step p a =
    { p with assigned := p.assigned ++ [v, -1], emitted := p.emitted ++ if v = -1 then []
        else [v, -1] } := by
  refine after_ok (a := ⟨⟩) ?_
  rw [← changeValue_ok (target_bounds h hv) h.value]
  cases a with
  | setValue value => cases hv
  | _ =>
    rw [Option.mem_def] at hv
    simp [execute, run_bind, hv]

theorem step_no_target (ha : a.Valid) (hv : p.target a = none) :
    (∃ value, a = .setValue value ∧ step p a = { p with loopbackValue := value }) ∨
      step p a = p := by
  cases a with
  | setValue value =>
    refine .inl ⟨value, rfl, after_ok (a := ⟨⟩) ?_⟩
    have hcheck : (decide (value < 0) || decide (100 < value)) = false := by
      simpa [Action.Valid] using ha
    simp [execute, run_bind, hcheck, run_throwIf_false]
  | _ =>
    refine .inr (after_ok (a := ⟨⟩) ?_)
    simp [execute, run_bind, hv]

theorem idle_step (h : Idle p) (ha : a.Valid) : Idle (step p a) := by
  cases hv : p.target a with
  | some v =>
    rw [step_target h hv]
    exact { h with }
  | none =>
    obtain ⟨value, rfl, hstep⟩ | hstep := step_no_target ha hv
    · rw [hstep]
      exact ⟨h.forward, ha, h.value, h.values⟩
    · rw [hstep]
      exact h

theorem Idle.fits (h : Idle p) (ha : a.Valid) : Fits p a := by
  cases hv : p.target a with
  | some v =>
    have hassigned : assignedBy p a = [v, -1] := by
      rw [assignedBy, step_target h hv]
      simp
    have hemitted : emittedBy p a = if v = -1 then [] else [v, -1] := by
      rw [emittedBy, step_target h hv]
      simp
    have hhead : ∀ w ∈ (emittedBy p a).head?, w = v := by
      rw [hemitted]
      split <;> simp
    have hforward := h.forward
    have hloopback := h.loopbackValue
    refine ⟨?_, ?_, ?_, ?_⟩
    · rw [hassigned]
      simpa using target_bounds h hv
    · rintro rfl w hw
      rw [hhead w hw]
      cases hv
      omega
    · rintro rfl w hw
      rw [hhead w hw]
      cases hv
      omega
    · rintro w hw hne
      cases hv.symm.trans hw
      rw [hemitted, if_neg hne]
  | none =>
    have hsame : (step p a).assigned = p.assigned ∧ (step p a).emitted = p.emitted := by
      obtain ⟨value, rfl, hstep⟩ | hstep := step_no_target ha hv <;> simp [hstep]
    refine ⟨?_, ?_, ?_, ?_⟩
    · simp [assignedBy, hsame]
    · simp [emittedBy, hsame]
    · simp [emittedBy, hsame]
    · simp [hv]

/-! ## Every sequence of actions -/

/-- Whatever the configuration of the values: every sequence of actions fits exactly if the
configured step is not negative. -/
theorem selector_fits_iff (config : Config) :
    (∀ as : List Action, (∀ a ∈ as, a.Valid) → Along step Fits (create config) as) ↔
      0 ≤ config.step := by
  constructor
  · intro h
    by_contra hneg
    by_cases hone : config.step = -1
    · -- 49 after 50
      have hrun := h [.setValue 50, .up true] (by simp [Action.Valid])
      have hup := hrun.2.1.up rfl 49
      have hemitted : emittedBy (step (create config) (.setValue 50)) (.up true) = [49, -1] := by
        obtain ⟨values, step⟩ := config
        cases hone
        rfl
      rw [hemitted] at hup
      exact absurd (hup rfl) (by show ¬ (50 : Int) ≤ 49; decide)
    · have hrun := h [.up true] (by simp [Action.Valid])
      have htarget : (create config).target (.up true) = some config.step :=
        congrArg some (by show min (0 + config.step) 100 = config.step; omega)
      have herror : (execute (.up true)).run (create config) =
          .error ⟨config.step, -1, 100⟩ { create config with assigned := [config.step] } := by
        simp only [execute, run_bind, run_get, htarget, changeValue]
        rw [assignValue_error (by omega)]
        rfl
      have hassigned : config.step ∈ assignedBy (create config) (.up true) := by
        rw [assignedBy, step, after_error herror]
        simp [create]
      have hbounds := hrun.1.inRange _ hassigned
      omega
  · intro h as has
    have hidle := idle_create h
    generalize create config = p at hidle
    induction as generalizing p with
    | nil => trivial
    | cons a as ih =>
      have ha := has a List.mem_cons_self
      exact ⟨hidle.fits ha,
        ih (fun a ha => has a (List.mem_cons_of_mem _ ha)) _ (idle_step hidle ha)⟩

/-- A step of -5: `up` goes for -5, and the setter throws. -/
theorem selector_leaves_range :
    let p := create { values := fun _ => 0, step := -5 }
    (execute (.up true)).run p = .error ⟨-5, -1, 100⟩ { p with assigned := [-5] } ∧
      ¬ Fits p (.up true) := by
  refine ⟨rfl, fun h => ?_⟩
  exact absurd (h.inRange (-5) (by decide)).1 (by decide)

end MylifeHome.Plugins.Selectors
