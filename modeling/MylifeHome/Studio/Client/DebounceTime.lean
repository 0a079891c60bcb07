import MylifeHome.Lib.Run
import MylifeHome.Lib.Runs

/-!
# Debouncing by keys

`debounceTimeKey` of `store/common/rx-operators.ts`. A value with a key is held until the due
time, and merged with those of the same key; a value without a key is emitted by a timer of its
own without delay. Arrivals and timers come in any order that the timers allow.
-/
namespace MylifeHome.Studio.Client.DebounceTime

open MylifeHome.Lib MylifeHome.Lib.Runs

variable {T : Type*}

/-- `DebounceTimeKeySubscriber`: the last key and value while the debounce timer runs, the values
that wait for their timers without delay, and what the destination got. -/
structure Subscriber (T : Type*) where
  last : Option (String × T) := none
  pending : List T := []
  emitted : List T := []
  completed : Bool := false
  deriving DecidableEq

/-- A value arrives, the oldest timer without delay fires, the debounce timer fires, or the source
completes. -/
inductive Event (T : Type*) where
  | next (value : T)
  | timeout
  | due
  | complete

section Operator

variable (keyBuilder : T → Option String) (valueMerger : T → T → T)

/-- `destination.next`, without effect after `destination.complete`. -/
def emit (s : Subscriber T) (value : T) : Subscriber T :=
  if s.completed then s else { s with emitted := s.emitted ++ [value] }

def debouncedNext (s : Subscriber T) : Subscriber T :=
  match s.last with
  | none => s
  | some (_, value) => emit { s with last := none } value

/-- `_next`. An empty key counts as no key. -/
def next (s : Subscriber T) (value : T) : Subscriber T :=
  let key := keyBuilder value
  let s := if s.last.isSome ∧ s.last.map Prod.fst ≠ key then debouncedNext s else s
  match key.filter (· ≠ "") with
  | none => { s with pending := s.pending ++ [value] }
  | some key =>
    match s.last with
    | some (_, lastValue) => { s with last := some (key, valueMerger lastValue value) }
    | none => { s with last := some (key, value) }

def step (s : Subscriber T) : Event T → Subscriber T
  | .next value => if s.completed then s else next keyBuilder valueMerger s value
  | .timeout =>
    match s.pending with
    | [] => s
    | value :: rest => emit { s with pending := rest } value
  | .due => debouncedNext s
  | .complete => { debouncedNext s with completed := true }

/-- The timers without delay that are pending when the debounce timer runs were set before it: they
fire first. -/
def Possible (s : Subscriber T) : Event T → Prop
  | .next _ => s.completed = false
  | .timeout => s.pending ≠ []
  | .due => s.last.isSome = true ∧ s.pending = []
  | .complete => s.completed = false

/-- No value waits for its timer when a held value is emitted at once, because of a value with
another key or of the completion; and no key is empty. -/
def Calm (s : Subscriber T) : Event T → Prop
  | .next value => keyBuilder value ≠ some "" ∧
    (s.last.isSome ∧ s.last.map Prod.fst ≠ keyBuilder value → s.pending = [])
  | .complete => s.pending = []
  | _ => True

instance (s : Subscriber T) : (e : Event T) → Decidable (Possible s e)
  | .next _ => inferInstanceAs (Decidable (s.completed = false))
  | .timeout => inferInstanceAs (Decidable (s.pending ≠ []))
  | .due => inferInstanceAs (Decidable (s.last.isSome = true ∧ s.pending = []))
  | .complete => inferInstanceAs (Decidable (s.completed = false))

instance (s : Subscriber T) : (e : Event T) → Decidable (Calm keyBuilder s e)
  | .next value => inferInstanceAs (Decidable (keyBuilder value ≠ some "" ∧
    (s.last.isSome ∧ s.last.map Prod.fst ≠ keyBuilder value → s.pending = [])))
  | .timeout => inferInstanceAs (Decidable True)
  | .due => inferInstanceAs (Decidable True)
  | .complete => inferInstanceAs (Decidable (s.pending = []))

/-! ## What should be emitted -/

/-- The values that arrived, each with whether the due time elapsed before it, and whether it
elapsed since the last one. -/
def record (h : List (T × Bool) × Bool) : Event T → List (T × Bool) × Bool
  | .next value => (h.1 ++ [(value, h.2)], false)
  | .due => (h.1, true)
  | _ => h

def history (es : List (Event T)) : List (T × Bool) × Bool := es.foldl record ([], false)

/-- Two consecutive values belong together. -/
def related (a b : T × Bool) : Bool :=
  decide (keyBuilder a.1 = keyBuilder b.1) && (keyBuilder b.1).isSome && !b.2

/-- Each maximal run of values with the same key, without the due time in between, is merged. -/
def expected (es : List (Event T)) : List T :=
  merged (related keyBuilder) valueMerger Prod.fst (history es).1

/-- What was emitted is the beginning of what should be, and all of it after the completion or when
nothing is left to be emitted. -/
def Exact (es : List (Event T)) (s : Subscriber T) : Prop :=
  s.emitted <+: expected keyBuilder valueMerger es ∧
    (s.completed = true ∨ (s.last = none ∧ s.pending = []) →
      s.emitted = expected keyBuilder valueMerger es)

end Operator

/-! ## The order of what is emitted -/

section Order

variable {keyBuilder : T → Option String} {valueMerger : T → T → T} {h : List (T × Bool) × Bool}
    {s : Subscriber T}

/-- What was emitted, then what waits, then what is held. -/
structure InOrder (keyBuilder : T → Option String) (valueMerger : T → T → T)
    (h : List (T × Bool) × Bool) (s : Subscriber T) : Prop where
  values : s.emitted ++ s.pending ++ (s.last.map Prod.snd).toList =
    merged (related keyBuilder) valueMerger Prod.fst h.1
  held : ∀ key value, s.last = some (key, value) → h.2 = false ∧ ∃ a, h.1.getLast? = some a ∧
    keyBuilder a.1 = some key
  free : s.completed = false → s.last = none → ∀ a ∈ h.1.getLast?, keyBuilder a.1 = none ∨
    h.2 = true
  done : s.completed = true → s.last = none ∧ s.pending = []

theorem debouncedNext_of_none (hlast : s.last = none) : debouncedNext s = s := by
  rw [debouncedNext, hlast]

theorem debouncedNext_of_some {key : String} {value : T} (hlast : s.last = some (key, value))
    (hc : s.completed = false) :
    debouncedNext s = { s with last := none, emitted := s.emitted ++ [value] } := by
  rw [debouncedNext, hlast]
  simp [emit, hc]

/-- A value that starts a new run, after the held value was emitted. -/
theorem InOrder.next_new (hs : InOrder keyBuilder valueMerger h s) (hc : s.completed = false)
    {value : T} (hkey : keyBuilder value ≠ some "")
    (hcalm : s.last.isSome ∧ s.last.map Prod.fst ≠ keyBuilder value → s.pending = [])
    (hnew : ∀ key x, s.last = some (key, x) → keyBuilder value ≠ some key) :
    InOrder keyBuilder valueMerger (record h (.next value))
      (next keyBuilder valueMerger s value) := by
  -- the held value is not related to the new one, and nothing waits before it
  have hmerged : merged (related keyBuilder) valueMerger Prod.fst (h.1 ++ [(value, h.2)]) =
      merged (related keyBuilder) valueMerger Prod.fst h.1 ++ [value] := by
    refine merged_concat_new fun a ha => ?_
    cases hlast : s.last with
    | some e =>
      obtain ⟨-, b, hb, hbkey⟩ := hs.held e.1 e.2 hlast
      rw [hb] at ha
      cases ha
      simp [related, hbkey, Ne.symm (hnew e.1 e.2 hlast)]
    | none =>
      rcases hs.free hc hlast a ha with hnone | helapsed
      · cases hk : keyBuilder value <;> simp [related, hnone, hk]
      · simp [related, helapsed]
  have hflushed : ∃ s', (if s.last.isSome ∧
    s.last.map Prod.fst ≠ keyBuilder value then debouncedNext s else s) = s' ∧ s'.last = none ∧
      s'.completed = false ∧ s'.emitted ++ s'.pending =
        merged (related keyBuilder) valueMerger Prod.fst h.1 := by
    cases hlast : s.last with
    | none =>
      refine ⟨s, by simp, hlast, hc, ?_⟩
      simpa [hlast] using hs.values
    | some e =>
      have hne : some e.1 ≠ keyBuilder value := (hnew e.1 e.2 hlast).symm
      have hpending := hcalm (by simpa [hlast] using hne)
      refine ⟨{ s with last := none, emitted := s.emitted ++ [e.2] }, ?_, rfl, hc, ?_⟩
      · rw [debouncedNext_of_some hlast hc]
        simp [hne]
      · simpa [hlast, hpending] using hs.values
  obtain ⟨s', hs', hlast', hc', hvalues⟩ := hflushed
  have hnext : next keyBuilder valueMerger s value =
      match keyBuilder value with
      | none => { s' with pending := s'.pending ++ [value] }
      | some key => { s' with last := some (key, value) } := by
    unfold next
    simp only [hs', hlast']
    cases hk : keyBuilder value with
    | none => rfl
    | some key =>
      have hne : key ≠ "" := fun he => hkey (by rw [hk, he])
      simp [Option.filter, hne]
  rw [hnext]
  cases hk : keyBuilder value with
  | none =>
    refine ⟨?_, fun key x hx => ?_, fun _ _ a ha => .inl ?_, fun hdone => ?_⟩
    · show s'.emitted ++ (s'.pending ++ [value]) ++ (s'.last.map Prod.snd).toList =
        merged (related keyBuilder) valueMerger Prod.fst (h.1 ++ [(value, h.2)])
      rw [hmerged, ← hvalues, hlast']
      simp
    · have hx : s'.last = some (key, x) := hx
      rw [hlast'] at hx
      cases hx
    · have ha : (h.1 ++ [(value, h.2)]).getLast? = some a := ha
      rw [List.getLast?_concat] at ha
      cases ha
      exact hk
    · have hdone : s'.completed = true := hdone
      rw [hc'] at hdone
      cases hdone
  | some key =>
    refine ⟨?_, fun key' x hx => ?_, fun _ hnone => (nomatch hnone), fun hdone => ?_⟩
    · show s'.emitted ++ s'.pending ++ [value] =
        merged (related keyBuilder) valueMerger Prod.fst (h.1 ++ [(value, h.2)])
      rw [hmerged, ← hvalues]
    · cases hx
      exact ⟨rfl, (value, h.2), List.getLast?_concat, hk⟩
    · have hdone : s'.completed = true := hdone
      rw [hc'] at hdone
      cases hdone

/-- A value with the key of the held one. -/
theorem InOrder.next_same (hs : InOrder keyBuilder valueMerger h s) (hc : s.completed = false)
    {value lastValue : T} {key : String} (hlast : s.last = some (key, lastValue))
    (hkey : keyBuilder value = some key) (hne : key ≠ "") :
    InOrder keyBuilder valueMerger (record h (.next value))
      (next keyBuilder valueMerger s value) := by
  obtain ⟨helapsed, a, ha, hakey⟩ := hs.held key lastValue hlast
  have hrelated : related keyBuilder a (value, h.2) = true := by
    simp [related, hakey, hkey, helapsed]
  obtain ⟨before, b, hb, hconcat⟩ : ∃ before b, merged (related keyBuilder) valueMerger Prod.fst
    h.1 = before ++ [b] ∧
      merged (related keyBuilder) valueMerger Prod.fst (h.1 ++ [(value, h.2)]) =
        before ++ [valueMerger b value] :=
    merged_concat_related ha hrelated
  have hvalues := hs.values
  rw [hlast, hb] at hvalues
  obtain ⟨hbefore, hlastValue⟩ := List.append_inj' hvalues rfl
  have hlastValue : lastValue = b := (List.cons.inj hlastValue).1
  have hnext : next keyBuilder valueMerger s value =
      { s with last := some (key, valueMerger lastValue value) } := by
    unfold next
    simp [hlast, hkey, hne, Option.filter]
  rw [hnext]
  refine ⟨?_, fun key' x hx => ?_, fun _ hnone => (nomatch hnone), fun hdone => ?_⟩
  · show s.emitted ++ s.pending ++ [valueMerger lastValue value] =
      merged (related keyBuilder) valueMerger Prod.fst (h.1 ++ [(value, h.2)])
    rw [hconcat, hbefore, hlastValue]
  · cases hx
    exact ⟨rfl, (value, h.2), List.getLast?_concat, hkey⟩
  · have hdone : s.completed = true := hdone
    rw [hc] at hdone
    cases hdone

theorem InOrder.timeout (hs : InOrder keyBuilder valueMerger h s) (hpending : s.pending ≠ []) :
    InOrder keyBuilder valueMerger h (step keyBuilder valueMerger s .timeout) := by
  obtain ⟨value, rest, hrest⟩ := List.exists_cons_of_ne_nil hpending
  have hc : s.completed = false := by
    rw [← Bool.not_eq_true]
    exact fun hdone => hpending (hs.done hdone).2
  have hstep : step keyBuilder valueMerger s .timeout =
      { s with pending := rest, emitted := s.emitted ++ [value] } := by
    rw [step, hrest]
    simp [emit, hc]
  rw [hstep]
  refine ⟨?_, hs.held, hs.free, fun hdone => ?_⟩
  · have hvalues := hs.values
    rw [hrest] at hvalues
    simpa using hvalues
  · have hdone : s.completed = true := hdone
    rw [hc] at hdone
    cases hdone

/-- The held value is emitted when nothing waits before it. -/
theorem InOrder.flushed (hs : InOrder keyBuilder valueMerger h s) (hc : s.completed = false)
    (hpending : s.pending = []) :
    (debouncedNext s).emitted = merged (related keyBuilder) valueMerger Prod.fst h.1 ∧
      (debouncedNext s).last = none ∧
      (debouncedNext s).pending = [] ∧ (debouncedNext s).completed = false := by
  have hvalues := hs.values
  cases hlast : s.last with
  | none =>
    rw [debouncedNext_of_none hlast]
    exact ⟨by simpa [hlast, hpending] using hvalues, hlast, hpending, hc⟩
  | some e =>
    rw [debouncedNext_of_some hlast hc]
    exact ⟨by simpa [hlast, hpending] using hvalues, rfl, hpending, hc⟩

/-- One step keeps the order. -/
theorem InOrder.step (hs : InOrder keyBuilder valueMerger h s) {e : Event T}
    (hpossible : Possible s e) (hcalm : Calm keyBuilder s e) :
    InOrder keyBuilder valueMerger (record h e) (DebounceTime.step keyBuilder valueMerger s e) := by
  cases e with
  | next value =>
    have hc : s.completed = false := hpossible
    obtain ⟨hkey, hpending⟩ := hcalm
    have hstep : DebounceTime.step keyBuilder valueMerger s (.next value) =
        next keyBuilder valueMerger s value := by
      rw [DebounceTime.step, hc]
      rfl
    rw [hstep]
    by_cases hsame : ∃ key x, s.last = some (key, x) ∧ keyBuilder value = some key
    · obtain ⟨key, x, hlast, hk⟩ := hsame
      exact hs.next_same hc hlast hk fun he => hkey (by rw [hk, he])
    · exact hs.next_new hc hkey hpending fun key x hlast hk => hsame ⟨key, x, hlast, hk⟩
  | timeout => exact hs.timeout hpossible
  | due =>
    obtain ⟨hlast, hpending⟩ := hpossible
    have hc : s.completed = false := by
      rw [← Bool.not_eq_true]
      intro hdone
      rw [(hs.done hdone).1] at hlast
      cases hlast
    obtain ⟨hemitted, hnone, hnil, hc'⟩ := hs.flushed hc hpending
    refine ⟨?_, fun key x hx => ?_, fun _ _ a _ => .inr rfl, fun _ => ⟨hnone, hnil⟩⟩
    · show (debouncedNext s).emitted ++ (debouncedNext s).pending ++
        ((debouncedNext s).last.map Prod.snd).toList = _
      rw [hnone, hnil, hemitted]
      simp [record]
    · have hx : (debouncedNext s).last = some (key, x) := hx
      rw [hnone] at hx
      cases hx
  | complete =>
    obtain ⟨hemitted, hnone, hnil, hc'⟩ := hs.flushed hpossible hcalm
    refine ⟨?_, fun key x hx => ?_, fun hdone => (nomatch hdone), fun _ => ⟨hnone, hnil⟩⟩
    · show (debouncedNext s).emitted ++ (debouncedNext s).pending ++
        ((debouncedNext s).last.map Prod.snd).toList = _
      rw [hnone, hnil, hemitted]
      simp [record]
    · have hx : (debouncedNext s).last = some (key, x) := hx
      rw [hnone] at hx
      cases hx

/-- A run keeps the order. -/
theorem inOrder_run {es : List (Event T)}
    (hrun : Along (step keyBuilder valueMerger) (fun s e => Possible s e ∧ Calm keyBuilder s e)
      {} es) :
    InOrder keyBuilder valueMerger (history es) (es.foldl (step keyBuilder valueMerger) {}) := by
  induction es using List.reverseRecOn with
  | nil => exact ⟨rfl, nofun, fun _ _ a ha => (nomatch ha), nofun⟩
  | append_singleton es e ih =>
    obtain ⟨hrun, ⟨hpossible, hcalm⟩, -⟩ := Along.append.mp hrun
    rw [history, List.foldl_append, List.foldl_append]
    exact (ih hrun).step hpossible hcalm

end Order

end MylifeHome.Studio.Client.DebounceTime
