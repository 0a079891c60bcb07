import MylifeHome.Common.Registry
import MylifeHome.Core.ComponentManager
import MylifeHome.Lib.Run

/-!
# A binding and the registry it listens to

`Binding` of `mylife-home-core`: it waits for its two components in the registry,
checks their members, and from then on executes the target action with each value
of the source state. Components come and go through the two registry calls; a
call that the registry refuses emits nothing.
-/
namespace MylifeHome.Core.Bindings

open MylifeHome.Lib MylifeHome.Common Function AssocList
open MylifeHome.Studio.Core (NetMember MemberType)

/-- `_errors` has no value before the two components have met. -/
structure Binding where
  config : BindingConfig
  source : Option ComponentData := none
  target : Option ComponentData := none
  errors : Option (List String) := none
  deriving DecidableEq

def Binding.active (b : Binding) : Bool :=
  b.source.isSome && b.target.isSome && decide (b.errors = some [])

/-- One call of `executeAction` on a component; `none` is the value `null`. -/
structure Executed (V : Type) where
  component : Component
  action : String
  value : Option V
  deriving DecidableEq

structure World (V : Type) where
  registry : Registry
  /-- The states of every component object, registered or not. -/
  values : Component → String → Option V
  binding : Binding
  closed : Bool := false
  /-- The objects on which `onSourceStateChange` is attached, once for each time it is. -/
  listeners : List Component := []
  executed : List (Executed V) := []

inductive Event (V : Type) where
  | addComponent (instanceName : InstanceName) (component : Component)
  | removeComponent (instanceName : InstanceName) (component : Component)
  | state (component : Component) (name : String) (value : Option V)
  | close
  deriving DecidableEq

def findMember (members : OMap String NetMember) (name : String) (type : MemberType) :
    Option NetMember :=
  match members.get name with
  | none => none
  | some member => if member.memberType ≠ type then none else some member

def buildComponentFullId (data : ComponentData) : String :=
  "'" ++ data.component.id ++ "' (plugin='" ++
    pluginKey data.instanceName data.component.plugin.id ++ "')"

section Model

variable {V : Type} (members : Plugin → OMap String NetMember)

/-- The errors that `initBinding` collects. -/
def memberErrors (config : BindingConfig) (source target : ComponentData) : List String :=
  let sourceMember := findMember (members source.component.plugin) config.sourceState .state
  let targetMember := findMember (members target.component.plugin) config.targetAction .action
  (if sourceMember.isNone then
    ["State '" ++ config.sourceState ++ "' does not exist on component " ++
      buildComponentFullId source] else []) ++
  (if targetMember.isNone then
    ["Action '" ++ config.targetAction ++ "' does not exist on component " ++
      buildComponentFullId target] else []) ++
  match sourceMember, targetMember with
  | some s, some t =>
    if s.valueType ≠ t.valueType then
      ["State '" ++ config.sourceState ++ "' on component " ++ buildComponentFullId source ++
        " has type '" ++
        s.valueType ++ "', which is different from type '" ++ t.valueType ++ "' for action '" ++
        config.targetAction ++ "' on component " ++ buildComponentFullId target]
    else []
  | _, _ => []

namespace World

variable (w : World V)

def executeAction (component : Component) (action : String) (value : Option V) : World V :=
  { w with executed := w.executed ++ [{ component, action, value }] }

def initBinding : World V :=
  match w.binding.source, w.binding.target with
  | some source, some target =>
    let errors := memberErrors members w.binding.config source target
    let w := { w with binding := { w.binding with errors := some errors } }
    if errors ≠ [] then w
    else
      let w := { w with listeners := w.listeners ++ [source.component] }
      match w.values source.component w.binding.config.sourceState with
      | none => w
      | some value => w.executeAction target.component w.binding.config.targetAction (some value)
  | _, _ => w

def terminateBinding : World V :=
  let listeners :=
    if w.binding.active then
      match w.binding.source with
      | some source => w.listeners.erase source.component
      | none => w.listeners
    else w.listeners
  { w with listeners := listeners, binding := { w.binding with errors := some [] } }

def onComponentAdd (instanceName : InstanceName) (component : Component) : World V :=
  if component.id = w.binding.config.sourceComponent then
    { w with binding := { w.binding with source := some { instanceName, component } } }.initBinding
      members
  else if component.id = w.binding.config.targetComponent then
    { w with binding := { w.binding with target := some { instanceName, component } } }.initBinding
      members
  else w

/-- The `switch` compares objects; the source is looked at first. -/
def onComponentRemove (component : Component) : World V :=
  if w.binding.source.map (·.component) = some component then
    let w := w.terminateBinding
    { w with binding := { w.binding with source := none } }
  else if w.binding.target.map (·.component) = some component then
    let w := w.terminateBinding
    { w with binding := { w.binding with target := none } }
  else w

def onSourceStateChange (name : String) (value : Option V) : World V :=
  if name ≠ w.binding.config.sourceState then w
  else match w.binding.target with
    | some target => w.executeAction target.component w.binding.config.targetAction value
    | none => w

/-- `new Binding(registry, config)`: the components that are there are taken as
if they were added, without the name of their instance. -/
def create (registry : Registry) (values : Component → String → Option V) (config : BindingConfig) :
    World V :=
  registry.components.values.foldl (fun w data => w.onComponentAdd members none data.component)
    { registry, values, binding := { config } }

/-- The part of `close` for one of the two components. -/
def leave : Option ComponentData → World V
  | some data => w.onComponentRemove data.component
  | none => w

def close : World V :=
  let w := { w with closed := true }
  let w := w.leave w.binding.source
  w.leave w.binding.target

/-- One listener call for each time the component has the listener. -/
def emitState (component : Component) (name : String) (value : Option V) : World V :=
  (w.listeners.filter (· = component)).foldl (fun w _ => w.onSourceStateChange name value) w

def step : Event V → World V
  | .addComponent instanceName component =>
    match w.registry.addComponent instanceName component with
    | .error _ => w
    | .ok registry =>
      let w := { w with registry := registry }
      if w.closed then w else w.onComponentAdd members instanceName component
  | .removeComponent instanceName component =>
    match w.registry.removeComponent instanceName component with
    | .error _ => w
    | .ok registry =>
      let w := { w with registry := registry }
      if w.closed then w else w.onComponentRemove component
  | .state component name value =>
    { w with values := update w.values component (update (w.values component) name
      value) }.emitState
      component name value
  | .close => w.close

end World

/-! ## What a binding is for -/

/-- The source has a state and the target an action of the configured names, and
their types print the same. -/
def joins (config : BindingConfig) (source target : Component) : Bool :=
  match (members source.plugin).get config.sourceState,
    (members target.plugin).get config.targetAction with
  | some s, some t =>
    decide (s.memberType = .state) && decide (t.memberType = .action) &&
      decide (s.valueType = t.valueType)
  | _, _ => false

/-- The two components that a binding joins, among those that are found by their id. -/
def joined (config : BindingConfig) (find : String → Option Component) :
    Option (Component × Component) :=
  match find config.sourceComponent, find config.targetComponent with
  | some source, some target => if joins members config source target then some (source, target)
    else none
  | _, _ => none

/-- The components of the registry, as long as the binding is not closed. -/
def World.watched (w : World V) (id : String) : Option Component :=
  if w.closed then none else (w.registry.components.get id).map (·.component)

/-- The source and the target, while both are registered and fit. -/
def World.link (w : World V) : Option (Component × Component) :=
  joined members w.binding.config w.watched

/-- What has to be executed when two components become joined: the current value, if there is
one. -/
def first (values : Component → String → Option V) (config : BindingConfig)
    (p : Component × Component) :
    List (Executed V) :=
  (values p.1 config.sourceState).toList.map fun value => ⟨p.2, config.targetAction, some value⟩

/-- What is due when the joined pair changes. -/
def onJoin (values : Component → String → Option V) (config : BindingConfig) :
    Option (Component × Component) → Option (Component × Component) → List (Executed V)
  | none, some p => first values config p
  | _, _ => []

/-- What an event has to execute, from the joined pair before and after it. -/
def due (w : World V) (after : Option (Component × Component)) : Event V → List (Executed V)
  | .state component name value =>
    match w.link members with
    | some (source, target) =>
      if component = source ∧ name = w.binding.config.sourceState then
        [⟨target, w.binding.config.targetAction, value⟩] else []
    | none => []
  | _ => onJoin w.values w.binding.config (w.link members) after

/-- A component is removed by naming the object that is registered under its id. -/
def RemovesOwn (w : World V) : Event V → Prop
  | .removeComponent _ component =>
    ((w.registry.components.get component.id).all fun data => decide (data.component = component)) =
      true
  | _ => True

instance (w : World V) (e : Event V) : Decidable (RemovesOwn w e) := by
  cases e <;> unfold RemovesOwn <;> infer_instance

/-! ## The binding and what it has found -/

variable {members} {config : BindingConfig}

theorem findMember_eq_some {ms : OMap String NetMember} {name : String} {type : MemberType}
    {m : NetMember} :
    findMember ms name type = some m ↔ ms.get name = some m ∧ m.memberType = type := by
  unfold findMember
  cases hm : ms.get name with
  | none => simp
  | some m' =>
    by_cases ht : m'.memberType = type
    · simp only [ht, ne_eq, not_true_eq_false, if_false, Option.some.injEq]
      constructor
      · rintro rfl
        exact ⟨rfl, ht⟩
      · exact fun h => h.1
    · simp only [ne_eq, ht, not_false_eq_true, if_true, Option.some.injEq, reduceCtorEq, false_iff]
      rintro ⟨rfl, h⟩
      exact ht h

theorem joins_iff {source target : Component} : joins members config source target = true ↔
    ∃ s t, findMember (members source.plugin) config.sourceState .state = some s ∧
      findMember (members target.plugin) config.targetAction .action = some t ∧
        s.valueType = t.valueType := by
  simp only [findMember_eq_some, joins]
  split
  · next s t hs ht => simp [hs, ht, and_assoc]
  · next hno =>
    simp only [Bool.false_eq_true, false_iff]
    rintro ⟨s, t, ⟨hs, _⟩, ⟨ht, _⟩, _⟩
    exact hno s t hs ht

theorem memberErrors_eq_nil {source target : ComponentData} :
    memberErrors members config source target = [] ↔
      joins members config source.component target.component = true := by
  rw [joins_iff]
  unfold memberErrors
  cases hs : findMember (members source.component.plugin) config.sourceState .state with
  | none => simp
  | some s =>
    cases ht : findMember (members target.component.plugin) config.targetAction .action with
    | none => simp
    | some t => by_cases h : s.valueType = t.valueType <;> simp [h]

theorem joined_eq_some {find : String → Option Component} {p : Component × Component} :
    joined members config find = some p ↔ find config.sourceComponent = some p.1 ∧
      find config.targetComponent = some p.2 ∧ joins members config p.1 p.2 = true := by
  unfold joined
  split
  · next s t hs ht =>
    rw [hs, ht]
    by_cases h : joins members config s t = true
    · rw [if_pos h, Option.some.injEq, Option.some.injEq, Option.some.injEq]
      constructor
      · rintro rfl
        exact ⟨rfl, rfl, h⟩
      · rintro ⟨rfl, rfl, _⟩
        rfl
    · rw [if_neg h, Option.some.injEq, Option.some.injEq]
      constructor
      · intro hn
        cases hn
      · rintro ⟨rfl, rfl, h'⟩
        exact absurd h' h
  · next hno =>
    constructor
    · intro hn
      cases hn
    · rintro ⟨hs, ht, _⟩
      exact absurd ht (hno _ _ hs)

theorem onJoin_of_none (values : Component → String → Option V)
    (p : Option (Component × Component)) :
    onJoin values config none p = p.toList.flatMap (first values config) := by
  cases p <;> simp [onJoin]

/-- The binding has found exactly the components of `find`, and listens on the
source while they are joined. -/
structure Tracks (members : Plugin → OMap String NetMember) (find : String → Option Component)
    (w : World V) : Prop where
  source : w.binding.source.map (·.component) = find w.binding.config.sourceComponent
  target : w.binding.target.map (·.component) = find w.binding.config.targetComponent
  errors : ∀ s t, w.binding.source = some s → w.binding.target = some t →
    w.binding.errors = some (memberErrors members w.binding.config s t)
  listeners : w.listeners = (joined members w.binding.config find).toList.map Prod.fst

namespace Tracks

variable {find : String → Option Component} {w : World V}

theorem active_iff (h : Tracks members find w) :
    w.binding.active = true ↔ ∃ p, joined members w.binding.config find = some p := by
  simp only [joined_eq_some, ← h.source, ← h.target]
  cases hs : w.binding.source with
  | none => simp [Binding.active, hs]
  | some s =>
    cases ht : w.binding.target with
    | none => simp [Binding.active, hs, ht]
    | some t => simp [Binding.active, hs, ht, h.errors s t hs ht, memberErrors_eq_nil]

/-- `terminateBinding` takes back what `initBinding` attached, whether the members fitted or not. -/
theorem listeners_terminateBinding (h : Tracks members find w) :
    w.terminateBinding.listeners = [] := by
  unfold World.terminateBinding
  cases hj : joined members w.binding.config find with
  | none =>
    have hn : ¬ w.binding.active = true := by
      rw [h.active_iff, hj]
      rintro ⟨p, hp⟩
      cases hp
    simp only [if_neg hn]
    rw [h.listeners, hj]
    rfl
  | some p =>
    have hs := (joined_eq_some.mp hj).1
    rw [← h.source, Option.map_eq_some_iff] at hs
    obtain ⟨s, hs, hp⟩ := hs
    simp only [if_pos (h.active_iff.mpr ⟨p, hj⟩), hs]
    rw [h.listeners, hj, hp]
    simp

end Tracks

/-- What the binding itself never changes. -/
structure Frame (w w' : World V) : Prop where
  registry : w'.registry = w.registry
  closed : w'.closed = w.closed
  values : w'.values = w.values
  config : w'.binding.config = w.binding.config

section Frames

variable (members) (w : World V)

/-- `initBinding` writes the errors, the listeners and the executed actions only. -/
theorem initBinding_eq : ∃ errors listeners executed, w.initBinding members =
    { w with binding := { w.binding with errors := errors }, listeners := listeners,
             executed := executed } := by
  unfold World.initBinding
  split
  · dsimp only
    split
    · exact ⟨_, _, _, rfl⟩
    · split <;> exact ⟨_, _, _, rfl⟩
  · exact ⟨_, _, _, rfl⟩

theorem initBinding_frame : Frame w (w.initBinding members) := by
  obtain ⟨_, _, _, h⟩ := initBinding_eq members w
  rw [h]
  exact ⟨rfl, rfl, rfl, rfl⟩

theorem initBinding_source : (w.initBinding members).binding.source = w.binding.source := by
  obtain ⟨_, _, _, h⟩ := initBinding_eq members w
  rw [h]

theorem initBinding_target : (w.initBinding members).binding.target = w.binding.target := by
  obtain ⟨_, _, _, h⟩ := initBinding_eq members w
  rw [h]

theorem onComponentAdd_frame (instanceName : InstanceName) (component : Component) :
    Frame w (w.onComponentAdd members instanceName component) := by
  unfold World.onComponentAdd
  split
  · have h := initBinding_frame members
      { w with binding := { w.binding with source := some { instanceName, component } } }
    exact { h with }
  · split
    · have h := initBinding_frame members
        { w with binding := { w.binding with target := some { instanceName, component } } }
      exact { h with }
    · exact ⟨rfl, rfl, rfl, rfl⟩

theorem onComponentRemove_frame (component : Component) :
    Frame w (w.onComponentRemove component) := by
  unfold World.onComponentRemove
  split
  · exact ⟨rfl, rfl, rfl, rfl⟩
  · split <;> exact ⟨rfl, rfl, rfl, rfl⟩

theorem onSourceStateChange_frame (name : String) (value : Option V) :
    Frame w (w.onSourceStateChange name value) := by
  unfold World.onSourceStateChange
  split
  · exact ⟨rfl, rfl, rfl, rfl⟩
  · split <;> exact ⟨rfl, rfl, rfl, rfl⟩

theorem emitState_frame (component : Component) (name : String) (value : Option V) :
    Frame w (w.emitState component name value) := by
  unfold World.emitState
  generalize w.listeners.filter (· = component) = l
  induction l generalizing w with
  | nil => exact ⟨rfl, rfl, rfl, rfl⟩
  | cons c l ih =>
    have h₁ := onSourceStateChange_frame w name value
    have h₂ := ih (w.onSourceStateChange name value)
    exact ⟨h₂.registry.trans h₁.registry, h₂.closed.trans h₁.closed, h₂.values.trans h₁.values,
      h₂.config.trans h₁.config⟩

end Frames

theorem initBinding_errors {w : World V} {s t : ComponentData} (hs : w.binding.source = some s)
    (ht : w.binding.target = some t) :
    (w.initBinding members).binding.errors = some (memberErrors members w.binding.config s t) := by
  simp only [World.initBinding, hs, ht]
  split
  · rfl
  · split <;> rfl

/-- `initBinding` attaches the listener and gives the current value, if the two
components are joined. -/
theorem initBinding_effect {w : World V} {find : String → Option Component}
    (hs : w.binding.source.map (·.component) = find w.binding.config.sourceComponent)
    (ht : w.binding.target.map (·.component) = find w.binding.config.targetComponent) :
    (w.initBinding members).listeners =
        w.listeners ++ (joined members w.binding.config find).toList.map Prod.fst ∧
      (w.initBinding members).executed =
        w.executed ++ (joined members w.binding.config find).toList.flatMap
          (first w.values w.binding.config) := by
  unfold World.initBinding
  split
  · next s t hbs hbt =>
    rw [hbs] at hs
    rw [hbt] at ht
    by_cases hj : joins members w.binding.config s.component t.component = true
    · have hp : joined members w.binding.config find = some (s.component, t.component) :=
        joined_eq_some.mpr ⟨hs.symm, ht.symm, hj⟩
      simp only [memberErrors_eq_nil.mpr hj, hp]
      cases hv : w.values s.component w.binding.config.sourceState
        <;> simp [World.executeAction, first, hv]
    · have hn : joined members w.binding.config find = none := by
        rw [Option.eq_none_iff_forall_not_mem]
        intro p hp
        obtain ⟨h₁, h₂, h₃⟩ := joined_eq_some.mp hp
        rw [← hs, Option.map_some, Option.some.injEq] at h₁
        rw [← ht, Option.map_some, Option.some.injEq] at h₂
        exact hj (h₁ ▸ h₂ ▸ h₃)
      rw [if_pos (fun h => hj (memberErrors_eq_nil.mp h)), hn]
      simp
  · next hno =>
    have hn : joined members w.binding.config find = none := by
      rw [Option.eq_none_iff_forall_not_mem]
      intro p hp
      obtain ⟨h₁, h₂, _⟩ := joined_eq_some.mp hp
      rw [← hs, Option.map_eq_some_iff] at h₁
      rw [← ht, Option.map_eq_some_iff] at h₂
      obtain ⟨s, hs', _⟩ := h₁
      obtain ⟨t, ht', _⟩ := h₂
      exact hno s t hs' ht'
    rw [hn]
    simp

namespace Tracks

variable {find : String → Option Component} {w : World V}

/-- The listener is detached and the new ends are set: `initBinding` brings the binding up to
date. -/
theorem of_initBinding (hs : w.binding.source.map (·.component) =
    find w.binding.config.sourceComponent)
    (ht : w.binding.target.map (·.component) = find w.binding.config.targetComponent)
    (hl : w.listeners = []) :
    Tracks members find (w.initBinding members) where
  source := by rw [initBinding_source, (initBinding_frame _ w).config, hs]
  target := by rw [initBinding_target, (initBinding_frame _ w).config, ht]
  errors := by
    intro s t hbs hbt
    rw [initBinding_source] at hbs
    rw [initBinding_target] at hbt
    rw [(initBinding_frame _ w).config]
    exact initBinding_errors hbs hbt
  listeners := by rw [(initBinding_effect hs ht).1, hl, (initBinding_frame _ w).config,
    List.nil_append]

variable (members) in
theorem joined_eq_none {id : String} (hf : find id = none)
    (hid : id = config.sourceComponent ∨ id = config.targetComponent) : joined members config find =
      none := by
  rw [Option.eq_none_iff_forall_not_mem]
  intro p hp
  obtain ⟨h₁, h₂, _⟩ := joined_eq_some.mp hp
  rcases hid with rfl | rfl
  · rw [hf] at h₁
    cases h₁
  · rw [hf] at h₂
    cases h₂

theorem joined_update {id : String} {c : Option Component} (hs : id ≠ config.sourceComponent)
    (ht : id ≠ config.targetComponent) :
    joined members config (update find id c) = joined members config find := by
  unfold joined
  rw [update_of_ne hs.symm, update_of_ne ht.symm]

/-- A component is added under an id that the binding did not find before. -/
theorem onComponentAdd (h : Tracks members find w)
    (hne : w.binding.config.sourceComponent ≠ w.binding.config.targetComponent)
    (instanceName : InstanceName) {c : Component} (hc : find c.id = none) :
    Tracks members (update find c.id (some c)) (w.onComponentAdd members instanceName c) ∧
      (w.onComponentAdd members instanceName c).executed = w.executed ++
        onJoin w.values w.binding.config (joined members w.binding.config find)
          (joined members w.binding.config (update find c.id (some c))) := by
  unfold World.onComponentAdd
  by_cases hs : c.id = w.binding.config.sourceComponent
  · have hn := joined_eq_none members hc (Or.inl hs)
    have hl := h.listeners
    rw [hn] at hl
    have hs' : (some c) = update find c.id (some c) w.binding.config.sourceComponent := by
      rw [← hs, update_self]
    have ht' : w.binding.target.map (·.component) =
        update find c.id (some c) w.binding.config.targetComponent := by
      rw [update_of_ne (fun h => hne (hs.symm.trans h.symm)), h.target]
    rw [if_pos hs, hn, onJoin_of_none]
    refine ⟨of_initBinding hs' ht' hl, (initBinding_effect ?_ ?_).2⟩
    · exact hs'
    · exact ht'
  · by_cases ht : c.id = w.binding.config.targetComponent
    · have hn := joined_eq_none members hc (Or.inr ht)
      have hl := h.listeners
      rw [hn] at hl
      have ht' : (some c) = update find c.id (some c) w.binding.config.targetComponent := by
        rw [← ht, update_self]
      have hs' : w.binding.source.map (·.component) =
          update find c.id (some c) w.binding.config.sourceComponent := by
        rw [update_of_ne (Ne.symm hs), h.source]
      rw [if_neg hs, if_pos ht, hn, onJoin_of_none]
      refine ⟨of_initBinding hs' ht' hl, (initBinding_effect ?_ ?_).2⟩
      · exact hs'
      · exact ht'
    · rw [if_neg hs, if_neg ht, joined_update hs ht]
      refine ⟨⟨?_, ?_, h.errors, ?_⟩, ?_⟩
      · rw [h.source, update_of_ne (Ne.symm hs)]
      · rw [h.target, update_of_ne (Ne.symm ht)]
      · rw [h.listeners, joined_update hs ht]
      · cases joined members w.binding.config find <;> simp [onJoin]

/-- One end is taken away, after `terminateBinding`. -/
theorem terminate (h : Tracks members find w) {id : String} {b : Binding}
    (hconfig : b.config = w.binding.config)
    (hid : id = w.binding.config.sourceComponent ∨ id = w.binding.config.targetComponent)
    (hs : b.source.map (·.component) = update find id none w.binding.config.sourceComponent)
    (ht : b.target.map (·.component) = update find id none w.binding.config.targetComponent) :
    Tracks members (update find id none) { w.terminateBinding with binding := b } where
  source := by rw [hconfig]; exact hs
  target := by rw [hconfig]; exact ht
  errors := by
    intro s t hbs hbt
    simp only at hbs hbt
    rcases hid with rfl | rfl
    · rw [hbs, update_self] at hs
      cases hs
    · rw [hbt, update_self] at ht
      cases ht
  listeners := by
    rw [hconfig, joined_eq_none _ (update_self ..) hid]
    exact h.listeners_terminateBinding

/-- The component that is found under its id is removed. -/
theorem onComponentRemove (h : Tracks members find w) (hid : ∀ id c, find id = some c → c.id = id)
    (hne : w.binding.config.sourceComponent ≠ w.binding.config.targetComponent) {c : Component}
    (hc : find c.id = some c) :
    Tracks members (update find c.id none) (w.onComponentRemove c) ∧
      (w.onComponentRemove c).executed = w.executed := by
  have hsource : w.binding.source.map (·.component) = some c ↔
      c.id = w.binding.config.sourceComponent := by
    rw [h.source]
    exact ⟨hid _ c, fun hs => hs ▸ hc⟩
  have htarget : w.binding.target.map (·.component) = some c ↔
      c.id = w.binding.config.targetComponent := by
    rw [h.target]
    exact ⟨hid _ c, fun ht => ht ▸ hc⟩
  unfold World.onComponentRemove
  by_cases hs : c.id = w.binding.config.sourceComponent
  · rw [if_pos (hsource.mpr hs)]
    refine ⟨h.terminate rfl (Or.inl hs) ?_ ?_, rfl⟩
    · rw [← hs, update_self]
      rfl
    · exact h.target.trans (update_of_ne (fun he => hne (hs.symm.trans he.symm)) ..).symm
  · rw [if_neg (fun he => hs (hsource.mp he))]
    by_cases ht : c.id = w.binding.config.targetComponent
    · rw [if_pos (htarget.mpr ht)]
      refine ⟨h.terminate rfl (Or.inr ht) ?_ ?_, rfl⟩
      · exact h.source.trans (update_of_ne (Ne.symm hs) ..).symm
      · rw [← ht, update_self]
        rfl
    · rw [if_neg (fun he => ht (htarget.mp he))]
      refine ⟨⟨?_, ?_, h.errors, ?_⟩, rfl⟩
      · rw [h.source, update_of_ne (Ne.symm hs)]
      · rw [h.target, update_of_ne (Ne.symm ht)]
      · rw [h.listeners, joined_update hs ht]

theorem leave (h : Tracks members find w) (hid : ∀ id c, find id = some c → c.id = id)
    (hne : w.binding.config.sourceComponent ≠ w.binding.config.targetComponent) {id : String}
    {data : Option ComponentData} (hdata : data.map (·.component) = find id) :
    Tracks members (update find id none) (w.leave data) ∧ (w.leave data).executed = w.executed ∧
      Frame w (w.leave data) := by
  cases data with
  | none =>
    rw [Option.map_none] at hdata
    rw [hdata, update_eq_self]
    exact ⟨h, rfl, rfl, rfl, rfl, rfl⟩
  | some data =>
    have hc : find id = some data.component := hdata.symm
    obtain rfl := hid id _ hc
    obtain ⟨htracks, hexecuted⟩ := h.onComponentRemove hid hne hc
    exact ⟨htracks, hexecuted, onComponentRemove_frame w data.component⟩

theorem congr (h : Tracks members find w) {find' : String → Option Component}
    (hs : find' w.binding.config.sourceComponent = find w.binding.config.sourceComponent)
    (ht : find' w.binding.config.targetComponent = find w.binding.config.targetComponent) :
    Tracks members find' w where
  source := h.source.trans hs.symm
  target := h.target.trans ht.symm
  errors := h.errors
  listeners := by rw [h.listeners, joined, joined, hs, ht]

theorem onSourceStateChange_eq {t : ComponentData} (ht : w.binding.target = some t) (name : String)
    (value : Option V) :
    w.onSourceStateChange name value = { w with
      executed := w.executed ++ if name = w.binding.config.sourceState then
        [⟨t.component, w.binding.config.targetAction, value⟩] else [] } := by
  unfold World.onSourceStateChange
  by_cases hn : name = w.binding.config.sourceState
  · simp [hn, ht, World.executeAction]
  · simp [hn]

/-- The listener runs once for a change of the source, and forwards the configured state only. -/
theorem emitState (h : Tracks members find w) (component : Component) (name : String)
    (value : Option V) :
    Tracks members find (w.emitState component name value) ∧
      (w.emitState component name value).executed = w.executed ++
        match joined members w.binding.config find with
        | some (source, target) =>
          if component = source ∧ name = w.binding.config.sourceState then
            [⟨target, w.binding.config.targetAction, value⟩] else []
        | none => [] := by
  unfold World.emitState
  rw [h.listeners]
  cases hj : joined members w.binding.config find with
  | none => exact ⟨h, by simp⟩
  | some p =>
    obtain ⟨source, target⟩ := p
    have ht := (joined_eq_some.mp hj).2.1
    rw [← h.target, Option.map_eq_some_iff] at ht
    obtain ⟨t, ht, rfl⟩ := ht
    by_cases hc : component = source
    · subst hc
      simp only [Option.toList_some, List.map_cons, List.map_nil, List.filter_cons, decide_true,
        if_true, List.filter_nil,
        List.foldl_cons, List.foldl_nil, true_and, onSourceStateChange_eq ht]
      exact ⟨{ h with }, trivial⟩
    · simp only [Option.toList_some, List.map_cons, List.map_nil, List.filter_cons, Ne.symm hc,
        decide_false, Bool.false_eq_true, if_false, List.filter_nil, List.foldl_nil, hc, false_and,
          List.append_nil, and_true]
      exact h

end Tracks

/-! ## Runs -/

/-- Every component is registered under its own id, and the binding has found those that are
registered. -/
structure Follows (members : Plugin → OMap String NetMember) (w : World V) : Prop where
  ids : ∀ id data, w.registry.components.get id = some data → data.component.id = id
  tracks : Tracks members w.watched w

/-- What an event does to a binding that follows the registry. -/
structure Obeys (members : Plugin → OMap String NetMember) (w w' : World V)
    (executed : List (Executed V)) : Prop where
  follows : Follows members w'
  config : w'.binding.config = w.binding.config
  executed : w'.executed = w.executed ++ executed

theorem onJoin_none (values : Component → String → Option V) (p : Option (Component × Component)) :
    onJoin values config p none = [] := by
  cases p <;> rfl

/-- A removal joins nothing that was not joined. -/
theorem onJoin_removal (values : Component → String → Option V) (find : String → Option Component)
    (id : String) :
    onJoin values config (joined members config find)
      (joined members config (update find id none)) = [] := by
  by_cases hs : id = config.sourceComponent
  · rw [Tracks.joined_eq_none _ (update_self ..) (Or.inl hs), onJoin_none]
  · by_cases ht : id = config.targetComponent
    · rw [Tracks.joined_eq_none _ (update_self ..) (Or.inr ht), onJoin_none]
    · rw [Tracks.joined_update hs ht]
      cases joined members config find <;> rfl

theorem onJoin_self (values : Component → String → Option V) (p : Option (Component × Component)) :
    onJoin values config p p = [] := by
  cases p <;> rfl

theorem close_closed (w : World V) : w.close.closed = true := by
  have hleave : ∀ (w : World V) data, (w.leave data).closed = w.closed := by
    intro w data
    cases data with
    | none => rfl
    | some data => exact (onComponentRemove_frame w data.component).closed
  rw [World.close, hleave, hleave]

namespace Follows

variable {w : World V}

theorem watched_id (h : Follows members w) {id : String} {c : Component}
    (hc : w.watched id = some c) : c.id = id := by
  unfold World.watched at hc
  split at hc
  · cases hc
  · obtain ⟨data, hdata, rfl⟩ := Option.map_eq_some_iff.mp hc
    exact h.ids id data hdata

/-- The registry changes behind a closed binding. -/
theorem registry_closed (h : Follows members w) (hclosed : w.closed = true) {registry : Registry}
    (hids : ∀ id data, registry.components.get id = some data → data.component.id = id) :
    Obeys members w { w with registry := registry }
      (onJoin w.values w.binding.config (w.link members)
        (World.link members { w with registry := registry })) := by
  have hwatched : World.watched { w with registry := registry } = w.watched := by
    funext id
    simp [World.watched, hclosed]
  have ht := h.tracks
  refine ⟨⟨hids, ?_⟩, rfl, ?_⟩
  · rw [hwatched]
    exact { ht with }
  · simp only [World.link, hwatched, onJoin_self, List.append_nil]

theorem addComponent (h : Follows members w)
    (hne : w.binding.config.sourceComponent ≠ w.binding.config.targetComponent)
    (instanceName : InstanceName) (component : Component) :
    Obeys members w (w.step members (.addComponent instanceName component))
      (onJoin w.values w.binding.config
      (w.link members) ((w.step members (.addComponent instanceName component)).link members)) := by
  simp only [World.step]
  cases hr : w.registry.addComponent instanceName component with
  | error e => exact ⟨h, rfl, by simp [onJoin_self]⟩
  | ok registry =>
    obtain ⟨hn, hcomponents⟩ := Registry.of_addComponent hr
    have hids : ∀ id data, registry.components.get id = some data → data.component.id = id := by
      intro id data hdata
      rw [hcomponents, OMap.get_set_eq_some] at hdata
      rcases hdata with ⟨rfl, rfl⟩ | ⟨_, hdata⟩
      · rfl
      · exact h.ids id data hdata
    by_cases hclosed : w.closed = true
    · simp only [if_pos hclosed]
      exact h.registry_closed hclosed hids
    · simp only [if_neg hclosed]
      have hc : w.watched component.id = none := by simp [World.watched, hclosed, hn]
      have hframe := onComponentAdd_frame members { w with registry := registry } instanceName
        component
      have ht : Tracks members w.watched { w with registry := registry } :=
        { h.tracks with }
      obtain ⟨htracks, hexecuted⟩ := ht.onComponentAdd hne instanceName hc
      have hwatched : (World.onComponentAdd members { w with registry := registry } instanceName
        component).watched =
          update w.watched component.id (some component) := by
        funext id
        rw [World.watched, hframe.registry, hframe.closed, if_neg hclosed]
        by_cases hid : id = component.id
        · simp [hid, hcomponents]
        · simp [World.watched, hclosed, hcomponents, OMap.get_set_ne _ _ hid, update_of_ne hid]
      refine ⟨⟨?_, ?_⟩, hframe.config, ?_⟩
      · rw [hframe.registry]
        exact hids
      · rw [hwatched]
        exact htracks
      · simp only [World.link, hwatched, hframe.config]
        exact hexecuted

theorem removeComponent (h : Follows members w)
    (hne : w.binding.config.sourceComponent ≠ w.binding.config.targetComponent)
    (instanceName : InstanceName) {component : Component}
    (hown : RemovesOwn w (.removeComponent instanceName component)) :
    Obeys members w (w.step members (.removeComponent instanceName component))
      (onJoin w.values w.binding.config
      (w.link members) ((w.step members (.removeComponent instanceName component)).link
        members)) := by
  simp only [World.step]
  cases hr : w.registry.removeComponent instanceName component with
  | error e => exact ⟨h, rfl, by simp [onJoin_self]⟩
  | ok registry =>
    obtain ⟨⟨data, hdata⟩, hcomponents⟩ := Registry.of_removeComponent hr
    have hids : ∀ id data, registry.components.get id = some data → data.component.id = id := by
      intro id data hdata
      rw [hcomponents, OMap.get_delete_eq_some] at hdata
      exact h.ids id data hdata.2
    by_cases hclosed : w.closed = true
    · simp only [if_pos hclosed]
      exact h.registry_closed hclosed hids
    · simp only [if_neg hclosed]
      have hc : w.watched component.id = some component := by
        rw [RemovesOwn, hdata] at hown
        simpa [World.watched, hclosed, hdata] using hown
      have hframe := onComponentRemove_frame { w with registry := registry } component
      have ht : Tracks members w.watched { w with registry := registry } :=
        { h.tracks with }
      obtain ⟨htracks, hexecuted⟩ := ht.onComponentRemove (fun _ _ => h.watched_id) hne hc
      have hwatched : (World.onComponentRemove { w with registry := registry } component).watched =
          update w.watched component.id none := by
        funext id
        rw [World.watched, hframe.registry, hframe.closed, if_neg hclosed]
        by_cases hid : id = component.id
        · simp [hid, hcomponents]
        · simp [World.watched, hclosed, hcomponents, OMap.get_delete_ne _ hid, update_of_ne hid]
      refine ⟨⟨?_, ?_⟩, hframe.config, ?_⟩
      · rw [hframe.registry]
        exact hids
      · rw [hwatched]
        exact htracks
      · simp only [World.link, hwatched, hframe.config, hexecuted, onJoin_removal, List.append_nil]

theorem state (h : Follows members w) (component : Component) (name : String)
    (value : Option V) (after) :
    Obeys members w (w.step members (.state component name value))
      (due members w after (.state component name value)) := by
  simp only [World.step]
  generalize update w.values component (update (w.values component) name value) = values
  have ht : Tracks members w.watched { w with values := values } :=
    { h.tracks with }
  obtain ⟨htracks, hexecuted⟩ := ht.emitState component name value
  have hframe := emitState_frame { w with values := values } component name value
  have hwatched : (World.emitState { w with values := values } component name value).watched =
      w.watched := by
    funext id
    rw [World.watched, hframe.registry, hframe.closed]
    rfl
  refine ⟨⟨?_, ?_⟩, hframe.config, hexecuted⟩
  · rw [hframe.registry]
    exact h.ids
  · rw [hwatched]
    exact htracks

/-- `close` removes the two components that the binding has found. -/
theorem close (h : Follows members w)
    (hne : w.binding.config.sourceComponent ≠ w.binding.config.targetComponent) :
    Obeys members w w.close [] := by
  have ht : Tracks members w.watched { w with closed := true } :=
    { h.tracks with }
  obtain ⟨h₁, he₁, hf₁⟩ := ht.leave (fun _ _ => h.watched_id) hne ht.source
  rw [← hf₁.config] at hne
  have hids : ∀ id c, update w.watched w.binding.config.sourceComponent none id = some c →
      c.id = id := by
    intro id c hc
    by_cases hs : id = w.binding.config.sourceComponent
    · rw [hs, update_self] at hc
      cases hc
    · rw [update_of_ne hs] at hc
      exact h.watched_id hc
  obtain ⟨h₂, he₂, hf₂⟩ := h₁.leave hids hne h₁.target
  have hclosed : w.close.closed = true := hf₂.closed.trans hf₁.closed
  have hwatched : w.close.watched = fun _ => none := by
    funext id
    rw [World.watched, if_pos hclosed]
  refine ⟨⟨?_, ?_⟩, hf₂.config.trans hf₁.config, ?_⟩
  · rw [show w.close.registry = w.registry from hf₂.registry.trans hf₁.registry]
    exact h.ids
  · rw [hwatched]
    refine h₂.congr ?_ ?_
    · rw [hf₂.config, hf₁.config, update_of_ne (hf₁.config ▸ hne), update_self]
    · rw [hf₂.config, update_self]
  · rw [List.append_nil]
    exact he₂.trans he₁

theorem step (h : Follows members w)
    (hne : w.binding.config.sourceComponent ≠ w.binding.config.targetComponent) {e : Event V}
    (hown : RemovesOwn w e) :
    Obeys members w (w.step members e) (due members w ((w.step members e).link members) e) := by
  cases e with
  | addComponent instanceName component => exact h.addComponent hne instanceName component
  | removeComponent instanceName component => exact h.removeComponent hne instanceName hown
  | state component name value => exact h.state component name value _
  | close =>
    have hclose := h.close hne
    have hlink : w.close.link members = none := by
      rw [World.link, joined, World.watched, World.watched, if_pos (close_closed w)]
    show Obeys members w w.close
      (onJoin w.values w.binding.config (w.link members) (w.close.link members))
    rw [hlink, onJoin_none]
    exact hclose

end Follows

/-! ## The constructor -/

/-- Components that are only added keep a joined pair joined. -/
theorem joined_extend {find find' : String → Option Component}
    (hf : ∀ id c, find id = some c → find' id = some c) {p : Component × Component}
    (hp : joined members config find = some p) :
    joined members config find' = some p := by
  obtain ⟨hs, ht, hj⟩ := joined_eq_some.mp hp
  exact joined_eq_some.mpr ⟨hf _ _ hs, hf _ _ ht, hj⟩

theorem onJoin_trans (values : Component → String → Option V)
    {a b c : Option (Component × Component)} (hab : ∀ p, a = some p → b = some p)
    (hbc : ∀ p, b = some p → c = some p) :
    onJoin values config a b ++ onJoin values config b c = onJoin values config a c := by
  cases a with
  | some p => simp [onJoin, hab p rfl]
  | none =>
    cases b with
    | none => simp [onJoin]
    | some p => simp [onJoin, hbc p rfl]

/-- The components of a list with different ids are added one after the other. -/
theorem Tracks.addEach {find : String → Option Component} {w : World V} (h : Tracks members find w)
    (hne : w.binding.config.sourceComponent ≠ w.binding.config.targetComponent)
    (l : List (String × ComponentData)) (hids : ∀ e ∈ l, e.2.component.id = e.1)
    (hn : (l.map Prod.fst).Nodup) (hfresh : ∀ e ∈ l, find e.1 = none) :
    let w' := l.foldl (fun w e => w.onComponentAdd members none e.2.component) w
    let find' := fun id => ((lookup id l).map (·.component)).or (find id)
    Tracks members find' w' ∧ Frame w w' ∧ w'.executed = w.executed ++
      onJoin w.values w.binding.config (joined members w.binding.config find)
        (joined members w.binding.config find') := by
  induction l generalizing find w with
  | nil => exact ⟨h, ⟨rfl, rfl, rfl, rfl⟩, by simp [onJoin_self, lookup]⟩
  | cons e l ih =>
    obtain ⟨id, data⟩ := e
    have hid : data.component.id = id := hids _ List.mem_cons_self
    have hfind : find data.component.id = none := hid ▸ hfresh _ List.mem_cons_self
    obtain ⟨hnot, hn⟩ := List.nodup_cons.mp hn
    obtain ⟨ht, hexecuted⟩ := h.onComponentAdd hne none hfind
    have hf := onComponentAdd_frame members w none data.component
    have hfresh' : ∀ e ∈ l, update find data.component.id (some data.component) e.1 = none := by
      intro e he
      rw [update_of_ne, hfresh e (List.mem_cons_of_mem _ he)]
      intro hee
      exact hnot (hid.symm.trans hee.symm ▸ List.mem_map.mpr ⟨e, he, rfl⟩)
    obtain ⟨ht', hf', hexecuted'⟩ :=
      ih ht (hf.config ▸ hne) (fun e he => hids e (List.mem_cons_of_mem _ he)) hn hfresh'
    have hfind' : (fun i => ((lookup i ((id, data) :: l)).map (·.component)).or (find i)) =
        fun i => ((lookup i l).map (·.component)).or
          (update find data.component.id (some data.component) i) := by
      funext i
      by_cases hi : id = i
      · subst hi
        rw [lookup, if_pos rfl, lookup_eq_none.mpr hnot, hid, update_self]
        rfl
      · rw [lookup, if_neg hi, hid, update_of_ne (Ne.symm hi)]
    rw [hfind']
    refine ⟨ht', ⟨hf'.registry.trans hf.registry, hf'.closed.trans hf.closed,
      hf'.values.trans hf.values, hf'.config.trans hf.config⟩, ?_⟩
    rw [List.foldl_cons, hexecuted', hexecuted, hf.values, hf.config, List.append_assoc,
      onJoin_trans]
    · intro p
      refine joined_extend fun i c hc => ?_
      rw [update_of_ne, hc]
      rintro rfl
      rw [hfind] at hc
      cases hc
    · intro p
      refine joined_extend fun i c hc => ?_
      cases hl : lookup i l with
      | none => exact hc
      | some data' =>
        rw [hfresh' _ (mem_of_lookup hl)] at hc
        cases hc

/-- A new binding has found the components of the registry. -/
theorem create_follows (members : Plugin → OMap String NetMember) {registry : Registry}
    (hids : ∀ id data, registry.components.get id = some data → data.component.id = id)
    (values : Component → String → Option V)
    (hne : config.sourceComponent ≠ config.targetComponent) :
    let w := World.create members registry values config
    Follows members w ∧ w.closed = false ∧ w.binding.config = config ∧
      w.executed = (w.link members).toList.flatMap (first values config) := by
  intro w
  have h₀ : Tracks members (fun _ => none)
      ({ registry, values, binding := { config } } : World V) :=
    ⟨rfl, rfl, (fun s t hs => nomatch hs), rfl⟩
  obtain ⟨ht, hf, hexecuted⟩ := h₀.addEach hne registry.components.entries
    (fun e he => hids e.1 e.2 (OMap.mem_entries.mp he)) registry.components.nodup (fun _ _ => rfl)
  have hw : registry.components.entries.foldl
    (fun w e => w.onComponentAdd members none e.2.component)
      { registry, values, binding := { config } } = w := by
    rw [show w = World.create members registry values config from rfl, World.create, OMap.values,
      List.foldl_map]
  rw [hw] at ht hf hexecuted
  have hwatched : w.watched =
      fun id => ((lookup id registry.components.entries).map (·.component)).or none := by
    funext id
    rw [World.watched, hf.closed, hf.registry, if_neg Bool.false_ne_true, Option.or_none]
    rfl
  refine ⟨⟨?_, ?_⟩, hf.closed, hf.config, ?_⟩
  · rw [hf.registry]
    exact hids
  · rw [hwatched]
    exact ht
  · rw [hexecuted, World.link, hwatched, hf.config]
    have hnone : joined members config (fun _ => none) = none := rfl
    rw [hnone, List.nil_append, onJoin_of_none]

theorem closed_step (w : World V) (e : Event V) :
    (w.step members e).closed = true ↔ w.closed = true ∨ e = .close := by
  cases e with
  | close => simp [World.step, close_closed]
  | state component name value => simp [World.step, (emitState_frame _ component name value).closed]
  | addComponent instanceName component =>
    simp only [World.step, reduceCtorEq, or_false]
    split
    · rfl
    · split
      · rfl
      · rw [(onComponentAdd_frame _ _ instanceName component).closed]
  | removeComponent instanceName component =>
    simp only [World.step, reduceCtorEq, or_false]
    split
    · rfl
    · split
      · rfl
      · rw [(onComponentRemove_frame _ component).closed]

/-- A run in which components are removed by their own object: in every state
reached the binding listens on the source, once, exactly while source and target
are registered and fit; when that begins the current value is executed on the
target, if there is one; then every change of the configured state, in order; and
nothing else. -/
theorem binding_forwards_while_joined (members : Plugin → OMap String NetMember)
    (config : BindingConfig) (hne : config.sourceComponent ≠ config.targetComponent)
    (registry : Registry)
    (hids : ∀ id data, registry.components.get id = some data → data.component.id = id)
    (values : Component → String → Option V) (es : List (Event V)) (e : Event V)
    (h : Along (World.step members) RemovesOwn (World.create members registry values config)
      (es ++ [e])) :
    let start := World.create members registry values config
    let w := es.foldl (World.step members) start
    let w' := w.step members e
    start.executed = (start.link members).toList.flatMap (first values config) ∧
      w.listeners = (w.link members).toList.map Prod.fst ∧
      w'.listeners = (w'.link members).toList.map Prod.fst ∧
      w'.executed = w.executed ++ due members w (w'.link members) e ∧
      (w.closed = true ↔ .close ∈ es) := by
  intro start w w'
  obtain ⟨hfollows, hopen, hconfig, hexecuted⟩ := create_follows members hids values hne
  obtain ⟨hes, he⟩ := Along.append.mp h
  have hrun : Follows members w ∧ w.binding.config = config := by
    refine hes.invariant (P := fun w => Follows members w ∧ w.binding.config = config) ⟨hfollows,
      hconfig⟩ ?_
    rintro w e ⟨hw, hc⟩ hown
    have hstep := hw.step (hc ▸ hne) hown
    exact ⟨hstep.follows, hstep.config.trans hc⟩
  have hclosed : ∀ w : World V, (es.foldl (World.step members) w).closed = true ↔ w.closed = true ∨
      .close ∈ es := by
    clear h he hes hrun w' w
    induction es with
    | nil => simp
    | cons e es ih =>
      intro w
      rw [List.foldl_cons, ih, closed_step, List.mem_cons, or_assoc, eq_comm (a := e)]
  have hstep := hrun.1.step (hrun.2 ▸ hne) he.1
  refine ⟨hexecuted, hrun.1.tracks.listeners, hstep.follows.tracks.listeners, hstep.executed, ?_⟩
  rw [hclosed start, hopen]
  simp

end Model

/-! ## A lamp and its button -/

def sampleMembers (p : Plugin) : OMap String NetMember :=
  if p.name = "button" then OMap.ofList
    [("on", { description := "", memberType := .state, valueType := "bool" })]
  else OMap.ofList [("setOn", { description := "", memberType := .action, valueType := "bool" })]

def button : Component :=
  { object := 1, id := "button", plugin := { object := 0, module := "io", name := "button" } }

def lamp : Component :=
  { object := 2, id := "lamp", plugin := { object := 0, module := "io", name := "lamp" } }

def buttonToLamp : BindingConfig :=
  { sourceComponent := "button", sourceState := "on", targetComponent := "lamp",
    targetAction := "setOn" }

/-- A new binding on an empty registry; the button is pressed in the state it comes with. -/
def sampleStart : World Bool := World.create sampleMembers {} (fun _ _ => some true) buttonToLamp

def sampleRun : List (Event Bool) :=
  [.addComponent (some "hall") button, .addComponent none lamp, .state button "on" (some false),
    .removeComponent none lamp]

theorem binding_forwards_while_joined_lamp :
    (sampleRun.foldl (World.step sampleMembers) sampleStart).executed.map (·.value) =
      [some true, some false] ∧
      (sampleRun.foldl (World.step sampleMembers) sampleStart).listeners =
        ((sampleRun.foldl (World.step sampleMembers) sampleStart).link sampleMembers).toList.map
          Prod.fst :=
  ⟨by decide +kernel, (binding_forwards_while_joined sampleMembers buttonToLamp (by decide) {}
    (fun id data hd => nomatch hd) (fun _ _ => some true) sampleRun .close (by decide +kernel)).2.1⟩

/-- The host that a failed `addComponent` of the manager left in its map. -/
def otherButton : Component := { button with object := 3 }

/-- The registry removes by id, the binding by object: it goes on listening to a
component that is no longer registered. -/
theorem binding_outlives_its_source :
    let w := [Event.addComponent (some "hall") button, .addComponent none lamp,
      .removeComponent none otherButton].foldl
      (World.step sampleMembers) sampleStart
    w.registry.hasComponent "button" = false ∧ w.listeners = [button] ∧
      (w.step sampleMembers (.state button "on" (some false))).executed =
        w.executed ++ [{ component := lamp, action := "setOn", value := some false }] := by
  decide +kernel

end MylifeHome.Core.Bindings
