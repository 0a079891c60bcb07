import MylifeHome.Core.ComponentManager
import MylifeHome.Common.Registry
import MylifeHome.Lib.Run

/-!
# The component manager and the structures it keeps in step

`ComponentManager` of `mylife-home-core` with everything a call touches: its maps
of component hosts and bindings, the store, the registry it shares with the
remote components, the `BusPublisher` and the `Binding` objects that listen to the
registry, and the component instances that are running. The calls are written as
the source has them, so that what an exception leaves behind is what the code
leaves behind.

The code of a plugin is not modelled: each event says how it behaves.
-/
namespace MylifeHome.Core.Hosted

open MylifeHome.Lib MylifeHome.Common OMap EStateM
open MylifeHome.Studio.Core (Err)

/-- How `new ComponentHost` goes once the configuration is accepted. The states of
the component are read and validated after the instance was made. -/
inductive Construct where
  | done
  | throws
  | stateRefused
  deriving DecidableEq

/-- The code of the plugins during one call: the constructor of the component with
an id, the activation of the `Binding` object with a number, and `destroy`. -/
structure Behaviour where
  construct : String → Construct := fun _ => .done
  activates : Nat → Bool := fun _ => true
  destroys : Bool := true

inductive CallError where
  | componentDuplicate (id : String)
  | componentMissing (id : String)
  | bindingExists (config : BindingConfig)
  | bindingMissing (config : BindingConfig)
  | registry (e : RegistryError)
  | configuration (e : ConfigurationError)
  | plugin
  | notPublished
  deriving DecidableEq

/-- A `Binding` object; it listens to the registry until it is closed. -/
structure Binding where
  config : BindingConfig
  source : Option Component := none
  target : Option Component := none
  closed : Bool := false
  deriving DecidableEq

namespace Binding

variable (b : Binding) (c : Component)

/-- The `switch` of `onComponentAdd`: the source is looked at first. -/
def withComponent : Binding :=
  if c.id = b.config.sourceComponent then { b with source := some c }
  else if c.id = b.config.targetComponent then { b with target := some c }
  else b

/-- Adding a component with the id reaches the plugin code: the other end is there. -/
def starts (id : String) : Bool :=
  if id = b.config.sourceComponent then b.target.isSome
  else decide (id = b.config.targetComponent) && b.source.isSome

/-- The `switch` of `onComponentRemove`, on the object. -/
def withoutComponent : Binding :=
  if b.source = some c then { b with source := none }
  else if b.target = some c then { b with target := none }
  else b

end Binding

structure Manager where
  registry : Registry := {}
  components : OMap String Component := ∅
  storeComponents : OMap String ComponentConfig := ∅
  /-- The key of each binding with the number of its `Binding` object. -/
  bindings : OMap String Nat := ∅
  storeBindings : OMap String BindingConfig := ∅
  links : List Binding := []
  /-- The keys of `busComponents` of the publisher, which listens before any binding. -/
  published : List Component := []
  /-- The component objects whose instance was made and not destroyed. -/
  running : List Nat := []
  objects : Nat := 0

abbrev MM := EStateM CallError Manager

section Calls

variable (description : Plugin → Studio.Core.NetPlugin) (b : Behaviour)

/-- `onComponentAdd` of the `Binding` object `k`. -/
def onComponentAdd (c : Component) (k : Nat) (link : Binding) : MM PUnit := do
  modify fun s => { s with links := s.links.set k (link.withComponent c) }
  throwIf (link.starts c.id && !b.activates k) .plugin

/-- `onComponentAdd` of the publisher; an empty instance name passes for a local one. -/
def publishWith (n : InstanceName) (c : Component) (l : List Component) : List Component :=
  if n.getD "" = "" then l ++ [c] else l

/-- `onComponentRemove` of the publisher: it closes the entry of a local component,
which has to be there. -/
def unpublish (n : InstanceName) (c : Component) : MM PUnit := do
  let s ← get
  if n.getD "" = "" then
    throwIf (decide (c ∉ s.published)) .notPublished
    modify fun s => { s with published := s.published.filter (fun c' => decide (c' ≠ c)) }
  else pure ⟨⟩

/-- The listeners of `component.add`, in the order in which they were registered. -/
def emitAdd (n : InstanceName) (c : Component) : MM PUnit := do
  modify fun s => { s with published := publishWith n c s.published }
  let s ← get
  forEach s.links.zipIdx fun p => if p.1.closed then pure ⟨⟩ else onComponentAdd b c p.2 p.1

def emitRemove (n : InstanceName) (c : Component) : MM PUnit := do
  unpublish n c
  modify fun s => { s with
    links := s.links.map fun link => if link.closed then link else link.withoutComponent c }

def registryAddComponent (instanceName : InstanceName) (c : Component) : MM PUnit := do
  let s ← get
  let registry ← orThrow ((s.registry.addComponent instanceName c).mapError .registry)
  modify fun s => { s with registry := registry }
  emitAdd b instanceName c

def registryRemoveComponent (instanceName : InstanceName) (c : Component) : MM PUnit := do
  let s ← get
  let registry ← orThrow ((s.registry.removeComponent instanceName c).mapError .registry)
  modify fun s => { s with registry := registry }
  emitRemove instanceName c

/-- `new ComponentHost(id, plugin, config)` -/
def newComponentHost (plugin : Plugin) (config : ComponentConfig) : MM Component := do
  orThrow ((validateConfiguration config.id (description plugin) config.config).mapError
    .configuration)
  throwIf (decide (b.construct config.id = .throws)) .plugin
  let s ← get
  modify fun s => { s with objects := s.objects + 1, running := s.running ++ [s.objects] }
  throwIf (decide (b.construct config.id = .stateRefused)) .plugin
  return { object := s.objects, id := config.id, plugin }

/-- What `init` and `addComponent` do for a component, up to the store. -/
def startComponent (config : ComponentConfig) : MM PUnit := do
  let s ← get
  let plugin ← orThrow ((s.registry.getPlugin none config.plugin).mapError .registry)
  let component ← newComponentHost description b plugin config
  modify fun s => { s with components := s.components.set component.id component }
  registryAddComponent b none component

def addComponent (config : ComponentConfig) : MM PUnit := do
  let s ← get
  throwIf (s.components.has config.id) (.componentDuplicate config.id)
  startComponent description b config
  modify fun s => { s with storeComponents := s.storeComponents.set config.id config }

def removeComponent (id : String) : MM PUnit := do
  let s ← get
  match s.components.get id with
  | none => throw (.componentMissing id)
  | some component =>
    registryRemoveComponent none component
    throwIf (!b.destroys) .plugin
    modify fun s => { s with
      running := s.running.filter (fun o => decide (o ≠ component.object))
      components := s.components.delete id
      storeComponents := s.storeComponents.delete id }

/-- `new Binding(registry, config)`: it listens before it looks at what is there. -/
def newBinding (config : BindingConfig) : MM Nat := do
  let s ← get
  modify fun s => { s with links := s.links ++ [{ config }] }
  forEach s.registry.getComponentsData fun d => do
    let s' ← get
    match s'.links[s.links.length]? with
    | none => pure ⟨⟩
    | some link => onComponentAdd b d.component s.links.length link
  return s.links.length

def startBinding (config : BindingConfig) : MM PUnit := do
  let k ← newBinding b config
  modify fun s => { s with bindings := s.bindings.set (buildBindingKey config) k }

def addBinding (config : BindingConfig) : MM PUnit := do
  let s ← get
  throwIf (s.bindings.has (buildBindingKey config)) (.bindingExists config)
  startBinding b config
  modify fun s => { s with storeBindings := s.storeBindings.set (buildBindingKey config) config }

def removeBinding (config : BindingConfig) : MM PUnit := do
  let s ← get
  match s.bindings.get (buildBindingKey config) with
  | none => throw (.bindingMissing config)
  | some k =>
    modify fun s => { s with
      links := s.links.modify k
        (fun link => { link with source := none, target := none, closed := true })
      bindings := s.bindings.delete (buildBindingKey config)
      storeBindings := s.storeBindings.delete (buildBindingKey config) }

/-- `init` after the store was loaded. -/
def init : MM PUnit := do
  let s ← get
  forEach s.storeComponents.values (startComponent description b)
  forEach s.storeBindings.values (startBinding b)

end Calls

/-! ## Runs -/

/-- A call of the manager, or a remote component that appears in the registry or
leaves it. -/
inductive Event where
  | addComponent (config : ComponentConfig) (b : Behaviour)
  | removeComponent (id : String) (b : Behaviour)
  | addBinding (config : BindingConfig) (b : Behaviour)
  | removeBinding (config : BindingConfig)
  | appear (instanceName id : String) (plugin : Plugin) (b : Behaviour)
  | disappear (instanceName id : String)

/-- A remote component whose id is taken is not added. -/
def appear (instanceName id : String) (plugin : Plugin) (b : Behaviour) : MM PUnit := do
  let s ← get
  if s.registry.hasComponent id then pure ⟨⟩
  else
    modify fun s => { s with objects := s.objects + 1 }
    registryAddComponent b (some instanceName) { object := s.objects, id, plugin }

/-- The `clear` handler of an instance, which finds the component by its id alone. -/
def disappear (instanceName id : String) : MM PUnit := do
  let s ← get
  let component ← orThrow ((s.registry.getComponent id).mapError .registry)
  registryRemoveComponent (some instanceName) component

section Runs

variable (description : Plugin → Studio.Core.NetPlugin)

def handle : Event → MM PUnit
  | .addComponent config b => addComponent description b config
  | .removeComponent id b => removeComponent b id
  | .addBinding config b => addBinding b config
  | .removeBinding config => removeBinding config
  | .appear instanceName id plugin b => appear instanceName id plugin b
  | .disappear instanceName id => disappear instanceName id

def step (s : Manager) (e : Event) : Manager := after (handle description e) s

def fails (s : Manager) (e : Event) : Bool :=
  match (handle description e).run s with
  | .ok _ _ => false
  | .error _ _ => true

end Runs

def Event.isCall : Event → Bool
  | .appear .. | .disappear .. => false
  | _ => true

/-- The condition on an event: the id of an added component is not that of a remote
one, the code of the plugins gives valid initial states and does not throw in an
action that a binding triggers or in `destroy`, and an instance withdraws an id only
if the component that has it is its own. -/
def Safe (s : Manager) : Event → Prop
  | .addComponent config b =>
    (∀ d ∈ s.registry.components.get config.id, d.instanceName = none) ∧
      b.construct config.id ≠ .stateRefused ∧
      ∀ p ∈ s.links.zipIdx, p.1.closed = false → p.1.starts config.id = true →
        b.activates p.2 = true
  | .removeComponent _ b => b.destroys = true
  | .disappear instanceName id => ∀ d ∈ s.registry.components.get id, d.instanceName =
    some instanceName
  | _ => True

instance (s : Manager) (e : Event) : Decidable (Safe s e) := by
  cases e <;> unfold Safe <;> infer_instance

/-- The maps of the manager, the store and the local part of the registry agree: its
map and the set it keeps for the local instance. -/
structure Coherent (s : Manager) : Prop where
  store : ∀ id, s.storeComponents.has id = s.components.has id
  registered : ∀ id, s.components.has id = true ↔
    (s.registry.components.get id).map ComponentData.instanceName = some none
  owned : ∀ id, s.components.has id = true ↔ ∃ c ∈ (s.registry.dataOf none).components, c.id = id
  bindings : ∀ key, s.storeBindings.has key = s.bindings.has key

/-- Nothing that a call is about has changed, and no instance was left running. -/
structure Unchanged (s s' : Manager) : Prop where
  registry : s'.registry = s.registry
  components : s'.components = s.components
  storeComponents : s'.storeComponents = s.storeComponents
  bindings : s'.bindings = s.bindings
  storeBindings : s'.storeBindings = s.storeBindings
  running : s'.running = s.running

def KeepsRemote (s s' : Manager) : Prop :=
  ∀ id n c, s.registry.components.get id = some { instanceName := some n, component := c } →
    s'.registry.components.get id = some { instanceName := some n, component := c }

/-! ## What a call can do -/

/-- The states differ in the `Binding` objects at most. -/
def LinksOnly (s s' : Manager) : Prop := ∃ links, s' = { s with links := links }

/-- The state once the instance of a host was made. -/
def running (s : Manager) : Manager :=
  { s with objects := s.objects + 1, running := s.running ++ [s.objects] }

def host (s : Manager) (config : ComponentConfig) (plugin : Plugin) : Component :=
  { object := s.objects, id := config.id, plugin }

/-- The state in which a host is put in the registry. -/
def hosting (s : Manager) (config : ComponentConfig) (plugin : Plugin) : Manager :=
  { running s with components := s.components.set config.id (host s config plugin) }

/-- The state at the end of an `addComponent` that returns. -/
def added (s : Manager) (config : ComponentConfig) (c : Component) (r : Registry)
    (links : List Binding) : Manager :=
  { running s with
    registry := r
    components := s.components.set config.id c
    storeComponents := s.storeComponents.set config.id config
    links := links
    published := s.published ++ [c] }

/-- The state at the end of a `removeComponent` that returns. -/
def removed (s : Manager) (id : String) (c : Component) (r : Registry) (links : List Binding) :
    Manager :=
  { s with
    registry := r
    components := s.components.delete id
    storeComponents := s.storeComponents.delete id
    links := links
    published := s.published.filter (fun c' => decide (c' ≠ c))
    running := s.running.filter (fun o => decide (o ≠ c.object)) }

section Steps

variable {description : Plugin → Studio.Core.NetPlugin} {b : Behaviour} {s s' : Manager}
    {c : Component}
  {n : InstanceName}

theorem keeps_onComponentAdd (k : Nat) (link : Binding) :
    Keeps (LinksOnly s) (onComponentAdd b c k link) := by
  refine keeps_bind (keeps_modify ?_) (fun _ => keeps_throwIf _ _)
  rintro _ ⟨links, rfl⟩
  exact ⟨_, rfl⟩

theorem linksOnly_emitAdd :
    LinksOnly { s with published := publishWith n c s.published } (after (emitAdd b n c) s) := by
  have hkeeps : Keeps (LinksOnly { s with published := publishWith n c s.published }) (do
      let s ← get
      forEach s.links.zipIdx fun p =>
        if p.1.closed then pure ⟨⟩ else onComponentAdd b c p.2 p.1 : MM PUnit) := by
    refine keeps_bind keeps_get (fun _ => keeps_forEach ?_)
    intro p _
    split
    · exact keeps_pure _
    · exact keeps_onComponentAdd _ _
  exact hkeeps { s with published := publishWith n c s.published } ⟨s.links, rfl⟩

/-- No listener throws when the plugin code that they reach does not. -/
theorem emitAdd_ok (h : ∀ p ∈ s.links.zipIdx, p.1.closed = false → p.1.starts c.id = true →
    b.activates p.2 = true) :
    ∃ links, (emitAdd b n c).run s =
      .ok ⟨⟩ { s with links := links, published := publishWith n c s.published } := by
  have hloop := forEach_ok (ε := CallError)
    (P := LinksOnly { s with published := publishWith n c s.published })
    (f := fun p => if p.1.closed then pure ⟨⟩ else onComponentAdd b c p.2 p.1) (l := s.links.zipIdx)
    (s := { s with published := publishWith n c s.published }) ?_ ⟨s.links, rfl⟩
  · obtain ⟨_, hrun, links, rfl⟩ := hloop
    exact ⟨links, hrun⟩
  · rintro p hp _ ⟨links, rfl⟩
    by_cases hc : p.1.closed
    · exact ⟨_, by rw [if_pos hc]; rfl, links, rfl⟩
    · have hact : (p.1.starts c.id && !b.activates p.2) = false := by
        by_cases hst : p.1.starts c.id = true
        · rw [h p hp (Bool.eq_false_iff.mpr hc) hst]; simp
        · rw [Bool.eq_false_iff.mpr hst]; rfl
      refine ⟨_, ?_, links.set p.2 (p.1.withComponent c), rfl⟩
      rw [if_neg hc, onComponentAdd, run_bind_ok]
      exact ⟨⟨⟩, _, rfl, run_throwIf_ok.mpr ⟨hact, rfl⟩⟩

theorem registryAddComponent_run :
    (registryAddComponent b n c).run s =
      match s.registry.addComponent n c with
      | .error e => .error (.registry e) s
      | .ok r => (emitAdd b n c).run { s with registry := r } := by
  simp only [registryAddComponent, run_bind, run_get]
  cases s.registry.addComponent n c with
  | error e => rfl
  | ok r => rfl

theorem registryAddComponent_ok (hc : s.registry.components.get c.id = none)
    (h : ∀ p ∈ s.links.zipIdx, p.1.closed = false → p.1.starts c.id = true →
      b.activates p.2 = true) :
    ∃ r links, s.registry.addComponent n c = .ok r ∧
      (registryAddComponent b n c).run s = .ok ⟨⟩ { s with
        registry := r, links := links, published := publishWith n c s.published } := by
  obtain ⟨r, hr, _⟩ := Registry.addComponent_ok (n := n) hc
  obtain ⟨links, hemit⟩ := emitAdd_ok (s := { s with registry := r }) (n := n) h
  exact ⟨r, links, hr, by rw [registryAddComponent_run, hr]; exact hemit⟩

/-- Whether or not a listener throws, the component is in the registry. -/
theorem registryAddComponent_after (hc : s.registry.components.get c.id = none) :
    ∃ r links, s.registry.addComponent n c = .ok r ∧
      after (registryAddComponent b n c) s =
        { s with registry := r, links := links, published := publishWith n c s.published } := by
  obtain ⟨r, hr, _⟩ := Registry.addComponent_ok (n := n) hc
  obtain ⟨links, hemit⟩ :=
    linksOnly_emitAdd (b := b) (n := n) (c := c) (s := { s with registry := r })
  refine ⟨r, links, hr, ?_⟩
  rw [← hemit, after, registryAddComponent_run, hr, after]

theorem registryRemoveComponent_run {r : Registry} (hr : s.registry.removeComponent n c = .ok r) :
    (registryRemoveComponent n c).run s = (emitRemove n c).run { s with registry := r } := by
  simp only [registryRemoveComponent, run_bind, run_get, hr]
  rfl

/-- A local component that is published is taken out of the registry. -/
theorem registryRemoveComponent_ok {d : ComponentData}
    (hc : s.registry.components.get c.id = some d) (hpub : c ∈ s.published) :
    ∃ r links, s.registry.removeComponent none c = .ok r ∧
      (registryRemoveComponent none c).run s = .ok ⟨⟩ { s with
        registry := r
        links := links
        published := s.published.filter (fun c' => decide (c' ≠ c)) } := by
  obtain ⟨r, hr, _⟩ := Registry.removeComponent_ok (n := none) hc
  refine ⟨r, s.links.map fun link => if link.closed then link else link.withoutComponent c, hr, ?_⟩
  have hin : decide (c ∉ s.published) = false := decide_eq_false (not_not_intro hpub)
  rw [registryRemoveComponent_run hr, emitRemove, unpublish]
  simp only [run_bind, run_get, Option.getD_none, if_true, hin, run_throwIf_false]
  rfl

/-- Whether or not the publisher throws, the component is out of the registry. -/
theorem registryRemoveComponent_after {d : ComponentData}
    (hc : s.registry.components.get c.id = some d) :
    ∃ r links published, s.registry.removeComponent n c = .ok r ∧
      (∀ c' ∈ s.published, c' ≠ c → c' ∈ published) ∧
      after (registryRemoveComponent n c) s =
        { s with registry := r, links := links, published := published } := by
  obtain ⟨r, hr, _⟩ := Registry.removeComponent_ok (n := n) hc
  have hkeeps : Keeps (fun t => ∃ links published, (∀ c' ∈ s.published, c' ≠ c → c' ∈ published) ∧
      t = { s with registry := r, links := links, published := published }) (emitRemove n c) := by
    refine keeps_bind (keeps_bind keeps_get fun _ => ?_) fun _ => keeps_modify ?_
    · split
      · refine keeps_bind (keeps_throwIf _ _) fun _ => keeps_modify ?_
        rintro _ ⟨links, published, hpub, rfl⟩
        exact ⟨links, _, fun c' hc' hne =>
          List.mem_filter.mpr ⟨hpub c' hc' hne, decide_eq_true hne⟩, rfl⟩
      · exact keeps_pure _
    · rintro _ ⟨links, published, hpub, rfl⟩
      exact ⟨_, published, hpub, rfl⟩
  obtain ⟨links, published, hpub, hafter⟩ :=
    hkeeps { s with registry := r } ⟨s.links, s.published, fun _ h _ => h, rfl⟩
  exact ⟨r, links, published, hr, hpub,
    by rw [← hafter, after, registryRemoveComponent_run hr, after]⟩

theorem newComponentHost_run (plugin : Plugin) (config : ComponentConfig) :
    (newComponentHost description b plugin config).run s =
      match validateConfiguration config.id (description plugin) config.config with
      | .error e => .error (.configuration e) s
      | .ok _ =>
        match b.construct config.id with
        | .throws => .error .plugin s
        | .stateRefused => .error .plugin (running s)
        | .done => .ok (host s config plugin) (running s) := by
  rw [newComponentHost]
  cases validateConfiguration config.id (description plugin) config.config with
  | error e => rfl
  | ok u => cases b.construct config.id <;> rfl

variable (description) in
theorem startComponent_run (config : ComponentConfig) :
    (startComponent description b config).run s =
      match s.registry.getPlugin none config.plugin with
      | .error e => .error (.registry e) s
      | .ok plugin =>
        match validateConfiguration config.id (description plugin) config.config with
        | .error e => .error (.configuration e) s
        | .ok _ =>
          match b.construct config.id with
          | .throws => .error .plugin s
          | .stateRefused => .error .plugin (running s)
          | .done =>
            (registryAddComponent b none (host s config plugin)).run (hosting s config plugin) := by
  simp only [startComponent, run_bind, run_get]
  cases s.registry.getPlugin none config.plugin with
  | error e => rfl
  | ok plugin =>
    simp only [Except.mapError, orThrow, run_pure, newComponentHost_run]
    cases validateConfiguration config.id (description plugin) config.config with
    | error e => rfl
    | ok u => cases b.construct config.id <;> rfl

variable (description) in
/-- The ways of `startComponent` up to the registry. -/
theorem startComponent_cases (config : ComponentConfig) :
    (∃ e, (startComponent description b config).run s = .error e s) ∨
    (b.construct config.id = .stateRefused ∧
      ∃ e, (startComponent description b config).run s = .error e (running s)) ∨
    ∃ plugin, (startComponent description b config).run s =
      (registryAddComponent b none (host s config plugin)).run (hosting s config plugin) := by
  rw [startComponent_run]
  cases s.registry.getPlugin none config.plugin with
  | error e => exact Or.inl ⟨_, rfl⟩
  | ok plugin =>
    cases hv : validateConfiguration config.id (description plugin) config.config with
    | error e => exact Or.inl ⟨.configuration e, by simp only [hv]⟩
    | ok u =>
      cases b.construct config.id with
      | throws => exact Or.inl ⟨.plugin, by simp only [hv]⟩
      | stateRefused => exact Or.inr (Or.inl ⟨rfl, .plugin, by simp only [hv]⟩)
      | done => exact Or.inr (Or.inr ⟨plugin, by simp only [hv]⟩)

end Steps

/-! ## The invariant -/

/-- The registry is sound and its local components are the hosts of the manager. -/
structure Hosts (registry : Registry) (components : OMap String Component) : Prop where
  coherent : registry.Coherent
  hosts : ∀ id c, components.get id = some c ↔
    registry.components.get id = some { instanceName := none, component := c }

namespace Hosts

variable {r r' : Registry} {m : OMap String Component} {c : Component}

theorem id (h : Hosts r m) {id : String} (hc : m.get id = some c) : c.id = id :=
  h.coherent.ids _ _ ((h.hosts id c).mp hc)

theorem addLocal (h : Hosts r m) (hr : r.addComponent none c = .ok r') :
    Hosts r' (m.set c.id c) := by
  obtain ⟨_, hco, hcomp, _⟩ := h.coherent.addComponent_ok hr
  refine ⟨hco, fun id c' => ?_⟩
  rw [hcomp, get_set_eq_some, get_set_eq_some, h.hosts]
  simp

theorem addRemote (h : Hosts r m) {n : String} (hr : r.addComponent (some n) c = .ok r') :
    Hosts r' m := by
  obtain ⟨hfree, hco, hcomp, _⟩ := h.coherent.addComponent_ok hr
  refine ⟨hco, fun id c' => ?_⟩
  rw [hcomp, get_set_eq_some, h.hosts]
  constructor
  · intro hget
    refine Or.inr ⟨?_, hget⟩
    rintro rfl
    rw [hfree] at hget
    cases hget
  · rintro (⟨_, heq⟩ | ⟨_, hget⟩)
    · cases heq
    · exact hget

theorem removeLocal (h : Hosts r m) {id : String} (hc : m.get id = some c)
    (hr : r.removeComponent none c = .ok r') :
    Hosts r' (m.delete id) ∧ r'.components = r.components.delete id ∧
      r'.pluginsPerInstance = r.pluginsPerInstance := by
  have hget := (h.hosts id c).mp hc
  obtain rfl := h.id hc
  obtain ⟨hco, hcomp, hplug⟩ := h.coherent.removeComponent_ok hget hr
  refine ⟨⟨hco, fun id c' => ?_⟩, hcomp, hplug⟩
  rw [hcomp, get_delete_eq_some, get_delete_eq_some, h.hosts]

theorem removeRemote (h : Hosts r m) {n : String}
    (hc : r.components.get c.id = some { instanceName := some n, component := c })
    (hr : r.removeComponent (some n) c = .ok r') : Hosts r' m := by
  obtain ⟨hco, hcomp, _⟩ := h.coherent.removeComponent_ok hc hr
  refine ⟨hco, fun id c' => ?_⟩
  rw [hcomp, get_delete_eq_some, h.hosts, iff_and_self]
  rintro hget rfl
  rw [hc] at hget
  cases hget

end Hosts

theorem published_set {m : OMap String Component} {l : List Component}
    (h : ∀ id c, m.get id = some c → c ∈ l) (id : String) (c : Component) :
    ∀ id' c', (m.set id c).get id' = some c' → c' ∈ l ++ [c] := by
  intro id' c' hc'
  rcases get_set_eq_some.mp hc' with ⟨_, rfl⟩ | ⟨_, hc'⟩
  · exact List.mem_append_right _ (List.mem_singleton_self _)
  · exact List.mem_append_left _ (h id' c' hc')

structure Good (s : Manager) : Prop where
  hosts : Hosts s.registry s.components
  store : ∀ id, s.storeComponents.has id = s.components.has id
  bindings : ∀ key, s.storeBindings.has key = s.bindings.has key
  published : ∀ id c, s.components.get id = some c → c ∈ s.published

theorem Good.coherent {s : Manager} (h : Good s) : Coherent s := by
  refine ⟨h.store, fun id => ?_, fun id => ?_, h.bindings⟩
  · rw [has_iff, Option.map_eq_some_iff]
    constructor
    · rintro ⟨c, hc⟩
      exact ⟨_, (h.hosts.hosts id c).mp hc, rfl⟩
    · rintro ⟨⟨_, c⟩, hget, rfl⟩
      exact ⟨c, (h.hosts.hosts id c).mpr hget⟩
  · rw [has_iff]
    constructor
    · rintro ⟨c, hc⟩
      have hid := h.hosts.id hc
      exact ⟨c, (h.hosts.coherent.pairs none c).mpr (hid ▸ (h.hosts.hosts id c).mp hc), hid⟩
    · rintro ⟨c, hc, rfl⟩
      exact ⟨c, (h.hosts.hosts _ _).mpr ((h.hosts.coherent.pairs none c).mp hc)⟩

section Preserved

variable {description : Plugin → Studio.Core.NetPlugin} {b : Behaviour} {s s' : Manager}

theorem addComponent_run {config : ComponentConfig} (hd : s.components.has config.id = false) :
    (addComponent description b config).run s =
      match (startComponent description b config).run s with
      | .ok _ s => .ok ⟨⟩ { s with storeComponents := s.storeComponents.set config.id config }
      | .error e s => .error e s := by
  simp only [addComponent, run_bind, run_get, hd, run_throwIf_false]
  cases (startComponent description b config).run s <;> rfl

/-- An id that the manager does not have and no remote component has is free. -/
theorem registry_free (h : Good s) {id : String} (hd : s.components.has id = false)
    (hremote : ∀ d ∈ s.registry.components.get id, d.instanceName = none) :
      s.registry.components.get id = none := by
  cases hget : s.registry.components.get id with
  | none => rfl
  | some d =>
    have hlocal := hremote d hget
    have hc := (h.hosts.hosts id d.component).mpr (hlocal ▸ hget)
    rw [has_eq_false.mp hd] at hc
    cases hc

/-- The end of `addComponent` once the host is made. -/
theorem addComponent_done {config : ComponentConfig} {plugin : Plugin}
    (hd : s.components.has config.id = false) (hfree : s.registry.components.get config.id = none)
    (hact : ∀ p ∈ s.links.zipIdx, p.1.closed = false → p.1.starts config.id = true →
      b.activates p.2 = true)
    (hstart : (startComponent description b config).run s =
      (registryAddComponent b none (host s config plugin)).run (hosting s config plugin)) :
    ∃ c r links, c.id = config.id ∧ s.registry.addComponent none c = .ok r ∧
      (addComponent description b config).run s = .ok ⟨⟩ (added s config c r links) := by
  obtain ⟨r, links, hadd, hok⟩ := registryAddComponent_ok (n := none) (b := b)
    (c := host s config plugin) (s := hosting s config plugin) hfree hact
  refine ⟨_, r, links, rfl, hadd, ?_⟩
  rw [addComponent_run hd, hstart, hok]
  rfl

variable (description) in
theorem addComponent_spec (h : Good s) {config : ComponentConfig}
    (hsafe : Safe s (.addComponent config b)) :
    (∃ e, (addComponent description b config).run s = .error e s) ∨
    ∃ c r links, c.id = config.id ∧ s.registry.addComponent none c = .ok r ∧
      (addComponent description b config).run s = .ok ⟨⟩ (added s config c r links) := by
  obtain ⟨hremote, hstate, hact⟩ := hsafe
  cases hd : s.components.has config.id with
  | true =>
    refine Or.inl ⟨.componentDuplicate config.id, ?_⟩
    simp only [addComponent, run_bind, run_get, hd, run_throwIf_true]
  | false =>
    rcases startComponent_cases (b := b) (s := s) description config with ⟨e, hrun⟩ | ⟨href, _⟩ |
      ⟨plugin, hrun⟩
    · exact Or.inl ⟨e, by rw [addComponent_run hd, hrun]⟩
    · exact absurd href hstate
    · exact Or.inr (addComponent_done hd (registry_free h hd hremote) hact hrun)

theorem removeComponent_missing {id : String} (hc : s.components.get id = none) :
    (removeComponent b id).run s = .error (.componentMissing id) s := by
  simp only [removeComponent, run_bind, run_get, hc]
  rfl

theorem removeComponent_done (h : Good s) {id : String} {c : Component}
    (hc : s.components.get id = some c) (hdestroys : b.destroys = true) :
    ∃ r links, s.registry.removeComponent none c = .ok r ∧
      (removeComponent b id).run s = .ok ⟨⟩ (removed s id c r links) := by
  have hget := (h.hosts.hosts id c).mp hc
  obtain ⟨r, links, hr, hrun⟩ :=
    registryRemoveComponent_ok ((h.hosts.id hc).symm ▸ hget) (h.published id c hc)
  refine ⟨r, links, hr, ?_⟩
  simp only [removeComponent, run_bind, run_get, hc, hrun, hdestroys]
  rfl

theorem removeComponent_spec (h : Good s) {id : String} (hsafe : Safe s (.removeComponent id b)) :
    (∃ e, (removeComponent b id).run s = .error e s) ∨
    ∃ c r links, s.components.get id = some c ∧ s.registry.removeComponent none c = .ok r ∧
      (removeComponent b id).run s = .ok ⟨⟩ (removed s id c r links) := by
  cases hc : s.components.get id with
  | none => exact Or.inl ⟨_, removeComponent_missing hc⟩
  | some c =>
    obtain ⟨r, links, hr, hrun⟩ := removeComponent_done h hc hsafe
    exact Or.inr ⟨c, r, links, rfl, hr, hrun⟩

theorem linksOnly_newBinding (config : BindingConfig) :
    LinksOnly s (after (newBinding b config) s) := by
  have hkeeps : Keeps (LinksOnly s) (newBinding b config) := by
    refine keeps_bind keeps_get
      (fun s₀ => keeps_bind (keeps_modify ?_) (fun _ => keeps_bind (keeps_forEach ?_)
      (fun _ => keeps_pure _)))
    · rintro _ ⟨links, rfl⟩
      exact ⟨_, rfl⟩
    · intro d _
      refine keeps_bind keeps_get (fun s₁ => ?_)
      cases s₁.links[s₀.links.length]? with
      | none => exact keeps_pure _
      | some link => exact keeps_onComponentAdd _ link
  exact hkeeps s ⟨s.links, rfl⟩

theorem startBinding_cases (config : BindingConfig) :
    (∃ e links, (startBinding b config).run s = .error e { s with links := links }) ∨
    ∃ k links, (startBinding b config).run s =
      .ok ⟨⟩ { s with links := links, bindings := s.bindings.set (buildBindingKey config) k } := by
  obtain ⟨links, hlinks⟩ := linksOnly_newBinding (b := b) (s := s) config
  rw [startBinding, run_bind]
  cases hrun : (newBinding b config).run s with
  | ok k s₁ =>
    rw [after_ok hrun] at hlinks
    subst hlinks
    exact Or.inr ⟨k, links, rfl⟩
  | error e s₁ =>
    rw [after_error hrun] at hlinks
    subst hlinks
    exact Or.inl ⟨e, links, rfl⟩

theorem addBinding_spec (config : BindingConfig) :
    (∃ e links, (addBinding b config).run s = .error e { s with links := links }) ∨
    ∃ k links, (addBinding b config).run s = .ok ⟨⟩ { s with
      links := links
      bindings := s.bindings.set (buildBindingKey config) k
      storeBindings := s.storeBindings.set (buildBindingKey config) config } := by
  simp only [addBinding, run_bind, run_get]
  cases s.bindings.has (buildBindingKey config) with
  | true => exact Or.inl ⟨_, s.links, rfl⟩
  | false =>
    simp only [run_throwIf_false]
    rcases startBinding_cases (b := b) (s := s) config with ⟨e, links, hrun⟩ | ⟨k, links, hrun⟩
    · rw [hrun]; exact Or.inl ⟨e, links, rfl⟩
    · rw [hrun]; exact Or.inr ⟨k, links, rfl⟩

theorem removeBinding_spec (config : BindingConfig) :
    (∃ e, (removeBinding config).run s = .error e s) ∨
    ∃ links, (removeBinding config).run s = .ok ⟨⟩ { s with
      links := links
      bindings := s.bindings.delete (buildBindingKey config)
      storeBindings := s.storeBindings.delete (buildBindingKey config) } := by
  simp only [removeBinding, run_bind, run_get]
  cases s.bindings.get (buildBindingKey config) with
  | none => exact Or.inl ⟨_, rfl⟩
  | some k => exact Or.inr ⟨s.links.modify k _, rfl⟩

theorem appear_after (instanceName id : String) (plugin : Plugin) :
    after (appear instanceName id plugin b) s = s ∨
    ∃ c r links, s.registry.addComponent (some instanceName) c = .ok r ∧
      after (appear instanceName id plugin b) s = { s with
        registry := r
        links := links
        published := publishWith (some instanceName) c s.published
        objects := s.objects + 1 } := by
  cases hhas : s.registry.hasComponent id with
  | true =>
    refine Or.inl ?_
    simp only [after, appear, run_bind, run_get, hhas]
    rfl
  | false =>
    obtain ⟨r, links, hr, hafter⟩ := registryAddComponent_after (b := b) (n := some instanceName)
      (c := { object := s.objects, id, plugin }) (s := { s with objects := s.objects + 1 })
        (has_eq_false.mp hhas)
    refine Or.inr ⟨_, r, links, hr, ?_⟩
    rw [← hafter]
    simp only [after, appear, run_bind, run_get, hhas]
    rfl

theorem disappear_after (h : Good s) {instanceName id : String}
    (hsafe : Safe s (.disappear instanceName id)) :
    after (disappear instanceName id) s = s ∨
    ∃ c r links published,
      s.registry.components.get c.id = some { instanceName := some instanceName, component := c } ∧
      s.registry.removeComponent (some instanceName) c = .ok r ∧
      (∀ c' ∈ s.published, c' ≠ c → c' ∈ published) ∧
      after (disappear instanceName id) s =
        { s with registry := r, links := links, published := published } := by
  cases hget : s.registry.components.get id with
  | none =>
    refine Or.inl ?_
    simp only [after, disappear, run_bind, run_get, Registry.getComponent, hget]
    rfl
  | some d =>
    obtain ⟨n, c⟩ := d
    obtain rfl : n = some instanceName := hsafe _ hget
    have hid : c.id = id := h.hosts.coherent.ids _ _ hget
    subst hid
    obtain ⟨r, links, published, hr, hpub, hafter⟩ :=
      registryRemoveComponent_after (n := some instanceName) hget
    refine Or.inr ⟨c, r, links, published, hget, hr, hpub, ?_⟩
    rw [← hafter]
    simp only [after, disappear, run_bind, run_get, Registry.getComponent, hget]
    rfl

/-- What one event can do under the condition. -/
theorem step_good (h : Good s) {e : Event} (hsafe : Safe s e) : Good (step description s e) := by
  have hlinks : ∀ links, Good { s with links := links } := fun _ =>
    { h with }
  unfold step handle
  cases e with
  | addComponent config b =>
    rcases addComponent_spec description h hsafe with ⟨e, hrun⟩ | ⟨c, r, links, hid, hr, hrun⟩
    · rw [after_error hrun]; exact h
    · rw [after_ok hrun, added]
      refine ⟨hid ▸ h.hosts.addLocal hr, fun id => ?_, h.bindings, published_set h.published _ c⟩
      rw [has_set, has_set, h.store]
  | removeComponent id b =>
    rcases removeComponent_spec h hsafe with ⟨e, hrun⟩ | ⟨c, r, links, hc, hr, hrun⟩
    · rw [after_error hrun]; exact h
    · rw [after_ok hrun, removed]
      refine ⟨(h.hosts.removeLocal hc hr).1, fun id' => ?_, h.bindings, fun id' c' hc' => ?_⟩
      · rw [has_delete, has_delete, h.store]
      · obtain ⟨hne, hget⟩ := get_delete_eq_some.mp hc'
        refine List.mem_filter.mpr ⟨h.published id' c' hget, decide_eq_true ?_⟩
        rintro rfl
        exact hne ((h.hosts.id hget).symm.trans (h.hosts.id hc))
  | addBinding config b =>
    rcases addBinding_spec (b := b) (s := s) config with ⟨e, links, hrun⟩ | ⟨k, links, hrun⟩
    · rw [after_error hrun]; exact hlinks links
    · rw [after_ok hrun]
      refine ⟨h.hosts, h.store, fun key => ?_, h.published⟩
      rw [has_set, has_set, h.bindings]
  | removeBinding config =>
    rcases removeBinding_spec (s := s) config with ⟨e, hrun⟩ | ⟨links, hrun⟩
    · rw [after_error hrun]; exact h
    · rw [after_ok hrun]
      refine ⟨h.hosts, h.store, fun key => ?_, h.published⟩
      rw [has_delete, has_delete, h.bindings]
  | appear n id plugin b =>
    rcases appear_after (b := b) (s := s) n id plugin with hafter | ⟨c, r, links, hr, hafter⟩
    · simp only [hafter]; exact h
    · simp only [hafter]
      refine ⟨h.hosts.addRemote hr, h.store, h.bindings, fun id c' hc' => ?_⟩
      show c' ∈ publishWith _ c s.published
      unfold publishWith
      split
      · exact List.mem_append_left _ (h.published id c' hc')
      · exact h.published id c' hc'
  | disappear n id =>
    rcases disappear_after h hsafe with hafter | ⟨c, r, links, published, hget, hr, hpub, hafter⟩
    · simp only [hafter]; exact h
    · simp only [hafter]
      refine ⟨h.hosts.removeRemote hget hr, h.store, h.bindings, fun id' c' hc' =>
        hpub c' (h.published id' c' hc') ?_⟩
      rintro rfl
      rw [h.hosts.id hc', (h.hosts.hosts id' c').mp hc'] at hget
      cases hget

theorem unchanged_refl (s : Manager) : Unchanged s s := ⟨rfl, rfl, rfl, rfl, rfl, rfl⟩

theorem unchanged_of_fails (h : Good s) {e : Event} (hsafe : Safe s e) (hcall : e.isCall = true)
    (hf : fails description s e = true) : Unchanged s (step description s e) := by
  have hsame := unchanged_refl s
  unfold fails handle at hf
  unfold step handle
  cases e with
  | addComponent config b =>
    rcases addComponent_spec description h hsafe with ⟨e, hrun⟩ | ⟨c, r, links, hid, hr, hrun⟩
    · rw [after_error hrun]; exact hsame
    · simp only [hrun] at hf
      cases hf
  | removeComponent id b =>
    rcases removeComponent_spec h hsafe with ⟨e, hrun⟩ | ⟨c, r, links, hc, hr, hrun⟩
    · rw [after_error hrun]; exact hsame
    · simp only [hrun] at hf
      cases hf
  | addBinding config b =>
    rcases addBinding_spec (b := b) (s := s) config with ⟨e, links, hrun⟩ | ⟨k, links, hrun⟩
    · rw [after_error hrun]; exact ⟨rfl, rfl, rfl, rfl, rfl, rfl⟩
    · simp only [hrun] at hf
      cases hf
  | removeBinding config =>
    rcases removeBinding_spec (s := s) config with ⟨e, hrun⟩ | ⟨links, hrun⟩
    · rw [after_error hrun]; exact hsame
    · simp only [hrun] at hf
      cases hf
  | appear n id plugin b => cases hcall
  | disappear n id => cases hcall

theorem keepsRemote_removeComponent (h : Good s) {id : String}
    (hsafe : Safe s (.removeComponent id b)) :
    KeepsRemote s (step description s (.removeComponent id b)) := by
  unfold step handle
  rcases removeComponent_spec h hsafe with ⟨e, hrun⟩ | ⟨c, r, links, hc, hr, hrun⟩
  · rw [after_error hrun]; exact fun _ _ _ hget => hget
  · rw [after_ok hrun]
    intro id' n c' hget
    have hcomp := (h.hosts.removeLocal hc hr).2.1
    show r.components.get id' = _
    rw [hcomp, get_delete_eq_some]
    refine ⟨?_, hget⟩
    rintro rfl
    rw [(h.hosts.hosts _ _).mp hc] at hget
    cases hget

end Preserved

/-! ## The start -/

/-- The state in which `init` finds a manager whose store was loaded: nothing runs
yet, and the registry may already hold remote components. -/
structure Loaded (s : Manager) : Prop where
  hosts : Hosts s.registry s.components
  components : s.components = ∅
  bindings : s.bindings = ∅
  storeComponents : ∀ id config, s.storeComponents.get id = some config → config.id = id
  storeBindings : ∀ key config, s.storeBindings.get key = some config → buildBindingKey config = key

section Start

variable {description : Plugin → Studio.Core.NetPlugin} {b : Behaviour} {s s' : Manager}

theorem startComponent_ok {config : ComponentConfig}
    (hrun : (startComponent description b config).run s = .ok ⟨⟩ s') :
    ∃ c r links, c.id = config.id ∧ s.registry.addComponent none c = .ok r ∧
      s' = { added s config c r links with storeComponents := s.storeComponents } := by
  rcases startComponent_cases (b := b) (s := s) description config with ⟨e, h⟩ | ⟨_, e, h⟩ |
    ⟨plugin, h⟩
  · rw [h] at hrun; cases hrun
  · rw [h] at hrun; cases hrun
  · rw [h, registryAddComponent_run] at hrun
    cases hr : (hosting s config plugin).registry.addComponent none (host s config plugin) with
    | error e => simp only [hr] at hrun; cases hrun
    | ok r =>
      simp only [hr] at hrun
      obtain ⟨links, hlinks⟩ := linksOnly_emitAdd (b := b) (n := none) (c := host s config plugin)
        (s := { hosting s config plugin with registry := r })
      rw [after_ok hrun] at hlinks
      exact ⟨_, r, links, rfl, hr, hlinks⟩

/-- The components of the store that were started so far are the hosts. -/
theorem startComponents_ok {l : List ComponentConfig} (h : Hosts s.registry s.components)
    (hp : ∀ id c, s.components.get id = some c → c ∈ s.published)
    (hrun : (forEach l (startComponent description b)).run s = .ok ⟨⟩ s') :
    Hosts s'.registry s'.components ∧
      (∀ id c, s'.components.get id = some c → c ∈ s'.published) ∧
      (∀ id, s'.components.has id = true ↔ s.components.has id = true ∨ ∃ config ∈ l,
        config.id = id) ∧
      s'.storeComponents = s.storeComponents ∧ s'.bindings = s.bindings ∧
        s'.storeBindings = s.storeBindings := by
  induction l generalizing s with
  | nil =>
    rw [forEach, run_pure_ok] at hrun
    obtain ⟨_, rfl⟩ := hrun
    exact ⟨h, hp, by simp, rfl, rfl, rfl⟩
  | cons config l ih =>
    rw [forEach, run_bind_ok] at hrun
    obtain ⟨_, s₁, h₁, h₂⟩ := hrun
    obtain ⟨c, r, links, hid, hr, rfl⟩ := startComponent_ok h₁
    have hosts : Hosts r (s.components.set config.id c) := hid ▸ h.addLocal hr
    obtain ⟨hh, hpub, hhas, hrest⟩ := ih hosts (published_set hp _ c) h₂
    refine ⟨hh, hpub, fun id => ?_, hrest⟩
    rw [hhas]
    simp only [added, has_set, Bool.or_eq_true, decide_eq_true_eq, List.mem_cons,
      exists_eq_or_imp]
    rw [or_comm (a := id = config.id), or_assoc, eq_comm (a := id)]

theorem startBindings_ok {l : List BindingConfig}
    (hrun : (forEach l (startBinding b)).run s = .ok ⟨⟩ s') :
    (∀ key, s'.bindings.has key = true ↔ s.bindings.has key = true ∨ ∃ config ∈ l,
      buildBindingKey config = key) ∧
      s'.registry = s.registry ∧ s'.components = s.components ∧
        s'.storeComponents = s.storeComponents ∧
      s'.storeBindings = s.storeBindings ∧ s'.published = s.published := by
  induction l generalizing s with
  | nil =>
    rw [forEach, run_pure_ok] at hrun
    obtain ⟨_, rfl⟩ := hrun
    exact ⟨by simp, rfl, rfl, rfl, rfl, rfl⟩
  | cons config l ih =>
    rw [forEach, run_bind_ok] at hrun
    obtain ⟨_, s₁, h₁, h₂⟩ := hrun
    rcases startBinding_cases (b := b) (s := s) config with ⟨e, links, h⟩ | ⟨k, links, h⟩
    · rw [h] at h₁; cases h₁
    · rw [h] at h₁
      cases h₁
      obtain ⟨hhas, hrest⟩ := ih h₂
      refine ⟨fun key => ?_, hrest⟩
      rw [hhas]
      simp only [has_set, Bool.or_eq_true, decide_eq_true_eq, List.mem_cons, exists_eq_or_imp]
      rw [or_comm (a := key = buildBindingKey config), or_assoc, eq_comm (a := key)]

theorem has_iff_mem_values {V : Type} {m : OMap String V} {key : V → String}
    (h : ∀ k x, m.get k = some x → key x = k)
    (k : String) : m.has k = true ↔ ∃ x ∈ m.values, key x = k := by
  simp only [has_iff, mem_values]
  constructor
  · rintro ⟨x, hx⟩
    exact ⟨x, ⟨k, hx⟩, h k x hx⟩
  · rintro ⟨x, ⟨k', hx⟩, rfl⟩
    exact ⟨x, by rw [h k' x hx]; exact hx⟩

theorem init_good (h : Loaded s) (hrun : (init description b).run s = .ok ⟨⟩ s') : Good s' := by
  rw [init, run_bind_ok] at hrun
  obtain ⟨_, _, hget, hrun⟩ := hrun
  obtain ⟨rfl, rfl⟩ := run_get_ok.mp hget
  obtain ⟨_, s₁, hcomponents, hbindings⟩ := run_bind_ok.mp hrun
  obtain ⟨hh, hpub, hhas, hstore, hbind, hstoreb⟩ := startComponents_ok h.hosts
    (by rw [h.components]; rintro _ _ ⟨⟩) hcomponents
  obtain ⟨hbhas, hr, hc, hsc, hsb, hp⟩ := startBindings_ok hbindings
  refine ⟨by rw [hr, hc]; exact hh, fun id => ?_, fun key => ?_, by rw [hc, hp]; exact hpub⟩
  · rw [hsc, hc, hstore, Bool.eq_iff_iff, hhas, has_iff_mem_values h.storeComponents, h.components]
    simp [has]
  · rw [hsb, hstoreb, Bool.eq_iff_iff, hbhas, hbind, has_iff_mem_values h.storeBindings, h.bindings]
    simp [has]

end Start

/-! ## Every run -/

/-- From a successful `init` on, whatever was in the store and in the registry: the
structures agree after every run, a call that throws has changed none of them, and
`removeComponent` leaves the remote components alone. -/
theorem manager_stays_coherent (description : Plugin → Studio.Core.NetPlugin) (b : Behaviour)
    (s s₀ : Manager)
    (hl : Loaded s) (hinit : (init description b).run s = .ok ⟨⟩ s₀) (es : List Event)
    (h : Along (step description) Safe s₀ es) :
    Coherent (es.foldl (step description) s₀) ∧
      ∀ e, Safe (es.foldl (step description) s₀) e →
        (e.isCall = true → fails description (es.foldl (step description) s₀) e = true →
          Unchanged (es.foldl (step description) s₀)
            (step description (es.foldl (step description) s₀) e)) ∧
        (∀ id b, e = .removeComponent id b →
          KeepsRemote (es.foldl (step description) s₀)
            (step description (es.foldl (step description) s₀) e)) := by
  have hgood : Good (es.foldl (step description) s₀) :=
    h.invariant (init_good hl hinit) (fun _ _ hs hsafe => step_good hs hsafe)
  refine ⟨hgood.coherent, fun e hsafe => ⟨unchanged_of_fails hgood hsafe, ?_⟩⟩
  rintro id b rfl
  exact keepsRemote_removeComponent hgood hsafe

/-! A core with one plugin and the component `lamp` in its store. -/

def samplePlugin : Plugin := { object := 0, module := "logic", name := "value" }

def sampleDescription (_ : Plugin) : Studio.Core.NetPlugin :=
  { name := "value", module := "logic", usage := .logic, version := "1.0.0", description := "",
    members := ∅, config := ∅ }

def sampleRegistry : Registry :=
  { pluginsPerInstance := ofList [("local:logic.value", samplePlugin)]
    instances := ofList [(none, { plugins := [samplePlugin] })] }

def lamp : ComponentConfig := { id := "lamp", plugin := "logic.value", config := some ∅ }

def sampleLoaded : Manager :=
    { registry := sampleRegistry, storeComponents := ofList [("lamp", lamp)] }

def sampleStarted : Manager := after (init sampleDescription {}) sampleLoaded

theorem sampleLoaded_loaded : Loaded sampleLoaded := by
  refine ⟨⟨⟨fun n c => ?_, fun id d h => by cases h⟩, fun id c => ?_⟩, rfl, rfl,
    fun id config h => ?_, fun _ _ h => by cases h⟩
  · have hdata : (sampleRegistry.dataOf n).components = [] := by
      cases n with
      | none => rfl
      | some n => rfl
    show c ∈ (sampleRegistry.dataOf n).components ↔ _
    rw [hdata]
    simp [sampleLoaded, sampleRegistry]
  · simp [sampleLoaded, sampleRegistry]
  · have hstore : sampleLoaded.storeComponents =
      (∅ : OMap String ComponentConfig).set "lamp" lamp := rfl
    rw [hstore, get_set_eq_some] at h
    rcases h with ⟨rfl, rfl⟩ | ⟨_, h⟩
    · rfl
    · cases h

def fan : ComponentConfig := { lamp with id := "fan" }

def lampToFan : BindingConfig :=
  { sourceComponent := "lamp", sourceState := "value", targetComponent := "fan",
    targetAction := "setValue" }

def sampleRun : List Event :=
  [.appear "hall" "button" samplePlugin {}, .addBinding lampToFan {}, .addComponent fan {},
    .removeComponent "lamp" {}, .disappear "hall" "button"]

/-- After the run `fan` is there; adding it again throws and changes nothing. -/
theorem manager_stays_coherent_fan :
    Coherent (sampleRun.foldl (step sampleDescription) sampleStarted) ∧
      (sampleRun.foldl (step sampleDescription) sampleStarted).storeComponents.keys = ["fan"] ∧
      Unchanged (sampleRun.foldl (step sampleDescription) sampleStarted)
        (step sampleDescription (sampleRun.foldl (step sampleDescription) sampleStarted)
          (.addComponent fan {})) := by
  have h := manager_stays_coherent sampleDescription {} sampleLoaded sampleStarted
    sampleLoaded_loaded rfl sampleRun
    (by decide)
  exact ⟨h.1, by decide, (h.2 (.addComponent fan {}) (by decide)).1 rfl (by decide)⟩

/-- A remote `fan` is in the registry when the manager adds its own: the call throws
with the host in the map and its instance running but not in the store, and the
`removeComponent` that clears this up throws in the publisher after it took the
remote component out of the registry. And an instance that withdraws an id that a
local component has takes the local one out. -/
theorem failed_add_leaves_host :
    let s := step sampleDescription sampleStarted (.appear "hall" "fan" samplePlugin {})
    let s' := step sampleDescription s (.addComponent fan {})
    let t := step sampleDescription sampleStarted (.appear "hall" "lamp" samplePlugin {})
    (fails sampleDescription s (.addComponent fan {}) = true ∧ ¬ Coherent s' ∧ ¬ Unchanged s s' ∧
      s.running = [0] ∧ s'.running = [0, 2]) ∧
    (fails sampleDescription s' (.removeComponent "fan" {}) = true ∧
      ¬ KeepsRemote s' (step sampleDescription s' (.removeComponent "fan" {}))) ∧
    ¬ Coherent (step sampleDescription t (.disappear "hall" "lamp")) := by
  refine ⟨⟨by decide, fun h => ?_, fun h => ?_, by decide, by decide⟩, ⟨by decide, fun h => ?_⟩,
    fun h => ?_⟩
  · exact absurd (h.store "fan") (by decide)
  · exact absurd h.running (by decide)
  · have hremote := h "fan" "hall" { object := 1, id := "fan", plugin := samplePlugin } (by decide)
    exact absurd hremote (by decide)
  · exact absurd (h.registered "lamp") (by decide)

end MylifeHome.Core.Hosted
