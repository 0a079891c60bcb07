import MylifeHome.Core.Binding
import MylifeHome.Studio.Core.Deploy
import MylifeHome.Studio.Core.Naming

/-!
# What a validated project finds at the cores

`validate` of the studio against the checks of the cores: `validateConfiguration`
of a component host and the checks of a `Binding` once its components are there.
The studio compares the value types of the two members of a binding; it does not
look at their kinds, nor whether the two components are one.
-/
namespace MylifeHome.Core.Bindings

open MylifeHome.Lib MylifeHome.Common
open MylifeHome.Studio.Core (NetMember MemberType)

variable {V : Type} {members : Plugin → OMap String NetMember} {config : BindingConfig}

/-- A binding from a component to itself never finds its target: the source is looked at first. -/
structure SelfBound (config : BindingConfig) (w : World V) : Prop where
  config : w.binding.config = config
  target : w.binding.target = none

namespace SelfBound

variable {w w' : World V}

theorem congr (h : SelfBound config w) (hb : w'.binding = w.binding) : SelfBound config w' :=
  ⟨hb ▸ h.config, hb ▸ h.target⟩

theorem onComponentAdd (h : SelfBound config w)
    (hself : config.sourceComponent = config.targetComponent) (instanceName : InstanceName)
    (component : Component) :
    SelfBound config (w.onComponentAdd members instanceName component) := by
  refine ⟨(onComponentAdd_frame _ w instanceName component).config.trans h.config, ?_⟩
  unfold World.onComponentAdd
  rw [h.config, hself]
  split
  · rw [initBinding_target]
    exact h.target
  · exact h.target

theorem onComponentRemove (h : SelfBound config w) (component : Component) :
    SelfBound config (w.onComponentRemove component) := by
  refine ⟨(onComponentRemove_frame w component).config.trans h.config, ?_⟩
  unfold World.onComponentRemove World.terminateBinding
  split
  · exact h.target
  · split
    · rfl
    · exact h.target

theorem leave (h : SelfBound config w) (data : Option ComponentData) :
    SelfBound config (w.leave data) := by
  cases data with
  | none => exact h
  | some data => exact h.onComponentRemove data.component

theorem onSourceStateChange (h : SelfBound config w) (name : String) (value : Option V) :
    SelfBound config (w.onSourceStateChange name value) := by
  refine ⟨(onSourceStateChange_frame w name value).config.trans h.config, ?_⟩
  unfold World.onSourceStateChange
  rw [h.target]
  split <;> exact h.target

theorem emitState (h : SelfBound config w) (component : Component) (name : String)
    (value : Option V) :
    SelfBound config (w.emitState component name value) := by
  unfold World.emitState
  generalize w.listeners.filter (· = component) = l
  induction l generalizing w with
  | nil => exact h
  | cons c l ih => exact ih (h.onSourceStateChange name value)

theorem step (h : SelfBound config w) (hself : config.sourceComponent = config.targetComponent)
    (e : Event V) :
    SelfBound config (w.step members e) := by
  cases e with
  | addComponent instanceName component =>
    simp only [World.step]
    split
    · exact h
    · split
      · exact h.congr rfl
      · refine onComponentAdd ?_ hself instanceName component
        exact h.congr rfl
  | removeComponent instanceName component =>
    simp only [World.step]
    split
    · exact h
    · split
      · exact h.congr rfl
      · refine onComponentRemove ?_ component
        exact h.congr rfl
  | state component name value =>
    refine emitState ?_ component name value
    exact h.congr rfl
  | close =>
    refine leave (leave ?_ _) _
    exact h.congr rfl

theorem create (hself : config.sourceComponent = config.targetComponent) (registry : Registry)
    (values : Component → String → Option V) :
    SelfBound config (World.create members registry values config) := by
  have hfold : ∀ (l : List ComponentData) (w : World V), SelfBound config w →
      SelfBound config (l.foldl (fun w data => w.onComponentAdd members none data.component)
        w) := by
    intro l
    induction l with
    | nil => exact fun w hw => hw
    | cons data l ih => exact fun w hw => ih _ (hw.onComponentAdd hself none data.component)
  exact hfold registry.components.values _ ⟨rfl, rfl⟩

theorem inactive (h : SelfBound config w) : w.binding.active = false := by
  simp [Binding.active, h.target]

end SelfBound

/-- Once both components are registered, a binding is active exactly when they are two
and their members join. -/
theorem active_iff_joins {registry : Registry}
    (hids : ∀ id data, registry.components.get id = some data → data.component.id = id)
    {values : Component → String → Option V} {es : List (Event V)}
    (h : Along (World.step members) RemovesOwn (World.create members registry values config) es)
    (hopen : (es.foldl (World.step members) (World.create members registry values config)).closed =
      false)
    {source target : ComponentData} (hs : (es.foldl (World.step members)
      (World.create members registry values config)).registry.components.get
      config.sourceComponent = some source)
    (ht : (es.foldl (World.step members)
      (World.create members registry values config)).registry.components.get
      config.targetComponent = some target) :
    (es.foldl (World.step members) (World.create members registry values config)).binding.active =
      true ↔
      config.sourceComponent ≠ config.targetComponent ∧
        joins members config source.component target.component = true := by
  by_cases hself : config.sourceComponent = config.targetComponent
  · have hbound : SelfBound config
        (es.foldl (World.step members) (World.create members registry values config)) :=
      h.invariant (SelfBound.create hself registry values) fun _ e hw _ => hw.step hself e
    rw [hbound.inactive]
    simp [hself]
  · obtain ⟨hfollows, -, hconfig, -⟩ := create_follows members hids values hself
    obtain ⟨hf, hc⟩ := h.invariant (P := fun w => Follows members w ∧ w.binding.config = config)
      ⟨hfollows, hconfig⟩
      fun w e hw hown => by
        have hstep := hw.1.step (hw.2 ▸ hself) hown
        exact ⟨hstep.follows, hstep.config.trans hw.2⟩
    rw [hf.tracks.active_iff]
    generalize es.foldl (World.step members) (World.create members registry values config) = w at *
    simp only [joined_eq_some, hc, World.watched, hopen, hs, ht, Bool.false_eq_true, if_false,
      Option.map_some, Option.some.injEq]
    constructor
    · rintro ⟨p, hsource, htarget, hjoins⟩
      rw [hsource, htarget]
      exact ⟨hself, hjoins⟩
    · rintro ⟨-, hjoins⟩
      exact ⟨(source.component, target.component), rfl, rfl, hjoins⟩

end MylifeHome.Core.Bindings

namespace MylifeHome.Studio.Core

open MylifeHome.Lib MylifeHome.Core MylifeHome.Core.Bindings Validation Deploy

/-- A resolved binding whose ends are two components, a state of the one and an action of the
other. -/
def Bindable (b : BindingView) : Prop :=
  b.sourceComponent.id ≠ b.targetComponent.id ∧
    ((b.sourceComponent.plugin.data.members.get b.sourceState).all fun m =>
      decide (m.memberType = .state)) = true ∧
    ((b.targetComponent.plugin.data.members.get b.targetAction).all fun m =>
      decide (m.memberType = .action)) = true

instance (b : BindingView) : Decidable (Bindable b) := inferInstanceAs (Decidable (_ ∧ _))

section Validated

variable {project : ResolvedProjectView} {online : Online} {severity : Severity}
    {checkBindingApi : Bool}
  {validation : List Item}

/-- The parts of a validation that look at the project alone. -/
theorem noError_of_validate (hv : validate project online severity checkBindingApi = .ok validation)
    (hok : hasError validation = false) :
    (∃ configs, validateComponentConfigs project = .ok configs ∧ NoError configs) ∧
      NoError (validateBindingsConsistency project) := by
  rw [validate, except_bind_ok] at hv
  obtain ⟨configs, hconfigs, hv⟩ := hv
  cases hv
  rw [hasError_eq_false, noError_append, noError_append] at hok
  exact ⟨⟨configs, hconfigs, hok.1.2⟩, hok.2⟩

theorem configuration_accepted
    (hv : validate project online severity checkBindingApi = .ok validation)
    (hok : hasError validation = false) {id : String} {c : ComponentView}
    (hc : project.components.get id = some c) (hx : c.external = false) {plugin : NetPlugin}
    (hp : plugin.config = c.plugin.data.config) :
    validateConfiguration c.id plugin c.config = .ok () := by
  obtain ⟨configs, hconfigs, hn⟩ := (noError_of_validate hv hok).1
  obtain ⟨config, hconfig, herrors⟩ := config_of_noError hconfigs hn hc hx
  rw [hconfig]
  refine validateConfiguration_ok fun key item hitem => ?_
  rw [hp] at hitem
  exact (config_valid herrors).2 key item hitem

/-- The members of a validated binding are there, with the same type. -/
theorem members_of_noError (h : NoError (validateBindingsConsistency project)) {id : String}
    {b : BindingView} (hb : project.bindings.get id = some b) :
    ∃ s t, b.sourceComponent.plugin.data.members.get b.sourceState = some s ∧
      b.targetComponent.plugin.data.members.get b.targetAction = some t ∧
        s.valueType = t.valueType := by
  have hn := noError_flatMap.mp h b (OMap.mem_values.mpr ⟨id, hb⟩)
  unfold bindingConsistency at hn
  dsimp only at hn
  split at hn
  · next hsame =>
    obtain ⟨hs, ht, heq⟩ := hsame
    cases hsm : b.sourceComponent.plugin.data.members.get b.sourceState with
    | none => simp [hsm] at hs
    | some s =>
      cases htm : b.targetComponent.plugin.data.members.get b.targetAction with
      | none => simp [htm] at ht
      | some t => exact ⟨s, t, rfl, rfl, by simpa [hsm, htm] using heq⟩
  · exact absurd hn (not_noError_singleton rfl)

theorem joins_iff_bindable (h : NoError (validateBindingsConsistency project)) {id : String}
    {b : BindingView} (hb : project.bindings.get id = some b)
    {members : Common.Plugin → OMap String NetMember} {source target : Common.Component}
    (hs : members source.plugin = b.sourceComponent.plugin.data.members)
    (ht : members target.plugin = b.targetComponent.plugin.data.members) :
    b.sourceComponent.id ≠ b.targetComponent.id ∧ joins members b.config source target = true ↔
      Bindable b := by
  obtain ⟨s, t, hsm, htm, htype⟩ := members_of_noError h hb
  simp [joins, Bindable, hs, ht, BindingView.config, hsm, htm, htype]

end Validated

/-- A project that validates without error: the hosts accept the configurations of its own
components; and once the two components of a binding are registered, the core's binding is active
without errors exactly when the components are two, the source member a state and the target member
an action. -/
theorem validated_binding_active_iff {V : Type} {project : ResolvedProjectView} {online : Online}
    {severity : Severity} {checkBindingApi : Bool} {validation : List Item}
    (hv : validate project online severity checkBindingApi = .ok validation)
    (hok : hasError validation = false) :
    (∀ id c, project.components.get id = some c → c.external = false → ∀ plugin : NetPlugin,
      plugin.config = c.plugin.data.config → validateConfiguration c.id plugin c.config = .ok ()) ∧
    ∀ id b, project.bindings.get id = some b → ∀ (members : Common.Plugin → OMap String NetMember)
      (registry : Common.Registry),
      (∀ id data, registry.components.get id = some data → data.component.id = id) →
      ∀ (values : Common.Component → String → Option V) (es : List (Event V)),
      Along (World.step members) RemovesOwn (World.create members registry values b.config) es →
      let w := es.foldl (World.step members) (World.create members registry values b.config)
      w.closed = false → ∀ source target, w.registry.components.get b.sourceComponent.id =
        some source →
      w.registry.components.get b.targetComponent.id = some target →
      members source.component.plugin = b.sourceComponent.plugin.data.members →
      members target.component.plugin = b.targetComponent.plugin.data.members →
      (w.binding.active = true ∧ w.binding.errors = some [] ↔ Bindable b) := by
  refine ⟨fun id c hc hx plugin hp => configuration_accepted hv hok hc hx hp, ?_⟩
  intro id b hb members registry hids values es hrun w hopen source target hs ht hsm htm
  rw [← joins_iff_bindable (noError_of_validate hv hok).2 hb hsm htm]
  refine Iff.trans ?_ (active_iff_joins hids hrun hopen hs ht)
  constructor
  · exact fun h => h.1
  · intro hactive
    refine ⟨hactive, ?_⟩
    rw [Binding.active, Bool.and_eq_true, decide_eq_true_eq] at hactive
    exact hactive.2

/-! ## Loaded files -/

/-- A plugin with a state and an action that it can be bound to. -/
def bindablePlugin : NetPlugin where
  name := "p"
  module := "m"
  usage := .logic
  version := "1"
  description := ""
  members := .ofList [
    ("state", { description := "", memberType := .state, valueType := "bool" }),
    ("action", { description := "", memberType := .action, valueType := "bool" })]
  config := ∅

/-- Two components, the first bound to the second. -/
def boundProject (source target : String) : CoreProject :=
  let binding : CoreBindingData :=
    { sourceComponent := source, sourceState := "state", targetComponent := target,
      targetAction := "action" }
  { components := .ofList [(source, sampleComponent .plugin "i:m.p"),
    (target, sampleComponent .plugin "i:m.p")]
    bindings := .ofList [(makeId binding, binding)]
    plugins := .ofList [("i:m.p",
      { bindablePlugin with instanceName := "i", toolboxDisplay := .show })]
    templates := ∅ }

/-- One instance that holds nothing yet. -/
def emptyOnline : Online where
  instances := .ofList [("i",
    { capabilities := ["components-api", "bindings-api", "store-api"]
      core := {
        plugins := .ofList [("m.p", bindablePlugin)]
        components := ∅
        bindings := ∅
        component_id := fun _ _ h => by simp at h
        component_plugin := fun _ _ h => by simp at h
        binding_key := fun _ _ h => by simp at h } })]

/-- A core that runs the plugin of the project. -/
def bindableMembers (_ : Common.Plugin) : OMap String NetMember := bindablePlugin.members

def bindableComponent (id : String) : Common.Component :=
  { object := 0, id, plugin := { object := 0, module := "m", name := "p" } }

/-- The components come after the binding. -/
def registered (source target : String) : List (Event Bool) :=
  [.addComponent none (bindableComponent source),
    .addComponent (some "other") (bindableComponent target)]

theorem validated_binding_active_iff_two :
    ∃ s view validation b, ProjectModel.load (boundProject "a" "b") = .ok s ∧
    resolveProject 1 s = .ok view ∧ validate view emptyOnline .error true = .ok validation ∧
    hasError validation = false ∧ view.bindings.get "a:state:b:action" = some b ∧ Bindable b ∧
    ((registered "a" "b").foldl (World.step bindableMembers)
      (World.create bindableMembers {} (fun _ _ => none) b.config)).binding.active = true := by
  have h : ∃ s view validation b, ProjectModel.load (boundProject "a" "b") = .ok s ∧
    resolveProject 1 s = .ok view ∧
      validate view emptyOnline .error true = .ok validation ∧ hasError validation = false ∧
      view.bindings.get "a:state:b:action" = some b ∧ Bindable b ∧
      b.sourceComponent.plugin.data.members = bindablePlugin.members ∧
      b.targetComponent.plugin.data.members = bindablePlugin.members ∧
      b.config = { sourceComponent := "a", sourceState := "state", targetComponent := "b",
                   targetAction := "action" } :=
    ⟨_, _, _, _, rfl, rfl, rfl, rfl, rfl, by decide, rfl, rfl, rfl⟩
  obtain ⟨s, view, validation, b, hload, hview, hv, hok, hb, hbindable, hsm, htm, hconfig⟩ := h
  refine ⟨s, view, validation, b, hload, hview, hv, hok, hb, hbindable, ?_⟩
  refine ((((validated_binding_active_iff (V := Bool) hv hok).2 _ b hb bindableMembers {}
    (fun _ _ h => nomatch h)
    (fun _ _ => none) (registered "a" "b") ?_ ?_ ⟨none, bindableComponent "a"⟩ ⟨some "other",
      bindableComponent "b"⟩
    ?_ ?_ hsm.symm htm.symm)).mpr hbindable).1
  · rw [hconfig]; decide
  · rw [hconfig]; decide
  · show OMap.get _ b.config.sourceComponent = _
    rw [hconfig]; decide
  · show OMap.get _ b.config.targetComponent = _
    rw [hconfig]; decide

/-- A component that is bound to an action of a template, which has a binding of its own. -/
def nestedProject : CoreProject :=
  let x := idPattern ++ "-x"
  let y := idPattern ++ "-y"
  let outer : CoreBindingData :=
    { sourceComponent := "a", sourceState := "state", targetComponent := "u", targetAction := "in" }
  let inner : CoreBindingData :=
    { sourceComponent := x, sourceState := "state", targetComponent := y, targetAction := "action" }
  { boundProject "a" "b" with
    components := .ofList [("a", sampleComponent .plugin "i:m.p"),
      ("u", sampleComponent .template "T")]
    bindings := .ofList [(makeId outer, outer)]
    templates := .ofList [("T",
      { components := .ofList [(x, sampleComponent .plugin "i:m.p"),
        (y, sampleComponent .plugin "i:m.p")]
        bindings := .ofList [(makeId inner, inner)]
        «exports» :=
          { config := ∅, members := .ofList [("in", { component := x, member := "action" })] } })] }

theorem resolved_bindings_join_two : ∃ s view leaves, ProjectModel.load nestedProject = .ok s ∧
    resolveProject 2 s = .ok view ∧ Resolver.leafComponents 2 s = .ok leaves ∧
    leaves.map ComponentView.id = ["a", "u-x", "u-y"] ∧
    view.bindings.keys = ["a:state:u-x:action", "u-x:state:u-y:action"] ∧
    ∀ id b, view.bindings.get id = some b →
      view.components.get b.targetComponent.id = some b.targetComponent := by
  have h : (ProjectModel.load nestedProject >>= fun s => resolveProject 2 s >>= fun view =>
      (Resolver.leafComponents 2 s).map fun leaves =>
        (leaves.map ComponentView.id, view.bindings.keys)) =
      .ok (["a", "u-x", "u-y"], ["a:state:u-x:action", "u-x:state:u-y:action"]) := by decide +kernel
  obtain ⟨s, hload, h⟩ := except_bind_ok.mp h
  obtain ⟨view, hview, h⟩ := except_bind_ok.mp h
  obtain ⟨leaves, hleaves, h⟩ := except_map_ok.mp h
  obtain ⟨hids, hkeys⟩ := Prod.mk.inj h
  have hn : (leaves.map ComponentView.id).Nodup := by rw [hids]; decide
  exact ⟨s, view, leaves, hload, hview, hleaves, hids, hkeys, fun id b hb =>
    (Resolver.resolved_bindings_join hview hleaves hn id b hb).2.2⟩

/-- A file in which an action is bound to a state. -/
def swappedProject : CoreProject :=
  let binding : CoreBindingData :=
    { sourceComponent := "a", sourceState := "action", targetComponent := "b",
      targetAction := "state" }
  { boundProject "a" "b" with bindings := .ofList [(makeId binding, binding)] }

/-- Two files that are loaded, resolved and validated without error: in the first a component is
bound to itself, in the second an action to a state. At the cores neither binding becomes active. -/
theorem validated_binding_stays_inactive :
    (∃ s view validation b, ProjectModel.load (boundProject "a" "a") = .ok s ∧
      resolveProject 1 s = .ok view ∧
      validate view emptyOnline .error true = .ok validation ∧ hasError validation = false ∧
      view.bindings.get "a:state:a:action" = some b ∧
      ([.addComponent none (bindableComponent "a")].foldl (World.step bindableMembers)
        (World.create bindableMembers {} (fun _ _ => (none : Option Bool))
          b.config)).binding.active = false) ∧
    ∃ s view validation b, ProjectModel.load swappedProject = .ok s ∧
      resolveProject 1 s = .ok view ∧
      validate view emptyOnline .error true = .ok validation ∧ hasError validation = false ∧
      view.bindings.get "a:action:b:state" = some b ∧
      ((registered "a" "b").foldl (World.step bindableMembers)
        (World.create bindableMembers {} (fun _ _ => none) b.config)).binding.errors =
          some ["State 'action' does not exist on component 'a' (plugin='local:m.p')",
            "Action 'state' does not exist on component 'b' (plugin='other:m.p')"] :=
  ⟨⟨_, _, _, _, rfl, rfl, rfl, rfl, rfl, rfl⟩, ⟨_, _, _, _, rfl, rfl, rfl, rfl, rfl, rfl⟩⟩

end MylifeHome.Studio.Core
