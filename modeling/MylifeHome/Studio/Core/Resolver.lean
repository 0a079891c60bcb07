import MylifeHome.Studio.Core.NamingDryRun

/-!
# Resolved projects

`resolver.ts`: the project with its templates replaced by their components. Each
use of a template is instantiated under the id of the component that uses it;
its bindings are instantiated with it. The views hold each other by value: a
view never changes once it is made. `fuel` bounds the depth of the templates.
-/
namespace MylifeHome.Studio.Core

open MylifeHome.Lib

structure PluginView where
  instanceName : String
  id : String
  data : CorePluginData
  deriving DecidableEq

structure ComponentView where
  id : String
  plugin : PluginView
  config : Option CoreComponentConfiguration
  external : Bool
  deriving DecidableEq

structure BindingView where
  sourceComponent : ComponentView
  sourceState : String
  targetComponent : ComponentView
  targetAction : String
  deriving DecidableEq

/-- The ids that a binding has once it is deployed. -/
def BindingView.config (b : BindingView) : CoreBindingData where
  sourceComponent := b.sourceComponent.id
  sourceState := b.sourceState
  targetComponent := b.targetComponent.id
  targetAction := b.targetAction

def BindingView.id (b : BindingView) : String := makeId b.config

/-- `instances` gives the `usage` of each instance. -/
structure ResolvedProjectView where
  instances : OMap String (OMap String ComponentView)
  plugins : OMap String PluginView
  components : OMap String ComponentView
  bindings : OMap String BindingView

namespace ResolvedProjectView

variable (view : ResolvedProjectView)

def checkExist {α : Type} : Option α → Except Err α
  | some a => .ok a
  | none => .error (.error "Object not found")

theorem checkExist_ok {α : Type} {x : Option α} {a : α} : checkExist x = .ok a ↔ x = some a := by
  cases x <;> simp [checkExist]

def getPlugin (id : String) : Except Err PluginView := checkExist (view.plugins.get id)

def hasBindings : Bool := decide (0 < view.bindings.size)

/-- The writes of `DirectComponentBuilder`. -/
def addComponent (c : ComponentView) : ResolvedProjectView :=
  { view with
    components := view.components.set c.id c
    instances := match view.instances.get c.plugin.instanceName with
      | some usage => view.instances.set c.plugin.instanceName (usage.set c.id c)
      | none => view.instances }

end ResolvedProjectView

/-- Statements of the resolution. -/
abbrev RM := EStateM Err ResolvedProjectView

mutual

/-- A `DirectComponentBuilder` or a `TemplateBuilder`. -/
inductive Builder where
  | direct (componentView : ComponentView)
  | template (templateModel : Ref) (children : Builders)

/-- The builders of a view by the ids of its components. -/
inductive Builders where
  | nil
  | cons (id : String) (builder : Builder) (rest : Builders)

end

namespace Resolver

variable (s : ProjectModel)

/-- The constructor of `DirectComponentBuilder`. -/
def createDirect (componentId : String) (p : Ref) (config : Option CoreComponentConfiguration)
    (external : Bool) :
    RM Builder := do
  let pluginView ← orThrow ((← get).getPlugin (s.pluginAt p).id)
  let componentView :=
    { id := componentId, plugin := pluginView, config := config, external := external }
  modify (fun view => view.addComponent componentView)
  return .direct componentView

/-- `configToApply`: what the exports of a template take from the configuration of its user. -/
def configToApply (templateExports : OMap String CoreTemplateConfigExport)
    (config : Option CoreComponentConfiguration) :
    Except Err (OMap String CoreComponentConfiguration) :=
  templateExports.entries.foldlM
    (fun map e =>
      match config with
      | none => .error .typeError
      | some config => .ok (map.set e.2.component
          (((map.get e.2.component).getD ∅).set e.2.configName ((config.get e.1).getD .undefined))))
    ∅

/-- `{ ...a, ...b }` -/
def spread (a b : CoreComponentConfiguration) : CoreComponentConfiguration :=
  b.entries.foldl (fun m e => m.set e.1 e.2) a

/-- The id of an instance of a template's component. -/
def instanceId (componentId templateComponentId : String) : String :=
  Text.replace templateComponentId idPattern componentId

/-- The builders of a list of components, one after the other. -/
def createEach (create : Ref → RM Builder) : List (String × Ref) → RM Builders
  | [] => return .nil
  | e :: l => do
    let builder ← create e.2
    let rest ← createEach create l
    return .cons e.1 builder rest

/-- `ComponentBuilder.create` -/
def create : Nat → String → DefRef → Option CoreComponentConfiguration → Bool → RM Builder
  | _, componentId, .plugin p, config, external => createDirect s componentId p config external
  | 0, _, .template _, _, _ => throw .stackOverflow
  | fuel + 1, componentId, .template t, config, _ => do
    let applied ← orThrow (configToApply (s.templateAt t).exports.config config)
    let children ← createEach
      (fun c =>
        let o := s.componentAt c
        create fuel (instanceId componentId o.id) o.definition
          (some (spread (o.data.config.getD ∅) ((applied.get o.id).getD ∅))) false)
      (s.views (some t)).components.entries
    return .template t children

mutual

/-- `getMemberData` -/
def getMemberData : Builder → String → Except Err (ComponentView × String)
  | .direct componentView, id => .ok (componentView, id)
  | .template t children, id =>
    match (s.templateAt t).exports.members.get id with
    | none => .error .typeError
    | some exportData => getMemberDataIn children exportData.component exportData.member

/-- `getMemberData` of the builder under an id. -/
def getMemberDataIn : Builders → String → String → Except Err (ComponentView × String)
  | .nil, _, _ => .error .typeError
  | .cons id builder rest, component, member =>
    if id = component then getMemberData builder member else getMemberDataIn rest component member

end

/-- One round of `buildBindings`. -/
def buildBinding (builders : Builders) (b : Ref) : RM PUnit := do
  let o := s.bindingAt b
  let sourceHalf ← orThrow
    (getMemberDataIn s builders (s.componentAt o.sourceComponent).id o.data.sourceState)
  let targetHalf ← orThrow
    (getMemberDataIn s builders (s.componentAt o.targetComponent).id o.data.targetAction)
  let bindingView : BindingView :=
    { sourceComponent := sourceHalf.1, sourceState := sourceHalf.2, targetComponent := targetHalf.1,
      targetAction := targetHalf.2 }
  modify (fun view => { view with bindings := view.bindings.set bindingView.id bindingView })

/-- The bindings of a view itself. -/
def buildViewBindings (v : ViewRef) (builders : Builders) : RM PUnit :=
  forEach (s.views v).bindings.values (buildBinding s builders)

mutual

/-- `buildBindings` of a builder. -/
def buildInnerBindings : Builder → RM PUnit
  | .direct _ => pure ⟨⟩
  | .template t children => do
    buildViewBindings s (some t) children
    buildEachInnerBindings children

def buildEachInnerBindings : Builders → RM PUnit
  | .nil => pure ⟨⟩
  | .cons _ builder rest => do
    buildInnerBindings builder
    buildEachInnerBindings rest

end

/-- `buildBindings` of a view. -/
def buildBindings (v : ViewRef) (builders : Builders) : RM PUnit := do
  buildViewBindings s v builders
  buildEachInnerBindings s builders

def addPluginView (p : Ref) : RM PUnit := do
  let o := s.pluginAt p
  let instanceName := (s.instanceAt o.instance).instanceName
  throwIf (!(← get).instances.has instanceName) .typeError
  modify (fun view => { view with
    plugins := view.plugins.set o.id { instanceName := instanceName, id := o.id, data := o.data } })

/-- The builders of the project's components. -/
def createProject (fuel : Nat) : RM Builders :=
  createEach
    (fun c =>
      let o := s.componentAt c
      create s fuel o.id o.definition o.data.config o.data.external)
    (s.views none).components.entries

def resolve (fuel : Nat) : RM PUnit := do
  forEach s.instances.keys (fun instanceName =>
    modify (fun view => { view with instances := view.instances.set instanceName ∅ }))
  forEach s.plugins.values (addPluginView s)
  let builders ← createProject s fuel
  buildBindings s none builders

end Resolver

/-- `resolveProject` -/
def resolveProject (fuel : Nat) (s : ProjectModel) : Except Err ResolvedProjectView :=
  match (Resolver.resolve s fuel).run
    { instances := ∅, plugins := ∅, components := ∅, bindings := ∅ } with
  | .ok _ view => .ok view
  | .error e _ => .error e

end MylifeHome.Studio.Core
