import MylifeHome.Studio.Core.Resolver
import MylifeHome.Studio.Core.Import.Diff
import MylifeHome.Core.ComponentManager

/-!
# Validation against the online instances

The studio's view of the online instances, and `validation.ts`. An online
component is known with the instance that holds it and its plugin there.
-/
namespace MylifeHome.Studio.Core

open MylifeHome.Lib MylifeHome.Core

structure OnlineInstance where
  capabilities : List String
  core : ComponentManager

structure Online where
  instances : OMap String OnlineInstance

structure OnlineComponent where
  instanceName : String
  plugin : NetPlugin

namespace Online

variable (online : Online)

def getInstancesByCapability (capability : String) : List String :=
  (online.instances.entries.filter (fun e => decide (capability ∈ e.2.capabilities))).map Prod.fst

def findPlugin (instanceName id : String) : Option NetPlugin :=
  (online.instances.get instanceName).bind (fun i => i.core.plugins.get id)

/-- The plugin of a component that an instance holds. -/
def heldComponent (id : String) (e : String × OnlineInstance) : Option OnlineComponent :=
  (e.2.core.components.get id).bind fun config =>
    (e.2.core.plugins.get config.plugin).map fun plugin => { instanceName := e.1, plugin := plugin }

def findComponentData (id : String) : Option OnlineComponent :=
  online.instances.entries.findSome? (heldComponent id)

end Online

namespace Validation

inductive Severity where
  | info
  | warning
  | error
  deriving DecidableEq

structure PluginName where
  instanceName : String
  module : String
  name : String
  deriving DecidableEq

inductive Item where
  | pluginChanged (severity : Severity) (plugin : PluginName) (changeType : Import.ChangeType)
      (config members : OMap String Import.ChangeType) (impacts : List String)
  | existingComponentId (severity : Severity) (componentId : String) (existing project : PluginName)
  | badExternalComponent (severity : Severity) (componentId : String) (project : PluginName)
      (projectVersion : String) (existing : Option (PluginName × String))
  | invalidBindingApi (instanceNames : List String)
  | componentBadConfig (componentId : String) (plugin : PluginName) (config : OMap String Err)
  | bindingMismatch (binding : CoreBindingData) (sourceType targetType : Option String)

def Item.severity : Item → Severity
  | .pluginChanged severity .. => severity
  | .existingComponentId severity .. => severity
  | .badExternalComponent severity .. => severity
  | .invalidBindingApi .. => .error
  | .componentBadConfig .. => .error
  | .bindingMismatch .. => .error

def hasError (validation : List Item) : Bool :=
  validation.any (fun item => decide (item.severity = .error))

def PluginName.ofView (plugin : PluginView) : PluginName :=
  { instanceName := plugin.instanceName, module := plugin.data.module, name := plugin.data.name }

def PluginName.ofOnline (component : OnlineComponent) : PluginName :=
  { instanceName := component.instanceName, module := component.plugin.module,
    name := component.plugin.name }

/-- The id of a plugin inside its instance. -/
def localPluginId (data : CorePluginData) : String := data.module ++ "." ++ data.name

variable (project : ResolvedProjectView) (online : Online) (severity : Severity)

/-- `usedPlugins`: the plugins of the project's own components, with the components. -/
def usedPlugins : OMap PluginView (List String) :=
  project.components.entries.foldl
    (fun m e => if e.2.external then m else m.set e.2.plugin ((m.get e.2.plugin).getD [] ++ [e.1]))
    ∅

def pluginChanges (entry : PluginView × List String) : List Item :=
  match online.findPlugin entry.1.instanceName (localPluginId entry.1.data) with
  | none => [.pluginChanged severity (.ofView entry.1) .delete ∅ ∅ entry.2]
  | some plugin =>
    let config := Import.pluginConfigChanges entry.1.data.config plugin.config
    let members := Import.pluginMembersChanges entry.1.data.members plugin.members
    if config.size = 0 ∧ members.size = 0 then []
    else [.pluginChanged severity (.ofView entry.1) .update config members entry.2]

def validatePluginChanges : List Item :=
  (usedPlugins project).entries.flatMap (pluginChanges online severity)

def existingComponent (entry : String × ComponentView) : List Item :=
  match online.findComponentData entry.1 with
  | none => []
  | some componentOnline =>
    if entry.2.plugin.instanceName = componentOnline.instanceName then []
    else [.existingComponentId severity entry.1 (.ofOnline componentOnline)
      (.ofView entry.2.plugin)]

def validateExistingComponents : List Item :=
  project.components.entries.flatMap (existingComponent online severity)

def isSamePlugin (component : ComponentView) (componentOnline : OnlineComponent) : Bool :=
  decide (component.plugin.instanceName = componentOnline.instanceName ∧
    component.plugin.data.module = componentOnline.plugin.module ∧
    component.plugin.data.name = componentOnline.plugin.name ∧
    component.plugin.data.version = componentOnline.plugin.version)

def arePluginsCompatible (component : ComponentView) (componentOnline : OnlineComponent) : Bool :=
  decide ((Import.pluginMembersChanges component.plugin.data.members
    componentOnline.plugin.members).size = 0)

def externalComponent (component : ComponentView) : List Item :=
  if !component.external then []
  else match online.findComponentData component.id with
    | none => [.badExternalComponent .warning component.id (.ofView component.plugin)
        component.plugin.data.version none]
    | some componentOnline =>
      if isSamePlugin component componentOnline then []
      else [.badExternalComponent (if arePluginsCompatible component componentOnline then .info
        else severity)
        component.id (.ofView component.plugin) component.plugin.data.version
        (some (.ofOnline componentOnline, componentOnline.plugin.version))]

def validateExternalComponents : List Item :=
  project.components.values.flatMap (externalComponent online severity)

def validateBindingApi : List Item :=
  if project.hasBindings ∧ (online.getInstancesByCapability "bindings-api").length ≠ 1 then
    [.invalidBindingApi (online.getInstancesByCapability "bindings-api")]
  else []

/-- The error of a key that the plugin does not have. -/
def extraKeyError (plugin : PluginView) (configId : String) (_ : JsValue) : Option Err :=
  if plugin.data.config.has configId then none else some (.error "Extra config key")

/-- The error of `validateConfigValue` on an item of the plugin. -/
def configValueError (plugin : PluginView) (config : CoreComponentConfiguration) (configId : String)
    (item : ConfigItem) : Option Err :=
  let value := (config.get configId).getD .undefined
  if item.valueType.accepts value then none
  else some (.badConfigValue ("Expected config " ++ configId ++ "' on plugin '" ++ plugin.id ++
    "' to be " ++ item.valueType.text ++ " but got ") value)

/-- The errors of the configuration of a component. -/
def configErrors (component : ComponentView) (config : CoreComponentConfiguration) :
    OMap String Err :=
  OMap.putEach (configValueError component.plugin config) component.plugin.data.config
    (OMap.putEach (extraKeyError component.plugin) config ∅)

def componentConfig (entry : String × ComponentView) : Except Err (List Item) :=
  if entry.2.external then .ok []
  else match entry.2.config with
    | none => .error .typeError
    | some config =>
      let errors := configErrors entry.2 config
      if errors.size = 0 then .ok []
      else .ok [.componentBadConfig entry.1 (.ofView entry.2.plugin) errors]

def validateComponentConfigs : Except Err (List Item) := do
  let parts ← project.components.entries.mapM componentConfig
  return parts.flatten

/-- The types must be there, not empty, and equal. -/
def bindingConsistency (binding : BindingView) : List Item :=
  let sourceType := (binding.sourceComponent.plugin.data.members.get binding.sourceState).map
    NetMember.valueType
  let targetType := (binding.targetComponent.plugin.data.members.get binding.targetAction).map
    NetMember.valueType
  if sourceType.getD "" ≠ "" ∧ targetType.getD "" ≠ "" ∧ sourceType = targetType then []
  else [.bindingMismatch binding.config sourceType targetType]

def validateBindingsConsistency : List Item := project.bindings.values.flatMap bindingConsistency

def validate (checkBindingApi : Bool) : Except Err (List Item) := do
  let configs ← validateComponentConfigs project
  return validatePluginChanges project online severity ++ validateExistingComponents project online
    severity ++
    validateExternalComponents project online severity ++
    (if checkBindingApi then validateBindingApi project online else []) ++ configs ++
    validateBindingsConsistency project

end Validation
end MylifeHome.Studio.Core
