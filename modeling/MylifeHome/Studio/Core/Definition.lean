import MylifeHome.Studio.Core.Model

/-!
# Component definitions

The `ComponentDefinitionModel` methods of plugins and templates. A template
answers through the component that an export names, and so on down to a plugin;
`fuel` bounds the depth of that recursion.
-/
namespace MylifeHome.Studio.Core

open MylifeHome.Lib

namespace ProjectModel

variable (s : ProjectModel)

/-- `PluginModel.getMember` -/
def pluginMember (p : Ref) (name : String) : Except Err NetMember :=
  match (s.pluginAt p).data.members.get name with
  | some member => .ok member
  | none => .error (.error
    ("Member '" ++ name ++ "' does not exist on plugin '" ++ (s.pluginAt p).id ++ "'"))

/-- The export that a member name stands for on a template, with its component. -/
def memberExport (t : Ref) (name : String) : Except Err (Ref × String) :=
  match (s.templateAt t).exports.members.get name with
  | none => .error (.error
    ("Member '" ++ name ++ "' does not exist on template '" ++ (s.templateAt t).id ++ "'"))
  | some item => (s.getComponent (some t) item.component).map (fun c => (c, item.member))

def getMember : Nat → DefRef → String → Except Err NetMember
  | _, .plugin p, name => s.pluginMember p name
  | 0, .template _, _ => .error .stackOverflow
  | fuel + 1, .template t, name => do
    let (c, member) ← s.memberExport t name
    getMember fuel (s.componentAt c).definition member

def definitionKind : DefRef → String
  | .plugin _ => "plugin"
  | .template _ => "template"

def getMemberValueType (fuel : Nat) (d : DefRef) (name : String) (type : MemberType) :
    Except Err String := do
  let member ← s.getMember fuel d name
  if member.memberType ≠ type then
    .error (.error ("Member '" ++ name ++ "' of type '" ++ type.text ++ "' does not exist on " ++
      definitionKind d ++ " '" ++ s.definitionId d ++ "'"))
  else
    .ok member.valueType

def getMemberType (fuel : Nat) (d : DefRef) (name : String) : Except Err MemberType := do
  let member ← s.getMember fuel d name
  return member.memberType

/-- `getConfigType` of a plugin. -/
def pluginConfigType (p : Ref) (configId : String) : Except Err ConfigType :=
  match (s.pluginAt p).data.config.get configId with
  | some item => .ok item.valueType
  | none => .error (.error
    ("Config '" ++ configId ++ "' does not exist on plugin '" ++ (s.pluginAt p).id ++ "'"))

/-- `getDefinitionConfig` of a template. Its error text reads an unbound name. -/
def getDefinitionConfig (t : Ref) (configId : String) : Except Err (DefRef × String) :=
  match (s.templateAt t).exports.config.get configId with
  | none => .error .referenceError
  | some item => (s.getComponent (some t) item.component).map
      (fun c => ((s.componentAt c).definition, item.configName))

/-- `ensureConfig` looks one level down only. -/
def ensureConfig (d : DefRef) (configId : String) : Except Err Unit :=
  match d with
  | .plugin p => (s.pluginConfigType p configId).map (fun _ => ())
  | .template t => (s.getDefinitionConfig t configId).map (fun _ => ())

def ensureMember (fuel : Nat) (d : DefRef) (name : String) : Except Err Unit :=
  (s.getMember fuel d name).map (fun _ => ())

def validateConfigValue : Nat → DefRef → String → JsValue → Except Err Unit
  | _, .plugin p, configId, value => do
    let valueType ← s.pluginConfigType p configId
    if valueType.accepts value then .ok ()
    else .error (.badConfigValue
      ("Expected config " ++ configId ++ "' on plugin '" ++ (s.pluginAt p).id ++
      "' to be " ++ valueType.text ++ " but got ") value)
  | 0, .template _, _, _ => .error .stackOverflow
  | fuel + 1, .template t, configId, value => do
    let (d, definitionConfigId) ← s.getDefinitionConfig t configId
    validateConfigValue fuel d definitionConfigId value

/-- A plugin reads the item without a check, so that a missing one is a type error. -/
def createConfigTemplateValue : Nat → DefRef → String → Except Err JsValue
  | _, .plugin p, configId =>
    match (s.pluginAt p).data.config.get configId with
    | some item => .ok item.valueType.default
    | none => .error .typeError
  | 0, .template _, _ => .error .stackOverflow
  | fuel + 1, .template t, configId => do
    let (d, definitionConfigId) ← s.getDefinitionConfig t configId
    createConfigTemplateValue fuel d definitionConfigId

/-- The configuration names of a definition. -/
def configKeys (d : DefRef) : List String :=
  match d with
  | .plugin p => (s.pluginAt p).data.config.keys
  | .template t => (s.templateAt t).exports.config.keys

def createConfigTemplate (fuel : Nat) (d : DefRef) : Except Err CoreComponentConfiguration :=
  (s.configKeys d).foldlM
    (fun template configId => do
      let value ← s.createConfigTemplateValue fuel d configId
      return template.set configId value)
    ∅

/-- `getRecursiveTemplateUsage`: the templates that use a template, then theirs. -/
def getRecursiveTemplateUsage : Nat → Ref → Except Err (List Ref)
  | 0, _ => .error .stackOverflow
  | fuel + 1, t => do
    let parts ← (s.templateAt t).usage.values.mapM (fun c =>
      match (s.componentAt c).ownerTemplate with
      | none => pure []
      | some owner => do
        let children ← getRecursiveTemplateUsage fuel owner
        return owner :: children)
    return parts.flatten

/-- `hasExportWithComponentId` -/
def hasExportWithComponentId (t : Ref) (id : String) : Bool :=
  (s.templateAt t).exports.config.values.any (fun item => decide (item.component = id)) ||
    (s.templateAt t).exports.members.values.any (fun item => decide (item.component = id))

/-- `findConfigExported` -/
def findConfigExported (t : Ref) (componentId configId : String) : Option String :=
  ((s.templateAt t).exports.config.entries.find?
    (fun e => decide (e.2.component = componentId ∧ e.2.configName = configId))).map Prod.fst

end ProjectModel
end MylifeHome.Studio.Core
