import MylifeHome.Studio.Core.Kernel
import MylifeHome.Studio.Core.Definition
import MylifeHome.Studio.Core.NamingDryRun
import Mathlib.Data.List.Dedup

/-!
# The methods of the model

The mutators of `ViewModel`, `TemplateModel`, `ProjectModel`, `ComponentModel`
and `PluginModel`, with their checks in the order of the source. A call leaves
the state as it was at the throw.
-/
namespace MylifeHome.Studio.Core

open MylifeHome.Lib MylifeHome.Lib.Program

/-! ## Views -/

namespace ViewModel

/-- `registerComponent`, and `this.data.components[id] = component.data`. -/
def registerComponent (v : ViewRef) (id : String) (data : CoreComponentData) : M PUnit := do
  let d ← orThrow ((← read).getDefinition data.definition)
  perform (.addComponent v id d data)

/-- `registerBinding`, and `this.data.bindings[binding.id] = binding.data`. -/
def registerBinding (v : ViewRef) (data : CoreBindingData) : M PUnit := do
  let source ← orThrow ((← read).getComponent v data.sourceComponent)
  let target ← orThrow ((← read).getComponent v data.targetComponent)
  perform (.addBinding v data source target)

/-- `ViewModel.setComponent` -/
def setComponent (fuel : Nat) (v : ViewRef) (componentId : String)
    (definition : CoreComponentDefinition) (position : Position) : M PUnit := do
  throwIf ((← read).hasComponent v componentId)
    (.error ("Component id already exists: '" ++ componentId ++ "'"))
  validateId componentId
  let d ← orThrow ((← read).getDefinition definition)
  orThrow (((← read).buildNamingDryRunEngine.setComponent v componentId (some d)).validate fuel)
  let config ← orThrow ((← read).createConfigTemplate fuel d)
  registerComponent v componentId
    { definition := definition, position := position, config := some config, external := false }

/-- `renameComponent`, with what a template does after it. -/
def renameComponent (fuel : Nat) (v : ViewRef) (id newId : String) : M PUnit := do
  throwIf ((← read).hasComponent v newId)
    (.error ("Component id already exists: '" ++ newId ++ "'"))
  validateId newId
  match ((← read).views v).components.get id with
  | none => throw .typeError
  | some c =>
    orThrow (((← read).buildNamingDryRunEngine.renameComponent c newId).validate fuel)
    perform (.renameComponent v c newId)

/-- `ViewModel.clearComponent` -/
def clearComponent (write : Ref → Write) (v : ViewRef) (id : String) : M PUnit := do
  match ((← read).views v).components.get id with
  | none => throw .typeError
  | some c => perform (write c)

/-- `ViewModel.setBinding` -/
def setBinding (fuel : Nat) (v : ViewRef) (data : CoreBindingData) : M PUnit := do
  let source ← orThrow ((← read).getComponent v data.sourceComponent)
  let target ← orThrow ((← read).getComponent v data.targetComponent)
  throwIf (decide (source = target)) (.error "Cannot create binding on self")
  let sourceType ← orThrow
    ((← read).getMemberValueType fuel ((← read).componentAt source).definition
    data.sourceState .state)
  let targetType ← orThrow
    ((← read).getMemberValueType fuel ((← read).componentAt target).definition
    data.targetAction .action)
  throwIf (decide (sourceType ≠ targetType))
    (.error ("Cannot create binding from '" ++ sourceType ++ "' to '" ++ targetType ++ "'"))
  throwIf (((← read).views v).bindings.has (makeId data))
    (.error ("Binding id already exists: '" ++ makeId data ++ "'"))
  registerBinding v data

/-- `ViewModel.clearBinding` -/
def clearBinding (v : ViewRef) (id : String) : M PUnit := do
  match ((← read).views v).bindings.get id with
  | none => throw .typeError
  | some b => perform (.clearBinding v b)

/-- The id of a copy of a component. -/
def copyId (id : String) : String := idPattern ++ "-" ++ id

/-- The selected components, without repetition. -/
def copySources (s : ProjectModel) (v : ViewRef) (componentsIds : List String) :
    Except Err (List Ref) := do
  let components ← componentsIds.mapM (s.getComponent v)
  return components.reverse.dedup.reverse

/-- The bindings between the selected components. -/
def copyBindings (s : ProjectModel) (components : List Ref) : List Ref :=
  ((components.flatMap s.allBindings).filter fun b =>
    decide ((s.bindingAt b).sourceComponent ∈ components ∧
      (s.bindingAt b).targetComponent ∈ components)
    ).reverse.dedup.reverse

/-- The sanity checks of one component to copy, with its entry in the dry run. -/
def checkCopy (s : ProjectModel) (target : ViewRef) (dryRun : NamingDryRun.Engine) (c : Ref) :
    Except Err NamingDryRun.Engine :=
  let o := s.componentAt c
  if o.data.external then .error (.error "Cannot copy external components")
  else match o.definition with
    | .template _ => .error (.error "Cannot copy template components for now")
    | .plugin p =>
      if s.hasComponent target (copyId o.id) then
        .error (.error ("Component with id '" ++ copyId o.id ++
          "' does already exist on target view"))
      else .ok (dryRun.setComponent target (copyId o.id) (some (.plugin p)))

def copyComponent (target : ViewRef) (c : Ref) : M PUnit := do
  let o := (← read).componentAt c
  registerComponent target (copyId o.id)
    { definition := o.data.definition, position := o.data.position,
      config := some (o.data.config.getD ∅),
      external := false }

def copyBinding (fuel : Nat) (target : ViewRef) (b : Ref) : M PUnit := do
  let s ← read
  let o := s.bindingAt b
  setBinding fuel target
    { sourceComponent := copyId (s.componentAt o.sourceComponent).id
      sourceState := o.data.sourceState
      targetComponent := copyId (s.componentAt o.targetComponent).id
      targetAction := o.data.targetAction }

/-- `copyTo`. The copy of a component is known by its id in the target view. -/
def copyTo (fuel : Nat) (v : ViewRef) (componentsIds : List String) (target : ViewRef) :
    M PUnit := do
  throwIf (decide (v = target)) (.error "Cannot copy on self")
  let s ← read
  let components ← orThrow (copySources s v componentsIds)
  let bindings := copyBindings s components
  let dryRun ← orThrow (components.foldlM (checkCopy s target) s.buildNamingDryRunEngine)
  orThrow (dryRun.validate fuel)
  forEach components (copyComponent target)
  forEach bindings (copyBinding fuel target)

end ViewModel

/-! ## Components -/

namespace ComponentModel

/-- `move` -/
def move (c : Ref) (delta : Position) : M PUnit := do
  let position := ((← read).componentAt c).data.position
  perform (.moveComponent c { x := position.x + delta.x, y := position.y + delta.y })

def configure (fuel : Nat) (c : Ref) (configId : String) (configValue : JsValue) : M PUnit := do
  let o := (← read).componentAt c
  match o.data.config with
  | none => throw .typeError
  | some config =>
    throwIf (decide ((config.get configId).getD .undefined = .undefined))
      (.error ("Cannot configure exported item '" ++ configId ++ "'."))
    orThrow ((← read).validateConfigValue fuel o.definition configId configValue)
    perform (.setConfig c (config.set configId configValue))

/-- `delete this.data.config[configId]` -/
def deleteConfig (c : Ref) (configId : String) : M PUnit := do
  match ((← read).componentAt c).data.config with
  | none => throw .typeError
  | some config => perform (.setConfig c (config.delete configId))

/-- `this.data.config[configId] = this.definition.createConfigTemplateValue(configId)`: the value
is computed before the assignment finds that the configuration is `null`. -/
def writeDefaultConfig (fuel : Nat) (c : Ref) (configId : String) : M PUnit := do
  let o := (← read).componentAt c
  let value ← orThrow ((← read).createConfigTemplateValue fuel o.definition configId)
  match o.data.config with
  | none => throw .typeError
  | some config => perform (.setConfig c (config.set configId value))

def exportConfig (c : Ref) (configId : String) : M PUnit := deleteConfig c configId

def addConfig (fuel : Nat) (c : Ref) (configId : String) : M PUnit :=
  writeDefaultConfig fuel c configId

def importClearConfig (c : Ref) (configId : String) : M PUnit := deleteConfig c configId

def importResetConfig (fuel : Nat) (c : Ref) (configId : String) : M PUnit :=
  writeDefaultConfig fuel c configId

def checkDelete (c : Ref) : M PUnit := do
  let o := (← read).componentAt c
  match o.ownerTemplate with
  | none => pure ⟨⟩
  | some t =>
    throwIf ((← read).hasExportWithComponentId t o.id)
      (.error ("Cannot delete component '" ++ o.id ++ "' because it is used in template exports"))

def executeImport (c p : Ref) (external : Bool) (config : Option CoreComponentConfiguration) :
    M PUnit :=
  perform (.importComponent c p external config)

end ComponentModel

/-! ## Templates -/

namespace TemplateModel

/-- The check for circular dependencies looks at the users of the template. -/
def setComponent (fuel : Nat) (t : Ref) (componentId : String)
    (definition : CoreComponentDefinition) (position : Position) : M PUnit := do
  let usageTemplates ← orThrow ((← read).getRecursiveTemplateUsage fuel t)
  let s ← read
  throwIf (decide (definition.type = .template ∧
    definition.id ∈ usageTemplates.map (fun u => (s.templateAt u).id)))
    (.error ("Cannot create component using template '" ++ definition.id ++
      "' because it could create a circular dependency."))
  ViewModel.setComponent fuel (some t) componentId definition position

/-- `TemplateModel.clearComponent` -/
def clearComponent (write : Ref → Write) (t : Ref) (id : String) : M PUnit := do
  let templateExports := ((← read).templateAt t).exports
  match templateExports.config.entries.find? (fun e => decide (e.2.component = id)) with
  | some e => throw (.error ("Cannot delete component '" ++ id ++
      "' because it is used in template config export '" ++ e.1 ++ "'."))
  | none =>
    match templateExports.members.entries.find? (fun e => decide (e.2.component = id)) with
    | some e => throw (.error ("Cannot delete component '" ++ id ++
        "' because it is used in template member export '" ++ e.1 ++ "'."))
    | none => ViewModel.clearComponent write (some t) id

def setConfigExport (fuel : Nat) (t : Ref) (exportId componentId configName : String) :
    M PUnit := do
  let c ← orThrow ((← read).getComponent (some t) componentId)
  orThrow ((← read).ensureConfig ((← read).componentAt c).definition configName)
  let templateExports := ((← read).templateAt t).exports
  match templateExports.config.entries.find?
      (fun e => decide (e.1 ≠ exportId ∧ e.2.component = componentId ∧
        e.2.configName = configName)) with
  | some e => throw (.error ("Config item '" ++ configName ++ "' of component '" ++ componentId ++
      "' is already exported as '" ++ e.1 ++ "'."))
  | none =>
    throwIf (templateExports.config.has exportId) (.error "Cannot update config export")
    perform (.exportConfig t exportId
      { component := ((← read).componentAt c).id, configName := configName })
    ComponentModel.exportConfig c configName
    forEach ((← read).templateAt t).usage.values (fun x => ComponentModel.addConfig fuel x exportId)

def setMemberExport (fuel : Nat) (t : Ref) (exportId componentId memberName : String) :
    M PUnit := do
  let c ← orThrow ((← read).getComponent (some t) componentId)
  orThrow ((← read).ensureMember fuel ((← read).componentAt c).definition memberName)
  let templateExports := ((← read).templateAt t).exports
  throwIf (templateExports.members.has exportId) (.error "Cannot update member export")
  perform (.exportMember t exportId
    { component := ((← read).componentAt c).id, member := memberName })

def setExport (fuel : Nat) (t : Ref) (exportType : ExportType)
    (exportId componentId propertyName : String) :
    M PUnit :=
  match exportType with
  | .config => setConfigExport fuel t exportId componentId propertyName
  | .member => setMemberExport fuel t exportId componentId propertyName

def importClearExport (t : Ref) (exportType : ExportType) (exportId : String) : M PUnit :=
  perform (.clearExport t exportType exportId)

end TemplateModel

/-! ## The overridden methods, by the kind of the view -/

namespace ViewRef

def setComponent (fuel : Nat) (v : ViewRef) (componentId : String)
    (definition : CoreComponentDefinition) (position : Position) : M PUnit :=
  match v with
  | none => ViewModel.setComponent fuel none componentId definition position
  | some t => TemplateModel.setComponent fuel t componentId definition position

def clearComponent (write : Ref → Write) (v : ViewRef) (id : String) : M PUnit :=
  match v with
  | none => ViewModel.clearComponent write none id
  | some t => TemplateModel.clearComponent write t id

end ViewRef

/-! ## The project -/

namespace ProjectModel

def deletePlugin (write : Ref → Write) (id : String) : M PUnit := do
  let p ← orThrow ((← read).getPlugin id)
  perform (write p)

def setTemplate (templateId : String) : M PUnit := do
  throwIf ((← read).hasTemplate templateId)
    (.error ("Template id already exists: '" ++ templateId ++ "'"))
  validateId templateId
  perform (.addTemplate templateId { config := ∅, members := ∅ })

/-- A missing template is found when its `rename` is called, and until then nothing was written. -/
def renameTemplate (id newId : String) : M PUnit := do
  throwIf ((← read).hasTemplate newId) (.error ("Template id already exists: '" ++ newId ++ "'"))
  validateId newId
  match (← read).templates.get id with
  | none => throw .typeError
  | some t => perform (.renameTemplate t newId)

def clearTemplate (id : String) : M PUnit := do
  match (← read).templates.get id with
  | none => throw .typeError
  | some t =>
    throwIf ((← read).used (.template t))
      (.error ("Cannot delete template '" ++ id ++ "' because it is used."))
    perform (.clearTemplate t)

/-- The id that an imported plugin gets. -/
def importPluginId (instanceName : String) (netPlugin : NetPlugin) : String :=
  instanceName ++ ":" ++ netPlugin.module ++ "." ++ netPlugin.name

def importPlugin (instanceName : String) (netPlugin : NetPlugin) : M PUnit := do
  let pluginData : CorePluginData :=
    { netPlugin with instanceName := instanceName, toolboxDisplay := .show }
  let id := importPluginId instanceName netPlugin
  match (← read).findPlugin id with
  | some p => perform (.importPlugin p pluginData)
  | none => perform (.addPlugin id pluginData)

def importComponent (id pluginId : String) (external : Bool)
    (config : Option CoreComponentConfiguration) :
    M PUnit := do
  match ((← read).views none).components.get id with
  | some c =>
    let p ← orThrow ((← read).getPlugin pluginId)
    ComponentModel.executeImport c p external config
  | none =>
    ViewModel.registerComponent none id
      { definition := { type := .plugin, id := pluginId }, position := { x := 1, y := 1 },
        config := config,
        external := external }

end ProjectModel

/-- `PluginModel.updateDisplay` -/
def PluginModel.updateDisplay (p : Ref) (wantedDisplay : CoreToolboxDisplay) : M PUnit :=
  perform (.displayPlugin p wantedDisplay)

namespace InstanceModel

def updateAllPluginsDisplay (i : Ref) (wantedDisplay : CoreToolboxDisplay) : M PUnit := do
  forEach ((← read).instanceAt i).plugins.values
    (fun p => PluginModel.updateDisplay p wantedDisplay)

def getAllUnusedPluginIds (s : ProjectModel) (i : Ref) : List String :=
  ((s.instanceAt i).plugins.values.filter (fun p => !s.used (.plugin p))).map
    (fun p => (s.pluginAt p).id)

end InstanceModel
end MylifeHome.Studio.Core
