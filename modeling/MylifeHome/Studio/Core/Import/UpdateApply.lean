import MylifeHome.Studio.Core.Import.UpdateBuilder

/-!
# Applying updates

`import/update-apply.ts` with the api that `CoreOpenedProject.applyBulkUpdates`
gives it. Of the updates that were prepared, those of the selected changes are
applied, type after type.
-/
namespace MylifeHome.Studio.Core.Import

open MylifeHome.Lib

inductive UpdateType where
  | pluginSet
  | pluginClear
  | componentSet
  | componentClear
  | componentResetConfig
  | componentClearConfig
  | bindingClear
  | templateClearExport
  deriving DecidableEq

def UpdateBody.type : UpdateBody → UpdateType
  | .pluginSet .. => .pluginSet
  | .pluginClear .. => .pluginClear
  | .componentSet .. => .componentSet
  | .componentClear .. => .componentClear
  | .componentResetConfig .. => .componentResetConfig
  | .componentClearConfig .. => .componentClearConfig
  | .bindingClear .. => .bindingClear
  | .templateClearExport .. => .templateClearExport

/-- `ORDER` -/
def order : List UpdateType :=
  [.bindingClear, .pluginSet, .componentSet, .templateClearExport, .componentClearConfig,
    .componentResetConfig, .componentClear, .pluginClear]

/-! ## The api -/

namespace UpdateApi

def setPlugin (plugin : PluginImport) : M PUnit :=
  ProjectModel.importPlugin plugin.instanceName plugin.plugin

def clearPlugin (pluginId : String) : M PUnit :=
  ProjectModel.deletePlugin (.importClearPlugin pluginId) pluginId

def setComponent (component : ComponentImport) : M PUnit :=
  ProjectModel.importComponent component.id component.pluginId component.external component.config

def clearComponent (templateId : Option String) (componentId : String) : M PUnit := do
  let v ← orThrow ((← read).getTemplateOrSelf templateId)
  ViewRef.clearComponent (.importClearComponent v) v componentId

def resetComponentConfig (fuel : Nat) (templateId : Option String) (componentId configId : String) :
    M PUnit := do
  let v ← orThrow ((← read).getTemplateOrSelf templateId)
  let c ← orThrow ((← read).getComponent v componentId)
  ComponentModel.importResetConfig fuel c configId

def clearComponentConfig (templateId : Option String) (componentId configId : String) :
    M PUnit := do
  let v ← orThrow ((← read).getTemplateOrSelf templateId)
  let c ← orThrow ((← read).getComponent v componentId)
  ComponentModel.importClearConfig c configId

def clearBinding (templateId : Option String) (bindingId : String) : M PUnit := do
  let v ← orThrow ((← read).getTemplateOrSelf templateId)
  ViewModel.clearBinding v bindingId

def clearTemplateExport (templateId : String) (exportType : ExportType) (exportId : String) :
    M PUnit := do
  let t ← orThrow ((← read).getTemplate templateId)
  TemplateModel.importClearExport t exportType exportId

end UpdateApi

/-! ## The run -/

/-- The components already written, and the counted objects. -/
structure ApplyContext where
  updatedComponents : List String := []
  plugins : List String := []
  components : List String := []
  templates : List String := []
  bindings : List String := []

def isSelected (selection : List String) (update : Update) : Bool :=
  update.objectChangeKeys.any (fun key => decide (key ∈ selection))

namespace ApplyContext

variable (ctx : ApplyContext)

def statsAddPlugin (pluginId : String) : ApplyContext :=
  { ctx with plugins := ctx.plugins.insert pluginId }

def statsAddComponent (templateId : Option String) (componentId : String) : ApplyContext :=
  { ctx with components := ctx.components.insert (templateId.getD "" ++ ":" ++ componentId) }

def statsAddTemplate (templateId : String) : ApplyContext :=
  { ctx with templates := ctx.templates.insert templateId }

def statsAddBinding (templateId : Option String) (bindingId : String) : ApplyContext :=
  { ctx with bindings := ctx.bindings.insert (templateId.getD "" ++ ":" ++ bindingId) }

def markComponentUpdated (id : String) : ApplyContext :=
  { ctx with updatedComponents := ctx.updatedComponents.insert id }

/-- A component of the project that was set keeps its imported configuration. -/
def skips (templateId : Option String) (componentId : String) : Bool :=
  decide (templateId.getD "" = "" ∧ componentId ∈ ctx.updatedComponents)

end ApplyContext

def applyUpdate (fuel : Nat) (ctx : ApplyContext) (update : Update) : M ApplyContext := do
  match update.body with
  | .pluginSet plugin =>
    UpdateApi.setPlugin plugin
    return ctx.statsAddPlugin plugin.id
  | .pluginClear pluginId =>
    UpdateApi.clearPlugin pluginId
    return ctx.statsAddPlugin pluginId
  | .componentSet component =>
    UpdateApi.setComponent component
    return (ctx.statsAddComponent none component.id).markComponentUpdated component.id
  | .componentClear templateId componentId =>
    UpdateApi.clearComponent templateId componentId
    return (ctx.statsAddComponent none componentId).markComponentUpdated componentId
  | .componentResetConfig templateId componentId configId =>
    if ctx.skips templateId componentId then return ctx
    UpdateApi.resetComponentConfig fuel templateId componentId configId
    return ctx.statsAddComponent templateId componentId
  | .componentClearConfig templateId componentId configId =>
    if ctx.skips templateId componentId then return ctx
    UpdateApi.clearComponentConfig templateId componentId configId
    return ctx.statsAddComponent templateId componentId
  | .bindingClear templateId bindingId =>
    UpdateApi.clearBinding templateId bindingId
    return ctx.statsAddBinding templateId bindingId
  | .templateClearExport templateId exportType exportId =>
    UpdateApi.clearTemplateExport templateId exportType exportId
    return ctx.statsAddTemplate templateId

/-- The selected updates in the order in which they are applied. -/
def appliedUpdates (updates : List Update) (selection : List String) : List Update :=
  order.flatMap fun type =>
    (updates.filter (isSelected selection)).filter (fun u => decide (u.body.type = type))

def applyUpdates (fuel : Nat) (updates : List Update) (selection : List String) : M ApplyContext :=
  foldEach (appliedUpdates updates selection) (applyUpdate fuel) {}

end MylifeHome.Studio.Core.Import
