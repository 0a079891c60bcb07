import MylifeHome.Lib.Program
import MylifeHome.Studio.Core.Model

/-!
# The writes of the object graph

What the methods of the model write once their checks have passed, each as one
function on the heap: the registration of an object and the write of the data
map that goes with it are one step, as are the loops that cannot fail any more.
-/
namespace MylifeHome.Studio.Core

open MylifeHome.Lib

namespace ProjectModel

variable (s : ProjectModel)

/-! ## Plugins -/

/-- `getOrCreateInstance` -/
def getOrCreateInstance (instanceName : String) : ProjectModel × Ref :=
  match s.instances.get instanceName with
  | some i => (s, i)
  | none =>
    let i := s.nextRef
    let s := s.newInstance { instanceName := instanceName }
    ({ s with instances := s.instances.set instanceName i }, i)

/-- `registerPlugin` in an existing instance, and the write of `data.plugins`. -/
def addPluginTo (i : Ref) (id : String) (data : CorePluginData) : ProjectModel :=
  let p := s.nextRef
  let s := s.newPlugin { «instance» := i, id := id, data := data, usage := ∅ }
  let s := { s with plugins := s.plugins.set id p, dataPlugins := s.dataPlugins.set id p }
  s.updInstance i (fun o => { o with plugins := o.plugins.set id p })

/-- `registerPlugin` and the write of `data.plugins`. -/
def addPlugin (id : String) (data : CorePluginData) : ProjectModel :=
  let (s, i) := s.getOrCreateInstance data.instanceName
  s.addPluginTo i id data

/-- A plugin leaves the maps and its instance. -/
def unregisterPlugin (id : String) (p : Ref) : ProjectModel :=
  let s := { s with plugins := s.plugins.delete id, dataPlugins := s.dataPlugins.delete id }
  s.updInstance (s.pluginAt p).instance (fun o => { o with plugins := o.plugins.delete id })

def dropEmptyInstance (i : Ref) : ProjectModel :=
  { s with
    instances :=
      if (s.instanceAt i).plugins.size = 0 then s.instances.delete (s.instanceAt i).instanceName
      else s.instances }

/-- `deletePlugin`; an instance without plugins goes with its last one. -/
def dropPlugin (id : String) (p : Ref) : ProjectModel :=
  (s.unregisterPlugin id p).dropEmptyInstance (s.pluginAt p).instance

/-- `PluginModel.executeImport` -/
def setPluginData (p : Ref) (data : CorePluginData) : ProjectModel :=
  s.updPlugin p (fun o => { o with data := data })

/-! ## Templates -/

/-- `registerTemplate` and the write of `data.templates`. -/
def addTemplate (id : String) (templateExports : CoreTemplateExports) : ProjectModel :=
  let t := s.nextRef
  let s := s.newTemplate { id := id, «exports» := templateExports }
  { s with templates := s.templates.set id t, dataTemplates := s.dataTemplates.set id t }

def dropTemplate (id : String) : ProjectModel :=
  { s with templates := s.templates.delete id, dataTemplates := s.dataTemplates.delete id }

/-- The writes of `renameTemplate` after the old id is gone. -/
def putTemplate (t : Ref) (newId : String) : ProjectModel :=
  let s := s.updTemplate t (fun o => { o with id := newId })
  { s with templates := s.templates.set newId t, dataTemplates := s.dataTemplates.set newId t }

def setExports (t : Ref) (templateExports : CoreTemplateExports) : ProjectModel :=
  s.updTemplate t (fun o => { o with «exports» := templateExports })

/-! ## Components -/

/-- `registerComponent` and the write of `data.components`. -/
def addComponent (v : ViewRef) (id : String) (d : DefRef) (data : CoreComponentData) :
    ProjectModel :=
  let c := s.nextRef
  let s := s.newComponent
    { definition := d, ownerTemplate := v, id := id, data := data, bindingsFrom := [],
      bindingsTo := [] }
  let s := s.updView v (fun w => { w with components := w.components.set id c })
  let s := s.registerUsage d c
  s.updView v (fun w => { w with dataComponents := w.dataComponents.set id c })

/-- `ViewModel.clearComponent` -/
def dropComponent (v : ViewRef) (c : Ref) : ProjectModel :=
  let id := (s.componentAt c).id
  let s := s.updView v (fun w => { w with components := w.components.delete id })
  let s := s.unregisterUsage (s.componentAt c).definition id
  s.updView v (fun w => { w with dataComponents := w.dataComponents.delete id })

/-- The writes of `renameComponent` before its bindings. -/
def renameComponentAt (v : ViewRef) (c : Ref) (newId : String) : ProjectModel :=
  let s := s.dropComponent v c
  let s := s.updComponent c (fun o => { o with id := newId })
  let s := s.updView v (fun w => { w with components := w.components.set newId c })
  let s := s.registerUsage (s.componentAt c).definition c
  s.updView v (fun w => { w with dataComponents := w.dataComponents.set newId c })

/-- The exports of a template after a renaming of one of its components. -/
def renamedExports (templateExports : CoreTemplateExports) (id newId : String) :
    CoreTemplateExports where
  config := templateExports.config.mapVal
    (fun x => if x.component = id then { x with component := newId } else x)
  members := templateExports.members.mapVal
    (fun x => if x.component = id then { x with component := newId } else x)

def setComponentData (c : Ref) (data : CoreComponentData) : ProjectModel :=
  s.updComponent c (fun o => { o with data := data })

/-! ## Bindings -/

/-- `BindingModel.rebuild`: the data of a binding with the ids of its ends. -/
def rebuiltData (data : CoreBindingData) (source target : Ref) : CoreBindingData :=
  { data with
    sourceComponent := (s.componentAt source).id
    targetComponent := (s.componentAt target).id }

/-- `registerBinding` and the write of `data.bindings` under a key. -/
def addBinding (v : ViewRef) (key : String) (data : CoreBindingData) (source target : Ref) :
    ProjectModel :=
  let b := s.nextRef
  let data := s.rebuiltData data source target
  let id := makeId data
  let s := s.newBinding
    { ownerTemplate := v, id := id, data := data, sourceComponent := source,
      targetComponent := target }
  let s := s.updView v (fun w => { w with bindings := w.bindings.set id b })
  let s := s.updComponent source (fun o => { o with bindingsFrom := o.bindingsFrom ++ [b] })
  let s := s.updComponent target (fun o => { o with bindingsTo := o.bindingsTo ++ [b] })
  s.updView v (fun w => { w with dataBindings := w.dataBindings.set key b })

/-- `ViewModel.clearBinding` -/
def dropBinding (v : ViewRef) (b : Ref) : ProjectModel :=
  let o := s.bindingAt b
  let s := s.updView v (fun w => { w with bindings := w.bindings.delete o.id })
  let s := s.updComponent o.sourceComponent
    (fun x => { x with bindingsFrom := x.bindingsFrom.erase b })
  let s := s.updComponent o.targetComponent (fun x => { x with bindingsTo := x.bindingsTo.erase b })
  s.updView v (fun w => { w with dataBindings := w.dataBindings.delete o.id })

/-- One round of the loop of `renameComponent` over the bindings of the component. -/
def rebuildBinding (v : ViewRef) (b : Ref) : ProjectModel :=
  let o := s.bindingAt b
  let s := s.updView v (fun w =>
    { w with bindings := w.bindings.delete o.id, dataBindings := w.dataBindings.delete o.id })
  let data := s.rebuiltData o.data o.sourceComponent o.targetComponent
  let s := s.updBinding b (fun o => { o with data := data, id := makeId data })
  s.updView v (fun w =>
    { w with
      bindings := w.bindings.set (makeId data) b
      dataBindings := w.dataBindings.set (makeId data) b })

/-! ## Renaming and clearing -/

/-- `renameComponent` of a view; a template renames the component in its exports too. -/
def renameComponent (v : ViewRef) (c : Ref) (newId : String) : ProjectModel :=
  let id := (s.componentAt c).id
  let s := s.renameComponentAt v c newId
  let s := (s.allBindings c).foldl (fun s b => s.rebuildBinding v b) s
  match v with
  | none => s
  | some t => s.setExports t (renamedExports (s.templateAt t).exports id newId)

/-- `deleteContents`, which does not check the exports. -/
def deleteContents (t : Ref) : ProjectModel :=
  let s := (s.views (some t)).components.values.foldl (fun s c => s.dropComponent (some t) c) s
  (s.views (some t)).bindings.values.foldl (fun s b => s.dropBinding (some t) b) s

/-- The writes of `clearTemplate`. -/
def eraseTemplate (t : Ref) : ProjectModel :=
  let s := s.deleteContents t
  s.dropTemplate (s.templateAt t).id

end ProjectModel

inductive ExportType where
  | config
  | member
  deriving DecidableEq, Repr

/-- The writes of the model. Those of the constructor and of the import, which check less, have
names of their own. -/
inductive Write where
  | initComponent (v : ViewRef) (id : String) (d : DefRef) (data : CoreComponentData)
  | initBinding (v : ViewRef) (key : String) (data : CoreBindingData) (source target : Ref)
  | addPlugin (id : String) (data : CorePluginData)
  | displayPlugin (p : Ref) (toolboxDisplay : CoreToolboxDisplay)
  | importPlugin (p : Ref) (data : CorePluginData)
  | deletePlugin (id : String) (p : Ref)
  | importClearPlugin (id : String) (p : Ref)
  | addTemplate (id : String) («exports» : CoreTemplateExports)
  | renameTemplate (t : Ref) (newId : String)
  | clearTemplate (t : Ref)
  | exportConfig (t : Ref) (exportId : String) (item : CoreTemplateConfigExport)
  | exportMember (t : Ref) (exportId : String) (item : CoreTemplateMemberExport)
  | clearExport (t : Ref) (exportType : ExportType) (exportId : String)
  | addComponent (v : ViewRef) (id : String) (d : DefRef) (data : CoreComponentData)
  | renameComponent (v : ViewRef) (c : Ref) (newId : String)
  | clearComponent (v : ViewRef) (c : Ref)
  | importClearComponent (v : ViewRef) (c : Ref)
  | moveComponent (c : Ref) (position : Position)
  | setConfig (c : Ref) (config : CoreComponentConfiguration)
  | importComponent (c p : Ref) (external : Bool) (config : Option CoreComponentConfiguration)
  | addBinding (v : ViewRef) (data : CoreBindingData) (source target : Ref)
  | clearBinding (v : ViewRef) (b : Ref)

def Write.apply (s : ProjectModel) : Write → ProjectModel
  | .initComponent v id d data => s.addComponent v id d data
  | .initBinding v key data source target => s.addBinding v key data source target
  | .addPlugin id data => s.addPlugin id data
  | .displayPlugin p toolboxDisplay =>
    s.setPluginData p { (s.pluginAt p).data with toolboxDisplay := toolboxDisplay }
  | .importPlugin p data => s.setPluginData p data
  | .deletePlugin id p => s.dropPlugin id p
  | .importClearPlugin id p => s.dropPlugin id p
  | .addTemplate id templateExports => s.addTemplate id templateExports
  | .renameTemplate t newId => (s.dropTemplate (s.templateAt t).id).putTemplate t newId
  | .clearTemplate t => s.eraseTemplate t
  | .exportConfig t exportId item =>
    let templateExports := (s.templateAt t).exports
    s.setExports t { templateExports with config := templateExports.config.set exportId item }
  | .exportMember t exportId item =>
    let templateExports := (s.templateAt t).exports
    s.setExports t { templateExports with members := templateExports.members.set exportId item }
  | .clearExport t .config exportId =>
    let templateExports := (s.templateAt t).exports
    s.setExports t { templateExports with config := templateExports.config.delete exportId }
  | .clearExport t .member exportId =>
    let templateExports := (s.templateAt t).exports
    s.setExports t { templateExports with members := templateExports.members.delete exportId }
  | .addComponent v id d data => s.addComponent v id d data
  | .renameComponent v c newId => s.renameComponent v c newId
  | .clearComponent v c => s.dropComponent v c
  | .importClearComponent v c => s.dropComponent v c
  | .moveComponent c position =>
    s.setComponentData c { (s.componentAt c).data with position := position }
  | .setConfig c config =>
    s.setComponentData c { (s.componentAt c).data with config := some config }
  | .importComponent c p external config =>
    -- The position is kept; the definition object is not changed.
    s.setComponentData c
      { definition := { type := .plugin, id := (s.pluginAt p).id }
        position := (s.componentAt c).data.position
        config := config
        external := external }
  | .addBinding v data source target =>
    s.addBinding v (makeId (s.rebuiltData data source target)) data source target
  | .clearBinding v b => s.dropBinding v b

instance : Machine ProjectModel Write where
  apply w s := w.apply s

/-- Statements of the model's methods. -/
abbrev M := Program Err ProjectModel Write

def validateId (id : String) : M PUnit :=
  throwIf (hasColon id) (.error ("Id '" ++ id ++ "' contains forbidden character ':'"))

end MylifeHome.Studio.Core
