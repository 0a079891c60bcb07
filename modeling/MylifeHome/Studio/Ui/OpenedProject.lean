import MylifeHome.Lib.Program
import MylifeHome.Studio.Ui.Model

/-!
# The calls on an opened UI project

`UiOpenedProject.call` with the operations of `ProjectModel` that it uses: each call
edits the project and sends notifications, and a throw leaves what was edited and sent
until then. Validation, deployment and the preparation of a refresh edit nothing.
-/
namespace MylifeHome.Studio.Ui

open MylifeHome.Lib MylifeHome.Lib.Program
open MylifeHome.Studio.Core (Err MemberType)

inductive Notification where
  | setDefaultWindow (defaultWindow : DefaultWindow)
  | setComponentData (components : OMap String UiComponentData) (plugins : OMap String UiPluginData)
  | setResource (id : String) (resource : UiResourceData)
  | clearResource (id : String)
  | renameResource (id newId : String)
  | setStyle (id : String) (style : UiStyleData)
  | clearStyle (id : String)
  | renameStyle (id newId : String)
  | setWindow (id : String) (window : UiWindowData)
  | clearWindow (id : String)
  | renameWindow (id newId : String)
  | setTemplate (id : String) (template : UiTemplateData)
  | clearTemplate (id : String)
  | renameTemplate (id newId : String)
  deriving DecidableEq

/-- The project, and what was sent to the sessions. -/
structure Opened where
  project : UiProject
  sent : List Notification := []
  deriving DecidableEq

inductive Step where
  | edit (change : UiProject → UiProject)
  | notify (notification : Notification)

instance : Machine Opened Step where
  apply
    | .edit change, o => { o with project := change o.project }
    | .notify notification, o => { o with sent := o.sent ++ [notification] }

/-- Statements of the calls. -/
abbrev UM := Program Err Opened Step

def edit (change : UiProject → UiProject) : UM PUnit := perform (.edit change)

/-- A read that may throw. -/
def fetch {α : Type} (f : UiProject → Except Err α) : UM α := do orThrow (f (← read).project)

/-- Windows and templates by their ids. -/
structure Impacts where
  windows : List String := []
  templates : List String := []

/-! ## Notifications -/

def notifyAll (notification : Notification) : UM PUnit := perform (.notify notification)

def notifyAllDefaultWindow :
    UM PUnit := do notifyAll (.setDefaultWindow (← read).project.defaultWindow)

def notifyAllComponentData : UM PUnit := do
  let project := (← read).project
  notifyAll (.setComponentData project.components project.plugins)

/-- The notification of an item with its data; the item is there when this is called. -/
def notifyItem {α : Type} (items : UiProject → OMap String α)
    (notification : String → α → Notification) (id : String) :
    UM PUnit := do
  match (items (← read).project).get id with
  | some item => notifyAll (notification id item)
  | none => pure ⟨⟩

def notifyAllResource : String → UM PUnit := notifyItem UiProject.resources .setResource
def notifyAllStyle : String → UM PUnit := notifyItem UiProject.styles .setStyle
def notifyAllWindow : String → UM PUnit := notifyItem UiProject.windows .setWindow
def notifyAllTemplate : String → UM PUnit := notifyItem UiProject.templates .setTemplate

def notifyAllView : ViewRef → UM PUnit
  | .window id => notifyAllWindow id
  | .template id => notifyAllTemplate id

def notifyImpacts (impacts : Impacts) : UM PUnit := do
  forEach impacts.windows notifyAllWindow
  forEach impacts.templates notifyAllTemplate

/-! ## Operations of the project -/

namespace ProjectModel

/-- The ids of the items that a handler changes. -/
def impacted {α : Type} (handler : α → α × Bool) (items : OMap String α) : List String :=
  (items.entries.filter (fun e => (handler e.2).2)).map Prod.fst

/-- Handlers on the windows, then on the templates. -/
def eachView (onWindow : UiWindowData → UiWindowData × Bool)
    (onTemplate : UiTemplateData → UiTemplateData × Bool) :
    UM Impacts := do
  let project := (← read).project
  edit fun project => project.eachView onWindow onTemplate
  return { windows := impacted onWindow project.windows,
           templates := impacted onTemplate project.templates }

/-- Set a new item of a collection. -/
def setItem {α : Type} (items : UiProject → OMap String α)
    (put : UiProject → OMap String α → UiProject) (id : String) (item : α) : UM PUnit := do
  fetch fun project => CollectionModel.checkNewId (items project) id
  edit fun project => put project ((items project).set id item)

def clearItem {α : Type} (items : UiProject → OMap String α)
    (put : UiProject → OMap String α → UiProject) (id : String) :
    UM PUnit :=
  edit fun project => put project ((items project).delete id)

/-- The new id is checked even if there is nothing to rename. -/
def renameItem {α : Type} (items : UiProject → OMap String α)
    (put : UiProject → OMap String α → UiProject) (id newId : String) : UM PUnit := do
  fetch fun project => CollectionModel.checkNewId (items project) newId
  edit fun project => put project ((items project).rename id newId)

def putResources (project : UiProject) (resources : OMap String UiResourceData) : UiProject :=
  { project with resources := resources }

def putStyles (project : UiProject) (styles : OMap String UiStyleData) : UiProject :=
  { project with styles := styles }

def putWindows (project : UiProject) (windows : OMap String UiWindowData) : UiProject :=
  { project with windows := windows }

def putTemplates (project : UiProject) (templates : OMap String UiTemplateData) : UiProject :=
  { project with templates := templates }

def setResource (id : String) (resource : UiResourceData) : UM PUnit := do
  if (← read).project.resources.has
    id then edit fun project => putResources project (project.resources.set id resource)
  else setItem UiProject.resources putResources id resource

def clearResource (id : String) : UM Impacts := do
  clearItem UiProject.resources putResources id
  eachView (fun window => WindowModel.onRenameResource window id none)
    (fun template => TemplateModel.onView template fun view =>
      ViewModel.onRenameResource view id none)

def renameResource (id newId : String) : UM Impacts := do
  renameItem UiProject.resources putResources id newId
  eachView (fun window => WindowModel.onRenameResource window id (some newId))
    (fun template => TemplateModel.onView template fun view =>
      ViewModel.onRenameResource view id (some newId))

def setStyle (id : String) (style : UiStyleData) : UM PUnit := do
  if (← read).project.styles.has
    id then edit fun project => putStyles project (project.styles.set id style)
  else setItem UiProject.styles putStyles id style

/-- The templates are not looked at. -/
def clearStyle (id : String) : UM Impacts := do
  clearItem UiProject.styles putStyles id
  eachView (fun window => WindowModel.onClearStyle window id) (fun template => (template, false))

/-- The templates are not looked at. -/
def renameStyle (id newId : String) : UM Impacts := do
  renameItem UiProject.styles putStyles id newId
  eachView (fun window => WindowModel.onRenameStyle window id newId)
    (fun template => (template, false))

def newWindow (id : String) : UM PUnit := setItem UiProject.windows putWindows id windowTemplate

def cloneWindow (id newId : String) : UM PUnit := do
  let source ← fetch fun project => project.getWindow id
  setItem UiProject.windows putWindows newId source

/-- What follows the removal or the renaming of a window: whether the default window has changed,
and the changed views. -/
def onRenameWindow (id : String) (newId : Option String) : UM (Bool × Impacts) := do
  let project := (← read).project
  edit fun project => { project with
    defaultWindow := (project.defaultWindow.onRenameWindow id newId).1 }
  let impacts ← eachView
    (fun window => WindowModel.onView window fun view => ViewModel.onRenameWindow view id newId)
    (fun template => TemplateModel.onView template fun view =>
      ViewModel.onRenameWindow view id newId)
  return ((project.defaultWindow.onRenameWindow id newId).2, impacts)

def clearWindow (id : String) : UM (Bool × Impacts) := do
  clearItem UiProject.windows putWindows id
  onRenameWindow id none

def renameWindow (id newId : String) : UM (Bool × Impacts) := do
  renameItem UiProject.windows putWindows id newId
  onRenameWindow id (some newId)

def newTemplate (id : String) : UM PUnit :=
  setItem UiProject.templates putTemplates id templateTemplate

def cloneTemplate (id newId : String) : UM PUnit := do
  let source ← fetch fun project => project.getTemplate id
  setItem UiProject.templates putTemplates newId source

def clearTemplate (id : String) : UM Impacts := do
  clearItem UiProject.templates putTemplates id
  eachView (fun window => WindowModel.onView window fun view => ViewModel.onClearTemplate view id)
    (fun template => TemplateModel.onView template fun view => ViewModel.onClearTemplate view id)

def renameTemplate (id newId : String) : UM Impacts := do
  renameItem UiProject.templates putTemplates id newId
  eachView (fun window => WindowModel.onView window fun view =>
    ViewModel.onRenameTemplate view id newId)
    (fun template => TemplateModel.onView template fun view =>
      ViewModel.onRenameTemplate view id newId)

/-- Change the data of a template. -/
def updateTemplate (id : String) (change : UiTemplateData → UiTemplateData) : UM PUnit :=
  edit fun project => putTemplates project (project.templates.modify id change)

/-- The template itself is the first one of the changed templates. -/
def setTemplateExport (id exportId : String) (memberType : MemberType) (valueType : String) :
    UM Impacts := do
  discard (fetch fun project => project.getTemplate id)
  updateTemplate id fun template => TemplateModel.setExport template exportId memberType valueType
  let impacts ← eachView
    (fun window => WindowModel.onView window fun view =>
      ViewModel.onSetTemplateExport view id exportId)
    (fun template => TemplateModel.onView template fun view =>
      ViewModel.onSetTemplateExport view id exportId)
  return { impacts with templates := id :: impacts.templates }

def clearTemplateExport (id exportId : String) : UM Impacts := do
  discard (fetch fun project => project.getTemplate id)
  updateTemplate id fun template => TemplateModel.clearExport template exportId
  let impacts ← eachView
    (fun window => WindowModel.onView window fun view =>
      ViewModel.onClearTemplateExport view id exportId)
    (fun template => TemplateModel.onView template fun view =>
      ViewModel.onClearTemplateExport view id exportId)
  return { impacts with templates := id :: impacts.templates }

/-- The patterns are all checked before the first one is set. -/
def setBulkPatterns (id : String) (patterns : OMap String (Option String)) : UM PUnit := do
  let template ← fetch fun project => project.getTemplate id
  forEach patterns.keys fun exportId =>
    discard (orThrow (TemplateModel.getExportData template id exportId))
  forEach patterns.entries fun e => updateTemplate id fun template =>
    TemplateModel.setBulkPattern template e.1 e.2

/-- `ComponentsModel.apply` -/
def applyComponents (componentData : NewComponentData) : UM PUnit :=
  edit fun project => { project with
    components := componentData.components, plugins := componentData.plugins }

/-- Clear a usage in its view, which is the first node of its path. -/
def clearUsage (impacts : Impacts) (usage : ComponentUsage) : UM Impacts :=
  match usage.path with
  | { type := .window, id } :: _ => do
    let window ← fetch fun project => project.getWindow id
    let cleared ← orThrow (ViewModel.clearComponentUsage window.toUiViewData usage)
    edit fun project => project.updateView (.window id) fun _ => cleared.1
    return if cleared.2 then { impacts with windows := impacts.windows ++ [id] } else impacts
  | { type := .template, id } :: _ => do
    let template ← fetch fun project => project.getTemplate id
    let cleared ← orThrow (ViewModel.clearComponentUsage template.toUiViewData usage)
    edit fun project => project.updateView (.template id) fun _ => cleared.1
    return if cleared.2 then { impacts with templates := impacts.templates ++ [id] } else impacts
  | _ :: _ => pure impacts
  | [] => throw .typeError

def clearComponentsUsage (usage : List ComponentUsage) : UM Impacts := foldEach usage clearUsage {}

end ProjectModel

/-! ## Operations of a view -/

namespace ViewModel

variable (v : ViewRef)

/-- Change the controls of a view. -/
def putControls (change : OMap String UiControlData → OMap String UiControlData) : UM PUnit :=
  edit fun project => project.updateView v fun view =>
    { view with controls := change view.controls }

/-- Change the template instances of a view. -/
def putTemplates (change : OMap String UiTemplateInstanceData →
    OMap String UiTemplateInstanceData) : UM PUnit :=
  edit fun project => project.updateView v fun view =>
    { view with templates := change view.templates }

inductive ControlType where
  | display
  | text
  deriving DecidableEq

def newControl (controlId : String) (type : ControlType) (x y : ℚ) : UM PUnit := do
  let view ← fetch fun project => project.getView v
  let control := match type with
    | .display => { controlTemplate x y with display := some controlDisplayTemplate }
    | .text => { controlTemplate x y with text := some controlTextTemplate }
  orThrow (CollectionModel.checkNewId view.controls controlId)
  putControls v fun controls => controls.set controlId control

/-- A copy in another view is placed at its corner. -/
def cloneControl (source : ViewRef) (sourceControl : UiControlData) (newId : String) :
    UM PUnit := do
  let view ← fetch fun project => project.getView v
  let control :=
    if source = v then { sourceControl with x := sourceControl.x + 10, y := sourceControl.y + 10 }
    else { sourceControl with x := 10, y := 10 }
  orThrow (CollectionModel.checkNewId view.controls newId)
  putControls v fun controls => controls.set newId control

def clearControl (controlId : String) : UM PUnit :=
  putControls v fun controls => controls.delete controlId

def renameControl (id newId : String) : UM PUnit := do
  let view ← fetch fun project => project.getView v
  orThrow (CollectionModel.checkNewId view.controls newId)
  putControls v fun controls => controls.rename id newId

/-- Change a template instance. -/
def updateInstance (id : String) (change : UiTemplateInstanceData → UiTemplateInstanceData) :
    UM PUnit :=
  putTemplates v fun templates => templates.modify id change

/-- `TemplateInstanceModel.setTemplate` -/
def setTemplate (id templateId : String) (template : UiTemplateData) : UM PUnit := do
  updateInstance v id fun data => { data with templateId := some templateId }
  updateInstance v id fun data => { data with bindings := TemplateModel.prepareBindings template }

def newTemplateInstance (templateInstanceId templateId : String) (x y : ℚ) : UM PUnit := do
  let template ← fetch fun project => project.getTemplate templateId
  let view ← fetch fun project => project.getView v
  orThrow (CollectionModel.checkNewId view.templates templateInstanceId)
  putTemplates v fun templates => templates.set templateInstanceId (templateInstanceTemplate x y)
  setTemplate v templateInstanceId templateId template

def cloneTemplateInstance (templateInstanceId newId : String) : UM PUnit := do
  let view ← fetch fun project => project.getView v
  let source ← orThrow (CollectionModel.getById view.templates templateInstanceId)
  orThrow (CollectionModel.checkNewId view.templates newId)
  putTemplates v fun templates =>
    templates.set newId { source with x := source.x + 10, y := source.y + 10 }

def clearTemplateInstance (templateInstanceId : String) : UM PUnit :=
  putTemplates v fun templates => templates.delete templateInstanceId

def renameTemplateInstance (id newId : String) : UM PUnit := do
  let view ← fetch fun project => project.getView v
  orThrow (CollectionModel.checkNewId view.templates newId)
  putTemplates v fun templates => templates.rename id newId

end ViewModel

/-! ## Bindings of a template instance -/

namespace TemplateInstanceModel

/-- `template`; the id is that of the template. -/
def getTemplate (project : UiProject) (data : UiTemplateInstanceData) :
    Except Err (String × UiTemplateData) :=
  if truthy data.templateId then
    (project.getTemplate (data.templateId.getD "")).map fun template =>
      (data.templateId.getD "", template)
  else .error .typeError

/-- Without a component the type is that of an export of the template that owns the instance. -/
def getValueType (project : UiProject) (owner : ViewRef) (componentId memberName : Option String)
    (memberType : MemberType) : Except Err (Option String) :=
  if truthy componentId then project.findComponentMemberValueType (componentId.getD "") memberName
    memberType
  else match owner with
    | .window _ => .ok none
    | .template id => .ok ((project.templates.get id).bind fun template =>
        TemplateModel.getExportValueType template memberName memberType)

/-- The checks of `setBinding`. -/
def checkBinding (project : UiProject) (owner : ViewRef) (data : UiTemplateInstanceData)
    (exportId : String) (binding : UiTemplateInstanceBinding) : Except Err PUnit := do
  if !data.bindings.has exportId then
    let (id, _) ← getTemplate project data
    .error (.error ("Binding from export '" ++ exportId ++ "' not found on template '" ++
      id ++ "'"))
  else
    let (id, template) ← getTemplate project data
    let exportData ← TemplateModel.getExportData template id exportId
    let valueType ← getValueType project owner binding.componentId binding.memberName
      exportData.memberType
    if truthy valueType ∧ valueType = some exportData.valueType then return ⟨⟩
    else
      let component := if truthy binding.componentId then binding.componentId.getD ""
        else "<template>"
      .error (.error ("Binding mismatch: cannot bind '" ++ component ++ "." ++
        propertyName binding.memberName ++
        "' on export '" ++ exportId ++ "'"))

def setBinding (v : ViewRef) (id exportId : String) (binding : UiTemplateInstanceBinding) :
    UM PUnit := do
  let view ← fetch fun project => project.getView v
  let data ← orThrow (CollectionModel.getById view.templates id)
  fetch fun project => checkBinding project v data exportId binding
  ViewModel.updateInstance v id fun data =>
    { data with bindings := data.bindings.set exportId binding }

end TemplateInstanceModel

/-! ## Calls -/

inductive Call where
  | applyRefreshComponents (componentData : NewComponentData) (usageToClear : List ComponentUsage)
  | setDefaultWindow (defaultWindow : DefaultWindow)
  | setResource (id : String) (resource : UiResourceData)
  | clearResource (id : String)
  | renameResource (id newId : String)
  | setStyle (id : String) (style : UiStyleData)
  | clearStyle (id : String)
  | renameStyle (id newId : String)
  | newWindow (id : String)
  | clearWindow (id : String)
  | renameWindow (id newId : String)
  | cloneWindow (id newId : String)
  | setWindowProperties (id : String) (properties : WindowModel.Properties)
  | newTemplate (id : String)
  | clearTemplate (id : String)
  | renameTemplate (id newId : String)
  | cloneTemplate (id newId : String)
  | setTemplateProperties (id : String) (properties : TemplateModel.Properties)
  | setTemplateExport (id exportId : String) (memberType : MemberType) (valueType : String)
  | clearTemplateExport (id exportId : String)
  | setTemplateBulkPatterns (id : String) (patterns : OMap String (Option String))
  | newControl (v : ViewRef) (id : String) (x y : ℚ) (type : ViewModel.ControlType)
  | clearControl (v : ViewRef) (id : String)
  | renameControl (v : ViewRef) (id newId : String)
  | cloneControl (v : ViewRef) (id newId : String) (target : ViewRef)
  | setControlProperties (v : ViewRef) (id : String) (properties : ControlModel.Properties)
  | newTemplateInstance (v : ViewRef) (id templateId : String) (x y : ℚ)
  | clearTemplateInstance (v : ViewRef) (id : String)
  | renameTemplateInstance (v : ViewRef) (id newId : String)
  | cloneTemplateInstance (v : ViewRef) (id newId : String)
  | moveTemplateInstance (v : ViewRef) (id : String) (x y : Option ℚ)
  | setTemplateInstanceTemplate (v : ViewRef) (id templateId : String)
  | setTemplateInstanceBindings (v : ViewRef) (id : String)
    (bindings : OMap String UiTemplateInstanceBinding)

namespace UiOpenedProject

/-- The view of a call is looked up first, and notified at the end. -/
def onView (v : ViewRef) (body : UM PUnit) : UM PUnit := do
  discard (fetch fun project => project.getView v)
  body
  notifyAllView v

/-- A change of a template instance that is looked up first. -/
def onInstance (v : ViewRef) (id : String) (body : UM PUnit) : UM PUnit :=
  onView v do
    let view ← fetch fun project => project.getView v
    discard (orThrow (CollectionModel.getById view.templates id))
    body

def notifyWindowImpacts (impacts : Bool × Impacts) : UM PUnit := do
  if impacts.1 then notifyAllDefaultWindow
  notifyImpacts impacts.2

def call : Call → UM PUnit
  | .applyRefreshComponents componentData usageToClear => do
    ProjectModel.applyComponents componentData
    let impacts ← ProjectModel.clearComponentsUsage usageToClear
    notifyImpacts impacts
    notifyAllComponentData
  | .setDefaultWindow defaultWindow => do
    edit fun project => { project with defaultWindow := project.defaultWindow.assign defaultWindow }
    notifyAllDefaultWindow
  | .setResource id resource => do
    ProjectModel.setResource id resource
    notifyAllResource id
  | .clearResource id => do
    let impacts ← ProjectModel.clearResource id
    notifyAll (.clearResource id)
    notifyImpacts impacts
  | .renameResource id newId => do
    let impacts ← ProjectModel.renameResource id newId
    notifyAll (.renameResource id newId)
    notifyImpacts impacts
  | .setStyle id style => do
    ProjectModel.setStyle id style
    notifyAllStyle id
  | .clearStyle id => do
    let impacts ← ProjectModel.clearStyle id
    notifyAll (.clearStyle id)
    forEach impacts.windows notifyAllWindow
  | .renameStyle id newId => do
    let impacts ← ProjectModel.renameStyle id newId
    notifyAll (.renameStyle id newId)
    forEach impacts.windows notifyAllWindow
  | .newWindow id => do
    ProjectModel.newWindow id
    notifyAllWindow id
  | .clearWindow id => do
    let impacts ← ProjectModel.clearWindow id
    notifyAll (.clearWindow id)
    notifyWindowImpacts impacts
  | .renameWindow id newId => do
    let impacts ← ProjectModel.renameWindow id newId
    notifyAll (.renameWindow id newId)
    notifyWindowImpacts impacts
  | .cloneWindow id newId => do
    ProjectModel.cloneWindow id newId
    notifyAllWindow newId
  | .setWindowProperties id properties => do
    discard (fetch fun project => project.getWindow id)
    edit fun project => ProjectModel.putWindows project (project.windows.modify id fun window =>
      WindowModel.update window properties)
    notifyAllWindow id
  | .newTemplate id => do
    ProjectModel.newTemplate id
    notifyAllTemplate id
  | .clearTemplate id => do
    let impacts ← ProjectModel.clearTemplate id
    notifyAll (.clearTemplate id)
    notifyImpacts impacts
  | .renameTemplate id newId => do
    let impacts ← ProjectModel.renameTemplate id newId
    notifyAll (.renameTemplate id newId)
    notifyImpacts impacts
  | .cloneTemplate id newId => do
    ProjectModel.cloneTemplate id newId
    notifyAllTemplate newId
  | .setTemplateProperties id properties => do
    discard (fetch fun project => project.getTemplate id)
    ProjectModel.updateTemplate id fun template => TemplateModel.update template properties
    notifyAllTemplate id
  | .setTemplateExport id exportId memberType valueType => do
    let impacts ← ProjectModel.setTemplateExport id exportId memberType valueType
    notifyImpacts impacts
  | .clearTemplateExport id exportId => do
    let impacts ← ProjectModel.clearTemplateExport id exportId
    notifyImpacts impacts
  | .setTemplateBulkPatterns id patterns => do
    ProjectModel.setBulkPatterns id patterns
    notifyAllTemplate id
  | .newControl v id x y type => onView v (ViewModel.newControl v id type x y)
  | .clearControl v id => onView v (ViewModel.clearControl v id)
  | .renameControl v id newId => onView v (ViewModel.renameControl v id newId)
  | .cloneControl v id newId target => do
    let view ← fetch fun project => project.getView v
    let sourceControl ← orThrow (CollectionModel.getById view.controls id)
    onView target (ViewModel.cloneControl target v sourceControl newId)
  | .setControlProperties v id properties => onView v do
    let view ← fetch fun project => project.getView v
    discard (orThrow (CollectionModel.getById view.controls id))
    ViewModel.putControls v fun controls => controls.modify id fun control =>
      ControlModel.update control properties
  | .newTemplateInstance v id templateId x y =>
    onView v (ViewModel.newTemplateInstance v id templateId x y)
  | .clearTemplateInstance v id => onView v (ViewModel.clearTemplateInstance v id)
  | .renameTemplateInstance v id newId => onView v (ViewModel.renameTemplateInstance v id newId)
  | .cloneTemplateInstance v id newId => onView v (ViewModel.cloneTemplateInstance v id newId)
  | .moveTemplateInstance v id x y => onInstance v id
    (ViewModel.updateInstance v id fun data => TemplateInstanceModel.move data x y)
  | .setTemplateInstanceTemplate v id templateId => onInstance v id do
    let template ← fetch fun project => project.getTemplate templateId
    ViewModel.setTemplate v id templateId template
  | .setTemplateInstanceBindings v id bindings => onInstance v id
    (forEach bindings.entries fun e => TemplateInstanceModel.setBinding v id e.1 e.2)

end UiOpenedProject
end MylifeHome.Studio.Ui
