import MylifeHome.Common.Types
import MylifeHome.Studio.Ui.Data

/-!
# The UI model

The parts of `definition-model.ts` that change the data. A collection and the data it
was made of are always changed together, so that the model is the data. A handler that
tells whether it has changed something gives the new data with its answer.
-/
namespace MylifeHome.Studio.Ui

open MylifeHome.Lib
open MylifeHome.Studio.Core (Err MemberType hasColon)

/-! ## Collections -/

namespace CollectionModel

variable {α : Type} (items : OMap String α)

def getById (id : String) : Except Err α :=
  match items.get id with
  | some item => .ok item
  | none => .error (.error ("Item with id '" ++ id ++ "' does not exist"))

def checkNewId (id : String) : Except Err PUnit :=
  if items.has id then .error (.error ("Id '" ++ id ++ "' already exists"))
  else if hasColon id then .error (.error ("Id '" ++ id ++ "' contains forbidden character ':'"))
  else .ok ⟨⟩

theorem getById_ok {id : String} {item : α} : getById items id = .ok item ↔
    items.get id = some item := by
  unfold getById
  split <;> simp_all

end CollectionModel

/-- A handler on all the items of a collection. -/
def eachItem {α : Type} (handler : α → α × Bool) (items : OMap String α) : OMap String α × Bool :=
  (items.mapVal (fun item => (handler item).1), items.values.any (fun item => (handler item).2))

/-- Replace a reference. -/
def renameRef (id : String) (newId value : Option String) : Option String × Bool :=
  if value = some id then (newId, true) else (value, false)

/-! ## Styles -/

def styleRename (styleId newId : String) (style : List String) : List String × Bool :=
  if styleId ∈ style then (Common.Metadata.sort (style.replace styleId newId), true)
  else (style, false)

def styleClear (styleId : String) (style : List String) : List String × Bool :=
  if styleId ∈ style then (style.erase styleId, true) else (style, false)

/-! ## Controls -/

namespace ControlModel

variable (data : UiControlData)

/-- The properties that a call sets; the others are not in its object. -/
structure Properties where
  style : Option (List String) := none
  height : Option ℚ := none
  width : Option ℚ := none
  x : Option ℚ := none
  y : Option ℚ := none
  display : Option (Option UiControlDisplayData) := none
  text : Option (Option UiControlTextData) := none
  primaryAction : Option (Option UiActionData) := none
  secondaryAction : Option (Option UiActionData) := none
  deriving DecidableEq

def update (properties : Properties) : UiControlData where
  style := (properties.style.map Common.Metadata.sort).getD data.style
  height := properties.height.getD data.height
  width := properties.width.getD data.width
  x := properties.x.getD data.x
  y := properties.y.getD data.y
  display := properties.display.getD data.display
  text := properties.text.getD data.text
  primaryAction := properties.primaryAction.getD data.primaryAction
  secondaryAction := properties.secondaryAction.getD data.secondaryAction

def onRenameResource (resourceId : String) (newId : Option String) : UiControlData × Bool :=
  match data.display with
  | none => (data, false)
  | some display =>
    let rename := renameRef resourceId newId
    let map := display.map.map (fun item => { item with resource := (rename item.resource).1 })
    ({ data with display := some { display with
      defaultResource := (rename display.defaultResource).1, map := map } },
      (rename display.defaultResource).2 || display.map.any (fun item => (rename item.resource).2))

def onRenameStyle (styleId newId : String) : UiControlData × Bool :=
  ({ data with style := (styleRename styleId newId data.style).1 },
    (styleRename styleId newId data.style).2)

def onClearStyle (styleId : String) : UiControlData × Bool :=
  ({ data with style := (styleClear styleId data.style).1 }, (styleClear styleId data.style).2)

/-- The window of an action. -/
def renameActionWindow (windowId : String) (newId : Option String) (action : Option UiActionData) :
    Option UiActionData × Bool :=
  match action with
  | some { component, window := some window } =>
    (some { component := component, window := some { window with
      id := (renameRef windowId newId window.id).1 } }, (renameRef windowId newId window.id).2)
  | action => (action, false)

def onRenameWindow (windowId : String) (newId : Option String) : UiControlData × Bool :=
  let rename := renameActionWindow windowId newId
  ({ data with primaryAction := (rename data.primaryAction).1,
               secondaryAction := (rename data.secondaryAction).1 },
    (rename data.primaryAction).2 || (rename data.secondaryAction).2)

/-- A member that is read from an export is unset with it. -/
def clearExportMember (memberName : String) (componentId member : Option String) : Option String :=
  if componentId = none ∧ member = some memberName then none else member

def clearExportAction (memberName : String) (action : UiActionData) : UiActionData :=
  { action with component := action.component.map fun component =>
      { component with action := clearExportMember memberName component.id component.action } }

/-- The answer of this handler is not used. -/
def onClearTemplateExport (memberName : String) : UiControlData :=
  { data with
    display := data.display.map fun display =>
      { display with
        componentState := clearExportMember memberName display.componentId display.componentState }
    text := data.text.map fun text =>
      { text with context := text.context.map fun item =>
          { item with
            componentState := clearExportMember memberName item.componentId item.componentState } }
    primaryAction := data.primaryAction.map (clearExportAction memberName)
    secondaryAction := data.secondaryAction.map (clearExportAction memberName) }

/-- A reference that is exactly the one of the usage is unset. -/
def clearUsed (usage : ComponentUsage) (componentId member : Option String) :
    (Option String × Option String) × Bool :=
  if componentId = some usage.componentId ∧ member = some usage.memberName then ((none, none), true)
  else ((componentId, member), false)

def clearUsedDisplay (usage : ComponentUsage) (display : UiControlDisplayData) :
    UiControlDisplayData × Bool :=
  let used := clearUsed usage display.componentId display.componentState
  ({ display with componentId := used.1.1, componentState := used.1.2 }, used.2)

def clearUsedItem (usage : ComponentUsage) (item : UiControlTextContextItemData) :
    UiControlTextContextItemData × Bool :=
  let used := clearUsed usage item.componentId item.componentState
  ({ item with componentId := used.1.1, componentState := used.1.2 }, used.2)

def clearUsedAction (usage : ComponentUsage) (action : UiActionData) : UiActionData × Bool :=
  match action.component with
  | none => (action, false)
  | some component =>
    let used := clearUsed usage component.id component.action
    ({ action with component := some { id := used.1.1, action := used.1.2 } }, used.2)

def clearComponentUsage (usage : ComponentUsage) : UiControlData × Bool :=
  ({ data with
      display := data.display.map fun display => (clearUsedDisplay usage display).1
      text := data.text.map fun text =>
        { text with context := text.context.map fun item => (clearUsedItem usage item).1 }
      primaryAction := data.primaryAction.map fun action => (clearUsedAction usage action).1
      secondaryAction := data.secondaryAction.map fun action => (clearUsedAction usage action).1 },
    data.display.any (fun display => (clearUsedDisplay usage display).2) ||
      data.text.any (fun text => text.context.any fun item => (clearUsedItem usage item).2) ||
      data.primaryAction.any (fun action => (clearUsedAction usage action).2) ||
      data.secondaryAction.any (fun action => (clearUsedAction usage action).2))

end ControlModel

/-! ## Template instances -/

namespace TemplateInstanceModel

variable (data : UiTemplateInstanceData)

def move (x y : Option ℚ) : UiTemplateInstanceData :=
  { data with x := x.getD data.x, y := y.getD data.y }

def initBinding (exportId : String) : UiTemplateInstanceData :=
  { data with bindings := data.bindings.set exportId { componentId := none, memberName := none } }

def clearBinding (exportId : String) : UiTemplateInstanceData :=
  { data with bindings := data.bindings.delete exportId }

def onRenameTemplate (templateId newId : String) : UiTemplateInstanceData × Bool :=
  ({ data with templateId := (renameRef templateId (some newId) data.templateId).1 },
    (renameRef templateId (some newId) data.templateId).2)

/-- The answer of this handler is not used. -/
def onClearTemplateExport (memberName : String) : UiTemplateInstanceData :=
  { data with bindings := data.bindings.mapVal fun binding =>
      { binding with memberName :=
          ControlModel.clearExportMember memberName binding.componentId binding.memberName } }

def isUsed (binding : UiTemplateInstanceBinding) : Bool :=
  truthy binding.componentId && truthy binding.memberName

/-- Unlike that of a control, this one looks only at whether a binding is set. -/
def clearComponentUsage : UiTemplateInstanceData × Bool :=
  ({ data with bindings := data.bindings.mapVal fun binding =>
      if isUsed binding then { componentId := none, memberName := none } else binding },
    data.bindings.values.any isUsed)

end TemplateInstanceModel

/-! ## Views -/

namespace ViewModel

variable (data : UiViewData)

/-- A handler on all the controls. -/
def eachControl (handler : UiControlData → UiControlData × Bool) : UiViewData × Bool :=
  ({ data with controls := (eachItem handler data.controls).1 }, (eachItem handler data.controls).2)

def onRenameResource (resourceId : String) (newId : Option String) : UiViewData × Bool :=
  eachControl data fun control => ControlModel.onRenameResource control resourceId newId

def onRenameStyle (styleId newId : String) : UiViewData × Bool :=
  eachControl data fun control => ControlModel.onRenameStyle control styleId newId

def onClearStyle (styleId : String) : UiViewData × Bool :=
  eachControl data fun control => ControlModel.onClearStyle control styleId

def onRenameWindow (windowId : String) (newId : Option String) : UiViewData × Bool :=
  eachControl data fun control => ControlModel.onRenameWindow control windowId newId

def onRenameTemplate (templateId newId : String) : UiViewData × Bool :=
  let renamed := eachItem
    (fun item => TemplateInstanceModel.onRenameTemplate item templateId newId) data.templates
  ({ data with templates := renamed.1 }, renamed.2)

/-- Whether an instance is one of the template. -/
def isOf (templateId : String) (item : UiTemplateInstanceData) : Bool :=
  decide (item.templateId = some templateId)

def onClearTemplate (templateId : String) : UiViewData × Bool :=
  let ids := (data.templates.entries.filter (fun e => isOf templateId e.2)).map Prod.fst
  ({ data with templates := ids.foldl (fun m id => m.delete id) data.templates },
    data.templates.values.any (isOf templateId))

/-- A change of the instances of a template. -/
def eachInstanceOf (templateId : String)
    (change : UiTemplateInstanceData → UiTemplateInstanceData) :
    UiViewData × Bool :=
  let changed := eachItem (fun item => if isOf templateId item then (change item, true)
    else (item, false)) data.templates
  ({ data with templates := changed.1 }, changed.2)

def onSetTemplateExport (templateId exportId : String) : UiViewData × Bool :=
  eachInstanceOf data templateId (fun item => TemplateInstanceModel.initBinding item exportId)

def onClearTemplateExport (templateId exportId : String) : UiViewData × Bool :=
  eachInstanceOf data templateId (fun item => TemplateInstanceModel.clearBinding item exportId)

/-- The second node of the path tells the element of the view. -/
def clearComponentUsage (usage : ComponentUsage) : Except Err (UiViewData × Bool) :=
  match usage.path with
  | _ :: { type := .control, id } :: _ =>
    match data.controls.get id with
    | none => .ok (data, false)
    | some control =>
      let cleared := ControlModel.clearComponentUsage control usage
      .ok ({ data with controls := data.controls.set id cleared.1 }, cleared.2)
  | _ :: { type := .templateInstance, id } :: _ =>
    match data.templates.get id with
    | none => .ok (data, false)
    | some item =>
      let cleared := TemplateInstanceModel.clearComponentUsage item
      .ok ({ data with templates := data.templates.set id cleared.1 }, cleared.2)
  | _ :: _ :: _ => .ok (data, false)
  | _ => .error .typeError

end ViewModel

namespace WindowModel

variable (data : UiWindowData)

structure Properties where
  style : Option (List String) := none
  backgroundResource : Option (Option String) := none
  height : Option ℚ := none
  width : Option ℚ := none
  deriving DecidableEq

def update (properties : Properties) : UiWindowData :=
  { data with
    style := (properties.style.map Common.Metadata.sort).getD data.style
    backgroundResource := properties.backgroundResource.getD data.backgroundResource
    height := properties.height.getD data.height
    width := properties.width.getD data.width }

/-- A handler of the view that the window is. -/
def onView (handler : UiViewData → UiViewData × Bool) : UiWindowData × Bool :=
  ({ data with toUiViewData := (handler data.toUiViewData).1 }, (handler data.toUiViewData).2)

def onRenameResource (resourceId : String) (newId : Option String) : UiWindowData × Bool :=
  let background := renameRef resourceId newId data.backgroundResource
  let view := onView { data with backgroundResource := background.1 } fun view =>
    ViewModel.onRenameResource view resourceId newId
  (view.1, background.2 || view.2)

def onRenameStyle (styleId newId : String) : UiWindowData × Bool :=
  let own := styleRename styleId newId data.style
  let view := onView { data with style := own.1 } fun view =>
    ViewModel.onRenameStyle view styleId newId
  (view.1, own.2 || view.2)

def onClearStyle (styleId : String) : UiWindowData × Bool :=
  let own := styleClear styleId data.style
  let view := onView { data with style := own.1 } fun view => ViewModel.onClearStyle view styleId
  (view.1, own.2 || view.2)

end WindowModel

namespace TemplateModel

variable (data : UiTemplateData)

structure Properties where
  height : Option ℚ := none
  width : Option ℚ := none
  deriving DecidableEq

def update (properties : Properties) : UiTemplateData :=
  { data with
    height := properties.height.getD data.height, width := properties.width.getD data.width }

/-- A handler of the view that the template is. -/
def onView (handler : UiViewData → UiViewData × Bool) : UiTemplateData × Bool :=
  ({ data with toUiViewData := (handler data.toUiViewData).1 }, (handler data.toUiViewData).2)

def setExport (exportId : String) (memberType : MemberType) (valueType : String) : UiTemplateData :=
  { data with
    «exports» := data.exports.set exportId
      { memberType := memberType, valueType := valueType, bulkPattern := none } }

/-- The export, and what refers to it inside the template. -/
def clearExport (exportId : String) : UiTemplateData :=
  { data with
    «exports» := data.exports.delete exportId
    controls := data.controls.mapVal fun control =>
      ControlModel.onClearTemplateExport control exportId
    templates := data.templates.mapVal fun item =>
      TemplateInstanceModel.onClearTemplateExport item exportId }

def getExportData (id exportId : String) : Except Err UiTemplateExport :=
  match data.exports.get exportId with
  | some exportData => .ok exportData
  | none => .error (.error
    ("Export '" ++ exportId ++ "' does not exist on template '" ++ id ++ "'"))

def setBulkPattern (exportId : String) (bulkPattern : Option String) : UiTemplateData :=
  { data with «exports» := data.exports.modify exportId fun exportData => { exportData with
    bulkPattern := bulkPattern } }

def prepareBindings : OMap String UiTemplateInstanceBinding :=
  data.exports.mapVal fun _ => { componentId := none, memberName := none }

def getExportValueType (memberName : Option String) (memberType : MemberType) : Option String :=
  match data.exports.get (propertyName memberName) with
  | some exportData => if exportData.memberType = memberType then some exportData.valueType
    else none
  | none => none

end TemplateModel

/-! ## Projects -/

namespace UiProject

variable (project : UiProject)

def getWindow (id : String) : Except Err UiWindowData := CollectionModel.getById project.windows id

def getTemplate (id : String) : Except Err UiTemplateData :=
  CollectionModel.getById project.templates id

def getView : ViewRef → Except Err UiViewData
  | .window id => (project.getWindow id).map UiWindowData.toUiViewData
  | .template id => (project.getTemplate id).map UiTemplateData.toUiViewData

/-- Change the data of a view. -/
def updateView (v : ViewRef) (change : UiViewData → UiViewData) : UiProject :=
  match v with
  | .window id => { project with windows := project.windows.modify id fun window =>
      { window with toUiViewData := change window.toUiViewData } }
  | .template id => { project with templates := project.templates.modify id fun template =>
      { template with toUiViewData := change template.toUiViewData } }

/-- Handlers on all the windows and all the templates. -/
def eachView (onWindow : UiWindowData → UiWindowData × Bool)
    (onTemplate : UiTemplateData → UiTemplateData × Bool) :
    UiProject :=
  { project with
    windows := (eachItem onWindow project.windows).1
    templates := (eachItem onTemplate project.templates).1 }

/-- `findComponentMemberValueType`; a component without its plugin has no members to look at. -/
def findComponentMemberValueType (componentId : String) (memberName : Option String)
    (memberType : MemberType) :
    Except Err (Option String) :=
  match project.components.get componentId with
  | none => .ok none
  | some component =>
    match project.plugins.get component.plugin with
    | none => .error .typeError
    | some plugin =>
      match plugin.members.get (propertyName memberName) with
      | some member => .ok (if member.memberType = memberType then some member.valueType else none)
      | none => .ok none

end UiProject

/-- `DefaultWindowModel.set` -/
def DefaultWindow.assign (data newDefaultWindow : DefaultWindow) : DefaultWindow :=
  newDefaultWindow.entries.foldl (fun m e => m.set e.1 e.2) data

def DefaultWindow.onRenameWindow (windowId : String) (newId : Option String)
    (data : DefaultWindow) :
    DefaultWindow × Bool :=
  eachItem (renameRef windowId newId) data

end MylifeHome.Studio.Ui
