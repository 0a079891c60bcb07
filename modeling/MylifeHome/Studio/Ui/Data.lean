import MylifeHome.Studio.Core.Data

/-!
# The persisted UI project

The UI types of `shared/project-manager` and of the UI model they extend. A reference that
may be unset is an option: `null` is `none`, and the empty text counts as unset where
the code tests a text as a condition.
-/
namespace MylifeHome.Studio.Ui

open MylifeHome.Lib
open MylifeHome.Studio.Core (JsValue MemberType NetMember)

structure UiResourceData where
  mime : String
  data : String
  deriving DecidableEq

/-- `properties` is an object that is only stored. -/
structure UiStyleData where
  properties : JsValue
  deriving DecidableEq

structure UiControlDisplayMapItemData where
  min : Option ℚ
  max : Option ℚ
  value : JsValue
  resource : Option String
  deriving DecidableEq

structure UiControlDisplayData where
  componentId : Option String
  componentState : Option String
  defaultResource : Option String
  map : List UiControlDisplayMapItemData
  deriving DecidableEq

/-- `testValue` is for the designer only. -/
structure UiControlTextContextItemData where
  id : String
  componentId : Option String
  componentState : Option String
  testValue : JsValue
  deriving DecidableEq

structure UiControlTextData where
  context : List UiControlTextContextItemData
  format : String
  deriving DecidableEq

structure ActionComponent where
  id : Option String
  action : Option String
  deriving DecidableEq

structure ActionWindow where
  id : Option String
  popup : Bool
  deriving DecidableEq

structure UiActionData where
  component : Option ActionComponent
  window : Option ActionWindow
  deriving DecidableEq

structure UiControlData where
  style : List String
  height : ℚ
  width : ℚ
  x : ℚ
  y : ℚ
  display : Option UiControlDisplayData
  text : Option UiControlTextData
  primaryAction : Option UiActionData
  secondaryAction : Option UiActionData
  deriving DecidableEq

@[ext] structure UiTemplateInstanceBinding where
  componentId : Option String
  memberName : Option String
  deriving DecidableEq

structure UiTemplateInstanceData where
  templateId : Option String
  x : ℚ
  y : ℚ
  bindings : OMap String UiTemplateInstanceBinding
  deriving DecidableEq

structure UiTemplateExport where
  memberType : MemberType
  valueType : String
  bulkPattern : Option String
  deriving DecidableEq

structure UiViewData where
  height : ℚ
  width : ℚ
  controls : OMap String UiControlData
  templates : OMap String UiTemplateInstanceData
  deriving DecidableEq

structure UiWindowData extends UiViewData where
  style : List String
  backgroundResource : Option String
  deriving DecidableEq

structure UiTemplateData extends UiViewData where
  «exports» : OMap String UiTemplateExport
  deriving DecidableEq

structure UiComponentData where
  plugin : String
  deriving DecidableEq

structure UiPluginData where
  instanceName : String
  name : String
  module : String
  version : String
  description : String
  members : OMap String NetMember
  deriving DecidableEq

abbrev DefaultWindow := OMap String (Option String)

structure UiProject where
  resources : OMap String UiResourceData
  styles : OMap String UiStyleData
  windows : OMap String UiWindowData
  templates : OMap String UiTemplateData
  defaultWindow : DefaultWindow
  components : OMap String UiComponentData
  plugins : OMap String UiPluginData
  deriving DecidableEq

/-- A view of a project: `viewType` and `viewId` of the calls. -/
inductive ViewRef where
  | window (id : String)
  | template (id : String)
  deriving DecidableEq

inductive UiElementType where
  | defaultWindow
  | window
  | template
  | control
  | templateInstance
  | templateBinding
  | contextItem
  | mapItem
  | action
  deriving DecidableEq

structure UiElementPathNode where
  type : UiElementType
  id : String
  deriving DecidableEq

abbrev UiElementPath := List UiElementPathNode

structure ComponentUsage where
  componentId : String
  memberName : String
  path : UiElementPath
  deriving DecidableEq

structure NewComponentData where
  components : OMap String UiComponentData
  plugins : OMap String UiPluginData
  deriving DecidableEq

/-- Whether a text that may be unset counts as one in a condition. -/
def truthy (value : Option String) : Bool := decide (value.getD "" ≠ "")

theorem truthy_iff {value : Option String} : truthy value = true ↔ ∃ s, value = some s ∧
    s ≠ "" := by
  cases value <;> simp [truthy]

/-- The property that a name reads: `null` is taken as a text. -/
def propertyName (name : Option String) : String := name.getD "null"

/-! ## The objects that new elements are made of -/

def windowTemplate : UiWindowData where
  style := []
  height := 500
  width := 500
  backgroundResource := none
  controls := ∅
  templates := ∅

def templateTemplate : UiTemplateData where
  height := 500
  width := 500
  «exports» := ∅
  controls := ∅
  templates := ∅

/-- `x` and `y` are `null` in the object, and set right after it is copied. -/
def templateInstanceTemplate (x y : ℚ) : UiTemplateInstanceData where
  templateId := none
  x := x
  y := y
  bindings := ∅

/-- `x` and `y` are `null` in the object, and set right after it is copied. -/
def controlTemplate (x y : ℚ) : UiControlData where
  x := x
  y := y
  style := []
  height := 50
  width := 50
  display := none
  text := none
  primaryAction := none
  secondaryAction := none

def controlDisplayTemplate : UiControlDisplayData where
  componentId := none
  componentState := none
  defaultResource := none
  map := []

def controlTextTemplate : UiControlTextData where
  context := []
  format := "return '';"

/-- The project that `createNew` stores under a name. -/
def UiProjects.createNew : UiProject where
  resources := ∅
  styles := ∅
  windows := ∅
  templates := ∅
  defaultWindow := .ofList [("desktop", none), ("mobile", none)]
  components := ∅
  plugins := ∅

end MylifeHome.Studio.Ui
