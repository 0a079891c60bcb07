import MylifeHome.Lib.OMap
import MylifeHome.Lib.Effect
import MylifeHome.Lib.Text
import Mathlib.Data.Rat.Defs

/-!
# The persisted core project

The JSON types of `shared/project-manager` and of the component metadata. Plain
objects are insertion-ordered maps. A number is a rational: every finite double
is one, and JSON has no other numbers.
-/
namespace MylifeHome.Studio.Core

open MylifeHome.Lib

inductive JsValue where
  | undefined
  | null
  | bool (b : Bool)
  | number (q : ℚ)
  | string (s : String)
  | object (json : String)
  deriving DecidableEq, Repr

/-- What a call may throw. A type error is the access of a property of `null` or
`undefined`; the stack overflow is the end of a recursion without end. A rejected
configuration value is quoted as JSON at the end of its message. -/
inductive Err where
  | error (message : String)
  | badConfigValue (message : String) (value : JsValue)
  | typeError
  | referenceError
  | stackOverflow
  deriving DecidableEq, Repr

/-- `Object.is`: two object values that were parsed apart are never the same. -/
def JsValue.objectIs : JsValue → JsValue → Bool
  | .object _, .object _ => false
  | a, b => decide (a = b)

/-- `Number.isInteger` -/
def JsValue.isInteger : JsValue → Bool
  | .number q => decide (q.den = 1)
  | _ => false

inductive MemberType where
  | action
  | state
  deriving DecidableEq, Repr

def MemberType.text : MemberType → String
  | .action => "action"
  | .state => "state"

inductive ConfigType where
  | string
  | bool
  | integer
  | float
  deriving DecidableEq, Repr

inductive PluginUsage where
  | sensor
  | actuator
  | logic
  | ui
  deriving DecidableEq, Repr

structure NetMember where
  description : String
  memberType : MemberType
  valueType : String
  deriving DecidableEq

structure ConfigItem where
  description : String
  valueType : ConfigType
  deriving DecidableEq

structure NetPlugin where
  name : String
  module : String
  usage : PluginUsage
  version : String
  description : String
  members : OMap String NetMember
  config : OMap String ConfigItem
  deriving DecidableEq

inductive CoreToolboxDisplay where
  | «show»
  | hide
  deriving DecidableEq, Repr

structure CorePluginData extends NetPlugin where
  instanceName : String
  toolboxDisplay : CoreToolboxDisplay
  deriving DecidableEq

inductive CoreComponentDefinitionType where
  | plugin
  | template
  deriving DecidableEq, Repr

structure CoreComponentDefinition where
  type : CoreComponentDefinitionType
  id : String
  deriving DecidableEq

structure Position where
  x : ℚ
  y : ℚ
  deriving DecidableEq

abbrev CoreComponentConfiguration := OMap String JsValue

/-- `config` is `null` on an imported external component. -/
structure CoreComponentData where
  definition : CoreComponentDefinition
  position : Position
  config : Option CoreComponentConfiguration
  external : Bool
  deriving DecidableEq

structure CoreBindingData where
  sourceComponent : String
  sourceState : String
  targetComponent : String
  targetAction : String
  deriving DecidableEq

structure CoreTemplateConfigExport where
  component : String
  configName : String
  deriving DecidableEq

structure CoreTemplateMemberExport where
  component : String
  member : String
  deriving DecidableEq

structure CoreTemplateExports where
  config : OMap String CoreTemplateConfigExport
  members : OMap String CoreTemplateMemberExport
  deriving DecidableEq

structure CoreView where
  components : OMap String CoreComponentData
  bindings : OMap String CoreBindingData
  deriving DecidableEq

structure CoreTemplate extends CoreView where
  «exports» : CoreTemplateExports
  deriving DecidableEq

structure CoreProject extends CoreView where
  plugins : OMap String CorePluginData
  templates : OMap String CoreTemplate
  deriving DecidableEq

/-- `BindingModel.makeId` -/
def makeId (data : CoreBindingData) : String :=
  data.sourceComponent ++ ":" ++ data.sourceState ++ ":" ++ data.targetComponent ++ ":" ++
    data.targetAction

/-- The test of `validateId`. -/
def hasColon (id : String) : Bool := decide (':' ∈ id.toList)

/-- `createConfigTemplateValue` of a config item of a plugin. -/
def ConfigType.default : ConfigType → JsValue
  | .string => .string ""
  | .bool => .bool false
  | .integer => .number 0
  | .float => .number 0

/-- `PluginModel.validateConfigValueByType`: whether a value is of a type. -/
def ConfigType.accepts : ConfigType → JsValue → Bool
  | .string, .string _ => true
  | .bool, .bool _ => true
  | .integer, v => v.isInteger
  | .float, .number _ => true
  | _, _ => false

def ConfigType.text : ConfigType → String
  | .string => "a string"
  | .bool => "a bool"
  | .integer => "an integer"
  | .float => "a float"

theorem ConfigType.default_accepted (t : ConfigType) : t.accepts t.default = true := by
  cases t <;> rfl

end MylifeHome.Studio.Core
