import MylifeHome.Studio.Core.Data
import Mathlib.Algebra.Ring.Rat

/-!
# The component manager of a core instance

What the studio sees of the `ComponentManager` of a `mylife-home-core` instance. The
store maps and the maps of running objects have the same keys and are one map here.
The plugins are those the instance has loaded, by the id `module.name`.
-/
namespace MylifeHome.Core

open MylifeHome.Lib MylifeHome.Studio.Core

structure ComponentConfig where
  id : String
  plugin : String
  config : Option CoreComponentConfiguration
  deriving DecidableEq

abbrev BindingConfig := CoreBindingData

def buildBindingKey (config : BindingConfig) : String :=
  String.intercalate "|" [config.sourceComponent, config.sourceState, config.targetComponent,
    config.targetAction]

structure ComponentManager where
  plugins : OMap String NetPlugin
  components : OMap String ComponentConfig
  bindings : OMap String BindingConfig
  component_id : ∀ id c, components.get id = some c → c.id = id
  component_plugin : ∀ id c, components.get id = some c → plugins.has c.plugin = true
  binding_key : ∀ key b, bindings.get key = some b → buildBindingKey b = key

/-- `typeof` -/
def typeof : JsValue → String
  | .undefined => "undefined"
  | .null => "object"
  | .bool _ => "boolean"
  | .number _ => "number"
  | .string _ => "string"
  | .object _ => "object"

/-- `value % 1`: what is left of a number towards zero. -/
def decimalPart (q : ℚ) : ℚ := q - (q.num.tdiv q.den : ℤ)

/-- What is wrong with an entry of a configuration. A missing configuration cannot be read at
all. -/
inductive ItemError where
  | unreadable
  | missing
  | expected (type got : String)
  | decimal (value : ℚ)
  deriving DecidableEq

def validateConfigurationItem (value : JsValue) (expectedType : ConfigType) :
    Except ItemError Unit :=
  if value = .undefined ∨ value = .null then .error .missing
  else
    let type := typeof value
    match expectedType with
    | .string => if type ≠ "string" then .error (.expected "string" type) else .ok ()
    | .bool => if type ≠ "boolean" then .error (.expected "boolean" type) else .ok ()
    | .integer =>
      match value with
      | .number q => if decimalPart q ≠ 0 then .error (.decimal q) else .ok ()
      | _ => .error (.expected "integer" type)
    -- the message of the source says boolean here too
    | .float => if type ≠ "number" then .error (.expected "boolean" type) else .ok ()

/-- The message names the component, the plugin and the entry. -/
structure ConfigurationError where
  id : String
  plugin : String
  key : String
  cause : ItemError
  deriving DecidableEq

/-- `config[key]` -/
def readItem (config : Option CoreComponentConfiguration) (key : String) :
    Except ItemError JsValue :=
  match config with
  | none => .error .unreadable
  | some config => .ok ((config.get key).getD .undefined)

def validateEntry (id : String) (plugin : NetPlugin) (config : Option CoreComponentConfiguration)
    (e : String × ConfigItem) : Except ConfigurationError Unit :=
  (readItem config e.1 >>= fun value => validateConfigurationItem value e.2.valueType).mapError
    fun cause => { id, plugin := plugin.module ++ "." ++ plugin.name, key := e.1, cause }

/-- `ComponentHost.validateConfiguration` -/
def validateConfiguration (id : String) (plugin : NetPlugin)
    (config : Option CoreComponentConfiguration) :
    Except ConfigurationError Unit :=
  (plugin.config.entries.mapM (validateEntry id plugin config)).map fun _ => ()

theorem decimalPart_eq_zero {q : ℚ} : decimalPart q = 0 ↔ q.den = 1 := by
  rw [decimalPart, sub_eq_zero]
  constructor
  · intro h
    rw [h]
    exact Rat.den_intCast _
  · intro h
    rw [h, Nat.cast_one, Int.tdiv_one]
    exact (Rat.den_eq_one_iff q).mp h |>.symm

/-- The host accepts a value of a type exactly when the studio does. -/
theorem validateConfigurationItem_ok {value : JsValue} {t : ConfigType} :
    validateConfigurationItem value t = .ok () ↔ t.accepts value = true := by
  cases value with
  | number q =>
    cases t with
    | integer =>
      have h := @decimalPart_eq_zero q
      by_cases hq : q.den = 1
      · simp [validateConfigurationItem, ConfigType.accepts, JsValue.isInteger, h.mpr hq, hq]
      · simp [validateConfigurationItem, ConfigType.accepts, JsValue.isInteger, mt h.mp hq, hq]
    | _ => simp [validateConfigurationItem, ConfigType.accepts, typeof]
  | _ => cases t <;> simp [validateConfigurationItem, ConfigType.accepts, JsValue.isInteger, typeof]

theorem validateConfiguration_ok {id : String} {plugin : NetPlugin}
    {config : CoreComponentConfiguration} (h : ∀ key item, plugin.config.get key = some item →
      item.valueType.accepts ((config.get key).getD .undefined) = true) :
    validateConfiguration id plugin (some config) = .ok () := by
  have hentries : plugin.config.entries.mapM (validateEntry id plugin (some config)) =
      .ok (plugin.config.entries.map fun _ => ()) := by
    refine mapM_ok_of_forall fun e he => ?_
    have hitem := validateConfigurationItem_ok.mpr (h e.1 e.2 (OMap.mem_entries.mp he))
    simp only [validateEntry, readItem, bind, Except.bind, hitem, Except.mapError]
  rw [validateConfiguration, hentries]
  rfl

end MylifeHome.Core
