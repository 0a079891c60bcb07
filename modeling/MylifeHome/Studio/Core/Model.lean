import MylifeHome.Studio.Core.Data

/-!
# The object graph of an opened core project

The classes of `core/model` are records in a heap addressed by references, with
the maps they keep of each other. The persisted project is a second set of maps
over the same references: each data object belongs to one model object, and is
read through it. A view is the project (`none`) or a template.
-/
namespace MylifeHome.Studio.Core

open MylifeHome.Lib

abbrev Ref := Nat

/-- A `ComponentDefinitionModel`. -/
inductive DefRef where
  | plugin (p : Ref)
  | template (t : Ref)
  deriving DecidableEq

/-- The project itself, or a template. -/
abbrev ViewRef := Option Ref

structure InstanceModel where
  instanceName : String := ""
  usage : OMap String Ref := ∅
  plugins : OMap String Ref := ∅

structure PluginModel where
  «instance» : Ref
  id : String
  data : CorePluginData
  usage : OMap String Ref

structure TemplateModel where
  id : String := ""
  usage : OMap String Ref := ∅
  «exports» : CoreTemplateExports := { config := ∅, members := ∅ }

/-- `bindingsFrom` and `bindingsTo` are sets, kept in insertion order. -/
structure ComponentModel where
  definition : DefRef
  ownerTemplate : ViewRef
  id : String
  data : CoreComponentData
  bindingsFrom : List Ref
  bindingsTo : List Ref

structure BindingModel where
  ownerTemplate : ViewRef
  id : String
  data : CoreBindingData
  sourceComponent : Ref
  targetComponent : Ref

/-- `components` and `bindings` are the maps of the model, `dataComponents` and
`dataBindings` those of the view's `data`. -/
structure ViewModel where
  components : OMap String Ref := ∅
  bindings : OMap String Ref := ∅
  dataComponents : OMap String Ref := ∅
  dataBindings : OMap String Ref := ∅

structure ProjectModel where
  instances : OMap String Ref
  plugins : OMap String Ref
  templates : OMap String Ref
  dataPlugins : OMap String Ref
  dataTemplates : OMap String Ref
  views : ViewRef → ViewModel
  instanceAt : Ref → InstanceModel
  pluginAt : Ref → PluginModel
  templateAt : Ref → TemplateModel
  componentAt : Ref → ComponentModel
  bindingAt : Ref → BindingModel
  nextRef : Ref

instance : Inhabited CorePluginData :=
  ⟨{ name := "", module := "", usage := .logic, version := "", description := "", members := ∅,
     config := ∅, instanceName := "", toolboxDisplay := .show }⟩

instance : Inhabited CoreComponentData :=
  ⟨{ definition := { type := .plugin, id := "" }, position := { x := 0, y := 0 }, config := none,
     external := false }⟩

namespace ProjectModel

/-- The heap before any object exists; its records are never read. -/
def empty : ProjectModel where
  instances := ∅
  plugins := ∅
  templates := ∅
  dataPlugins := ∅
  dataTemplates := ∅
  views := fun _ => {}
  instanceAt := fun _ => {}
  pluginAt := fun _ => { «instance» := 0, id := "", data := default, usage := ∅ }
  templateAt := fun _ => {}
  componentAt := fun _ =>
    { definition := .plugin 0, ownerTemplate := none, id := "", data := default, bindingsFrom := [],
      bindingsTo := [] }
  bindingAt := fun _ =>
    { ownerTemplate := none, id := "", data := ⟨"", "", "", ""⟩, sourceComponent := 0,
      targetComponent := 0 }
  nextRef := 0

variable (s : ProjectModel)

def updView (v : ViewRef) (f : ViewModel → ViewModel) : ProjectModel :=
  { s with views := Function.update s.views v (f (s.views v)) }

def updInstance (r : Ref) (f : InstanceModel → InstanceModel) : ProjectModel :=
  { s with instanceAt := Function.update s.instanceAt r (f (s.instanceAt r)) }

def updPlugin (r : Ref) (f : PluginModel → PluginModel) : ProjectModel :=
  { s with pluginAt := Function.update s.pluginAt r (f (s.pluginAt r)) }

def updTemplate (r : Ref) (f : TemplateModel → TemplateModel) : ProjectModel :=
  { s with templateAt := Function.update s.templateAt r (f (s.templateAt r)) }

def updComponent (r : Ref) (f : ComponentModel → ComponentModel) : ProjectModel :=
  { s with componentAt := Function.update s.componentAt r (f (s.componentAt r)) }

def updBinding (r : Ref) (f : BindingModel → BindingModel) : ProjectModel :=
  { s with bindingAt := Function.update s.bindingAt r (f (s.bindingAt r)) }

/-! ## Lookups -/

def findPlugin (id : String) : Option Ref := s.plugins.get id

def getPlugin (id : String) : Except Err Ref :=
  match s.plugins.get id with
  | some p => .ok p
  | none => .error (.error ("Instance '" ++ id ++ "' does not exist"))

def getInstance (instanceName : String) : Except Err Ref :=
  match s.instances.get instanceName with
  | some i => .ok i
  | none => .error (.error ("Instance '" ++ instanceName ++ "' does not exist"))

def hasTemplate (id : String) : Bool := s.templates.has id

def getTemplate (id : String) : Except Err Ref :=
  match s.templates.get id with
  | some t => .ok t
  | none => .error (.error ("Template '" ++ id ++ "' does not exist"))

/-- `templateId ? this.getTemplate(templateId) : this`; the empty text is false. -/
def getTemplateOrSelf (templateId : Option String) : Except Err ViewRef :=
  match templateId with
  | none => .ok none
  | some id => if id = "" then .ok none else (s.getTemplate id).map some

/-- `view?.id || null` of an owner template. -/
def templateIdOf (v : ViewRef) : Option String :=
  match v with
  | none => none
  | some t => if (s.templateAt t).id = "" then none else some (s.templateAt t).id

def hasComponent (v : ViewRef) (id : String) : Bool := (s.views v).components.has id

def getComponent (v : ViewRef) (id : String) : Except Err Ref :=
  match (s.views v).components.get id with
  | some c => .ok c
  | none => .error (.error ("Component '" ++ id ++ "' does not exist"))

def getDefinition (data : CoreComponentDefinition) : Except Err DefRef :=
  match data.type with
  | .plugin => (s.getPlugin data.id).map .plugin
  | .template => (s.getTemplate data.id).map .template

/-! ## Usage -/

/-- Rewrite the `usage` of a definition; a plugin hands the call on to its instance. -/
def mapUsage (d : DefRef) (f : OMap String Ref → OMap String Ref) : ProjectModel :=
  { s with
    pluginAt := match d with
      | .plugin p => Function.update s.pluginAt p { s.pluginAt p with
        usage := f (s.pluginAt p).usage }
      | .template _ => s.pluginAt
    instanceAt := match d with
      | .plugin p =>
        let i := (s.pluginAt p).instance
        Function.update s.instanceAt i { s.instanceAt i with usage := f (s.instanceAt i).usage }
      | .template _ => s.instanceAt
    templateAt := match d with
      | .plugin _ => s.templateAt
      | .template t => Function.update s.templateAt t { s.templateAt t with
        usage := f (s.templateAt t).usage } }

/-- `definition.registerUsage(component)` -/
def registerUsage (d : DefRef) (c : Ref) : ProjectModel :=
  s.mapUsage d (fun usage => usage.set (s.componentAt c).id c)

/-- `definition.unregisterUsage(id)` -/
def unregisterUsage (d : DefRef) (id : String) : ProjectModel :=
  s.mapUsage d (fun usage => usage.delete id)

/-- `getAllUsage` -/
def usage (d : DefRef) : OMap String Ref :=
  match d with
  | .plugin p => (s.pluginAt p).usage
  | .template t => (s.templateAt t).usage

/-- `used` -/
def used (d : DefRef) : Bool := decide (0 < (s.usage d).size)

def definitionId (d : DefRef) : String :=
  match d with
  | .plugin p => (s.pluginAt p).id
  | .template t => (s.templateAt t).id

/-- `getAllBindings` -/
def allBindings (c : Ref) : List Ref :=
  (s.componentAt c).bindingsFrom ++ (s.componentAt c).bindingsTo

/-! ## Objects -/

def newInstance (o : InstanceModel) : ProjectModel :=
  { s with instanceAt := Function.update s.instanceAt s.nextRef o, nextRef := s.nextRef + 1 }

def newPlugin (o : PluginModel) : ProjectModel :=
  { s with pluginAt := Function.update s.pluginAt s.nextRef o, nextRef := s.nextRef + 1 }

/-- The maps of a new template are empty. -/
def newTemplate (o : TemplateModel) : ProjectModel :=
  { s with
    templateAt := Function.update s.templateAt s.nextRef o
    views := Function.update s.views (some s.nextRef) {}
    nextRef := s.nextRef + 1 }

def newComponent (o : ComponentModel) : ProjectModel :=
  { s with componentAt := Function.update s.componentAt s.nextRef o, nextRef := s.nextRef + 1 }

def newBinding (o : BindingModel) : ProjectModel :=
  { s with bindingAt := Function.update s.bindingAt s.nextRef o, nextRef := s.nextRef + 1 }

end ProjectModel

end MylifeHome.Studio.Core
