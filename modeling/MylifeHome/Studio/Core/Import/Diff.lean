import MylifeHome.Studio.Core.Editing

/-!
# What an import changes

`import/load.ts` (the imported data) and `import/diff.ts`: the list of changes
that `prepareChanges` finds between the imported plugins and components and the
model.
-/
namespace MylifeHome.Studio.Core.Import

open MylifeHome.Lib

structure PluginImport where
  id : String
  instanceName : String
  plugin : NetPlugin
  deriving DecidableEq

structure ComponentImport where
  id : String
  pluginId : String
  external : Bool
  config : Option CoreComponentConfiguration
  deriving DecidableEq

structure ImportData where
  plugins : List PluginImport
  components : List ComponentImport

inductive ChangeType where
  | add
  | update
  | delete
  deriving DecidableEq, Repr

inductive Impact where
  | bindingDelete (templateId : Option String) (bindingId : String)
  | componentDelete (templateId : Option String) (componentId : String)
  | componentConfig (templateId : Option String) (componentId : String)
    (config : OMap String ChangeType)
  | templateExport (templateId : String) (configExportDeletes memberExportDeletes : List String)

/-- The fields of the three kinds of change. A name or a value that the source
leaves `null` or `undefined` is missing. -/
inductive ChangeBody where
  | plugin (instanceName : String) (before after : Option String) (usage : Option PluginUsage)
      (config members : OMap String ChangeType)
  | component (instanceName : Option String) (config : OMap String (ChangeType × Option JsValue))
      (external : Option Bool) (pluginId : Option String)
  | template (exportType : ExportType) (exportId : String)

structure ObjectChange where
  key : String
  id : String
  changeType : ChangeType
  body : ChangeBody
  dependencies : List String := []
  impacts : List Impact := []

def ChangeBody.isPlugin : ChangeBody → Bool
  | .plugin .. => true
  | _ => false

def ChangeBody.isComponent : ChangeBody → Bool
  | .component .. => true
  | _ => false

section LookupObjectChanges

variable {V C : Type} (equalityComparer : V → V → Bool)
    (changesFormatter : ChangeType → Option V → C)

/-- The loop over the imported entries. -/
def lookupImported (objectModel objectImport : OMap String V) : OMap String C :=
  OMap.putEach
    (fun name valueImport =>
      match objectModel.get name with
      | none => some (changesFormatter .add (some valueImport))
      | some valueModel =>
        if equalityComparer valueModel valueImport then none
        else some (changesFormatter .update (some valueImport)))
    objectImport ∅

def lookupObjectChanges (objectModel objectImport : OMap String V) : OMap String C :=
  OMap.putEach
    (fun name _ => if objectImport.has name then none else some (changesFormatter .delete none))
    objectModel (lookupImported equalityComparer changesFormatter objectModel objectImport)

end LookupObjectChanges

def memberEqualityComparer (memberModel memberImport : NetMember) : Bool :=
  decide (memberModel.memberType = memberImport.memberType ∧
    memberModel.valueType = memberImport.valueType ∧
    memberModel.description = memberImport.description)

def configEqualityComparer (configModel configImport : ConfigItem) : Bool :=
  decide (configModel.valueType = configImport.valueType ∧ configModel.description =
    configImport.description)

/-- The `config` of `buildPluginMembersAndConfigChanges`. -/
def pluginConfigChanges (configModel configImport : OMap String ConfigItem) :
    OMap String ChangeType :=
  lookupObjectChanges configEqualityComparer (fun type _ => type) configModel configImport

/-- The `members` of `buildPluginMembersAndConfigChanges`. -/
def pluginMembersChanges (membersModel membersImport : OMap String NetMember) :
    OMap String ChangeType :=
  lookupObjectChanges memberEqualityComparer (fun type _ => type) membersModel membersImport

def componentConfigChanges (configModel configImport : Option CoreComponentConfiguration) :
    OMap String (ChangeType × Option JsValue) :=
  lookupObjectChanges JsValue.objectIs Prod.mk (configModel.getD ∅) (configImport.getD ∅)

/-! ## Plugins -/

def arePluginsEqual (s : ProjectModel) (p : Ref) (pluginImport : PluginImport) : Bool :=
  let o := s.pluginAt p
  decide ((s.instanceAt o.instance).instanceName = pluginImport.instanceName ∧
    o.data.module = pluginImport.plugin.module ∧ o.data.name = pluginImport.plugin.name ∧
    o.data.version = pluginImport.plugin.version)

def addPluginChange (pluginImport : PluginImport) : ObjectChange where
  key := "plugin-set:" ++ pluginImport.id
  id := pluginImport.id
  changeType := .add
  body := .plugin pluginImport.instanceName none (some pluginImport.plugin.version)
    (some pluginImport.plugin.usage) (pluginConfigChanges ∅ pluginImport.plugin.config)
    (pluginMembersChanges ∅ pluginImport.plugin.members)

def updatePluginChange (s : ProjectModel) (p : Ref) (pluginImport : PluginImport) : ObjectChange :=
  let o := s.pluginAt p
  { key := "plugin-set:" ++ o.id
    id := o.id
    changeType := .update
    body := .plugin (s.instanceAt o.instance).instanceName (some o.data.version)
      (some pluginImport.plugin.version)
      (if o.data.usage ≠ pluginImport.plugin.usage then some pluginImport.plugin.usage else none)
      (pluginConfigChanges o.data.config pluginImport.plugin.config)
      (pluginMembersChanges o.data.members pluginImport.plugin.members) }

def removePluginChange (s : ProjectModel) (p : Ref) : ObjectChange :=
  let o := s.pluginAt p
  { key := "plugin-clear:" ++ o.id
    id := o.id
    changeType := .delete
    body := .plugin (s.instanceAt o.instance).instanceName (some o.data.version) none none ∅ ∅ }

/-- The round of the loop over the imported plugins. -/
def pluginImportChange (s : ProjectModel) (pluginImport : PluginImport) : List ObjectChange :=
  match s.findPlugin pluginImport.id with
  | none => [addPluginChange pluginImport]
  | some p => if arePluginsEqual s p pluginImport then [] else [updatePluginChange s p pluginImport]

def preparePluginUpdates (imports : ImportData) (s : ProjectModel) : List ObjectChange :=
  imports.plugins.flatMap (pluginImportChange s) ++
    (s.plugins.entries.filter (fun e => decide (e.1 ∉ imports.plugins.map PluginImport.id))).map
      (fun e => removePluginChange s e.2)

/-! ## Components -/

/-- The comparison of two configurations that are both there. -/
def areConfigsEqual (configModel configImport : CoreComponentConfiguration) : Bool :=
  decide (configModel.size = configImport.size) &&
    configModel.entries.all fun e =>
      match configImport.get e.1 with
      | none => false
      | some valueImport => JsValue.objectIs e.2 valueImport

def areComponentsEqual (s : ProjectModel) (c : Ref) (componentImport : ComponentImport) : Bool :=
  let o := s.componentAt c
  decide (o.id = componentImport.id) &&
    (match o.definition with
      | .plugin p => decide ((s.pluginAt p).id = componentImport.pluginId)
      | .template _ => false) &&
    decide (o.data.external = componentImport.external) &&
    match o.data.config, componentImport.config with
    | none, none => true
    | some configModel, some configImport => areConfigsEqual configModel configImport
    | _, _ => false

/-- `pluginImportsInstances`: the instances of the imported plugins. -/
def pluginImportsInstances (imports : ImportData) : OMap String String :=
  imports.plugins.foldl (fun m p => m.set p.id p.instanceName) ∅

/-- The ids imported in each instance; a component of an unknown plugin has none. -/
def componentsImportsByInstanceName (imports : ImportData) : OMap (Option String) (List String) :=
  imports.components.foldl
    (fun m componentImport =>
      let instanceName := (pluginImportsInstances imports).get componentImport.pluginId
      m.set instanceName ((m.get instanceName).getD [] ++ [componentImport.id]))
    ∅

def getInstanceName (s : ProjectModel) (c : Ref) : String :=
  match (s.componentAt c).definition with
  | .plugin p => (s.instanceAt (s.pluginAt p).instance).instanceName
  | .template _ => "<Templates>"

def addComponentChange (componentImport : ComponentImport) (instanceName : Option String) :
    ObjectChange where
  key := "component-set:" ++ componentImport.id
  id := componentImport.id
  changeType := .add
  body := .component instanceName (componentConfigChanges none componentImport.config)
    (some componentImport.external) (some componentImport.pluginId)

def updateComponentChange (s : ProjectModel) (c : Ref) (componentImport : ComponentImport) :
    ObjectChange :=
  let o := s.componentAt c
  let samePlugin :=
    match o.definition with
    | .plugin p => decide ((s.pluginAt p).id = componentImport.pluginId)
    | .template _ => false
  { key := "component-set:" ++ o.id
    id := o.id
    changeType := .update
    body := .component (some (getInstanceName s c))
      (componentConfigChanges o.data.config componentImport.config)
      (if o.data.external ≠ componentImport.external then some componentImport.external else none)
      (if samePlugin then none else some componentImport.pluginId) }

def removeComponentChange (s : ProjectModel) (c : Ref) : ObjectChange where
  key := "component-clear:" ++ (s.componentAt c).id
  id := (s.componentAt c).id
  changeType := .delete
  body := .component (some (getInstanceName s c)) ∅ none none

def componentImportChange (imports : ImportData) (s : ProjectModel)
    (componentImport : ComponentImport) :
    List ObjectChange :=
  match (s.views none).components.get componentImport.id with
  | none => [addComponentChange componentImport
    ((pluginImportsInstances imports).get componentImport.pluginId)]
  | some c => if areComponentsEqual s c componentImport then []
    else [updateComponentChange s c componentImport]

/-- The components of one imported instance that are not imported. -/
def removedComponents (s : ProjectModel) (entry : Option String × List String) : List Ref :=
  match entry.1.bind s.instances.get with
  | none => []
  | some i => (s.instanceAt i).usage.values.filter (fun c =>
      decide ((s.componentAt c).ownerTemplate = none ∧ (s.componentAt c).id ∉ entry.2))

def prepareComponentUpdates (imports : ImportData) (s : ProjectModel) : List ObjectChange :=
  imports.components.flatMap (componentImportChange imports s) ++
    (componentsImportsByInstanceName imports).entries.flatMap
      (fun e => (removedComponents s e).map (removeComponentChange s))

/-! ## All changes -/

def pluginsChangesKeyById (changes : List ObjectChange) : OMap String String :=
  (changes.filter (fun change => change.body.isPlugin)).foldl
    (fun m change => m.set change.id change.key) ∅

def componentsImports (imports : ImportData) : OMap String ComponentImport :=
  imports.components.foldl (fun m componentImport => m.set componentImport.id componentImport) ∅

/-- `lookupDependencies`: the set of a component comes with the change of its plugin. -/
def lookupDependencies (imports : ImportData) (changes : List ObjectChange) : List ObjectChange :=
  changes.map fun change =>
    if change.body.isComponent && decide (change.changeType ≠ .delete) then
      match (componentsImports imports).get change.id with
      | none => change
      | some componentImport =>
        match (pluginsChangesKeyById changes).get componentImport.pluginId with
        | none => change
        | some pluginKey => { change with dependencies := change.dependencies ++ [pluginKey] }
    else change

def prepareChanges (imports : ImportData) (s : ProjectModel) : List ObjectChange :=
  lookupDependencies imports (preparePluginUpdates imports s ++ prepareComponentUpdates imports s)

end MylifeHome.Studio.Core.Import
