import MylifeHome.Studio.Core.Import.Diff

/-!
# The updates that a list of changes needs

`import/update-types.ts` and `import/update-builder.ts`. Each change has a root
update; the impact analysis walks from plugins to components, bindings, exports
and the users of templates, and marks every update with the keys of the changes
that need it. `fuel` bounds the depth of the walk.
-/
namespace MylifeHome.Studio.Core.Import

open MylifeHome.Lib

inductive UpdateBody where
  | pluginSet (plugin : PluginImport)
  | pluginClear (pluginId : String)
  | componentSet (component : ComponentImport)
  | componentClear (templateId : Option String) (componentId : String)
  | componentResetConfig (templateId : Option String) (componentId configId : String)
  | componentClearConfig (templateId : Option String) (componentId configId : String)
  | bindingClear (templateId : Option String) (bindingId : String)
  | templateClearExport (templateId : String) (exportType : ExportType) (exportId : String)
  deriving DecidableEq

structure Update where
  objectChangeKeys : List String
  id : String
  dependencies : List String
  body : UpdateBody
  deriving DecidableEq

structure ComputeContext where
  updates : OMap String Update

/-- Statements of the computation. -/
abbrev CM := EStateM Err ComputeContext

namespace ComputeContext

/-- `addObjectKey` stops at an update that has the key already, so that its depth is bounded by
the number of updates. -/
def addObjectKey (key : String) : Nat → String → CM PUnit
  | 0, _ => throw .stackOverflow
  | fuel + 1, updateId => do
    match (← get).updates.get updateId with
    | none => throw .typeError
    | some update =>
      if key ∈ update.objectChangeKeys then pure ⟨⟩
      else
        modify (fun ctx =>
          ⟨ctx.updates.set updateId { update with
            objectChangeKeys := update.objectChangeKeys ++ [key] }⟩)
        forEach update.dependencies (addObjectKey key fuel)

/-- `ensureUpdate`: the creator gives the dependencies of a new update. -/
def ensureUpdate (key : String) (id : String) (body : UpdateBody) (creator : CM (List String)) :
    CM (List String) := do
  if !(← get).updates.has id then
    let dependencies ← creator
    modify (fun ctx =>
      ⟨ctx.updates.set id
        { objectChangeKeys := [], id := id, dependencies := dependencies, body := body }⟩)
  addObjectKey key ((← get).updates.size + 1) id
  return [id]

/-- `copyObjectChangeKey` -/
def copyObjectChangeKey (sourceKey targetKey : String) (ctx : ComputeContext) : ComputeContext :=
  ⟨ctx.updates.mapVal fun update =>
    if sourceKey ∈ update.objectChangeKeys ∧ targetKey ∉ update.objectChangeKeys then
      { update with objectChangeKeys := update.objectChangeKeys ++ [targetKey] }
    else update⟩

def getAllObjectUpdates (ctx : ComputeContext) (changeKey : String) : List Update :=
  ctx.updates.values.filter (fun update => decide (changeKey ∈ update.objectChangeKeys))

end ComputeContext

open ComputeContext

section Compute

variable (s : ProjectModel) (key : String)

/-- `component.ownerTemplate?.id || ''` -/
def ownerPart (v : ViewRef) : String :=
  match v with
  | none => ""
  | some t => (s.templateAt t).id

/-- `getAllBindingsWithMember` -/
def getAllBindingsWithMember (fuel : Nat) (c : Ref) (memberName : String) :
    Except Err (List Ref) := do
  match ← s.getMemberType fuel (s.componentAt c).definition memberName with
  | .state =>
    return (s.componentAt c).bindingsFrom.filter
      (fun b => decide ((s.bindingAt b).data.sourceState = memberName))
  | .action =>
    return (s.componentAt c).bindingsTo.filter
      (fun b => decide ((s.bindingAt b).data.targetAction = memberName))

def bindingClearId (b : Ref) : String :=
  "binding-clear:" ++ ownerPart s (s.bindingAt b).ownerTemplate ++ ":" ++ (s.bindingAt b).id

def computeBindingDelete (b : Ref) : CM (List String) :=
  ensureUpdate key (bindingClearId s b)
    (.bindingClear (s.templateIdOf (s.bindingAt b).ownerTemplate) (s.bindingAt b).id) (pure [])

/-- The member exports of the component's template that name one of its members. -/
def memberExportsOf (c : Ref) (memberName : String) : List (Ref × String) :=
  match (s.componentAt c).ownerTemplate with
  | none => []
  | some t => ((s.templateAt t).exports.members.entries.filter fun e =>
      decide (e.2.component = (s.componentAt c).id ∧ e.2.member = memberName)).map
        (fun e => (t, e.1))

/-- The config exports of the component's template that name one of its config items. -/
def configExportsOf (c : Ref) (configId : String) : List (Ref × String) :=
  match (s.componentAt c).ownerTemplate with
  | none => []
  | some t => ((s.templateAt t).exports.config.entries.filter fun e =>
      decide (e.2.component = (s.componentAt c).id ∧ e.2.configName = configId)).map
        (fun e => (t, e.1))

def componentClearConfigId (c : Ref) (configId : String) : String :=
  "component-clear-config:" ++ ownerPart s (s.componentAt c).ownerTemplate ++ ":" ++
    (s.componentAt c).id ++
    ":" ++ configId

def ExportType.text : ExportType → String
  | .config => "config"
  | .member => "member"

def templateClearExportId (t : Ref) (exportType : ExportType) (exportId : String) : String :=
  "template-clear-export:" ++ (s.templateAt t).id ++ ":" ++ ExportType.text exportType ++ ":" ++
    exportId

mutual

def computeComponentClearConfig : Nat → Ref → String → CM (List String)
  | 0, _, _ => throw .stackOverflow
  | fuel + 1, c, configId =>
    ensureUpdate key (componentClearConfigId s c configId)
      (.componentClearConfig (s.templateIdOf (s.componentAt c).ownerTemplate) (s.componentAt c).id
        configId)
      (collect (configExportsOf s c configId)
        (fun e => computeTemplateExportDelete fuel e.1 .config e.2))

def computeComponentClearMember : Nat → Ref → String → CM (List String)
  | 0, _, _ => throw .stackOverflow
  | fuel + 1, c, memberName => do
    let bindings ← orThrow (getAllBindingsWithMember s fuel c memberName)
    let onBindings ← collect bindings (computeBindingDelete s key)
    let onExports ← collect (memberExportsOf s c memberName)
      (fun e => computeTemplateExportDelete fuel e.1 .member e.2)
    return onBindings ++ onExports

def computeTemplateExportDelete : Nat → Ref → ExportType → String → CM (List String)
  | 0, _, _, _ => throw .stackOverflow
  | fuel + 1, t, exportType, exportId =>
    ensureUpdate key (templateClearExportId s t exportType exportId)
      (.templateClearExport (s.templateAt t).id exportType exportId)
      (collect (s.templateAt t).usage.values (fun c =>
        match exportType with
        | .config => computeComponentClearConfig fuel c exportId
        | .member => computeComponentClearMember fuel c exportId))

end

mutual

/-- Not an update itself, but it can lead to updates on bindings. -/
def computeComponentUpdateMember : Nat → Ref → String → CM (List String)
  | 0, _, _ => throw .stackOverflow
  | fuel + 1, c, memberName => do
    let bindings ← orThrow (getAllBindingsWithMember s fuel c memberName)
    let onBindings ← collect bindings (computeBindingDelete s key)
    let onExports ← collect (memberExportsOf s c memberName)
      (fun e => computeTemplateUpdateMemberExport fuel e.1 e.2)
    return onBindings ++ onExports

def computeTemplateUpdateMemberExport : Nat → Ref → String → CM (List String)
  | 0, _, _ => throw .stackOverflow
  | fuel + 1, t, exportId =>
    collect (s.templateAt t).usage.values (fun c => computeComponentUpdateMember fuel c exportId)

end

def componentResetConfigId (c : Ref) (configId : String) : String :=
  "component-reset-config:" ++ ownerPart s (s.componentAt c).ownerTemplate ++ ":" ++
    (s.componentAt c).id ++
    ":" ++ configId

def computeComponentResetConfigUnsafe (c : Ref) (configId : String) : CM (List String) :=
  ensureUpdate key (componentResetConfigId s c configId)
    (.componentResetConfig (s.templateIdOf (s.componentAt c).ownerTemplate) (s.componentAt c).id
      configId)
    (pure [])

/-- The template and the export to follow on a reset; the empty export id counts as none. -/
def resetThrough (c : Ref) (configId : String) : Option (Ref × String) :=
  match (s.componentAt c).ownerTemplate with
  | none => none
  | some t =>
    match s.findConfigExported t (s.componentAt c).id configId with
    | none => none
    | some exportId => if exportId = "" then none else some (t, exportId)

def computeComponentResetConfig : Nat → Ref → String → CM (List String)
  | 0, _, _ => throw .stackOverflow
  | fuel + 1, c, configId =>
    match resetThrough s c configId with
    | some (t, templateConfigId) =>
      collect (s.templateAt t).usage.values
        (fun x => computeComponentResetConfig fuel x templateConfigId)
    | none => computeComponentResetConfigUnsafe s key c configId

/-- The exports of the component's template that name it. -/
def exportsNaming (c : Ref) : List (Ref × ExportType × String) :=
  match (s.componentAt c).ownerTemplate with
  | none => []
  | some t =>
    ((s.templateAt t).exports.config.entries.filter
      (fun e => decide (e.2.component = (s.componentAt c).id))).map
        (fun e => (t, .config, e.1)) ++
      ((s.templateAt t).exports.members.entries.filter
        (fun e => decide (e.2.component = (s.componentAt c).id))).map
        (fun e => (t, .member, e.1))

def componentClearId (c : Ref) : String :=
  "component-clear:" ++ ownerPart s (s.componentAt c).ownerTemplate ++ ":" ++ (s.componentAt c).id

def computeComponentDelete (fuel : Nat) (c : Ref) : CM (List String) :=
  ensureUpdate key (componentClearId s c)
    (.componentClear (s.templateIdOf (s.componentAt c).ownerTemplate) (s.componentAt c).id)
    (do
      let onBindings ← collect (s.allBindings c) (computeBindingDelete s key)
      let onExports ← collect (exportsNaming s c)
        (fun e => computeTemplateExportDelete s key fuel e.1 e.2.1 e.2.2)
      return onBindings ++ onExports)

def computePluginDelete (fuel : Nat) (p : Ref) : CM (List String) :=
  ensureUpdate key ("plugin-clear:" ++ (s.pluginAt p).id) (.pluginClear (s.pluginAt p).id)
    (collect (s.pluginAt p).usage.values (computeComponentDelete s key fuel))

/-- The dependencies of a `plugin-set` for one changed config item. -/
def computeConfigChange (fuel : Nat) (components : List Ref) (entry : String × ChangeType) :
    CM (List String) :=
  match entry.2 with
  | .add => collect components (fun c => computeComponentResetConfig s key fuel c entry.1)
  | .update => collect components (fun c => computeComponentResetConfig s key fuel c entry.1)
  | .delete => collect components (fun c => computeComponentClearConfig s key fuel c entry.1)

/-- The dependencies of a `plugin-set` for one changed member. -/
def computeMemberChange (fuel : Nat) (p : Ref) (plugin : NetPlugin) (components : List Ref)
    (entry : String × ChangeType) : CM (List String) :=
  match entry.2 with
  | .add => pure []
  | .update => do
    let actualMember ← orThrow (s.pluginMember p entry.1)
    match plugin.members.get entry.1 with
    | none => throw .typeError
    | some newMember =>
      if actualMember.memberType ≠ newMember.memberType ∨
        actualMember.valueType ≠ newMember.valueType then
        collect components (fun c => computeComponentUpdateMember s key fuel c entry.1)
      else pure []
  | .delete => collect components (fun c => computeComponentClearMember s key fuel c entry.1)

def computePluginSet (fuel : Nat) (importData : PluginImport) (change : ObjectChange)
    (config members : OMap String ChangeType) : CM (List String) :=
  ensureUpdate key ("plugin-set:" ++ importData.id) (.pluginSet importData)
    (if change.changeType = .update then do
      let p ← orThrow (s.getPlugin change.id)
      let components := (s.pluginAt p).usage.values
      let onConfig ← collect config.entries (computeConfigChange s key fuel components)
      let onMembers ← collect members.entries
        (computeMemberChange s key fuel p importData.plugin components)
      return onConfig ++ onMembers
    else pure [])

/-- A component that the dry run rejects, for whatever reason, is ignored. -/
def computeComponentSet (fuel : Nat) (importData : ComponentImport) : CM (List String) :=
  let accepted := s.hasComponent none importData.id ||
    match (s.buildNamingDryRunEngine.setComponent none importData.id none).validate fuel with
    | .ok _ => true
    | .error _ => false
  if accepted then
    ensureUpdate key ("component-set::" ++ importData.id) (.componentSet importData) (pure [])
  else pure []

end Compute

/-- The switch of `computeUpdates` on one change. -/
def computeChange (fuel : Nat) (imports : ImportData) (s : ProjectModel) (change : ObjectChange) :
    CM (List String) :=
  match change.body, change.changeType with
  | .component .., .delete => do
    let c ← orThrow (s.getComponent none change.id)
    computeComponentDelete s change.key fuel c
  | .component .., _ =>
    match imports.components.find? (fun item => decide (item.id = change.id)) with
    | none => throw .typeError
    | some importData => computeComponentSet s change.key fuel importData
  | .plugin .., .delete => do
    let p ← orThrow (s.getPlugin change.id)
    computePluginDelete s change.key fuel p
  | .plugin _ _ _ _ config members, _ =>
    match imports.plugins.find? (fun item => decide (item.id = change.id)) with
    | none => throw .typeError
    | some importData => computePluginSet s change.key fuel importData change config members
  | .template exportType exportId, .update => do
    let t ← orThrow (s.getTemplate change.id)
    -- The root operation: the exported config goes back to the component itself.
    match exportType with
    | .config =>
      match (s.templateAt t).exports.config.get exportId with
      | none => throw .typeError
      | some item =>
        let c ← orThrow (s.getComponent (some t) item.component)
        discard (computeComponentResetConfigUnsafe s change.key c item.configName)
    | .member => pure ⟨⟩
    computeTemplateExportDelete s change.key fuel t exportType exportId
  | .template .., .add =>
    throw (.error "Change type 'add' on object type 'template' is not supported.")
  | .template .., .delete =>
    throw (.error "Change type 'delete' on object type 'template' is not supported.")

def computeUpdates (fuel : Nat) (imports : ImportData) (s : ProjectModel)
    (changes : List ObjectChange) : CM PUnit :=
  forEach changes (fun change => discard (computeChange fuel imports s change))

/-! ## Impacts -/

inductive ObjectType where
  | component
  | plugin
  | template
  deriving DecidableEq

def ChangeBody.objectType : ChangeBody → ObjectType
  | .plugin .. => .plugin
  | .component .. => .component
  | .template .. => .template

namespace ImpactsBuilder

abbrev Impacts := OMap String Impact

def isRootUpdate (change : ObjectChange) (changeTypes : List ChangeType) (objectType : ObjectType)
    (changeId : String) : Bool :=
  decide (change.changeType ∈ changeTypes ∧ change.body.objectType = objectType ∧
    change.id = changeId)

/-- The message quotes the update as JSON, which is left out. -/
def ensureRootUpdate (change : ObjectChange) (changeTypes : List ChangeType)
    (objectType : ObjectType) (changeId : String) (impacts : Impacts) : Except Err Impacts :=
  if isRootUpdate change changeTypes objectType changeId then .ok impacts
  else .error (.error "Unexpected update found on change computation: ")

def addComponentConfig (impacts : Impacts) (type : ChangeType) (templateId : Option String)
    (componentId configId : String) : Impacts :=
  let id := "component-config::" ++ templateId.getD "" ++ ":" ++ componentId
  match impacts.get id with
  | some (.componentConfig templateId componentId config) =>
    impacts.set id (.componentConfig templateId componentId (config.set configId type))
  | _ => impacts.set id (.componentConfig templateId componentId
    ((∅ : OMap String ChangeType).set configId type))

def addComponentClear (change : ObjectChange) (impacts : Impacts) (templateId : Option String)
    (componentId : String) : Impacts :=
  let id := "component-delete:" ++ templateId.getD "" ++ ":" ++ componentId
  if decide (templateId = none) && isRootUpdate change [.delete] .component componentId then impacts
  else if impacts.has id then impacts
  else impacts.set id (.componentDelete templateId componentId)

def addBindingClear (impacts : Impacts) (templateId : Option String) (bindingId : String) :
    Impacts :=
  let id := "binding-delete:" ++ templateId.getD "" ++ ":" ++ bindingId
  if impacts.has id then impacts else impacts.set id (.bindingDelete templateId bindingId)

/-- The lists of an impact on the exports of a template, with one more export. -/
def insertExport (exportType : ExportType) (exportId : String)
    (configExportDeletes memberExportDeletes : List String) :
    List String × List String :=
  match exportType with
  | .config => (if exportId ∈ configExportDeletes then configExportDeletes
      else configExportDeletes ++ [exportId], memberExportDeletes)
  | .member => (configExportDeletes, if exportId ∈ memberExportDeletes then memberExportDeletes
      else memberExportDeletes ++ [exportId])

def addTemplateClearExport (change : ObjectChange) (impacts : Impacts) (templateId : String)
    (exportType : ExportType) (exportId : String) : Impacts :=
  let id := "template-export:" ++ templateId
  if isRootUpdate change [.update] .template templateId then impacts
  else
    let lists :=
      match impacts.get id with
      | some (.templateExport _ configExportDeletes memberExportDeletes) =>
        insertExport exportType exportId configExportDeletes memberExportDeletes
      | _ => insertExport exportType exportId [] []
    impacts.set id (.templateExport templateId lists.1 lists.2)

def add (change : ObjectChange) (impacts : Impacts) (update : Update) : Except Err Impacts :=
  match update.body with
  | .pluginSet plugin => ensureRootUpdate change [.add, .update] .plugin plugin.id impacts
  | .pluginClear pluginId => ensureRootUpdate change [.delete] .plugin pluginId impacts
  | .componentSet component =>
    ensureRootUpdate change [.add, .update] .component component.id impacts
  | .componentClear templateId componentId =>
    .ok (addComponentClear change impacts templateId componentId)
  | .componentResetConfig templateId componentId configId =>
    .ok (addComponentConfig impacts .update templateId componentId configId)
  | .componentClearConfig templateId componentId configId =>
    .ok (addComponentConfig impacts .delete templateId componentId configId)
  | .bindingClear templateId bindingId => .ok (addBindingClear impacts templateId bindingId)
  | .templateClearExport templateId exportType exportId =>
    .ok (addTemplateClearExport change impacts templateId exportType exportId)

end ImpactsBuilder

def computeObjectImpacts (ctx : ComputeContext) (changes : List ObjectChange) :
    Except Err (List ObjectChange) :=
  changes.mapM fun change => do
    let impacts ← (ctx.getAllObjectUpdates change.key).foldlM (ImpactsBuilder.add change) ∅
    return { change with impacts := impacts.values }

def applyObjectDependencies (ctx : ComputeContext) (changes : List ObjectChange) : ComputeContext :=
  changes.foldl
    (fun ctx change => change.dependencies.foldl
      (fun ctx sourceKey => ctx.copyObjectChangeKey sourceKey change.key) ctx)
    ctx

/-- `buildUpdates`: the updates, and the changes with their impacts. -/
def buildUpdates (fuel : Nat) (imports : ImportData) (s : ProjectModel)
    (changes : List ObjectChange) :
    Except Err (List Update × List ObjectChange) :=
  match (computeUpdates fuel imports s changes).run ⟨∅⟩ with
  | .error e _ => .error e
  | .ok _ ctx => do
    let changes ← computeObjectImpacts ctx changes
    return ((applyObjectDependencies ctx changes).updates.values, changes)

end MylifeHome.Studio.Core.Import
