import MylifeHome.Studio.Core.Import.UpdateApply

/-!
# Opened projects

`new ProjectModel(data)`, the `data` that a model writes, and the editing calls
of `CoreOpenedProject`. The notifications to the sessions are left out.
-/
namespace MylifeHome.Studio.Core

open MylifeHome.Lib MylifeHome.Lib.Program MylifeHome.Studio.Core.Import

namespace ProjectModel

/-- `registerComponent` on an entry of the data. -/
def initComponent (v : ViewRef) (e : String × CoreComponentData) : M PUnit := do
  let d ← orThrow ((← read).getDefinition e.2.definition)
  perform (.initComponent v e.1 d e.2)

/-- `registerBinding` on an entry of the data, which stays under the key it was found at. -/
def initBinding (v : ViewRef) (e : String × CoreBindingData) : M PUnit := do
  let source ← orThrow ((← read).getComponent v e.2.sourceComponent)
  let target ← orThrow ((← read).getComponent v e.2.targetComponent)
  perform (.initBinding v e.1 e.2 source target)

/-- `ViewModel.init` -/
def initView (v : ViewRef) (data : CoreView) : M PUnit := do
  forEach data.components.entries (initComponent v)
  forEach data.bindings.entries (initBinding v)

/-- The constructor of `ProjectModel`. -/
def construct (data : CoreProject) : M PUnit := do
  forEach data.plugins.entries (fun e => perform (.addPlugin e.1 e.2))
  forEach data.templates.entries (fun e => perform (.addTemplate e.1 e.2.exports))
  initView none data.toCoreView
  forEach data.templates.entries (fun e => do
    let t ← orThrow ((← read).getTemplate e.1)
    initView (some t) e.2.toCoreView)

/-- `new ProjectModel(data)` -/
def load (data : CoreProject) : Except Err ProjectModel :=
  match (construct data).run empty with
  | .ok _ s => .ok s
  | .error e _ => .error e

end ProjectModel

inductive ToolboxItemType where
  | «instance»
  | plugin
  deriving DecidableEq

inductive ToolboxAction where
  | display (wanted : CoreToolboxDisplay)
  | delete
  deriving DecidableEq

/-- The editing calls of `CoreOpenedProject`. A missing template id is the project. -/
inductive Call where
  | updateToolbox (itemType : ToolboxItemType) (itemId : String) (action : ToolboxAction)
  | setTemplate (templateId : String)
  | clearTemplate (templateId : String)
  | renameTemplate (templateId newId : String)
  | setTemplateExport (templateId : String) (exportType : ExportType)
    (exportId componentId propertyName : String)
  | setComponent (templateId : Option String) (componentId : String)
    (definition : CoreComponentDefinition)
      (position : Position)
  | moveComponents (templateId : Option String) (componentsIds : List String) (delta : Position)
  | configureComponent (templateId : Option String) (componentId configId : String)
    (configValue : JsValue)
  | renameComponent (templateId : Option String) (componentId newId : String)
  | clearComponents (templateId : Option String) (componentsIds : List String)
  | copyComponentsToTemplate (templateId : Option String) (componentsIds : List String)
      (targetTemplateId : Option String)
  | setBinding (templateId : Option String) (binding : CoreBindingData)
  | clearBinding (templateId : Option String) (bindingId : String)
  | applyBulkUpdates (selection : List String) (updates : List Update)

namespace CoreOpenedProject

def updateToolboxInstance (id : String) (action : ToolboxAction) : M PUnit := do
  let i ← orThrow ((← read).getInstance id)
  match action with
  | .display wanted => InstanceModel.updateAllPluginsDisplay i wanted
  | .delete =>
    forEach (InstanceModel.getAllUnusedPluginIds (← read) i)
      (fun id => ProjectModel.deletePlugin (.deletePlugin id) id)

def updateToolboxPlugin (id : String) (action : ToolboxAction) : M PUnit := do
  let p ← orThrow ((← read).getPlugin id)
  match action with
  | .display wanted => PluginModel.updateDisplay p wanted
  | .delete =>
    throwIf ((← read).used (.plugin p))
      (.error ("Impossible de supprimer le plugin '" ++ ((← read).pluginAt p).id ++
        "' car il est utilisé"))
    let pluginId := ((← read).pluginAt p).id
    ProjectModel.deletePlugin (.deletePlugin pluginId) pluginId

def updateToolbox (itemType : ToolboxItemType) (itemId : String) (action : ToolboxAction) :
    M PUnit :=
  match itemType with
  | .instance => updateToolboxInstance itemId action
  | .plugin => updateToolboxPlugin itemId action

def setTemplateExport (fuel : Nat) (templateId : String) (exportType : ExportType)
    (exportId componentId propertyName : String) : M PUnit := do
  let t ← orThrow ((← read).getTemplate templateId)
  TemplateModel.setExport fuel t exportType exportId componentId propertyName

def setComponent (fuel : Nat) (templateId : Option String) (componentId : String)
    (definition : CoreComponentDefinition) (position : Position) : M PUnit := do
  let v ← orThrow ((← read).getTemplateOrSelf templateId)
  ViewRef.setComponent fuel v componentId definition position

def moveComponents (templateId : Option String) (componentsIds : List String) (delta : Position) :
    M PUnit := do
  let v ← orThrow ((← read).getTemplateOrSelf templateId)
  forEach componentsIds (fun componentId => do
    let c ← orThrow ((← read).getComponent v componentId)
    ComponentModel.move c delta)

def configureComponent (fuel : Nat) (templateId : Option String) (componentId configId : String)
    (configValue : JsValue) : M PUnit := do
  let v ← orThrow ((← read).getTemplateOrSelf templateId)
  let c ← orThrow ((← read).getComponent v componentId)
  ComponentModel.configure fuel c configId configValue

def renameComponent (fuel : Nat) (templateId : Option String) (componentId newId : String) :
    M PUnit := do
  let v ← orThrow ((← read).getTemplateOrSelf templateId)
  let _ ← orThrow ((← read).getComponent v componentId)
  ViewModel.renameComponent fuel v componentId newId

/-- A binding that an earlier round removed from the set is not visited. -/
def clearVisited (v : ViewRef) (visited : ProjectModel → List Ref) (b : Ref) : M PUnit := do
  if b ∈ visited (← read) then ViewModel.clearBinding v ((← read).bindingAt b).id

/-- The second loop of `clearComponents`. The sets of bindings shrink while they are walked. -/
def clearWithBindings (v : ViewRef) (componentId : String) : M PUnit := do
  let c ← orThrow ((← read).getComponent v componentId)
  forEach ((← read).componentAt c).bindingsFrom
    (clearVisited v (fun s => (s.componentAt c).bindingsFrom))
  forEach ((← read).componentAt c).bindingsTo
    (clearVisited v (fun s => (s.componentAt c).bindingsTo))
  ViewRef.clearComponent (.clearComponent v) v componentId

def clearComponents (templateId : Option String) (componentsIds : List String) : M PUnit := do
  let v ← orThrow ((← read).getTemplateOrSelf templateId)
  forEach componentsIds (fun componentId => do
    let c ← orThrow ((← read).getComponent v componentId)
    ComponentModel.checkDelete c)
  forEach componentsIds (clearWithBindings v)

def copyComponentsToTemplate (fuel : Nat) (templateId : Option String) (componentsIds : List String)
    (targetTemplateId : Option String) : M PUnit := do
  let v ← orThrow ((← read).getTemplateOrSelf templateId)
  let target ← orThrow ((← read).getTemplateOrSelf targetTemplateId)
  ViewModel.copyTo fuel v componentsIds target

def setBinding (fuel : Nat) (templateId : Option String) (binding : CoreBindingData) : M PUnit := do
  let v ← orThrow ((← read).getTemplateOrSelf templateId)
  ViewModel.setBinding fuel v binding

def clearBinding (templateId : Option String) (bindingId : String) : M PUnit := do
  let v ← orThrow ((← read).getTemplateOrSelf templateId)
  ViewModel.clearBinding v bindingId

def applyBulkUpdates (fuel : Nat) (selection : List String) (updates : List Update) : M PUnit :=
  discard (applyUpdates fuel updates selection)

/-- `call`, on the editing calls. -/
def call (fuel : Nat) : Call → M PUnit
  | .updateToolbox itemType itemId action => updateToolbox itemType itemId action
  | .setTemplate templateId => ProjectModel.setTemplate templateId
  | .clearTemplate templateId => ProjectModel.clearTemplate templateId
  | .renameTemplate templateId newId => ProjectModel.renameTemplate templateId newId
  | .setTemplateExport templateId exportType exportId componentId propertyName =>
    setTemplateExport fuel templateId exportType exportId componentId propertyName
  | .setComponent templateId componentId definition position =>
    setComponent fuel templateId componentId definition position
  | .moveComponents templateId componentsIds delta => moveComponents templateId componentsIds delta
  | .configureComponent templateId componentId configId configValue =>
    configureComponent fuel templateId componentId configId configValue
  | .renameComponent templateId componentId newId =>
    renameComponent fuel templateId componentId newId
  | .clearComponents templateId componentsIds => clearComponents templateId componentsIds
  | .copyComponentsToTemplate templateId componentsIds targetTemplateId =>
    copyComponentsToTemplate fuel templateId componentsIds targetTemplateId
  | .setBinding templateId binding => setBinding fuel templateId binding
  | .clearBinding templateId bindingId => clearBinding templateId bindingId
  | .applyBulkUpdates selection updates => applyBulkUpdates fuel selection updates

/-- `clearTemplateExport` only prepares: one change, whose updates are applied by a bulk update. -/
def clearTemplateExport (fuel : Nat) (s : ProjectModel) (templateId : String)
    (exportType : ExportType) (exportId : String) : Except Err (List Update × List ObjectChange) :=
  buildUpdates fuel { plugins := [], components := [] } s
    [{ key := "update-template", id := templateId, changeType := .update,
       body := .template exportType exportId }]

/-- A project that is opened and then edited. -/
def session (fuel : Nat) (data : CoreProject) (calls : List Call) : M PUnit := do
  ProjectModel.construct data
  forEach calls (call fuel)

end CoreOpenedProject

/-- The models reached from a loaded project by accepted calls, each write of which meets a
condition in the state in which it is made. A call is accepted when it returns. -/
inductive Reaches (cond : ProjectModel → Write → Prop) (s₀ : ProjectModel) : ProjectModel →
    Prop where
  | init : Reaches cond s₀ s₀
  | step {s s' : ProjectModel} {fuel : Nat} {call : Call} :
      Reaches cond s₀ s → (CoreOpenedProject.call fuel call).run s = .ok ⟨⟩ s' →
      (CoreOpenedProject.call fuel call).Meets cond s → Reaches cond s₀ s'

/-- What holds at first and is kept by every call holds in every state reached. -/
theorem Reaches.invariant {cond : ProjectModel → Write → Prop} {P : ProjectModel → Prop}
    (hstep : ∀ s fuel call s', P s → (CoreOpenedProject.call fuel call).run s = .ok ⟨⟩ s' →
      (CoreOpenedProject.call fuel call).Meets cond s → P s') {s₀ s : ProjectModel} (h₀ : P s₀)
    (h : Reaches cond s₀ s) : P s := by
  induction h with
  | init => exact h₀
  | step _ hrun hmeets ih => exact hstep _ _ _ _ ih hrun hmeets

theorem Reaches.trans {cond : ProjectModel → Write → Prop} {s₀ s s' : ProjectModel}
    (h : Reaches cond s₀ s) (h' : Reaches cond s s') : Reaches cond s₀ s' := by
  induction h' with
  | init => exact h
  | step _ hrun hmeets ih => exact ih.step hrun hmeets

theorem Reaches.forEach {cond : ProjectModel → Write → Prop} {fuel : Nat} {calls : List Call}
    {s s' : ProjectModel} (hrun : (forEach calls (CoreOpenedProject.call fuel)).run s = .ok ⟨⟩ s')
    (hmeets : (forEach calls (CoreOpenedProject.call fuel)).Meets cond s) : Reaches cond s s' := by
  induction calls generalizing s with
  | nil =>
    obtain ⟨_, rfl⟩ := Program.run_pure_ok.mp hrun
    exact .init
  | cons call calls ih =>
    obtain ⟨_, s₁, h₁, h₂⟩ := Program.run_bind_ok.mp hrun
    obtain ⟨hm, hrest⟩ := meets_bind.mp hmeets
    exact (Reaches.init.step h₁ hm).trans (ih h₂ (hrest _ s₁ h₁))

theorem ProjectModel.load_ok {data : CoreProject} {s : ProjectModel} :
    load data = .ok s ↔ (construct data).run empty = .ok ⟨⟩ s := by
  unfold load
  cases (construct data).run empty with
  | ok u s' => simp
  | error e s' => simp

/-- A session is a load and a run. -/
theorem CoreOpenedProject.session_reaches {cond : ProjectModel → Write → Prop} {fuel : Nat}
    {data : CoreProject} {calls : List Call} {P : ProjectModel → Prop}
    (h : (session fuel data calls).Ends ProjectModel.empty P)
    (hmeets : (session fuel data calls).Meets cond ProjectModel.empty) :
    ∃ s₀ s, ProjectModel.load data = .ok s₀ ∧
      (ProjectModel.construct data).Meets cond ProjectModel.empty ∧
      Reaches cond s₀ s ∧ P s := by
  obtain ⟨_, s, hrun, hP⟩ := h
  obtain ⟨_, s₀, h₀, hcalls⟩ := Program.run_bind_ok.mp hrun
  obtain ⟨hm, hrest⟩ := meets_bind.mp hmeets
  exact ⟨s₀, s, ProjectModel.load_ok.mpr h₀, hm, .forEach hcalls (hrest _ s₀ h₀), hP⟩

/-- No condition is asked of the writes. -/
abbrev AnyWrite : ProjectModel → Write → Prop := fun _ _ => True

theorem CoreOpenedProject.session_reaches_any {fuel : Nat} {data : CoreProject} {calls : List Call}
    {P : ProjectModel → Prop} (h : (session fuel data calls).Ends ProjectModel.empty P) :
    ∃ s₀ s, ProjectModel.load data = .ok s₀ ∧ Reaches AnyWrite s₀ s ∧ P s := by
  obtain ⟨s₀, s, hload, _, hrun, hP⟩ := session_reaches h (meets_of_forall (fun _ _ => trivial) _ _)
  exact ⟨s₀, s, hload, hrun, hP⟩

end MylifeHome.Studio.Core
