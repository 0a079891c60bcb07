import MylifeHome.Studio.Ui.OpenedProject

/-!
# What an accepted call does to a UI project

Each call as a function of the project, with what the call has checked before. What a
call sends does not show in the project.
-/
namespace MylifeHome.Studio.Ui

open MylifeHome.Lib MylifeHome.Lib.Program ProjectModel OMap CollectionModel TemplateModel
open MylifeHome.Studio.Core (Err MemberType hasColon)

/-! ## Notifications -/

section Notifications

theorem notifyAll_hidden (notification : Notification) :
    Hidden Opened.project (notifyAll notification) :=
  fun _ => ⟨_, rfl, rfl⟩

theorem notifyItem_hidden {α : Type} (items : UiProject → OMap String α)
    (notification : String → α → Notification)
    (id : String) : Hidden Opened.project (notifyItem items notification id) := by
  refine hidden_read_bind fun o => ?_
  split
  · exact notifyAll_hidden _
  · exact hidden_pure

theorem notifyAllView_hidden (v : ViewRef) : Hidden Opened.project (notifyAllView v) := by
  cases v <;> exact notifyItem_hidden _ _ _

theorem notifyAllDefaultWindow_hidden : Hidden Opened.project notifyAllDefaultWindow :=
  hidden_read_bind fun _ => notifyAll_hidden _

theorem notifyAllComponentData_hidden : Hidden Opened.project notifyAllComponentData :=
  hidden_read_bind fun _ => notifyAll_hidden _

theorem notifyImpacts_hidden (impacts : Impacts) : Hidden Opened.project (notifyImpacts impacts) :=
  (hidden_forEach (notifyItem_hidden _ _) _).bind (hidden_forEach (notifyItem_hidden _ _) _)

theorem notifyWindowImpacts_hidden (impacts : Bool × Impacts) :
    Hidden Opened.project (UiOpenedProject.notifyWindowImpacts impacts) := by
  unfold UiOpenedProject.notifyWindowImpacts
  split
  · exact notifyAllDefaultWindow_hidden.bind (notifyImpacts_hidden _)
  · exact notifyImpacts_hidden _

end Notifications

/-! ## Calls as functions -/

/-- An id that a collection accepts for a new item. -/
def New {α : Type} (items : OMap String α) (id : String) : Prop := items.has id = false ∧
    hasColon id = false

theorem checkNewId_ok {α : Type} {items : OMap String α} {id : String} {u : PUnit} :
    checkNewId items id = .ok u ↔ New items id := by
  unfold checkNewId New
  split
  · next h => simp [h]
  · next h =>
    split
    · next h' => simp [h']
    · next h' => simp_all

theorem getById_has {α : Type} {items : OMap String α} {id : String} {item : α}
    (h : getById items id = .ok item) : items.has id = true :=
  has_iff.mpr ⟨item, (getById_ok _).mp h⟩

namespace UiProject

theorem getView_window_ok {project : UiProject} {id : String} {view : UiViewData} :
    project.getView (.window id) = .ok view ↔ ∃ window, project.windows.get id = some window ∧
      window.toUiViewData = view := by
  simp only [getView, getWindow, except_map_ok, getById_ok]

theorem getView_template_ok {project : UiProject} {id : String} {view : UiViewData} :
    project.getView (.template id) = .ok view ↔
      ∃ template, project.templates.get id = some template ∧ template.toUiViewData = view := by
  simp only [getView, getTemplate, except_map_ok, getById_ok]

variable (project : UiProject)

def onRenameResource (id : String) (newId : Option String) : UiProject :=
  project.eachView (fun window => WindowModel.onRenameResource window id newId)
    (fun template => onView template fun view => ViewModel.onRenameResource view id newId)

def onRenameWindow (id : String) (newId : Option String) : UiProject :=
  { project with defaultWindow := (project.defaultWindow.onRenameWindow id newId).1 }.eachView
    (fun window => WindowModel.onView window fun view => ViewModel.onRenameWindow view id newId)
    (fun template => onView template fun view => ViewModel.onRenameWindow view id newId)

/-- The same handler on the windows and on the templates. -/
def eachViewData (handler : UiViewData → UiViewData × Bool) : UiProject :=
  project.eachView (fun window => WindowModel.onView window handler)
    (fun template => onView template handler)

/-- Change the data of a template. -/
def updateTemplate (id : String) (change : UiTemplateData → UiTemplateData) : UiProject :=
  putTemplates project (project.templates.modify id change)

def updateControls (v : ViewRef) (change : OMap String UiControlData → OMap String UiControlData) :
    UiProject :=
  project.updateView v fun view => { view with controls := change view.controls }

def updateTemplates (v : ViewRef)
    (change : OMap String UiTemplateInstanceData → OMap String UiTemplateInstanceData) :
    UiProject :=
  project.updateView v fun view => { view with templates := change view.templates }

/-- A usage cleared in its view, if there is one. -/
def clearUsage (usage : ComponentUsage) : UiProject :=
  match usage.path with
  | { type := .window, id } :: _ => clearIn (.window id)
  | { type := .template, id } :: _ => clearIn (.template id)
  | _ => project
where
  clearIn (v : ViewRef) : UiProject :=
    project.updateView v fun view => match ViewModel.clearComponentUsage view usage with
      | .ok cleared => cleared.1
      | .error _ => view

end UiProject

namespace Call

open ProjectModel (putResources putStyles putWindows putTemplates)

/-- The project after a call that is accepted. -/
def applied (project : UiProject) : Call → UiProject
  | .applyRefreshComponents componentData usageToClear =>
    usageToClear.foldl UiProject.clearUsage
      { project with components := componentData.components, plugins := componentData.plugins }
  | .setDefaultWindow defaultWindow =>
    { project with defaultWindow := project.defaultWindow.assign defaultWindow }
  | .setResource id resource => putResources project (project.resources.set id resource)
  | .clearResource id => (putResources project (project.resources.delete id)).onRenameResource id
    none
  | .renameResource id newId =>
    (putResources project (project.resources.rename id newId)).onRenameResource id (some newId)
  | .setStyle id style => putStyles project (project.styles.set id style)
  | .clearStyle id => (putStyles project (project.styles.delete id)).eachView
      (fun window => WindowModel.onClearStyle window id) (fun template => (template, false))
  | .renameStyle id newId => (putStyles project (project.styles.rename id newId)).eachView
      (fun window => WindowModel.onRenameStyle window id newId) (fun template => (template, false))
  | .newWindow id => putWindows project (project.windows.set id windowTemplate)
  | .clearWindow id => (putWindows project (project.windows.delete id)).onRenameWindow id none
  | .renameWindow id newId =>
    (putWindows project (project.windows.rename id newId)).onRenameWindow id (some newId)
  | .cloneWindow id newId => match project.windows.get id with
    | some window => putWindows project (project.windows.set newId window)
    | none => project
  | .setWindowProperties id properties =>
    putWindows project (project.windows.modify id fun window =>
      WindowModel.update window properties)
  | .newTemplate id => putTemplates project (project.templates.set id templateTemplate)
  | .clearTemplate id => (putTemplates project (project.templates.delete id)).eachViewData
    fun view =>
      ViewModel.onClearTemplate view id
  | .renameTemplate id newId =>
    (putTemplates project (project.templates.rename id newId)).eachViewData fun view =>
      ViewModel.onRenameTemplate view id newId
  | .cloneTemplate id newId => match project.templates.get id with
    | some template => putTemplates project (project.templates.set newId template)
    | none => project
  | .setTemplateProperties id properties => project.updateTemplate id fun template =>
      update template properties
  | .setTemplateExport id exportId memberType valueType =>
    (project.updateTemplate id fun template =>
      setExport template exportId memberType valueType).eachViewData
      fun view => ViewModel.onSetTemplateExport view id exportId
  | .clearTemplateExport id exportId =>
    (project.updateTemplate id fun template => clearExport template exportId).eachViewData
      fun view => ViewModel.onClearTemplateExport view id exportId
  | .setTemplateBulkPatterns id patterns => patterns.entries.foldl (fun project e =>
      project.updateTemplate id fun template => setBulkPattern template e.1 e.2) project
  | .newControl v id x y type => project.updateControls v fun controls =>
    controls.set id (match type with
    | .display => { controlTemplate x y with display := some controlDisplayTemplate }
    | .text => { controlTemplate x y with text := some controlTextTemplate })
  | .clearControl v id => project.updateControls v fun controls => controls.delete id
  | .renameControl v id newId => project.updateControls v fun controls => controls.rename id newId
  | .cloneControl v id newId target => match (project.getView v).toOption.bind fun view =>
    view.controls.get id with
    | some control => project.updateControls target fun controls => controls.set newId
        (if v = target then { control with x := control.x + 10, y := control.y + 10 }
        else { control with x := 10, y := 10 })
    | none => project
  | .setControlProperties v id properties => project.updateControls v fun controls =>
      controls.modify id fun control => ControlModel.update control properties
  | .newTemplateInstance v id templateId x y => match project.templates.get templateId with
    | some template => project.updateTemplates v fun templates =>
      templates.set id { templateInstanceTemplate x y with
        templateId := some templateId, bindings := prepareBindings template }
    | none => project
  | .clearTemplateInstance v id => project.updateTemplates v fun templates => templates.delete id
  | .renameTemplateInstance v id newId => project.updateTemplates v fun templates =>
    templates.rename id newId
  | .cloneTemplateInstance v id newId =>
    match (project.getView v).toOption.bind fun view => view.templates.get id with
    | some source => project.updateTemplates v fun templates => templates.set newId
        { source with x := source.x + 10, y := source.y + 10 }
    | none => project
  | .moveTemplateInstance v id x y => project.updateTemplates v fun templates =>
      templates.modify id fun data => TemplateInstanceModel.move data x y
  | .setTemplateInstanceTemplate v id templateId => match project.templates.get templateId with
    | some template => project.updateTemplates v fun templates => templates.modify id fun data =>
      { data with
        templateId := some templateId, bindings := prepareBindings template }
    | none => project
  | .setTemplateInstanceBindings v id bindings => bindings.entries.foldl (fun project e =>
      project.updateTemplates v fun templates => templates.modify id fun data => { data with
        bindings := data.bindings.set e.1 e.2 }) project

/-- What a call has checked when it returns. -/
def Accepted (project : UiProject) : Call → Prop
  | .setResource id _ => project.resources.has id = true ∨ New project.resources id
  | .renameResource _ newId => New project.resources newId
  | .setStyle id _ => project.styles.has id = true ∨ New project.styles id
  | .renameStyle _ newId => New project.styles newId
  | .newWindow id => New project.windows id
  | .renameWindow _ newId => New project.windows newId
  | .cloneWindow id newId => project.windows.has id = true ∧ New project.windows newId
  | .setWindowProperties id _ => project.windows.has id = true
  | .newTemplate id => New project.templates id
  | .renameTemplate _ newId => New project.templates newId
  | .cloneTemplate id newId => project.templates.has id = true ∧ New project.templates newId
  | .setTemplateProperties id _ => project.templates.has id = true
  | .setTemplateExport id _ _ _ => project.templates.has id = true
  | .clearTemplateExport id _ => project.templates.has id = true
  | .setTemplateBulkPatterns id patterns => ∃ template, project.templates.get id = some template ∧
      ∀ exportId ∈ patterns.keys, template.exports.has exportId = true
  | .newControl v id _ _ _ => ∃ view, project.getView v = .ok view ∧ New view.controls id
  | .clearControl v _ => ∃ view, project.getView v = .ok view
  | .renameControl v _ newId => ∃ view, project.getView v = .ok view ∧ New view.controls newId
  | .cloneControl v id newId target => ∃ view targetView, project.getView v = .ok view ∧
    view.controls.has id = true ∧
      project.getView target = .ok targetView ∧ New targetView.controls newId
  | .setControlProperties v id _ => ∃ view, project.getView v = .ok view ∧
    view.controls.has id = true
  | .newTemplateInstance v id templateId _ _ => project.templates.has templateId = true ∧
      ∃ view, project.getView v = .ok view ∧ New view.templates id
  | .clearTemplateInstance v _ => ∃ view, project.getView v = .ok view
  | .renameTemplateInstance v _ newId => ∃ view, project.getView v = .ok view ∧
    New view.templates newId
  | .cloneTemplateInstance v id newId =>
    ∃ view, project.getView v = .ok view ∧ view.templates.has id = true ∧ New view.templates newId
  | .moveTemplateInstance v id _ _ => ∃ view, project.getView v = .ok view ∧
    view.templates.has id = true
  | .setTemplateInstanceTemplate v id templateId => project.templates.has templateId = true ∧
      ∃ view, project.getView v = .ok view ∧ view.templates.has id = true
  | .setTemplateInstanceBindings v id _ => ∃ view, project.getView v = .ok view ∧
    view.templates.has id = true
  | _ => True

end Call

theorem UiProject.get_templates_eachView (project : UiProject)
    (onWindow : UiWindowData → UiWindowData × Bool)
    (onTemplate : UiTemplateData → UiTemplateData × Bool) (id : String) :
    (project.eachView onWindow onTemplate).templates.get id =
      (project.templates.get id).map fun data => (onTemplate data).1 :=
  get_mapVal _ _ _

/-! ## The calls do what they are as functions -/

section Peeling

variable {α β : Type} {o o' : Opened}

theorem run_fetch_bind_ok {f : UiProject → Except Err α} {g : α → UM β} {b : β} :
    (fetch f >>= g).run o = .ok b o' ↔ ∃ a, f o.project = .ok a ∧ (g a).run o = .ok b o' :=
  run_orThrow_bind_ok

theorem run_discard_orThrow_bind_ok {x : Except Err α} {g : PUnit → UM β} {b : β} :
    (discard (orThrow x : UM α) >>= g).run o = .ok b o' ↔ (∃ a, x = .ok a) ∧
      (g ⟨⟩).run o = .ok b o' := by
  simp only [Program.run_bind_ok, Program.run_discard_ok, Program.run_orThrow_ok]
  constructor
  · rintro ⟨_, _, ⟨a, ha, rfl⟩, h⟩
    exact ⟨⟨a, ha⟩, h⟩
  · rintro ⟨⟨a, ha⟩, h⟩
    exact ⟨⟨⟩, o, ⟨a, ha, rfl⟩, h⟩

theorem run_discard_fetch_bind_ok {f : UiProject → Except Err α} {g : PUnit → UM β} {b : β} :
    (discard (fetch f) >>= g).run o = .ok b o' ↔ (∃ a, f o.project = .ok a) ∧
      (g ⟨⟩).run o = .ok b o' :=
  run_discard_orThrow_bind_ok

/-- What is sent at the end does not show. -/
theorem run_then_hidden {p : UM α} {f : α → UM PUnit} (hf : ∀ a, Hidden Opened.project (f a))
    (h : (p >>= f).run o = .ok ⟨⟩ o') : ∃ a o₁, p.run o = .ok a o₁ ∧ o'.project = o₁.project := by
  obtain ⟨a, o₁, hp, h⟩ := Program.run_bind_ok.mp h
  obtain ⟨o₂, h', hproject⟩ := hf a o₁
  cases h.symm.trans h'
  exact ⟨a, o₁, hp, hproject⟩

theorem setItem_ok {items : UiProject → OMap String α} {put : UiProject → OMap String α → UiProject}
    {id : String} {item : α} (h : (setItem items put id item).run o = .ok ⟨⟩ o') :
    New (items o.project) id ∧ o'.project = put o.project ((items o.project).set id item) := by
  obtain ⟨_, hnew, h⟩ := run_fetch_bind_ok.mp h
  cases h
  exact ⟨checkNewId_ok.mp hnew, rfl⟩

theorem renameItem_ok {items : UiProject → OMap String α}
    {put : UiProject → OMap String α → UiProject} {id newId : String}
    (h : (renameItem items put id newId).run o = .ok ⟨⟩ o') :
    New (items o.project) newId ∧
      o'.project = put o.project ((items o.project).rename id newId) := by
  obtain ⟨_, hnew, h⟩ := run_fetch_bind_ok.mp h
  cases h
  exact ⟨checkNewId_ok.mp hnew, rfl⟩

theorem onView_ok {v : ViewRef} {body : UM PUnit}
    (h : (UiOpenedProject.onView v body).run o = .ok ⟨⟩ o') :
    (∃ view, o.project.getView v = .ok view) ∧ ∃ o₁, body.run o = .ok ⟨⟩ o₁ ∧
      o'.project = o₁.project := by
  obtain ⟨hview, h⟩ := run_discard_fetch_bind_ok.mp h
  obtain ⟨_, o₁, hbody, hproject⟩ := run_then_hidden (fun _ => notifyAllView_hidden v) h
  exact ⟨hview, o₁, hbody, hproject⟩

theorem onInstance_ok {v : ViewRef} {id : String} {body : UM PUnit}
    (h : (UiOpenedProject.onInstance v id body).run o = .ok ⟨⟩ o') :
    (∃ view, o.project.getView v = .ok view ∧ view.templates.has id = true) ∧
      ∃ o₁, body.run o = .ok ⟨⟩ o₁ ∧ o'.project = o₁.project := by
  obtain ⟨_, o₁, h, hproject⟩ := onView_ok h
  obtain ⟨view, hview, h⟩ := run_fetch_bind_ok.mp h
  obtain ⟨⟨data, hdata⟩, h⟩ := run_discard_orThrow_bind_ok.mp h
  exact ⟨⟨view, hview, getById_has hdata⟩, o₁, h, hproject⟩

/-- A loop of edits. -/
theorem forEach_edits {ι : Type} {body : ι → UM PUnit} {change : UiProject → ι → UiProject}
    (hbody : ∀ i o o', (body i).run o = .ok ⟨⟩ o' → o'.project = change o.project i) {l : List ι}
    (h : (forEach l body).run o = .ok ⟨⟩ o') : o'.project = l.foldl change o.project := by
  induction l generalizing o with
  | nil => cases h; rfl
  | cons i l ih =>
    obtain ⟨_, o₁, hi, h⟩ := Program.run_bind_ok.mp h
    rw [ih h, hbody i o o₁ hi, List.foldl_cons]

end Peeling

theorem UiProject.updateView_updateView (project : UiProject) (v : ViewRef)
    (f g : UiViewData → UiViewData) :
    (project.updateView v f).updateView v g = project.updateView v (g ∘ f) := by
  cases v with
  | window id => simp only [updateView, modify_modify, Function.comp_def]
  | template id => simp only [updateView, modify_modify, Function.comp_def]

theorem UiProject.updateTemplates_updateTemplates (project : UiProject) (v : ViewRef)
    (f g : OMap String UiTemplateInstanceData → OMap String UiTemplateInstanceData) :
    (project.updateTemplates v f).updateTemplates v g = project.updateTemplates v (g ∘ f) :=
  project.updateView_updateView v _ _

theorem putTemplates_ok {v : ViewRef}
    {change : OMap String UiTemplateInstanceData → OMap String UiTemplateInstanceData}
    {o o' : Opened} (h : (ViewModel.putTemplates v change).run o = .ok ⟨⟩ o') :
    o'.project = o.project.updateTemplates v change := by
  cases h
  rfl

theorem setTemplate_ok {v : ViewRef} {id templateId : String} {template : UiTemplateData}
    {o o' : Opened} (h : (ViewModel.setTemplate v id templateId template).run o = .ok ⟨⟩ o') :
    o'.project = o.project.updateTemplates v fun templates => templates.modify id fun data =>
      { data with templateId := some templateId, bindings := prepareBindings template } := by
  obtain ⟨_, o₁, h₁, h₂⟩ := Program.run_bind_ok.mp h
  rw [putTemplates_ok h₂, putTemplates_ok h₁, UiProject.updateTemplates_updateTemplates]
  exact congrArg (o.project.updateTemplates v) (funext fun templates => modify_modify _ _ _ _)

theorem UiProject.updateView_congr {project : UiProject} {v : ViewRef}
    {f g : UiViewData → UiViewData}
    (h : ∀ view, project.getView v = .ok view → f view = g view) : project.updateView v f =
      project.updateView v g := by
  cases v with
  | window id =>
    refine congrArg (fun windows => { project with windows := windows })
      (modify_congr fun window hw => ?_)
    rw [h window.toUiViewData (except_map_ok.mpr ⟨window, (getById_ok _).mpr hw, rfl⟩)]
  | template id =>
    refine congrArg (fun templates => { project with templates := templates })
      (modify_congr fun template ht => ?_)
    rw [h template.toUiViewData (except_map_ok.mpr ⟨template, (getById_ok _).mpr ht, rfl⟩)]

/-- The view was read before its usage is cleared. -/
theorem clearIn_eq {project : UiProject} {usage : ComponentUsage} {v : ViewRef} {view : UiViewData}
    {cleared : UiViewData × Bool} (hv : project.getView v = .ok view)
    (hc : ViewModel.clearComponentUsage view usage = .ok cleared) :
    project.updateView v (fun _ => cleared.1) = UiProject.clearUsage.clearIn project usage v := by
  refine UiProject.updateView_congr fun view' hv' => ?_
  cases hv.symm.trans hv'
  rw [hc]

theorem clearUsage_ok {impacts impacts' : Impacts} {usage : ComponentUsage} {o o' : Opened}
    (h : (clearUsage impacts usage).run o = .ok impacts' o') : o'.project =
      o.project.clearUsage usage := by
  unfold clearUsage at h
  unfold UiProject.clearUsage
  split at h
  · next id _ hpath =>
    obtain ⟨window, hw, h⟩ := run_fetch_bind_ok.mp h
    obtain ⟨cleared, hc, h⟩ := run_orThrow_bind_ok.mp h
    cases h
    rw [hpath]
    have hv : o.project.getView (.window id) = .ok window.toUiViewData :=
      except_map_ok.mpr ⟨window, hw, rfl⟩
    exact clearIn_eq hv hc
  · next id _ hpath =>
    obtain ⟨template, ht, h⟩ := run_fetch_bind_ok.mp h
    obtain ⟨cleared, hc, h⟩ := run_orThrow_bind_ok.mp h
    cases h
    rw [hpath]
    have hv : o.project.getView (.template id) = .ok template.toUiViewData :=
      except_map_ok.mpr ⟨template, ht, rfl⟩
    exact clearIn_eq hv hc
  · next n path hwindow htemplate hpath =>
    cases h
    rw [hpath]
    obtain ⟨type, id⟩ := n
    cases type with
    | window => exact (hwindow id rfl).elim
    | template => exact (htemplate id rfl).elim
    | _ => rfl
  · cases h

theorem clearComponentsUsage_ok {usage : List ComponentUsage} {impacts impacts' : Impacts}
    {o o' : Opened} (h : (foldEach usage clearUsage impacts).run o = .ok impacts' o') :
    o'.project = usage.foldl UiProject.clearUsage o.project := by
  induction usage generalizing impacts o with
  | nil => cases h; rfl
  | cons u usage ih =>
    obtain ⟨_, o₁, hu, h⟩ := Program.run_bind_ok.mp h
    rw [ih h, clearUsage_ok hu, List.foldl_cons]

theorem getExportData_has {template : UiTemplateData} {id exportId : String}
    {exportData : UiTemplateExport}
    (h : getExportData template id exportId = .ok exportData) : template.exports.has exportId =
      true := by
  unfold getExportData at h
  split at h
  · next hget => exact has_iff.mpr ⟨_, hget⟩
  · cases h

/-- The inversion of an accepted call. -/
theorem UiOpenedProject.call_ok {c : Call} {o o' : Opened}
    (h : (UiOpenedProject.call c).run o = .ok ⟨⟩ o') :
    c.Accepted o.project ∧ o'.project = c.applied o.project := by
  cases c with
  | applyRefreshComponents componentData usageToClear =>
    obtain ⟨_, o₁, h, hp⟩ := run_then_hidden (p := applyComponents componentData >>= fun _ =>
      clearComponentsUsage usageToClear)
        (fun _ => (notifyImpacts_hidden _).bind notifyAllComponentData_hidden) h
    exact ⟨trivial, hp.trans (clearComponentsUsage_ok h)⟩
  | setDefaultWindow defaultWindow =>
    cases h
    exact ⟨trivial, rfl⟩
  | setResource id resource =>
    obtain ⟨_, o₁, h, hp⟩ := run_then_hidden (fun _ => notifyItem_hidden _ _ _) h
    rw [setResource, run_read_bind_ok] at h
    split at h
    · next hhas =>
      cases h
      exact ⟨Or.inl hhas, hp⟩
    · obtain ⟨hnew, h⟩ := setItem_ok h
      exact ⟨Or.inr hnew, hp.trans h⟩
  | clearResource id =>
    obtain ⟨_, o₁, h, hp⟩ :=
      run_then_hidden (fun _ => (notifyAll_hidden _).bind (notifyImpacts_hidden _)) h
    cases h
    exact ⟨trivial, hp⟩
  | renameResource id newId =>
    obtain ⟨_, o₁, h, hp⟩ :=
      run_then_hidden (fun _ => (notifyAll_hidden _).bind (notifyImpacts_hidden _)) h
    obtain ⟨_, o₂, hr, h⟩ := Program.run_bind_ok.mp h
    obtain ⟨hnew, hr⟩ := renameItem_ok hr
    cases h
    exact ⟨hnew, hp.trans (congrArg (UiProject.onRenameResource · id (some newId)) hr)⟩
  | setStyle id style =>
    obtain ⟨_, o₁, h, hp⟩ := run_then_hidden (fun _ => notifyItem_hidden _ _ _) h
    rw [setStyle, run_read_bind_ok] at h
    split at h
    · next hhas =>
      cases h
      exact ⟨Or.inl hhas, hp⟩
    · obtain ⟨hnew, h⟩ := setItem_ok h
      exact ⟨Or.inr hnew, hp.trans h⟩
  | clearStyle id =>
    obtain ⟨_, o₁, h, hp⟩ := run_then_hidden
      (fun _ => (notifyAll_hidden _).bind (hidden_forEach (notifyItem_hidden _ _) _)) h
    cases h
    exact ⟨trivial, hp⟩
  | renameStyle id newId =>
    obtain ⟨_, o₁, h, hp⟩ := run_then_hidden
      (fun _ => (notifyAll_hidden _).bind (hidden_forEach (notifyItem_hidden _ _) _)) h
    obtain ⟨_, o₂, hr, h⟩ := Program.run_bind_ok.mp h
    obtain ⟨hnew, hr⟩ := renameItem_ok hr
    cases h
    exact ⟨hnew, hp.trans
      (congrArg (UiProject.eachView · (fun window => WindowModel.onRenameStyle window id newId)
      (fun template => (template, false))) hr)⟩
  | newWindow id =>
    obtain ⟨_, o₁, h, hp⟩ := run_then_hidden (fun _ => notifyItem_hidden _ _ _) h
    obtain ⟨hnew, h⟩ := setItem_ok h
    exact ⟨hnew, hp.trans h⟩
  | clearWindow id =>
    obtain ⟨_, o₁, h, hp⟩ :=
      run_then_hidden (fun _ => (notifyAll_hidden _).bind (notifyWindowImpacts_hidden _)) h
    cases h
    exact ⟨trivial, hp⟩
  | renameWindow id newId =>
    obtain ⟨_, o₁, h, hp⟩ :=
      run_then_hidden (fun _ => (notifyAll_hidden _).bind (notifyWindowImpacts_hidden _)) h
    obtain ⟨_, o₂, hr, h⟩ := Program.run_bind_ok.mp h
    obtain ⟨hnew, hr⟩ := renameItem_ok hr
    cases h
    exact ⟨hnew, hp.trans (congrArg (UiProject.onRenameWindow · id (some newId)) hr)⟩
  | cloneWindow id newId =>
    obtain ⟨_, o₁, h, hp⟩ := run_then_hidden (fun _ => notifyItem_hidden _ _ _) h
    obtain ⟨window, hw, h⟩ := run_fetch_bind_ok.mp h
    obtain ⟨hnew, h⟩ := setItem_ok h
    refine ⟨⟨getById_has hw, hnew⟩, hp.trans ?_⟩
    rw [Call.applied, (getById_ok _).mp hw]
    exact h
  | setWindowProperties id properties =>
    obtain ⟨⟨window, hw⟩, h⟩ := run_discard_fetch_bind_ok.mp h
    obtain ⟨_, o₁, h, hp⟩ := run_then_hidden (fun _ => notifyItem_hidden _ _ _) h
    cases h
    exact ⟨getById_has hw, hp⟩
  | newTemplate id =>
    obtain ⟨_, o₁, h, hp⟩ := run_then_hidden (fun _ => notifyItem_hidden _ _ _) h
    obtain ⟨hnew, h⟩ := setItem_ok h
    exact ⟨hnew, hp.trans h⟩
  | clearTemplate id =>
    obtain ⟨_, o₁, h, hp⟩ :=
      run_then_hidden (fun _ => (notifyAll_hidden _).bind (notifyImpacts_hidden _)) h
    cases h
    exact ⟨trivial, hp⟩
  | renameTemplate id newId =>
    obtain ⟨_, o₁, h, hp⟩ :=
      run_then_hidden (fun _ => (notifyAll_hidden _).bind (notifyImpacts_hidden _)) h
    obtain ⟨_, o₂, hr, h⟩ := Program.run_bind_ok.mp h
    obtain ⟨hnew, hr⟩ := renameItem_ok hr
    cases h
    exact ⟨hnew, hp.trans
      (congrArg (UiProject.eachViewData · fun view => ViewModel.onRenameTemplate view id newId) hr)⟩
  | cloneTemplate id newId =>
    obtain ⟨_, o₁, h, hp⟩ := run_then_hidden (fun _ => notifyItem_hidden _ _ _) h
    obtain ⟨template, ht, h⟩ := run_fetch_bind_ok.mp h
    obtain ⟨hnew, h⟩ := setItem_ok h
    refine ⟨⟨getById_has ht, hnew⟩, hp.trans ?_⟩
    rw [Call.applied, (getById_ok _).mp ht]
    exact h
  | setTemplateProperties id properties =>
    obtain ⟨⟨template, ht⟩, h⟩ := run_discard_fetch_bind_ok.mp h
    obtain ⟨_, o₁, h, hp⟩ := run_then_hidden (fun _ => notifyItem_hidden _ _ _) h
    cases h
    exact ⟨getById_has ht, hp⟩
  | setTemplateExport id exportId memberType valueType =>
    obtain ⟨_, o₁, h, hp⟩ := run_then_hidden notifyImpacts_hidden h
    obtain ⟨⟨template, ht⟩, h⟩ := run_discard_fetch_bind_ok.mp h
    cases h
    exact ⟨getById_has ht, hp⟩
  | clearTemplateExport id exportId =>
    obtain ⟨_, o₁, h, hp⟩ := run_then_hidden notifyImpacts_hidden h
    obtain ⟨⟨template, ht⟩, h⟩ := run_discard_fetch_bind_ok.mp h
    cases h
    exact ⟨getById_has ht, hp⟩
  | setTemplateBulkPatterns id patterns =>
    obtain ⟨_, o₁, h, hp⟩ := run_then_hidden (fun _ => notifyItem_hidden _ _ _) h
    obtain ⟨template, ht, h⟩ := run_fetch_bind_ok.mp h
    obtain ⟨_, o₂, hchecks, hedits⟩ := Program.run_bind_ok.mp h
    have hsilent : ∀ exportId,
        (discard (orThrow (getExportData template id exportId)) : UM PUnit).Silent :=
      fun _ => writes_discard writes_orThrow
    have hall := run_forEach_silent hsilent hchecks
    obtain rfl := Silent.run_ok (writes_forEach hsilent _) hchecks
    refine ⟨⟨template, (getById_ok _).mp ht, fun exportId hmem => ?_⟩,
      hp.trans (forEach_edits ?_ hedits)⟩
    · obtain ⟨exportData, hexport⟩ := Program.run_discard_ok.mp (hall exportId hmem)
      exact getExportData_has (Program.run_orThrow_ok.mp hexport).1
    · intro e o o' h
      cases h
      rfl
  | newControl v id x y type =>
    obtain ⟨_, o₁, h, hp⟩ := onView_ok h
    obtain ⟨view, hview, h⟩ := run_fetch_bind_ok.mp h
    obtain ⟨_, hnew, h⟩ := run_orThrow_bind_ok.mp h
    cases h
    exact ⟨⟨view, hview, checkNewId_ok.mp hnew⟩, hp⟩
  | clearControl v id =>
    obtain ⟨hview, o₁, h, hp⟩ := onView_ok h
    cases h
    exact ⟨hview, hp⟩
  | renameControl v id newId =>
    obtain ⟨_, o₁, h, hp⟩ := onView_ok h
    obtain ⟨view, hview, h⟩ := run_fetch_bind_ok.mp h
    obtain ⟨_, hnew, h⟩ := run_orThrow_bind_ok.mp h
    cases h
    exact ⟨⟨view, hview, checkNewId_ok.mp hnew⟩, hp⟩
  | cloneControl v id newId target =>
    obtain ⟨view, hview, h⟩ := run_fetch_bind_ok.mp h
    obtain ⟨control, hcontrol, h⟩ := run_orThrow_bind_ok.mp h
    obtain ⟨_, o₁, h, hp⟩ := onView_ok h
    obtain ⟨targetView, htarget, h⟩ := run_fetch_bind_ok.mp h
    obtain ⟨_, hnew, h⟩ := run_orThrow_bind_ok.mp h
    cases h
    refine ⟨⟨view, targetView, hview, getById_has hcontrol, htarget, checkNewId_ok.mp hnew⟩,
      hp.trans ?_⟩
    rw [Call.applied, hview, Except.toOption, Option.bind_some, (getById_ok _).mp hcontrol]
    rfl
  | setControlProperties v id properties =>
    obtain ⟨_, o₁, h, hp⟩ := onView_ok h
    obtain ⟨view, hview, h⟩ := run_fetch_bind_ok.mp h
    obtain ⟨⟨control, hcontrol⟩, h⟩ := run_discard_orThrow_bind_ok.mp h
    cases h
    exact ⟨⟨view, hview, getById_has hcontrol⟩, hp⟩
  | newTemplateInstance v id templateId x y =>
    obtain ⟨_, o₁, h, hp⟩ := onView_ok h
    obtain ⟨template, ht, h⟩ := run_fetch_bind_ok.mp h
    obtain ⟨view, hview, h⟩ := run_fetch_bind_ok.mp h
    obtain ⟨_, hnew, h⟩ := run_orThrow_bind_ok.mp h
    obtain ⟨_, o₂, hset, h⟩ := Program.run_bind_ok.mp h
    refine ⟨⟨getById_has ht, view, hview, checkNewId_ok.mp hnew⟩, hp.trans ?_⟩
    rw [Call.applied, (getById_ok _).mp ht, setTemplate_ok h, putTemplates_ok hset,
      UiProject.updateTemplates_updateTemplates]
    exact congrArg (o.project.updateTemplates v) (funext fun templates => modify_set _ _ _ _)
  | clearTemplateInstance v id =>
    obtain ⟨hview, o₁, h, hp⟩ := onView_ok h
    cases h
    exact ⟨hview, hp⟩
  | renameTemplateInstance v id newId =>
    obtain ⟨_, o₁, h, hp⟩ := onView_ok h
    obtain ⟨view, hview, h⟩ := run_fetch_bind_ok.mp h
    obtain ⟨_, hnew, h⟩ := run_orThrow_bind_ok.mp h
    cases h
    exact ⟨⟨view, hview, checkNewId_ok.mp hnew⟩, hp⟩
  | cloneTemplateInstance v id newId =>
    obtain ⟨_, o₁, h, hp⟩ := onView_ok h
    obtain ⟨view, hview, h⟩ := run_fetch_bind_ok.mp h
    obtain ⟨source, hsource, h⟩ := run_orThrow_bind_ok.mp h
    obtain ⟨_, hnew, h⟩ := run_orThrow_bind_ok.mp h
    cases h
    refine ⟨⟨view, hview, getById_has hsource, checkNewId_ok.mp hnew⟩, hp.trans ?_⟩
    rw [Call.applied, hview, Except.toOption, Option.bind_some, (getById_ok _).mp hsource]
    rfl
  | moveTemplateInstance v id x y =>
    obtain ⟨hview, o₁, h, hp⟩ := onInstance_ok h
    cases h
    exact ⟨hview, hp⟩
  | setTemplateInstanceTemplate v id templateId =>
    obtain ⟨hview, o₁, h, hp⟩ := onInstance_ok h
    obtain ⟨template, ht, h⟩ := run_fetch_bind_ok.mp h
    refine ⟨⟨getById_has ht, hview⟩, hp.trans ?_⟩
    rw [Call.applied, (getById_ok _).mp ht, setTemplate_ok h]
  | setTemplateInstanceBindings v id bindings =>
    obtain ⟨hview, o₁, h, hp⟩ := onInstance_ok h
    refine ⟨hview, hp.trans (forEach_edits (fun e o o' h => ?_) h)⟩
    obtain ⟨view, _, h⟩ := run_fetch_bind_ok.mp h
    obtain ⟨data, _, h⟩ := run_orThrow_bind_ok.mp h
    obtain ⟨_, _, h⟩ := run_fetch_bind_ok.mp h
    cases h
    rfl

/-! ## Views -/

namespace UiProject

/-- All the views of a project meet a condition. -/
def AllViews (P : UiViewData → Prop) (project : UiProject) : Prop :=
  (∀ id window, project.windows.get id = some window → P window.toUiViewData) ∧
    ∀ id template, project.templates.get id = some template → P template.toUiViewData

variable {P Q : UiViewData → Prop} {project : UiProject}

theorem AllViews.getView (h : project.AllViews P) {v : ViewRef} {view : UiViewData}
    (hv : project.getView v = .ok view) :
    P view := by
  cases v with
  | window id =>
    obtain ⟨window, hw, rfl⟩ := except_map_ok.mp hv
    exact h.1 id window ((getById_ok _).mp hw)
  | template id =>
    obtain ⟨template, ht, rfl⟩ := except_map_ok.mp hv
    exact h.2 id template ((getById_ok _).mp ht)

theorem AllViews.eachView {onWindow : UiWindowData → UiWindowData × Bool}
    {onTemplate : UiTemplateData → UiTemplateData × Bool} (h : project.AllViews P)
    (hw : ∀ window, P window.toUiViewData → Q (onWindow window).1.toUiViewData)
    (ht : ∀ template, P template.toUiViewData → Q (onTemplate template).1.toUiViewData) :
    (project.eachView onWindow onTemplate).AllViews Q := by
  constructor
  · intro id window hget
    obtain ⟨old, hold, rfl⟩ := Option.map_eq_some_iff.mp ((get_mapVal _ _ _).symm.trans hget)
    exact hw old (h.1 id old hold)
  · intro id template hget
    obtain ⟨old, hold, rfl⟩ := Option.map_eq_some_iff.mp ((get_mapVal _ _ _).symm.trans hget)
    exact ht old (h.2 id old hold)

theorem AllViews.updateTemplate {id : String} {change : UiTemplateData → UiTemplateData}
    (h : project.AllViews P)
    (hchange : ∀ template, project.templates.get id = some template → P template.toUiViewData →
      P (change template).toUiViewData) : (project.updateTemplate id change).AllViews P := by
  refine ⟨h.1, fun id' template hget => ?_⟩
  rw [UiProject.updateTemplate, putTemplates, get_modify] at hget
  split at hget
  · next hid =>
    subst hid
    obtain ⟨old, hold, rfl⟩ := Option.map_eq_some_iff.mp hget
    exact hchange old hold (h.2 _ old hold)
  · exact h.2 id' template hget

theorem AllViews.updateView {v : ViewRef} {change : UiViewData → UiViewData}
    (h : project.AllViews P)
    (hchange : ∀ view, project.getView v = .ok view → P view → P (change view)) :
    (project.updateView v change).AllViews P := by
  cases v with
  | window id =>
    refine ⟨fun id' window hget => ?_, h.2⟩
    rw [UiProject.updateView, get_modify] at hget
    split at hget
    · next hid =>
      subst hid
      obtain ⟨old, hold, rfl⟩ := Option.map_eq_some_iff.mp hget
      exact hchange _ (except_map_ok.mpr ⟨old, (getById_ok _).mpr hold, rfl⟩) (h.1 _ old hold)
    · exact h.1 id' window hget
  | template id =>
    refine h.updateTemplate fun template ht hP => ?_
    exact hchange _ (except_map_ok.mpr ⟨template, (getById_ok _).mpr ht, rfl⟩) hP

end UiProject

/-! ## Runs of calls -/

/-- The states that accepted calls lead to, each of which meets a condition when it is made. -/
inductive Reaches (cond : UiProject → Call → Prop) (o : Opened) : Opened → Prop where
  | refl : Reaches cond o o
  | call {o₁ o₂ : Opened} {c : Call} : Reaches cond o o₁ → cond o₁.project c →
      (UiOpenedProject.call c).run o₁ = .ok ⟨⟩ o₂ → Reaches cond o o₂

/-- What every accepted call that meets the condition keeps holds in every state that is reached. -/
theorem Reaches.keeps {cond : UiProject → Call → Prop} {P : UiProject → Prop} {o o' : Opened}
    (h : Reaches cond o o')
    (hcall : ∀ o o' c, cond o.project c → (UiOpenedProject.call c).run o = .ok ⟨⟩ o' → P o.project →
      P o'.project)
    (hP : P o.project) : P o'.project := by
  induction h with
  | refl => exact hP
  | call _ hc hrun ih => exact hcall _ _ _ hc hrun ih

end MylifeHome.Studio.Ui
