import MylifeHome.Studio.Ui.Edits

/-!
# The ids of the elements of a view

New ids are checked for a colon, and all the elements of a view get their ids from calls
that check them.
-/
namespace MylifeHome.Studio.Ui

open MylifeHome.Lib MylifeHome.Lib.Program
open MylifeHome.Studio.Core (hasColon)

/-- No id of a collection has a colon. -/
def Plain {α : Type} (items : OMap String α) : Prop := ∀ id, items.has id = true →
    hasColon id = false

/-- The controls and the template instances of a view have plain ids. -/
structure PlainView (view : UiViewData) : Prop where
  controls : Plain view.controls
  templates : Plain view.templates

section Collections

variable {α : Type} {items : OMap String α} {id newId : String}

theorem Plain.set (h : Plain items) (hid : hasColon id = false) (item : α) :
    Plain (items.set id item) := by
  intro id' hhas
  rw [OMap.has_set, Bool.or_eq_true, decide_eq_true_eq] at hhas
  rcases hhas with rfl | hhas
  · exact hid
  · exact h id' hhas

theorem Plain.delete (h : Plain items) (id : String) : Plain (items.delete id) := by
  intro id' hhas
  rw [OMap.has_delete, Bool.and_eq_true] at hhas
  exact h id' hhas.2

theorem Plain.rename (h : Plain items) (hnew : hasColon newId = false) :
    Plain (items.rename id newId) := by
  unfold OMap.rename
  split
  · exact (h.delete id).set hnew _
  · exact h

theorem Plain.modify (h : Plain items) (id : String) (f : α → α) : Plain (items.modify id f) := by
  intro id' hhas
  rw [OMap.has_modify] at hhas
  exact h id' hhas

theorem Plain.mapVal (h : Plain items) (f : α → α) : Plain (items.mapVal f) := by
  intro id' hhas
  rw [OMap.has_mapVal] at hhas
  exact h id' hhas

theorem Plain.foldl_delete (h : Plain items) (ids : List String) :
    Plain (ids.foldl (fun m id => m.delete id) items) := by
  induction ids generalizing items with
  | nil => exact h
  | cons id ids ih => exact ih (h.delete id)

end Collections

section Views

variable {view : UiViewData}

/-- An element that is cleared stays in its place. -/
theorem PlainView.clearComponentUsage {usage : ComponentUsage} {cleared : UiViewData × Bool}
    (h : PlainView view)
    (hc : ViewModel.clearComponentUsage view usage = .ok cleared) : PlainView cleared.1 := by
  unfold ViewModel.clearComponentUsage at hc
  split at hc
  · split at hc
    · cases hc
      exact h
    · next control hget =>
      cases hc
      exact ⟨h.controls.set (h.controls _ (OMap.has_iff.mpr ⟨control, hget⟩)) _, h.templates⟩
  · split at hc
    · cases hc
      exact h
    · next data hget =>
      cases hc
      exact ⟨h.controls, h.templates.set (h.templates _ (OMap.has_iff.mpr ⟨data, hget⟩)) _⟩
  · cases hc
    exact h
  · cases hc

theorem PlainView.empty {height width : ℚ} :
    PlainView { height := height, width := width, controls := ∅, templates := ∅ } :=
  ⟨fun _ h => (by cases h), fun _ h => (by cases h)⟩

end Views

/-! ## Calls -/

section Calls

variable {project : UiProject}

/-- All the elements of the project have plain ids. -/
def PlainIds (project : UiProject) : Prop := project.AllViews PlainView

theorem PlainIds.updateControls (h : PlainIds project) {v : ViewRef}
    {change : OMap String UiControlData → OMap String UiControlData}
    (hchange : ∀ view, project.getView v = .ok view → Plain view.controls →
      Plain (change view.controls)) :
    PlainIds (project.updateControls v change) :=
  h.updateView fun view hview hplain => ⟨hchange view hview hplain.controls, hplain.templates⟩

theorem PlainIds.updateTemplates (h : PlainIds project) {v : ViewRef}
    {change : OMap String UiTemplateInstanceData → OMap String UiTemplateInstanceData}
    (hchange : ∀ view, project.getView v = .ok view → Plain view.templates →
      Plain (change view.templates)) :
    PlainIds (project.updateTemplates v change) :=
  h.updateView fun view hview hplain => ⟨hplain.controls, hchange view hview hplain.templates⟩

theorem PlainIds.eachView (h : PlainIds project) {onWindow : UiWindowData → UiWindowData × Bool}
    {onTemplate : UiTemplateData → UiTemplateData × Bool}
    (hw : ∀ window, PlainView window.toUiViewData → PlainView (onWindow window).1.toUiViewData)
    (ht : ∀ template, PlainView template.toUiViewData →
      PlainView (onTemplate template).1.toUiViewData) :
    PlainIds (project.eachView onWindow onTemplate) := UiProject.AllViews.eachView h hw ht

theorem PlainIds.eachViewData (h : PlainIds project) {handler : UiViewData → UiViewData × Bool}
    (hhandler : ∀ view, PlainView view → PlainView (handler view).1) :
    PlainIds (project.eachViewData handler) :=
  UiProject.AllViews.eachView h (fun window => hhandler window.toUiViewData) fun template =>
    hhandler template.toUiViewData

theorem PlainIds.clearUsage (h : PlainIds project) (usage : ComponentUsage) :
    PlainIds (project.clearUsage usage) := by
  have hin : ∀ v, PlainIds (UiProject.clearUsage.clearIn project usage v) := by
    refine fun v => UiProject.AllViews.updateView h fun view _ hview => ?_
    split
    · next hc => exact hview.clearComponentUsage hc
    · exact hview
  unfold UiProject.clearUsage
  split
  · exact hin _
  · exact hin _
  · exact h

theorem PlainIds.foldl {ι : Type} {change : UiProject → ι → UiProject}
    (hchange : ∀ project i, PlainIds project → PlainIds (change project i)) (l : List ι)
    (h : PlainIds project) :
    PlainIds (l.foldl change project) := by
  induction l generalizing project with
  | nil => exact h
  | cons i l ih => exact ih (hchange project i h)

/-- Every accepted call keeps the ids plain. -/
theorem PlainIds.applied {c : Call} (h : PlainIds project) (hacc : c.Accepted project) :
    PlainIds (c.applied project) := by
  have hcontrols : ∀ {view : UiViewData} {handler : UiControlData → UiControlData × Bool},
    PlainView view →
      PlainView (ViewModel.eachControl view handler).1 := fun hview =>
        ⟨hview.controls.mapVal _, hview.templates⟩
  cases c with
  | applyRefreshComponents componentData usageToClear =>
    exact PlainIds.foldl (fun _ u h => h.clearUsage u) usageToClear h
  | setDefaultWindow defaultWindow => exact h
  | setResource id resource => exact h
  | clearResource id => exact PlainIds.eachView h (fun _ => hcontrols) fun _ => hcontrols
  | renameResource id newId => exact PlainIds.eachView h (fun _ => hcontrols) fun _ => hcontrols
  | setStyle id style => exact h
  | clearStyle id => exact PlainIds.eachView h (fun _ => hcontrols) fun _ hview => hview
  | renameStyle id newId => exact PlainIds.eachView h (fun _ => hcontrols) fun _ hview => hview
  | newWindow id =>
    refine ⟨fun id' window hget => ?_, h.2⟩
    rcases OMap.get_set_eq_some.mp hget with ⟨-, rfl⟩ | ⟨-, hget⟩
    · exact .empty
    · exact h.1 id' window hget
  | clearWindow id =>
    have hput : PlainIds (ProjectModel.putWindows project (project.windows.delete id)) :=
      ⟨fun id' window hget => h.1 id' window (OMap.get_delete_eq_some.mp hget).2, h.2⟩
    exact PlainIds.eachView hput (fun _ => hcontrols) fun _ => hcontrols
  | renameWindow id newId =>
    have hput : PlainIds (ProjectModel.putWindows project (project.windows.rename id newId)) := by
      refine ⟨fun id' window hget => ?_, h.2⟩
      obtain ⟨old, hold⟩ := OMap.exists_of_get_rename hget
      exact h.1 old window hold
    exact PlainIds.eachView hput (fun _ => hcontrols) fun _ => hcontrols
  | cloneWindow id newId =>
    rw [Call.applied]
    split
    · next window hw =>
      refine ⟨fun id' window' hget => ?_, h.2⟩
      rcases OMap.get_set_eq_some.mp hget with ⟨-, rfl⟩ | ⟨-, hget⟩
      · exact h.1 id _ hw
      · exact h.1 id' window' hget
    · exact h
  | setWindowProperties id properties =>
    refine ⟨fun id' window hget => ?_, h.2⟩
    rw [Call.applied, ProjectModel.putWindows, OMap.get_modify] at hget
    split at hget
    · obtain ⟨old, hold, rfl⟩ := Option.map_eq_some_iff.mp hget
      exact ⟨(h.1 id old hold).controls, (h.1 id old hold).templates⟩
    · exact h.1 id' window hget
  | newTemplate id =>
    refine ⟨h.1, fun id' template hget => ?_⟩
    rcases OMap.get_set_eq_some.mp hget with ⟨-, rfl⟩ | ⟨-, hget⟩
    · exact .empty
    · exact h.2 id' template hget
  | clearTemplate id =>
    have hput : PlainIds (ProjectModel.putTemplates project (project.templates.delete id)) :=
      ⟨h.1, fun id' template hget => h.2 id' template (OMap.get_delete_eq_some.mp hget).2⟩
    exact hput.eachViewData fun view hview => ⟨hview.controls, hview.templates.foldl_delete _⟩
  | renameTemplate id newId =>
    have hput : PlainIds (ProjectModel.putTemplates project
        (project.templates.rename id newId)) := by
      refine ⟨h.1, fun id' template hget => ?_⟩
      obtain ⟨old, hold⟩ := OMap.exists_of_get_rename hget
      exact h.2 old template hold
    exact hput.eachViewData fun view hview => ⟨hview.controls, hview.templates.mapVal _⟩
  | cloneTemplate id newId =>
    rw [Call.applied]
    split
    · next template ht =>
      refine ⟨h.1, fun id' template' hget => ?_⟩
      rcases OMap.get_set_eq_some.mp hget with ⟨-, rfl⟩ | ⟨-, hget⟩
      · exact h.2 id _ ht
      · exact h.2 id' template' hget
    · exact h
  | setTemplateProperties id properties =>
    exact UiProject.AllViews.updateTemplate h fun template _ hview =>
      ⟨hview.controls, hview.templates⟩
  | setTemplateExport id exportId memberType valueType =>
    rw [Call.applied]
    refine PlainIds.eachViewData (UiProject.AllViews.updateTemplate h ?_) ?_
    · exact fun _ _ hview => hview
    · exact fun view hview => ⟨hview.controls, hview.templates.mapVal _⟩
  | clearTemplateExport id exportId =>
    rw [Call.applied]
    refine PlainIds.eachViewData (UiProject.AllViews.updateTemplate h ?_) ?_
    · exact fun _ _ hview => ⟨hview.controls.mapVal _, hview.templates.mapVal _⟩
    · exact fun view hview => ⟨hview.controls, hview.templates.mapVal _⟩
  | setTemplateBulkPatterns id patterns =>
    rw [Call.applied]
    refine PlainIds.foldl (fun project e h => UiProject.AllViews.updateTemplate h ?_)
      patterns.entries h
    exact fun _ _ hview => hview
  | newControl v id x y type =>
    obtain ⟨view, hview, hnew⟩ := hacc
    exact h.updateControls fun _ _ hplain => hplain.set hnew.2 _
  | clearControl v id => exact h.updateControls fun _ _ hplain => hplain.delete id
  | renameControl v id newId =>
    obtain ⟨view, hview, hnew⟩ := hacc
    exact h.updateControls fun _ _ hplain => hplain.rename hnew.2
  | cloneControl v id newId target =>
    obtain ⟨view, targetView, -, -, -, hnew⟩ := hacc
    rw [Call.applied]
    split
    · exact h.updateControls fun _ _ hplain => hplain.set hnew.2 _
    · exact h
  | setControlProperties v id properties =>
    exact h.updateControls fun _ _ hplain => hplain.modify id _
  | newTemplateInstance v id templateId x y =>
    obtain ⟨-, view, -, hnew⟩ := hacc
    rw [Call.applied]
    split
    · exact h.updateTemplates fun _ _ hplain => hplain.set hnew.2 _
    · exact h
  | clearTemplateInstance v id => exact h.updateTemplates fun _ _ hplain => hplain.delete id
  | renameTemplateInstance v id newId =>
    obtain ⟨view, -, hnew⟩ := hacc
    exact h.updateTemplates fun _ _ hplain => hplain.rename hnew.2
  | cloneTemplateInstance v id newId =>
    obtain ⟨view, -, -, hnew⟩ := hacc
    rw [Call.applied]
    split
    · exact h.updateTemplates fun _ _ hplain => hplain.set hnew.2 _
    · exact h
  | moveTemplateInstance v id x y => exact h.updateTemplates fun _ _ hplain => hplain.modify id _
  | setTemplateInstanceTemplate v id templateId =>
    rw [Call.applied]
    split
    · exact h.updateTemplates fun _ _ hplain => hplain.modify id _
    · exact h
  | setTemplateInstanceBindings v id bindings =>
    rw [Call.applied]
    exact PlainIds.foldl (fun _ _ h => h.updateTemplates fun _ _ hplain => hplain.modify id _)
      bindings.entries h

/-- All that accepted calls make of a new project has plain ids. -/
theorem plainIds_of_reaches {o : Opened}
    (h : Reaches (fun _ _ => True) { project := UiProjects.createNew } o) :
    PlainIds o.project := by
  refine h.keeps (P := PlainIds) (fun o o' c _ hrun hplain => ?_) ⟨fun _ _ h => (by cases h),
    fun _ _ h => (by cases h)⟩
  obtain ⟨hacc, hproject⟩ := UiOpenedProject.call_ok hrun
  rw [hproject]
  exact hplain.applied hacc

end Calls

end MylifeHome.Studio.Ui
