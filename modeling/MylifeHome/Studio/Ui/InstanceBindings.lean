import MylifeHome.Studio.Ui.Edits

/-!
# The bindings of an instance and the exports of its template

An instance has a binding for each export of its template, and no other. The exports, the
instances and the templates are edited by different calls, each of which keeps this.
-/
namespace MylifeHome.Studio.Ui

open MylifeHome.Lib MylifeHome.Lib.Program ProjectModel OMap UiOpenedProject

/-- The ids of the exports of the templates. -/
def UiProject.exportIds (project : UiProject) (templateId : String) : Option (String → Bool) :=
  (project.templates.get templateId).map fun template => template.exports.has

/-- The template of an instance is there, and the bindings are those of its exports. -/
def Follows (exportIds : String → Option (String → Bool)) (data : UiTemplateInstanceData) : Prop :=
  ∃ templateId, data.templateId = some templateId ∧ exportIds templateId = some data.bindings.has

/-- The instances of a view follow their templates. -/
def ViewFollows (exportIds : String → Option (String → Bool)) (view : UiViewData) : Prop :=
  ∀ id data, view.templates.get id = some data → Follows exportIds data

/-- The instances of all views follow their templates. -/
def BindingsFollow (project : UiProject) : Prop := project.AllViews (ViewFollows project.exportIds)

theorem bindingsFollow_iff {project : UiProject} : BindingsFollow project ↔
    ∀ v view, project.getView v = .ok view → ∀ id data, view.templates.get id = some data →
      ∃ templateId template, data.templateId = some templateId ∧ project.templates.get templateId =
        some template ∧
        ∀ exportId, exportId ∈ data.bindings.keys ↔ exportId ∈ template.exports.keys := by
  have hfollows : ∀ data, Follows project.exportIds data ↔ ∃ templateId template, data.templateId =
    some templateId ∧
      project.templates.get templateId = some template ∧
        ∀ exportId, exportId ∈ data.bindings.keys ↔ exportId ∈ template.exports.keys := by
    intro data
    simp only [Follows, UiProject.exportIds, Option.map_eq_some_iff, mem_keys, ← has_iff]
    refine exists_congr fun templateId => ⟨?_, ?_⟩
    · rintro ⟨hid, template, ht, hkeys⟩
      exact ⟨template, hid, ht, fun exportId => by rw [hkeys]⟩
    · rintro ⟨template, hid, ht, hkeys⟩
      exact ⟨hid, template, ht, funext fun exportId => Bool.eq_iff_iff.mpr (hkeys exportId).symm⟩
  simp only [← hfollows]
  refine ⟨fun h v view hv => h.getView hv,
    fun h => ⟨fun id window hw => ?_, fun id template ht => ?_⟩⟩
  · exact h (.window id) _ (except_map_ok.mpr ⟨window, (CollectionModel.getById_ok _).mpr hw, rfl⟩)
  · exact h (.template id) _
      (except_map_ok.mpr ⟨template, (CollectionModel.getById_ok _).mpr ht, rfl⟩)

/-! ## Instances -/

section Instances

variable {exportIds exportIds' : String → Option (String → Bool)} {view : UiViewData}

theorem Follows.congr {data data' : UiTemplateInstanceData} (h : Follows exportIds data)
    (hid : data'.templateId = data.templateId) (hkeys : data'.bindings.has = data.bindings.has) :
    Follows exportIds data' := by
  obtain ⟨templateId, htemplate, hexports⟩ := h
  exact ⟨templateId, hid.trans htemplate, hexports.trans (congrArg some hkeys.symm)⟩

/-- More templates. -/
theorem Follows.mono {data : UiTemplateInstanceData} (h : Follows exportIds data)
    (hexports : ∀ templateId e, exportIds templateId = some e → exportIds' templateId = some e) :
    Follows exportIds' data := by
  obtain ⟨templateId, htemplate, he⟩ := h
  exact ⟨templateId, htemplate, hexports templateId _ he⟩

theorem ViewFollows.mapVal {change : UiTemplateInstanceData → UiTemplateInstanceData}
    (h : ViewFollows exportIds view)
    (hchange : ∀ data, Follows exportIds data → Follows exportIds' (change data)) :
    ViewFollows exportIds' { view with templates := view.templates.mapVal change } := by
  intro id data hget
  obtain ⟨old, hold, rfl⟩ := Option.map_eq_some_iff.mp ((get_mapVal _ _ _).symm.trans hget)
  exact hchange old (h id old hold)

theorem ViewFollows.modify {id : String} {change : UiTemplateInstanceData → UiTemplateInstanceData}
    (h : ViewFollows exportIds view)
    (hchange : ∀ data, view.templates.get id = some data → Follows exportIds data →
      Follows exportIds (change data)) :
    ViewFollows exportIds { view with templates := view.templates.modify id change } := by
  intro id' data hget
  rw [get_modify] at hget
  split at hget
  · next hid =>
    subst hid
    obtain ⟨old, hold, rfl⟩ := Option.map_eq_some_iff.mp hget
    exact hchange old hold (h _ old hold)
  · exact h id' data hget

theorem ViewFollows.set {id : String} {data : UiTemplateInstanceData}
    (h : ViewFollows exportIds view)
    (hdata : Follows exportIds data) : ViewFollows exportIds { view with
      templates := view.templates.set id data } := by
  intro id' data' hget
  rcases get_set_eq_some.mp hget with ⟨-, rfl⟩ | ⟨-, hget⟩
  · exact hdata
  · exact h id' data' hget

theorem ViewFollows.delete {id : String} (h : ViewFollows exportIds view) :
    ViewFollows exportIds { view with templates := view.templates.delete id } :=
  fun id' data hget => h id' data (get_delete_eq_some.mp hget).2

theorem ViewFollows.rename {id newId : String} (h : ViewFollows exportIds view) :
    ViewFollows exportIds { view with templates := view.templates.rename id newId } := by
  intro id' data hget
  obtain ⟨id'', hget⟩ := exists_of_get_rename hget
  exact h id'' data hget

/-- A new instance of a template. -/
theorem follows_prepareBindings {project : UiProject} {templateId : String}
    {template : UiTemplateData} (ht : project.templates.get templateId = some template)
    (data : UiTemplateInstanceData) :
    Follows project.exportIds
      { data with
        templateId := some templateId, bindings := TemplateModel.prepareBindings template } := by
  refine ⟨templateId, rfl, ?_⟩
  rw [UiProject.exportIds, ht, Option.map_some]
  exact congrArg some (funext fun exportId => (has_mapVal _ _ exportId).symm)

/-- Clearing a usage does not change which bindings there are. -/
theorem Follows.clearComponentUsage {data : UiTemplateInstanceData} (h : Follows exportIds data) :
    Follows exportIds (TemplateInstanceModel.clearComponentUsage data).1 :=
  h.congr rfl (funext fun exportId => has_mapVal _ _ exportId)

theorem ViewFollows.clearComponentUsage {usage : ComponentUsage} {cleared : UiViewData × Bool}
    (h : ViewFollows exportIds view) (hc : ViewModel.clearComponentUsage view usage = .ok cleared) :
    ViewFollows exportIds cleared.1 := by
  unfold ViewModel.clearComponentUsage at hc
  split at hc
  · split at hc
    · cases hc; exact h
    · cases hc; exact h
  · split at hc
    · cases hc; exact h
    · next item hget =>
      cases hc
      exact h.set (h _ item hget).clearComponentUsage
  · cases hc; exact h
  · cases hc

/-- The instances of a template get or lose a binding with its export. -/
theorem ViewFollows.eachInstanceOf {templateId : String}
    {change : UiTemplateInstanceData → UiTemplateInstanceData}
    {edit : (String → Bool) → String → Bool} (h : ViewFollows exportIds view)
    (hid : ∀ data, (change data).templateId = data.templateId)
    (hkeys : ∀ data, (change data).bindings.has = edit data.bindings.has)
    (hself : ∀ e, exportIds templateId = some e → exportIds' templateId = some (edit e))
    (hother : ∀ t ≠ templateId, exportIds' t = exportIds t) :
    ViewFollows exportIds' (ViewModel.eachInstanceOf view templateId change).1 := by
  refine h.mapVal fun data hdata => ?_
  obtain ⟨t, ht, he⟩ := hdata
  dsimp only
  split
  · next hof =>
    obtain rfl : templateId = t := by
      rw [ViewModel.isOf, ht, decide_eq_true_eq, Option.some.injEq] at hof
      exact hof.symm
    exact ⟨templateId, (hid data).trans ht, by rw [hself _ he, hkeys]⟩
  · next hof =>
    refine ⟨t, ht, (hother t ?_).trans he⟩
    rintro rfl
    exact hof (by rw [ViewModel.isOf, ht, decide_eq_true_eq])

theorem ViewFollows.onClearTemplate {templateId : String} (h : ViewFollows exportIds view)
    (hother : ∀ t ≠ templateId, exportIds' t = exportIds t) :
    ViewFollows exportIds' (ViewModel.onClearTemplate view templateId).1 := by
  intro id data hget
  rw [ViewModel.onClearTemplate, get_foldl_delete] at hget
  split at hget
  · cases hget
  · next hid =>
    obtain ⟨t, ht, he⟩ := h id data hget
    refine ⟨t, ht, (hother t ?_).trans he⟩
    rintro rfl
    refine hid (List.mem_map.mpr ⟨(id, data), List.mem_filter.mpr ⟨mem_entries.mpr hget, ?_⟩, rfl⟩)
    rw [ViewModel.isOf, ht, decide_eq_true_eq]

theorem ViewFollows.onRenameTemplate {templateId newId : String} (h : ViewFollows exportIds view)
    (hself : ∀ e, exportIds templateId = some e → exportIds' newId = some e)
    (hother : ∀ t e, t ≠ templateId → exportIds t = some e → exportIds' t = some e) :
    ViewFollows exportIds' (ViewModel.onRenameTemplate view templateId newId).1 := by
  refine h.mapVal fun data ⟨t, ht, he⟩ => ?_
  by_cases hid : t = templateId
  · subst hid
    refine ⟨newId, ?_, hself _ he⟩
    simp [TemplateInstanceModel.onRenameTemplate, renameRef, ht]
  · refine ⟨t, ?_, hother t _ hid he⟩
    simp [TemplateInstanceModel.onRenameTemplate, renameRef, ht, hid]

end Instances

/-! ## Exports -/

section Exports

variable {project : UiProject}

theorem exportIds_eachView {onWindow : UiWindowData → UiWindowData × Bool}
    {onTemplate : UiTemplateData → UiTemplateData × Bool}
    (h : ∀ template, (onTemplate template).1.exports = template.exports) :
    (project.eachView onWindow onTemplate).exportIds = project.exportIds := by
  funext templateId
  rw [UiProject.exportIds, UiProject.get_templates_eachView, Option.map_map]
  exact congrArg (fun f => (project.templates.get templateId).map f) (funext fun template => by
    rw [Function.comp_apply, h])

theorem exportIds_updateTemplate (id : String) (change : UiTemplateData → UiTemplateData)
    (t : String) :
    (project.updateTemplate id change).exportIds t =
      if t = id then (project.templates.get id).map fun template => (change template).exports.has
      else project.exportIds t := by
  rw [UiProject.exportIds, UiProject.updateTemplate, putTemplates, get_modify]
  split
  · rw [Option.map_map]
    rfl
  · rfl

/-- An edit of a template that changes no export id. -/
theorem exportIds_updateTemplate_of_has {id : String} {change : UiTemplateData → UiTemplateData}
    (h : ∀ template, project.templates.get id = some template → (change template).exports.has =
      template.exports.has) :
    (project.updateTemplate id change).exportIds = project.exportIds := by
  funext t
  rw [exportIds_updateTemplate]
  split
  · next ht =>
    subst ht
    exact Option.map_congr h
  · rfl

theorem exportIds_updateView (v : ViewRef) (change : UiViewData → UiViewData) :
    (project.updateView v change).exportIds = project.exportIds := by
  cases v with
  | window id => rfl
  | template id => exact exportIds_updateTemplate_of_has fun _ _ => rfl

theorem exportIds_of_get {project' : UiProject} {t t' : String}
    (h : project'.templates.get t' = project.templates.get t) : project'.exportIds t' =
      project.exportIds t := by
  rw [UiProject.exportIds, UiProject.exportIds, h]

end Exports

/-! ## Calls -/

section Calls

variable {project : UiProject}

theorem BindingsFollow.eachView {onWindow : UiWindowData → UiWindowData × Bool}
    {onTemplate : UiTemplateData → UiTemplateData × Bool} (h : BindingsFollow project)
    (hw : ∀ window, (onWindow window).1.templates = window.templates)
    (ht : ∀ template, (onTemplate template).1.templates = template.templates ∧
      (onTemplate template).1.exports =
        template.exports) : BindingsFollow (project.eachView onWindow onTemplate) := by
  rw [BindingsFollow, exportIds_eachView fun template => (ht template).2]
  refine UiProject.AllViews.eachView h (fun window hP id data hget => hP id data ?_) fun template hP
    id data hget =>
    hP id data ?_
  · rw [← hw window]
    exact hget
  · rw [← (ht template).1]
    exact hget

/-- An edit of a template that changes no export id and no instance. -/
theorem BindingsFollow.updateTemplate {id : String} {change : UiTemplateData → UiTemplateData}
    (h : BindingsFollow project)
    (hexports : ∀ template, (change template).exports.has = template.exports.has)
    (hview : ∀ template, (change template).templates = template.templates) :
    BindingsFollow (project.updateTemplate id change) := by
  rw [BindingsFollow, exportIds_updateTemplate_of_has fun template _ => hexports template]
  refine UiProject.AllViews.updateTemplate h fun template _ hP id data hget => hP id data ?_
  rw [← hview template]
  exact hget

theorem BindingsFollow.updateView {v : ViewRef} {change : UiViewData → UiViewData}
    (h : BindingsFollow project)
    (hchange : ∀ view, project.getView v = .ok view → ViewFollows project.exportIds view →
      ViewFollows project.exportIds (change view)) :
        BindingsFollow (project.updateView v change) := by
  rw [BindingsFollow, exportIds_updateView]
  exact UiProject.AllViews.updateView h hchange

theorem BindingsFollow.updateControls (h : BindingsFollow project) (v : ViewRef)
    (change : OMap String UiControlData → OMap String UiControlData) :
    BindingsFollow (project.updateControls v change) :=
  h.updateView fun _ _ hview => hview

theorem BindingsFollow.putWindows {windows : OMap String UiWindowData} (h : BindingsFollow project)
    (hw : ∀ id window, windows.get id = some window →
      ViewFollows project.exportIds window.toUiViewData) :
    BindingsFollow (putWindows project windows) := ⟨hw, h.2⟩

/-- One more template, whose instances follow the templates that were there. -/
theorem BindingsFollow.newTemplate {id : String} {template : UiTemplateData}
    (h : BindingsFollow project) (hnew : New project.templates id)
    (ht : ViewFollows project.exportIds template.toUiViewData) :
    BindingsFollow (putTemplates project (project.templates.set id template)) := by
  have hexports : ∀ t e, project.exportIds t = some e →
      (putTemplates project (project.templates.set id template)).exportIds t = some e := by
    intro t e he
    rw [← he]
    refine exportIds_of_get (get_set_ne _ _ ?_)
    rintro rfl
    rw [UiProject.exportIds, has_eq_false.mp hnew.1] at he
    cases he
  have hmono : ∀ view, ViewFollows project.exportIds view → ViewFollows
      (putTemplates project (project.templates.set id template)).exportIds view :=
    fun view hview id data hget => (hview id data hget).mono hexports
  refine ⟨fun id window hw => hmono _ (h.1 id window hw), fun id' template' hget => ?_⟩
  rcases get_set_eq_some.mp hget with ⟨-, rfl⟩ | ⟨-, hget⟩
  · exact hmono _ ht
  · exact hmono _ (h.2 id' template' hget)

theorem BindingsFollow.clearTemplate (h : BindingsFollow project) (id : String) :
    BindingsFollow ((Call.clearTemplate id).applied project) := by
  have hviews : (putTemplates project (project.templates.delete id)).AllViews
      (ViewFollows project.exportIds) :=
        ⟨h.1, fun id' template hget => h.2 id' template (get_delete_eq_some.mp hget).2⟩
  rw [BindingsFollow, Call.applied, UiProject.eachViewData, exportIds_eachView fun _ => rfl]
  have hother : ∀ t ≠ id, (putTemplates project (project.templates.delete id)).exportIds t =
      project.exportIds t := fun t ht => exportIds_of_get (get_delete_ne _ ht)
  exact hviews.eachView (fun window hP => hP.onClearTemplate hother) fun template hP =>
    hP.onClearTemplate hother

theorem BindingsFollow.renameTemplate {id newId : String} (h : BindingsFollow project)
    (hnew : New project.templates newId) :
    BindingsFollow ((Call.renameTemplate id newId).applied project) := by
  have hviews : (putTemplates project (project.templates.rename id newId)).AllViews
      (ViewFollows project.exportIds) := by
    refine ⟨h.1, fun id' template hget => ?_⟩
    obtain ⟨old, hold⟩ := exists_of_get_rename hget
    exact h.2 old template hold
  rw [BindingsFollow, Call.applied, UiProject.eachViewData, exportIds_eachView fun _ => rfl]
  have hself : ∀ e, project.exportIds id = some e →
      (putTemplates project (project.templates.rename id newId)).exportIds newId = some e := by
    intro e he
    obtain ⟨template, ht, -⟩ := Option.map_eq_some_iff.mp he
    rw [← he]
    refine exportIds_of_get ?_
    rw [putTemplates, get_rename ht, if_pos rfl, ht]
  have hother : ∀ t e, t ≠ id → project.exportIds t = some e →
      (putTemplates project (project.templates.rename id newId)).exportIds t = some e := by
    intro t e htid he
    rw [← he]
    refine exportIds_of_get ?_
    cases hid : project.templates.get id with
    | none => rw [putTemplates, rename, hid]
    | some template =>
      have htnew : t ≠ newId := by
        rintro rfl
        rw [UiProject.exportIds, has_eq_false.mp hnew.1] at he
        cases he
      rw [putTemplates, get_rename hid, if_neg htnew, if_neg htid]
  exact hviews.eachView (fun window hP => hP.onRenameTemplate hself hother) fun template hP =>
    hP.onRenameTemplate hself hother

/-- An export of a template and the bindings of its instances are edited together. -/
theorem BindingsFollow.editExport {id : String} {change : UiTemplateData → UiTemplateData}
    {onInstance : UiTemplateInstanceData → UiTemplateInstanceData} (h : BindingsFollow project)
    (edit : (String → Bool) → String → Bool)
    (hview : ∀ template, ViewFollows project.exportIds template.toUiViewData →
      ViewFollows project.exportIds (change template).toUiViewData)
    (hexports : ∀ template, (change template).exports.has = edit template.exports.has)
    (hid : ∀ data, (onInstance data).templateId = data.templateId)
    (hkeys : ∀ data, (onInstance data).bindings.has = edit data.bindings.has) :
    BindingsFollow ((project.updateTemplate id change).eachViewData fun view =>
      ViewModel.eachInstanceOf view id onInstance) := by
  have hviews : (project.updateTemplate id change).AllViews (ViewFollows project.exportIds) :=
    UiProject.AllViews.updateTemplate h fun template _ => hview template
  rw [BindingsFollow, UiProject.eachViewData, exportIds_eachView fun _ => rfl]
  have hself : ∀ e, project.exportIds id = some e →
      (project.updateTemplate id change).exportIds id = some (edit e) := by
    intro e he
    obtain ⟨template, ht, rfl⟩ := Option.map_eq_some_iff.mp he
    rw [exportIds_updateTemplate, if_pos rfl, ht, Option.map_some, hexports]
  have hother : ∀ t ≠ id, (project.updateTemplate id change).exportIds t = project.exportIds t := by
    intro t ht
    rw [exportIds_updateTemplate, if_neg ht]
  exact hviews.eachView (fun window hP => hP.eachInstanceOf hid hkeys hself hother)
    fun template hP =>
    hP.eachInstanceOf hid hkeys hself hother

theorem BindingsFollow.clearUsage (h : BindingsFollow project) (usage : ComponentUsage) :
    BindingsFollow (project.clearUsage usage) := by
  have hin : ∀ v, BindingsFollow (UiProject.clearUsage.clearIn project usage v) := by
    refine fun v => h.updateView fun view _ hview => ?_
    split
    · next hc => exact hview.clearComponentUsage hc
    · exact hview
  unfold UiProject.clearUsage
  split
  · exact hin _
  · exact hin _
  · exact h

/-- A binding is set only if it is there. -/
theorem setBinding_ok {v : ViewRef} {id exportId : String} {binding : UiTemplateInstanceBinding}
    {o o' : Opened}
    (h : (TemplateInstanceModel.setBinding v id exportId binding).run o = .ok ⟨⟩ o') :
    ∃ view data, o.project.getView v = .ok view ∧ view.templates.get id = some data ∧
      data.bindings.has exportId = true ∧
      o'.project = o.project.updateTemplates v fun templates => templates.modify id fun data =>
        { data with bindings := data.bindings.set exportId binding } := by
  obtain ⟨view, hview, h⟩ := run_fetch_bind_ok.mp h
  obtain ⟨data, hdata, h⟩ := run_orThrow_bind_ok.mp h
  obtain ⟨_, hcheck, h⟩ := run_fetch_bind_ok.mp h
  refine ⟨view, data, hview, (CollectionModel.getById_ok _).mp hdata, ?_, putTemplates_ok h⟩
  by_contra hhas
  rw [Bool.not_eq_true] at hhas
  unfold TemplateInstanceModel.checkBinding at hcheck
  rw [hhas, Bool.not_false, if_pos rfl] at hcheck
  obtain ⟨_, _, hcheck⟩ := except_bind_ok.mp hcheck
  cases hcheck

theorem BindingsFollow.setBindings {v : ViewRef} {id : String}
    {bindings : OMap String UiTemplateInstanceBinding} {o o' : Opened}
    (h : BindingsFollow o.project)
    (hrun : (forEach bindings.entries fun e => TemplateInstanceModel.setBinding v id e.1 e.2).run
      o = .ok ⟨⟩ o') :
    BindingsFollow o'.project := by
  refine forEach_rule (P := fun _ o => BindingsFollow o.project) (fun e _ o o' h hrun => ?_) h hrun
  obtain ⟨view, data, hview, hdata, hhas, hproject⟩ := setBinding_ok hrun
  rw [hproject]
  refine h.updateView fun view' hview' hfollows => hfollows.modify fun data' hdata' hP =>
    hP.congr rfl ?_
  cases hview.symm.trans hview'
  cases hdata.symm.trans hdata'
  funext exportId
  rw [has_set]
  by_cases he : exportId = e.1
  · rw [he, hhas, Bool.or_true]
  · rw [decide_eq_false he, Bool.false_or]

/-- Every accepted call keeps the bindings of the instances at the exports of their templates. -/
theorem BindingsFollow.call {c : Call} {o o' : Opened} (h : BindingsFollow o.project)
    (hrun : (call c).run o = .ok ⟨⟩ o') : BindingsFollow o'.project := by
  obtain ⟨hacc, hproject⟩ := call_ok hrun
  cases c with
  | setTemplateInstanceBindings v id bindings =>
    obtain ⟨-, o₁, hbody, hp⟩ := onInstance_ok hrun
    rw [hp]
    exact h.setBindings hbody
  | applyRefreshComponents componentData usageToClear =>
    rw [hproject]
    have hall : ∀ (usage : List ComponentUsage) (project : UiProject), BindingsFollow project →
        BindingsFollow (usage.foldl UiProject.clearUsage project) := by
      intro usage
      induction usage with
      | nil => exact fun _ h => h
      | cons u usage ih => exact fun project h => ih _ (h.clearUsage u)
    exact hall usageToClear _ h
  | setDefaultWindow defaultWindow => rw [hproject]; exact h
  | setResource id resource => rw [hproject]; exact h
  | clearResource id => rw [hproject]; exact BindingsFollow.eachView h (fun _ => rfl) fun _ =>
    ⟨rfl, rfl⟩
  | renameResource id newId =>
    rw [hproject]; exact BindingsFollow.eachView h (fun _ => rfl) fun _ => ⟨rfl, rfl⟩
  | setStyle id style => rw [hproject]; exact h
  | clearStyle id => rw [hproject]; exact BindingsFollow.eachView h (fun _ => rfl) fun _ =>
    ⟨rfl, rfl⟩
  | renameStyle id newId => rw [hproject]; exact BindingsFollow.eachView h (fun _ => rfl) fun _ =>
    ⟨rfl, rfl⟩
  | newWindow id =>
    rw [hproject]
    refine h.putWindows fun id' window hget => ?_
    rcases get_set_eq_some.mp hget with ⟨-, rfl⟩ | ⟨-, hget⟩
    · exact fun _ _ hnone => by cases hnone
    · exact h.1 id' window hget
  | clearWindow id =>
    rw [hproject]
    refine BindingsFollow.eachView ?_ (fun _ => rfl) fun _ => ⟨rfl, rfl⟩
    exact h.putWindows fun id' window hget => h.1 id' window (get_delete_eq_some.mp hget).2
  | renameWindow id newId =>
    rw [hproject]
    refine BindingsFollow.eachView ?_ (fun _ => rfl) fun _ => ⟨rfl, rfl⟩
    refine h.putWindows fun id' window hget => ?_
    obtain ⟨old, hold⟩ := exists_of_get_rename hget
    exact h.1 old window hold
  | cloneWindow id newId =>
    rw [hproject, Call.applied]
    split
    · next window hw =>
      refine h.putWindows fun id' window' hget => ?_
      rcases get_set_eq_some.mp hget with ⟨-, rfl⟩ | ⟨-, hget⟩
      · exact h.1 id _ hw
      · exact h.1 id' window' hget
    · exact h
  | setWindowProperties id properties =>
    rw [hproject]
    refine h.putWindows fun id' window hget => ?_
    rw [get_modify] at hget
    split at hget
    · obtain ⟨old, hold, rfl⟩ := Option.map_eq_some_iff.mp hget
      exact h.1 id old hold
    · exact h.1 id' window hget
  | newTemplate id =>
    rw [hproject]
    exact h.newTemplate hacc fun _ _ hnone => by cases hnone
  | clearTemplate id => rw [hproject]; exact h.clearTemplate id
  | renameTemplate id newId => rw [hproject]; exact h.renameTemplate hacc
  | cloneTemplate id newId =>
    rw [hproject, Call.applied]
    split
    · next template ht => exact h.newTemplate hacc.2 (h.2 id template ht)
    · exact h
  | setTemplateProperties id properties =>
    rw [hproject]
    exact h.updateTemplate (fun _ => rfl) fun _ => rfl
  | setTemplateExport id exportId memberType valueType =>
    rw [hproject]
    refine h.editExport (fun has e => decide (e = exportId) || has e) (fun _ hP => hP)
      (fun template => ?_)
      (fun _ => rfl) fun data => ?_
    · exact funext fun e => has_set _ _ _ _
    · exact funext fun e => has_set _ _ _ _
  | clearTemplateExport id exportId =>
    rw [hproject]
    refine h.editExport (fun has e => !decide (e = exportId) && has e) (fun template hP => ?_)
      (fun template => ?_)
      (fun _ => rfl) fun data => ?_
    · exact hP.mapVal fun data hdata => hdata.congr rfl (funext fun e => has_mapVal _ _ e)
    · exact funext fun e => has_delete _ _ _
    · exact funext fun e => has_delete _ _ _
  | setTemplateBulkPatterns id patterns =>
    rw [hproject]
    have hall : ∀ (patterns : List (String × Option String)) (project : UiProject),
      BindingsFollow project →
        BindingsFollow (patterns.foldl (fun project e => project.updateTemplate id fun template =>
          TemplateModel.setBulkPattern template e.1 e.2) project) := by
      intro patterns
      induction patterns with
      | nil => exact fun _ h => h
      | cons e patterns ih =>
        exact fun project h =>
          ih _ (h.updateTemplate (fun _ => funext fun _ => has_modify _ _ _ _) fun _ => rfl)
    exact hall _ _ h
  | newControl v id x y type => rw [hproject]; exact h.updateControls v _
  | clearControl v id => rw [hproject]; exact h.updateControls v _
  | renameControl v id newId => rw [hproject]; exact h.updateControls v _
  | cloneControl v id newId target =>
    rw [hproject, Call.applied]
    split
    · exact h.updateControls target _
    · exact h
  | setControlProperties v id properties => rw [hproject]; exact h.updateControls v _
  | newTemplateInstance v id templateId x y =>
    rw [hproject, Call.applied]
    split
    · next template ht =>
        exact h.updateView fun _ _ hview => hview.set (follows_prepareBindings ht _)
    · exact h
  | clearTemplateInstance v id => rw [hproject]; exact h.updateView fun _ _ hview => hview.delete
  | renameTemplateInstance v id newId => rw [hproject]; exact h.updateView fun _ _ hview =>
    hview.rename
  | cloneTemplateInstance v id newId =>
    obtain ⟨view, hview, -, -⟩ := hacc
    rw [hproject, Call.applied, hview, Except.toOption, Option.bind_some]
    split
    · next source hsource =>
      refine h.updateView fun _ _ hfollows => hfollows.set ?_
      exact (UiProject.AllViews.getView h hview id source hsource).congr rfl rfl
    · exact h
  | moveTemplateInstance v id x y =>
    rw [hproject]
    exact h.updateView fun _ _ hview => hview.modify fun _ _ hdata => hdata.congr rfl rfl
  | setTemplateInstanceTemplate v id templateId =>
    rw [hproject, Call.applied]
    split
    · next template ht => exact h.updateView fun _ _ hview => hview.modify fun _ _ _ =>
        follows_prepareBindings ht _
    · exact h

end Calls

/-- From a project where each instance is one of an existing template and has the bindings of its
exports, accepted calls lead only to such projects. -/
theorem bindings_follow_exports {o o' : Opened}
    (h : ∀ v view, o.project.getView v = .ok view → ∀ id data, view.templates.get id = some data →
      ∃ templateId template, data.templateId = some templateId ∧
        o.project.templates.get templateId = some template ∧
        ∀ exportId, exportId ∈ data.bindings.keys ↔ exportId ∈ template.exports.keys)
    (hrun : Reaches (fun _ _ => True) o o') :
    ∀ v view, o'.project.getView v = .ok view → ∀ id data, view.templates.get id = some data →
      ∃ templateId template, data.templateId = some templateId ∧
        o'.project.templates.get templateId = some template ∧
        ∀ exportId, exportId ∈ data.bindings.keys ↔ exportId ∈ template.exports.keys := by
  rw [← bindingsFollow_iff] at h ⊢
  exact hrun.keeps (fun _ _ _ _ hcall hfollow => hfollow.call hcall) h

/-- An instance of a template, made before the template gets an export. -/
theorem bindings_follow_late_export : ∃ o₁ o₂ o₃ o₄,
    (call (.newTemplate "t")).run { project := UiProjects.createNew } = .ok ⟨⟩ o₁ ∧
      (call (.newWindow "w")).run o₁ = .ok ⟨⟩ o₂ ∧
      (call (.newTemplateInstance (.window "w") "x" "t" 0 0)).run o₂ = .ok ⟨⟩ o₃ ∧
      (call (.setTemplateExport "t" "e" .state "bool")).run o₃ = .ok ⟨⟩ o₄ ∧
      ∀ v view, o₄.project.getView v = .ok view → ∀ id data, view.templates.get id = some data →
        ∃ templateId template, data.templateId = some templateId ∧
          o₄.project.templates.get templateId = some template ∧
          ∀ exportId, exportId ∈ data.bindings.keys ↔ exportId ∈ template.exports.keys := by
  obtain ⟨o₁, h₁, o₂, h₂, o₃, h₃, o₄, h₄⟩ : ∃ o₁,
      (call (.newTemplate "t")).run { project := UiProjects.createNew } = .ok ⟨⟩ o₁ ∧ ∃ o₂,
      (call (.newWindow "w")).run o₁ = .ok ⟨⟩ o₂ ∧ ∃ o₃,
      (call (.newTemplateInstance (.window "w") "x" "t" 0 0)).run o₂ = .ok ⟨⟩ o₃ ∧ ∃ o₄,
      (call (.setTemplateExport "t" "e" .state "bool")).run o₃ = .ok ⟨⟩ o₄ :=
    ⟨_, rfl, _, rfl, _, rfl, _, rfl⟩
  refine ⟨o₁, o₂, o₃, o₄, h₁, h₂, h₃, h₄, bindings_follow_exports ?_
    (.call (.call (.call (.call .refl trivial h₁) trivial h₂) trivial h₃) trivial h₄)⟩
  rintro (id | id) view hview
  · cases hview
  · cases hview

end MylifeHome.Studio.Ui
