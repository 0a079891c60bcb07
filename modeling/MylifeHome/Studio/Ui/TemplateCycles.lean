import MylifeHome.Studio.Ui.Deploy
import MylifeHome.Studio.Ui.Edits
import MylifeHome.Studio.Ui.Validation

/-!
# Templates that contain themselves

The calls check that a template exists before an instance of it is made, and nothing
else: an instance of a template can be put into the template itself. Only three kinds of
calls can close a cycle.
-/
namespace MylifeHome.Studio.Ui

open MylifeHome.Lib MylifeHome.Lib.Program Relation OMap ViewModel UiOpenedProject
open MylifeHome.Studio.Core (Err)
open MylifeHome.Studio.Ui.Deploy (Names Uses Terminates not_uses acyclic_of_not_uses)

/-- A call that closes no cycle of templates: an instance that is put into a template is not one of
a template that leads back to it, and a new name of a template is not one that the template refers
to already. -/
def ClosesNoCycle (project : UiProject) : Call → Prop
  | .newTemplateInstance (.template id) _ templateId _ _ =>
    ¬ ReflTransGen (Uses project) templateId id
  | .setTemplateInstanceTemplate (.template id) _ templateId =>
    ¬ ReflTransGen (Uses project) templateId id
  | .renameTemplate id newId => ¬ TransGen (Uses project) id newId
  | .cloneTemplate id newId => ¬ TransGen (Uses project) id newId
  | _ => True

/-! ## What the edits do to the names in a view -/

section Names

variable {view : UiViewData} {used : String}

/-- The instances of a view are changed, but not their templates. -/
theorem names_mapVal {change : UiTemplateInstanceData → UiTemplateInstanceData}
    (h : Names { view with templates := view.templates.mapVal change } used)
    (hchange : ∀ item, propertyName (change item).templateId = propertyName item.templateId) :
      Names view used := by
  obtain ⟨id, item, hget, rfl⟩ := h
  rw [get_mapVal, Option.map_eq_some_iff] at hget
  obtain ⟨old, hget, rfl⟩ := hget
  exact ⟨id, old, hget, (hchange old).symm⟩

theorem names_modify {id : String} {change : UiTemplateInstanceData → UiTemplateInstanceData}
    (h : Names { view with templates := view.templates.modify id change } used)
    (hchange : ∀ item, propertyName (change item).templateId = propertyName item.templateId) :
      Names view used := by
  obtain ⟨id', item, hget, rfl⟩ := h
  rw [get_modify] at hget
  split at hget
  · obtain ⟨old, hold, rfl⟩ := Option.map_eq_some_iff.mp hget
    exact ⟨id, old, hold, (hchange old).symm⟩
  · exact ⟨id', item, hget, rfl⟩

/-- An instance gets a template. -/
theorem names_modify_template {id templateId : String}
    {bindings : OMap String UiTemplateInstanceBinding}
    (h : Names { view with templates := view.templates.modify id fun data =>
      { data with templateId := some templateId, bindings := bindings } } used) : Names view used ∨
        used = templateId := by
  obtain ⟨id', item, hget, rfl⟩ := h
  rw [get_modify] at hget
  split at hget
  · obtain ⟨old, hold, rfl⟩ := Option.map_eq_some_iff.mp hget
    exact Or.inr rfl
  · exact Or.inl ⟨id', item, hget, rfl⟩

theorem names_delete {id : String}
    (h : Names { view with templates := view.templates.delete id } used) :
    Names view used := by
  obtain ⟨id', item, hget, hused⟩ := h
  exact ⟨id', item, (get_delete_eq_some.mp hget).2, hused⟩

theorem names_rename {id newId : String}
    (h : Names { view with templates := view.templates.rename id newId } used) :
    Names view used := by
  obtain ⟨_, item, hget, hused⟩ := h
  obtain ⟨id', hget⟩ := exists_of_get_rename hget
  exact ⟨id', item, hget, hused⟩

/-- One more instance. -/
theorem names_set {id : String} {item : UiTemplateInstanceData}
    (h : Names { view with templates := view.templates.set id item } used) :
    Names view used ∨ used = propertyName item.templateId := by
  obtain ⟨id', item', hget, rfl⟩ := h
  rcases get_set_eq_some.mp hget with ⟨_, rfl⟩ | ⟨_, hget⟩
  · exact Or.inr rfl
  · exact Or.inl ⟨id', item', hget, rfl⟩

theorem names_onClearTemplate {id : String} (h : Names (onClearTemplate view id).1 used) :
    Names view used := by
  obtain ⟨id', item, hget, hused⟩ := h
  rw [onClearTemplate, get_foldl_delete] at hget
  split at hget
  · cases hget
  · exact ⟨id', item, hget, hused⟩

theorem names_onRenameTemplate {id newId : String}
    (h : Names (onRenameTemplate view id newId).1 used) :
    Names view used ∨ (used = newId ∧ Names view id) := by
  obtain ⟨id', item, hget, rfl⟩ := h
  rw [onRenameTemplate, eachItem, get_mapVal, Option.map_eq_some_iff] at hget
  obtain ⟨old, hget, rfl⟩ := hget
  by_cases hid : old.templateId = some id
  · refine Or.inr ⟨?_, id', old, hget, by rw [hid]; rfl⟩
    simp [TemplateInstanceModel.onRenameTemplate, renameRef, hid, propertyName]
  · refine Or.inl ⟨id', old, hget, ?_⟩
    simp [TemplateInstanceModel.onRenameTemplate, renameRef, hid]

theorem names_eachInstanceOf {id : String}
    {change : UiTemplateInstanceData → UiTemplateInstanceData}
    (h : Names (eachInstanceOf view id change).1 used)
    (hchange : ∀ item, (change item).templateId = item.templateId) : Names view used := by
  refine names_mapVal h fun item => ?_
  dsimp only
  split
  · exact congrArg propertyName (hchange item)
  · rfl

theorem names_clearComponentUsage {usage : ComponentUsage} {cleared : UiViewData × Bool}
    (hc : clearComponentUsage view usage = .ok cleared) (h : Names cleared.1 used) :
    Names view used := by
  unfold clearComponentUsage at hc
  split at hc
  · split at hc
    · cases hc; exact h
    · cases hc; exact h
  · split at hc
    · cases hc; exact h
    · next item hget =>
      cases hc
      rcases names_set h with h | rfl
      · exact h
      · exact ⟨_, item, hget, rfl⟩
  · cases hc; exact h
  · cases hc

end Names

/-! ## What the edits do to the uses of templates -/

section Uses

variable {project : UiProject} {a b : String}

theorem uses_eachView {onWindow : UiWindowData → UiWindowData × Bool}
    {onTemplate : UiTemplateData → UiTemplateData × Bool}
    (h : Uses (project.eachView onWindow onTemplate) a b)
    (hnames : ∀ data used, Names (onTemplate data).1.toUiViewData used →
      Names data.toUiViewData used) :
    Uses project a b := by
  obtain ⟨data, hget, hb⟩ := h
  rw [UiProject.get_templates_eachView, Option.map_eq_some_iff] at hget
  obtain ⟨old, hold, rfl⟩ := hget
  exact ⟨old, hold, hnames old b hb⟩

theorem uses_updateView {v : ViewRef} {change : UiViewData → UiViewData}
    (h : Uses (project.updateView v change) a b) :
    Uses project a b ∨ (v = .template a ∧ ∃ data, project.templates.get a = some data ∧
      Names (change data.toUiViewData) b) := by
  cases v with
  | window id => exact Or.inl h
  | template id =>
    obtain ⟨data, hget, hb⟩ := h
    rw [UiProject.updateView, get_modify] at hget
    split at hget
    · next ha =>
      subst ha
      obtain ⟨old, hold, rfl⟩ := Option.map_eq_some_iff.mp hget
      exact Or.inr ⟨rfl, old, hold, hb⟩
    · exact Or.inl ⟨data, hget, hb⟩

/-- An edit of a view that adds no name. -/
theorem uses_updateView_of_names {v : ViewRef} {change : UiViewData → UiViewData}
    (h : Uses (project.updateView v change) a b)
    (hnames : ∀ view used, Names (change view) used → Names view used) :
    Uses project a b := by
  rcases uses_updateView h with h | ⟨rfl, data, hget, hb⟩
  · exact h
  · exact ⟨data, hget, hnames _ _ hb⟩

theorem uses_updateTemplate {id : String} {change : UiTemplateData → UiTemplateData}
    (h : Uses (project.updateTemplate id change) a b)
    (hnames : ∀ data used, Names (change data).toUiViewData used → Names data.toUiViewData used) :
    Uses project a b := by
  obtain ⟨data, hget, hb⟩ := h
  rw [UiProject.updateTemplate, ProjectModel.putTemplates, get_modify] at hget
  split at hget
  · next ha =>
    subst ha
    obtain ⟨old, hold, rfl⟩ := Option.map_eq_some_iff.mp hget
    exact ⟨old, hold, hnames old b hb⟩
  · exact ⟨data, hget, hb⟩

theorem uses_foldl {ι : Type} {change : UiProject → ι → UiProject}
    {l : List ι} (h : Uses (l.foldl change project) a b)
    (hchange : ∀ project i a b, Uses (change project i) a b → Uses project a b) :
    Uses project a b := by
  induction l generalizing project with
  | nil => exact h
  | cons i l ih => exact hchange project i a b (ih h)

theorem names_cleared {usage : ComponentUsage} {view : UiViewData} {used : String}
    (h : Names (match clearComponentUsage view usage with
      | .ok cleared => cleared.1
      | .error _ => view) used) : Names view used := by
  split at h
  · next hc => exact names_clearComponentUsage hc h
  · exact h

theorem uses_clearUsage {usage : ComponentUsage} (h : Uses (project.clearUsage usage) a b) :
    Uses project a b := by
  unfold UiProject.clearUsage at h
  split at h
  · exact uses_updateView_of_names h fun _ _ => names_cleared
  · exact uses_updateView_of_names h fun _ _ => names_cleared
  · exact h

/-- The only new use is that of the template of an instance. -/
theorem uses_set_instance {v : ViewRef} {id : String} {item : UiTemplateInstanceData}
    (h : Uses (project.updateTemplates v fun templates => templates.set id item) a b) :
    Uses project a b ∨ (v = .template a ∧ b = propertyName item.templateId) := by
  rcases uses_updateView h with h | ⟨rfl, data, hget, hb⟩
  · exact Or.inl h
  · rcases names_set hb with hb | rfl
    · exact Or.inl ⟨data, hget, hb⟩
    · exact Or.inr ⟨rfl, rfl⟩

/-- The instances follow the new name of their template, and some may have had it before. -/
theorem uses_renameTemplate {id newId : String} (hnew : project.templates.has newId = false)
    (h : Uses ((Call.renameTemplate id newId).applied project) a b) :
    Uses project (if a = newId then id else a) b ∨
      Uses project (if a = newId then id else a) (if b = newId then id else b) := by
  obtain ⟨data, hget, hb⟩ := h
  rw [Call.applied, UiProject.eachViewData, UiProject.get_templates_eachView,
    Option.map_eq_some_iff] at hget
  obtain ⟨old, hold, rfl⟩ := hget
  have hold : project.templates.get (if a = newId then id else a) = some old := by
    cases hid : project.templates.get id with
    | none =>
      have hkeep : project.templates.rename id newId = project.templates := by rw [rename, hid]
      rw [ProjectModel.putTemplates, hkeep] at hold
      rw [if_neg, hold]
      rintro rfl
      exact absurd hold (by rw [has_eq_false.mp hnew]; exact fun h => by cases h)
    | some renamed =>
      rw [ProjectModel.putTemplates, get_rename hid] at hold
      split at hold
      · next ha => rw [if_pos ha, hid, hold]
      · next ha =>
        rw [if_neg ha]
        split at hold
        · cases hold
        · exact hold
  rcases names_onRenameTemplate hb with hused | ⟨rfl, hused⟩
  · exact Or.inl ⟨old, hold, hused⟩
  · rw [if_pos (rfl : b = b)]
    exact Or.inr ⟨old, hold, hused⟩

theorem uses_cloneTemplate {id newId : String} (hid : project.templates.has id = true)
    (h : Uses ((Call.cloneTemplate id newId).applied project) a b) :
    Uses project (if a = newId then id else a) b := by
  obtain ⟨template, ht⟩ := has_iff.mp hid
  rw [Call.applied, ht] at h
  obtain ⟨data, hget, hb⟩ := h
  rcases get_set_eq_some.mp hget with ⟨ha, rfl⟩ | ⟨ha, hget⟩
  · rw [if_pos ha]
    exact ⟨template, ht, hb⟩
  · rw [if_neg ha]
    exact ⟨data, hget, hb⟩

end Uses

/-! ## Calls and runs -/

/-- An instance that is put into a view. -/
theorem acyclic_of_instance {project project' : UiProject} (v : ViewRef) (templateId : String)
    (huses : ∀ a b, Uses project' a b → Uses project a b ∨ (v = .template a ∧ b = templateId))
    (hv : ∀ id, v = .template id → ¬ ReflTransGen (Uses project) templateId id)
    (h : Acyclic (Uses project)) :
    Acyclic (Uses project') := by
  cases v with
  | window id => exact h.mono fun a b hab =>
    (huses a b hab).resolve_right fun ⟨hv, _⟩ => by cases hv
  | template id =>
    refine h.insert (fun a b hab => (huses a b hab).imp_right fun ⟨ha, hb⟩ => ⟨?_, hb⟩) (hv id rfl)
    cases ha
    rfl

/-- A call that is accepted and closes no cycle leaves the templates without one. -/
theorem acyclic_applied {project : UiProject} {c : Call} (hacc : c.Accepted project)
    (hc : ClosesNoCycle project c)
    (h : Acyclic (Uses project)) : Acyclic (Uses (c.applied project)) := by
  have hview : ∀ (project : UiProject) (v : ViewRef) {change : UiViewData → UiViewData},
      (∀ view used, Names (change view) used → Names view used) → Acyclic (Uses project) →
      Acyclic (Uses (project.updateView v change)) :=
    fun _ _ _ hnames h => h.mono fun _ _ hab => uses_updateView_of_names hab hnames
  have hcontrols : ∀ (v : ViewRef) (change : OMap String UiControlData → OMap String UiControlData),
      Acyclic (Uses (project.updateControls v change)) := fun v _ =>
        hview project v (fun _ _ hu => hu) h
  cases c with
  | applyRefreshComponents componentData usageToClear =>
    refine h.mono fun a b hab => ?_
    have hkeep : Uses { project with
        components := componentData.components, plugins := componentData.plugins } a b :=
      uses_foldl hab fun _ _ _ _ => uses_clearUsage
    exact hkeep
  | setDefaultWindow defaultWindow => exact h
  | setResource id resource => exact h
  | clearResource id => exact h.mono fun a b hab => (uses_eachView hab fun _ _ hu => hu :)
  | renameResource id newId => exact h.mono fun a b hab => (uses_eachView hab fun _ _ hu => hu :)
  | setStyle id style => exact h
  | clearStyle id => exact h.mono fun a b hab => (uses_eachView hab fun _ _ hu => hu :)
  | renameStyle id newId => exact h.mono fun a b hab => (uses_eachView hab fun _ _ hu => hu :)
  | newWindow id => exact h
  | clearWindow id => exact h.mono fun a b hab => (uses_eachView hab fun _ _ hu => hu :)
  | renameWindow id newId => exact h.mono fun a b hab => (uses_eachView hab fun _ _ hu => hu :)
  | cloneWindow id newId =>
    rw [Call.applied]
    split
    · exact h
    · exact h
  | setWindowProperties id properties => exact h
  | newTemplate id =>
    refine h.mono fun a b hab => ?_
    obtain ⟨data, hget, hb⟩ := hab
    rcases get_set_eq_some.mp hget with ⟨_, rfl⟩ | ⟨_, hget⟩
    · obtain ⟨_, _, hnone, _⟩ := hb
      cases hnone
    · exact ⟨data, hget, hb⟩
  | clearTemplate id =>
    refine h.mono fun a b hab => ?_
    obtain ⟨data, hget, hb⟩ := uses_eachView hab fun data used hu => names_onClearTemplate hu
    exact ⟨data, (get_delete_eq_some.mp hget).2, hb⟩
  | renameTemplate id newId => exact h.merge hc fun a b => uses_renameTemplate hacc.1
  | cloneTemplate id newId => exact h.merge hc fun a b hab => Or.inl (uses_cloneTemplate hacc.1 hab)
  | setTemplateProperties id properties =>
    exact h.mono fun a b hab => uses_updateTemplate hab fun _ _ hu => hu
  | setTemplateExport id exportId memberType valueType =>
    refine h.mono fun a b hab => ?_
    have hab := uses_eachView hab fun data used hu => names_eachInstanceOf hu fun _ => rfl
    exact uses_updateTemplate hab fun _ _ hu => hu
  | clearTemplateExport id exportId =>
    refine h.mono fun a b hab => ?_
    have hab := uses_eachView hab fun data used hu => names_eachInstanceOf hu fun _ => rfl
    exact uses_updateTemplate hab fun _ _ hu => names_mapVal hu fun _ => rfl
  | setTemplateBulkPatterns id patterns =>
    refine h.mono fun a b hab => uses_foldl hab fun project e a b hab => ?_
    exact uses_updateTemplate hab fun _ _ hu => hu
  | newControl v id x y type => exact hcontrols v _
  | clearControl v id => exact hcontrols v _
  | renameControl v id newId => exact hcontrols v _
  | cloneControl v id newId target =>
    rw [Call.applied]
    split
    · exact hcontrols target _
    · exact h
  | setControlProperties v id properties => exact hcontrols v _
  | newTemplateInstance v id templateId x y =>
    rw [Call.applied]
    split
    · refine acyclic_of_instance v templateId (fun a b hab => uses_set_instance hab) ?_ h
      rintro id rfl
      exact hc
    · exact h
  | clearTemplateInstance v id => exact hview project v (fun _ _ => names_delete) h
  | renameTemplateInstance v id newId => exact hview project v (fun _ _ => names_rename) h
  | cloneTemplateInstance v id newId =>
    obtain ⟨view, hview, -, -⟩ := hacc
    rw [Call.applied, hview, Except.toOption, Option.bind_some]
    split
    · next source hsource =>
      refine h.mono fun a b hab => ?_
      rcases uses_set_instance hab with hab | ⟨rfl, rfl⟩
      · exact hab
      · obtain ⟨data, hdata, rfl⟩ := except_map_ok.mp hview
        exact ⟨data, (CollectionModel.getById_ok _).mp hdata, id, source, hsource, rfl⟩
    · exact h
  | moveTemplateInstance v id x y =>
    exact hview project v (fun _ _ hu => names_modify hu fun _ => rfl) h
  | setTemplateInstanceTemplate v id templateId =>
    rw [Call.applied]
    split
    · refine acyclic_of_instance v templateId (fun a b hab => ?_) ?_ h
      · rcases uses_updateView hab with hab | ⟨hv, data, hget, hb⟩
        · exact Or.inl hab
        · exact (names_modify_template hb).imp (fun hb => ⟨data, hget, hb⟩) fun hb => ⟨hv, hb⟩
      · rintro id rfl
        exact hc
    · exact h
  | setTemplateInstanceBindings v id bindings =>
    refine h.mono fun a b hab => uses_foldl hab fun project e a b hab => ?_
    exact uses_updateView_of_names hab fun _ _ hu => names_modify hu fun _ => rfl

/-- From a project without a cycle of templates, in every state that is reached by accepted calls
none of which closes a cycle, no template leads to itself and the deployment terminates. -/
theorem deployment_terminates {o o' : Opened} (h : Acyclic (Uses o.project))
    (hrun : Reaches ClosesNoCycle o o') :
    Acyclic (Uses o'.project) ∧ Terminates o'.project := by
  have hacyclic : Acyclic (Uses o'.project) := by
    refine hrun.keeps (P := fun project => Acyclic (Uses project)) (fun o o' c hc hcall ih => ?_) h
    obtain ⟨hacc, happlied⟩ := call_ok hcall
    rw [happlied]
    exact acyclic_applied hacc hc ih
  exact ⟨hacyclic, Deploy.terminates_of_acyclic hacyclic⟩

/-- An instance of the template of the frame. -/
def framedInstance : UiTemplateInstanceData :=
  { templateInstanceTemplate 0 0 with templateId := some "t" }

/-- A window with an instance of a template that is empty. -/
def framedProject : UiProject where
  resources := ∅
  styles := ∅
  windows := .ofList [("w", { windowTemplate with templates := .ofList [("x", framedInstance)] })]
  templates := .ofList [("t", templateTemplate)]
  defaultWindow := ∅
  components := ∅
  plugins := ∅

theorem deployment_terminates_framed : ∃ o₁ o₂, Acyclic (Uses framedProject) ∧
    (call (.newTemplate "s")).run { project := framedProject } = .ok ⟨⟩ o₁ ∧
    (call (.newTemplateInstance (.template "s") "y" "t" 0 0)).run o₁ = .ok ⟨⟩ o₂ ∧
    Acyclic (Uses o₂.project) ∧ Terminates o₂.project := by
  have h₀ : Acyclic (Uses framedProject) := acyclic_of_not_uses (not_uses (by decide))
  obtain ⟨o₁, hcall₁, hempty, o₂, hcall₂⟩ : ∃ o₁,
      (call (.newTemplate "s")).run { project := framedProject } = .ok ⟨⟩ o₁ ∧
      (∀ e ∈ o₁.project.templates.entries, e.2.templates = ∅) ∧
      ∃ o₂, (call (.newTemplateInstance (.template "s") "y" "t" 0 0)).run o₁ = .ok ⟨⟩ o₂ :=
    ⟨_, rfl, by decide, _, rfl⟩
  have hguard : ClosesNoCycle o₁.project (.newTemplateInstance (.template "s") "y" "t" 0 0) := by
    intro hpath
    rcases hpath.cases_head with heq | ⟨b, hb, -⟩
    · exact absurd heq (by decide)
    · exact not_uses hempty _ _ hb
  have hfirst : ClosesNoCycle framedProject (.newTemplate "s") := trivial
  have hrun : Reaches ClosesNoCycle { project := framedProject } o₂ :=
    .call (.call .refl hfirst hcall₁) hguard hcall₂
  exact ⟨o₁, o₂, h₀, hcall₁, hcall₂, deployment_terminates h₀ hrun⟩

/-- The first instance of the view is one of a template whose first instance is one of itself. -/
theorem addViewElements_overflows {project : UiProject} {id : String} {data : UiTemplateData}
    (hget : project.templates.get id = some data) {e : String × UiTemplateInstanceData}
    {rest : List (String × UiTemplateInstanceData)} (hself : data.templates.entries = e :: rest)
    (hid : propertyName e.2.templateId = id) {view : UiViewData}
    {f : String × UiTemplateInstanceData} {rest' : List (String × UiTemplateInstanceData)}
    (hview : view.templates.entries = f :: rest') (hid' : propertyName f.2.templateId = id)
    (fuel : Nat) (xBase yBase : ℚ) (pathBase : List String) (bindings : Deploy.Bindings) :
    Deploy.addViewElements project fuel xBase yBase pathBase view bindings =
      .error .stackOverflow := by
  induction fuel generalizing view f rest' xBase yBase pathBase bindings with
  | zero => rfl
  | succ fuel ih =>
    rw [Deploy.addViewElements, hview, List.mapM_cons]
    simp only [hid', hget, ih hself hid]
    rfl

/-- The template of the frame is put into itself: the call is accepted and the validation finds no
error, but no stack is large enough for the deployment. -/
theorem template_contains_itself : ∃ o', Acyclic (Uses framedProject) ∧
    (call (.newTemplateInstance (.template "t") "self" "t" 0 0)).run { project := framedProject } =
      .ok ⟨⟩ o' ∧ (∀ compiles, ProjectModel.validate compiles o'.project = .ok []) ∧
        Uses o'.project "t" "t" ∧
    ∀ fuel, Deploy.buildDeployDefinition fuel o'.project = .error .stackOverflow := by
  refine ⟨_, acyclic_of_not_uses (not_uses (by decide)), rfl, fun _ => rfl,
    ⟨_, rfl, "self", _, rfl, rfl⟩, fun fuel => ?_⟩
  refine congrArg (· >>= _) (mapM_error rfl ?_)
  exact congrArg (· >>= _) (addViewElements_overflows rfl (e := ("self", framedInstance)) rfl rfl
    (f := ("x", framedInstance)) rfl rfl fuel 0 0 [] ∅)

end MylifeHome.Studio.Ui
