import MylifeHome.Studio.Ui.Deploy
import MylifeHome.Studio.Ui.Edits

/-!
# Renames and deployment

The same rename made in a project and in its deployed definition. The handlers of a rename
reach the references of the views one by one; the deployment copies them through any depth
of template instances.
-/
namespace MylifeHome.Studio.Ui.Deploy

open MylifeHome.Lib MylifeHome.Lib.Program OMap ViewModel UiProject UiOpenedProject
  UiTemplateData Call
open MylifeHome.Studio.Core (Err)

/-! ## Renames of a definition -/

def replaceId (id newId value : String) : String := if value = id then newId else value

section Replace

variable (id newId : String)

def Action.renameWindow (action : UiActionData) : UiActionData :=
  { action with window := action.window.map fun window => { window with
    id := window.id.map (replaceId id newId) } }

def ControlDisplay.renameResource (display : UiControlDisplayData) : UiControlDisplayData :=
  { display with
    defaultResource := display.defaultResource.map (replaceId id newId)
    map := display.map.map fun item =>
      { item with resource := item.resource.map (replaceId id newId) } }

namespace Control

def renameWindow (control : Control) : Control :=
  { control with
    primaryAction := control.primaryAction.map (Action.renameWindow id newId)
    secondaryAction := control.secondaryAction.map (Action.renameWindow id newId) }

def renameResource (control : Control) : Control :=
  { control with display := control.display.map (ControlDisplay.renameResource id newId) }

end Control

namespace Window

def renameWindow (window : Window) : Window :=
  { window with id := replaceId id newId window.id, controls :=
      window.controls.map (Control.renameWindow id newId) }

def renameResource (window : Window) : Window :=
  { window with
    backgroundResource := window.backgroundResource.map (replaceId id newId)
    controls := window.controls.map (Control.renameResource id newId) }

/-- The templates of the instances that are left in a window. -/
def renameTemplate (window : Window) : Window :=
  { window with templates := window.templates.mapVal fun data =>
      { data with templateId := data.templateId.map (replaceId id newId) } }

end Window

namespace Definition

def renameWindow (definition : Definition) : Definition :=
  { definition with
    windows := definition.windows.map (Window.renameWindow id newId)
    defaultWindow := definition.defaultWindow.mapVal (Option.map (replaceId id newId)) }

def renameResource (definition : Definition) : Definition :=
  { definition with
    resources := definition.resources.map fun resource =>
      { resource with id := replaceId id newId resource.id }
    windows := definition.windows.map (Window.renameResource id newId) }

def renameTemplate (definition : Definition) : Definition :=
  { definition with windows := definition.windows.map (Window.renameTemplate id newId) }

end Definition

end Replace

/-- The definitions are equal up to the order of their lists. -/
structure Definition.Same (definition definition' : Definition) : Prop where
  resources : definition.resources.Perm definition'.resources
  styles : definition.styles.Perm definition'.styles
  windows : definition.windows.Perm definition'.windows
  defaultWindow : definition.defaultWindow = definition'.defaultWindow

/-! ## Controls -/

section Controls

variable {id newId : String}

theorem renameRef_some (value : Option String) : (renameRef id (some newId) value).1 =
    value.map (replaceId id newId) := by
  unfold renameRef
  cases value with
  | none => rfl
  | some value => by_cases h : value = id <;> simp [replaceId, h]

theorem renameActionWindow_some (action : Option UiActionData) :
    (ControlModel.renameActionWindow id (some newId) action).1 =
      action.map (Action.renameWindow id newId) := by
  obtain _ | ⟨component, _ | window⟩ := action
  · rfl
  · rfl
  · simp only [ControlModel.renameActionWindow, renameRef_some, Option.map_some,
      Action.renameWindow]

theorem buildPart_map {α β : Type} {build : α → Except Err β} {g : α → α} {g' : β → β}
    (h : ∀ a, build (g a) = (build a).map g') (part : Option α) :
    buildPart build (part.map g) = (buildPart build part).map (Option.map g') := by
  cases part with
  | none => rfl
  | some a =>
    show (build (g a)).map some = ((build a).map some).map (Option.map g')
    rw [h]
    cases build a <;> rfl

theorem buildAction_renameWindow (bindings : Bindings) (action : UiActionData) :
    buildAction bindings (Action.renameWindow id newId action) =
      (buildAction bindings action).map (Action.renameWindow id newId) := by
  obtain ⟨_ | component, window⟩ := action
  · rfl
  · unfold buildAction
    dsimp only [Action.renameWindow]
    split
    · rfl
    · cases bindings.lookup component.action <;> rfl

theorem buildControl_renameWindow (builtId : String) (control : UiControlData) (xBase yBase : ℚ)
    (bindings : Bindings) :
    buildControl builtId (ControlModel.onRenameWindow control id (some newId)).1 xBase yBase
      bindings =
      (buildControl builtId control xBase yBase bindings).map (Control.renameWindow id newId) := by
  have hpart := buildPart_map (@buildAction_renameWindow id newId bindings)
  simp only [buildControl, ControlModel.onRenameWindow, renameActionWindow_some, hpart]
  cases buildPart (buildDisplay bindings) control.display with
  | error e => rfl
  | ok display =>
    cases buildPart (buildText bindings) control.text with
    | error e => rfl
    | ok text =>
      cases buildPart (buildAction bindings) control.primaryAction with
      | error e => rfl
      | ok primaryAction => cases buildPart (buildAction bindings) control.secondaryAction <;> rfl

theorem buildDisplay_renameResource (bindings : Bindings) (display : UiControlDisplayData) :
    buildDisplay bindings (ControlDisplay.renameResource id newId display) =
      (buildDisplay bindings display).map (ControlDisplay.renameResource id newId) := by
  have hcases : buildDisplay bindings (ControlDisplay.renameResource id newId display) =
      if !truthy display.componentState || truthy display.componentId then .ok
        (ControlDisplay.renameResource id newId display)
      else (bindings.lookup display.componentState).map fun binding =>
        ControlDisplay.renameResource id newId
          { display with
            componentId := binding.componentId, componentState := binding.memberName } := rfl
  rw [hcases, buildDisplay]
  by_cases h : (!truthy display.componentState || truthy display.componentId) = true
  · rw [if_pos h, if_pos h]
    rfl
  · rw [if_neg h, if_neg h]
    cases bindings.lookup display.componentState <;> rfl

theorem buildControl_renameResource (builtId : String) (control : UiControlData) (xBase yBase : ℚ)
    (bindings : Bindings) :
    buildControl builtId (ControlModel.onRenameResource control id (some newId)).1 xBase yBase
      bindings =
      (buildControl builtId control xBase yBase bindings).map
        (Control.renameResource id newId) := by
  have hcontrol : (ControlModel.onRenameResource control id (some newId)).1 =
      { control with display := control.display.map (ControlDisplay.renameResource id newId) } := by
    obtain ⟨style, height, width, x, y, _ | display, text, primaryAction, secondaryAction⟩ :=
      control
    · rfl
    · simp only [ControlModel.onRenameResource, renameRef_some, Option.map_some,
        ControlDisplay.renameResource]
  have hpart := buildPart_map (@buildDisplay_renameResource id newId bindings)
  rw [hcontrol]
  simp only [buildControl, hpart]
  cases buildPart (buildDisplay bindings) control.display with
  | error e => rfl
  | ok display =>
    cases buildPart (buildText bindings) control.text with
    | error e => rfl
    | ok text =>
      cases buildPart (buildAction bindings) control.primaryAction with
      | error e => rfl
      | ok primaryAction => cases buildPart (buildAction bindings) control.secondaryAction <;> rfl

end Controls

/-! ## Views -/

section Views

variable {project project' : UiProject}

/-- A change of the controls of all the views that the deployment of a control copies is copied to
all that is built. -/
theorem addViewElements_mapControls {g : UiControlData → UiControlData} {g' : Control → Control}
    (hbuild : ∀ id control xBase yBase bindings,
      buildControl id (g control) xBase yBase bindings =
        (buildControl id control xBase yBase bindings).map g')
    (htemplates : ∀ t, (project'.templates.get t).map toUiViewData =
      (project.templates.get t).map fun template =>
        { template.toUiViewData with controls := template.controls.mapVal g })
    (fuel : Nat) (xBase yBase : ℚ) (pathBase : List String) (view : UiViewData)
      (bindings : Bindings) :
    addViewElements project' fuel xBase yBase pathBase { view with
      controls := view.controls.mapVal g } bindings =
      (addViewElements project fuel xBase yBase pathBase view bindings).map (List.map g') := by
  induction fuel generalizing xBase yBase pathBase view bindings with
  | zero => rfl
  | succ fuel ih =>
    have hnested : view.templates.entries.mapM
      (instanceElements project' fuel xBase yBase pathBase bindings) =
        (view.templates.entries.mapM
          (instanceElements project fuel xBase yBase pathBase bindings)).map
          (List.map (List.map g')) := by
      rw [← mapM_map_result]
      refine mapM_congr fun e _ => ?_
      have ht := htemplates (propertyName e.2.templateId)
      unfold instanceElements
      cases hget : project.templates.get (propertyName e.2.templateId) with
      | none =>
        rw [hget, Option.map_none, Option.map_eq_none_iff] at ht
        rw [ht]
        rfl
      | some template =>
        rw [hget, Option.map_some, Option.map_eq_some_iff] at ht
        obtain ⟨template', hget', hview⟩ := ht
        rw [hget']
        dsimp only
        rw [hview]
        exact ih _ _ _ _ _
    have hown : ((view.controls.mapVal g).entries.mapM fun e =>
        buildControl (":".intercalate (pathBase ++ [e.1])) e.2 xBase yBase bindings) =
        (view.controls.entries.mapM fun e =>
          buildControl (":".intercalate (pathBase ++ [e.1])) e.2 xBase yBase bindings).map
            (List.map g') := by
      rw [mapVal, mapM_map_list, ← mapM_map_result]
      exact mapM_congr fun e _ => hbuild _ _ _ _ _
    have hjoin : ∀ (nested : Except Err (List (List Control))) (own : Except Err (List Control)),
        (do
          let nested ← nested.map (List.map (List.map g'))
          let own ← own.map (List.map g')
          return nested.flatten ++ own) =
        (do
          let nested ← nested
          let own ← own
          return nested.flatten ++ own : Except Err (List Control)).map (List.map g') := by
      rintro (_ | nested) (_ | own)
      · rfl
      · rfl
      · rfl
      · show Except.ok _ = Except.ok _
        rw [List.map_append, List.map_flatten]
    rw [addViewElements_succ, addViewElements_succ, hnested, hown]
    exact hjoin _ _

/-- The instances of a view have templates, and none of them the one with the id. -/
def NamedView (newId : String) (view : UiViewData) : Prop :=
  ∀ x data, view.templates.get x = some data → ∃ t, data.templateId = some t ∧ t ≠ newId

/-- The instances are of the same templates, under their new name. -/
theorem addViewElements_renameTemplate {id newId : String}
    (htemplates : ∀ t ≠ newId, (project'.templates.get (replaceId id newId t)).map toUiViewData =
      (project.templates.get t).map fun template =>
        (onRenameTemplate template.toUiViewData id newId).1)
    (hnamed : ∀ t template, project.templates.get t = some template →
      NamedView newId template.toUiViewData)
    (fuel : Nat) (xBase yBase : ℚ) (pathBase : List String) {view : UiViewData}
    (hview : NamedView newId view) (bindings : Bindings) :
    addViewElements project' fuel xBase yBase pathBase (onRenameTemplate view id newId).1 bindings =
      addViewElements project fuel xBase yBase pathBase view bindings := by
  induction fuel generalizing xBase yBase pathBase view bindings with
  | zero => rfl
  | succ fuel ih =>
    have hnested : (onRenameTemplate view id newId).1.templates.entries.mapM
        (instanceElements project' fuel xBase yBase pathBase bindings) =
        view.templates.entries.mapM
          (instanceElements project fuel xBase yBase pathBase bindings) := by
      refine (mapM_map_list _).trans (mapM_congr fun e he => ?_)
      obtain ⟨t, ht, hne⟩ := hview e.1 e.2 (mem_entries.mp he)
      have htemplate := htemplates t hne
      unfold instanceElements
      simp only [TemplateInstanceModel.onRenameTemplate, renameRef_some, ht, Option.map_some,
        propertyName, Option.getD_some]
      cases hget : project.templates.get t with
      | none =>
        rw [hget, Option.map_none, Option.map_eq_none_iff] at htemplate
        rw [htemplate]
      | some template =>
        rw [hget, Option.map_some, Option.map_eq_some_iff] at htemplate
        obtain ⟨template', hget', hrenamed⟩ := htemplate
        rw [hget']
        dsimp only
        rw [hrenamed]
        exact ih _ _ _ (hnamed t template hget) _
    rw [addViewElements_succ, addViewElements_succ, hnested]
    rfl

end Views

/-! ## Projects -/

section Projects

variable {project : UiProject} {id newId : String}

/-- A loop over renamed entries, in another order. -/
theorem mapM_renamed {α β γ : Type} {l : List α} {m : List β} {f : α → β} {b : α → Except Err γ}
    {c : β → Except Err γ} {g : γ → γ} (hl : m.Perm (l.map f))
    (hb : ∀ a ∈ l, c (f a) = (b a).map g) :
    (∀ r, l.mapM b = .ok r → ∃ r', m.mapM c = .ok r' ∧ r'.Perm (r.map g)) ∧
      ∀ e, l.mapM b = .error e → ∃ e', m.mapM c = .error e' := by
  have hmap : (l.map f).mapM c = (l.mapM b).map (List.map g) := by
    rw [mapM_map_list, ← mapM_map_result]
    exact mapM_congr hb
  constructor
  · intro r hr
    rw [hr] at hmap
    obtain ⟨r', hr', hperm⟩ := mapM_perm hl.symm hmap
    exact ⟨r', hr', hperm.symm⟩
  · intro e he
    rw [he] at hmap
    cases hm : m.mapM c with
    | error e' => exact ⟨e', rfl⟩
    | ok r' =>
      obtain ⟨r, hr, -⟩ := mapM_perm hl hm
      cases hr.symm.trans hmap

/-- The controls of all the templates after a handler on all the views. -/
theorem templates_eachControl (project : UiProject) (onWindow : UiWindowData → UiWindowData × Bool)
    (handler : UiControlData → UiControlData × Bool) (t : String) :
    ((project.eachView onWindow fun template => TemplateModel.onView template fun view =>
      eachControl view handler).templates.get t).map toUiViewData =
      (project.templates.get t).map fun template => { template.toUiViewData with
        controls := template.controls.mapVal fun control => (handler control).1 } := by
  rw [get_templates_eachView, Option.map_map]
  rfl

theorem build_error {fuel : Nat} {e : Err} : buildDeployDefinition fuel project = .error e ↔
    project.windows.entries.mapM (fun e => buildWindow fuel project e.1 e.2) = .error e := by
  unfold buildDeployDefinition
  cases project.windows.entries.mapM fun e => buildWindow fuel project e.1 e.2 with
  | error e' => exact ⟨fun h => by cases h; rfl, fun h => by cases h; rfl⟩
  | ok windows => exact ⟨fun h => (by cases h), fun h => (by cases h)⟩

theorem build_renameWindow (hnew : project.windows.get newId = none) (fuel : Nat) :
    (∀ d, buildDeployDefinition fuel project = .ok d →
      ∃ d', buildDeployDefinition fuel (applied project (.renameWindow id newId)) = .ok d' ∧
        d'.Same (d.renameWindow id newId)) ∧
    ∀ e, buildDeployDefinition fuel project = .error e →
      ∃ e', buildDeployDefinition fuel (applied project (.renameWindow id newId)) = .error e' := by
  have htemplates : ∀ t, ((applied project (.renameWindow id newId)).templates.get t).map
    toUiViewData =
      (project.templates.get t).map fun template => { template.toUiViewData with
        controls := template.controls.mapVal fun control =>
          (ControlModel.onRenameWindow control id (some newId)).1 } :=
    fun t => templates_eachControl _ _ _ t
  have hwindow : ∀ e ∈ project.windows.entries,
      buildWindow fuel (applied project (.renameWindow id newId)) (replaceId id newId e.1)
        (WindowModel.onView e.2 fun view => onRenameWindow view id (some newId)).1 =
      (buildWindow fuel project e.1 e.2).map (Window.renameWindow id newId) := by
    intro e _
    have hview := addViewElements_mapControls buildControl_renameWindow htemplates fuel 0 0 []
      e.2.toUiViewData ∅
    unfold buildWindow
    refine (congrArg (· >>= _) hview).trans ?_
    cases addViewElements project fuel 0 0 [] e.2.toUiViewData ∅ <;> rfl
  have hperm : (applied project (.renameWindow id
    newId)).windows.entries.Perm (project.windows.entries.map fun e =>
      (replaceId id newId e.1,
        (WindowModel.onView e.2 fun view => onRenameWindow view id (some newId)).1)) := by
    have h := (entries_rename_perm (k := id) hnew).map fun e =>
      (e.1, (WindowModel.onView e.2 fun view => onRenameWindow view id (some newId)).1)
    rw [List.map_map] at h
    exact h
  have hdefault : (applied project (.renameWindow id newId)).defaultWindow =
      project.defaultWindow.mapVal (Option.map (replaceId id newId)) :=
    congrArg (fun f => project.defaultWindow.mapVal f) (funext renameRef_some)
  obtain ⟨hok, herror⟩ :=
    mapM_renamed (c := fun e => buildWindow fuel (applied project (.renameWindow id newId)) e.1 e.2)
    hperm hwindow
  constructor
  · intro d hd
    obtain ⟨windows, hwindows, hd⟩ := except_bind_ok.mp hd
    cases hd
    obtain ⟨windows', hwindows', hsame⟩ := hok windows hwindows
    exact ⟨_, except_bind_ok.mpr ⟨windows', hwindows', rfl⟩, .refl _, .refl _, hsame, hdefault⟩
  · intro e he
    obtain ⟨e', he'⟩ := herror e (build_error.mp he)
    exact ⟨e', build_error.mpr he'⟩

theorem build_renameResource (hnew : project.resources.get newId = none) (fuel : Nat) :
    (∀ d, buildDeployDefinition fuel project = .ok d →
      ∃ d', buildDeployDefinition fuel (applied project (.renameResource id newId)) = .ok d' ∧
        d'.Same (d.renameResource id newId)) ∧
    ∀ e, buildDeployDefinition fuel project = .error e →
      ∃ e', buildDeployDefinition fuel (applied project (.renameResource id newId)) =
        .error e' := by
  have htemplates : ∀ t, ((applied project (.renameResource id newId)).templates.get t).map
    toUiViewData =
      (project.templates.get t).map fun template => { template.toUiViewData with
        controls := template.controls.mapVal fun control =>
          (ControlModel.onRenameResource control id (some newId)).1 } :=
    fun t => templates_eachControl _ _ _ t
  have hwindow : ∀ e ∈ project.windows.entries,
      buildWindow fuel (applied project (.renameResource id newId)) e.1
        (WindowModel.onRenameResource e.2 id (some newId)).1 =
      (buildWindow fuel project e.1 e.2).map (Window.renameResource id newId) := by
    intro e _
    have hview := addViewElements_mapControls buildControl_renameResource htemplates fuel 0 0 []
      e.2.toUiViewData ∅
    unfold buildWindow
    refine (congrArg (· >>= _) hview).trans ?_
    cases addViewElements project fuel 0 0 [] e.2.toUiViewData ∅ with
    | error e' => rfl
    | ok controls =>
      show Except.ok _ = Except.ok _
      rw [WindowModel.onRenameResource, WindowModel.onView, renameRef_some]
      rfl
  have hresources : ((applied project (.renameResource id newId)).resources.entries.map fun e =>
      ({ e.2 with id := e.1 } : Resource)).Perm
        ((project.resources.entries.map fun e => ({ e.2 with id := e.1 } : Resource)).map
        fun resource => { resource with id := replaceId id newId resource.id }) := by
    have h := (entries_rename_perm (k := id) hnew).map fun e => ({ e.2 with id := e.1 } : Resource)
    rw [List.map_map] at h ⊢
    exact h
  obtain ⟨hok, herror⟩ :=
    mapM_renamed (m := (applied project (.renameResource id newId)).windows.entries)
    (c := fun e => buildWindow fuel (applied project (.renameResource id newId)) e.1 e.2)
    (f := fun e : String × UiWindowData =>
      (e.1, (WindowModel.onRenameResource e.2 id (some newId)).1)) (.refl _) hwindow
  constructor
  · intro d hd
    obtain ⟨windows, hwindows, hd⟩ := except_bind_ok.mp hd
    cases hd
    obtain ⟨windows', hwindows', hsame⟩ := hok windows hwindows
    exact ⟨_, except_bind_ok.mpr ⟨windows', hwindows', rfl⟩, hresources, .refl _, hsame, rfl⟩
  · intro e he
    obtain ⟨e', he'⟩ := herror e (build_error.mp he)
    exact ⟨e', build_error.mpr he'⟩

/-- A rename of a template is a rename of the instances that are left in the windows. -/
theorem build_renameTemplate (hid : project.templates.has id = true)
    (hnamed : ∀ v view, project.getView v = .ok view → NamedView newId view) (fuel : Nat) :
    buildDeployDefinition fuel (applied project (.renameTemplate id newId)) =
      (buildDeployDefinition fuel project).map (Definition.renameTemplate id newId) := by
  have htemplates : ∀ t ≠ newId,
      ((applied project (.renameTemplate id newId)).templates.get (replaceId id newId t)).map
        toUiViewData =
        (project.templates.get t).map fun template =>
          (onRenameTemplate template.toUiViewData id newId).1 := by
    intro t hne
    obtain ⟨template, hget⟩ := has_iff.mp hid
    have hrenamed : (project.templates.rename id newId).get (replaceId id newId t) =
        project.templates.get t := by
      rw [get_rename hget, replaceId]
      by_cases ht : t = id
      · rw [if_pos ht, if_pos rfl, ht, hget]
      · rw [if_neg ht, if_neg hne, if_neg ht]
    rw [applied, eachViewData, get_templates_eachView, Option.map_map, ← hrenamed]
    rfl
  have hinstances : ∀ window : UiWindowData,
      (WindowModel.onView window fun view => onRenameTemplate view id newId).1.templates =
        window.templates.mapVal fun data =>
          { data with templateId := data.templateId.map (replaceId id newId) } := by
    intro window
    show (window.templates.mapVal fun data =>
      (TemplateInstanceModel.onRenameTemplate data id newId).1) = _
    simp only [TemplateInstanceModel.onRenameTemplate, renameRef_some]
  have hwindow : ∀ e ∈ project.windows.entries,
      buildWindow fuel (applied project (.renameTemplate id newId)) e.1
        (WindowModel.onView e.2 fun view => onRenameTemplate view id newId).1 =
      (buildWindow fuel project e.1 e.2).map (Window.renameTemplate id newId) := by
    intro e he
    have hview := addViewElements_renameTemplate htemplates
      (fun t template hget => hnamed (.template t) _
      (getView_template_ok.mpr ⟨template, hget, rfl⟩)) fuel 0 0 []
      (hnamed (.window e.1) _ (getView_window_ok.mpr ⟨e.2, mem_entries.mp he, rfl⟩)) ∅
    unfold buildWindow
    refine (congrArg (· >>= _) hview).trans ?_
    rw [hinstances]
    cases addViewElements project fuel 0 0 [] e.2.toUiViewData ∅ <;> rfl
  have hwindows : (applied project (.renameTemplate id newId)).windows.entries.mapM (fun e =>
      buildWindow fuel (applied project (.renameTemplate id newId)) e.1 e.2) =
      (project.windows.entries.mapM fun e => buildWindow fuel project e.1 e.2).map
        (List.map (Window.renameTemplate id newId)) := by
    rw [← mapM_map_result]
    exact (mapM_map_list _).trans (mapM_congr hwindow)
  refine (congrArg (· >>= _) hwindows).trans ?_
  unfold buildDeployDefinition
  cases project.windows.entries.mapM fun e => buildWindow fuel project e.1 e.2 <;> rfl

end Projects

/-! ## Renames -/

/-- The outcome of the deployment with a stack that is deep enough. -/
def Deploys (project : UiProject) (outcome : Except Err Definition) : Prop :=
  outcome ≠ .error .stackOverflow ∧
    ∃ depth, ∀ fuel ≥ depth, buildDeployDefinition fuel project = outcome

theorem exists_deploys {project : UiProject} (h : Acyclic (Uses project)) :
    ∃ outcome, Deploys project outcome := by
  obtain ⟨depth, outcome, hne, hsettles⟩ := terminates_of_acyclic h
  exact ⟨outcome, hne, depth, hsettles⟩

/-- The outcomes of two deployments are those of a stack of one depth. -/
theorem Deploys.together {project project' : UiProject} {outcome outcome' : Except Err Definition}
    (h : Deploys project outcome) (h' : Deploys project' outcome') :
    ∃ fuel, buildDeployDefinition fuel project = outcome ∧ buildDeployDefinition fuel project' =
      outcome' := by
  obtain ⟨-, depth, hsettles⟩ := h
  obtain ⟨-, depth', hsettles'⟩ := h'
  exact ⟨max depth depth', hsettles _ (le_max_left _ _), hsettles' _ (le_max_right _ _)⟩

inductive Rename where
  | window (id newId : String)
  | resource (id newId : String)
  | template (id newId : String)
  deriving DecidableEq

namespace Rename

def call : Rename → Call
  | window id newId => .renameWindow id newId
  | resource id newId => .renameResource id newId
  | template id newId => .renameTemplate id newId

/-- What is renamed is there. -/
def Existing (project : UiProject) : Rename → Prop
  | window id _ => project.windows.has id = true
  | resource id _ => project.resources.has id = true
  | template id _ => project.templates.has id = true

/-- All the instances have templates, and none of them one that is not there and gets the new name
of a template. -/
def Named (project : UiProject) : Rename → Prop
  | template _ newId => ∀ v view, project.getView v = .ok view → NamedView newId view
  | _ => True

/-- The occurrences of the old id in a definition replaced; templates do not occur. -/
def inDefinition : Rename → Definition → Definition
  | window id newId, definition => definition.renameWindow id newId
  | resource id newId, definition => definition.renameResource id newId
  | template _ _, definition => definition

/-- No window has an instance of a template that is renamed. -/
def OutOfWindows (project : UiProject) : Rename → Prop
  | template id _ => ∀ w window, project.windows.get w = some window →
    ∀ x data, window.templates.get x = some data →
      data.templateId ≠ some id
  | _ => True

end Rename

section Outcomes

variable {project project' : UiProject}

theorem Deploys.unique {outcome outcome' : Except Err Definition} (h : Deploys project outcome)
    (h' : Deploys project outcome') : outcome = outcome' := by
  obtain ⟨fuel, hbuild, hbuild'⟩ := h.together h'
  exact hbuild.symm.trans hbuild'

/-- Two deployments that agree at any depth have outcomes that agree. -/
theorem deploys_of_related (hacyclic : Acyclic (Uses project)) (hacyclic' : Acyclic (Uses project'))
    {g : Definition → Definition}
    (h : ∀ fuel, (∀ d, buildDeployDefinition fuel project = .ok d →
      ∃ d', buildDeployDefinition fuel project' = .ok d' ∧ d'.Same (g d)) ∧
      ∀ e, buildDeployDefinition fuel project = .error e →
        ∃ e', buildDeployDefinition fuel project' = .error e') :
    ∃ outcome, Deploys project outcome ∧
      (∀ d, outcome = .ok d → ∃ d', Deploys project' (.ok d') ∧ d'.Same (g d)) ∧
      ∀ e, outcome = .error e → ∃ e', Deploys project' (.error e') := by
  obtain ⟨outcome, houtcome⟩ := exists_deploys hacyclic
  obtain ⟨outcome', houtcome'⟩ := exists_deploys hacyclic'
  obtain ⟨fuel, hbuild, hbuild'⟩ := houtcome.together houtcome'
  refine ⟨outcome, houtcome, ?_, ?_⟩
  · rintro d rfl
    obtain ⟨d', hd', hsame⟩ := (h fuel).1 d hbuild
    exact ⟨d', hd' ▸ hbuild' ▸ houtcome', hsame⟩
  · rintro e rfl
    obtain ⟨e', he'⟩ := (h fuel).2 e hbuild
    exact ⟨e', he' ▸ hbuild' ▸ houtcome'⟩

/-- A change of the controls does not change which templates are used. -/
theorem acyclic_mapControls (hacyclic : Acyclic (Uses project)) {g : UiControlData → UiControlData}
    (htemplates : ∀ t, (project'.templates.get t).map toUiViewData =
      (project.templates.get t).map fun template =>
        { template.toUiViewData with controls := template.controls.mapVal g }) :
    Acyclic (Uses project') := by
  refine hacyclic.mono ?_
  rintro a b ⟨data, hget, hnames⟩
  have ht := htemplates a
  rw [hget, Option.map_some] at ht
  obtain ⟨template, hget', hview⟩ := Option.map_eq_some_iff.mp ht.symm
  rw [← hview] at hnames
  exact ⟨template, hget', hnames⟩

theorem exists_window {fuel : Nat} {d : Definition} (h : buildDeployDefinition fuel project = .ok d)
    {built : Window} (hbuilt : built ∈ d.windows) :
    ∃ window, project.windows.get built.id = some window ∧ built.templates = window.templates := by
  obtain ⟨windows, hwindows, hd⟩ := except_bind_ok.mp h
  cases hd
  obtain ⟨e, he, hwindow⟩ := mem_mapM_ok hwindows hbuilt
  obtain ⟨controls, -, hwindow⟩ := except_bind_ok.mp hwindow
  cases hwindow
  exact ⟨e.2, mem_entries.mp he, rfl⟩

theorem exists_built {fuel : Nat} {d : Definition} (h : buildDeployDefinition fuel project = .ok d)
    {w : String} {window : UiWindowData} (hw : project.windows.get w = some window) :
    ∃ built ∈ d.windows, built.id = w ∧ built.templates = window.templates := by
  obtain ⟨windows, hwindows, hd⟩ := except_bind_ok.mp h
  cases hd
  obtain ⟨built, hmem, hwindow⟩ := mapM_ok_mem hwindows (mem_entries.mpr hw)
  obtain ⟨controls, -, hwindow⟩ := except_bind_ok.mp hwindow
  cases hwindow
  exact ⟨_, hmem, rfl, rfl⟩

/-- The instances that are left in the windows tell whether a template is renamed. -/
theorem same_renameTemplate_iff {fuel : Nat} {d : Definition}
    (h : buildDeployDefinition fuel project = .ok d) {id newId : String} (hne : newId ≠ id) :
    (d.renameTemplate id newId).Same d ↔ (Rename.template id newId).OutOfWindows project := by
  constructor
  · intro hsame w window hw x data hx hid
    obtain ⟨built, hmem, rfl, htemplates⟩ := exists_built h hw
    have hmem' : built.renameTemplate id newId ∈ d.windows :=
      hsame.windows.subset (List.mem_map_of_mem hmem)
    obtain ⟨window', hw', hrenamed⟩ := exists_window h hmem'
    cases hw.symm.trans hw'
    have hget := congrArg (fun m => m.get x) hrenamed
    simp only [Window.renameTemplate, get_mapVal, htemplates, hx, Option.map_some,
      Option.some.injEq] at hget
    have hreplaced := congrArg UiTemplateInstanceData.templateId hget
    simp only [hid, Option.map_some, replaceId, if_true, Option.some.injEq] at hreplaced
    exact hne hreplaced
  · intro hout
    have heq : d.renameTemplate id newId = d := by
      refine congrArg (fun windows => { d with windows := windows })
        (List.map_congr_left (g := fun w => w) ?_ |>.trans (List.map_id' _))
      intro built hbuilt
      obtain ⟨window, hw, htemplates⟩ := exists_window h hbuilt
      refine congrArg (fun templates => { built with templates := templates }) ?_
      refine Eq.trans (mapVal_congr fun x data hx => ?_) (mapVal_id _)
      rw [htemplates] at hx
      have hne := hout built.id window hw x data hx
      obtain ⟨_ | t, x, y, bindings⟩ := data
      · rfl
      · simp only [Option.map_some, replaceId, if_neg fun ht : t = id => hne (congrArg some ht)]
    rw [heq]
    exact ⟨.refl _, .refl _, .refl _, rfl⟩

end Outcomes

/-! ## A window with an instance -/

/-- A window with a background and an instance of a template, whose control leads to the window. -/
def panelProject : UiProject where
  resources := .ofList [("r", { mime := "image/png", data := "" })]
  styles := ∅
  windows := .ofList [("w", { windowTemplate with
    backgroundResource := some "r"
    templates := .ofList [("x", { templateInstanceTemplate 0 0 with templateId := some "t" })] })]
  templates := .ofList [("t", { templateTemplate with
    controls := .ofList [("c", { controlTemplate 0 0 with
      text := some controlTextTemplate
      primaryAction := some
        { component := none, window := some { id := some "w", popup := false } } })] })]
  defaultWindow := .ofList [("desktop", some "w")]
  components := ∅
  plugins := ∅

/-- The only instance of the project is one of `t`. -/
theorem panelProject_named : (Rename.template "t" "u").Named panelProject := by
  have hall : ∀ view ∈ (panelProject.windows.values.map UiWindowData.toUiViewData) ++
      panelProject.templates.values.map toUiViewData,
      ∀ data ∈ view.templates.values, data.templateId = some "t" := by decide
  intro v view hview x data hx
  refine ⟨"t", hall view ?_ data (mem_values.mpr ⟨x, hx⟩), by decide⟩
  cases v with
  | window id =>
    obtain ⟨window, hw, rfl⟩ := getView_window_ok.mp hview
    exact List.mem_append_left _ (List.mem_map_of_mem (mem_values.mpr ⟨id, hw⟩))
  | template id =>
    obtain ⟨template, ht, rfl⟩ := getView_template_ok.mp hview
    exact List.mem_append_right _ (List.mem_map_of_mem (mem_values.mpr ⟨id, ht⟩))

end MylifeHome.Studio.Ui.Deploy
