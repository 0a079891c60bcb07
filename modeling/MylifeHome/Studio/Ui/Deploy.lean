import MylifeHome.Lib.Graph
import MylifeHome.Studio.Ui.Model

/-!
# The deployed definition of a UI project

`deploy.ts`: template instances are replaced by the controls of their templates, at any
depth, and what a template reads from its exports by what the instance binds to them.
The depth of the recursion is the fuel; nothing else bounds it.
-/
namespace MylifeHome.Studio.Ui.Deploy

open MylifeHome.Lib
open MylifeHome.Studio.Core (Err JsValue)

structure Resource extends UiResourceData where
  id : String
  deriving DecidableEq

structure StyleDefinition extends UiStyleData where
  id : String
  deriving DecidableEq

structure ControlTextContextItem where
  id : String
  componentId : Option String
  componentState : Option String
  deriving DecidableEq

structure ControlText where
  context : List ControlTextContextItem
  format : String
  deriving DecidableEq

structure Control where
  id : String
  style : List String
  height : ℚ
  width : ℚ
  x : ℚ
  y : ℚ
  display : Option UiControlDisplayData
  text : Option ControlText
  primaryAction : Option UiActionData
  secondaryAction : Option UiActionData
  deriving DecidableEq

/-- The window is copied with the properties that it has in the project, so that its template
instances are still there. -/
structure Window where
  id : String
  style : List String
  height : ℚ
  width : ℚ
  backgroundResource : Option String
  templates : OMap String UiTemplateInstanceData
  controls : List Control
  deriving DecidableEq

structure Definition where
  resources : List Resource
  styles : List StyleDefinition
  windows : List Window
  defaultWindow : DefaultWindow
  deriving DecidableEq

/-- What the exports of a template are bound to; a name that was not found is bound to
`undefined`. -/
abbrev Bindings := OMap String (Option UiTemplateInstanceBinding)

/-- The binding whose properties are read. -/
def Bindings.lookup (bindings : Bindings) (name : Option String) :
    Except Err UiTemplateInstanceBinding :=
  match bindings.get (propertyName name) with
  | some (some binding) => .ok binding
  | _ => .error .typeError

def buildDisplay (bindings : Bindings) (display : UiControlDisplayData) :
    Except Err UiControlDisplayData :=
  if !truthy display.componentState || truthy display.componentId then .ok display
  else (bindings.lookup display.componentState).map fun binding =>
    { display with componentId := binding.componentId, componentState := binding.memberName }

def buildItem (bindings : Bindings) (item : UiControlTextContextItemData) :
    Except Err ControlTextContextItem :=
  if truthy item.componentId then
    .ok { id := item.id, componentId := item.componentId, componentState := item.componentState }
  else (bindings.lookup item.componentState).map fun binding =>
    { id := item.id, componentId := binding.componentId, componentState := binding.memberName }

def buildText (bindings : Bindings) (text : UiControlTextData) : Except Err ControlText := do
  return { context := ← text.context.mapM (buildItem bindings), format := text.format }

def buildAction (bindings : Bindings) (action : UiActionData) : Except Err UiActionData :=
  match action.component with
  | none => .ok action
  | some component =>
    if truthy component.id then .ok action
    else (bindings.lookup component.action).map fun binding =>
      { action with component := some { id := binding.componentId, action := binding.memberName } }

/-- A part of a control that may be `null`. -/
def buildPart {α β : Type} (build : α → Except Err β) : Option α → Except Err (Option β)
  | none => .ok none
  | some part => (build part).map some

def buildControl (id : String) (control : UiControlData) (xBase yBase : ℚ) (bindings : Bindings) :
    Except Err Control := do
  let display ← buildPart (buildDisplay bindings) control.display
  let text ← buildPart (buildText bindings) control.text
  let primaryAction ← buildPart (buildAction bindings) control.primaryAction
  let secondaryAction ← buildPart (buildAction bindings) control.secondaryAction
  return { id := id, style := control.style, height := control.height, width := control.width
           x := xBase + control.x, y := yBase + control.y, display := display, text := text
           primaryAction := primaryAction, secondaryAction := secondaryAction }

/-- The bindings of an instance, those to exports of the view that has the instance replaced. -/
def instanceBindings (bindings : Bindings) (data : UiTemplateInstanceData) : Bindings :=
  data.bindings.mapVal fun binding =>
    if truthy binding.componentId then some binding
    else (bindings.get (propertyName binding.memberName)).join

/-- The controls of the instances come before those of the view itself. -/
def addViewElements (project : UiProject) :
    Nat → ℚ → ℚ → List String → UiViewData → Bindings → Except Err (List Control)
  | 0, _, _, _, _, _ => .error .stackOverflow
  | fuel + 1, xBase, yBase, pathBase, view, bindings => do
    let nested ← view.templates.entries.mapM fun e =>
      match project.templates.get (propertyName e.2.templateId) with
      | none => .error .typeError
      | some template =>
        addViewElements project fuel (xBase + e.2.x) (yBase + e.2.y) (pathBase ++ [e.1])
          template.toUiViewData
          (instanceBindings bindings e.2)
    let own ← view.controls.entries.mapM fun e =>
      buildControl (":".intercalate (pathBase ++ [e.1])) e.2 xBase yBase bindings
    return nested.flatten ++ own

/-- The controls that an instance stands for. -/
def instanceElements (project : UiProject) (fuel : Nat) (xBase yBase : ℚ) (pathBase : List String)
    (bindings : Bindings) (e : String × UiTemplateInstanceData) : Except Err (List Control) :=
  match project.templates.get (propertyName e.2.templateId) with
  | none => .error .typeError
  | some template =>
    addViewElements project fuel (xBase + e.2.x) (yBase + e.2.y) (pathBase ++ [e.1])
      template.toUiViewData
      (instanceBindings bindings e.2)

theorem addViewElements_succ (project : UiProject) (fuel : Nat) (xBase yBase : ℚ)
    (pathBase : List String) (view : UiViewData)
    (bindings : Bindings) : addViewElements project (fuel + 1) xBase yBase pathBase view bindings =
      (do
      let nested ← view.templates.entries.mapM
        (instanceElements project fuel xBase yBase pathBase bindings)
      let own ← view.controls.entries.mapM fun e =>
        buildControl (":".intercalate (pathBase ++ [e.1])) e.2 xBase yBase bindings
      return nested.flatten ++ own) := rfl

def buildWindow (fuel : Nat) (project : UiProject) (id : String) (window : UiWindowData) :
    Except Err Window := do
  let controls ← addViewElements project fuel 0 0 [] window.toUiViewData ∅
  return { id := id, style := window.style, height := window.height, width := window.width
           backgroundResource := window.backgroundResource, templates :=
             window.templates, controls := controls }

def buildDeployDefinition (fuel : Nat) (project : UiProject) : Except Err Definition := do
  let windows ← project.windows.entries.mapM fun e => buildWindow fuel project e.1 e.2
  return {
    resources := project.resources.entries.map fun e => { e.2 with id := e.1 }
    styles := project.styles.entries.map fun e => { e.2 with id := e.1 }
    windows := windows
    defaultWindow := project.defaultWindow }

/-! ## Termination -/

/-- A view has an instance of a template, under the name that the deployment looks up. -/
def Names (view : UiViewData) (used : String) : Prop :=
  ∃ id item, view.templates.get id = some item ∧ propertyName item.templateId = used

/-- A template has an instance of another one. -/
def Uses (project : UiProject) (template used : String) : Prop :=
  ∃ data, project.templates.get template = some data ∧ Names data.toUiViewData used

/-- From some depth of the stack on, the deployment has one outcome, and it is not that of a stack
that is too small. -/
def Terminates (project : UiProject) : Prop :=
  ∃ depth outcome, outcome ≠ .error .stackOverflow ∧
    ∀ fuel ≥ depth, buildDeployDefinition fuel project = outcome

theorem lookup_avoids (bindings : Bindings) (name : Option String) :
    bindings.lookup name ≠ .error .stackOverflow := by
  unfold Bindings.lookup
  split <;> exact fun h => by cases h

theorem map_avoids {α β : Type} {x : Except Err α} {f : α → β} {e : Err} (h : x ≠ .error e) :
    x.map f ≠ .error e := by
  cases x with
  | ok a => exact fun h => by cases h
  | error e' => exact fun h' => h (congrArg Except.error (Except.error.inj h'))

theorem buildPart_avoids {α β : Type} {build : α → Except Err β} {e : Err}
    (h : ∀ part, build part ≠ .error e) (part : Option α) : buildPart build part ≠ .error e := by
  cases part with
  | none => exact fun h => by cases h
  | some part => exact map_avoids (h part)

theorem buildDisplay_avoids (bindings : Bindings) (display : UiControlDisplayData) :
    buildDisplay bindings display ≠ .error .stackOverflow := by
  unfold buildDisplay
  split
  · exact fun h => by cases h
  · exact map_avoids (lookup_avoids _ _)

theorem buildText_avoids (bindings : Bindings) (text : UiControlTextData) :
    buildText bindings text ≠ .error .stackOverflow := by
  refine except_bind_avoids (mapM_avoids fun item _ => ?_) fun _ _ h => by cases h
  unfold buildItem
  split
  · exact fun h => by cases h
  · exact map_avoids (lookup_avoids _ _)

theorem buildAction_avoids (bindings : Bindings) (action : UiActionData) :
    buildAction bindings action ≠ .error .stackOverflow := by
  unfold buildAction
  split
  · exact fun h => by cases h
  · split
    · exact fun h => by cases h
    · exact map_avoids (lookup_avoids _ _)

theorem buildControl_avoids (id : String) (control : UiControlData) (xBase yBase : ℚ)
    (bindings : Bindings) :
    buildControl id control xBase yBase bindings ≠ .error .stackOverflow := by
  refine except_bind_avoids (buildPart_avoids (buildDisplay_avoids bindings) _) fun _ _ => ?_
  refine except_bind_avoids (buildPart_avoids (buildText_avoids bindings) _) fun _ _ => ?_
  refine except_bind_avoids (buildPart_avoids (buildAction_avoids bindings) _) fun _ _ => ?_
  exact except_bind_avoids (buildPart_avoids (buildAction_avoids bindings) _) fun _ _ h =>
    by cases h

section Depth

variable {project : UiProject} {rank : String → Nat}

/-- The templates that a view has instances of are below a rank. -/
def Below (project : UiProject) (rank : String → Nat) (view : UiViewData) (n : Nat) : Prop :=
  ∀ e ∈ view.templates.entries, project.templates.has (propertyName e.2.templateId) = true →
    rank (propertyName e.2.templateId) < n

/-- The elements of a view need no more depth than its rank. -/
theorem addViewElements_settles
    (hrank : ∀ a b, Uses project a b ∧ project.templates.has b = true → rank b < rank a) (n : Nat)
    {view : UiViewData} (hview : Below project rank view n) (xBase yBase : ℚ)
    (pathBase : List String) (bindings : Bindings) :
    addViewElements project (n + 1) xBase yBase pathBase view bindings ≠ .error .stackOverflow ∧
      ∀ fuel > n, addViewElements project fuel xBase yBase pathBase view bindings =
        addViewElements project (n + 1) xBase yBase pathBase view bindings := by
  induction n generalizing view xBase yBase pathBase bindings with
  | zero =>
    have hmissing : ∀ e ∈ view.templates.entries,
        project.templates.get (propertyName e.2.templateId) = none := by
      intro e he
      rw [← OMap.has_eq_false, Bool.eq_false_iff]
      exact fun hhas => absurd (hview e he hhas) (Nat.not_lt_zero _)
    refine ⟨?_, fun fuel hfuel => ?_⟩
    · refine except_bind_avoids (mapM_avoids fun e he => ?_) fun _ _ => ?_
      · rw [hmissing e he]
        exact fun h => by cases h
      · exact except_bind_avoids (mapM_avoids fun e _ => buildControl_avoids _ _ _ _ _) fun _ _ h =>
          by cases h
    · obtain ⟨k, rfl⟩ := Nat.exists_eq_add_of_lt hfuel
      rw [Nat.zero_add]
      refine congrArg (· >>= _) (mapM_congr fun e he => ?_)
      rw [hmissing e he]
  | succ n ih =>
    have hbelow : ∀ e ∈ view.templates.entries, ∀ template,
        project.templates.get (propertyName e.2.templateId) = some template →
        Below project rank template.toUiViewData n := by
      intro e he template ht e' he' hhas
      have hlt := hview e he (OMap.has_iff.mpr ⟨template, ht⟩)
      have hlt' := hrank _ _ ⟨⟨template, ht, e'.1, e'.2, OMap.mem_entries.mp he', rfl⟩, hhas⟩
      omega
    refine ⟨?_, fun fuel hfuel => ?_⟩
    · refine except_bind_avoids (mapM_avoids fun e he => ?_) fun _ _ => ?_
      · split
        · exact fun h => by cases h
        · next template ht => exact (ih (hbelow e he template ht) _ _ _ _).1
      · exact except_bind_avoids (mapM_avoids fun e _ => buildControl_avoids _ _ _ _ _) fun _ _ h =>
          by cases h
    · obtain ⟨k, rfl⟩ : ∃ k, fuel = k + 1 := ⟨fuel - 1, by omega⟩
      refine congrArg (· >>= _) (mapM_congr fun e he => ?_)
      split
      · rfl
      · next template ht => exact (ih (hbelow e he template ht) _ _ _ _).2 k (by omega)

/-- Without a cycle of templates, the number of templates bounds the depth of a view. -/
theorem exists_rank (h : Acyclic (Uses project)) :
    ∃ (rank : String → Nat) (n : Nat), (∀ a b, Uses project a b ∧ project.templates.has b = true →
      rank b < rank a) ∧
      ∀ view : UiViewData, Below project rank view n := by
  obtain ⟨rank, hrank, hle⟩ :=
    (h.mono fun a b (hab : Uses project a b ∧ project.templates.has b = true) => hab.1).exists_rank
    project.templates.keys.toFinset fun a b hab =>
      List.mem_toFinset.mpr (OMap.mem_keys.mpr (OMap.has_iff.mp hab.2))
  exact ⟨rank, project.templates.keys.toFinset.card + 1, hrank,
    fun view e _ _ => Nat.lt_succ_of_le (hle _)⟩

theorem terminates_of_acyclic (h : Acyclic (Uses project)) : Terminates project := by
  obtain ⟨rank, n, hrank, hview⟩ := exists_rank h
  refine ⟨n + 1, buildDeployDefinition (n + 1) project, ?_, fun fuel hfuel => ?_⟩
  · refine except_bind_avoids (mapM_avoids fun e _ => ?_) fun _ _ h => by cases h
    exact except_bind_avoids (addViewElements_settles hrank n (hview _) _ _ _ _).1 fun _ _ h =>
      by cases h
  · refine congrArg (· >>= _) (mapM_congr fun e _ => ?_)
    exact congrArg (· >>= _) ((addViewElements_settles hrank n (hview _) _ _ _ _).2 fuel (by omega))

theorem not_uses (h : ∀ e ∈ project.templates.entries, e.2.templates = ∅) (a b : String) :
    ¬ Uses project a b := by
  rintro ⟨data, hget, id, item, hitem, -⟩
  rw [h (a, data) (OMap.mem_entries.mpr hget), OMap.get_empty] at hitem
  cases hitem

theorem acyclic_of_not_uses (h : ∀ a b, ¬ Uses project a b) : Acyclic (Uses project) := by
  intro a ha
  obtain ⟨b, hab, -⟩ := Relation.TransGen.head'_iff.mp ha
  exact h a b hab

end Depth

end MylifeHome.Studio.Ui.Deploy
