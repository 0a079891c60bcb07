import MylifeHome.Studio.Ui.OpenedProject

/-!
# Validation of a UI project

`ProjectModel.validate` of `definition-model.ts`. A check gives the errors that it adds to
the context, or throws. Whether a format compiles as the body of a function of its
context items is the engine's answer, and a parameter here.
-/
namespace MylifeHome.Studio.Ui

open MylifeHome.Lib
open MylifeHome.Studio.Core (Err JsValue MemberType)
open MylifeHome.Common.Metadata (MetaType parseType)

structure UiValidationError where
  path : UiElementPath
  message : String
  deriving DecidableEq

/-- The errors that a part of the validation adds. -/
abbrev Checks := Except Err (List UiValidationError)

namespace Checks

def both (a b : Checks) : Checks := do
  let first ← a
  let second ← b
  return first ++ second

def each {α : Type} (l : List α) (check : α → Checks) : Checks := do
  let errors ← l.mapM check
  return errors.flatten

theorem both_eq_nil {a b : Checks} : both a b = .ok [] ↔ a = .ok [] ∧ b = .ok [] := by
  simp only [both, except_bind_ok]
  constructor
  · rintro ⟨first, ha, second, hb, h⟩
    obtain ⟨rfl, rfl⟩ := List.append_eq_nil_iff.mp (Except.ok.inj h)
    exact ⟨ha, hb⟩
  · rintro ⟨ha, hb⟩
    exact ⟨[], ha, [], hb, rfl⟩

theorem each_eq_nil {α : Type} {l : List α} {check : α → Checks} :
    each l check = .ok [] ↔ ∀ a ∈ l, check a = .ok [] := by
  simp only [each, except_bind_ok]
  constructor
  · rintro ⟨errors, hl, h⟩ a ha
    obtain ⟨first, hmem, hcheck⟩ := mapM_ok_mem hl ha
    rw [List.flatten_eq_nil_iff.mp (Except.ok.inj h) first hmem] at hcheck
    exact hcheck
  · intro h
    refine ⟨l.map fun _ => [], mapM_ok_of_forall h, ?_⟩
    exact congrArg Except.ok
      (List.flatten_eq_nil_iff.mpr fun x hx => (List.mem_map.mp hx).choose_spec.2.symm)

end Checks

/-- `viewType` and `viewId` as the first node of a path. -/
def ViewRef.node : ViewRef → UiElementPathNode
  | .window id => { type := .window, id := id }
  | .template id => { type := .template, id := id }

namespace ValidationContext

variable (project : UiProject)

def addError (message : String) (path : UiElementPath) : List UiValidationError :=
  [{ path := path, message := message }]

def checkId (value : String) (path : UiElementPath) : List UiValidationError :=
  if value = "" then addError "L'identifiant n'est pas défini." path else []

def checkWindowId (value : Option String) (path : UiElementPath) : List UiValidationError :=
  match value with
  | none => addError "La fenêtre n'est pas définie." path
  | some id => if project.windows.has id then []
    else addError ("La fenêtre '" ++ id ++ "' n'existe pas.") path

def checkResourceId (value : Option String) (path : UiElementPath) (optional : Bool) :
    List UiValidationError :=
  match value with
  | none => if optional then [] else addError "La ressource n'est pas définie." path
  | some id => if project.resources.has id then []
    else addError ("La ressource '" ++ id ++ "' n'existe pas.") path

/-- A window has no exports to look into. -/
def getValueType (owner : Option UiTemplateData) (componentId memberName : Option String)
    (memberType : MemberType) :
    Except Err (Option String) :=
  if truthy componentId then project.findComponentMemberValueType (componentId.getD "") memberName
    memberType
  else match owner with
    | none => .error .typeError
    | some template => .ok (TemplateModel.getExportValueType template memberName memberType)

def buildErrorPrefix (componentId memberName : Option String) (memberType : MemberType) : String :=
  let suffix :=
    if truthy componentId then " du composant '" ++ componentId.getD "" ++ "'"
    else " de l'export template"
  match memberType with
  | .state => "L'état '" ++ memberName.getD "" ++ "' " ++ suffix
  | .action => "L'action '" ++ memberName.getD "" ++ "' " ++ suffix

/-- The errors, and the value type of the member. The owner is the template that the element belongs
to, if it does not belong to a window. -/
def checkComponent (owner : Option UiTemplateData) (componentId memberName : Option String)
    (path : UiElementPath) (memberType : MemberType) (valueType : Option String) (optional : Bool) :
    Except Err (List UiValidationError × Option String) :=
  if (componentId.isNone && owner.isNone) || !truthy memberName then
    .ok (if optional then [] else addError "Le composant n'est pas défini." path, none)
  else if componentId.any fun id => !project.components.has id then
    .ok (addError ("Le composant '" ++ componentId.getD "" ++ "' n'existe pas.") path, none)
  else do
    let actualValueType ← getValueType project owner componentId memberName memberType
    let errorPrefix := buildErrorPrefix componentId memberName memberType
    if !truthy actualValueType then return (addError (errorPrefix ++ " n'existe pas.") path, none)
    else if valueType.isSome && valueType ≠ actualValueType then
      return (addError (errorPrefix ++ " a un type incorrect : '" ++ valueType.getD "" ++ "'.")
        path, actualValueType)
    else return ([], actualValueType)

end ValidationContext

open ValidationContext

namespace ControlModel

section MapItems

variable (item : UiControlDisplayMapItemData) (path : UiElementPath)

def validateTextValue : List UiValidationError :=
  (if item.min ≠ none ∨ item.max ≠
    none then addError "Le type 'text' ne doit pas utiliser min/max" path else []) ++
  match item.value with
  | .string _ => []
  | _ => addError "Valeur incorrecte" path

def validateEnumValue (values : List JsValue) : List UiValidationError :=
  (if item.min ≠ none ∨ item.max ≠
    none then addError "Le type 'enum' ne doit pas utiliser min/max" path else []) ++
  if item.value ∈ values then [] else addError "Valeur incorrecte" path

/-- A bound that is not a number is `null`. -/
def validateFloatValue : List UiValidationError :=
  (if item.value ≠ .null then addError "Le type 'float' ne doit pas utiliser valeur mais min/max"
    path else []) ++
  match item.min, item.max with
  | some min, some max => if min > max then addError "'min' > 'max'" path else []
  | _, _ => []

/-- `null` is compared as zero. -/
def validateRangeValue (min max : Int) : List UiValidationError :=
  (if item.value ≠ .null then addError "Le type 'range' ne doit pas utiliser valeur mais min/max"
    path else []) ++
  (if item.min.all fun q : ℚ => decide (q.den ≠ 1 ∨ q < min) then addError "'min' incorrect" path
    else []) ++
  (if item.max.all fun q : ℚ => decide (q.den ≠ 1 ∨ q > max) then addError "'max' incorrect" path
    else []) ++
  if item.min.getD 0 > item.max.getD 0 then addError "'min' > 'max'" path else []

def validateValue : MetaType → List UiValidationError
  | .range min max => validateRangeValue item path min max
  | .text => validateTextValue item path
  | .float => validateFloatValue item path
  | .bool => validateEnumValue item path [.bool true, .bool false]
  | .enum values => validateEnumValue item path (values.map .string)
  | .complex => []

end MapItems

variable (compiles : String → String → Bool) (project : UiProject) (v : ViewRef)
    (owner : Option UiTemplateData) (id : String)

/-- The path of a control. -/
def path : UiElementPath := [v.node, { type := .control, id := id }]

/-- The path of a part of a control that is known by its place. -/
def itemPath (type : UiElementType) (index : Nat) : UiElementPath :=
  path v id ++ [{ type := type, id := toString index }]

def validateDisplay (display : UiControlDisplayData) : Checks := do
  let resources := checkResourceId project display.defaultResource (path v id) true ++
    display.map.zipIdx.flatMap fun item =>
      checkResourceId project item.1.resource (itemPath v id .mapItem item.2) false
  let (errors, valueType) ←
    checkComponent project owner display.componentId display.componentState (path v id) .state none
      display.map.isEmpty
  if !truthy valueType then return resources ++ errors
  else
    let type ← (parseType (valueType.getD "")).mapError fun e => Err.error e.message
    if type = .complex then
      return resources ++ errors ++
        addError "Un composant de type complexe ne peut pas être utilisé" (path v id)
    else return resources ++ errors ++
      display.map.zipIdx.flatMap fun item =>
        validateValue item.1 (itemPath v id .mapItem item.2) type

def validateItem (item : UiControlTextContextItemData × Nat) : Checks := do
  let errors := checkId item.1.id (itemPath v id .contextItem item.2)
  let (componentErrors, _) ← checkComponent project owner item.1.componentId item.1.componentState
    (path v id ++ [{ type := .contextItem, id := item.1.id }]) .state none false
  return errors ++ componentErrors

def validateText (text : UiControlTextData) : Checks :=
  Checks.both (Checks.each text.context.zipIdx (validateItem project v owner id)) <| .ok
    (if compiles (",".intercalate (text.context.map UiControlTextContextItemData.id))
      text.format then []
    else addError "Le format est invalide" (path v id))

def validateAction (type : String) (action : Option UiActionData) : Checks :=
  let path := path v id ++ [{ type := .action, id := type }]
  match action with
  | none => .ok []
  | some { component := some _, window := some _ } =>
    .ok (addError "L'action doit être composant ou fenêtre" path)
  | some { component := none, window := none } =>
    .ok (addError "L'action doit être composant ou fenêtre" path)
  | some { component := some component, window := none } =>
    (checkComponent project owner component.id component.action path .action (some "bool")
      false).map Prod.fst
  | some { component := none, window := some window } => .ok (checkWindowId project window.id path)

def validateContent (control : UiControlData) : Checks :=
  match control.display, control.text with
  | some display, none => validateDisplay project v owner id display
  | none, some text => validateText compiles project v owner id text
  | _, _ => .ok (addError "Le contrôle doit être image ou texte" (path v id))

def validate (control : UiControlData) (index : Nat) : Checks :=
  Checks.both (.ok (checkId id [v.node, { type := .control, id := toString index }])) <|
    Checks.both (validateContent compiles project v owner id control) <|
      Checks.both (validateAction project v owner id "primaryAction" control.primaryAction)
        (validateAction project v owner id "secondaryAction" control.secondaryAction)

end ControlModel

namespace TemplateInstanceModel

variable (project : UiProject) (v : ViewRef) (owner : Option UiTemplateData) (id : String)

/-- The path of a template instance. -/
def path : UiElementPath := [v.node, { type := .templateInstance, id := id }]

def validateBinding (data : UiTemplateInstanceData) (exported : String × UiTemplateExport) :
    Checks :=
  match data.bindings.get exported.1 with
  | none => .ok (addError ("Binding inexistant sur export '" ++ exported.1 ++ "'") (path v id))
  | some binding => (checkComponent project owner binding.componentId binding.memberName
      (path v id ++ [{ type := .templateBinding, id := exported.1 }]) exported.2.memberType
        (some exported.2.valueType)
      false).map Prod.fst

/-- An instance without a template is an error, and reading the exports of its template throws. -/
def validate (data : UiTemplateInstanceData) (index : Nat) : Checks := do
  let errors := checkId id [v.node, { type := .templateInstance, id := toString index }] ++
    if truthy data.templateId then [] else addError "Template non défini" (path v id)
  let (_, template) ← getTemplate project data
  let unknown := data.bindings.keys.flatMap fun bindingId =>
    if template.exports.has bindingId then []
    else addError ("Binding sur export '" ++ bindingId ++ "' inexistant") (path v id)
  let bindings ← Checks.each template.exports.entries (validateBinding project v owner id data)
  return errors ++ unknown ++ bindings

end TemplateInstanceModel

namespace ViewModel

variable (compiles : String → String → Bool) (project : UiProject)

def validate (v : ViewRef) (owner : Option UiTemplateData) (view : UiViewData) : Checks :=
  Checks.both
    (Checks.each view.controls.entries.zipIdx fun e =>
      ControlModel.validate compiles project v owner e.1.1 e.1.2 e.2)
    (Checks.each view.templates.entries.zipIdx fun e =>
      TemplateInstanceModel.validate project v owner e.1.1 e.1.2 e.2)

end ViewModel

namespace ProjectModel

variable (compiles : String → String → Bool) (project : UiProject)

def validateDefaultWindow : Checks :=
  .ok (project.defaultWindow.entries.flatMap fun e =>
    checkWindowId project e.2 [{ type := .defaultWindow, id := e.1 }])

def validateWindow (id : String) (window : UiWindowData) : Checks :=
  Checks.both (.ok (checkResourceId project window.backgroundResource
    [{ type := .window, id := id }] true))
    (ViewModel.validate compiles project (.window id) none window.toUiViewData)

def validate : Checks :=
  Checks.both (validateDefaultWindow project) <|
    Checks.both (Checks.each project.windows.entries fun e =>
      validateWindow compiles project e.1 e.2) <|
      Checks.each project.templates.entries fun e =>
        ViewModel.validate compiles project (.template e.1) (some e.2) e.2.toUiViewData

end ProjectModel

/-! ## Validation without error -/

section Valid

variable {project : UiProject} {v : ViewRef} {owner : Option UiTemplateData} {id : String}

theorem map_fst_eq_nil {x : Except Err (List UiValidationError × Option String)} :
    x.map Prod.fst = .ok [] ↔ ∃ found, x = .ok ([], found) := by
  rw [except_map_ok]
  constructor
  · rintro ⟨⟨_, found⟩, hx, rfl⟩
    exact ⟨found, hx⟩
  · rintro ⟨found, hx⟩
    exact ⟨_, hx, rfl⟩

namespace ControlModel

/-- The items of a display fit the type that was found, if there is one. -/
def Fits (v : ViewRef) (id : String) (display : UiControlDisplayData)
    (found : Option String) : Prop :=
  truthy found = true → ∃ type, parseType (found.getD "") = .ok type ∧ type ≠ .complex ∧
    ∀ item ∈ display.map.zipIdx, validateValue item.1 (itemPath v id .mapItem item.2) type = []

theorem validateDisplay_eq_nil {display : UiControlDisplayData} :
    validateDisplay project v owner id display = .ok [] ↔
      (checkResourceId project display.defaultResource (path v id) true = [] ∧
        ∀ item ∈ display.map.zipIdx,
        checkResourceId project item.1.resource (itemPath v id .mapItem item.2) false = []) ∧
      ∃ found, checkComponent project owner display.componentId display.componentState (path v id)
        .state none
        display.map.isEmpty = .ok ([], found) ∧ Fits v id display found := by
  unfold validateDisplay
  simp only [except_bind_ok, Prod.exists]
  constructor
  · rintro ⟨errors, found, hcheck, h⟩
    split at h
    · next hfound =>
      simp only [Except.ok.injEq, List.append_eq_nil_iff, List.flatMap_eq_nil_iff, pure,
        Except.pure] at h
      obtain ⟨hresources, rfl⟩ := h
      exact ⟨hresources, found, hcheck, fun hfound' => by simp [hfound'] at hfound⟩
    · obtain ⟨type, htype, h⟩ := except_bind_ok.mp h
      split at h
      · simp [pure, Except.pure, addError] at h
      · next hcomplex =>
        simp only [Except.ok.injEq, List.append_eq_nil_iff, List.flatMap_eq_nil_iff, pure,
          Except.pure] at h
        obtain ⟨⟨hresources, rfl⟩, hitems⟩ := h
        exact ⟨hresources, found, hcheck,
          fun _ => ⟨type, except_mapError_ok.mp htype, hcomplex, hitems⟩⟩
  · rintro ⟨hresources, found, hcheck, hfits⟩
    refine ⟨[], found, hcheck, ?_⟩
    have hnil : (checkResourceId project display.defaultResource (path v id) true ++
      display.map.zipIdx.flatMap fun item =>
        checkResourceId project item.1.resource (itemPath v id .mapItem item.2) false) = [] := by
      simpa only [List.append_eq_nil_iff, List.flatMap_eq_nil_iff] using hresources
    rw [hnil]
    cases hfound : truthy found with
    | false => rfl
    | true =>
      obtain ⟨type, htype, hcomplex, hitems⟩ := hfits hfound
      refine except_bind_ok.mpr ⟨type, except_mapError_ok.mpr htype, ?_⟩
      rw [if_neg hcomplex]
      exact congrArg Except.ok (List.flatMap_eq_nil_iff.mpr hitems)

theorem validateItem_eq_nil {item : UiControlTextContextItemData × Nat} :
    validateItem project v owner id item = .ok [] ↔
      checkId item.1.id (itemPath v id .contextItem item.2) = [] ∧
      ∃ found, checkComponent project owner item.1.componentId item.1.componentState
        (path v id ++ [{ type := .contextItem, id := item.1.id }]) .state none false =
          .ok ([], found) := by
  unfold validateItem
  simp only [except_bind_ok, Prod.exists, pure, Except.pure, Except.ok.injEq,
    List.append_eq_nil_iff]
  constructor
  · rintro ⟨_, found, hcheck, hid, rfl⟩
    exact ⟨hid, found, hcheck⟩
  · rintro ⟨hid, found, hcheck⟩
    exact ⟨[], found, hcheck, hid, rfl⟩

end ControlModel

theorem TemplateInstanceModel.validate_eq_nil {data : UiTemplateInstanceData} {index : Nat} :
    validate project v owner id data index = .ok [] ↔
      ∃ templateId template, getTemplate project data = .ok (templateId, template) ∧
        (checkId id [v.node, { type := .templateInstance, id := toString index }] = [] ∧
          ∀ k ∈ data.bindings.keys, template.exports.has k = true) ∧
        ∀ e ∈ template.exports.entries, validateBinding project v owner id data e = .ok [] := by
  unfold validate
  simp only [except_bind_ok, Prod.exists]
  constructor
  · rintro ⟨templateId, template, htemplate, bindings, hbindings, h⟩
    simp only [pure, Except.pure, Except.ok.injEq, List.append_eq_nil_iff,
      List.flatMap_eq_nil_iff] at h
    obtain ⟨⟨⟨hid, -⟩, hunknown⟩, rfl⟩ := h
    refine ⟨templateId, template, htemplate, ⟨hid, fun k hk => ?_⟩, Checks.each_eq_nil.mp hbindings⟩
    have hk := hunknown k hk
    split at hk
    · next hexports => exact hexports
    · cases hk
  · rintro ⟨templateId, template, htemplate, ⟨hid, hexports⟩, hbindings⟩
    refine ⟨templateId, template, htemplate, [], Checks.each_eq_nil.mpr hbindings, ?_⟩
    have htruthy : truthy data.templateId = true := by
      unfold getTemplate at htemplate
      split at htemplate
      · next htruthy => exact htruthy
      · cases htemplate
    have hunknown : (data.bindings.keys.flatMap fun bindingId =>
      if template.exports.has bindingId then [] else
        addError ("Binding sur export '" ++ bindingId ++ "' inexistant") (path v id)) = [] :=
      List.flatMap_eq_nil_iff.mpr fun k hk => if_pos (hexports k hk)
    rw [hid, hunknown, if_pos htruthy]
    rfl

end Valid

end MylifeHome.Studio.Ui
