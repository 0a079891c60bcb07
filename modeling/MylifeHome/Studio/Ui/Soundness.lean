import MylifeHome.Studio.Ui.Deploy
import MylifeHome.Studio.Ui.Validation

/-!
# What the validation of a UI project promises to its deployment

Each reference of a view is checked against a component or against an export of the
template, and each binding of an instance against the export that it is for. Along the
nesting of the instances, what a template reads from an export is then bound to a member
of the kind and the type of the export.
-/
namespace MylifeHome.Studio.Ui.Deploy

open MylifeHome.Lib OMap ControlModel Checks
open MylifeHome.Studio.Core (Err MemberType)

/-! ## Sound definitions -/

/-- The component is there, and its plugin has the member. -/
def MemberOf (project : UiProject) (componentId memberName : Option String)
    (memberType : MemberType) (valueType : String) :
    Prop :=
  ∃ id name component plugin member, componentId = some id ∧ memberName = some name ∧
    project.components.get id = some component ∧ project.plugins.get component.plugin =
      some plugin ∧
    plugin.members.get name = some member ∧ member.memberType = memberType ∧
      member.valueType = valueType

/-- The references of a control lead somewhere. -/
structure ControlSound (project : UiProject) (hasWindow hasResource : String → Prop)
    (control : Control) : Prop where
  display : ∀ display, control.display = some display → truthy display.componentState = true →
    ∃ valueType, MemberOf project display.componentId display.componentState .state valueType
  resources : ∀ display, control.display = some display →
    (∀ id, display.defaultResource = some id → hasResource id) ∧
      ∀ item ∈ display.map, ∀ id, item.resource = some id → hasResource id
  text : ∀ text, control.text = some text → ∀ item ∈ text.context,
    ∃ valueType, MemberOf project item.componentId item.componentState .state valueType
  action : ∀ action, control.primaryAction = some action ∨ control.secondaryAction = some action →
    (∀ component, action.component = some component →
      MemberOf project component.id component.action .action "bool") ∧
      ∀ window, action.window = some window → ∀ id, window.id = some id → hasWindow id

/-- All references of a deployed definition lead somewhere. -/
structure Sound (project : UiProject) (definition : Definition) : Prop where
  control : ∀ window ∈ definition.windows, ∀ control ∈ window.controls,
    ControlSound project (fun id => ∃ w ∈ definition.windows, w.id = id)
      (fun id => ∃ resource ∈ definition.resources, resource.id = id) control
  background : ∀ window ∈ definition.windows, ∀ id, window.backgroundResource = some id →
    ∃ resource ∈ definition.resources, resource.id = id
  defaultWindow : ∀ key id, definition.defaultWindow.get key = some (some id) →
    ∃ w ∈ definition.windows, w.id = id

/-! ## References -/

section References

open ValidationContext

variable {project : UiProject} {owner : Option UiTemplateData} {bindings : Bindings}
  {componentId memberName : Option String} {memberType : MemberType}

theorem memberOf_of_find {id valueType : String} (hname : truthy memberName = true)
    (h : project.findComponentMemberValueType id memberName memberType = .ok (some valueType)) :
    MemberOf project (some id) memberName memberType valueType := by
  obtain ⟨name, rfl, -⟩ := truthy_iff.mp hname
  unfold UiProject.findComponentMemberValueType at h
  split at h
  · cases h
  · next component hcomponent =>
    split at h
    · cases h
    · next plugin hplugin =>
      split at h
      · next member hmember =>
        have h := Except.ok.inj h
        split at h
        · next htype =>
          exact ⟨id, name, component, plugin, member, rfl, rfl, hcomponent, hplugin, hmember, htype,
            Option.some.inj h⟩
        · cases h
      · cases h

/-- What the exports of the owner are bound to. -/
def Bound (project : UiProject) (owner : Option UiTemplateData) (bindings : Bindings) : Prop :=
  ∀ template, owner = some template → ∀ id exportData, template.exports.get id = some exportData →
    ∃ binding, bindings.get id = some (some binding) ∧
      MemberOf project binding.componentId binding.memberName exportData.memberType
        exportData.valueType

/-- A reference that names a component, or is replaced by what an export is bound to. -/
def Resolved (project : UiProject) (bindings : Bindings) (componentId memberName : Option String)
    (memberType : MemberType) (valueType : String) : Prop :=
  if truthy componentId then MemberOf project componentId memberName memberType valueType
  else ∃ binding, bindings.lookup memberName = .ok binding ∧
    MemberOf project binding.componentId binding.memberName memberType valueType

theorem resolved_of_getValueType (hbound : Bound project owner bindings)
    (hname : truthy memberName = true) {valueType : String}
    (h : getValueType project owner componentId memberName memberType =
      .ok (some valueType)) :
    Resolved project bindings componentId memberName memberType valueType := by
  unfold getValueType at h
  unfold Resolved
  split at h
  · next hid =>
    obtain ⟨id, rfl, -⟩ := truthy_iff.mp hid
    rw [if_pos hid]
    exact memberOf_of_find hname h
  · next hid =>
    rw [if_neg hid]
    split at h
    · cases h
    · next template =>
      have h := Except.ok.inj h
      unfold TemplateModel.getExportValueType at h
      split at h
      · next exportData hexport =>
        split at h
        · next htype =>
          obtain ⟨binding, hbinding, hmember⟩ := hbound template rfl _ exportData hexport
          refine ⟨binding, by rw [Bindings.lookup, hbinding], ?_⟩
          rw [← htype, ← Option.some.inj h]
          exact hmember
        · cases h
      · cases h

/-- A reference without error, unless there is nothing to check. -/
theorem resolved_of_check (hbound : Bound project owner bindings) {path : UiElementPath}
    {expected : Option String} {optional : Bool} {found : Option String}
    (hname : truthy memberName = true) (howner : componentId = none → owner ≠ none)
    (h : checkComponent project owner componentId memberName path memberType expected optional =
      .ok ([], found)) :
    ∃ valueType, Resolved project bindings componentId memberName memberType valueType ∧
      ∀ wanted, expected = some wanted → wanted = valueType := by
  unfold checkComponent at h
  split at h
  · next hcond =>
    rw [hname, Bool.not_true, Bool.or_false, Bool.and_eq_true, Option.isNone_iff_eq_none,
      Option.isNone_iff_eq_none] at hcond
    exact absurd hcond.2 (howner hcond.1)
  split at h
  · cases h
  obtain ⟨actual, hget, h⟩ := except_bind_ok.mp h
  dsimp only at h
  split at h
  · cases h
  next hactual =>
  split at h
  · cases h
  next hexpected =>
  obtain ⟨valueType, rfl, -⟩ := truthy_iff.mp (by simpa using hactual)
  refine ⟨valueType, resolved_of_getValueType hbound hname hget, ?_⟩
  rintro wanted rfl
  simpa using hexpected

theorem resolved_of_required (hbound : Bound project owner bindings) {path : UiElementPath}
    {expected : Option String}
    (h : (checkComponent project owner componentId memberName path memberType expected false).map
      Prod.fst = .ok []) :
    ∃ valueType, Resolved project bindings componentId memberName memberType valueType ∧
      ∀ wanted, expected = some wanted → wanted = valueType := by
  obtain ⟨⟨_, found⟩, h, rfl⟩ := except_map_ok.mp h
  by_cases hcond : ((componentId.isNone && owner.isNone) || !truthy memberName) = true
  · rw [checkComponent, if_pos hcond] at h
    cases h
  · rw [Bool.not_eq_true, Bool.or_eq_false_iff] at hcond
    refine resolved_of_check hbound (by simpa using hcond.2) ?_ h
    rintro rfl rfl
    cases hcond.1

theorem checkResourceId_eq_nil {value : Option String} {path : UiElementPath} {optional : Bool}
    (h : checkResourceId project value path optional = []) {id : String} (hid : value = some id) :
    project.resources.has id = true := by
  subst hid
  by_contra hno
  rw [checkResourceId, if_neg hno] at h
  cases h

theorem checkWindowId_eq_nil {value : Option String} {path : UiElementPath}
    (h : checkWindowId project value path = []) {id : String}
    (hid : value = some id) : project.windows.has id = true := by
  subst hid
  by_contra hno
  rw [checkWindowId, if_neg hno] at h
  cases h

end References

/-! ## Controls -/

section Controls

open ValidationContext

variable {project : UiProject} {v : ViewRef} {owner : Option UiTemplateData} {bindings : Bindings}
    {id : String}

theorem mem_zipIdx {α : Type} {l : List α} {a : α} (h : a ∈ l) : ∃ i, (a, i) ∈ l.zipIdx := by
  rw [← List.zipIdx_map_fst 0 l] at h
  obtain ⟨⟨_, i⟩, hmem, rfl⟩ := List.mem_map.mp h
  exact ⟨i, hmem⟩

/-- A display without error. -/
theorem validateDisplay_ok {display : UiControlDisplayData}
    (h : validateDisplay project v owner id display = .ok []) :
    (∃ found, checkComponent project owner display.componentId display.componentState (path v id)
      .state none
      display.map.isEmpty = .ok ([], found)) ∧
    (∀ id, display.defaultResource = some id → project.resources.has id = true) ∧
      ∀ item ∈ display.map, ∀ id, item.resource = some id → project.resources.has id = true := by
  obtain ⟨⟨hdefault, hmap⟩, found, hcheck, -⟩ := validateDisplay_eq_nil.mp h
  refine ⟨⟨found, hcheck⟩, fun id => checkResourceId_eq_nil hdefault, fun item hitem id => ?_⟩
  obtain ⟨i, hi⟩ := mem_zipIdx hitem
  exact checkResourceId_eq_nil (hmap (item, i) hi)

theorem buildDisplay_ok (hbound : Bound project owner bindings) {display : UiControlDisplayData}
    (hnull : display.componentId = none → owner = none → truthy display.componentState = false)
    (h : validateDisplay project v owner id display = .ok []) :
    ∃ built, buildDisplay bindings display = .ok built ∧
      built.defaultResource = display.defaultResource ∧
      built.map = display.map ∧ (truthy built.componentState = true →
        ∃ valueType, MemberOf project built.componentId built.componentState .state valueType) := by
  unfold buildDisplay
  by_cases hstate : truthy display.componentState = true
  · obtain ⟨⟨found, hcheck⟩, -⟩ := validateDisplay_ok h
    have howner : display.componentId = none → owner ≠ none :=
      fun hid ho => by simp [hnull hid ho] at hstate
    obtain ⟨valueType, hresolved, -⟩ := resolved_of_check hbound hstate howner hcheck
    unfold Resolved at hresolved
    split at hresolved
    · next hid =>
      rw [if_pos (by simp [hid])]
      exact ⟨display, rfl, rfl, rfl, fun _ => ⟨valueType, hresolved⟩⟩
    · next hid =>
      obtain ⟨binding, hlookup, hmember⟩ := hresolved
      rw [if_neg (by simp [hstate, hid]), hlookup]
      exact ⟨_, rfl, rfl, rfl, fun _ => ⟨valueType, hmember⟩⟩
  · rw [if_pos (by simp [hstate])]
    exact ⟨display, rfl, rfl, rfl, fun hstate' => absurd hstate' hstate⟩

theorem buildItem_ok (hbound : Bound project owner bindings)
    {item : UiControlTextContextItemData × Nat}
    (h : validateItem project v owner id item = .ok []) :
    ∃ built, buildItem bindings item.1 = .ok built ∧
      ∃ valueType, MemberOf project built.componentId built.componentState .state valueType := by
  obtain ⟨valueType, hresolved, -⟩ := resolved_of_required hbound
    (map_fst_eq_nil.mpr (validateItem_eq_nil.mp h).2)
  unfold buildItem
  unfold Resolved at hresolved
  split at hresolved
  · next hid =>
    rw [if_pos hid]
    exact ⟨_, rfl, valueType, hresolved⟩
  · next hid =>
    obtain ⟨binding, hlookup, hmember⟩ := hresolved
    rw [if_neg hid, hlookup]
    exact ⟨_, rfl, valueType, hmember⟩

theorem buildText_ok (hbound : Bound project owner bindings) {compiles : String → String → Bool}
    {text : UiControlTextData} (h : validateText compiles project v owner id text = .ok []) :
    ∃ built, buildText bindings text = .ok built ∧ ∀ item ∈ built.context,
      ∃ valueType, MemberOf project item.componentId item.componentState .state valueType := by
  have hitems := each_eq_nil.mp (both_eq_nil.mp h).1
  obtain ⟨context, hcontext, hsound⟩ := mapM_exists (f := buildItem bindings) (l := text.context)
    (P := fun item => ∃ valueType,
      MemberOf project item.componentId item.componentState .state valueType) (by
      intro item hitem
      obtain ⟨i, hi⟩ := mem_zipIdx hitem
      exact buildItem_ok hbound (hitems (item, i) hi))
  exact ⟨{ context := context, format := text.format }, by rw [buildText, hcontext]; rfl, hsound⟩

theorem buildAction_ok (hbound : Bound project owner bindings) (type : String)
    {action : UiActionData} (h : validateAction project v owner id type (some action) = .ok []) :
    ∃ built, buildAction bindings action = .ok built ∧
      (∀ component, built.component = some component →
        MemberOf project component.id component.action .action "bool") ∧
      ∀ window, built.window = some window → ∀ id, window.id = some id →
        project.windows.has id = true := by
  obtain ⟨component, window⟩ := action
  match component, window with
  | some _, some _ => cases h
  | none, none => cases h
  | none, some window =>
    refine ⟨{ component := none, window := some window }, rfl, fun component hc => (by cases hc),
      fun window' hw id hid => ?_⟩
    cases hw
    exact checkWindowId_eq_nil (Except.ok.inj h) hid
  | some component, none =>
    obtain ⟨valueType, hresolved, htype⟩ := resolved_of_required hbound h
    obtain rfl := htype "bool" rfl
    unfold Resolved at hresolved
    split at hresolved
    · next hid =>
      refine ⟨{ component := some component, window := none }, by simp [buildAction, hid],
        fun component' hc => ?_, fun window hw => (by cases hw)⟩
      cases hc
      exact hresolved
    · next hid =>
      obtain ⟨binding, hlookup, hmember⟩ := hresolved
      refine ⟨{ component := some { id := binding.componentId, action := binding.memberName },
                window := none },
        by simp [buildAction, hid, hlookup, Except.map], fun component' hc => ?_, fun window hw =>
          (by cases hw)⟩
      cases hc
      exact hmember

/-- A part of a control that may be missing. -/
theorem buildPart_ok {α β : Type} (build : α → Except Err β) (part : Option α) {P : β → Prop}
    (h : ∀ a, part = some a → ∃ b, build a = .ok b ∧ P b) :
    ∃ built, buildPart build part = .ok built ∧ ∀ b, built = some b → P b := by
  cases part with
  | none => exact ⟨none, rfl, fun b hb => by cases hb⟩
  | some a =>
    obtain ⟨b, hb, hP⟩ := h a rfl
    refine ⟨some b, by rw [buildPart, hb]; rfl, fun b' hb' => ?_⟩
    cases hb'
    exact hP

/-- A control without error is built, and its references lead somewhere. -/
theorem buildControl_ok (hbound : Bound project owner bindings) {compiles : String → String → Bool}
    {control : UiControlData} {index : Nat}
    (hnull : ∀ display, control.display = some display → display.componentId = none → owner = none →
      truthy display.componentState = false)
    (h : validate compiles project v owner id control index = .ok []) (builtId : String)
    (xBase yBase : ℚ) :
    ∃ built, buildControl builtId control xBase yBase bindings = .ok built ∧
      ControlSound project (fun id => project.windows.has id = true)
        (fun id => project.resources.has id = true) built := by
  obtain ⟨-, h⟩ := both_eq_nil.mp h
  obtain ⟨hcontent, h⟩ := both_eq_nil.mp h
  obtain ⟨hprimary, hsecondary⟩ := both_eq_nil.mp h
  have hdisplay : ∀ display, control.display = some display →
      validateDisplay project v owner id display = .ok [] := by
    intro display hd
    unfold validateContent at hcontent
    split at hcontent
    · next hd' _ => cases hd.symm.trans hd'; exact hcontent
    · next hd' _ => cases hd.symm.trans hd'
    · cases hcontent
  have htext : ∀ text, control.text = some text →
      validateText compiles project v owner id text = .ok [] := by
    intro text ht
    unfold validateContent at hcontent
    split at hcontent
    · next ht' => cases ht.symm.trans ht'
    · next ht' => cases ht.symm.trans ht'; exact hcontent
    · cases hcontent
  obtain ⟨builtDisplay, hbd, hsd⟩ := buildPart_ok (buildDisplay bindings) control.display
    (P := fun built => ((∀ id, built.defaultResource = some id → project.resources.has id = true) ∧
      ∀ item ∈ built.map, ∀ id, item.resource = some id → project.resources.has id = true) ∧
      (truthy built.componentState = true →
        ∃ valueType, MemberOf project built.componentId built.componentState .state valueType)) (by
      intro display hd
      obtain ⟨built, hbuilt, hdefault, hmap, hmember⟩ :=
        buildDisplay_ok hbound (hnull display hd) (hdisplay display hd)
      refine ⟨built, hbuilt, ?_, hmember⟩
      rw [hdefault, hmap]
      exact (validateDisplay_ok (hdisplay display hd)).2)
  obtain ⟨builtText, hbt, hst⟩ := buildPart_ok (buildText bindings) control.text
    fun text ht => buildText_ok hbound (htext text ht)
  obtain ⟨builtPrimary, hbp, hsp⟩ := buildPart_ok (buildAction bindings) control.primaryAction
    fun action ha => buildAction_ok hbound "primaryAction" (by rw [← ha]; exact hprimary)
  obtain ⟨builtSecondary, hbs, hss⟩ := buildPart_ok (buildAction bindings) control.secondaryAction
    fun action ha => buildAction_ok hbound "secondaryAction" (by rw [← ha]; exact hsecondary)
  refine ⟨_, by rw [buildControl, hbd, hbt, hbp, hbs]; rfl, ?_⟩
  exact
    { display := fun display hd => (hsd display hd).2
      resources := fun display hd => (hsd display hd).1
      text := hst
      action := fun action ha => ha.elim (hsp action) (hss action) }

end Controls

/-! ## Views -/

section Views

variable {project : UiProject} {v : ViewRef} {owner : Option UiTemplateData} {bindings : Bindings}
    {id : String}

/-- The bindings of an instance without error are bindings of the exports of its template. -/
theorem bound_instance (hbound : Bound project owner bindings) {data : UiTemplateInstanceData}
    {index : Nat} (h : TemplateInstanceModel.validate project v owner id data index = .ok []) :
    ∃ template, project.templates.get (propertyName data.templateId) = some template ∧
      Bound project (some template) (instanceBindings bindings data) := by
  obtain ⟨templateId, template, htemplate, -, hbindings⟩ :=
    TemplateInstanceModel.validate_eq_nil.mp h
  have hget : project.templates.get (propertyName data.templateId) = some template := by
    unfold TemplateInstanceModel.getTemplate at htemplate
    split at htemplate
    · next htruthy =>
      obtain ⟨name, hname, -⟩ := truthy_iff.mp htruthy
      obtain ⟨found, hfound, heq⟩ := except_map_ok.mp htemplate
      cases heq
      rw [hname] at hfound ⊢
      exact (CollectionModel.getById_ok _).mp hfound
    · cases htemplate
  refine ⟨template, hget, ?_⟩
  rintro _ ⟨⟩ exportId exportData hexport
  have hbinding := hbindings (exportId, exportData) (mem_entries.mpr hexport)
  unfold TemplateInstanceModel.validateBinding at hbinding
  split at hbinding
  · cases hbinding
  · next binding hget =>
    obtain ⟨valueType, hresolved, htype⟩ := resolved_of_required hbound hbinding
    obtain rfl := htype _ rfl
    rw [instanceBindings, get_mapVal, hget, Option.map_some]
    unfold Resolved at hresolved
    split at hresolved
    · next hid => exact ⟨binding, by rw [if_pos hid], hresolved⟩
    · next hid =>
      obtain ⟨outer, hlookup, hmember⟩ := hresolved
      refine ⟨outer, ?_, hmember⟩
      rw [if_neg hid]
      unfold Bindings.lookup at hlookup
      split at hlookup
      · next hfound => cases hlookup; rw [hfound]; rfl
      · cases hlookup

/-- A display of a window that reads an export, which a window does not have. -/
def ReadsNoExport (owner : Option UiTemplateData) (view : UiViewData) : Prop :=
  ∀ id control display, view.controls.get id = some control → control.display = some display →
    display.componentId = none → owner = none → truthy display.componentState = false

/-- The elements of a view without error are built at any depth, and are sound. -/
theorem addViewElements_ok {compiles : String → String → Bool} {rank : String → Nat}
    (hrank : ∀ a b, Uses project a b ∧ project.templates.has b = true → rank b < rank a)
    (htemplates : ∀ id template, project.templates.get id = some template →
      ViewModel.validate compiles project (.template id) (some template) template.toUiViewData =
        .ok [])
    {n : Nat} {view : UiViewData} (hbelow : Below project rank view n)
    (hbound : Bound project owner bindings) (hnull : ReadsNoExport owner view)
    (h : ViewModel.validate compiles project v owner view = .ok []) {fuel : Nat} (hfuel : n < fuel)
    (xBase yBase : ℚ) (pathBase : List String) :
    ∃ controls, addViewElements project fuel xBase yBase pathBase view bindings = .ok controls ∧
      ∀ control ∈ controls, ControlSound project (fun id => project.windows.has id = true)
        (fun id => project.resources.has id = true) control := by
  induction fuel generalizing n view v owner bindings xBase yBase pathBase with
  | zero => omega
  | succ fuel ih =>
    obtain ⟨hcontrols, hinstances⟩ := both_eq_nil.mp h
    rw [each_eq_nil] at hcontrols hinstances
    obtain ⟨nested, hnested, hsound⟩ := mapM_exists (l := view.templates.entries)
      (f := instanceElements project fuel xBase yBase pathBase bindings)
      (P := fun controls => ∀ control ∈ controls,
        ControlSound project (fun id => project.windows.has id = true)
        (fun id => project.resources.has id = true) control) (by
        intro e he
        obtain ⟨i, hi⟩ := mem_zipIdx he
        obtain ⟨template, htemplate, hinner⟩ := bound_instance hbound (hinstances (e, i) hi)
        rw [instanceElements, htemplate]
        have hlt := hbelow e he (has_iff.mpr ⟨template, htemplate⟩)
        refine ih (n := rank (propertyName e.2.templateId)) ?_ hinner ?_
          (htemplates _ template htemplate) (by omega) _ _ _
        · exact fun e' he' hhas =>
            hrank _ _ ⟨⟨template, htemplate, e'.1, e'.2, mem_entries.mp he', rfl⟩, hhas⟩
        · exact fun _ _ _ _ _ _ howner => by cases howner)
    obtain ⟨own, hown, hsound'⟩ := mapM_exists (l := view.controls.entries)
      (f := fun e => buildControl (":".intercalate (pathBase ++ [e.1])) e.2 xBase yBase bindings)
      (P := fun control => ControlSound project (fun id => project.windows.has id = true)
        (fun id => project.resources.has id = true) control) (by
        intro e he
        obtain ⟨i, hi⟩ := mem_zipIdx he
        exact buildControl_ok hbound (fun display => hnull e.1 e.2 display (mem_entries.mp he))
          (hcontrols (e, i) hi) _ _ _)
    refine ⟨nested.flatten ++ own,
      except_bind_ok.mpr ⟨nested, hnested, except_bind_ok.mpr ⟨own, hown, rfl⟩⟩, ?_⟩
    intro control hcontrol
    rcases List.mem_append.mp hcontrol with hmem | hmem
    · obtain ⟨controls, hmem', hmem⟩ := List.mem_flatten.mp hmem
      exact hsound controls hmem' control hmem
    · exact hsound' control hmem

end Views

/-! ## Definitions -/

section Definitions

variable {project : UiProject}

theorem ControlSound.mono {hasWindow hasWindow' hasResource hasResource' : String → Prop}
    {control : Control} (h : ControlSound project hasWindow hasResource control)
    (hw : ∀ id, hasWindow id → hasWindow' id)
    (hr : ∀ id, hasResource id → hasResource' id) : ControlSound project hasWindow' hasResource'
      control where
  display := h.display
  resources display hd := ⟨fun id hid => hr id ((h.resources display hd).1 id hid),
    fun item hitem id hid => hr id ((h.resources display hd).2 item hitem id hid)⟩
  text := h.text
  action action ha := ⟨(h.action action ha).1,
    fun window hwindow id hid => hw id ((h.action action ha).2 window hwindow id hid)⟩

/-- The windows are deployed under their ids. -/
theorem mem_windows {fuel : Nat} {windows : List Window}
    (h : project.windows.entries.mapM (fun e => buildWindow fuel project e.1 e.2) = .ok windows)
    {id : String} (hid : project.windows.has id = true) : ∃ w ∈ windows, w.id = id := by
  obtain ⟨window, hget⟩ := has_iff.mp hid
  obtain ⟨built, hmem, hbuilt⟩ := mapM_ok_mem h (mem_entries.mpr hget)
  obtain ⟨controls, -, hbuilt⟩ := except_bind_ok.mp hbuilt
  cases hbuilt
  exact ⟨_, hmem, rfl⟩

theorem mem_resources {id : String} (hid : project.resources.has id = true) :
    ∃ resource ∈ project.resources.entries.map (fun e => ({ e.2 with id := e.1 } : Resource)),
      resource.id = id := by
  obtain ⟨resource, hget⟩ := has_iff.mp hid
  exact ⟨_, List.mem_map.mpr ⟨(id, resource), mem_entries.mpr hget, rfl⟩, rfl⟩

/-- A window that reads an export is not deployed. -/
theorem readsNoExport_of_deployed {fuel : Nat} {definition : Definition}
    (h : buildDeployDefinition fuel project = .ok definition) {w : String} {window : UiWindowData}
    (hw : project.windows.get w = some window) : ReadsNoExport none window.toUiViewData := by
  intro id control display hcontrol hdisplay hid _
  obtain ⟨windows, hwindows, -⟩ := except_bind_ok.mp h
  obtain ⟨built, -, hbuilt⟩ := mapM_ok_mem hwindows (mem_entries.mpr hw)
  obtain ⟨controls, hcontrols, -⟩ := except_bind_ok.mp hbuilt
  cases fuel with
  | zero => cases hcontrols
  | succ fuel =>
    obtain ⟨nested, -, hown⟩ := except_bind_ok.mp hcontrols
    obtain ⟨own, hown, -⟩ := except_bind_ok.mp hown
    obtain ⟨_, -, hbuild⟩ := mapM_ok_mem hown (mem_entries.mpr hcontrol)
    obtain ⟨part, hpart, -⟩ := except_bind_ok.mp hbuild
    rw [hdisplay] at hpart
    obtain ⟨_, hpart, -⟩ := except_map_ok.mp hpart
    by_contra hstate
    have hnone : truthy display.componentId = false := by rw [hid]; rfl
    rw [buildDisplay, if_neg (by simp [hstate, hnone])] at hpart
    cases hpart

/-- A valid project in which no window reads an export is deployed, and all references of the
definition lead somewhere. -/
theorem sound_of_readsNoExport {compiles : String → String → Bool}
    (hacyclic : Acyclic (Uses project)) (hvalid : ProjectModel.validate compiles project = .ok [])
    (hnull : ∀ w window, project.windows.get w = some window → ∀ id control display,
      window.controls.get id = some control →
      control.display = some display → display.componentId = none → truthy display.componentState =
        false) :
    ∃ depth, ∀ fuel ≥ depth, ∃ definition,
      buildDeployDefinition fuel project = .ok definition ∧ Sound project definition := by
  obtain ⟨hdefault, h⟩ := both_eq_nil.mp hvalid
  obtain ⟨hwindows, htemplates⟩ := both_eq_nil.mp h
  rw [each_eq_nil] at hwindows htemplates
  obtain ⟨rank, n, hrank, hbelow⟩ := exists_rank hacyclic
  refine ⟨n + 1, fun fuel hfuel => ?_⟩
  obtain ⟨windows, hbuilt, hsound⟩ := mapM_exists (l := project.windows.entries)
    (f := fun e => buildWindow fuel project e.1 e.2) (P := fun built =>
      (∀ id, built.backgroundResource = some id → project.resources.has id = true) ∧
      ∀ control ∈ built.controls, ControlSound project (fun id => project.windows.has id = true)
        (fun id => project.resources.has id = true) control) (by
      intro e he
      obtain ⟨hbackground, hview⟩ := both_eq_nil.mp (hwindows e he)
      obtain ⟨controls, hcontrols, hsound⟩ := addViewElements_ok hrank
        (fun id template hget => htemplates (id, template) (mem_entries.mpr hget)) (hbelow _)
        (fun _ howner => by cases howner)
        (fun id control display hcontrol hdisplay hid _ =>
          hnull e.1 e.2 (mem_entries.mp he) id control display hcontrol hdisplay hid)
        hview hfuel 0 0 []
      refine ⟨_, except_bind_ok.mpr ⟨controls, hcontrols, rfl⟩, fun id => ?_, hsound⟩
      exact checkResourceId_eq_nil (Except.ok.inj hbackground))
  refine ⟨_, except_bind_ok.mpr ⟨windows, hbuilt, rfl⟩, ?_, ?_, ?_⟩
  · intro window hwindow control hcontrol
    exact ((hsound window hwindow).2 control hcontrol).mono (fun id => mem_windows hbuilt) fun id =>
      mem_resources
  · exact fun window hwindow id hid => mem_resources ((hsound window hwindow).1 id hid)
  · intro key id hget
    have hchecks := List.flatMap_eq_nil_iff.mp (Except.ok.inj hdefault) (key,
      some id) (mem_entries.mpr hget)
    exact mem_windows hbuilt (checkWindowId_eq_nil hchecks rfl)

end Definitions

/-! ## A project with a display in a template -/

/-- A lamp with a state. -/
def lampPlugin : UiPluginData where
  instanceName := "i"
  name := "lamp"
  module := "io"
  version := "1"
  description := ""
  members := .ofList [("on", { description := "", memberType := .state, valueType := "bool" })]

/-- A template with a display of its export, and a window with an instance of it for the lamp. -/
def displayProject : UiProject where
  resources := ∅
  styles := ∅
  windows := .ofList [("w", { windowTemplate with
    templates := .ofList [("x", { templateInstanceTemplate 0 0 with
      templateId := some "t"
      bindings := .ofList
        [("state", { componentId := some "lamp", memberName := some "on" })] })] })]
  templates := .ofList [("t", { templateTemplate with
    «exports» := .ofList [("state",
      { memberType := .state, valueType := "bool", bulkPattern := none })]
    controls := .ofList [("c", { controlTemplate 0 0 with
      display := some { controlDisplayTemplate with componentState := some "state" } })] })]
  defaultWindow := .ofList [("desktop", some "w")]
  components := .ofList [("lamp", { plugin := "i:io.lamp" })]
  plugins := .ofList [("i:io.lamp", lampPlugin)]

end MylifeHome.Studio.Ui.Deploy
