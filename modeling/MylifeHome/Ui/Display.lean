import MylifeHome.Studio.Ui.Validation
import MylifeHome.Ui.Model

/-!
# The picture of a control

`selectors/control.ts` of the UI client: the resource that a control displays is chosen
from the map of its display by the value of a state. The studio has validated the map, and
the deployment and the model manager have replaced its references.
-/
namespace MylifeHome.Ui

open MylifeHome.Lib
open MylifeHome.Studio.Core (Err JsValue)
open MylifeHome.Studio.Ui
  (UiProject UiControlData UiControlDisplayData UiControlDisplayMapItemData UiTemplateData ViewRef
  ControlModel.validateContent ControlModel.validateDisplay ControlModel.path ControlModel.itemPath
  ControlModel.validateValue ControlModel.validateDisplay_eq_nil ValidationContext.checkComponent
    propertyName truthy)
open MylifeHome.Studio.Ui.Deploy (Control Bindings buildDisplay buildControl buildPart)
open MylifeHome.Common.Metadata (MetaType parseType)

/-- The states of the components that the client knows. -/
abbrev RepositoryState := OMap String (OMap String JsValue)

def getComponentState (state : RepositoryState) (componentId componentState : Option String) :
    JsValue :=
  ((state.get (propertyName componentId)).bind fun attributes =>
    attributes.get (propertyName componentState)).getD .undefined

def componentStateKey (componentId componentState : Option String) : String :=
  propertyName componentId ++ "$" ++ propertyName componentState

/-- The states that the display and the text of a control read. -/
def controlStates (control : Control) : List RequiredComponentState :=
  (match control.display with
    | none => []
    | some display => [⟨display.componentId, display.componentState⟩]) ++
  match control.text with
  | none => []
  | some text => text.context.map fun item => ⟨item.componentId, item.componentState⟩

def getRequiredComponentStates (state : RepositoryState) (required : List RequiredComponentState) :
    OMap String JsValue :=
  required.foldl (fun componentStates item =>
    componentStates.set (componentStateKey item.componentId item.componentState)
      (getComponentState state item.componentId item.componentState)) ∅

def findComponentState (componentStates : OMap String JsValue)
    (componentId componentState : Option String) : JsValue :=
  (componentStates.get (componentStateKey componentId componentState)).getD .undefined

/-- `null` is compared with a number as zero. -/
def findDisplayItem (map : List UiControlDisplayMapItemData) : JsValue →
    Option UiControlDisplayMapItemData
  | .number value => map.find? fun item =>
    decide (item.min.getD 0 ≤ value) && decide (value ≤ item.max.getD 0)
  | value => map.find? fun item => item.value.objectIs value

def createResourceDisplayResolver (display : Option UiControlDisplayData)
    (componentStates : OMap String JsValue) :
    Option String :=
  match display with
  | none => none
  | some display =>
    let value := findComponentState componentStates display.componentId display.componentState
    if value = .undefined then display.defaultResource
    else
      match findDisplayItem display.map value with
      | none => display.defaultResource
      | some item => item.resource

/-- The `displayResource` of `makeGetUIControl`. -/
def displayResource (control : Control) (state : RepositoryState) : Option String :=
  createResourceDisplayResolver control.display
    (getRequiredComponentStates state (controlStates control))

/-! ## What the map means -/

/-- The interval of an item; a bound that is `null` leaves its side open. -/
def contains (item : UiControlDisplayMapItemData) (value : ℚ) : Bool :=
  item.min.all (fun min => decide (min ≤ value)) && item.max.all fun max => decide (value ≤ max)

/-- The item that a value selects: a value that is not known selects none. -/
def selectedItem (display : UiControlDisplayData) : JsValue → Option UiControlDisplayMapItemData
  | .number value => display.map.find? fun item => contains item value
  | _ => none

/-- The resource of an item, or the default where there is none. -/
def resourceOf (display : UiControlDisplayData) (item : Option UiControlDisplayMapItemData) :
    Option String :=
  item.elim display.defaultResource (·.resource)

/-- The value is on the side of zero that an open bound is read to leave. -/
def Read (item : UiControlDisplayMapItemData) (value : ℚ) : Prop :=
  (item.min = none → 0 ≤ value) ∧ (item.max = none → value ≤ 0)

/-- The map is read as it is meant: a number by the first item that contains it, and `null` by
none. -/
def ReadAsMeant (display : UiControlDisplayData) : JsValue → Prop
  | .number value => ∀ item, selectedItem display (.number value) = some item → Read item value
  | .null => display.map = []
  | _ => True

/-- The items have resources of their own, other than the default. -/
def DistinctResources (display : UiControlDisplayData) : Prop :=
  (display.defaultResource :: display.map.map (·.resource)).Nodup

section Items

variable {display : UiControlDisplayData} {item : UiControlDisplayMapItemData} {value : ℚ}

/-- Read with zero in the place of `null`, an interval is smaller. -/
theorem zeroContains_iff :
    (decide (item.min.getD 0 ≤ value) && decide (value ≤ item.max.getD 0)) = true ↔
    contains item value = true ∧ Read item value := by
  unfold contains Read
  cases item.min <;> cases item.max <;> simp [and_comm]

theorem find?_of_first {α : Type} {p q : α → Bool} {l : List α}
    (hsub : ∀ a, q a = true → p a = true)
    (hfirst : ∀ a, l.find? p = some a → q a = true) : l.find? q = l.find? p := by
  induction l with
  | nil => rfl
  | cons a l ih =>
    cases hp : p a with
    | true =>
      have hq : q a = true := hfirst a (by rw [List.find?_cons, hp])
      rw [List.find?_cons, List.find?_cons, hp, hq]
    | false =>
      have hq : q a = false := by
        by_contra hq
        rw [hsub a (by simpa using hq)] at hp
        cases hp
      rw [List.find?_cons, List.find?_cons, hp, hq]
      exact ih fun b hb => hfirst b (by rw [List.find?_cons, hp]; exact hb)

/-- Numbers are read as they are meant when the first item that contains one is not cut at zero. -/
theorem findDisplayItem_number (h : ReadAsMeant display (.number value)) :
    findDisplayItem display.map (.number value) = selectedItem display (.number value) := by
  refine find?_of_first (fun item hitem => (zeroContains_iff.mp hitem).1) fun item hitem => ?_
  have hcontains := List.find?_some hitem
  exact zeroContains_iff.mpr ⟨hcontains, h item hitem⟩

/-- Otherwise the item is passed over, which shows when its resource is its own. -/
theorem read_of_resource (hdistinct : DistinctResources display)
    (h : resourceOf display (findDisplayItem display.map (.number value)) =
      resourceOf display (selectedItem display (.number value))) :
        ReadAsMeant display (.number value) := by
  intro item hitem
  rw [DistinctResources, List.nodup_cons] at hdistinct
  have hmem : item ∈ display.map := List.mem_of_find?_eq_some hitem
  rw [hitem] at h
  cases hfound : findDisplayItem display.map (.number value) with
  | none =>
    rw [hfound] at h
    exact absurd (List.mem_map.mpr ⟨item, hmem, h.symm⟩) hdistinct.1
  | some item' =>
    rw [hfound] at h
    obtain rfl : item' = item :=
      List.inj_on_of_nodup_map hdistinct.2 (List.mem_of_find?_eq_some hfound) hmem h
    have hcontains := List.find?_some hfound
    exact (zeroContains_iff.mp hcontains).2

/-- `null` is the value of every item of a map of intervals. -/
theorem findDisplayItem_null {map : List UiControlDisplayMapItemData}
    (h : ∀ item ∈ map, item.value = .null) :
    findDisplayItem map .null = map.head? := by
  cases map with
  | nil => rfl
  | cons item map =>
    have hitem := h item List.mem_cons_self
    simp [findDisplayItem, hitem, JsValue.objectIs]

end Items

/-- The display of a control without text reads its own state. -/
theorem displayResource_eq {control : Control} {display : UiControlDisplayData}
    (hdisplay : control.display = some display)
    (htext : control.text = none) (state : RepositoryState) :
    displayResource control state =
      let value := getComponentState state display.componentId display.componentState
      if value = .undefined then display.defaultResource
      else resourceOf display (findDisplayItem display.map value) := by
  have hvalue : findComponentState (getRequiredComponentStates state (controlStates control))
    display.componentId
      display.componentState =
        getComponentState state display.componentId display.componentState := by
    simp [findComponentState, getRequiredComponentStates, controlStates, hdisplay, htext]
  simp only [displayResource, createResourceDisplayResolver, hdisplay, hvalue]
  split
  · rfl
  · split
    · next h => rw [h]; rfl
    · next item h => rw [h]; rfl

/-! ## From the studio to the client -/

/-- The items of a display without their resources. -/
def intervals (display : UiControlDisplayData) : List (Option ℚ × Option ℚ × JsValue) :=
  display.map.map fun item => (item.min, item.max, item.value)

theorem intervals_buildDisplay {bindings : Bindings} {display deployed : UiControlDisplayData}
    (h : buildDisplay bindings display = .ok deployed) : intervals deployed =
      intervals display := by
  unfold buildDisplay at h
  split at h
  · obtain rfl := Except.ok.inj h
    rfl
  · obtain ⟨binding, -, rfl⟩ := except_map_ok.mp h
    rfl

theorem intervals_translateDisplay {t : OMap String String} {deployed served : UiControlDisplayData}
    (h : translateDisplay t deployed = .ok served) : intervals served = intervals deployed := by
  obtain ⟨map, hmap, h⟩ := except_bind_ok.mp h
  obtain ⟨defaultResource, -, h⟩ := except_bind_ok.mp h
  obtain rfl := Except.ok.inj h
  rw [intervals, intervals, ← List.forall₂_eq_eq_eq]
  refine List.forall₂_map_left_iff.mpr
    (List.forall₂_map_right_iff.mpr ((mapM_ok hmap).flip.imp fun item' item hitem => ?_))
  obtain ⟨resource, -, hitem⟩ := except_bind_ok.mp hitem
  obtain rfl := Except.ok.inj hitem
  rfl

/-- The control that is served for a control of the studio shows its display and no text. -/
theorem served_display {id : String} {control : UiControlData} {xBase yBase : ℚ}
    {bindings : Bindings} {t : OMap String String} {deployed served : Control}
    {display : UiControlDisplayData} (hdisplay : control.display = some display)
    (htext : control.text = none)
    (hbuild : buildControl id control xBase yBase bindings = .ok deployed)
    (htranslate : translateControl t deployed = .ok served) :
    served.text = none ∧ ∃ d, served.display = some d ∧ intervals d = intervals display := by
  obtain ⟨built, hbuilt, hbuild⟩ := except_bind_ok.mp hbuild
  obtain ⟨text, hnone, hbuild⟩ := except_bind_ok.mp hbuild
  obtain ⟨_, -, hbuild⟩ := except_bind_ok.mp hbuild
  obtain ⟨_, -, hbuild⟩ := except_bind_ok.mp hbuild
  obtain rfl := Except.ok.inj hbuild
  rw [hdisplay] at hbuilt
  rw [htext] at hnone
  obtain ⟨d, hd, rfl⟩ := except_map_ok.mp hbuilt
  obtain rfl := Except.ok.inj hnone
  obtain ⟨translated, htranslated, htranslate⟩ := except_bind_ok.mp htranslate
  obtain rfl := Except.ok.inj htranslate
  rw [Option.mapM_some] at htranslated
  obtain ⟨d', hd', rfl⟩ := except_map_ok.mp htranslated
  exact ⟨rfl, d', rfl, (intervals_translateDisplay hd').trans (intervals_buildDisplay hd)⟩

/-- The types that a map of intervals is for. -/
def IsNumeric : MetaType → Prop
  | .float => True
  | .range _ _ => True
  | _ => False

/-- The items of a display on a number state have no value, only bounds. -/
theorem value_of_valid {project : UiProject} {v : ViewRef} {owner : Option UiTemplateData}
    {id valueType : String} {display : UiControlDisplayData} {type : MetaType}
    (hvalid : ControlModel.validateDisplay project v owner id display = .ok [])
    (hstate : ValidationContext.checkComponent project owner display.componentId
      display.componentState
      (ControlModel.path v id) .state none display.map.isEmpty = .ok ([], some valueType))
    (htype : parseType valueType = .ok type) (hnumeric : IsNumeric type) : ∀ item ∈ display.map,
      item.value = .null := by
  obtain ⟨-, found, hfound, hfits⟩ := ControlModel.validateDisplay_eq_nil.mp hvalid
  obtain rfl : some valueType = found := (Prod.mk.inj (Except.ok.inj (hstate.symm.trans hfound))).2
  have hne : valueType ≠ "" := by
    rintro rfl
    cases htype
  obtain ⟨type', htype', -, hitems⟩ := hfits (Studio.Ui.truthy_iff.mpr ⟨valueType, rfl, hne⟩)
  obtain rfl := Except.ok.inj (htype.symm.trans htype')
  intro item hitem
  obtain ⟨i, hi, rfl⟩ := List.mem_iff_getElem.mp hitem
  have hvalue := hitems (display.map[i],
    i) (List.mem_zipIdx_iff_getElem?.mpr (List.getElem?_eq_getElem hi))
  by_contra hnull
  cases type with
  | float => simp [ControlModel.validateValue, Studio.Ui.ControlModel.validateFloatValue, hnull,
    Studio.Ui.ValidationContext.addError] at hvalue
  | range min max => simp [ControlModel.validateValue, Studio.Ui.ControlModel.validateRangeValue,
    hnull, Studio.Ui.ValidationContext.addError] at hvalue
  | text | bool | enum | complex => exact hnumeric

/-- The value of a number state, as far as it is known. -/
def IsNumberValue : JsValue → Prop
  | .number _ => True
  | .null => True
  | .undefined => True
  | _ => False

/-- A control whose display the studio has accepted on a number state shows the resource of
the first item whose interval contains the value, and the default where there is none, when
its map is read as it is meant; and only then if its resources are distinct. -/
theorem display_resource_as_meant {compiles : String → String → Bool} {project : UiProject}
    {v : ViewRef} {owner : Option UiTemplateData} {id valueType : String} {control : UiControlData}
    {display : UiControlDisplayData} {type : MetaType}
    (hvalid : ControlModel.validateContent compiles project v owner id control =
      .ok [])
    (hdisplay : control.display = some display)
    (hstate : ValidationContext.checkComponent project owner display.componentId
      display.componentState
      (ControlModel.path v id) .state none display.map.isEmpty = .ok ([], some valueType))
    (htype : parseType valueType = .ok type) (hnumeric : IsNumeric type)
    {controlId : String} {xBase yBase : ℚ} {bindings : Bindings} {t : OMap String String}
    {deployed served : Control}
    (hbuild : buildControl controlId control xBase yBase bindings = .ok deployed)
    (htranslate : translateControl t deployed = .ok served) (state : RepositoryState) :
    ∃ d, served.display = some d ∧ intervals d = intervals display ∧
      ∀ value, getComponentState state d.componentId d.componentState = value →
        IsNumberValue value →
        (ReadAsMeant d value → displayResource served state = resourceOf d (selectedItem d value)) ∧
        (DistinctResources d → displayResource served state = resourceOf d (selectedItem d value) →
          ReadAsMeant d value) := by
  obtain ⟨htext, hvalid⟩ : control.text = none ∧
    ControlModel.validateDisplay project v owner id display = .ok [] := by
    unfold ControlModel.validateContent at hvalid
    rw [hdisplay] at hvalid
    cases htext : control.text with
    | none =>
      rw [htext] at hvalid
      exact ⟨rfl, hvalid⟩
    | some text =>
      rw [htext] at hvalid
      cases hvalid
  obtain ⟨hnone, d, hd, hintervals⟩ := served_display hdisplay htext hbuild htranslate
  refine ⟨d, hd, hintervals, fun value hvalue hnumber => ?_⟩
  rw [displayResource_eq hd hnone, hvalue]
  cases value with
  | undefined => exact ⟨fun _ => rfl, fun _ _ => trivial⟩
  | number q =>
    simp only [reduceCtorEq, if_false]
    exact ⟨fun hread => by rw [findDisplayItem_number hread], read_of_resource⟩
  | null =>
    have hnull : ∀ item ∈ d.map, item.value = .null := by
      intro item hitem
      have hmem : (item.min, item.max, item.value) ∈ intervals d :=
        List.mem_map.mpr ⟨item, hitem, rfl⟩
      rw [hintervals] at hmem
      obtain ⟨item', hitem', heq⟩ := List.mem_map.mp hmem
      rw [← (Prod.mk.inj (Prod.mk.inj heq).2).2]
      exact value_of_valid hvalid hstate htype hnumeric item' hitem'
    simp only [reduceCtorEq, if_false, findDisplayItem_null hnull]
    constructor
    · intro hmap
      rw [show d.map = [] from hmap]
      rfl
    · intro hdistinct h
      cases hmap : d.map with
      | nil => exact hmap
      | cons item map =>
        rw [hmap] at h
        have hfresh : d.defaultResource ∉ d.map.map (·.resource) := (List.nodup_cons.mp hdistinct).1
        rw [hmap, List.map_cons, ← show item.resource = d.defaultResource from h] at hfresh
        exact absurd List.mem_cons_self hfresh
  | bool | string | object => exact hnumber.elim

/-! A thermometer that is shown as cold up to 18 degrees and as hot from there on. -/

def thermometerProject : UiProject where
  resources := .ofList [("cold", ⟨"image/png", ""⟩), ("hot", ⟨"image/png", ""⟩),
    ("unknown", ⟨"image/png", ""⟩)]
  styles := ∅
  windows := ∅
  templates := ∅
  defaultWindow := ∅
  components := .ofList [("thermo", ⟨"core:probes.thermo"⟩)]
  plugins := .ofList [("core:probes.thermo",
    { instanceName := "core", name := "thermo", module := "probes", version := "1.0.0",
      description := ""
      members := .ofList [("value",
        { description := "", memberType := .state, valueType := "float" })] })]

def thermometerDisplay : UiControlDisplayData where
  componentId := some "thermo"
  componentState := some "value"
  defaultResource := some "unknown"
  map := [{ min := none, max := some 18, value := .null, resource := some "cold" },
    { min := some 18, max := none, value := .null, resource := some "hot" }]

def thermometerControl : UiControlData :=
  { Studio.Ui.controlTemplate 0 0 with display := some thermometerDisplay }

def thermometerHashes : OMap String String :=
  .ofList [("cold", "#cold"), ("hot", "#hot"), ("unknown", "#unknown")]

/-- The state of the thermometer in the client. -/
def thermometerState (value : JsValue) : RepositoryState :=
  .ofList [("thermo", .ofList [("value", value)])]

/-- At 10 degrees the thermometer is shown as cold. -/
theorem display_resource_as_meant_ten : ∃ deployed served,
    buildControl "degrees" thermometerControl 0 0 ∅ = .ok deployed ∧
      translateControl thermometerHashes deployed = .ok served ∧
      displayResource served (thermometerState (.number 10)) = some "#cold" := by
  refine ⟨_, _, rfl, rfl, ?_⟩
  obtain ⟨d, hd, -, h⟩ :=
    @display_resource_as_meant (fun _ _ => true) thermometerProject (.window "home") none "degrees"
    "float" thermometerControl thermometerDisplay .float (by decide +kernel) rfl (by decide +kernel)
      (by decide +kernel)
    trivial "degrees" 0 0 ∅ thermometerHashes _ _ rfl rfl (thermometerState (.number 10))
  obtain rfl := Option.some.inj hd
  refine (h (.number 10) rfl trivial).1 ?_
  intro item hitem
  obtain rfl := Option.some.inj hitem
  exact ⟨fun _ => by decide +kernel, nofun⟩

/-- At 20 degrees the thermometer is not shown as hot, and it is shown as cold before its value is
known. -/
theorem open_bound_is_zero : ∃ deployed served,
    ControlModel.validateContent (fun _ _ => true) thermometerProject (.window "home") none
      "degrees" thermometerControl = .ok [] ∧
      buildControl "degrees" thermometerControl 0 0 ∅ = .ok deployed ∧
        translateControl thermometerHashes deployed = .ok served ∧
      displayResource served (thermometerState (.number 20)) = some "#unknown" ∧
      displayResource served (thermometerState .null) = some "#cold" :=
  ⟨_, _, by decide +kernel, rfl, rfl, by decide +kernel, by decide +kernel⟩

end MylifeHome.Ui
