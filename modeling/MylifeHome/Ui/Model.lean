import MylifeHome.Studio.Ui.Deploy

/-!
# The model of the UI

`ModelManager` of `mylife-home-ui`: the definition that the studio deploys is turned into
the model that the clients fetch, with the resources stored under the hash of their data.
The hash function, the decoding of the data, the style sheets and JSON are parameters.
-/
namespace MylifeHome.Ui

open MylifeHome.Lib
open MylifeHome.Studio.Core (Err)
open MylifeHome.Studio.Ui (UiControlDisplayData DefaultWindow truthy)
open MylifeHome.Studio.Ui.Deploy (Control Window Definition StyleDefinition)

abbrev Buffer := List UInt8

structure Resource where
  mime : String
  data : Buffer
  deriving DecidableEq

structure RequiredComponentState where
  componentId : Option String
  componentState : Option String
  deriving DecidableEq

structure Model where
  windows : List Window
  defaultWindow : DefaultWindow
  styleHash : String
  deriving DecidableEq

/-- What is not code of the repository: `md5`, the decoding of base 64, the style sheets of
`jss` and JSON. -/
structure Platform where
  computeHash : Buffer → String
  fromBase64 : String → Buffer
  createCss : List StyleDefinition → Except Err Buffer
  stringify : Model → Buffer

structure ModelManager where
  modelHash : String
  resources : OMap String Resource
  requiredComponentStates : List RequiredComponentState

def ModelManager.getResource (m : ModelManager) (hash : String) : Except Err Resource :=
  match m.resources.get hash with
  | none => .error (.error ("Resoure with hash '" ++ hash ++ "' does not exist"))
  | some resource => .ok resource

/-! ## Translation of the resources -/

section Translation

variable (resourceTranslation : OMap String String)

/-- A reference that is not set is left as it is. -/
def translateResource (id : Option String) : Except Err (Option String) :=
  if !truthy id then .ok id
  else
    let hash := resourceTranslation.get (id.getD "")
    if !truthy hash then .error (.error ("Resource not found: '" ++ id.getD "")) else .ok hash

def translateDisplay (display : UiControlDisplayData) : Except Err UiControlDisplayData := do
  let map ← display.map.mapM fun item => do
    return { item with resource := ← translateResource resourceTranslation item.resource }
  return { display with
    map, defaultResource := ← translateResource resourceTranslation display.defaultResource }

def userStyle (style : List String) : List String := style.map ("user-" ++ ·)

def translateControl (control : Control) : Except Err Control := do
  let display ← control.display.mapM (translateDisplay resourceTranslation)
  return { control with display, style := userStyle control.style }

def translateControls (controls : List Control) : Except Err (List Control) :=
  controls.mapM (translateControl resourceTranslation)

def translateWindow (window : Window) : Except Err Window := do
  let backgroundResource ← translateResource resourceTranslation window.backgroundResource
  let controls ← translateControls resourceTranslation window.controls
  return { window with backgroundResource, controls, style := userStyle window.style }

def translateWindows (windows : List Window) : Except Err (List Window) :=
  windows.mapM (translateWindow resourceTranslation)

end Translation

def requiredStates (control : Control) : List RequiredComponentState :=
  (match control.display with
    | none => []
    | some display =>
      if truthy display.componentId && truthy display.componentState then
        [⟨display.componentId, display.componentState⟩]
      else []) ++
  match control.text with
  | none => []
  | some text => text.context.map fun item => ⟨item.componentId, item.componentState⟩

def extractRequiredComponentStates (model : Model) : List RequiredComponentState :=
  model.windows.flatMap fun window => window.controls.flatMap requiredStates

namespace ModelManager

variable (p : Platform)

def setResource (mime : String) (data : Buffer) : EStateM Err ModelManager String := do
  let hash := p.computeHash data
  modify fun m => { m with resources := m.resources.set hash { mime, data } }
  return hash

/-- The listeners of `update` are told in between; `stored` is how the write of the store ends. -/
def setDefinition (definition : Definition) (stored : Except Err PUnit) :
    EStateM Err ModelManager PUnit := do
  modify fun m => { m with resources := ∅ }
  let resourceTranslation ← foldEach definition.resources
    (fun (resourceTranslation : OMap String String) resource => do
      let hash ← setResource p resource.mime (p.fromBase64 resource.data)
      return resourceTranslation.set resource.id hash) ∅
  let css ← orThrow (p.createCss definition.styles)
  let styleHash ← setResource p "text/css" css
  let windows ← orThrow (translateWindows resourceTranslation definition.windows)
  let model : Model := { windows, defaultWindow := definition.defaultWindow, styleHash }
  let modelHash ← setResource p "application/json" (p.stringify model)
  modify fun m => { m with
    modelHash, requiredComponentStates := extractRequiredComponentStates model }
  orThrow stored

end ModelManager

/-! ## What a definition leaves behind -/

section Outcome

variable (p : Platform) (definition : Definition)

/-- The resources of the definition. -/
def ownResources : OMap String Resource :=
  definition.resources.foldl
    (fun resources resource => resources.set (p.computeHash (p.fromBase64 resource.data))
    { mime := resource.mime, data := p.fromBase64 resource.data }) ∅

def translation : OMap String String :=
  definition.resources.foldl (fun translation resource =>
    translation.set resource.id (p.computeHash (p.fromBase64 resource.data))) ∅

def withCss (css : Buffer) : OMap String Resource :=
  (ownResources p definition).set (p.computeHash css) { mime := "text/css", data := css }

def modelOf (css : Buffer) (windows : List Window) : Model :=
  { windows, defaultWindow := definition.defaultWindow, styleHash := p.computeHash css }

/-- The manager after a definition that was translated. -/
def replaced (css : Buffer) (windows : List Window) : ModelManager :=
  let model := modelOf p definition css windows
  { modelHash := p.computeHash (p.stringify model)
    resources := (withCss p definition css).set (p.computeHash (p.stringify model))
      { mime := "application/json", data := p.stringify model }
    requiredComponentStates := extractRequiredComponentStates model }

theorem run_resources (l : List Studio.Ui.Deploy.Resource)
    (resourceTranslation : OMap String String) (m : ModelManager) :
    (foldEach l (fun (resourceTranslation : OMap String String) resource => do
      let hash ← ModelManager.setResource p resource.mime (p.fromBase64 resource.data)
      return resourceTranslation.set resource.id hash) resourceTranslation).run m =
    .ok (l.foldl (fun translation resource =>
      translation.set resource.id (p.computeHash (p.fromBase64 resource.data)))
        resourceTranslation)
      { m with resources := l.foldl (fun resources resource =>
        resources.set (p.computeHash (p.fromBase64 resource.data))
        { mime := resource.mime, data := p.fromBase64 resource.data }) m.resources } := by
  induction l generalizing resourceTranslation m with
  | nil => rfl
  | cons resource l ih => exact ih _ _

/-- How `setDefinition` ends, and what the manager is then. -/
theorem run_setDefinition (stored : Except Err PUnit) (m : ModelManager) :
    (ModelManager.setDefinition p definition stored).run m =
      match p.createCss definition.styles with
      | .error err => .error err { m with resources := ownResources p definition }
      | .ok css =>
        match translateWindows (translation p definition) definition.windows with
        | .error err => .error err { m with resources := withCss p definition css }
        | .ok windows =>
          match stored with
          | .error err => .error err (replaced p definition css windows)
          | .ok _ => .ok ⟨⟩ (replaced p definition css windows) := by
  have hresources := run_resources p definition.resources ∅ { m with resources := ∅ }
  change _ = EStateM.Result.ok (translation p definition) { m with
    resources := ownResources p definition } at hresources
  unfold ModelManager.setDefinition
  simp only [EStateM.run_bind, EStateM.run_modify, hresources]
  cases p.createCss definition.styles with
  | error err => rfl
  | ok css =>
    simp only [orThrow, ModelManager.setResource, EStateM.run_bind, EStateM.run_modify,
      EStateM.run_pure]
    cases translateWindows (translation p definition) definition.windows with
    | error err => rfl
    | ok windows => cases stored <;> rfl

end Outcome

/-! ## References to resources -/

def displayReferences (display : UiControlDisplayData) : List (Option String) :=
  display.map.map (·.resource) ++ [display.defaultResource]

def controlReferences (control : Control) : List (Option String) :=
  match control.display with
  | none => []
  | some display => displayReferences display

/-- The references of a window, in the order in which they are translated. -/
def windowReferences (window : Window) : List (Option String) :=
  window.backgroundResource :: window.controls.flatMap controlReferences

def references (windows : List Window) : List (Option String) := windows.flatMap windowReferences

section References

variable {t : OMap String String}

theorem translateDisplay_references {display display' : UiControlDisplayData}
    (h : translateDisplay t display = .ok display') :
    List.Forall₂ (fun used put => translateResource t used = .ok put) (displayReferences display)
      (displayReferences display') := by
  obtain ⟨map, hmap, h⟩ := except_bind_ok.mp h
  obtain ⟨defaultResource, hdefault, h⟩ := except_bind_ok.mp h
  obtain rfl := Except.ok.inj h
  refine List.rel_append ?_ (.cons hdefault .nil)
  refine List.forall₂_map_left_iff.mpr (List.forall₂_map_right_iff.mpr
    ((mapM_ok hmap).imp fun item item' hitem => ?_))
  obtain ⟨resource, hresource, hitem⟩ := except_bind_ok.mp hitem
  obtain rfl := Except.ok.inj hitem
  exact hresource

theorem translateControl_references {control control' : Control}
    (h : translateControl t control = .ok control') :
    List.Forall₂ (fun used put => translateResource t used = .ok put) (controlReferences control)
      (controlReferences control') := by
  obtain ⟨display, hdisplay, h⟩ := except_bind_ok.mp h
  obtain rfl := Except.ok.inj h
  unfold controlReferences
  cases hcontrol : control.display with
  | none =>
    rw [hcontrol] at hdisplay
    obtain rfl := Except.ok.inj hdisplay
    exact .nil
  | some d =>
    rw [hcontrol, Option.mapM_some] at hdisplay
    obtain ⟨d', hd, rfl⟩ := except_map_ok.mp hdisplay
    exact translateDisplay_references hd

theorem translateWindow_references {window window' : Window}
    (h : translateWindow t window = .ok window') :
    List.Forall₂ (fun used put => translateResource t used = .ok put) (windowReferences window)
      (windowReferences window') := by
  obtain ⟨background, hbackground, h⟩ := except_bind_ok.mp h
  obtain ⟨controls, hcontrols, h⟩ := except_bind_ok.mp h
  obtain rfl := Except.ok.inj h
  exact .cons hbackground (List.rel_flatMap (mapM_ok hcontrols) fun _ _ hcontrol =>
    translateControl_references hcontrol)

theorem translateWindows_references {windows windows' : List Window}
    (h : translateWindows t windows = .ok windows') :
    List.Forall₂ (fun used put => translateResource t used = .ok put) (references windows)
      (references windows') :=
  List.rel_flatMap (mapM_ok h) fun _ _ hwindow => translateWindow_references hwindow

end References

/-! ## All or nothing -/

section AllOrNothing

variable (p : Platform) (definition : Definition)

def Unchanged (m m' : ModelManager) : Prop :=
  m'.modelHash = m.modelHash ∧ m'.requiredComponentStates = m.requiredComponentStates ∧
    ∀ hash resource, m.getResource hash = .ok resource → m'.getResource hash = .ok resource

/-- The model has, for each resource of the definition that is used, a hash under which this
resource is fetched, and the hash of the model is that of its JSON. -/
def Faithful (m' : ModelManager) : Prop :=
  ∃ css windows, p.createCss definition.styles = .ok css ∧
    translateWindows (translation p definition) definition.windows = .ok windows ∧
    List.Forall₂ (fun used put => ∀ resource ∈ definition.resources,
      used = some resource.id → resource.id ≠ "" →
      ∃ hash, put = some hash ∧
        m'.getResource hash = .ok { mime := resource.mime, data := p.fromBase64 resource.data })
      (references definition.windows) (references windows) ∧
    m'.getResource m'.modelHash =
      .ok { mime := "application/json", data := p.stringify (modelOf p definition css windows) }

/-- The end of `setDefinition` is that of a replacement. -/
def Replaces (m : ModelManager) : EStateM.Result Err ModelManager PUnit → Prop
  | .error _ m' => Unchanged m m'
  | .ok _ m' => Faithful p definition m'

/-- The mime of the last of the written resources that has this data. -/
def servedMime (css json data : Buffer) : Option String :=
  if data = json then some "application/json"
  else if data = css then some "text/css"
  else (definition.resources.filter fun r => decide (p.fromBase64 r.data = data)).getLast?.map
    (·.mime)

/-- The resource is the last of its id, up to equal data, and the last of its data has its mime. -/
def Served (css json : Buffer) (resource : Studio.Ui.Deploy.Resource) : Prop :=
  (∀ last ∈ (definition.resources.filter fun r => decide (r.id = resource.id)).getLast?,
    p.fromBase64 last.data = p.fromBase64 resource.data) ∧
  servedMime p definition css json (p.fromBase64 resource.data) = some resource.mime

/-- All that is fetched from the manager is among the resources. -/
def HeldIn (m : ModelManager) (resources : OMap String Resource) : Prop :=
  ∀ hash resource, m.resources.get hash = some resource → resources.get hash = some resource

/-- When a definition that cannot be used finds all held resources among its own, one that
cannot be stored is in place already, and any other has its used resources served. -/
def Replaceable (stored : Except Err PUnit) (m : ModelManager) : Prop :=
  match p.createCss definition.styles with
  | .error _ => HeldIn m (ownResources p definition)
  | .ok css =>
    match translateWindows (translation p definition) definition.windows with
    | .error _ => HeldIn m (withCss p definition css)
    | .ok windows =>
      match stored with
      | .error _ =>
        m.modelHash = p.computeHash (p.stringify (modelOf p definition css windows)) ∧
          m.requiredComponentStates =
            extractRequiredComponentStates (modelOf p definition css windows) ∧
          HeldIn m (replaced p definition css windows).resources
      | .ok _ => ∀ resource ∈ definition.resources, some resource.id ∈
        references definition.windows →
          resource.id ≠ "" →
            Served p definition css (p.stringify (modelOf p definition css windows)) resource

/-- No two of the written data have one hash. -/
def NoCollision : Prop :=
  ∀ css windows, p.createCss definition.styles = .ok css →
    translateWindows (translation p definition) definition.windows = .ok windows →
    Set.InjOn p.computeHash ({css, p.stringify (modelOf p definition css windows)} ∪
      {data | ∃ r ∈ definition.resources, p.fromBase64 r.data = data})

variable {p definition}

theorem getResource_eq_ok {m : ModelManager} {hash : String} {resource : Resource} :
    m.getResource hash = .ok resource ↔ m.resources.get hash = some resource := by
  rw [ModelManager.getResource]
  split
  · next h => simp [h]
  · next r h => simp [h]

theorem unchanged_iff {m m' : ModelManager} : Unchanged m m' ↔
    m'.modelHash = m.modelHash ∧ m'.requiredComponentStates = m.requiredComponentStates ∧
      HeldIn m m'.resources := by
  simp only [Unchanged, HeldIn, getResource_eq_ok]

/-- Under the hash of the data of a resource, the last resource with this data. -/
theorem get_replaced {css : Buffer} {windows : List Window}
    (hcss : p.createCss definition.styles = .ok css)
    (hwindows : translateWindows (translation p definition) definition.windows = .ok windows)
    (hmd5 : NoCollision p definition) {r : Studio.Ui.Deploy.Resource}
    (hr : r ∈ definition.resources) :
    (replaced p definition css windows).resources.get (p.computeHash (p.fromBase64 r.data)) =
      (servedMime p definition css (p.stringify (modelOf p definition css windows))
        (p.fromBase64 r.data)).map
        fun mime => { mime, data := p.fromBase64 r.data } := by
  have hinj := hmd5 css windows hcss hwindows
  have hr' := Set.mem_union_right {css, p.stringify (modelOf p definition css windows)}
    (show p.fromBase64 r.data ∈ {data | ∃ r ∈ definition.resources,
      p.fromBase64 r.data = data} from ⟨r, hr, rfl⟩)
  have hjson := hinj.eq_iff hr' (.inl (.inr rfl))
  have hstyle := hinj.eq_iff hr' (.inl (.inl rfl))
  have hsame : definition.resources.filter (fun x => decide (p.computeHash (p.fromBase64 x.data) =
      p.computeHash (p.fromBase64 r.data))) =
      definition.resources.filter fun x => decide (p.fromBase64 x.data = p.fromBase64 r.data) :=
    List.filter_congr fun x hx => decide_eq_decide.mpr (hinj.eq_iff (.inr ⟨x, hx, rfl⟩) hr')
  simp only [replaced, withCss, ownResources, OMap.get_set, hjson, hstyle, OMap.get_foldl_set_last,
    hsame, servedMime]
  split
  · next h => rw [h]; rfl
  · split
    · next h => rw [h]; rfl
    · rw [OMap.get_empty, Option.or_none, Option.map_map]
      refine Option.map_congr fun x hx => ?_
      have hdata := (List.mem_filter.mp (List.mem_of_getLast? hx)).2
      rw [decide_eq_true_eq] at hdata
      simp [hdata]

theorem translateResource_some {t : OMap String String} {id : String} (hid : id ≠ "")
    {put : Option String}
    (h : translateResource t (some id) = .ok put) : ∃ hash, t.get id = some hash ∧
      put = some hash := by
  have htruthy : truthy (some id) = true := Studio.Ui.truthy_iff.mpr ⟨id, rfl, hid⟩
  rw [translateResource, htruthy] at h
  simp only [Option.getD_some] at h
  split at h
  · next hfalse => cases hfalse
  · split at h
    · cases h
    · next hhash =>
      obtain rfl := Except.ok.inj h
      have hfound : truthy (t.get id) = true := by simpa using hhash
      obtain ⟨hash, hget, -⟩ := Studio.Ui.truthy_iff.mp hfound
      exact ⟨hash, hget, hget⟩

/-- The hash that a used resource is translated to serves it, as the condition says. -/
theorem served_iff {css : Buffer} {windows : List Window}
    (hcss : p.createCss definition.styles = .ok css)
    (hwindows : translateWindows (translation p definition) definition.windows = .ok windows)
    (hmd5 : NoCollision p definition) {r : Studio.Ui.Deploy.Resource} (hid : r.id ≠ "")
    {put : Option String}
    (hput : translateResource (translation p definition) (some r.id) = .ok put) :
    (∃ hash, put = some hash ∧
      (replaced p definition css windows).getResource hash =
        .ok { mime := r.mime, data := p.fromBase64 r.data }) ↔
    Served p definition css (p.stringify (modelOf p definition css windows)) r := by
  obtain ⟨hash, hget, rfl⟩ := translateResource_some hid hput
  rw [translation, OMap.get_foldl_set_last, OMap.get_empty, Option.or_none,
    Option.map_eq_some_iff] at hget
  obtain ⟨last, hlast, rfl⟩ := hget
  have hmem := (List.mem_filter.mp (List.mem_of_getLast? hlast)).1
  have hserved := get_replaced hcss hwindows hmd5 hmem
  constructor
  · rintro ⟨hash, hhash, h⟩
    obtain rfl := Option.some.inj hhash
    rw [getResource_eq_ok, hserved, Option.map_eq_some_iff] at h
    obtain ⟨mime, hmime, h⟩ := h
    obtain ⟨rfl, hdata⟩ := Resource.mk.inj h
    refine ⟨fun last' hlast' => ?_, hdata ▸ hmime⟩
    obtain rfl := Option.some.inj (hlast.symm.trans hlast')
    exact hdata
  · rintro ⟨hdata, hmime⟩
    refine ⟨_, rfl, ?_⟩
    rw [getResource_eq_ok, hserved, hdata last hlast, hmime]
    rfl

theorem exists_of_forall₂ {α β : Type} {R S : α → β → Prop} {l : List α} {l' : List β}
    (hr : List.Forall₂ R l l') (hs : List.Forall₂ S l l') {a : α}
    (ha : a ∈ l) : ∃ b, R a b ∧ S a b := by
  induction hr with
  | nil => cases ha
  | cons hab _ ih =>
    cases hs with
    | cons hab' hs =>
      rcases List.mem_cons.mp ha with rfl | ha
      · exact ⟨_, hab, hab'⟩
      · exact ih hs ha

/-- A definition replaces the one before or leaves everything as it was under the condition,
and not otherwise. -/
theorem replaces_or_unchanged_iff (p : Platform) (definition : Definition)
    (stored : Except Err PUnit) (m : ModelManager) (hmd5 : NoCollision p definition) :
    Replaces p definition m ((ModelManager.setDefinition p definition stored).run m) ↔
      Replaceable p definition stored m := by
  rw [run_setDefinition, Replaceable]
  cases hcss : p.createCss definition.styles with
  | error err => simp only [Replaces, unchanged_iff, true_and]
  | ok css =>
    cases hwindows : translateWindows (translation p definition) definition.windows with
    | error err => simp only [Replaces, unchanged_iff, true_and]
    | ok windows =>
      have hreferences := translateWindows_references hwindows
      cases stored with
      | error err => exact unchanged_iff.trans (and_congr eq_comm (and_congr eq_comm Iff.rfl))
      | ok _ =>
        constructor
        · rintro ⟨css', windows', hcss', hwindows', hserved, -⟩ r hr hused hid
          obtain rfl := Except.ok.inj (hcss.symm.trans hcss')
          obtain rfl := Except.ok.inj (hwindows.symm.trans hwindows')
          obtain ⟨put, hput, htold⟩ := exists_of_forall₂ hreferences hserved hused
          exact (served_iff hcss hwindows hmd5 hid hput).mp (htold r hr rfl hid)
        · intro h
          refine ⟨css, windows, hcss, hwindows, ?_, ?_⟩
          · have hmem := (List.forall₂_and_left _ _).mpr ⟨fun used hused => hused, hreferences⟩
            refine hmem.imp fun used put hused r hr hsome hid => ?_
            obtain ⟨hused, hput⟩ := hused
            subst hsome
            exact (served_iff hcss hwindows hmd5 hid hput).mpr (h r hr hused hid)
          · rw [getResource_eq_ok]
            exact OMap.get_set_self _ _ _

end AllOrNothing

/-! A window with a background, and what the platform gives for it. -/

def pictureDefinition (backgroundResource : Option String)
    (resources : List Studio.Ui.Deploy.Resource) : Definition where
  resources := resources
  styles := []
  windows := [{ id := "home", style := [], height := 100, width := 100, backgroundResource,
                templates := ∅, controls := [] }]
  defaultWindow := ∅

def logo (mime : String) : Studio.Ui.Deploy.Resource := { id := "logo", mime, data := "aaaa" }

def icon (mime : String) : Studio.Ui.Deploy.Resource := { id := "icon", mime, data := "aaaa" }

/-- The JSON text of the model with the window. -/
def pictureJson (background : String) : Buffer :=
  ("\x7b\"windows\":[\x7b\"id\":\"home\",\"style\":[],\"height\":100,\"width\":100," ++
    "\"backgroundResource\":" ++ background ++
    ",\"templates\":\x7b\x7d,\"controls\":[]\x7d],\"defaultWindow\":\x7b\x7d," ++
    "\"styleHash\":\"1B2M2Y8AsgTpgAmY7PhCfg\"\x7d").toUTF8.data.toList

/-- What base64, md5, the styles and JSON give for the window, without and with its background. -/
def picturePlatform : Platform where
  computeHash data :=
    if data = [] then "1B2M2Y8AsgTpgAmY7PhCfg"
    else if data = [0x69, 0xa6, 0x9a] then "nUusnYBW92YdcjL-RuEiAg"
    else if data = pictureJson "null" then "dpR7QgUpSu0bgyIql7YE0A"
    else "6n5DGwHt2eJgGmsNxKgr3Q"
  fromBase64 _ := [0x69, 0xa6, 0x9a]
  createCss _ := .ok []
  stringify model := pictureJson (match model.windows.map (·.backgroundResource) with
    | [some hash] => "\"" ++ hash ++ "\""
    | _ => "null")

/-- A manager that serves a window without background. -/
def plainManager : ModelManager :=
  replaced picturePlatform (pictureDefinition none []) [] (pictureDefinition none []).windows

theorem exists_model (p : Platform) (definition : Definition) (css : Buffer)
    (windows : List Window) :
    ∃ resource, (replaced p definition css windows).getResource
      (replaced p definition css windows).modelHash =
      .ok resource :=
  ⟨_, getResource_eq_ok.mpr (OMap.get_set_self _ _ _)⟩

theorem picture_noCollision :
    NoCollision picturePlatform (pictureDefinition (some "logo") [logo "image/png"]) := by
  have hknown : ∀ a ∈ [[], [0x69, 0xa6, 0x9a], pictureJson "\"nUusnYBW92YdcjL-RuEiAg\""],
      ∀ b ∈ [[], [0x69, 0xa6, 0x9a], pictureJson "\"nUusnYBW92YdcjL-RuEiAg\""],
        picturePlatform.computeHash a = picturePlatform.computeHash b → a = b := by decide +kernel
  have hhere : ((translateWindows
    (translation picturePlatform (pictureDefinition (some "logo") [logo "image/png"]))
      (pictureDefinition (some "logo") [logo "image/png"]).windows).map fun windows =>
        picturePlatform.stringify (modelOf picturePlatform
          (pictureDefinition (some "logo") [logo "image/png"]) [] windows)) =
      .ok (pictureJson "\"nUusnYBW92YdcjL-RuEiAg\"") := by decide +kernel
  intro css windows hcss hwindows
  obtain rfl : [] = css := Except.ok.inj hcss
  rw [hwindows] at hhere
  have hjson := Except.ok.inj hhere
  have hinj : Set.InjOn picturePlatform.computeHash
      {data | data ∈ [[], [0x69, 0xa6, 0x9a], pictureJson "\"nUusnYBW92YdcjL-RuEiAg\""]} :=
    fun a ha b hb => hknown a ha b hb
  refine hinj.mono ?_
  rintro data ((rfl | rfl) | ⟨r, -, rfl⟩)
  · exact List.mem_cons_self
  · exact List.mem_cons_of_mem _ (List.mem_cons_of_mem _ (List.mem_singleton.mpr hjson))
  · exact List.mem_cons_of_mem _ List.mem_cons_self

theorem replaces_or_unchanged_logo :
    Replaces picturePlatform (pictureDefinition (some "logo") [logo "image/png"]) plainManager
      ((ModelManager.setDefinition picturePlatform
        (pictureDefinition (some "logo") [logo "image/png"]) (.ok ⟨⟩)).run
        plainManager) := by
  refine (replaces_or_unchanged_iff _ _ _ _ picture_noCollision).mpr ?_
  show ∀ resource ∈ [logo "image/png"], _
  simp only [List.mem_singleton, forall_eq]
  intro _ _
  refine ⟨fun last hlast => ?_, by decide +kernel⟩
  obtain rfl : logo "image/png" = last := by simpa [pictureDefinition] using hlast
  rfl

/-- A definition that names a missing resource is refused, and the model is gone; of two
resources with the same data, the first gets the mime of the second. -/
theorem refused_definition_empties_manager :
    (∃ err m', (ModelManager.setDefinition picturePlatform (pictureDefinition (some "logo") [])
      (.ok ⟨⟩)).run plainManager =
        .error err m' ∧ m'.modelHash = plainManager.modelHash ∧
        (∃ resource, plainManager.getResource plainManager.modelHash = .ok resource) ∧
        ∃ err, m'.getResource m'.modelHash = .error err) ∧
    ∃ m', (ModelManager.setDefinition picturePlatform
        (pictureDefinition (some "logo") [logo "image/png", icon "image/gif"]) (.ok ⟨⟩)).run
          plainManager = .ok ⟨⟩ m' ∧
      m'.getResource "nUusnYBW92YdcjL-RuEiAg" =
        .ok { mime := "image/gif", data := [0x69, 0xa6, 0x9a] } := by
  have hgone : (withCss picturePlatform (pictureDefinition (some "logo") []) []).get
      plainManager.modelHash = none := by
    decide +kernel
  refine ⟨⟨_, { plainManager with
    resources := withCss picturePlatform (pictureDefinition (some "logo") []) [] },
    (run_setDefinition _ _ _ _).trans rfl, by dsimp only,
    exists_model _ _ _ _, ?_⟩, _, (run_setDefinition _ _ _ _).trans rfl, by decide +kernel⟩
  simp only [ModelManager.getResource, hgone]
  exact ⟨_, rfl⟩

end MylifeHome.Ui
