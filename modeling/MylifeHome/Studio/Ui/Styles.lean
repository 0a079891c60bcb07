import MylifeHome.Studio.Ui.Edits

/-!
# Clearing and renaming a style

A window has a list of styles, and so has each control of a window or of a template. The
handlers of the project change the first occurrence of a style in the lists of the windows
and of their controls. What they are meant to do is a change of every list of the project.
-/
namespace MylifeHome.Studio.Ui

open MylifeHome.Lib MylifeHome.Lib.Program

/-! ## The lists of styles of a project -/

def UiViewData.mapStyles (f : List String → List String) (view : UiViewData) : UiViewData :=
  { view with controls := view.controls.mapVal fun control => { control with
    style := f control.style } }

def UiWindowData.mapStyles (f : List String → List String) (window : UiWindowData) : UiWindowData :=
  { window with style := f window.style, toUiViewData := window.toUiViewData.mapStyles f }

def UiTemplateData.mapStyles (f : List String → List String) (template : UiTemplateData) :
    UiTemplateData :=
  { template with toUiViewData := template.toUiViewData.mapStyles f }

/-- Change all the lists of a project. -/
def UiProject.mapStyles (f : List String → List String) (project : UiProject) : UiProject :=
  { project with
    windows := project.windows.mapVal (UiWindowData.mapStyles f)
    templates := project.templates.mapVal (UiTemplateData.mapStyles f) }

def UiViewData.styleLists (view : UiViewData) : List (List String) :=
  view.controls.values.map UiControlData.style

def UiWindowData.styleLists (window : UiWindowData) : List (List String) :=
  window.style :: window.toUiViewData.styleLists

theorem UiViewData.mapStyles_eq {f g : List String → List String} {view : UiViewData} :
    view.mapStyles f = view.mapStyles g ↔ ∀ l ∈ view.styleLists, f l = g l := by
  have hcontrols : view.mapStyles f = view.mapStyles g ↔ ∀ id control, view.controls.get id =
    some control →
      f control.style = g control.style := by
    rw [mapStyles, mapStyles, UiViewData.mk.injEq]
    simp only [true_and, and_true, OMap.mapVal_eq_mapVal]
    refine forall_congr' fun id => forall_congr' fun control => imp_congr_right fun _ => ?_
    exact ⟨fun h => congrArg UiControlData.style h, fun h => by rw [h]⟩
  rw [hcontrols]
  constructor
  · intro h l hl
    obtain ⟨control, hcontrol, rfl⟩ := List.mem_map.mp hl
    obtain ⟨id, hget⟩ := OMap.mem_values.mp hcontrol
    exact h id control hget
  · exact fun h id control hget =>
      h _ (List.mem_map.mpr ⟨control, OMap.mem_values.mpr ⟨id, hget⟩, rfl⟩)

theorem UiWindowData.mapStyles_eq {f g : List String → List String} {window : UiWindowData} :
    window.mapStyles f = window.mapStyles g ↔ ∀ l ∈ window.styleLists, f l = g l := by
  rw [mapStyles, mapStyles, UiWindowData.mk.injEq, UiViewData.mapStyles_eq, styleLists,
    List.forall_mem_cons]
  simp only [and_true]
  exact and_comm

theorem UiTemplateData.mapStyles_eq {f g : List String → List String} {template : UiTemplateData} :
    template.mapStyles f = template.mapStyles g ↔ ∀ l ∈ template.styleLists, f l = g l := by
  rw [mapStyles, mapStyles, UiTemplateData.mk.injEq, UiViewData.mapStyles_eq]
  simp only [and_true]

theorem UiViewData.mapStyles_id (view : UiViewData) : view.mapStyles (fun l => l) = view := by
  rw [mapStyles]
  exact congrArg (fun controls => { view with controls := controls }) (OMap.mapVal_id view.controls)

theorem UiWindowData.mapStyles_id (window : UiWindowData) :
    window.mapStyles (fun l => l) = window := by
  rw [mapStyles, UiViewData.mapStyles_id]

theorem UiTemplateData.mapStyles_id (template : UiTemplateData) : template.mapStyles (fun l => l) =
    template := by
  rw [mapStyles, UiViewData.mapStyles_id]

/-! ## A change of one list -/

/-- A style is at most once in each list that the handlers look at, and in no list that they do not
look at. -/
def StyleOnce (project : UiProject) (s : String) : Prop :=
  (∀ id window, project.windows.get id = some window → ∀ l ∈ window.styleLists, l.count s ≤ 1) ∧
    ∀ id template, project.templates.get id = some template → ∀ l ∈ template.styleLists, s ∉ l

/-- The list without the style. -/
def withoutStyle (s : String) (l : List String) : List String := l.filter fun x => x ≠ s

/-- The sorted list with another style at each place of the style; a list without the style is not
sorted. -/
def withStyleRenamed (s n : String) (l : List String) : List String :=
  if s ∈ l then Common.Metadata.sort (l.map fun x => if x = s then n else x) else l

theorem withoutStyle_eq_self {s : String} {l : List String} (h : s ∉ l) : withoutStyle s l = l := by
  rw [withoutStyle, List.filter_eq_self]
  intro x hx
  have hne : x ≠ s := fun he => h (he ▸ hx)
  simpa using hne

theorem not_mem_withoutStyle (s : String) (l : List String) : s ∉ withoutStyle s l := by
  simp [withoutStyle]

theorem erase_eq_withoutStyle {s : String} {l : List String} (h : l.count s ≤ 1) :
    l.erase s = withoutStyle s l := by
  induction l with
  | nil => rfl
  | cons a l ih =>
    by_cases ha : a = s
    · subst ha
      rw [List.count_cons_self] at h
      have hnot : a ∉ l := List.count_eq_zero.mp (by omega)
      rw [List.erase_cons_head, withoutStyle, List.filter_cons_of_neg (by simp)]
      exact (withoutStyle_eq_self hnot).symm
    · rw [List.count_cons_of_ne ha] at h
      rw [List.erase_cons_tail (by simpa using ha), withoutStyle,
        List.filter_cons_of_pos (by simpa using ha)]
      exact congrArg (a :: ·) (ih h)

theorem styleClear_eq {s : String} {l : List String} : (styleClear s l).1 = withoutStyle s l ↔
    l.count s ≤ 1 := by
  by_cases hs : s ∈ l
  · rw [styleClear, if_pos hs]
    refine ⟨fun h => ?_, erase_eq_withoutStyle⟩
    have hcount := List.count_erase_self (a := s) (l := l)
    rw [show l.erase s = withoutStyle s l from h,
      List.count_eq_zero.mpr (not_mem_withoutStyle s l)] at hcount
    omega
  · rw [styleClear, if_neg hs, withoutStyle_eq_self hs, List.count_eq_zero.mpr hs]
    simp

/-- Where the style is not looked for, it must not be. -/
theorem self_eq_withoutStyle {s : String} {l : List String} : l = withoutStyle s l ↔ s ∉ l := by
  refine ⟨fun h => ?_, fun h => (withoutStyle_eq_self h).symm⟩
  rw [h]
  exact not_mem_withoutStyle s l

theorem replace_eq_map {s n : String} {l : List String} (h : l.count s ≤ 1) :
    l.replace s n = l.map fun x => if x = s then n else x := by
  induction l with
  | nil => rfl
  | cons a l ih =>
    by_cases ha : a = s
    · subst ha
      rw [List.count_cons_self] at h
      have hnot : a ∉ l := List.count_eq_zero.mp (by omega)
      have hself : (l.map fun x => if x = a then n else x) = l.map id :=
        List.map_congr_left fun x hx => if_neg fun he : x = a => hnot (he ▸ hx)
      rw [List.replace_cons_self, List.map_cons, if_pos rfl, hself, List.map_id]
    · rw [List.count_cons_of_ne ha] at h
      have ha' : (s == a) = false := by simpa using Ne.symm ha
      rw [List.replace_cons, ha', List.map_cons, if_neg ha, ih h]

/-- Only the first place of a style is given to the other one. -/
theorem mem_replace {s n : String} {l : List String} (h : 1 < l.count s) : s ∈ l.replace s n := by
  induction l with
  | nil => simp at h
  | cons a l ih =>
    by_cases ha : a = s
    · subst ha
      rw [List.count_cons_self] at h
      rw [List.replace_cons_self]
      exact List.mem_cons_of_mem _ (List.count_pos_iff.mp (by omega))
    · rw [List.count_cons_of_ne ha] at h
      have ha' : (s == a) = false := by simpa using Ne.symm ha
      rw [List.replace_cons, ha']
      exact List.mem_cons_of_mem _ (ih h)

theorem mem_sort {s : String} {l : List String} : s ∈ Common.Metadata.sort l ↔ s ∈ l :=
  (List.perm_insertionSort _ l).mem_iff

theorem not_mem_withStyleRenamed {s n : String} (hn : n ≠ s) (l : List String) :
    s ∉ withStyleRenamed s n l := by
  unfold withStyleRenamed
  split
  · rw [mem_sort, List.mem_map]
    rintro ⟨x, -, hx⟩
    split at hx
    · exact hn hx
    · next hne => exact hne hx
  · assumption

theorem styleRename_eq {s n : String} (hn : n ≠ s) {l : List String} :
    (styleRename s n l).1 = withStyleRenamed s n l ↔ l.count s ≤ 1 := by
  by_cases hs : s ∈ l
  · constructor
    · intro h
      by_contra hcount
      refine not_mem_withStyleRenamed hn l ?_
      rw [← h, styleRename, if_pos hs]
      exact mem_sort.mpr (mem_replace (by omega))
    · intro h
      rw [styleRename, withStyleRenamed, if_pos hs, if_pos hs, replace_eq_map h]
  · rw [styleRename, withStyleRenamed, if_neg hs, if_neg hs, List.count_eq_zero.mpr hs]
    simp

theorem self_eq_withStyleRenamed {s n : String} (hn : n ≠ s) {l : List String} :
    l = withStyleRenamed s n l ↔ s ∉ l := by
  refine ⟨fun h => ?_, fun h => by rw [withStyleRenamed, if_neg h]⟩
  rw [h]
  exact not_mem_withStyleRenamed hn l

/-! ## The project -/

/-- All the lists of a project are edited, and nothing else but the styles; the changed views are
reported. -/
structure EditsStyles (edit : List String → List String) (styles : OMap String UiStyleData)
    (before : UiProject) (impacts : Impacts) (after : UiProject) : Prop where
  project : after = { before.mapStyles edit with styles := styles }
  windows : ∀ id, after.windows.get id ≠ before.windows.get id → id ∈ impacts.windows
  templates : ∀ id, after.templates.get id ≠ before.templates.get id → id ∈ impacts.templates

/-- A handler of the windows is an edit of their lists, that tells whether it has found the style in
one of them. -/
structure OnStyles (handler : List String → List String × Bool)
    (onWindow : UiWindowData → UiWindowData × Bool) : Prop where
  window : ∀ window, (onWindow window).1 = window.mapStyles fun l => (handler l).1
  found : ∀ window, (onWindow window).2 = window.styleLists.any fun l => (handler l).2
  kept : ∀ l, (handler l).2 = false → (handler l).1 = l

theorem onClearStyle_onStyles (s : String) :
    OnStyles (styleClear s) fun window => WindowModel.onClearStyle window s where
  window _ := rfl
  found window := by
    rw [UiWindowData.styleLists, List.any_cons, UiViewData.styleLists, List.any_map]
    rfl
  kept l h := by
    unfold styleClear at h ⊢
    split at h
    · cases h
    · next hs => rw [if_neg hs]

theorem onRenameStyle_onStyles (s n : String) :
    OnStyles (styleRename s n) fun window => WindowModel.onRenameStyle window s n where
  window _ := rfl
  found window := by
    rw [UiWindowData.styleLists, List.any_cons, UiViewData.styleLists, List.any_map]
    rfl
  kept l h := by
    unfold styleRename at h ⊢
    split at h
    · cases h
    · next hs => rw [if_neg hs]

section Handlers

variable {handler : List String → List String × Bool}
    {onWindow : UiWindowData → UiWindowData × Bool}

/-- A window where the style is not found does not change. -/
theorem OnStyles.impacted (h : OnStyles handler onWindow) {windows : OMap String UiWindowData}
    {id : String}
    (hid : (windows.mapVal fun window => (onWindow window).1).get id ≠ windows.get id) :
    id ∈ ProjectModel.impacted onWindow windows := by
  rw [OMap.get_mapVal] at hid
  cases hw : windows.get id with
  | none => simp [hw] at hid
  | some window =>
    refine List.mem_map.mpr ⟨(id, window), List.mem_filter.mpr ⟨OMap.mem_entries.mpr hw, ?_⟩, rfl⟩
    by_contra hfound
    rw [hw, Option.map_some, ne_eq, Option.some.injEq, h.window] at hid
    refine hid ((UiWindowData.mapStyles_eq.mpr fun l hl => ?_).trans window.mapStyles_id)
    rw [Bool.not_eq_true, h.found, List.any_eq_false] at hfound
    exact h.kept l (Bool.eq_false_iff.mpr (hfound l hl))

/-- What is left to show of the edit of a project is that of each list. -/
theorem OnStyles.edits_iff (h : OnStyles handler onWindow) (edit : List String → List String)
    (styles : OMap String UiStyleData) (project : UiProject) :
    EditsStyles edit styles project
        { windows := ProjectModel.impacted onWindow project.windows
          templates := ProjectModel.impacted (fun template => (template, false)) project.templates }
        ((ProjectModel.putStyles project styles).eachView onWindow fun template =>
          (template, false)) ↔
      (∀ id window, project.windows.get id = some window → ∀ l ∈ window.styleLists,
        (handler l).1 = edit l) ∧
        ∀ id template, project.templates.get id = some template → ∀ l ∈ template.styleLists, l =
          edit l := by
  have hwindows : (project.windows.mapVal fun window => (onWindow window).1) =
      project.windows.mapVal (UiWindowData.mapStyles fun l => (handler l).1) :=
        OMap.mapVal_congr fun _ window _ => h.window window
  have htemplates : (project.templates.mapVal fun template => (template, false).1) =
      project.templates.mapVal (UiTemplateData.mapStyles fun l => l) :=
    OMap.mapVal_congr fun _ template _ => template.mapStyles_id.symm
  have hproject : (ProjectModel.putStyles project styles).eachView onWindow
    (fun template => (template, false)) =
      { project.mapStyles edit with styles := styles } ↔
      (∀ id window, project.windows.get id = some window → ∀ l ∈ window.styleLists,
        (handler l).1 = edit l) ∧
        ∀ id template, project.templates.get id = some template → ∀ l ∈ template.styleLists, l =
          edit l := by
    rw [UiProject.eachView, UiProject.mk.injEq]
    simp only [eachItem, ProjectModel.putStyles, UiProject.mapStyles, hwindows, htemplates,
      true_and, and_true,
      OMap.mapVal_eq_mapVal, UiWindowData.mapStyles_eq, UiTemplateData.mapStyles_eq]
  refine ⟨fun he => hproject.mp he.project,
    fun hlists => ⟨hproject.mpr hlists, fun id => h.impacted, fun id hid => ?_⟩⟩
  exact absurd (congrArg (fun m => m.get id) (OMap.mapVal_id project.templates)) hid

end Handlers

/-- Clearing and renaming a style do what they should exactly if the style is at most once in each
list of the windows and of their controls, and in no list of a control of a template. -/
theorem style_edits_complete_iff (o : Opened) (s n : String) (hs : o.project.styles.has s = true)
    (hn : New o.project.styles n) :
    ((∃ impacts o', (ProjectModel.clearStyle s).run o = .ok impacts o' ∧
      EditsStyles (withoutStyle s) (o.project.styles.delete s) o.project impacts o'.project) ↔
        StyleOnce o.project s) ∧
    ((∃ impacts o', (ProjectModel.renameStyle s n).run o = .ok impacts o' ∧
      EditsStyles (withStyleRenamed s n) (o.project.styles.rename s n) o.project impacts
        o'.project) ↔
        StyleOnce o.project s) := by
  have hne : n ≠ s := by
    rintro rfl
    rw [hn.1] at hs
    cases hs
  have hclear := (onClearStyle_onStyles s).edits_iff (withoutStyle s) (o.project.styles.delete s)
    o.project
  have hrename := (onRenameStyle_onStyles s n).edits_iff (withStyleRenamed s n)
    (o.project.styles.rename s n) o.project
  simp only [styleClear_eq, self_eq_withoutStyle] at hclear
  simp only [styleRename_eq hne, self_eq_withStyleRenamed hne] at hrename
  have hrun : (ProjectModel.renameStyle s n).run o = .ok
      { windows := ProjectModel.impacted (fun window =>
        WindowModel.onRenameStyle window s n) o.project.windows
        templates := ProjectModel.impacted (fun template => (template, false)) o.project.templates }
      { project := (ProjectModel.putStyles o.project (o.project.styles.rename s n)).eachView
          (fun window => WindowModel.onRenameStyle window s n) (fun template => (template, false))
        sent := o.sent } :=
    Program.run_bind_ok.mpr ⟨⟨⟩, _, run_fetch_bind_ok.mpr ⟨⟨⟩, checkNewId_ok.mpr hn, rfl⟩, rfl⟩
  refine ⟨⟨?_, fun h => ⟨_, _, rfl, hclear.mpr h⟩⟩, ?_, fun h => ⟨_, _, hrun, hrename.mpr h⟩⟩
  · rintro ⟨impacts, o', hrun', he⟩
    cases hrun'
    exact hclear.mp he
  · rintro ⟨impacts, o', hrun', he⟩
    cases hrun.symm.trans hrun'
    exact hrename.mp he

/-! ## A template with a styled control -/

/-- A window and a template, each with a control that has the style. -/
def styledProject : UiProject where
  resources := ∅
  styles := .ofList [("s", { properties := .null })]
  windows := .ofList [("w", { windowTemplate with
    style := ["s"], controls :=
      .ofList [("c", { controlTemplate 0 0 with style := ["r", "s"] })] })]
  templates := .ofList [("t", { templateTemplate with
    controls := .ofList [("c", { controlTemplate 0 0 with style := ["s"] })] })]
  defaultWindow := ∅
  components := ∅
  plugins := ∅

theorem style_edits_complete_window : ∃ impacts o', (ProjectModel.renameStyle "s" "n").run
      { project := { styledProject with templates := ∅ } } = .ok impacts o' ∧
    EditsStyles (withStyleRenamed "s" "n") (styledProject.styles.rename "s" "n")
      { styledProject with templates := ∅ } impacts
      o'.project := by
  refine (style_edits_complete_iff _ "s" "n" (by decide) (by unfold New; decide)).2.mpr ⟨?_,
    fun id template h => by cases h⟩
  intro id window hw
  rcases OMap.get_set_eq_some.mp hw with ⟨-, rfl⟩ | ⟨-, hw⟩
  · decide
  · cases hw

/-- The control of the template keeps the style that is no longer there, and is not renamed with it;
in a list that has the style twice one of them is left. -/
theorem template_keeps_style : ∃ impacts o' impacts' o'' template template' control,
    (ProjectModel.clearStyle "s").run { project := styledProject } = .ok impacts o' ∧
      (ProjectModel.renameStyle "s" "n").run { project := styledProject } = .ok impacts' o'' ∧
      o'.project.styles.has "s" = false ∧ o''.project.styles.has "s" = false ∧
      o'.project.templates.get "t" = some template ∧ o''.project.templates.get "t" =
        some template' ∧
      template.controls.get "c" = some control ∧ template'.controls.get "c" = some control ∧
        control.style = ["s"] ∧
      (styleClear "s" ["s", "s"]).1 = ["s"] ∧ (styleRename "s" "n" ["s", "s"]).1 = ["n", "s"] :=
  ⟨_, _, _, _, _, _, _, rfl, rfl, rfl, rfl, rfl, rfl, rfl, rfl, rfl, rfl, by decide⟩

end MylifeHome.Studio.Ui
