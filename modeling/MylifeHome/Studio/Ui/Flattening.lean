import Mathlib.Algebra.Ring.Rat
import Mathlib.Data.Option.Basic
import MylifeHome.Studio.Ui.PlainIds
import MylifeHome.Studio.Ui.Soundness

/-!
# What the deployed controls stand for

A deployed control of a window is a control of the project together with the chain of
template instances that leads to it. The deployment carries a position, a path and the
bindings along; here the chain alone says what they are.
-/
namespace MylifeHome.Studio.Ui.Deploy

open MylifeHome.Lib
open MylifeHome.Studio.Core (Err hasColon)

/-! ## Sites -/

/-- A control at the end of a chain of template instances. -/
structure Site where
  chain : List (String × UiTemplateInstanceData)
  id : String
  control : UiControlData
  deriving DecidableEq

/-- A chain of instances leads from a view to another one. -/
inductive Leads (project : UiProject) : UiViewData → List (String × UiTemplateInstanceData) →
    UiViewData → Prop where
  | here {view : UiViewData} : Leads project view [] view
  | through {view last : UiViewData} {id : String} {data : UiTemplateInstanceData}
    {template : UiTemplateData}
      {chain : List (String × UiTemplateInstanceData)} : view.templates.get id = some data →
      project.templates.get (propertyName data.templateId) = some template →
      Leads project template.toUiViewData chain last → Leads project view ((id, data) :: chain) last

/-- The first binding with a component, when the bindings are followed from an instance to those
around it. -/
def resolve : List UiTemplateInstanceData → Option String → Option UiTemplateInstanceBinding
  | [], _ => none
  | data :: outer, name =>
    match data.bindings.get (propertyName name) with
    | none => none
    | some binding => if truthy binding.componentId then some binding
      else resolve outer binding.memberName

namespace Site

variable (site : Site)

/-- The chain starts in a view, and the control is one of the view at its end. -/
def In (project : UiProject) (view : UiViewData) : Prop :=
  ∃ last, Leads project view site.chain last ∧ last.controls.get site.id = some site.control

def names : List String := site.chain.map Prod.fst ++ [site.id]

def x : ℚ := site.control.x + (site.chain.map fun e => e.2.x).sum

def y : ℚ := site.control.y + (site.chain.map fun e => e.2.y).sum

/-- The instances of the chain, the innermost one first. -/
def outward : List UiTemplateInstanceData := (site.chain.map Prod.snd).reverse

/-- A component and a member, as they are deployed. -/
def Resolves (componentId memberName componentId' memberName' : Option String) : Prop :=
  if truthy componentId then componentId' = componentId ∧ memberName' = memberName
  else resolve site.outward memberName =
    some { componentId := componentId', memberName := memberName' }

/-- A display without a state needs no component. -/
structure Displays (display display' : UiControlDisplayData) : Prop where
  reference : if truthy display.componentState then
      site.Resolves display.componentId display.componentState display'.componentId
        display'.componentState
    else display'.componentId = display.componentId ∧ display'.componentState =
      display.componentState
  defaultResource : display'.defaultResource = display.defaultResource
  map : display'.map = display.map

structure Writes (text : UiControlTextData) (text' : ControlText) : Prop where
  context : List.Forall₂ (fun item item' => item'.id = item.id ∧
    site.Resolves item.componentId item.componentState item'.componentId item'.componentState)
      text.context text'.context
  format : text'.format = text.format

structure Acts (action action' : UiActionData) : Prop where
  component : Option.Rel (fun component component' =>
    site.Resolves component.id component.action component'.id component'.action) action.component
      action'.component
  window : action'.window = action.window

/-- The deployed control of a site. -/
structure Flattens (control : Control) : Prop where
  id : control.id = ":".intercalate site.names
  x : control.x = site.x
  y : control.y = site.y
  style : control.style = site.control.style
  height : control.height = site.control.height
  width : control.width = site.control.width
  display : Option.Rel site.Displays site.control.display control.display
  text : Option.Rel site.Writes site.control.text control.text
  primaryAction : Option.Rel site.Acts site.control.primaryAction control.primaryAction
  secondaryAction : Option.Rel site.Acts site.control.secondaryAction control.secondaryAction

end Site

/-- The controls stand for all the sites of a view, each of them once, and have different ids. -/
def Flattening (project : UiProject) (view : UiViewData) (controls : List Control) : Prop :=
  ∃ sites : List Site, sites.Nodup ∧ (∀ site, site ∈ sites ↔ site.In project view) ∧
    List.Forall₂ Site.Flattens sites controls ∧ (controls.map Control.id).Nodup

/-! ## The order of the sites -/

/-- A site of a template as one of a view with an instance of it. -/
def Site.within (e : String × UiTemplateInstanceData) (site : Site) : Site :=
  { site with chain := e :: site.chain }

/-- The sites of a view in the order of the deployment, to a depth. -/
def viewSites (project : UiProject) : Nat → UiViewData → List Site
  | 0, _ => []
  | fuel + 1, view =>
    (view.templates.entries.flatMap fun e =>
      match project.templates.get (propertyName e.2.templateId) with
      | none => []
      | some template => (viewSites project fuel template.toUiViewData).map (Site.within e)) ++
    view.controls.entries.map fun e => { chain := [], id := e.1, control := e.2 }

/-- The sites of an instance. -/
def instanceSites (project : UiProject) (fuel : Nat) (e : String × UiTemplateInstanceData) :
    List Site :=
  match project.templates.get (propertyName e.2.templateId) with
  | none => []
  | some template => (viewSites project fuel template.toUiViewData).map (Site.within e)

theorem viewSites_succ (project : UiProject) (fuel : Nat) (view : UiViewData) :
    viewSites project (fuel + 1) view =
    view.templates.entries.flatMap (instanceSites project fuel) ++
      view.controls.entries.map fun e => { chain := [], id := e.1, control := e.2 } := rfl

/-- The control that the deployment builds at a site, from what it carries along the chain. -/
def buildSite (xBase yBase : ℚ) (pathBase : List String) (bindings : Bindings) (site : Site) :
    Except Err Control :=
  buildControl (":".intercalate (pathBase ++ site.names)) site.control
    (site.chain.foldl (fun x e => x + e.2.x) xBase)
    (site.chain.foldl (fun y e => y + e.2.y) yBase)
    (site.chain.foldl (fun bindings e => instanceBindings bindings e.2) bindings)

theorem buildSite_within (xBase yBase : ℚ) (pathBase : List String) (bindings : Bindings)
    (e : String × UiTemplateInstanceData) (site : Site) : buildSite xBase yBase pathBase bindings
      (site.within e) =
      buildSite (xBase + e.2.x) (yBase + e.2.y) (pathBase ++ [e.1]) (instanceBindings bindings e.2)
        site := by
  have hnames : pathBase ++ (site.within e).names = (pathBase ++ [e.1]) ++ site.names := by
    simp [Site.names, Site.within]
  rw [buildSite, buildSite, hnames]
  rfl

theorem mapM_flatMap {α β γ : Type} {f : α → Except Err (List γ)} {g : α → List β}
    {b : β → Except Err γ} {l : List α} {rs : List (List γ)}
    (h : ∀ a ∈ l, ∀ r, f a = .ok r → (g a).mapM b = .ok r) (hl : l.mapM f = .ok rs) :
    (l.flatMap g).mapM b = .ok rs.flatten := by
  induction l generalizing rs with
  | nil =>
    cases hl
    rfl
  | cons a l ih =>
    obtain ⟨r, hr, hl⟩ := except_bind_ok.mp (List.mapM_cons.symm.trans hl)
    obtain ⟨rs', hrs, hl⟩ := except_bind_ok.mp hl
    cases hl
    rw [List.flatMap_cons, List.mapM_append, h a List.mem_cons_self r hr,
      ih (fun a' ha' => h a' (List.mem_cons_of_mem _ ha')) hrs]
    rfl

section Sites

variable {project : UiProject}

/-- The deployment builds the controls of the sites of a view. -/
theorem mapM_viewSites {fuel : Nat} {xBase yBase : ℚ} {pathBase : List String} {view : UiViewData}
    {bindings : Bindings} {controls : List Control}
    (h : addViewElements project fuel xBase yBase pathBase view bindings = .ok controls) :
    (viewSites project fuel view).mapM (buildSite xBase yBase pathBase bindings) =
      .ok controls := by
  induction fuel generalizing xBase yBase pathBase view bindings controls with
  | zero => cases h
  | succ fuel ih =>
    obtain ⟨nested, hnested, h⟩ := except_bind_ok.mp ((addViewElements_succ ..).symm.trans h)
    obtain ⟨own, hown, h⟩ := except_bind_ok.mp h
    cases h
    have hinstances := mapM_flatMap (g := instanceSites project fuel)
      (b := buildSite xBase yBase pathBase bindings)
      (fun e _ r hr => ?_) hnested
    · have hcontrols : (view.controls.entries.map fun e =>
        ({ chain := [], id := e.1, control := e.2 } : Site)).mapM
          (buildSite xBase yBase pathBase bindings) = .ok own := (mapM_map_list _).trans hown
      rw [viewSites_succ, List.mapM_append, hinstances, hcontrols]
      rfl
    · unfold instanceElements at hr
      unfold instanceSites
      cases htemplate : project.templates.get (propertyName e.2.templateId) with
      | none =>
        rw [htemplate] at hr
        cases hr
      | some template =>
        rw [htemplate] at hr
        refine (mapM_map_list _).trans ?_
        simp only [buildSite_within]
        exact ih hr

theorem within_inj {e e' : String × UiTemplateInstanceData} {site site' : Site}
    (h : site.within e = site'.within e') :
    e = e' ∧ site = site' := by
  obtain ⟨chain, id, control⟩ := site
  obtain ⟨chain', id', control'⟩ := site'
  simp only [Site.within, Site.mk.injEq, List.cons.injEq] at h
  obtain ⟨⟨rfl, rfl⟩, rfl, rfl⟩ := h
  exact ⟨rfl, rfl⟩

theorem mem_instanceSites {fuel : Nat} {e : String × UiTemplateInstanceData} {site : Site} :
    site ∈ instanceSites project fuel e ↔
      ∃ template inner, project.templates.get (propertyName e.2.templateId) = some template ∧
      inner ∈ viewSites project fuel template.toUiViewData ∧ site = inner.within e := by
  unfold instanceSites
  cases project.templates.get (propertyName e.2.templateId) with
  | none => simp
  | some template =>
    simp only [List.mem_map, Option.some.injEq, exists_and_left, exists_eq_left']
    exact exists_congr fun inner => and_congr_right fun _ => eq_comm

theorem mem_viewSites_succ {fuel : Nat} {view : UiViewData} {site : Site} :
    site ∈ viewSites project (fuel + 1) view ↔
    (∃ e ∈ view.templates.entries, site ∈ instanceSites project fuel e) ∨
      site.chain = [] ∧ view.controls.get site.id = some site.control := by
  rw [viewSites_succ, List.mem_append, List.mem_flatMap, List.mem_map]
  refine or_congr_right ?_
  obtain ⟨chain, id, control⟩ := site
  simp only [Prod.exists, OMap.mem_entries, Site.mk.injEq]
  constructor
  · rintro ⟨_, _, hget, rfl, rfl, rfl⟩
    exact ⟨rfl, hget⟩
  · rintro ⟨rfl, hget⟩
    exact ⟨id, control, hget, rfl, rfl, rfl⟩

theorem in_of_mem_viewSites {fuel : Nat} {view : UiViewData} {site : Site}
    (h : site ∈ viewSites project fuel view) :
    site.In project view := by
  induction fuel generalizing view site with
  | zero => cases h
  | succ fuel ih =>
    rcases mem_viewSites_succ.mp h with ⟨e, he, h⟩ | ⟨hchain, hget⟩
    · obtain ⟨template, inner, htemplate, hinner, rfl⟩ := mem_instanceSites.mp h
      obtain ⟨last, hleads, hget⟩ := ih hinner
      exact ⟨last, .through (OMap.mem_entries.mp he) htemplate hleads, hget⟩
    · refine ⟨view, ?_, hget⟩
      rw [hchain]
      exact .here

/-- A view that is deployed is deployed to the end of all its chains. -/
theorem mem_viewSites {fuel : Nat} {xBase yBase : ℚ} {pathBase : List String} {view : UiViewData}
    {bindings : Bindings} {controls : List Control}
    (h : addViewElements project fuel xBase yBase pathBase view bindings = .ok controls)
    (site : Site) : site ∈ viewSites project fuel view ↔ site.In project view := by
  refine ⟨in_of_mem_viewSites, ?_⟩
  rintro ⟨last, hleads, hget⟩
  obtain ⟨chain, id, control⟩ := site
  dsimp only at hleads hget
  induction hleads generalizing fuel xBase yBase pathBase bindings controls with
  | here =>
    cases fuel with
    | zero => cases h
    | succ fuel => exact mem_viewSites_succ.mpr (Or.inr ⟨rfl, hget⟩)
  | @through view last x data template chain hdata htemplate _ ih =>
    cases fuel with
    | zero => cases h
    | succ fuel =>
      obtain ⟨nested, hnested, -⟩ := except_bind_ok.mp ((addViewElements_succ ..).symm.trans h)
      obtain ⟨inner, -, hinner⟩ := mapM_ok_mem hnested (OMap.mem_entries.mpr hdata)
      rw [instanceElements, htemplate] at hinner
      refine mem_viewSites_succ.mpr (Or.inl ⟨(x, data), OMap.mem_entries.mpr hdata, ?_⟩)
      exact mem_instanceSites.mpr ⟨template, ⟨chain, id, control⟩, htemplate, ih hinner hget, rfl⟩

theorem nodup_viewSites (fuel : Nat) (view : UiViewData) : (viewSites project fuel view).Nodup := by
  induction fuel generalizing view with
  | zero => exact List.nodup_nil
  | succ fuel ih =>
    rw [viewSites_succ, List.nodup_append]
    refine ⟨?_, ?_, ?_⟩
    · rw [List.nodup_flatMap]
      refine ⟨fun e _ => ?_, ?_⟩
      · unfold instanceSites
        split
        · exact List.nodup_nil
        · exact (ih _).map fun _ _ h => (within_inj h).2
      · refine view.templates.nodup.of_map.imp fun {e e'} hne site hsite hsite' => ?_
        obtain ⟨_, _, -, -, rfl⟩ := mem_instanceSites.mp hsite
        obtain ⟨_, _, -, -, h⟩ := mem_instanceSites.mp hsite'
        exact hne (within_inj h).1
    · refine view.controls.nodup.of_map.map fun e e' h => ?_
      obtain ⟨-, hid, hcontrol⟩ := Site.mk.inj h
      exact Prod.ext hid hcontrol
    · rintro site hsite _ hown rfl
      obtain ⟨e, -, hsite⟩ := List.mem_flatMap.mp hsite
      obtain ⟨_, _, -, -, rfl⟩ := mem_instanceSites.mp hsite
      obtain ⟨_, -, h⟩ := List.mem_map.mp hown
      cases h

end Sites

/-! ## What is carried along a chain -/

section Carried

theorem foldl_add_eq {f : String × UiTemplateInstanceData → ℚ}
    (chain : List (String × UiTemplateInstanceData)) (base : ℚ) :
    chain.foldl (fun x e => x + f e) base = base + (chain.map f).sum := by
  induction chain generalizing base with
  | nil => exact (add_zero base).symm
  | cons e chain ih => rw [List.foldl_cons, ih, List.map_cons, List.sum_cons, add_assoc]

/-- The bindings at the end of a chain are those that are found by following them outward. -/
theorem join_get_bindings (chain : List (String × UiTemplateInstanceData)) (name : Option String) :
    ((chain.foldl (fun bindings e => instanceBindings bindings e.2) ∅).get
      (propertyName name)).join =
      resolve (chain.map Prod.snd).reverse name := by
  induction chain using List.reverseRecOn generalizing name with
  | nil => rfl
  | append_singleton chain e ih =>
    rw [List.foldl_concat, List.map_append, List.reverse_append, List.map_singleton,
      List.reverse_singleton, List.singleton_append, resolve, instanceBindings, OMap.get_mapVal]
    cases e.2.bindings.get (propertyName name) with
    | none => rfl
    | some binding =>
      simp only [Option.map_some, Option.join_some]
      split
      · rfl
      · exact ih binding.memberName

theorem lookup_ok {bindings : Bindings} {name : Option String}
    {binding : UiTemplateInstanceBinding} :
    bindings.lookup name = .ok binding ↔ (bindings.get (propertyName name)).join =
      some binding := by
  unfold Bindings.lookup
  split
  · next hget => simp [hget]
  · next hget =>
    constructor
    · intro h
      cases h
    · intro h
      obtain hget' := Option.join_eq_some_iff.mp h
      exact absurd hget' (hget binding)

variable {site : Site} {bindings : Bindings}

theorem resolves_of_lookup
    (h : ∀ name, (bindings.get (propertyName name)).join = resolve site.outward name)
    {componentId memberName : Option String} (hid : truthy componentId = false)
    {binding : UiTemplateInstanceBinding} (hlookup : bindings.lookup memberName = .ok binding) :
    site.Resolves componentId memberName binding.componentId binding.memberName := by
  rw [Site.Resolves, hid, if_neg Bool.false_ne_true, ← h]
  exact lookup_ok.mp hlookup

theorem resolves_self {componentId memberName : Option String} (hid : truthy componentId = true) :
    site.Resolves componentId memberName componentId memberName := by
  rw [Site.Resolves, if_pos hid]
  exact ⟨rfl, rfl⟩

theorem displays_of_build
    (h : ∀ name, (bindings.get (propertyName name)).join = resolve site.outward name)
    {display display' : UiControlDisplayData}
    (hbuild : buildDisplay bindings display = .ok display') :
    site.Displays display display' := by
  unfold buildDisplay at hbuild
  cases hstate : truthy display.componentState with
  | false =>
    rw [hstate, Bool.not_false, Bool.true_or, if_pos rfl] at hbuild
    cases hbuild
    exact ⟨by rw [hstate, if_neg Bool.false_ne_true]; exact ⟨rfl, rfl⟩, rfl, rfl⟩
  | true =>
    rw [hstate, Bool.not_true, Bool.false_or] at hbuild
    cases hid : truthy display.componentId with
    | true =>
      rw [hid, if_pos rfl] at hbuild
      cases hbuild
      exact ⟨by rw [hstate, if_pos rfl]; exact resolves_self hid, rfl, rfl⟩
    | false =>
      rw [hid, if_neg Bool.false_ne_true] at hbuild
      obtain ⟨binding, hlookup, rfl⟩ := except_map_ok.mp hbuild
      exact ⟨by rw [hstate, if_pos rfl]; exact resolves_of_lookup h hid hlookup, rfl, rfl⟩

theorem writes_of_build (h : ∀ name,
    (bindings.get (propertyName name)).join = resolve site.outward name) {text : UiControlTextData}
    {text' : ControlText} (hbuild : buildText bindings text = .ok text') :
    site.Writes text text' := by
  obtain ⟨context, hcontext, hbuild⟩ := except_bind_ok.mp hbuild
  cases hbuild
  refine ⟨(mapM_ok hcontext).imp fun item item' hitem => ?_, rfl⟩
  unfold buildItem at hitem
  split at hitem
  · next hid =>
    cases hitem
    exact ⟨rfl, resolves_self hid⟩
  · next hid =>
    obtain ⟨binding, hlookup, rfl⟩ := except_map_ok.mp hitem
    exact ⟨rfl, resolves_of_lookup h (Bool.eq_false_iff.mpr hid) hlookup⟩

theorem acts_of_build (h : ∀ name,
    (bindings.get (propertyName name)).join = resolve site.outward name)
    {action action' : UiActionData} (hbuild : buildAction bindings action = .ok action') :
    site.Acts action action' := by
  obtain ⟨_ | component, window⟩ := action
  · cases hbuild
    exact ⟨.none, rfl⟩
  · unfold buildAction at hbuild
    dsimp only at hbuild
    split at hbuild
    · next hid =>
      cases hbuild
      exact ⟨.some (resolves_self hid), rfl⟩
    · next hid =>
      obtain ⟨binding, hlookup, rfl⟩ := except_map_ok.mp hbuild
      exact ⟨.some (resolves_of_lookup h (Bool.eq_false_iff.mpr hid) hlookup), rfl⟩

theorem rel_of_buildPart {α β : Type} {build : α → Except Err β} {R : α → β → Prop}
    {part : Option α} {part' : Option β} (h : ∀ a b, build a = .ok b → R a b)
    (hbuild : buildPart build part = .ok part') :
    Option.Rel R part part' := by
  cases part with
  | none =>
    cases hbuild
    exact .none
  | some a =>
    obtain ⟨b, hb, rfl⟩ := except_map_ok.mp hbuild
    exact .some (h a b hb)

/-- What is built at a site of a window is what the chain says. -/
theorem flattens_of_buildSite {control : Control} (hbuild : buildSite 0 0 [] ∅ site = .ok control) :
    site.Flattens control := by
  obtain ⟨display, hdisplay, hbuild⟩ := except_bind_ok.mp hbuild
  obtain ⟨text, htext, hbuild⟩ := except_bind_ok.mp hbuild
  obtain ⟨primaryAction, hprimary, hbuild⟩ := except_bind_ok.mp hbuild
  obtain ⟨secondaryAction, hsecondary, hbuild⟩ := except_bind_ok.mp hbuild
  cases hbuild
  have h := join_get_bindings site.chain
  have hposition : ∀ (f : String × UiTemplateInstanceData → ℚ) (own : ℚ),
      site.chain.foldl (fun x e => x + f e) 0 + own = own + (site.chain.map f).sum := by
    intro f own
    rw [foldl_add_eq, zero_add, add_comm]
  exact {
    id := rfl
    x := hposition _ _
    y := hposition _ _
    style := rfl
    height := rfl
    width := rfl
    display := rel_of_buildPart (fun _ _ => displays_of_build h) hdisplay
    text := rel_of_buildPart (fun _ _ => writes_of_build h) htext
    primaryAction := rel_of_buildPart (fun _ _ => acts_of_build h) hprimary
    secondaryAction := rel_of_buildPart (fun _ _ => acts_of_build h) hsecondary }

end Carried

/-! ## Ids -/

section Ids

variable {project : UiProject}

/-- The names of the instances of a chain tell the chain. -/
theorem Leads.unique {view last last' : UiViewData}
    {chain chain' : List (String × UiTemplateInstanceData)} (h : Leads project view chain last)
    (h' : Leads project view chain' last')
    (hnames : chain.map Prod.fst = chain'.map Prod.fst) : chain = chain' ∧ last = last' := by
  induction h generalizing chain' with
  | here =>
    cases h' with
    | here => exact ⟨rfl, rfl⟩
    | through _ _ _ => cases hnames
  | through hdata htemplate _ ih =>
    cases h' with
    | here => cases hnames
    | through hdata' htemplate' hleads' =>
      obtain ⟨rfl, hrest⟩ := List.cons.inj hnames
      cases hdata.symm.trans hdata'
      cases htemplate.symm.trans htemplate'
      obtain ⟨rfl, rfl⟩ := ih hleads' hrest
      exact ⟨rfl, rfl⟩

theorem Leads.plain {view last : UiViewData} {chain : List (String × UiTemplateInstanceData)}
    (h : Leads project view chain last) (hplain : PlainIds project) (hview : PlainView view) :
    (∀ name ∈ chain.map Prod.fst, hasColon name = false) ∧ PlainView last := by
  induction h with
  | here => exact ⟨fun _ hname => (by cases hname), hview⟩
  | through hdata htemplate _ ih =>
    obtain ⟨hnames, hlast⟩ := ih (hplain.2 _ _ htemplate)
    refine ⟨fun name hname => ?_, hlast⟩
    rcases List.mem_cons.mp hname with rfl | hname
    · exact hview.templates _ (OMap.has_iff.mpr ⟨_, hdata⟩)
    · exact hnames name hname

theorem plain_names (hplain : PlainIds project) {view : UiViewData} (hview : PlainView view)
    {site : Site} (h : site.In project view) : ∀ name ∈ site.names, ':' ∉ name.toList := by
  obtain ⟨last, hleads, hget⟩ := h
  obtain ⟨hnames, hlast⟩ := hleads.plain hplain hview
  intro name hname
  refine of_decide_eq_false ?_
  rcases List.mem_append.mp hname with hname | hname
  · exact hnames name hname
  · rw [List.mem_singleton.mp hname]
    exact hlast.controls _ (OMap.has_iff.mpr ⟨_, hget⟩)

/-- The joined names of a site tell the site. -/
theorem site_of_id (hplain : PlainIds project) {view : UiViewData} (hview : PlainView view)
    {site site' : Site} (h : site.In project view) (h' : site'.In project view)
    (hid : ":".intercalate site.names = ":".intercalate site'.names) : site = site' := by
  have hsplit : ∀ {site : Site}, site.In project view →
      Text.split (":".intercalate site.names) ':' = site.names := by
    intro site h
    refine Text.split_of_toList (plain_names hplain hview h) (by simp [Site.names]) ?_
    rw [String.toList_intercalate]
    rfl
  have hnames : site.names = site'.names := by rw [← hsplit h, ← hsplit h', hid]
  obtain ⟨chain, id, control⟩ := site
  obtain ⟨chain', id', control'⟩ := site'
  obtain ⟨hchain, hids⟩ := List.append_inj' hnames rfl
  obtain rfl : id = id' := List.singleton_injective hids
  obtain ⟨last, hleads, hget⟩ := h
  obtain ⟨last', hleads', hget'⟩ := h'
  obtain ⟨rfl, rfl⟩ := hleads.unique hleads' hchain
  cases hget.symm.trans hget'
  rfl

/-- The deployed controls of a window. -/
theorem flattening_of_ok (hplain : PlainIds project) {view : UiViewData} (hview : PlainView view)
    {fuel : Nat} {controls : List Control}
    (h : addViewElements project fuel 0 0 [] view ∅ = .ok controls) :
    Flattening project view controls := by
  have hbuilt := (mapM_ok (mapM_viewSites h)).imp fun _ _ => flattens_of_buildSite
  refine ⟨viewSites project fuel view, nodup_viewSites fuel view, mem_viewSites h, hbuilt, ?_⟩
  have hids : controls.map Control.id = (viewSites project fuel view).map fun site =>
      ":".intercalate site.names := by
    clear h
    generalize viewSites project fuel view = sites at hbuilt
    induction hbuilt with
    | nil => rfl
    | cons hfirst _ ih => rw [List.map_cons, List.map_cons, hfirst.id, ih]
  rw [hids]
  refine List.Nodup.map_on (fun site hsite site' hsite' hid => ?_) (nodup_viewSites fuel view)
  exact site_of_id hplain hview (in_of_mem_viewSites hsite) (in_of_mem_viewSites hsite') hid

end Ids

open MylifeHome.Lib.Program

/-- A session is a list of calls that are all accepted. -/
theorem reaches_forEach {calls : List Call} {o₀ o o' : Opened}
    (hreach : Reaches (fun _ _ => True) o₀ o)
    (h : (forEach calls UiOpenedProject.call).run o = .ok ⟨⟩ o') :
    Reaches (fun _ _ => True) o₀ o' := by
  induction calls generalizing o with
  | nil =>
    obtain ⟨-, rfl⟩ := Program.run_pure_ok.mp h
    exact hreach
  | cons c calls ih =>
    obtain ⟨_, o₁, hc, h⟩ := Program.run_bind_ok.mp h
    exact ih (.call hreach trivial hc) h

/-- The window of the sessions, and the template with a display of its export. -/
def displaySession : List Call :=
  [.newWindow "w", .setDefaultWindow (.ofList [("desktop", some "w"), ("mobile", some "w")]),
    .newTemplate "t", .setTemplateExport "t" "state" .state "bool",
    .newControl (.template "t") "c" 0 0 .display,
    .setControlProperties (.template "t") "c"
      { display := some (some { controlDisplayTemplate with componentState := some "state" }) }]

/-- A component with the state, and an instance of the template that is bound to it. -/
def boundSession : List Call :=
  .applyRefreshComponents
    { components := .ofList [("lamp", { plugin := "i:io.lamp" })]
      plugins := .ofList [("i:io.lamp",
        { instanceName := "i", name := "lamp", module := "io", version := "1.0.0", description := ""
          members := .ofList
            [("value", { description := "", memberType := .state, valueType := "bool" })] })] }
    [] :: displaySession ++
  [.newTemplateInstance (.window "w") "x" "t" 3 4,
    .setTemplateInstanceBindings (.window "w") "x"
      (.ofList [("state", { componentId := some "lamp", memberName := some "value" })])]

end MylifeHome.Studio.Ui.Deploy
