import MylifeHome.Lib.Graph
import MylifeHome.Studio.Core.Usage
import MylifeHome.Studio.Core.Resolver

/-!
# Templates in templates

Which templates a template contains components of. The check of `setComponent`
walks the users of the edited template; it keeps the relation without cycles as
long as the registers of the templates are exact and no template is put in
itself, which it does not look at. Without cycles the recursions over the
templates end.
-/
namespace MylifeHome.Studio.Core

open MylifeHome.Lib MylifeHome.Lib.Program Relation ProjectModel CoreOpenedProject

namespace ProjectModel

variable {s : ProjectModel}

/-- Template `t` contains a component whose definition is template `u`. -/
def Contains (s : ProjectModel) (t u : Ref) : Prop := s.Holds (some t) (.template u)

def TemplatesIndexed (s : ProjectModel) : Prop := ∀ t, s.IndexedAt (.definition (.template t))

/-- The owners in the usage of a template are the templates that contain it. -/
theorem TemplatesIndexed.contains_iff (h : s.TemplatesIndexed) (hs : s.Linked) {owner t : Ref} :
    s.Contains owner t ↔ ∃ c ∈ (s.templateAt t).usage.values, (s.componentAt c).ownerTemplate =
      some owner := by
  have hmem : ∀ c, c ∈ (s.templateAt t).usage.values ↔ _ := fun c => OMap.Indexes.mem_values (h t)
  simp only [hmem]
  constructor
  · rintro ⟨id, c, hc, hd⟩
    exact ⟨c, ⟨id, some owner, hc, hd⟩, (hs.views.component _ _ _ hc).owner⟩
  · rintro ⟨c, ⟨id, v, hc, hd⟩, ho⟩
    have hv := (hs.views.component v id c hc).owner
    rw [ho] at hv
    exact ⟨id, c, hv ▸ hc, hd⟩

/-- Every template that leads to a template is found by `getRecursiveTemplateUsage`. -/
theorem TemplatesIndexed.mem_recursiveUsage (h : s.TemplatesIndexed) (hs : s.Linked) {fuel : Nat}
    {t u : Ref} {users : List Ref} (hres : s.getRecursiveTemplateUsage fuel t = .ok users)
    (hut : TransGen s.Contains u t) :
    u ∈ users := by
  induction fuel generalizing t users with
  | zero => cases hres
  | succ fuel ih =>
    rw [getRecursiveTemplateUsage, except_bind_ok] at hres
    obtain ⟨parts, hparts, hres⟩ := hres
    cases hres
    -- The last edge of the path is a component in the usage, whose owner comes with all its users.
    have howner : ∀ owner, s.Contains owner t → ∃ users, s.getRecursiveTemplateUsage fuel owner =
      .ok users ∧
        (owner :: users) ∈ parts := by
      intro owner hot
      obtain ⟨c, hc, ho⟩ := (h.contains_iff hs).mp hot
      obtain ⟨part, hpart, hf⟩ := mapM_ok_mem hparts hc
      rw [ho] at hf
      obtain ⟨users, husers, hf⟩ := except_bind_ok.mp hf
      cases hf
      exact ⟨users, husers, hpart⟩
    cases hut with
    | single hut =>
      obtain ⟨users, _, hpart⟩ := howner u hut
      exact List.mem_flatten.mpr ⟨_, hpart, List.mem_cons_self⟩
    | tail huo hot =>
      obtain ⟨users, husers, hpart⟩ := howner _ hot
      exact List.mem_flatten.mpr ⟨_, hpart, List.mem_cons_of_mem _ (ih husers huo)⟩

/-! ## Edits -/

/-- No component of any view has the id and the template as its definition. -/
def TemplateIdFree (s : ProjectModel) (u : Ref) (id : String) : Prop :=
  ∀ c ∈ s.allComponents, (s.componentAt c).id = id → (s.componentAt c).definition ≠ .template u

instance (s : ProjectModel) (u : Ref) (id : String) : Decidable (s.TemplateIdFree u id) := by
  unfold TemplateIdFree; infer_instance

/-- A component of a template gets an id that no other component of the template has, in whatever
view, and is not put in the template itself. -/
def TemplatesDistinct (s : ProjectModel) : Write → Prop
  | .initComponent _ id (.template u) _ => s.TemplateIdFree u id
  | .addComponent v id (.template u) _ => v ≠ some u ∧ s.TemplateIdFree u id
  | .renameComponent _ c newId =>
    match (s.componentAt c).definition with
    | .template u => s.TemplateIdFree u newId
    | .plugin _ => True
  | _ => True

/-- The choice that a rename leaves to the definition of the component. -/
def decidableRename (s : ProjectModel) (newId : String) (d : DefRef) : Decidable (match d with
    | .template u => s.TemplateIdFree u newId
    | .plugin _ => True) :=
  match d with
  | .template u => inferInstanceAs (Decidable (s.TemplateIdFree u newId))
  | .plugin _ => instDecidableTrue

instance (s : ProjectModel) (w : Write) : Decidable (s.TemplatesDistinct w) :=
  match w with
  | .initComponent _ id (.template u) _ => inferInstanceAs (Decidable (s.TemplateIdFree u id))
  | .addComponent v id (.template u) _ =>
    inferInstanceAs (Decidable (v ≠ some u ∧ s.TemplateIdFree u id))
  | .renameComponent _ c newId => s.decidableRename newId (s.componentAt c).definition
  | .initComponent _ _ (.plugin _) _ | .addComponent _ _ (.plugin _) _ | .initBinding
    .. | .addPlugin .. | .displayPlugin ..
  | .importPlugin .. | .deletePlugin .. | .importClearPlugin .. | .addTemplate .. | .renameTemplate
    .. | .clearTemplate _
  | .exportConfig .. | .exportMember .. | .clearExport .. | .clearComponent
    .. | .importClearComponent ..
  | .moveComponent .. | .setConfig .. | .importComponent .. | .addBinding .. | .clearBinding .. =>
    instDecidableTrue

theorem TemplatesDistinct.free (hs : s.Linked) {w : Write} (h : s.TemplatesDistinct w) {u : Ref}
    {d : DefRef} {id : String} (hw : s.registers w = some (d, id)) (hd : d = .template u)
    (x : Ref) :
    ¬ s.Uses (.definition (.template u)) id x := by
  subst hd
  have hfree : s.TemplateIdFree u id := by
    cases w with
    | initComponent v id' d' data => cases hw; exact h
    | addComponent v id' d' data => cases hw; exact h.2
    | renameComponent v c newId =>
      obtain ⟨hd, rfl⟩ := Prod.ext_iff.mp (Option.some.inj hw)
      simp only [TemplatesDistinct, show (s.componentAt c).definition = _ from hd] at h
      exact h
    | _ => cases hw
  rintro ⟨v, hx, hd⟩
  exact hfree x (hs.mem_allComponents.mpr ⟨v, id, hx⟩) (hs.views.component v id x hx).id hd

theorem TemplatesIndexed.apply (h : s.TemplatesIndexed) (hs : s.Linked) {w : Write}
    (hw : Checked s w) (hd : s.TemplatesDistinct w) : (w.apply s).TemplatesIndexed := by
  intro t
  refine (h t).apply hs (fun i hi => by cases hi) hw ?_
  intro d id hreg hr
  exact hd.free hs hreg hr

/-- The template that a component is added to is not among those that its definition leads to. -/
theorem not_reaches_of_permitted (hs : s.Linked) (hindexed : s.TemplatesIndexed) {w : Write}
    (hw : Permitted s w) (hd : s.TemplatesDistinct w) {t u : Ref}
    (hadd : adds w = some (some t, .template u)) :
    ¬ ReflTransGen s.Contains u t := by
  cases w with
  | initComponent v id d data => exact hw.elim
  | addComponent v id d data =>
    cases hadd
    obtain ⟨_, _, _, hcheck⟩ := hw
    obtain ⟨fuel, users, husers, hu⟩ := hcheck t u rfl rfl
    intro hut
    rcases reflTransGen_iff_eq_or_transGen.mp hut with he | hut
    · exact hd.1 (by rw [he])
    · exact hu (hindexed.mem_recursiveUsage hs husers hut)
  | _ => cases hadd

theorem acyclic_apply (h : Acyclic s.Contains) (hs : s.Linked) (hindexed : s.TemplatesIndexed)
    {w : Write} (hw : Permitted s w)
    (hd : s.TemplatesDistinct w) : Acyclic (w.apply s).Contains := by
  have hsub : ∀ a b, (w.apply s).Contains a b → s.Contains a b ∨
      adds w = some (some a, .template b) :=
    fun a b hab => hs.holds_apply hw.checked hab
  by_cases hadd : ∃ t u, adds w = some (some t, .template u)
  · obtain ⟨t, u, hadd⟩ := hadd
    refine h.insert (x := t) (y := u) ?_ (not_reaches_of_permitted hs hindexed hw hd hadd)
    intro a b hab
    refine (hsub a b hab).imp_right (fun hab => ?_)
    rw [hadd] at hab
    cases hab
    exact ⟨rfl, rfl⟩
  · refine h.mono (fun a b hab => (hsub a b hab).resolve_right ?_)
    exact fun hab => hadd ⟨a, b, hab⟩

/-! ## The recursions over the templates -/

/-- A number that goes down from a template to the templates it contains. -/
theorem Linked.exists_depth (hs : s.Linked) (h : Acyclic s.Contains) :
    ∃ depth : Ref → Nat, (∀ t u, s.Contains t u → depth u < depth t) ∧
      ∀ t, depth t ≤ s.nextRef := by
  obtain ⟨rank, hrank, hbound⟩ := h.exists_rank (Finset.range s.nextRef) (by
    rintro t u ⟨id, c, hc, hd⟩
    have hlt := (hs.views.component _ _ _ hc).definition_lt
    rw [hd] at hlt
    exact Finset.mem_range.mpr hlt)
  exact ⟨rank, hrank, fun t => (hbound t).trans_eq (Finset.card_range _)⟩

/-- A number that goes down from a template to the templates that use it. -/
theorem Linked.exists_height (hs : s.Linked) (h : Acyclic s.Contains) :
    ∃ height : Ref → Nat, (∀ t u, s.Contains t u → height t < height u) ∧
      ∀ t, height t ≤ s.nextRef := by
  obtain ⟨rank, hrank, hbound⟩ := h.swap.exists_rank (Finset.range s.nextRef) (by
    rintro u t ⟨id, c, hc, hd⟩
    obtain ⟨tid, ht⟩ := (hs.views.component _ _ _ hc).live
    exact Finset.mem_range.mpr (hs.templates.lt tid t ht))
  exact ⟨rank, fun t u htu => hrank u t htu, fun t => (hbound t).trans_eq (Finset.card_range _)⟩

theorem TemplatesIndexed.recursiveUsage_ends (h : s.TemplatesIndexed) (hs : s.Linked)
    {height : Ref → Nat} (hheight : ∀ t u, s.Contains t u → height t < height u) {fuel : Nat}
    {t : Ref} (hfuel : height t < fuel) :
    s.getRecursiveTemplateUsage fuel t ≠ .error .stackOverflow := by
  induction fuel generalizing t with
  | zero => exact absurd hfuel (Nat.not_lt_zero _)
  | succ fuel ih =>
    rw [getRecursiveTemplateUsage]
    refine except_bind_avoids (mapM_avoids ?_) (fun _ _ h => by cases h)
    intro c hc
    cases ho : (s.componentAt c).ownerTemplate with
    | none => exact fun h => by cases h
    | some owner =>
      have hlt := hheight owner t ((h.contains_iff hs).mpr ⟨c, hc, ho⟩)
      exact except_bind_avoids (ih (by omega)) (fun _ _ h => by cases h)

end ProjectModel

namespace NamingDryRun.Engine

/-- The fuel that a component of the dry run needs. -/
def needs (depth : Ref → Nat) (component : Component) : Nat :=
  match component.type with
  | none => 0
  | some t => depth t + 1

theorem instantiateComponents_ends {s : ProjectModel} {depth : Ref → Nat}
    (hdepth : ∀ t u, s.Contains t u → depth u < depth t) {fuel : Nat}
    {chain : List ComponentNamingInfo} {component : Component}
    (hfuel : needs depth component < fuel) :
    s.buildNamingDryRunEngine.instantiateComponents fuel chain component ≠
      .error .stackOverflow := by
  induction fuel generalizing chain component with
  | zero => exact absurd hfuel (Nat.not_lt_zero _)
  | succ fuel ih =>
    rw [instantiateComponents]
    cases ht : component.type with
    | none => exact fun h => by cases h
    | some t =>
      refine except_bind_avoids (mapM_avoids ?_) (fun _ _ h => by cases h)
      intro child hchild
      obtain ⟨c, hc, rfl⟩ := List.mem_map.mp hchild
      obtain ⟨id, hid⟩ := OMap.mem_values.mp hc
      refine ih ?_
      simp only [needs, ht] at hfuel
      cases hd : (s.componentAt c).definition with
      | plugin p =>
        simp only [needs, generateComponent, hd, templateOf]
        omega
      | template u =>
        have hlt := hdepth t u ⟨id, c, hid, hd⟩
        simp only [needs, generateComponent, hd, templateOf]
        omega

theorem validate_ends {s : ProjectModel} {depth : Ref → Nat}
    (hdepth : ∀ t u, s.Contains t u → depth u < depth t) {fuel : Nat}
    (hfuel : ∀ t, depth t + 1 < fuel) :
    s.buildNamingDryRunEngine.validate fuel ≠ .error .stackOverflow := by
  rw [validate, generateComponentIds]
  refine except_bind_avoids (except_bind_avoids (mapM_avoids ?_) (fun _ _ h => by cases h)) ?_
  · intro component _
    refine instantiateComponents_ends hdepth ?_
    unfold needs
    split
    · exact lt_of_le_of_lt (Nat.zero_le _) (hfuel 0)
    · exact hfuel _
  · intro ids _
    dsimp only
    split
    · exact fun h => by cases h
    · exact fun h => by cases h

end NamingDryRun.Engine

namespace Resolver

variable {s : ProjectModel}

theorem createDirect_ends (componentId : String) (p : Ref)
    (config : Option CoreComponentConfiguration)
    (external : Bool) : Avoids .stackOverflow (createDirect s componentId p config external) := by
  refine avoids_bind avoids_get (fun view => avoids_bind (avoids_orThrow ?_) (fun _ =>
    avoids_bind (avoids_modify _) (fun _ => avoids_pure _)))
  unfold ResolvedProjectView.getPlugin ResolvedProjectView.checkExist
  split <;> exact fun h => by cases h

theorem createEach_ends {create : Ref → RM Builder} {l : List (String × Ref)}
    (h : ∀ e ∈ l, Avoids .stackOverflow (create e.2)) :
    Avoids .stackOverflow (createEach create l) := by
  induction l with
  | nil => exact avoids_pure _
  | cons e l ih =>
    exact avoids_bind (h e List.mem_cons_self) (fun _ =>
      avoids_bind (ih (fun x hx => h x (List.mem_cons_of_mem _ hx))) (fun _ => avoids_pure _))

theorem configToApply_ends (templateExports : OMap String CoreTemplateConfigExport)
    (config : Option CoreComponentConfiguration) : configToApply templateExports config ≠
      .error .stackOverflow := by
  refine foldlM_avoids (fun map e _ => ?_) _
  cases config <;> exact fun h => by cases h

theorem create_ends {depth : Ref → Nat} (hdepth : ∀ t u, s.Contains t u → depth u < depth t)
    {fuel : Nat} {componentId : String} {d : DefRef} {config : Option CoreComponentConfiguration}
    {external : Bool} (hfuel : ∀ t, d = .template t → depth t < fuel) :
    Avoids .stackOverflow (create s fuel componentId d config external) := by
  induction fuel generalizing componentId d config external with
  | zero =>
    cases d with
    | plugin p => exact createDirect_ends _ _ _ _
    | template t => exact absurd (hfuel t rfl) (Nat.not_lt_zero _)
  | succ fuel ih =>
    cases d with
    | plugin p => exact createDirect_ends _ _ _ _
    | template t =>
      have ht := hfuel t rfl
      refine avoids_bind (avoids_orThrow (configToApply_ends _ _)) (fun applied =>
        avoids_bind (createEach_ends ?_) (fun _ => avoids_pure _))
      intro e he
      refine ih ?_
      intro u hu
      have hlt := hdepth t u ⟨e.1, e.2, OMap.mem_entries.mp he, hu⟩
      omega

mutual

theorem getMemberData_ends (s : ProjectModel) : (builder : Builder) → (id : String) →
    getMemberData s builder id ≠ .error .stackOverflow
  | .direct _, _ => fun h => by cases h
  | .template t children, id => by
    rw [getMemberData]
    split
    · exact fun h => by cases h
    · exact getMemberDataIn_ends s children _ _

theorem getMemberDataIn_ends (s : ProjectModel) : (builders : Builders) →
    (component member : String) →
    getMemberDataIn s builders component member ≠ .error .stackOverflow
  | .nil, _, _ => fun h => by cases h
  | .cons id builder rest, component, member => by
    rw [getMemberDataIn]
    split
    · exact getMemberData_ends s builder member
    · exact getMemberDataIn_ends s rest component member

end

theorem buildViewBindings_ends (v : ViewRef) (builders : Builders) :
    Avoids .stackOverflow (buildViewBindings s v builders) := by
  refine avoids_forEach (fun b _ => ?_)
  exact avoids_bind (avoids_orThrow (getMemberDataIn_ends s builders _ _)) (fun _ =>
    avoids_bind (avoids_orThrow (getMemberDataIn_ends s builders _ _)) (fun _ => avoids_modify _))

mutual

theorem buildInnerBindings_ends (s : ProjectModel) : (builder : Builder) →
    Avoids .stackOverflow (buildInnerBindings s builder)
  | .direct _ => avoids_pure _
  | .template t children =>
    avoids_bind (buildViewBindings_ends (some t) children)
      (fun _ => buildEachInnerBindings_ends s children)

theorem buildEachInnerBindings_ends (s : ProjectModel) : (builders : Builders) →
    Avoids .stackOverflow (buildEachInnerBindings s builders)
  | .nil => avoids_pure _
  | .cons _ builder rest =>
    avoids_bind (buildInnerBindings_ends s builder) (fun _ => buildEachInnerBindings_ends s rest)

end

theorem resolve_ends {depth : Ref → Nat} (hdepth : ∀ t u, s.Contains t u → depth u < depth t)
    {fuel : Nat} (hfuel : ∀ t, depth t < fuel) : Avoids .stackOverflow (resolve s fuel) := by
  refine avoids_bind (avoids_forEach (fun _ _ => avoids_modify _)) (fun _ =>
    avoids_bind (avoids_forEach (fun p _ => ?_))
      (fun _ => avoids_bind (createEach_ends (fun e _ => ?_)) (fun builders =>
      avoids_bind (buildViewBindings_ends none builders)
        (fun _ => buildEachInnerBindings_ends s builders))))
  · exact avoids_bind avoids_get
      (fun _ => avoids_bind (avoids_throwIf (by simp)) (fun _ => avoids_modify _))
  · exact create_ends hdepth (fun t _ => hfuel t)

end Resolver

theorem resolveProject_ends {s : ProjectModel} {depth : Ref → Nat}
    (hdepth : ∀ t u, s.Contains t u → depth u < depth t) {fuel : Nat}
    (hfuel : ∀ t, depth t < fuel) :
    resolveProject fuel s ≠ .error .stackOverflow := by
  intro h
  unfold resolveProject at h
  split at h
  · cases h
  · next e view hrun =>
    cases h
    exact Resolver.resolve_ends hdepth hfuel _ _ hrun

/-! ## Runs -/

/-- Templates without cycles stay so in every run that keeps the ids of the components of a template
distinct and puts no template in itself; the recursions over the templates then end. -/
theorem templates_stay_acyclic {data : CoreProject} {s₀ s : ProjectModel}
    (hload : load data = .ok s₀)
    (hinit : (construct data).Meets ProjectModel.TemplatesDistinct empty)
    (h₀ : Acyclic s₀.Contains) (hrun : Reaches ProjectModel.TemplatesDistinct s₀ s) :
    Acyclic s.Contains ∧ ∃ enough, ∀ fuel ≥ enough,
      (∀ t, s.getRecursiveTemplateUsage fuel t ≠ .error .stackOverflow) ∧
      s.buildNamingDryRunEngine.validate fuel ≠ .error .stackOverflow ∧
      resolveProject fuel s ≠ .error .stackOverflow := by
  have hindexed := (load_keeps (P := ProjectModel.TemplatesIndexed)
    (fun s w hs h hw hd => h.apply hs hw hd) hload hinit
    (fun t => indexedAt_empty _))
  obtain ⟨hs, h, hac⟩ := Reaches.keeps (P := fun s => s.TemplatesIndexed ∧ Acyclic s.Contains)
    (fun s w hs h hw hd => ⟨h.1.apply hs hw.checked hd, acyclic_apply h.2 hs h.1 hw hd⟩)
    ⟨hindexed.1, hindexed.2, h₀⟩ hrun
  obtain ⟨depth, hdepth, hdepth_le⟩ := hs.exists_depth hac
  obtain ⟨height, hheight, hheight_le⟩ := hs.exists_height hac
  refine ⟨hac, s.nextRef + 2, ?_⟩
  intro fuel hfuel
  refine ⟨fun t => h.recursiveUsage_ends hs hheight ?_,
    NamingDryRun.Engine.validate_ends hdepth (fun t => ?_),
    resolveProject_ends hdepth (fun t => ?_)⟩
  · have := hheight_le t
    omega
  · have := hdepth_le t
    omega
  · have := hdepth_le t
    omega

/-! ## Two sessions -/

def setUse (templateId : Option String) (id used : String) : Call :=
  .setComponent templateId id { type := .template, id := used } { x := 1, y := 1 }

/-- Two levels of templates under a component of the project. -/
theorem templates_stay_acyclic_nested : ∃ s₀ s, load lampProject = .ok s₀ ∧
    Reaches ProjectModel.TemplatesDistinct s₀ s ∧ s.allComponents.length = 3 ∧
      Acyclic s.Contains := by
  obtain ⟨s₀, s, hload, hinit, hrun, hlen⟩ := session_reaches
    (by decide +kernel : (session 10 lampProject
      [.setTemplate "T", .setTemplate "U", setLamp (some "U") "lamp", setUse (some "T") "u" "U",
        setUse none "t" "T"]).Ends
        empty (fun s => s.allComponents.length = 3))
    (by decide +kernel : (session 10 lampProject
      [.setTemplate "T", .setTemplate "U", setLamp (some "U") "lamp", setUse (some "T") "u" "U",
        setUse none "t" "T"]).Meets
        ProjectModel.TemplatesDistinct empty)
  have h₀ : Acyclic s₀.Contains := by
    have hempty : ∀ t u, ¬ s₀.Contains t u := by
      have hviews : ∀ v, s₀.views v = {} := by
        cases hload
        exact fun _ => rfl
      rintro t u ⟨id, c, hc, _⟩
      rw [hviews] at hc
      cases hc
    intro t ht
    obtain ⟨_, htu, _⟩ := TransGen.head'_iff.mp ht
    exact hempty _ _ htu
  exact ⟨s₀, s, hload, hrun, hlen, (templates_stay_acyclic hload hinit h₀ hrun).1⟩

/-- A template whose first user is itself has no end of users. -/
theorem recursiveUsage_overflows {s : ProjectModel} {t c : Ref} {l : List Ref}
    (husage : (s.templateAt t).usage.values = c :: l)
    (howner : (s.componentAt c).ownerTemplate = some t) (fuel : Nat) :
    s.getRecursiveTemplateUsage fuel t = .error .stackOverflow := by
  induction fuel with
  | zero => rfl
  | succ fuel ih =>
    rw [getRecursiveTemplateUsage, husage, List.mapM_cons, howner]
    dsimp only
    rw [ih]
    rfl

/-- The users of an unused template are none, so that the template can be put in itself. -/
theorem template_put_in_itself : ∃ s₀ s t, load lampProject = .ok s₀ ∧ Reaches AnyWrite s₀ s ∧
    s.Contains t t ∧ ∀ fuel, s.getRecursiveTemplateUsage fuel t = .error .stackOverflow := by
  obtain ⟨s₀, s, hload, hrun, t, _, c, hc, hd, husage, howner⟩ := session_reaches_any
    (by decide +kernel : (session 10 lampProject [.setTemplate "T", setUse (some "T") "t" "T"]).Ends
      empty (fun s => ∃ t ∈ s.templates.values, ∃ c ∈ (s.views (some t)).components.values,
        (s.componentAt c).definition = .template t ∧ (s.templateAt t).usage.values = [c] ∧
          (s.componentAt c).ownerTemplate = some t))
  obtain ⟨id, hid⟩ := OMap.mem_values.mp hc
  exact ⟨s₀, s, t, hload, hrun, ⟨id, c, hid, hd⟩, recursiveUsage_overflows husage howner⟩

end MylifeHome.Studio.Core
