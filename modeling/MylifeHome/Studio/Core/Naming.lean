import MylifeHome.Studio.Core.Resolver
import MylifeHome.Studio.Core.OpenedProject

/-!
# The dry run and the resolver generate the same ids

Both walk the chains from a component of the project down to the components of
plugins. The dry run folds the ids of a chain from the empty text, the resolver
starts with the id of the project's component as it is.
-/
namespace MylifeHome.Studio.Core

open MylifeHome.Lib NamingDryRun OMap Engine

mutual

/-- The component views that a builder has made, in the order of their creation. -/
def Builder.leaves : Builder → List ComponentView
  | .direct componentView => [componentView]
  | .template _ children => children.leaves

def Builders.leaves : Builders → List ComponentView
  | .nil => []
  | .cons _ builder rest => builder.leaves ++ rest.leaves

end

namespace Resolver

variable {s : ProjectModel}

/-- The leaf instances that `resolveProject` creates, those later overwritten included. -/
def leafComponents (fuel : Nat) (s : ProjectModel) : Except Err (List ComponentView) :=
  match (do
    forEach s.instances.keys (fun instanceName =>
      modify (fun view => { view with instances := view.instances.set instanceName ∅ }))
    forEach s.plugins.values (addPluginView s)
    createProject s fuel :
      RM Builders).run { instances := ∅, plugins := ∅, components := ∅, bindings := ∅ } with
  | .ok builders _ => .ok builders.leaves
  | .error e _ => .error e

/-- The id of the component becomes a part of the id of a leaf: it is a leaf itself, or a
component of its template has the pattern in its id and passes it on. -/
def carriesId (s : ProjectModel) : Nat → Ref → Bool
  | 0, _ => true
  | fuel + 1, c =>
    match (s.componentAt c).definition with
    | .plugin _ => true
    | .template t => (s.views (some t)).components.values.any fun child =>
      Text.includes (s.componentAt child).id idPattern && carriesId s fuel child

/-- No component of the project itself with the pattern in its id gives it on to a leaf. -/
def RootsKept (s : ProjectModel) (fuel : Nat) : Prop :=
  ∀ c ∈ (s.views none).components.values, Text.includes (s.componentAt c).id idPattern = true →
    carriesId s fuel c = false

instance (s : ProjectModel) (fuel : Nat) : Decidable (RootsKept s fuel) :=
  inferInstanceAs (Decidable (∀ c ∈ _, _ → _))

def NoDollar (s : ProjectModel) : Prop := ∀ c, '$' ∉ (s.componentAt c).id.toList

/-! ## Chains -/

theorem chainId_append (chain : List ComponentNamingInfo) (item : ComponentNamingInfo) :
    chainId (chain ++ [item]) = instanceId (chainId chain) item.componentId := by
  simp [chainId, instanceId]

theorem instantiate_plugin (e : Engine) (fuel : Nat) (chain : List ComponentNamingInfo)
    {c : Component} (h : c.type = none) :
    e.instantiateComponents (fuel + 1) chain c = .ok [chain ++ [e.namingInfo c]] := by
  rw [instantiateComponents, h]

theorem instantiate_template (e : Engine) (fuel : Nat) (chain : List ComponentNamingInfo)
    {c : Component} {t : Ref} {parts : List (List (List ComponentNamingInfo))} (h : c.type = some t)
    (hp : (e.children (some t)).mapM (e.instantiateComponents fuel (chain ++ [e.namingInfo c])) =
      .ok parts) :
    e.instantiateComponents (fuel + 1) chain c = .ok parts.flatten := by
  rw [instantiateComponents, h]
  simp only [hp]
  rfl

/-- The ids that the dry run gives to the chains are those of the leaves if `agree` holds, and,
when no id has a dollar, only then. -/
structure Tracks (s : ProjectModel) (agree : Prop) (chains : List (List ComponentNamingInfo))
    (leaves : List ComponentView) : Prop where
  length : chains.length = leaves.length
  enough : agree → chains.map chainId = leaves.map ComponentView.id
  needed : NoDollar s → chains.map chainId = leaves.map ComponentView.id → agree

theorem Tracks.append {agree agree' : Prop} {chains chains' : List (List ComponentNamingInfo)}
    {leaves leaves' : List ComponentView} (h : Tracks s agree chains leaves)
    (h' : Tracks s agree' chains' leaves') :
    Tracks s (agree ∧ agree') (chains ++ chains') (leaves ++ leaves') where
  length := by rw [List.length_append, List.length_append, h.length, h'.length]
  enough ha := by rw [List.map_append, List.map_append, h.enough ha.1, h'.enough ha.2]
  needed hd heq := by
    rw [List.map_append, List.map_append] at heq
    obtain ⟨hfirst, hrest⟩ :=
      List.append_inj heq (by rw [List.length_map, List.length_map, h.length])
    exact ⟨h.needed hd hfirst, h'.needed hd hrest⟩

/-- The ids of a list of builders, from those of each builder. -/
theorem mapM_instantiate {f : Component → Except Err (List (List ComponentNamingInfo))}
    {P : Ref → Prop} {create : Ref → RM Builder} {l : List (String × Ref)}
    (hstep : ∀ e ∈ l, ∀ view b view', (create e.2).run view = .ok b view' →
      ∃ chains, f (generateComponent s e.2) = .ok chains ∧ Tracks s (P e.2) chains b.leaves)
    {view view' : ResolvedProjectView} {bs : Builders}
    (h : (createEach create l).run view = .ok bs view') :
    ∃ parts, (l.map (fun e => generateComponent s e.2)).mapM f = .ok parts ∧
      Tracks s (∀ e ∈ l, P e.2) parts.flatten bs.leaves := by
  induction l generalizing view bs with
  | nil =>
    rw [createEach, run_pure_ok] at h
    obtain ⟨rfl, rfl⟩ := h
    exact ⟨[], rfl, rfl, fun _ => rfl, fun _ _ e he => by cases he⟩
  | cons e l ih =>
    rw [createEach, run_bind_ok] at h
    obtain ⟨b, view₁, hb, h⟩ := h
    rw [run_bind_ok] at h
    obtain ⟨rest, view₂, hr, h⟩ := h
    rw [run_pure_ok] at h
    obtain ⟨rfl, rfl⟩ := h
    obtain ⟨chains, hc, hids⟩ := hstep e List.mem_cons_self _ _ _ hb
    obtain ⟨parts, hp, hrest⟩ := ih (fun e he => hstep e (List.mem_cons_of_mem _ he)) hr
    refine ⟨chains :: parts, ?_, ?_⟩
    · rw [List.map_cons, List.mapM_cons, hc, hp]
      rfl
    · rw [List.flatten_cons, Builders.leaves, List.forall_mem_cons]
      exact hids.append hrest

theorem create_plugin (fuel : Nat) (componentId : String) (p : Ref)
    (config : Option CoreComponentConfiguration) (external : Bool) :
    create s fuel componentId (.plugin p) config external =
      createDirect s componentId p config external := by
  cases fuel <;> rfl

theorem createDirect_ok {componentId : String} {p : Ref}
    {config : Option CoreComponentConfiguration} {external : Bool}
    {view view' : ResolvedProjectView} {b : Builder}
    (h : (createDirect s componentId p config external).run view = .ok b view') :
    ∃ componentView, b = .direct componentView ∧ componentView.id = componentId ∧
      view.plugins.get (s.pluginAt p).id = some componentView.plugin ∧
        view' = view.addComponent componentView := by
  rw [createDirect] at h
  simp only [run_bind_ok, run_get_ok, run_orThrow_ok, run_modify_ok, run_pure_ok] at h
  obtain ⟨_, _, ⟨rfl, rfl⟩, pluginView, _, ⟨hp, rfl⟩, _, _, hview, rfl, rfl⟩ := h
  exact ⟨_, rfl, rfl, ResolvedProjectView.checkExist_ok.mp hp, hview.symm⟩

theorem not_mem_instanceId {componentId templateComponentId : String} (h : '$' ∉ componentId.toList)
    (h' : '$' ∉ templateComponentId.toList) :
    '$' ∉ (instanceId componentId templateComponentId).toList := by
  obtain heq | ⟨before, after, htext, heq⟩ := Text.toList_replace templateComponentId idPattern h
  · rw [instanceId, heq]
    exact h'
  · rw [htext] at h'
    rw [instanceId, heq]
    simp_all

theorem instanceId_empty_ne {id : String} (h : Text.includes id idPattern = true) :
    instanceId "" id ≠ id := by
  obtain ⟨⟨before, after⟩, hcut⟩ := Option.isSome_iff_exists.mp h
  have htext := congrArg List.length (Text.append_of_cut hcut)
  intro heq
  have hlength := congrArg (fun text => text.toList.length) heq
  simp only [instanceId, Text.replace, hcut, String.toList_ofList] at hlength
  simp [Text.substitution, idPattern] at hlength htext
  omega

/-- Two ids of an instance give the same ids to its components if they are the same, or if none
of the components passes them on. -/
theorem children_agree_iff {fuel : Nat} {t : Ref} {c : Ref}
    (hc : (s.componentAt c).definition = .template t) {id id' : String} :
    (id = id' ∨ carriesId s (fuel + 1) c = false → ∀ e ∈ (s.views (some t)).components.entries,
      instanceId id (s.componentAt e.2).id = instanceId id' (s.componentAt e.2).id ∨
        carriesId s fuel e.2 = false) ∧
    ('$' ∉ id.toList → '$' ∉ id'.toList → (∀ e ∈ (s.views (some t)).components.entries,
      instanceId id (s.componentAt e.2).id =
        instanceId id' (s.componentAt e.2).id ∨ carriesId s fuel e.2 = false) →
      id = id' ∨ carriesId s (fuel + 1) c = false) := by
  simp only [carriesId, hc, List.any_eq_false, Bool.and_eq_true, not_and, values, List.mem_map]
  constructor
  · rintro (rfl | h) e he
    · exact .inl rfl
    · cases hin : Text.includes (s.componentAt e.2).id idPattern with
      | true => exact .inr (Bool.eq_false_iff.mpr (h e.2 ⟨e, he, rfl⟩ hin))
      | false => exact .inl ((Text.replace_of_not_includes hin _).trans
        (Text.replace_of_not_includes hin _).symm)
  · intro hd hd' h
    by_contra hne
    rw [not_or] at hne
    refine hne.2 ?_
    rintro _ ⟨e, he, rfl⟩ hin
    obtain heq | hcarries := h e he
    · exact absurd (Text.replace_inj hin hd hd' heq) hne.1
    · simp [hcarries]

/-- A component of a plugin is its only leaf, so that it carries its own id. -/
theorem instantiate_of_createDirect {fuel fuel' : Nat} {c p : Ref}
    (hdef : (s.componentAt c).definition = .plugin p) (chain : List ComponentNamingInfo)
    {componentId : String} {config : Option CoreComponentConfiguration} {external : Bool}
    {view view' : ResolvedProjectView} {b : Builder}
    (h : (createDirect s componentId p config external).run view = .ok b view') :
    ∃ chains, (ofProject s).instantiateComponents (fuel' + 1) chain (generateComponent s c) =
        .ok chains ∧
      Tracks s (chainId (chain ++ [(ofProject s).namingInfo (generateComponent s c)]) =
        componentId ∨ carriesId s fuel c = false) chains b.leaves := by
  obtain ⟨componentView, rfl, hid, _, _⟩ := createDirect_ok h
  have htype : (generateComponent s c).type = none := by simp [generateComponent, hdef, templateOf]
  have hcarries : carriesId s fuel c = true := by cases fuel <;> simp [carriesId, hdef]
  refine ⟨_, instantiate_plugin _ fuel' chain htype, ?_⟩
  constructor <;> simp [Builder.leaves, hid, hcarries]

/-- A created component gets the ids of the chains that the dry run gives it, when it is created
under the id of its own chain or does not pass its id on. -/
theorem instantiate_of_create {fuel fuel' : Nat} (hf : fuel < fuel') (c : Ref)
    (chain : List ComponentNamingInfo) {componentId : String}
    {config : Option CoreComponentConfiguration} {external : Bool}
    {view view' : ResolvedProjectView} {b : Builder}
    (hd : NoDollar s → '$' ∉ componentId.toList ∧
      '$' ∉ (chainId (chain ++ [(ofProject s).namingInfo (generateComponent s c)])).toList)
    (h : (create s fuel componentId (s.componentAt c).definition config external).run view =
      .ok b view') :
    ∃ chains, (ofProject s).instantiateComponents fuel' chain (generateComponent s c) = .ok chains ∧
      Tracks s (chainId (chain ++ [(ofProject s).namingInfo (generateComponent s c)]) =
        componentId ∨
        carriesId s fuel c = false) chains b.leaves := by
  induction fuel generalizing fuel' c chain componentId config external view view' b with
  | zero =>
    obtain ⟨fuel', rfl⟩ : ∃ k, fuel' = k + 1 := ⟨fuel' - 1, by omega⟩
    cases hdef : (s.componentAt c).definition with
    | plugin p =>
      rw [hdef, create_plugin] at h
      exact instantiate_of_createDirect hdef chain h
    | template t => rw [hdef, create, run_throw_ok] at h; exact h.elim
  | succ fuel ih =>
    obtain ⟨fuel', rfl⟩ : ∃ k, fuel' = k + 1 := ⟨fuel' - 1, by omega⟩
    cases hdef : (s.componentAt c).definition with
    | plugin p =>
      rw [hdef, create_plugin] at h
      exact instantiate_of_createDirect hdef chain h
    | template t =>
      rw [hdef, create, run_bind_ok] at h
      obtain ⟨applied, view₁, _, h⟩ := h
      rw [run_bind_ok] at h
      obtain ⟨children, view₂, hchildren, h⟩ := h
      rw [run_pure_ok] at h
      obtain ⟨rfl, rfl⟩ := h
      -- The child's id is the id of its chain, one link longer.
      have hstep : ∀ e ∈ (s.views (some t)).components.entries, ∀ view b view',
          (create s fuel (instanceId componentId (s.componentAt e.2).id)
            (s.componentAt e.2).definition
            (some (spread ((s.componentAt e.2).data.config.getD ∅)
              ((applied.get (s.componentAt e.2).id).getD ∅)))
            false).run view = .ok b view' →
          ∃ chains, (ofProject s).instantiateComponents fuel'
              (chain ++ [(ofProject s).namingInfo (generateComponent s c)])
                (generateComponent s e.2) =
                .ok chains ∧
            Tracks s (instanceId
                (chainId (chain ++ [(ofProject s).namingInfo (generateComponent s c)]))
                (s.componentAt e.2).id = instanceId componentId (s.componentAt e.2).id ∨
              carriesId s fuel e.2 = false) chains b.leaves := by
        intro e _ view b view' hb
        have hid := chainId_append (chain ++ [(ofProject s).namingInfo (generateComponent s c)])
          ((ofProject s).namingInfo (generateComponent s e.2))
        have hlt : fuel < fuel' := by omega
        have hchild := ih hlt e.2 (chain ++ [(ofProject s).namingInfo (generateComponent s c)])
          (fun hs => ⟨not_mem_instanceId (hd hs).1 (hs e.2),
            hid ▸ not_mem_instanceId (hd hs).2 (hs e.2)⟩) hb
        rwa [hid] at hchild
      obtain ⟨parts, hp, hids⟩ := mapM_instantiate (P := fun c' => instanceId
        (chainId (chain ++ [(ofProject s).namingInfo (generateComponent s c)]))
          (s.componentAt c').id =
          instanceId componentId (s.componentAt c').id ∨
            carriesId s fuel c' = false) hstep hchildren
      refine ⟨parts.flatten, instantiate_template _ fuel' chain (t := t)
        (by simp [generateComponent, hdef, templateOf]) ?_, ?_⟩
      · rw [← hp]
        simp only [ofProject, values, List.map_map, Function.comp_def]
      · refine ⟨hids.length, fun hagree => hids.enough ((children_agree_iff hdef).1 hagree),
          fun hs heq => ?_⟩
        exact (children_agree_iff hdef).2 (hd hs).2 (hd hs).1 (hids.needed hs heq)

/-! ## The duplicates of the dry run -/

/-- The map holds, under each id, the chains that have it. -/
theorem get_foldl_addToMap (chains : List (List ComponentNamingInfo))
    (map : OMap String (List (List ComponentNamingInfo))) (id : String) :
    ((chains.foldl addToMap map).get id).getD [] =
      (map.get id).getD [] ++ chains.filter (fun chain => decide (chainId chain = id)) := by
  induction chains generalizing map with
  | nil => simp
  | cons chain chains ih =>
    rw [List.foldl_cons, ih, addToMap, get_set]
    by_cases h : id = chainId chain
    · subst h; simp
    · rw [if_neg h, List.filter_cons_of_neg (by simpa using Ne.symm h)]

theorem duplicateLines_eq_nil {e : Engine} {entry : String × List (List ComponentNamingInfo)} :
    e.duplicateLines entry = [] ↔ entry.2.length < 2 := by
  unfold duplicateLines
  split <;> simp_all

theorem count_chainId (chains : List (List ComponentNamingInfo)) (id : String) :
    (chains.map chainId).count id =
      (chains.filter (fun chain => decide (chainId chain = id))).length := by
  rw [List.count, List.countP_map, List.countP_eq_length_filter]
  rfl

theorem noDuplicates_iff (e : Engine) (chains : List (List ComponentNamingInfo)) :
    (chains.foldl addToMap ∅).entries.flatMap e.duplicateLines = [] ↔
      (chains.map chainId).Nodup := by
  rw [List.flatMap_eq_nil_iff, List.nodup_iff_count_le_one]
  have hget := get_foldl_addToMap chains ∅
  simp only [get_empty, Option.getD_none, List.nil_append] at hget
  constructor
  · intro h id
    rw [count_chainId, ← hget]
    cases hid : (chains.foldl addToMap ∅).get id with
    | none => simp
    | some owners =>
      have := duplicateLines_eq_nil.mp (h (id, owners) (mem_entries.mpr hid))
      exact Nat.le_of_lt_succ this
  · rintro h ⟨id, owners⟩ he
    have hid := mem_entries.mp he
    have hc := h id
    rw [count_chainId, ← hget, hid, Option.getD_some] at hc
    exact duplicateLines_eq_nil.mpr (Nat.lt_succ_of_le hc)

theorem validate_iff {e : Engine} {fuel : Nat} {parts : List (List (List ComponentNamingInfo))}
    (h : (e.children none).mapM (e.instantiateComponents fuel []) = .ok parts) :
    e.validate fuel = .ok () ↔ (parts.flatten.map chainId).Nodup := by
  have hg : e.generateComponentIds fuel = .ok (parts.flatten.foldl addToMap ∅) := by
    rw [generateComponentIds, h]; rfl
  rw [validate, hg, ← noDuplicates_iff e]
  show (if _ then _ else _) = _ ↔ _
  split <;> simp_all

/-! ## The components of the view -/

/-- The view after the creation of some leaves. -/
def putLeaves (leaves : List ComponentView) (view : ResolvedProjectView) : ResolvedProjectView :=
  leaves.foldl ResolvedProjectView.addComponent view

theorem putLeaves_append (l l' : List ComponentView) (view : ResolvedProjectView) :
    putLeaves (l ++ l') view = putLeaves l' (putLeaves l view) := List.foldl_append

theorem putLeaves_plugins (leaves : List ComponentView) (view : ResolvedProjectView) :
    (putLeaves leaves view).plugins = view.plugins := by
  induction leaves generalizing view with
  | nil => rfl
  | cons c leaves ih => exact ih _

theorem putLeaves_bindings (leaves : List ComponentView) (view : ResolvedProjectView) :
    (putLeaves leaves view).bindings = view.bindings := by
  induction leaves generalizing view with
  | nil => rfl
  | cons c leaves ih => exact ih _

theorem createEach_view {create : Ref → RM Builder} {l : List (String × Ref)}
    (hstep : ∀ e ∈ l, ∀ view b view', (create e.2).run view = .ok b view' →
      view' = putLeaves b.leaves view ∧ ∀ leaf ∈ b.leaves, ∃ id, view.plugins.get id =
        some leaf.plugin)
    {view view' : ResolvedProjectView} {bs : Builders}
    (h : (createEach create l).run view = .ok bs view') :
    view' = putLeaves bs.leaves view ∧ ∀ leaf ∈ bs.leaves, ∃ id, view.plugins.get id =
      some leaf.plugin := by
  induction l generalizing view bs with
  | nil =>
    rw [createEach, run_pure_ok] at h
    obtain ⟨rfl, rfl⟩ := h
    exact ⟨rfl, fun leaf hl => by cases hl⟩
  | cons e l ih =>
    rw [createEach, run_bind_ok] at h
    obtain ⟨b, view₁, hb, h⟩ := h
    rw [run_bind_ok] at h
    obtain ⟨rest, view₂, hr, h⟩ := h
    rw [run_pure_ok] at h
    obtain ⟨rfl, rfl⟩ := h
    obtain ⟨rfl, hp⟩ := hstep e List.mem_cons_self _ _ _ hb
    obtain ⟨rfl, hp'⟩ := ih (fun e he => hstep e (List.mem_cons_of_mem _ he)) hr
    rw [putLeaves_plugins] at hp'
    refine ⟨(putLeaves_append _ _ _).symm, ?_⟩
    intro leaf hl
    rcases List.mem_append.mp hl with hl | hl
    · exact hp leaf hl
    · exact hp' leaf hl

theorem create_view {fuel : Nat} {componentId : String} {d : DefRef}
    {config : Option CoreComponentConfiguration} {external : Bool}
    {view view' : ResolvedProjectView} {b : Builder}
    (h : (create s fuel componentId d config external).run view = .ok b view') :
    view' = putLeaves b.leaves view ∧ ∀ leaf ∈ b.leaves, ∃ id, view.plugins.get id =
      some leaf.plugin := by
  have hdirect : ∀ {fuel componentId config external view view' b p},
      (create s fuel componentId (.plugin p) config external).run view = .ok b view' →
      view' = putLeaves b.leaves view ∧ ∀ leaf ∈ b.leaves, ∃ id, view.plugins.get id =
        some leaf.plugin := by
    intro fuel componentId config external view view' b p h
    rw [create_plugin] at h
    obtain ⟨componentView, rfl, _, hp, rfl⟩ := createDirect_ok h
    refine ⟨rfl, ?_⟩
    intro leaf hl
    rw [List.mem_singleton.mp hl]
    exact ⟨_, hp⟩
  induction fuel generalizing componentId d config external view view' b with
  | zero =>
    cases d with
    | plugin p => exact hdirect h
    | template t => rw [create, run_throw_ok] at h; exact h.elim
  | succ fuel ih =>
    cases d with
    | plugin p => exact hdirect h
    | template t =>
      rw [create, run_bind_ok] at h
      obtain ⟨applied, view₁, ha, h⟩ := h
      obtain ⟨_, rfl⟩ := run_orThrow_ok.mp ha
      rw [run_bind_ok] at h
      obtain ⟨children, view₂, hchildren, h⟩ := h
      rw [run_pure_ok] at h
      obtain ⟨rfl, rfl⟩ := h
      exact createEach_view (fun _ _ _ _ _ hb => ih hb) hchildren

/-- With distinct ids each leaf is in the view. -/
theorem get_putLeaves {leaves : List ComponentView} (hn : (leaves.map ComponentView.id).Nodup)
    (view : ResolvedProjectView) {leaf : ComponentView} (h : leaf ∈ leaves) :
    (putLeaves leaves view).components.get leaf.id = some leaf := by
  induction leaves generalizing view with
  | nil => cases h
  | cons c leaves ih =>
    rw [List.map_cons, List.nodup_cons] at hn
    rw [putLeaves, List.foldl_cons]
    rcases List.mem_cons.mp h with rfl | h
    · have hkeep : ∀ (l : List ComponentView) (view : ResolvedProjectView),
          leaf.id ∉ l.map ComponentView.id → view.components.get leaf.id = some leaf →
          (putLeaves l view).components.get leaf.id = some leaf := by
        intro l
        induction l with
        | nil => exact fun m _ hm => hm
        | cons x l ihl =>
          intro view hx hm
          rw [List.map_cons, List.mem_cons, not_or] at hx
          refine ihl _ hx.2 ?_
          show (view.components.set x.id x).get leaf.id = some leaf
          rw [get_set_ne _ _ hx.1, hm]
      exact hkeep leaves _ hn.1 (get_set_self ..)
    · exact ih hn.2 _ h

/-! ## The whole resolution -/

section BuildBindings

variable {P : ResolvedProjectView → Prop} {leaves : List ComponentView}

/-- The bindings of a view are built one by one. -/
theorem buildViewBindings_invariant
    (hstep : ∀ v builders b view view', builders.leaves ⊆ leaves → b ∈ (s.views v).bindings.values →
      P view →
      (buildBinding s builders b).run view = .ok ⟨⟩ view' → P view')
    {v : ViewRef} {builders : Builders} (hl : builders.leaves ⊆ leaves)
    {view view' : ResolvedProjectView} (hP : P view)
    (h : (buildViewBindings s v builders).run view = .ok ⟨⟩ view') : P view' :=
  forEach_invariant (fun b hb view view' => hstep v builders b view view' hl hb) hP h

mutual

theorem buildInnerBindings_invariant
    (hstep : ∀ v builders b view view', builders.leaves ⊆ leaves → b ∈ (s.views v).bindings.values →
      P view →
      (buildBinding s builders b).run view = .ok ⟨⟩ view' → P view') :
    ∀ (b : Builder) {view view' : ResolvedProjectView}, b.leaves ⊆ leaves → P view →
      (buildInnerBindings s b).run view = .ok ⟨⟩ view' → P view'
  | .direct _, _, _, _, hP, h => by
    rw [buildInnerBindings, run_pure_ok] at h
    exact h.2 ▸ hP
  | .template t children, _, _, hl, hP, h => by
    rw [buildInnerBindings, run_bind_ok] at h
    obtain ⟨_, _, h₁, h₂⟩ := h
    exact buildEachInnerBindings_invariant hstep children hl
      (buildViewBindings_invariant hstep hl hP h₁) h₂

theorem buildEachInnerBindings_invariant
    (hstep : ∀ v builders b view view', builders.leaves ⊆ leaves → b ∈ (s.views v).bindings.values →
      P view →
      (buildBinding s builders b).run view = .ok ⟨⟩ view' → P view') :
    ∀ (bs : Builders) {view view' : ResolvedProjectView}, bs.leaves ⊆ leaves → P view →
      (buildEachInnerBindings s bs).run view = .ok ⟨⟩ view' → P view'
  | .nil, _, _, _, hP, h => by
    rw [buildEachInnerBindings, run_pure_ok] at h
    exact h.2 ▸ hP
  | .cons _ b rest, _, _, hl, hP, h => by
    rw [buildEachInnerBindings, run_bind_ok] at h
    obtain ⟨_, _, h₁, h₂⟩ := h
    obtain ⟨hb, hrest⟩ := List.append_subset.mp hl
    exact buildEachInnerBindings_invariant hstep rest hrest
      (buildInnerBindings_invariant hstep b hb hP h₁) h₂

end

/-- What each binding of the project and of the templates keeps, the whole construction keeps. -/
theorem buildBindings_invariant {v : ViewRef} {builders : Builders}
    (hstep : ∀ v builders' b view view', builders'.leaves ⊆ builders.leaves →
      b ∈ (s.views v).bindings.values → P view →
      (buildBinding s builders' b).run view = .ok ⟨⟩ view' → P view')
    {view view' : ResolvedProjectView} (hP : P view)
    (h : (buildBindings s v builders).run view = .ok ⟨⟩ view') : P view' := by
  rw [buildBindings, run_bind_ok] at h
  obtain ⟨_, _, h₁, h₂⟩ := h
  exact buildEachInnerBindings_invariant hstep builders (List.Subset.refl _)
    (buildViewBindings_invariant hstep (List.Subset.refl _) hP h₁) h₂

end BuildBindings

/-- A binding is written under its id, between the members that its ends lead to, and nothing else
changes. -/
theorem buildBinding_ok {builders : Builders} {b : Ref} {view view' : ResolvedProjectView}
    (h : (buildBinding s builders b).run view = .ok ⟨⟩ view') :
    ∃ bindingView : BindingView,
      getMemberDataIn s builders (s.componentAt (s.bindingAt b).sourceComponent).id
        (s.bindingAt b).data.sourceState =
        .ok (bindingView.sourceComponent, bindingView.sourceState) ∧
      getMemberDataIn s builders (s.componentAt (s.bindingAt b).targetComponent).id
        (s.bindingAt b).data.targetAction =
        .ok (bindingView.targetComponent, bindingView.targetAction) ∧
      view' = { view with bindings := view.bindings.set bindingView.id bindingView } := by
  rw [buildBinding] at h
  simp only [run_bind_ok, run_orThrow_ok, run_modify_ok] at h
  obtain ⟨source, _, ⟨hsource, rfl⟩, target, _, ⟨htarget, rfl⟩, rfl⟩ := h
  exact ⟨⟨source.1, source.2, target.1, target.2⟩, hsource, htarget, rfl⟩

/-- What the resolution holds before the components are created. -/
structure Prepared (view : ResolvedProjectView) : Prop where
  no_components : view.components = ∅
  no_bindings : view.bindings = ∅
  no_usage : ∀ n usage, view.instances.get n = some usage → usage = ∅
  located : ∀ id p, view.plugins.get id = some p → view.instances.has p.instanceName = true

theorem addPluginView_prepared {p : Ref} {view view' : ResolvedProjectView} (hv : Prepared view)
    (h : (addPluginView s p).run view = .ok ⟨⟩ view') : Prepared view' := by
  rw [addPluginView] at h
  simp only [run_bind_ok, run_get_ok, run_throwIf_ok, run_modify_ok] at h
  obtain ⟨_, _, ⟨rfl, rfl⟩, _, _, ⟨hi, rfl⟩, rfl⟩ := h
  refine ⟨hv.no_components, hv.no_bindings, hv.no_usage, ?_⟩
  intro id p' hp
  rcases get_set_eq_some.mp hp with ⟨rfl, rfl⟩ | ⟨_, hold⟩
  · simpa using hi
  · exact hv.located id p' hold

theorem setInstance_prepared {n : String} {view : ResolvedProjectView} (hv : Prepared view) :
    Prepared { view with instances := view.instances.set n ∅ } := by
  refine ⟨hv.no_components, hv.no_bindings, ?_, ?_⟩
  · intro m usage hu
    rcases get_set_eq_some.mp hu with ⟨_, rfl⟩ | ⟨_, hold⟩
    · rfl
    · exact hv.no_usage m usage hold
  · intro id p hp
    rw [has_set]
    simp [hv.located id p hp]

/-- A resolved project comes from the leaves of its builders. -/
theorem resolveProject_ok {fuel : Nat} {view : ResolvedProjectView}
    (h : resolveProject fuel s = .ok view) :
    ∃ builders view₀, Prepared view₀ ∧
      (createProject s fuel).run view₀ = .ok builders (putLeaves builders.leaves view₀) ∧
      leafComponents fuel s = .ok builders.leaves ∧
      (∀ leaf ∈ builders.leaves, view₀.instances.has leaf.plugin.instanceName = true) ∧
      (buildBindings s none builders).run (putLeaves builders.leaves view₀) = .ok ⟨⟩ view := by
  have hrun : (resolve s fuel).run
    { instances := ∅, plugins := ∅, components := ∅, bindings := ∅ } =
      .ok ⟨⟩ view := by
    unfold resolveProject at h
    split at h
    · next hr => cases h; exact hr
    · cases h
  rw [resolve, run_bind_ok] at hrun
  obtain ⟨⟨⟩, view₁, h₁, hrun⟩ := hrun
  rw [run_bind_ok] at hrun
  obtain ⟨⟨⟩, view₂, h₂, hrun⟩ := hrun
  rw [run_bind_ok] at hrun
  obtain ⟨builders, view₃, h₃, hrun⟩ := hrun
  have hv₀ : Prepared { instances := ∅, plugins := ∅, components := ∅, bindings := ∅ } :=
    ⟨rfl, rfl, fun n usage hu => by simp at hu, fun id p hp => by simp at hp⟩
  have hv₁ : Prepared view₁ :=
    forEach_invariant (fun _ _ _ _ hw hb => run_modify_ok.mp hb ▸ setInstance_prepared hw) hv₀ h₁
  have hv₂ : Prepared view₂ :=
    forEach_invariant (fun _ _ _ _ hw hb => addPluginView_prepared hw hb) hv₁ h₂
  obtain ⟨rfl, hplugins⟩ := createEach_view (fun _ _ _ _ _ hb => create_view hb) h₃
  refine ⟨builders, view₂, hv₂, h₃, ?_, ?_, hrun⟩
  · have hrun' : (do
        forEach s.instances.keys (fun instanceName =>
          modify (fun view => { view with instances := view.instances.set instanceName ∅ }))
        forEach s.plugins.values (addPluginView s)
        createProject s fuel :
          RM Builders).run { instances := ∅, plugins := ∅, components := ∅, bindings := ∅ } =
          .ok builders (putLeaves builders.leaves view₂) :=
      run_bind_ok.mpr ⟨_, _, h₁, run_bind_ok.mpr ⟨_, _, h₂, h₃⟩⟩
    rw [leafComponents, hrun']
  · intro leaf hl
    obtain ⟨id, hp⟩ := hplugins leaf hl
    exact hv₂.located id _ hp

theorem buildBindings_components {v : ViewRef} {builders : Builders}
    {view view' : ResolvedProjectView}
    (h : (buildBindings s v builders).run view = .ok ⟨⟩ view') : view'.components =
      view.components := by
  refine buildBindings_invariant (P := fun w => w.components = view.components) ?_ rfl h
  intro _ _ b w w' _ _ hw hb
  obtain ⟨bindingView, -, -, rfl⟩ := buildBinding_ok hb
  exact hw

/-- The chains of the dry run of the whole project have the ids of the leaves. -/
theorem instantiate_of_createProject {fuel fuel' : Nat} (hf : fuel < fuel')
    {view view' : ResolvedProjectView} {builders : Builders}
    (h : (createProject s fuel).run view = .ok builders view') :
    ∃ parts, (s.buildNamingDryRunEngine.children none).mapM
        (s.buildNamingDryRunEngine.instantiateComponents fuel' []) = .ok parts ∧
      Tracks s (RootsKept s fuel) parts.flatten builders.leaves := by
  -- The dry run starts with the id from which the pattern is taken away.
  have hraw : ∀ c, chainId ([] ++ [(ofProject s).namingInfo (generateComponent s c)]) =
      instanceId "" (s.componentAt c).id := fun c => rfl
  have hstep : ∀ e ∈ (s.views none).components.entries, ∀ view b view',
      (create s fuel (s.componentAt e.2).id (s.componentAt e.2).definition
        (s.componentAt e.2).data.config
        (s.componentAt e.2).data.external).run view = .ok b view' →
      ∃ chains, (ofProject s).instantiateComponents fuel' [] (generateComponent s e.2) =
        .ok chains ∧
        Tracks s (Text.includes (s.componentAt e.2).id idPattern = true →
          carriesId s fuel e.2 = false) chains b.leaves := by
    intro e he view b view' hb
    obtain ⟨chains, hchains, hids⟩ := instantiate_of_create hf e.2 []
      (fun hs => ⟨hs e.2, not_mem_instanceId (List.not_mem_nil) (hs e.2)⟩) hb
    refine ⟨chains, hchains, hids.length, fun hkept => hids.enough ?_, fun hs heq hin => ?_⟩
    · cases hin : Text.includes (s.componentAt e.2).id idPattern with
      | true => exact .inr (hkept hin)
      | false => exact .inl (Text.replace_of_not_includes hin "")
    · exact (hids.needed hs heq).resolve_left (instanceId_empty_ne hin)
  obtain ⟨parts, hp, hids⟩ := mapM_instantiate
    (P := fun c => Text.includes (s.componentAt c).id idPattern = true →
      carriesId s fuel c = false) hstep h
  refine ⟨parts, ?_, hids.length, fun hkept => hids.enough fun e he => ?_, fun hs heq c hc => ?_⟩
  · rw [← hp]
    simp only [ProjectModel.buildNamingDryRunEngine, ofProject, values, List.map_map,
      Function.comp_def]
  · exact hkept e.2 (List.mem_map.mpr ⟨e, he, rfl⟩)
  · obtain ⟨e, he, rfl⟩ := List.mem_map.mp hc
    exact hids.needed hs heq e he

mutual

/-- A member leads to a component of the builder. -/
theorem mem_of_getMemberData (s : ProjectModel) : ∀ (b : Builder) {id : String}
    {half : ComponentView × String}, getMemberData s b id = .ok half → half.1 ∈ b.leaves
  | .direct _, _, _, h => by
    rw [getMemberData] at h
    cases h
    exact List.mem_singleton_self _
  | .template _ children, _, _, h => by
    rw [getMemberData] at h
    split at h
    · cases h
    · exact mem_of_getMemberDataIn s children h

theorem mem_of_getMemberDataIn (s : ProjectModel) : ∀ (bs : Builders) {component member : String}
    {half : ComponentView × String}, getMemberDataIn s bs component member = .ok half →
      half.1 ∈ bs.leaves
  | .nil, _, _, _, h => by
    rw [getMemberDataIn] at h
    cases h
  | .cons _ b rest, _, _, _, h => by
    rw [getMemberDataIn] at h
    split at h
    · exact List.mem_append_left _ (mem_of_getMemberData s b h)
    · exact List.mem_append_right _ (mem_of_getMemberDataIn s rest h)

end

/-- The bindings of a resolved project, those of nested templates too, join components that it
holds. -/
theorem resolved_bindings_join {fuel : Nat} {s : ProjectModel} {view : ResolvedProjectView}
    {leaves : List ComponentView} (hres : resolveProject fuel s = .ok view)
    (hleaves : leafComponents fuel s = .ok leaves)
    (hn : (leaves.map ComponentView.id).Nodup) : ∀ id b, view.bindings.get id = some b → b.id = id ∧
      view.components.get b.sourceComponent.id = some b.sourceComponent ∧
      view.components.get b.targetComponent.id = some b.targetComponent := by
  obtain ⟨builders, view₀, hv₀, _, hl, _, hbuild⟩ := resolveProject_ok hres
  rw [hleaves] at hl
  cases hl
  have hget : ∀ leaf ∈ builders.leaves, view.components.get leaf.id = some leaf :=
    fun leaf hleaf => by
    rw [buildBindings_components hbuild]
    exact get_putLeaves hn view₀ hleaf
  have hends := buildBindings_invariant (P := fun w => ∀ id b, w.bindings.get id = some b →
    b.id = id ∧ b.sourceComponent ∈ builders.leaves ∧
      b.targetComponent ∈ builders.leaves) ?_ ?_ hbuild
  · intro id b hb
    obtain ⟨hid, hs, ht⟩ := hends id b hb
    exact ⟨hid, hget _ hs, hget _ ht⟩
  · intro v builders' b w w' hsub _ hw hrun
    obtain ⟨bindingView, hs, ht, rfl⟩ := buildBinding_ok hrun
    intro id x hx
    rcases get_set_eq_some.mp hx with ⟨rfl, rfl⟩ | ⟨-, hx⟩
    · exact ⟨rfl, hsub (mem_of_getMemberDataIn s builders' hs),
        hsub (mem_of_getMemberDataIn s builders' ht)⟩
    · exact hw id x hx
  · intro id b hb
    rw [putLeaves_bindings, hv₀.no_bindings] at hb
    cases hb

end Resolver

/-! ## Two projects -/

def samplePlugin : CorePluginData :=
  { name := "p", module := "m", usage := .logic, version := "1", description := "", members := ∅,
    config := ∅,
    instanceName := "i", toolboxDisplay := .show }

def sampleComponent (type : CoreComponentDefinitionType) (id : String) : CoreComponentData :=
  { definition := { type := type, id := id }, position := { x := 1, y := 1 }, config := some ∅,
    external := false }

/-- A component of the sample plugin, and one of a template with one component of it. -/
def sampleProject (direct used inner : String) : CoreProject where
  components := .ofList [(direct, sampleComponent .plugin "i:m.p"),
    (used, sampleComponent .template "T")]
  bindings := ∅
  plugins := .ofList [("i:m.p", samplePlugin)]
  templates := .ofList [("T",
    { components := .ofList [(inner, sampleComponent .plugin "i:m.p")], bindings := ∅,
      «exports» := { config := ∅, members := ∅ } })]

end MylifeHome.Studio.Core
