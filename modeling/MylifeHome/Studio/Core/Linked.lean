import MylifeHome.Studio.Core.Editing

/-!
# The links of the object graph

What every model keeps whatever is written: an object is found under its own id,
a plugin and its instance know each other, an object of a view knows the view,
and references are never given twice. `Checked` is what the methods have
checked of a write before they make it.
-/
namespace MylifeHome.Studio.Core

open MylifeHome.Lib OMap Function

namespace ProjectModel

variable {s : ProjectModel}

/-- The project, or a template of the project. -/
def Live (s : ProjectModel) : ViewRef → Prop
  | none => True
  | some t => ∃ id, s.templates.get id = some t

/-! ## Usage -/

theorem mapUsage_pluginAt (d : DefRef) (f : OMap String Ref → OMap String Ref) (p : Ref) :
    (s.mapUsage d f).pluginAt p =
      { s.pluginAt p with
        usage := if d = .plugin p then f (s.pluginAt p).usage else (s.pluginAt p).usage } := by
  cases d with
  | plugin q =>
    by_cases h : p = q
    · subst h; simp [mapUsage]
    · simp [mapUsage, update_of_ne h, Ne.symm h]
  | template t => simp [mapUsage]

theorem mapUsage_templateAt (d : DefRef) (f : OMap String Ref → OMap String Ref) (t : Ref) :
    (s.mapUsage d f).templateAt t =
      { s.templateAt t with
        usage := if d = .template t then f (s.templateAt t).usage
          else (s.templateAt t).usage } := by
  cases d with
  | plugin q => simp [mapUsage]
  | template u =>
    by_cases h : t = u
    · subst h; simp [mapUsage]
    · simp [mapUsage, update_of_ne h, Ne.symm h]

/-- The instance that a definition tells of its usage. -/
def usageInstance (s : ProjectModel) : DefRef → Option Ref
  | .plugin p => some (s.pluginAt p).instance
  | .template _ => none

theorem mapUsage_instanceAt (d : DefRef) (f : OMap String Ref → OMap String Ref) (i : Ref) :
    (s.mapUsage d f).instanceAt i =
      { s.instanceAt i with
        usage := if s.usageInstance d = some i then f (s.instanceAt i).usage
          else (s.instanceAt i).usage } := by
  cases d with
  | plugin p =>
    by_cases h : i = (s.pluginAt p).instance
    · subst h; simp [mapUsage, usageInstance]
    · simp [mapUsage, usageInstance, update_of_ne h, Ne.symm h]
  | template t => simp [mapUsage, usageInstance]

/-! ## Plugins and instances -/

structure PluginsLinked (s : ProjectModel) : Prop where
  id : ∀ id p, s.plugins.get id = some p → (s.pluginAt p).id = id
  lt : ∀ id p, s.plugins.get id = some p → p < s.nextRef
  «instance» : ∀ id p, s.plugins.get id = some p →
    s.instances.get (s.instanceAt (s.pluginAt p).instance).instanceName =
      some (s.pluginAt p).instance ∧
      (s.instanceAt (s.pluginAt p).instance).plugins.get id = some p
  name : ∀ n i, s.instances.get n = some i → (s.instanceAt i).instanceName = n
  instance_lt : ∀ n i, s.instances.get n = some i → i < s.nextRef
  plugins : ∀ n i id p, s.instances.get n = some i → (s.instanceAt i).plugins.get id = some p →
    s.plugins.get id = some p ∧ (s.pluginAt p).instance = i
  data : ∀ id, s.dataPlugins.get id = s.plugins.get id

/-- The plugins and their instances are the same, but for their usage and their data. -/
structure SamePlugins (s s' : ProjectModel) : Prop where
  plugins : s'.plugins = s.plugins
  instances : s'.instances = s.instances
  dataPlugins : s'.dataPlugins = s.dataPlugins
  plugin : ∀ p, (s'.pluginAt p).id = (s.pluginAt p).id ∧ (s'.pluginAt p).instance =
    (s.pluginAt p).instance
  «instance» : ∀ i, (s'.instanceAt i).instanceName = (s.instanceAt i).instanceName ∧
    (s'.instanceAt i).plugins = (s.instanceAt i).plugins
  nextRef : s.nextRef ≤ s'.nextRef

theorem SamePlugins.refl (s : ProjectModel) : SamePlugins s s :=
  ⟨rfl, rfl, rfl, fun _ => ⟨rfl, rfl⟩, fun _ => ⟨rfl, rfl⟩, le_refl _⟩

theorem SamePlugins.trans {s s' s'' : ProjectModel} (h : SamePlugins s s')
    (h' : SamePlugins s' s'') :
    SamePlugins s s'' :=
  ⟨h'.plugins.trans h.plugins, h'.instances.trans h.instances, h'.dataPlugins.trans h.dataPlugins,
    fun p => ⟨(h'.plugin p).1.trans (h.plugin p).1, (h'.plugin p).2.trans (h.plugin p).2⟩,
    fun i => ⟨(h'.instance i).1.trans (h.instance i).1, (h'.instance i).2.trans (h.instance i).2⟩,
    le_trans h.nextRef h'.nextRef⟩

theorem PluginsLinked.congr {s' : ProjectModel} (h : PluginsLinked s) (hs : SamePlugins s s') :
    PluginsLinked s' := by
  refine ⟨?_, ?_, ?_, ?_, ?_, ?_, ?_⟩
  · intro id p h'
    rw [(hs.plugin p).1]
    exact h.id id p (hs.plugins ▸ h')
  · intro id p h'
    exact lt_of_lt_of_le (h.lt id p (hs.plugins ▸ h')) hs.nextRef
  · intro id p h'
    rw [(hs.plugin p).2, (hs.instance _).1, (hs.instance _).2, hs.instances]
    exact h.instance id p (hs.plugins ▸ h')
  · intro n i h'
    rw [(hs.instance i).1]
    exact h.name n i (hs.instances ▸ h')
  · intro n i h'
    exact lt_of_lt_of_le (h.instance_lt n i (hs.instances ▸ h')) hs.nextRef
  · intro n i id p h' h''
    rw [hs.plugins, (hs.plugin p).2]
    exact h.plugins n i id p (hs.instances ▸ h') ((hs.instance i).2 ▸ h'')
  · intro id
    rw [hs.dataPlugins, hs.plugins]
    exact h.data id

/-! ## Templates -/

structure TemplatesLinked (s : ProjectModel) : Prop where
  id : ∀ id t, s.templates.get id = some t → (s.templateAt t).id = id
  lt : ∀ id t, s.templates.get id = some t → t < s.nextRef
  data : ∀ id, s.dataTemplates.get id = s.templates.get id

/-- The templates are the same, but for their usage and their exports. -/
structure SameTemplates (s s' : ProjectModel) : Prop where
  templates : s'.templates = s.templates
  dataTemplates : s'.dataTemplates = s.dataTemplates
  template : ∀ t, (s'.templateAt t).id = (s.templateAt t).id
  nextRef : s.nextRef ≤ s'.nextRef

theorem SameTemplates.refl (s : ProjectModel) : SameTemplates s s :=
  ⟨rfl, rfl, fun _ => rfl, le_refl _⟩

theorem SameTemplates.trans {s s' s'' : ProjectModel} (h : SameTemplates s s')
    (h' : SameTemplates s' s'') :
    SameTemplates s s'' :=
  ⟨h'.templates.trans h.templates, h'.dataTemplates.trans h.dataTemplates,
    fun t => (h'.template t).trans (h.template t), le_trans h.nextRef h'.nextRef⟩

theorem SameTemplates.live {s' : ProjectModel} (h : SameTemplates s s') (v : ViewRef) : s'.Live v ↔
    s.Live v := by
  cases v with
  | none => exact Iff.rfl
  | some t => simp [Live, h.templates]

theorem TemplatesLinked.congr {s' : ProjectModel} (h : TemplatesLinked s)
    (hs : SameTemplates s s') :
    TemplatesLinked s' := by
  refine ⟨?_, ?_, ?_⟩
  · intro id t h'
    rw [hs.template]
    exact h.id id t (hs.templates ▸ h')
  · intro id t h'
    exact lt_of_lt_of_le (h.lt id t (hs.templates ▸ h')) hs.nextRef
  · intro id
    rw [hs.dataTemplates, hs.templates]
    exact h.data id

/-! ## Views -/

def DefRef.ref : DefRef → Ref
  | .plugin p => p
  | .template t => t

/-- What a component of a view is linked to. -/
structure ComponentLinked (s : ProjectModel) (v : ViewRef) (id : String) (c : Ref) : Prop where
  live : s.Live v
  lt : c < s.nextRef
  id : (s.componentAt c).id = id
  owner : (s.componentAt c).ownerTemplate = v
  definition_lt : DefRef.ref (s.componentAt c).definition < s.nextRef
  definition_type : ∀ p, (s.componentAt c).definition = .plugin p →
    (s.componentAt c).data.definition.type = .plugin

/-- What a binding of a view is linked to. -/
structure BindingLinked (s : ProjectModel) (v : ViewRef) (id : String) (b : Ref) : Prop where
  live : s.Live v
  lt : b < s.nextRef
  id : (s.bindingAt b).id = id
  owner : (s.bindingAt b).ownerTemplate = v

structure ViewsLinked (s : ProjectModel) : Prop where
  component : ∀ v id c, (s.views v).components.get id = some c → s.ComponentLinked v id c
  binding : ∀ v id b, (s.views v).bindings.get id = some b → s.BindingLinked v id b
  data : ∀ v id, (s.views v).dataComponents.get id = (s.views v).components.get id
  sets : ∀ c b, b ∈ s.allBindings c →
    b < s.nextRef ∧ (s.bindingAt b).ownerTemplate = (s.componentAt c).ownerTemplate

structure Linked (s : ProjectModel) : Prop where
  plugins : s.PluginsLinked
  templates : s.TemplatesLinked
  views : s.ViewsLinked

/-! ## Writes that change no plugin and no template -/

structure SameDefinitions (s s' : ProjectModel) : Prop where
  plugins : SamePlugins s s'
  templates : SameTemplates s s'

theorem SameDefinitions.refl (s : ProjectModel) : SameDefinitions s s := ⟨.refl s, .refl s⟩

theorem SameDefinitions.trans {s s' s'' : ProjectModel} (h : SameDefinitions s s')
    (h' : SameDefinitions s' s'') :
    SameDefinitions s s'' := ⟨h.plugins.trans h'.plugins, h.templates.trans h'.templates⟩

theorem SameDefinitions.foldl {f : ProjectModel → Ref → ProjectModel}
    (hf : ∀ s r, SameDefinitions s (f s r)) (l : List Ref)
    (s : ProjectModel) : SameDefinitions s (l.foldl f s) := by
  induction l generalizing s with
  | nil => exact .refl s
  | cons r l ih => exact (hf s r).trans (ih (f s r))

section

variable (s : ProjectModel)

/-- A write of views, components and bindings. -/
theorem sameDefinitions_contents (views : ViewRef → ViewModel) (componentAt : Ref → ComponentModel)
    (bindingAt : Ref → BindingModel) {n : Nat} (hn : s.nextRef ≤ n) :
    SameDefinitions s { s with views, componentAt, bindingAt, nextRef := n } :=
  ⟨⟨rfl, rfl, rfl, fun _ => ⟨rfl, rfl⟩, fun _ => ⟨rfl, rfl⟩, hn⟩, ⟨rfl, rfl, fun _ => rfl, hn⟩⟩

theorem sameDefinitions_mapUsage (d : DefRef) (f : OMap String Ref → OMap String Ref) :
    SameDefinitions s (s.mapUsage d f) := by
  refine ⟨⟨rfl, rfl, rfl, ?_, ?_, le_refl _⟩, ⟨rfl, rfl, ?_, le_refl _⟩⟩
  · intro p
    rw [mapUsage_pluginAt]
    exact ⟨rfl, rfl⟩
  · intro i
    rw [mapUsage_instanceAt]
    exact ⟨rfl, rfl⟩
  · intro t
    rw [mapUsage_templateAt]

theorem sameDefinitions_setPluginData (p : Ref) (data : CorePluginData) :
    SameDefinitions s (s.setPluginData p data) := by
  refine ⟨⟨rfl, rfl, rfl, ?_, fun _ => ⟨rfl, rfl⟩, le_refl _⟩, ⟨rfl, rfl, fun _ => rfl, le_refl _⟩⟩
  intro q
  by_cases h : q = p
  · subst h; simp [setPluginData, updPlugin]
  · simp [setPluginData, updPlugin, update_of_ne h]

theorem sameDefinitions_setExports (t : Ref) (templateExports : CoreTemplateExports) :
    SameDefinitions s (s.setExports t templateExports) := by
  refine ⟨⟨rfl, rfl, rfl, fun _ => ⟨rfl, rfl⟩, fun _ => ⟨rfl, rfl⟩, le_refl _⟩,
    ⟨rfl, rfl, ?_, le_refl _⟩⟩
  intro u
  by_cases h : u = t
  · subst h; simp [setExports, updTemplate]
  · simp [setExports, updTemplate, update_of_ne h]

theorem sameDefinitions_addComponent (v : ViewRef) (id : String) (d : DefRef)
    (data : CoreComponentData) :
    SameDefinitions s (s.addComponent v id d data) := by
  refine .trans ?_ (sameDefinitions_contents _ _ _ _ (le_refl _))
  exact (sameDefinitions_contents s _ _ _ (Nat.le_succ _)).trans (sameDefinitions_mapUsage _ _ _)

theorem sameDefinitions_dropComponent (v : ViewRef) (c : Ref) :
    SameDefinitions s (s.dropComponent v c) := by
  refine .trans ?_ (sameDefinitions_contents _ _ _ _ (le_refl _))
  exact (sameDefinitions_contents s _ _ _ (le_refl _)).trans (sameDefinitions_mapUsage _ _ _)

theorem sameDefinitions_setComponentData (c : Ref) (data : CoreComponentData) :
    SameDefinitions s (s.setComponentData c data) := sameDefinitions_contents s _ _ _ (le_refl _)

theorem sameDefinitions_addBinding (v : ViewRef) (key : String) (data : CoreBindingData)
    (source target : Ref) :
    SameDefinitions s (s.addBinding v key data source target) :=
  sameDefinitions_contents s _ _ _ (Nat.le_succ _)

theorem sameDefinitions_dropBinding (v : ViewRef) (b : Ref) :
    SameDefinitions s (s.dropBinding v b) :=
  sameDefinitions_contents s _ _ _ (le_refl _)

theorem sameDefinitions_rebuildBinding (v : ViewRef) (b : Ref) :
    SameDefinitions s (s.rebuildBinding v b) :=
  sameDefinitions_contents s _ _ _ (le_refl _)

theorem sameDefinitions_renameComponentAt (v : ViewRef) (c : Ref) (newId : String) :
    SameDefinitions s (s.renameComponentAt v c newId) := by
  refine .trans ?_ (sameDefinitions_contents _ _ _ _ (le_refl _))
  refine .trans ?_ (sameDefinitions_mapUsage _ _ _)
  exact (sameDefinitions_dropComponent s v c).trans (sameDefinitions_contents _ _ _ _ (le_refl _))

theorem sameDefinitions_renameComponent (v : ViewRef) (c : Ref) (newId : String) :
    SameDefinitions s (s.renameComponent v c newId) := by
  have h := (sameDefinitions_renameComponentAt s v c newId).trans
    (SameDefinitions.foldl (fun s b => sameDefinitions_rebuildBinding s v b)
      ((s.renameComponentAt v c newId).allBindings c) _)
  cases v with
  | none => exact h
  | some t => exact h.trans (sameDefinitions_setExports _ _ _)

theorem sameDefinitions_deleteContents (t : Ref) : SameDefinitions s (s.deleteContents t) :=
  (SameDefinitions.foldl (fun s c => sameDefinitions_dropComponent s (some t) c) _ s).trans
    (SameDefinitions.foldl (fun s b => sameDefinitions_dropBinding s (some t) b) _ _)

end

/-! ## Writes of plugins -/

theorem PluginsLinked.getOrCreateInstance (h : s.PluginsLinked) (n : String) :
    (s.getOrCreateInstance n).1.PluginsLinked ∧
      (s.getOrCreateInstance n).1.instances.get n = some (s.getOrCreateInstance n).2 := by
  unfold ProjectModel.getOrCreateInstance
  cases hn : s.instances.get n with
  | some i => exact ⟨h, hn⟩
  | none =>
    dsimp only [newInstance]
    refine ⟨⟨h.id, ?_, ?_, ?_, ?_, ?_, h.data⟩, by simp⟩
    · exact fun id p hp => Nat.lt_succ_of_lt (h.lt id p hp)
    · intro id p hp
      dsimp only at hp ⊢
      obtain ⟨hi, hip⟩ := h.instance id p hp
      have hne : (s.pluginAt p).instance ≠ s.nextRef := Nat.ne_of_lt (h.instance_lt _ _ hi)
      rw [update_of_ne hne]
      refine ⟨?_, hip⟩
      rw [get_set_ne]
      · exact hi
      · intro he
        rw [he, hn] at hi
        cases hi
    · intro m i hi
      dsimp only at hi ⊢
      rcases get_set_eq_some.mp hi with ⟨rfl, rfl⟩ | ⟨_, hold⟩
      · simp
      · rw [update_of_ne (Nat.ne_of_lt (h.instance_lt _ _ hold))]
        exact h.name m i hold
    · intro m i hi
      rcases get_set_eq_some.mp hi with ⟨_, rfl⟩ | ⟨_, hold⟩
      · exact Nat.lt_succ_self _
      · exact Nat.lt_succ_of_lt (h.instance_lt m i hold)
    · intro m i id p hi hip
      dsimp only at hi hip ⊢
      rcases get_set_eq_some.mp hi with ⟨_, rfl⟩ | ⟨_, hold⟩
      · rw [update_self] at hip
        cases hip
      · rw [update_of_ne (Nat.ne_of_lt (h.instance_lt _ _ hold))] at hip
        exact h.plugins m i id p hold hip

theorem PluginsLinked.addPluginTo (h : s.PluginsLinked) {n id : String} {i : Ref}
    (hi : s.instances.get n = some i) (hid : s.plugins.get id = none) (data : CorePluginData) :
    (s.addPluginTo i id data).PluginsLinked := by
  unfold ProjectModel.addPluginTo
  dsimp only [newPlugin, updInstance]
  have hname : ∀ j, (update s.instanceAt i
      { s.instanceAt i with plugins := (s.instanceAt i).plugins.set id s.nextRef } j).instanceName =
        (s.instanceAt j).instanceName := by
    intro j
    by_cases hj : j = i
    · subst hj; simp
    · rw [update_of_ne hj]
  have hold : ∀ id' p, s.plugins.get id' = some p →
      update s.pluginAt s.nextRef { «instance» := i, id := id, data := data, usage := ∅ } p =
        s.pluginAt p :=
    fun id' p hp => update_of_ne (Nat.ne_of_lt (h.lt id' p hp)) _ _
  refine ⟨?_, ?_, ?_, ?_, ?_, ?_, ?_⟩
  · intro id' p hp
    rcases get_set_eq_some.mp hp with ⟨rfl, rfl⟩ | ⟨_, hp⟩
    · simp
    · dsimp only
      rw [hold id' p hp]
      exact h.id id' p hp
  · intro id' p hp
    rcases get_set_eq_some.mp hp with ⟨_, rfl⟩ | ⟨_, hp⟩
    · exact Nat.lt_succ_self _
    · exact Nat.lt_succ_of_lt (h.lt id' p hp)
  · intro id' p hp
    dsimp only at hp ⊢
    rcases get_set_eq_some.mp hp with ⟨rfl, rfl⟩ | ⟨hne, hp⟩
    · rw [update_self, hname, update_self]
      dsimp only
      rw [h.name n i hi]
      exact ⟨hi, by simp⟩
    · rw [hold id' p hp, hname]
      obtain ⟨hin, hip⟩ := h.instance id' p hp
      refine ⟨hin, ?_⟩
      by_cases hj : (s.pluginAt p).instance = i
      · rw [hj, update_self, get_set_ne _ _ hne]
        exact hj ▸ hip
      · rw [update_of_ne hj]
        exact hip
  · intro m j hj
    dsimp only
    rw [hname]
    exact h.name m j hj
  · exact fun m j hj => Nat.lt_succ_of_lt (h.instance_lt m j hj)
  · intro m j id' p hj hjp
    dsimp only at hj hjp ⊢
    by_cases hji : j = i
    · subst hji
      rw [update_self] at hjp
      rcases get_set_eq_some.mp hjp with ⟨rfl, rfl⟩ | ⟨hne, hjp⟩
      · simp
      · obtain ⟨hp, hpi⟩ := h.plugins m j id' p hj hjp
        rw [get_set_ne _ _ hne, hold id' p hp]
        exact ⟨hp, hpi⟩
    · rw [update_of_ne hji] at hjp
      obtain ⟨hp, hpi⟩ := h.plugins m j id' p hj hjp
      have hne : id' ≠ id := by
        rintro rfl
        rw [hid] at hp
        cases hp
      rw [get_set_ne _ _ hne, hold id' p hp]
      exact ⟨hp, hpi⟩
  · intro id'
    dsimp only
    rw [get_set, get_set, h.data id']

theorem PluginsLinked.addPlugin (h : s.PluginsLinked) {id : String} (hid : s.plugins.get id = none)
    (data : CorePluginData) : (s.addPlugin id data).PluginsLinked := by
  obtain ⟨hs, hi⟩ := h.getOrCreateInstance data.instanceName
  refine hs.addPluginTo hi ?_ data
  unfold ProjectModel.getOrCreateInstance
  split <;> exact hid

theorem sameTemplates_addPlugin (s : ProjectModel) (id : String) (data : CorePluginData) :
    SameTemplates s (s.addPlugin id data) := by
  have h₁ : SameTemplates s (s.getOrCreateInstance data.instanceName).1 := by
    unfold ProjectModel.getOrCreateInstance
    split
    · exact .refl s
    · exact ⟨rfl, rfl, fun _ => rfl, Nat.le_succ _⟩
  exact h₁.trans ⟨rfl, rfl, fun _ => rfl, Nat.le_succ _⟩

theorem unregisterPlugin_instanceName (s : ProjectModel) (id : String) (p i : Ref) :
    ((s.unregisterPlugin id p).instanceAt i).instanceName = (s.instanceAt i).instanceName := by
  by_cases hi : i = (s.pluginAt p).instance
  · subst hi; simp [unregisterPlugin, updInstance]
  · simp [unregisterPlugin, updInstance, update_of_ne hi]

theorem get_unregisterPlugin_plugins (s : ProjectModel) {id id' : String} {p q i : Ref} :
    ((s.unregisterPlugin id p).instanceAt i).plugins.get id' = some q ↔
      (s.instanceAt i).plugins.get id' = some q ∧ (i = (s.pluginAt p).instance → id' ≠ id) := by
  by_cases hi : i = (s.pluginAt p).instance
  · subst hi
    simp [unregisterPlugin, updInstance, get_delete_eq_some, and_comm]
  · simp [unregisterPlugin, updInstance, hi]

theorem PluginsLinked.unregisterPlugin (h : s.PluginsLinked) {id : String} {p : Ref}
    (hp : s.plugins.get id = some p) :
    (s.unregisterPlugin id p).PluginsLinked := by
  have hget : ∀ {id' q}, (s.unregisterPlugin id p).plugins.get id' = some q ↔ id' ≠ id ∧
      s.plugins.get id' = some q :=
    get_delete_eq_some
  refine ⟨?_, ?_, ?_, ?_, h.instance_lt, ?_, ?_⟩
  · exact fun id' q hq => h.id id' q (hget.mp hq).2
  · exact fun id' q hq => h.lt id' q (hget.mp hq).2
  · intro id' q hq
    obtain ⟨hne, hq⟩ := hget.mp hq
    rw [unregisterPlugin_instanceName]
    exact ⟨(h.instance id' q hq).1,
      (get_unregisterPlugin_plugins s).mpr ⟨(h.instance id' q hq).2, fun _ => hne⟩⟩
  · intro n i hi
    rw [unregisterPlugin_instanceName]
    exact h.name n i hi
  · intro n i id' q hi hq
    obtain ⟨hq, hne⟩ := (get_unregisterPlugin_plugins s).mp hq
    obtain ⟨hq', hqi⟩ := h.plugins n i id' q hi hq
    refine ⟨hget.mpr ⟨?_, hq'⟩, hqi⟩
    rintro rfl
    rw [hp, Option.some.injEq] at hq'
    subst hq'
    exact hne hqi.symm rfl
  · intro id'
    show (s.dataPlugins.delete id).get id' = (s.plugins.delete id).get id'
    rw [get_delete, get_delete, h.data]

/-- An instance goes only if no plugin is left on it. -/
theorem PluginsLinked.dropEmptyInstance (h : s.PluginsLinked) {i : Ref}
    (hreg : s.instances.get (s.instanceAt i).instanceName = some i) :
    (s.dropEmptyInstance i).PluginsLinked := by
  have hget : ∀ {n j}, (s.dropEmptyInstance i).instances.get n = some j →
      s.instances.get n = some j := by
    intro n j hj
    dsimp only [ProjectModel.dropEmptyInstance] at hj
    split at hj
    · exact (get_delete_eq_some.mp hj).2
    · exact hj
  refine ⟨h.id, h.lt, ?_, fun n j hj => h.name n j (hget hj),
    fun n j hj => h.instance_lt n j (hget hj),
    fun n j id p hj => h.plugins n j id p (hget hj), h.data⟩
  intro id p hp
  obtain ⟨hi, hip⟩ := h.instance id p hp
  refine ⟨?_, hip⟩
  dsimp only [ProjectModel.dropEmptyInstance]
  split
  · next hempty =>
    refine get_delete_eq_some.mpr ⟨?_, hi⟩
    intro he
    rw [he, hreg, Option.some.injEq] at hi
    rw [← hi, size_eq_zero.mp hempty] at hip
    cases hip
  · exact hi

theorem PluginsLinked.dropPlugin (h : s.PluginsLinked) {id : String} {p : Ref}
    (hp : s.plugins.get id = some p) :
    (s.dropPlugin id p).PluginsLinked := by
  refine (h.unregisterPlugin hp).dropEmptyInstance ?_
  rw [unregisterPlugin_instanceName]
  exact (h.instance id p hp).1

theorem sameTemplates_dropPlugin (s : ProjectModel) (id : String) (p : Ref) :
    SameTemplates s (s.dropPlugin id p) := ⟨rfl, rfl, fun _ => rfl, le_refl _⟩

/-! ## Writes of templates -/

theorem TemplatesLinked.addTemplate (h : s.TemplatesLinked) (id : String)
    (templateExports : CoreTemplateExports) :
    (s.addTemplate id templateExports).TemplatesLinked := by
  have hget : ∀ {id' t}, (s.addTemplate id templateExports).templates.get id' = some t ↔
      (id' = id ∧ s.nextRef = t) ∨ (id' ≠ id ∧ s.templates.get id' = some t) := get_set_eq_some
  refine ⟨?_, ?_, ?_⟩
  · intro id' t ht
    rcases hget.mp ht with ⟨rfl, rfl⟩ | ⟨_, hold⟩
    · simp [ProjectModel.addTemplate, newTemplate]
    · simp only [ProjectModel.addTemplate, newTemplate]
      rw [update_of_ne (Nat.ne_of_lt (h.lt id' t hold))]
      exact h.id id' t hold
  · intro id' t ht
    rcases hget.mp ht with ⟨_, rfl⟩ | ⟨_, hold⟩
    · exact Nat.lt_succ_self _
    · exact Nat.lt_succ_of_lt (h.lt id' t hold)
  · intro id'
    show (s.dataTemplates.set id s.nextRef).get id' = (s.templates.set id s.nextRef).get id'
    rw [get_set, get_set, h.data]

theorem samePlugins_addTemplate (s : ProjectModel) (id : String)
    (templateExports : CoreTemplateExports) :
    SamePlugins s (s.addTemplate id templateExports) :=
  ⟨rfl, rfl, rfl, fun _ => ⟨rfl, rfl⟩, fun _ => ⟨rfl, rfl⟩, Nat.le_succ _⟩

theorem TemplatesLinked.dropTemplate (h : s.TemplatesLinked) (id : String) :
    (s.dropTemplate id).TemplatesLinked := by
  refine ⟨?_, ?_, ?_⟩
  · exact fun id' t ht => h.id id' t (get_delete_eq_some.mp ht).2
  · exact fun id' t ht => h.lt id' t (get_delete_eq_some.mp ht).2
  · intro id'
    show (s.dataTemplates.delete id).get id' = (s.templates.delete id).get id'
    rw [get_delete, get_delete, h.data]

theorem samePlugins_dropTemplate (s : ProjectModel) (id : String) :
    SamePlugins s (s.dropTemplate id) :=
  ⟨rfl, rfl, rfl, fun _ => ⟨rfl, rfl⟩, fun _ => ⟨rfl, rfl⟩, le_refl _⟩

/-- A template that is not registered takes a new id. -/
theorem TemplatesLinked.putTemplate (h : s.TemplatesLinked) {t : Ref} (ht : ¬ s.Live (some t))
    (hlt : t < s.nextRef) (newId : String) : (s.putTemplate t newId).TemplatesLinked := by
  have hget : ∀ {id' u}, (s.putTemplate t newId).templates.get id' = some u ↔
      (id' = newId ∧ t = u) ∨ (id' ≠ newId ∧ s.templates.get id' = some u) := get_set_eq_some
  refine ⟨?_, ?_, ?_⟩
  · intro id' u hu
    rcases hget.mp hu with ⟨rfl, rfl⟩ | ⟨_, hold⟩
    · simp [ProjectModel.putTemplate, updTemplate]
    · have hne : u ≠ t := fun he => ht ⟨id', he ▸ hold⟩
      simp only [ProjectModel.putTemplate, updTemplate]
      rw [update_of_ne hne]
      exact h.id id' u hold
  · intro id' u hu
    rcases hget.mp hu with ⟨_, rfl⟩ | ⟨_, hold⟩
    · exact hlt
    · exact h.lt id' u hold
  · intro id'
    show (s.dataTemplates.set newId t).get id' = (s.templates.set newId t).get id'
    rw [get_set, get_set, h.data]

theorem samePlugins_putTemplate (s : ProjectModel) (t : Ref) (newId : String) :
    SamePlugins s (s.putTemplate t newId) :=
  ⟨rfl, rfl, rfl, fun _ => ⟨rfl, rfl⟩, fun _ => ⟨rfl, rfl⟩, le_refl _⟩

/-! ## Writes of components and bindings -/

theorem ComponentLinked.congr {s' : ProjectModel} {v : ViewRef} {id : String} {c : Ref}
    (h : s.ComponentLinked v id c) (hlive : s.Live v → s'.Live v) (hn : s.nextRef ≤ s'.nextRef)
    (hid : (s'.componentAt c).id = (s.componentAt c).id)
    (ho : (s'.componentAt c).ownerTemplate = (s.componentAt c).ownerTemplate)
    (hd : (s'.componentAt c).definition = (s.componentAt c).definition)
    (ht : (s'.componentAt c).data.definition.type = (s.componentAt c).data.definition.type ∨
      (s'.componentAt c).data.definition.type = .plugin) :
    s'.ComponentLinked v id c := by
  refine ⟨hlive h.live, lt_of_lt_of_le h.lt hn, hid.trans h.id, ho.trans h.owner, ?_, ?_⟩
  · rw [hd]
    exact lt_of_lt_of_le h.definition_lt hn
  · intro p hp
    rw [hd] at hp
    rcases ht with ht | ht
    · exact ht.trans (h.definition_type p hp)
    · exact ht

theorem BindingLinked.congr {s' : ProjectModel} {v : ViewRef} {id : String} {b : Ref}
    (h : s.BindingLinked v id b) (hlive : s.Live v → s'.Live v) (hn : s.nextRef ≤ s'.nextRef)
    (hid : (s'.bindingAt b).id = (s.bindingAt b).id)
    (ho : (s'.bindingAt b).ownerTemplate = (s.bindingAt b).ownerTemplate) :
    s'.BindingLinked v id b :=
  ⟨hlive h.live, lt_of_lt_of_le h.lt hn, hid.trans h.id, ho.trans h.owner⟩

/-- The views and their objects are the same. -/
theorem ViewsLinked.congr {s' : ProjectModel} (h : s.ViewsLinked) (hv : s'.views = s.views)
    (hc : s'.componentAt = s.componentAt) (hb : s'.bindingAt = s.bindingAt)
    (hn : s.nextRef ≤ s'.nextRef) (hlive : ∀ v, s.Live v → s'.Live v) : s'.ViewsLinked := by
  refine ⟨?_, ?_, ?_, ?_⟩
  · intro v id c hget
    rw [hv] at hget
    exact (h.component v id c hget).congr (hlive v) hn (by rw [hc]) (by rw [hc]) (by rw [hc])
      (by rw [hc]; exact Or.inl rfl)
  · intro v id b hget
    rw [hv] at hget
    exact (h.binding v id b hget).congr (hlive v) hn (by rw [hb]) (by rw [hb])
  · intro v id
    rw [hv]
    exact h.data v id
  · intro c b hmem
    rw [allBindings, hc] at hmem
    rw [hc, hb]
    exact ⟨lt_of_lt_of_le (h.sets c b hmem).1 hn, (h.sets c b hmem).2⟩

/-- A field of a view that a write of another field leaves as it was. -/
theorem field_of_view {β : Type} (f : ViewModel → β) {v w : ViewRef} {view : ViewModel}
    (hview : f view = f (s.views v)) :
    f (if w = v then view else s.views w) = f (s.views w) := by
  split
  · next hw => rw [hw, hview]
  · rfl

theorem addComponent_views (v : ViewRef) (id : String) (d : DefRef) (data : CoreComponentData)
    (w : ViewRef) :
    (s.addComponent v id d data).views w = if w = v then
      { s.views v with
        components := (s.views v).components.set id s.nextRef
        dataComponents := (s.views v).dataComponents.set id s.nextRef }
      else s.views w := by
  by_cases hw : w = v
  · subst hw
    simp [addComponent, registerUsage, mapUsage, newComponent, updView]
  · simp [addComponent, registerUsage, mapUsage, newComponent, updView, hw]

theorem addComponent_bindings (v : ViewRef) (id : String) (d : DefRef) (data : CoreComponentData)
    (w : ViewRef) :
    ((s.addComponent v id d data).views w).bindings = (s.views w).bindings := by
  rw [addComponent_views]
  exact field_of_view ViewModel.bindings rfl

theorem addComponent_componentAt (v : ViewRef) (id : String) (d : DefRef)
    (data : CoreComponentData) :
    (s.addComponent v id d data).componentAt = update s.componentAt s.nextRef
      { definition := d, ownerTemplate := v, id := id, data := data, bindingsFrom := [],
        bindingsTo := [] } := rfl

/-- What `getDefinition` finds has the kind that was asked for. -/
theorem getDefinition_type {data : CoreComponentDefinition} {p : Ref}
    (h : s.getDefinition data = .ok (.plugin p)) :
    data.type = .plugin := by
  unfold getDefinition at h
  split at h
  · assumption
  · obtain ⟨t, _, ht⟩ := except_map_ok.mp h
    cases ht

theorem ViewsLinked.addComponent (h : s.ViewsLinked) {v : ViewRef} {id : String} {d : DefRef}
    {data : CoreComponentData} (hlive : s.Live v) (hd : DefRef.ref d < s.nextRef)
    (htype : ∀ p, d = .plugin p → data.definition.type = .plugin) :
    (s.addComponent v id d data).ViewsLinked := by
  have hsame := (sameDefinitions_addComponent s v id d data).templates
  have hold : ∀ c, c < s.nextRef → (s.addComponent v id d data).componentAt c = s.componentAt c :=
    fun c hc => update_of_ne (Nat.ne_of_lt hc) _ _
  have hcomp : ∀ w id' c, (s.views w).components.get id' = some c →
      (s.addComponent v id d data).ComponentLinked w id' c := by
    intro w id' c hget
    have hc := h.component w id' c hget
    refine hc.congr (hsame.live w).mpr hsame.nextRef ?_ ?_ ?_ (Or.inl ?_) <;> rw [hold c hc.lt]
  refine ⟨?_, ?_, ?_, ?_⟩
  · intro w id' c hget
    rw [addComponent_views] at hget
    split at hget
    · next hw =>
      subst hw
      rcases get_set_eq_some.mp hget with ⟨rfl, rfl⟩ | ⟨_, hget⟩
      · refine ⟨(hsame.live w).mpr hlive, Nat.lt_succ_self _, ?_, ?_, ?_, ?_⟩ <;>
          rw [addComponent_componentAt, update_self]
        · exact Nat.lt_succ_of_lt hd
        · exact htype
      · exact hcomp w id' c hget
    · exact hcomp w id' c hget
  · intro w id' b hget
    rw [addComponent_bindings] at hget
    exact (h.binding w id' b hget).congr (hsame.live w).mpr hsame.nextRef rfl rfl
  · intro w id'
    rw [addComponent_views]
    split
    · dsimp only
      rw [get_set, get_set, h.data]
    · exact h.data w id'
  · intro c b hmem
    by_cases hc : c = s.nextRef
    · subst hc
      simp [allBindings, addComponent_componentAt] at hmem
    · have hcc : (s.addComponent v id d data).componentAt c = s.componentAt c := update_of_ne hc _ _
      rw [allBindings, hcc] at hmem
      rw [hcc]
      exact ⟨Nat.lt_succ_of_lt (h.sets c b hmem).1, (h.sets c b hmem).2⟩

theorem dropComponent_views (v : ViewRef) (c : Ref) (w : ViewRef) :
    (s.dropComponent v c).views w = if w = v then
      { s.views v with
        components := (s.views v).components.delete (s.componentAt c).id
        dataComponents := (s.views v).dataComponents.delete (s.componentAt c).id }
      else s.views w := by
  by_cases hw : w = v
  · subst hw
    simp [dropComponent, unregisterUsage, mapUsage, updView]
  · simp [dropComponent, unregisterUsage, mapUsage, updView, hw]

theorem dropComponent_bindings (v : ViewRef) (c : Ref) (w : ViewRef) :
    ((s.dropComponent v c).views w).bindings = (s.views w).bindings := by
  rw [dropComponent_views]
  exact field_of_view ViewModel.bindings rfl

theorem get_of_dropComponent {v w : ViewRef} {c x : Ref} {id : String}
    (h : ((s.dropComponent v c).views w).components.get id = some x) :
    (s.views w).components.get id = some x := by
  rw [dropComponent_views] at h
  split at h
  · next hw => exact hw ▸ (get_delete_eq_some.mp h).2
  · exact h

theorem ViewsLinked.dropComponent (h : s.ViewsLinked) (v : ViewRef) (c : Ref) :
    (s.dropComponent v c).ViewsLinked := by
  have hsame := (sameDefinitions_dropComponent s v c).templates
  refine ⟨?_, ?_, ?_, h.sets⟩
  · intro w id' x hx
    exact (h.component w id' x (get_of_dropComponent hx)).congr (hsame.live w).mpr hsame.nextRef rfl
      rfl rfl (Or.inl rfl)
  · intro w id' b hb
    rw [dropComponent_bindings] at hb
    exact (h.binding w id' b hb).congr (hsame.live w).mpr hsame.nextRef rfl rfl
  · intro w id'
    rw [dropComponent_views]
    split
    · dsimp only
      rw [get_delete, get_delete, h.data]
    · exact h.data w id'

theorem setComponentData_componentAt (c x : Ref) (data : CoreComponentData) :
    (s.setComponentData c data).componentAt x =
      { s.componentAt x with data := if x = c then data else (s.componentAt x).data } := by
  by_cases hx : x = c
  · subst hx; simp [setComponentData, updComponent]
  · simp [setComponentData, updComponent, hx]

theorem ViewsLinked.setComponentData (h : s.ViewsLinked) {c : Ref} {data : CoreComponentData}
    (ht : data.definition.type = (s.componentAt c).data.definition.type ∨
      data.definition.type = .plugin) :
    (s.setComponentData c data).ViewsLinked := by
  refine ⟨?_, ?_, h.data, ?_⟩
  · intro w id x hx
    refine (h.component w id x hx).congr (fun hl => hl) (le_refl _) ?_ ?_ ?_ ?_
      <;> rw [setComponentData_componentAt]
    by_cases hxc : x = c
    · subst hxc
      simpa using ht
    · simp [hxc]
  · intro w id b hb
    exact (h.binding w id b hb).congr (fun hl => hl) (le_refl _) rfl rfl
  · intro x b hb
    rw [allBindings, setComponentData_componentAt] at hb
    rw [setComponentData_componentAt]
    exact h.sets x b hb

theorem updComponent_componentAt (s : ProjectModel) (c : Ref) (f : ComponentModel → ComponentModel)
    (x : Ref) :
    (s.updComponent c f).componentAt x = if x = c then f (s.componentAt x)
      else s.componentAt x := by
  by_cases hx : x = c
  · subst hx; simp [updComponent]
  · simp [updComponent, hx]

theorem updView_componentAt (s : ProjectModel) (v : ViewRef) (f : ViewModel → ViewModel) :
    (s.updView v f).componentAt = s.componentAt := rfl

section AddBinding

variable (v : ViewRef) (key : String) (data : CoreBindingData) (source target : Ref)

theorem addBinding_views (w : ViewRef) :
    (s.addBinding v key data source target).views w = if w = v then
      { s.views v with
        bindings := (s.views v).bindings.set (makeId (s.rebuiltData data source target)) s.nextRef
        dataBindings := (s.views v).dataBindings.set key s.nextRef }
      else s.views w := by
  by_cases hw : w = v
  · subst hw
    simp [addBinding, newBinding, updView, updComponent]
  · simp [addBinding, newBinding, updView, updComponent, hw]

theorem addBinding_components (w : ViewRef) :
    ((s.addBinding v key data source target).views w).components = (s.views w).components := by
  rw [addBinding_views]
  exact field_of_view ViewModel.components rfl

theorem addBinding_bindingAt : (s.addBinding v key data source target).bindingAt =
    update s.bindingAt s.nextRef
      { ownerTemplate := v, id := makeId (s.rebuiltData data source target),
        data := s.rebuiltData data source target, sourceComponent := source, targetComponent :=
          target } := rfl

theorem addBinding_componentAt (x : Ref) :
    (s.addBinding v key data source target).componentAt x =
      { s.componentAt x with
        bindingsFrom := if x = source then (s.componentAt x).bindingsFrom ++ [s.nextRef]
          else (s.componentAt x).bindingsFrom
        bindingsTo := if x = target then (s.componentAt x).bindingsTo ++ [s.nextRef]
          else (s.componentAt x).bindingsTo } := by
  unfold addBinding
  dsimp only
  rw [updView_componentAt, updComponent_componentAt, updComponent_componentAt]
  split_ifs <;> rfl

end AddBinding

theorem ViewsLinked.addBinding (h : s.ViewsLinked) {v : ViewRef} {data : CoreBindingData}
    {source target : Ref} {sourceId targetId : String}
    (hsource : (s.views v).components.get sourceId = some source)
    (htarget : (s.views v).components.get targetId = some target) (key : String) :
    (s.addBinding v key data source target).ViewsLinked := by
  have hsame := (sameDefinitions_addBinding s v key data source target).templates
  have hlive := (h.component v _ _ hsource).live
  have hold : ∀ w id b, (s.views w).bindings.get id = some b →
      (s.addBinding v key data source target).BindingLinked w id b := by
    intro w id b hb
    have hl := h.binding w id b hb
    refine hl.congr (hsame.live w).mpr hsame.nextRef ?_ ?_ <;>
      rw [addBinding_bindingAt, update_of_ne (Nat.ne_of_lt hl.lt)]
  refine ⟨?_, ?_, ?_, ?_⟩
  · intro w id c hc
    rw [addBinding_components] at hc
    refine (h.component w id c hc).congr (hsame.live w).mpr hsame.nextRef ?_ ?_ ?_ (Or.inl ?_) <;>
      rw [addBinding_componentAt]
  · intro w id b hb
    rw [addBinding_views] at hb
    split at hb
    · next hw =>
      subst hw
      rcases get_set_eq_some.mp hb with ⟨rfl, rfl⟩ | ⟨_, hb⟩
      · refine ⟨(hsame.live w).mpr hlive, Nat.lt_succ_self _, ?_, ?_⟩ <;>
          rw [addBinding_bindingAt, update_self]
      · exact hold w id b hb
    · exact hold w id b hb
  · intro w id
    rw [addBinding_views]
    split
    · next hw => exact hw ▸ h.data w id
    · exact h.data w id
  · intro c b hb
    have hold : ∀ b, b ∈ s.allBindings c → b < s.nextRef + 1 ∧
        ((s.addBinding v key data source target).bindingAt b).ownerTemplate =
          (s.componentAt c).ownerTemplate := by
      intro b hb
      obtain ⟨hlt, ho⟩ := h.sets c b hb
      refine ⟨Nat.lt_succ_of_lt hlt, ?_⟩
      rw [addBinding_bindingAt, update_of_ne (Nat.ne_of_lt hlt)]
      exact ho
    have hnew : (s.componentAt c).ownerTemplate = v → s.nextRef < s.nextRef + 1 ∧
        ((s.addBinding v key data source target).bindingAt s.nextRef).ownerTemplate =
          (s.componentAt c).ownerTemplate := by
      intro ho
      refine ⟨Nat.lt_succ_self _, ?_⟩
      rw [addBinding_bindingAt, update_self]
      exact ho.symm
    rw [addBinding_componentAt]
    dsimp only
    rw [allBindings, addBinding_componentAt, List.mem_append] at hb
    dsimp only at hb
    rcases hb with hb | hb
    · split at hb
      · next hcs =>
        rcases List.mem_append.mp hb with hb | hb
        · exact hold b (List.mem_append_left _ hb)
        · obtain rfl := List.mem_singleton.mp hb
          exact hnew (hcs ▸ (h.component v _ _ hsource).owner)
      · exact hold b (List.mem_append_left _ hb)
    · split at hb
      · next hct =>
        rcases List.mem_append.mp hb with hb | hb
        · exact hold b (List.mem_append_right _ hb)
        · obtain rfl := List.mem_singleton.mp hb
          exact hnew (hct ▸ (h.component v _ _ htarget).owner)
      · exact hold b (List.mem_append_right _ hb)

section DropBinding

variable (v : ViewRef) (b : Ref)

theorem dropBinding_views (w : ViewRef) :
    (s.dropBinding v b).views w = if w = v then
      { s.views v with
        bindings := (s.views v).bindings.delete (s.bindingAt b).id
        dataBindings := (s.views v).dataBindings.delete (s.bindingAt b).id }
      else s.views w := by
  by_cases hw : w = v
  · subst hw
    simp [dropBinding, updView, updComponent]
  · simp [dropBinding, updView, updComponent, hw]

theorem dropBinding_components (w : ViewRef) :
    ((s.dropBinding v b).views w).components = (s.views w).components := by
  rw [dropBinding_views]
  exact field_of_view ViewModel.components rfl

theorem dropBinding_componentAt (x : Ref) :
    (s.dropBinding v b).componentAt x =
      { s.componentAt x with
        bindingsFrom := if x =
          (s.bindingAt b).sourceComponent then (s.componentAt x).bindingsFrom.erase b
          else (s.componentAt x).bindingsFrom
        bindingsTo := if x =
          (s.bindingAt b).targetComponent then (s.componentAt x).bindingsTo.erase b
          else (s.componentAt x).bindingsTo } := by
  unfold dropBinding
  dsimp only
  rw [updView_componentAt, updComponent_componentAt, updComponent_componentAt]
  split_ifs <;> rfl

end DropBinding

theorem get_of_dropBinding {v w : ViewRef} {b x : Ref} {id : String}
    (h : ((s.dropBinding v b).views w).bindings.get id = some x) : (s.views w).bindings.get id =
      some x := by
  rw [dropBinding_views] at h
  split at h
  · next hw => exact hw ▸ (get_delete_eq_some.mp h).2
  · exact h

theorem mem_of_dropBinding {v : ViewRef} {b c x : Ref} (h : x ∈ (s.dropBinding v b).allBindings c) :
    x ∈ s.allBindings c := by
  have herase : ∀ {p : Prop} [Decidable p] {l : List Ref}, x ∈ (if p then l.erase b else l) →
      x ∈ l := by
    intro p _ l hx
    split at hx
    · exact List.mem_of_mem_erase hx
    · exact hx
  rw [allBindings, dropBinding_componentAt, List.mem_append] at h
  exact List.mem_append.mpr (h.imp herase herase)

theorem ViewsLinked.dropBinding (h : s.ViewsLinked) (v : ViewRef) (b : Ref) :
    (s.dropBinding v b).ViewsLinked := by
  have hsame := (sameDefinitions_dropBinding s v b).templates
  refine ⟨?_, ?_, ?_, ?_⟩
  · intro w id c hc
    rw [dropBinding_components] at hc
    refine (h.component w id c hc).congr (hsame.live w).mpr hsame.nextRef ?_ ?_ ?_ (Or.inl ?_) <;>
      rw [dropBinding_componentAt]
  · intro w id x hx
    exact (h.binding w id x (get_of_dropBinding hx)).congr (hsame.live w).mpr hsame.nextRef rfl rfl
  · intro w id
    rw [dropBinding_views]
    split
    · next hw => exact hw ▸ h.data w id
    · exact h.data w id
  · intro c x hx
    rw [dropBinding_componentAt]
    exact h.sets c x (mem_of_dropBinding hx)

/-! ## Renaming -/

theorem renameComponentAt_views (v : ViewRef) (c : Ref) (newId : String) (w : ViewRef) :
    (s.renameComponentAt v c newId).views w = if w = v then
      { s.views v with
        components := ((s.views v).components.delete (s.componentAt c).id).set newId c
        dataComponents := ((s.views v).dataComponents.delete (s.componentAt c).id).set newId c }
      else s.views w := by
  by_cases hw : w = v
  · subst hw
    simp [renameComponentAt, registerUsage, mapUsage, updView, updComponent, dropComponent_views]
  · simp [renameComponentAt, registerUsage, mapUsage, updView, updComponent, hw,
      dropComponent_views]

theorem renameComponentAt_bindings (v : ViewRef) (c : Ref) (newId : String) (w : ViewRef) :
    ((s.renameComponentAt v c newId).views w).bindings = (s.views w).bindings := by
  rw [renameComponentAt_views]
  exact field_of_view ViewModel.bindings rfl

theorem renameComponentAt_componentAt (v : ViewRef) (c : Ref) (newId : String) (x : Ref) :
    (s.renameComponentAt v c newId).componentAt x =
      { s.componentAt x with id := if x = c then newId else (s.componentAt x).id } := by
  show ((s.dropComponent v c).updComponent c (fun o => { o with id := newId })).componentAt x = _
  rw [updComponent_componentAt]
  split_ifs <;> rfl

theorem renameComponentAt_bindingAt (v : ViewRef) (c : Ref) (newId : String) :
    (s.renameComponentAt v c newId).bindingAt = s.bindingAt := by
  simp only [renameComponentAt, registerUsage, mapUsage, updView, updComponent, dropComponent,
    unregisterUsage]

theorem renameComponentAt_nextRef (v : ViewRef) (c : Ref) (newId : String) :
    (s.renameComponentAt v c newId).nextRef = s.nextRef := by
  simp only [renameComponentAt, registerUsage, mapUsage, updView, updComponent, dropComponent,
    unregisterUsage]

theorem ViewsLinked.renameComponentAt (h : s.ViewsLinked) {v : ViewRef} {id : String} {c : Ref}
    (hc : (s.views v).components.get id = some c) (newId : String) :
    (s.renameComponentAt v c newId).ViewsLinked := by
  have hsame := (sameDefinitions_renameComponentAt s v c newId).templates
  have hlinked := h.component v id c hc
  -- Any other entry is about another component: `c` is only found under its id, in its view.
  have hother : ∀ w id' x, (s.views w).components.get id' = some x →
    (w = v → id' ≠ (s.componentAt c).id) →
      (s.renameComponentAt v c newId).ComponentLinked w id' x := by
    intro w id' x hx hne
    have hxl := h.component w id' x hx
    have hxc : x ≠ c := by
      rintro rfl
      exact hne (hxl.owner.symm.trans hlinked.owner) hxl.id.symm
    refine hxl.congr (hsame.live w).mpr hsame.nextRef ?_ ?_ ?_ (Or.inl ?_) <;>
      rw [renameComponentAt_componentAt]
    simp [hxc]
  refine ⟨?_, ?_, ?_, ?_⟩
  · intro w id' x hx
    rw [renameComponentAt_views] at hx
    split at hx
    · next hw =>
      subst hw
      rcases get_set_eq_some.mp hx with ⟨rfl, rfl⟩ | ⟨_, hx⟩
      · refine ⟨(hsame.live w).mpr hlinked.live, lt_of_lt_of_le hlinked.lt hsame.nextRef, ?_, ?_,
          ?_, ?_⟩ <;>
          rw [renameComponentAt_componentAt]
        · simp
        · exact hlinked.owner
        · exact lt_of_lt_of_le hlinked.definition_lt hsame.nextRef
        · exact hlinked.definition_type
      · obtain ⟨hne, hx⟩ := get_delete_eq_some.mp hx
        exact hother w id' x hx (fun _ => hne)
    · next hw => exact hother w id' x hx (fun he => absurd he hw)
  · intro w id' b hb
    rw [renameComponentAt_bindings] at hb
    refine (h.binding w id' b hb).congr (hsame.live w).mpr hsame.nextRef ?_ ?_
      <;> rw [renameComponentAt_bindingAt]
  · intro w id'
    rw [renameComponentAt_views]
    split
    · dsimp only
      rw [get_set, get_set, get_delete, get_delete, h.data]
    · exact h.data w id'
  · intro x b hb
    rw [allBindings, renameComponentAt_componentAt] at hb
    rw [renameComponentAt_componentAt, renameComponentAt_bindingAt, renameComponentAt_nextRef]
    exact h.sets x b hb

/-- The data that a binding has once it is rebuilt. -/
def rebuilt (s : ProjectModel) (b : Ref) : CoreBindingData :=
  s.rebuiltData (s.bindingAt b).data (s.bindingAt b).sourceComponent (s.bindingAt b).targetComponent

theorem rebuildBinding_views (v : ViewRef) (b : Ref) (w : ViewRef) :
    (s.rebuildBinding v b).views w = if w = v then
      { s.views v with
        bindings := ((s.views v).bindings.delete (s.bindingAt b).id).set (makeId (s.rebuilt b)) b
        dataBindings := ((s.views v).dataBindings.delete (s.bindingAt b).id).set
          (makeId (s.rebuilt b)) b }
      else s.views w := by
  by_cases hw : w = v
  · subst hw
    simp [rebuildBinding, updView, updBinding, rebuilt, rebuiltData]
  · simp [rebuildBinding, updView, updBinding, hw]

theorem rebuildBinding_components (v : ViewRef) (b : Ref) (w : ViewRef) :
    ((s.rebuildBinding v b).views w).components = (s.views w).components := by
  rw [rebuildBinding_views]
  exact field_of_view ViewModel.components rfl

theorem rebuildBinding_bindingAt (v : ViewRef) (b x : Ref) :
    (s.rebuildBinding v b).bindingAt x =
      { s.bindingAt x with
        data := if x = b then s.rebuilt b else (s.bindingAt x).data
        id := if x = b then makeId (s.rebuilt b) else (s.bindingAt x).id } := by
  by_cases hx : x = b
  · subst hx
    simp [rebuildBinding, updView, updBinding, rebuilt, rebuiltData]
  · simp [rebuildBinding, updView, updBinding, hx]

theorem ViewsLinked.rebuildBinding (h : s.ViewsLinked) {v : ViewRef} {b : Ref} (hlive : s.Live v)
    (hlt : b < s.nextRef)
    (ho : (s.bindingAt b).ownerTemplate = v) : (s.rebuildBinding v b).ViewsLinked := by
  have hsame := (sameDefinitions_rebuildBinding s v b).templates
  have hother : ∀ w id' x, (s.views w).bindings.get id' = some x →
    (w = v → id' ≠ (s.bindingAt b).id) →
      (s.rebuildBinding v b).BindingLinked w id' x := by
    intro w id' x hx hne
    have hxl := h.binding w id' x hx
    have hxb : x ≠ b := by
      rintro rfl
      exact hne (hxl.owner.symm.trans ho) hxl.id.symm
    refine hxl.congr (hsame.live w).mpr hsame.nextRef ?_ ?_ <;> rw [rebuildBinding_bindingAt]
    simp [hxb]
  refine ⟨?_, ?_, ?_, ?_⟩
  · intro w id' c hc
    rw [rebuildBinding_components] at hc
    exact (h.component w id' c hc).congr (hsame.live w).mpr hsame.nextRef rfl rfl rfl (Or.inl rfl)
  · intro w id' x hx
    rw [rebuildBinding_views] at hx
    split at hx
    · next hw =>
      subst hw
      rcases get_set_eq_some.mp hx with ⟨rfl, rfl⟩ | ⟨_, hx⟩
      · refine ⟨(hsame.live w).mpr hlive, lt_of_lt_of_le hlt hsame.nextRef, ?_, ?_⟩ <;>
          rw [rebuildBinding_bindingAt]
        · simp
        · exact ho
      · obtain ⟨hne, hx⟩ := get_delete_eq_some.mp hx
        exact hother w id' x hx (fun _ => hne)
    · next hw => exact hother w id' x hx (fun he => absurd he hw)
  · intro w id'
    rw [rebuildBinding_views]
    split
    · next hw => exact hw ▸ h.data w id'
    · exact h.data w id'
  · intro c x hx
    rw [rebuildBinding_bindingAt]
    exact h.sets c x hx

/-- The bindings of the renamed component, one after the other. -/
theorem ViewsLinked.rebuildBindings {v : ViewRef} (l : List Ref) {s : ProjectModel}
    (h : s.ViewsLinked) (hlive : s.Live v)
    (hl : ∀ b ∈ l, b < s.nextRef ∧ (s.bindingAt b).ownerTemplate = v) :
    (l.foldl (fun s b => s.rebuildBinding v b) s).ViewsLinked := by
  induction l generalizing s with
  | nil => exact h
  | cons b l ih =>
    obtain ⟨hlt, ho⟩ := hl b List.mem_cons_self
    refine ih (h.rebuildBinding hlive hlt ho)
      (((sameDefinitions_rebuildBinding s v b).templates.live v).mpr hlive) ?_
    intro x hx
    rw [rebuildBinding_bindingAt]
    exact hl x (List.mem_cons_of_mem _ hx)

theorem ViewsLinked.setExports (h : s.ViewsLinked) (t : Ref)
    (templateExports : CoreTemplateExports) :
    (s.setExports t templateExports).ViewsLinked :=
  h.congr rfl rfl rfl (le_refl _)
    (fun v => ((sameDefinitions_setExports s t templateExports).templates.live v).mpr)

theorem ViewsLinked.renameComponent (h : s.ViewsLinked) {v : ViewRef} {id : String} {c : Ref}
    (hc : (s.views v).components.get id = some c) (newId : String) :
    (s.renameComponent v c newId).ViewsLinked := by
  have hlinked := h.component v id c hc
  have hat := h.renameComponentAt hc newId
  have hlive := ((sameDefinitions_renameComponentAt s v c newId).templates.live v).mpr hlinked.live
  have hfold := ViewsLinked.rebuildBindings ((s.renameComponentAt v c newId).allBindings c) hat
    hlive (by
    intro b hb
    obtain ⟨hlt, ho⟩ := hat.sets c b hb
    rw [renameComponentAt_componentAt] at ho
    exact ⟨hlt, ho.trans hlinked.owner⟩)
  cases v with
  | none => exact hfold
  | some t => exact hfold.setExports _ _

/-! ## Clearing a template -/

theorem foldl_dropComponent (v : ViewRef) (l : List Ref) (s : ProjectModel) :
    (l.foldl (fun s c => s.dropComponent v c) s).componentAt = s.componentAt ∧
      (l.foldl (fun s c => s.dropComponent v c) s).bindingAt = s.bindingAt ∧
      (∀ w, ((l.foldl (fun s c => s.dropComponent v c) s).views w).bindings =
        (s.views w).bindings) ∧
      ∀ w id, ((l.foldl (fun s c => s.dropComponent v c) s).views w).components.get id =
        if w = v ∧ id ∈ l.map (fun c => (s.componentAt c).id) then none
        else (s.views w).components.get id := by
  induction l generalizing s with
  | nil => exact ⟨rfl, rfl, fun _ => rfl, fun w id => by simp⟩
  | cons c l ih =>
    obtain ⟨hc, hb, hbindings, hcomponents⟩ := ih (s.dropComponent v c)
    refine ⟨hc, hb, ?_, ?_⟩
    · intro w
      rw [List.foldl_cons, hbindings, dropComponent_bindings]
    · intro w id
      rw [List.foldl_cons, hcomponents, dropComponent_views]
      have hat : ∀ x, (s.dropComponent v c).componentAt x = s.componentAt x := fun _ => rfl
      simp only [hat, List.map_cons, List.mem_cons]
      by_cases hw : w = v
      · subst hw
        rw [if_pos rfl, get_delete]
        by_cases hid : id = (s.componentAt c).id
          <;> by_cases hl : id ∈ l.map (fun c => (s.componentAt c).id) <;>
          simp [hid, hl]
      · simp [hw]

theorem foldl_dropBinding (v : ViewRef) (l : List Ref) (s : ProjectModel) :
    (l.foldl (fun s b => s.dropBinding v b) s).bindingAt = s.bindingAt ∧
      (∀ w, ((l.foldl (fun s b => s.dropBinding v b) s).views w).components =
        (s.views w).components) ∧
      ∀ w id, ((l.foldl (fun s b => s.dropBinding v b) s).views w).bindings.get id =
        if w = v ∧ id ∈ l.map (fun b => (s.bindingAt b).id) then none
        else (s.views w).bindings.get id := by
  induction l generalizing s with
  | nil => exact ⟨rfl, fun _ => rfl, fun w id => by simp⟩
  | cons b l ih =>
    obtain ⟨hb, hcomponents, hbindings⟩ := ih (s.dropBinding v b)
    refine ⟨hb, ?_, ?_⟩
    · intro w
      rw [List.foldl_cons, hcomponents, dropBinding_components]
    · intro w id
      rw [List.foldl_cons, hbindings, dropBinding_views]
      have hat : ∀ x, (s.dropBinding v b).bindingAt x = s.bindingAt x := fun _ => rfl
      simp only [hat, List.map_cons, List.mem_cons]
      by_cases hw : w = v
      · subst hw
        rw [if_pos rfl, get_delete]
        by_cases hid : id = (s.bindingAt b).id
          <;> by_cases hl : id ∈ l.map (fun b => (s.bindingAt b).id) <;>
          simp [hid, hl]
      · simp [hw]

theorem ViewsLinked.deleteContents (h : s.ViewsLinked) (t : Ref) :
    (s.deleteContents t).ViewsLinked := by
  have hfold : ∀ (f : ProjectModel → Ref → ProjectModel)
    (hf : ∀ s r, s.ViewsLinked → (f s r).ViewsLinked)
      (l : List Ref) (s : ProjectModel), s.ViewsLinked → (l.foldl f s).ViewsLinked := by
    intro f hf l
    induction l with
    | nil => exact fun s hs => hs
    | cons r l ih => exact fun s hs => ih (f s r) (hf s r hs)
  exact hfold _ (fun s b hs => hs.dropBinding (some t) b) _ _
    (hfold _ (fun s c hs => hs.dropComponent (some t) c) _ _ h)

/-- Nothing is left in the view of the template, and the other views are as they were. -/
theorem deleteContents_views (h : s.ViewsLinked) (t : Ref) (w : ViewRef) (id : String) :
    ((s.deleteContents t).views w).components.get id =
        (if w = some t then none else (s.views w).components.get id) ∧
      ((s.deleteContents t).views w).bindings.get id =
        (if w = some t then none else (s.views w).bindings.get id) := by
  unfold ProjectModel.deleteContents
  dsimp only
  obtain ⟨hc, hb, hbindings, hcomponents⟩ :=
    foldl_dropComponent (some t) (s.views (some t)).components.values s
  obtain ⟨_, hcomponents', hbindings'⟩ := foldl_dropBinding (some t)
    (((s.views (some t)).components.values.foldl (fun s c => s.dropComponent (some t) c) s).views
      (some t)).bindings.values
        ((s.views (some t)).components.values.foldl (fun s c => s.dropComponent (some t) c) s)
  rw [hcomponents', hcomponents, hbindings', hbindings, hbindings, hb]
  by_cases hw : w = some t
  · subst hw
    -- Each object of the view is deleted under the key that it is found under.
    constructor
    · rw [if_pos rfl]
      split
      · rfl
      · next hno =>
        by_contra hne
        obtain ⟨c, hc⟩ := Option.ne_none_iff_exists'.mp hne
        exact hno ⟨rfl, List.mem_map.mpr ⟨c, mem_values.mpr ⟨id, hc⟩, (h.component _ _ _ hc).id⟩⟩
    · rw [if_pos rfl]
      split
      · rfl
      · next hno =>
        by_contra hne
        obtain ⟨b, hb⟩ := Option.ne_none_iff_exists'.mp hne
        exact hno ⟨rfl, List.mem_map.mpr ⟨b, mem_values.mpr ⟨id, hb⟩, (h.binding _ _ _ hb).id⟩⟩
  · simp [hw]

/-- A component keeps all but its sets of bindings when contents are deleted. -/
theorem deleteContents_field {β : Type} (f : ComponentModel → β)
    (hf : ∀ o bindingsFrom bindingsTo, f { o with bindingsFrom, bindingsTo } = f o)
    (s : ProjectModel) (t c : Ref) :
    f ((s.deleteContents t).componentAt c) = f (s.componentAt c) := by
  have hfold : ∀ (l : List Ref) (s : ProjectModel),
      f ((l.foldl (fun s b => s.dropBinding (some t) b) s).componentAt c) =
        f (s.componentAt c) := by
    intro l
    induction l with
    | nil => exact fun _ => rfl
    | cons b l ih => exact fun s =>
      (ih (s.dropBinding (some t) b)).trans (by rw [dropBinding_componentAt, hf])
  refine (hfold _ _).trans ?_
  rw [(foldl_dropComponent (some t) _ s).1]

theorem deleteContents_definition (s : ProjectModel) (t c : Ref) :
    ((s.deleteContents t).componentAt c).definition = (s.componentAt c).definition :=
  deleteContents_field ComponentModel.definition (fun _ _ _ => rfl) s t c

theorem live_addTemplate {id : String} (hid : s.templates.get id = none)
    (templateExports : CoreTemplateExports) {v : ViewRef}
    (hv : s.Live v) : (s.addTemplate id templateExports).Live v := by
  cases v with
  | none => trivial
  | some u =>
    obtain ⟨id', hid'⟩ := hv
    refine ⟨id', get_set_eq_some.mpr (Or.inr ⟨?_, hid'⟩)⟩
    rintro rfl
    rw [hid] at hid'
    cases hid'

theorem TemplatesLinked.live_renameTemplate (h : s.TemplatesLinked) {t : Ref}
    (hlive : s.Live (some t)) {newId : String} (hnew : s.templates.get newId = none) {v : ViewRef}
    (hv : s.Live v) :
    ((s.dropTemplate (s.templateAt t).id).putTemplate t newId).Live v := by
  cases v with
  | none => trivial
  | some u =>
    obtain ⟨id, hid⟩ := hv
    by_cases hu : u = t
    · subst hu
      exact ⟨newId, get_set_self ..⟩
    · refine ⟨id, get_set_eq_some.mpr (Or.inr ⟨?_, get_delete_eq_some.mpr ⟨?_, hid⟩⟩)⟩
      · rintro rfl
        rw [hnew] at hid
        cases hid
      · rintro rfl
        obtain ⟨id₀, hid₀⟩ := hlive
        rw [h.id id₀ t hid₀, hid₀, Option.some.injEq] at hid
        exact hu hid.symm

/-- Only the cleared template is not live any more. -/
theorem TemplatesLinked.live_eraseTemplate (h : s.TemplatesLinked) {t : Ref}
    (hlive : s.Live (some t)) {v : ViewRef} (hv : s.Live v)
    (hne : v ≠ some t) : (s.eraseTemplate t).Live v := by
  have hsame := (sameDefinitions_deleteContents s t).templates
  obtain ⟨id₀, hid₀⟩ := hlive
  cases v with
  | none => trivial
  | some u =>
    obtain ⟨id, hid⟩ := hv
    refine ⟨id, get_delete_eq_some.mpr ⟨?_, hsame.templates ▸ hid⟩⟩
    rintro rfl
    rw [hsame.template, h.id id₀ t hid₀, hid₀, Option.some.injEq] at hid
    exact hne (congrArg some hid.symm)

theorem ViewsLinked.eraseTemplate (h : s.ViewsLinked) (ht : s.TemplatesLinked) {t : Ref}
    (hlive : s.Live (some t)) :
    (s.eraseTemplate t).ViewsLinked := by
  have hs := h.deleteContents t
  have hsame := (sameDefinitions_deleteContents s t).templates
  refine ⟨?_, ?_, hs.data, hs.sets⟩
  · intro w id c hc
    have hw : w ≠ some t := by
      rintro rfl
      have hnone := (deleteContents_views h t (some t) id).1
      rw [if_pos rfl] at hnone
      exact absurd (hnone.symm.trans hc) (by simp)
    exact (hs.component w id c hc).congr
      (fun hl => ht.live_eraseTemplate hlive ((hsame.live w).mp hl) hw) (le_refl _)
      rfl rfl rfl (Or.inl rfl)
  · intro w id b hb
    have hw : w ≠ some t := by
      rintro rfl
      have hnone := (deleteContents_views h t (some t) id).2
      rw [if_pos rfl] at hnone
      exact absurd (hnone.symm.trans hb) (by simp)
    exact (hs.binding w id b hb).congr
      (fun hl => ht.live_eraseTemplate hlive ((hsame.live w).mp hl) hw) (le_refl _)
      rfl rfl

theorem ViewsLinked.addTemplate (h : s.ViewsLinked) {id : String}
    (hid : s.templates.get id = none) (templateExports : CoreTemplateExports) :
    (s.addTemplate id templateExports).ViewsLinked := by
  have hlive : ∀ w, s.Live w → (s.addTemplate id templateExports).Live w :=
    fun w => live_addTemplate hid templateExports
  -- The new template had no contents before: it was not live.
  have hview : ∀ w, (s.addTemplate id templateExports).views w = if w = some s.nextRef then {}
      else s.views w :=
    fun w => update_apply _ _ _ _
  refine ⟨?_, ?_, ?_, ?_⟩
  · intro w id' c hc
    rw [hview] at hc
    split at hc
    · cases hc
    · exact (h.component w id' c hc).congr (hlive w) (Nat.le_succ _) rfl rfl rfl (Or.inl rfl)
  · intro w id' b hb
    rw [hview] at hb
    split at hb
    · cases hb
    · exact (h.binding w id' b hb).congr (hlive w) (Nat.le_succ _) rfl rfl
  · intro w id'
    rw [hview]
    split
    · rfl
    · exact h.data w id'
  · exact fun c b hb => ⟨Nat.lt_succ_of_lt (h.sets c b hb).1, (h.sets c b hb).2⟩

theorem ViewsLinked.renameTemplate (h : s.ViewsLinked) (ht : s.TemplatesLinked) {t : Ref}
    (hlive : s.Live (some t)) {newId : String} (hnew : s.templates.get newId = none) :
    ((s.dropTemplate (s.templateAt t).id).putTemplate t newId).ViewsLinked :=
  h.congr rfl rfl rfl (le_refl _) (fun _ => ht.live_renameTemplate hlive hnew)

end ProjectModel

/-! ## Every permitted write keeps the links -/

/-- What the methods and the constructor have checked, or looked up, before a write. -/
def Checked (s : ProjectModel) : Write → Prop
  | .initComponent v id d data =>
    s.Live v ∧ (s.views v).components.get id = none ∧ s.getDefinition data.definition = .ok d
  | .initBinding v _ data source target =>
    (s.views v).components.get data.sourceComponent = some source ∧
      (s.views v).components.get data.targetComponent = some target
  | .addPlugin id _ => s.plugins.get id = none
  | .displayPlugin p _ => ∃ id, s.plugins.get id = some p
  | .importPlugin p data =>
    s.plugins.get (ProjectModel.importPluginId data.instanceName data.toNetPlugin) = some p
  | .deletePlugin id p => s.plugins.get id = some p ∧ s.used (.plugin p) = false
  | .importClearPlugin id p => s.plugins.get id = some p
  | .addTemplate id _ => s.templates.get id = none
  | .renameTemplate t newId => s.Live (some t) ∧ s.templates.get newId = none
  | .clearTemplate t => s.Live (some t) ∧ s.used (.template t) = false
  | .exportConfig t exportId item =>
    s.Live (some t) ∧ (s.templateAt t).exports.config.get exportId = none ∧
      (∃ c, (s.views (some t)).components.get item.component = some c ∧
        s.ensureConfig (s.componentAt c).definition item.configName = .ok ()) ∧
      ∀ id x, (s.templateAt t).exports.config.get id = some x →
        ¬ (x.component = item.component ∧ x.configName = item.configName)
  | .exportMember t exportId item =>
    s.Live (some t) ∧ (s.templateAt t).exports.members.get exportId = none ∧
      ∃ c fuel, (s.views (some t)).components.get item.component = some c ∧
        s.ensureMember fuel (s.componentAt c).definition item.member = .ok ()
  | .clearExport t _ _ => s.Live (some t)
  | .addComponent v id d data =>
    s.Live v ∧ (s.views v).components.get id = none ∧ s.getDefinition data.definition = .ok d ∧
      ∀ t u, v = some t → d = .template u →
        ∃ fuel usageTemplates, s.getRecursiveTemplateUsage fuel t = .ok usageTemplates ∧
          u ∉ usageTemplates
  | .renameComponent v c newId =>
    (s.views v).components.get newId = none ∧ ∃ id, (s.views v).components.get id = some c
  | .clearComponent v c => ∃ id, (s.views v).components.get id = some c ∧
      ∀ t, v = some t → s.hasExportWithComponentId t id = false
  | .importClearComponent v c => ∃ id, (s.views v).components.get id = some c ∧
      ∀ t, v = some t → s.hasExportWithComponentId t id = false
  | .moveComponent c _ => ∃ v id, (s.views v).components.get id = some c
  | .setConfig c _ => (s.componentAt c).data.config ≠ none
  | .importComponent c p _ _ =>
    (∃ id, (s.views none).components.get id = some c) ∧ ∃ id, s.plugins.get id = some p
  | .addBinding v data source target =>
    (s.views v).components.get data.sourceComponent = some source ∧
      (s.views v).components.get data.targetComponent = some target ∧ source ≠ target ∧
      (s.views v).bindings.get (makeId data) = none ∧
      ∃ fuel type, s.getMemberValueType fuel (s.componentAt source).definition data.sourceState
        .state = .ok type ∧
        s.getMemberValueType fuel (s.componentAt target).definition data.targetAction .action =
          .ok type
  | .clearBinding v b => ∃ id, (s.views v).bindings.get id = some b

/-- The writes of the editing calls: none is one of the constructor. -/
def Permitted (s : ProjectModel) : Write → Prop
  | .initComponent .. => False
  | .initBinding .. => False
  | w => Checked s w

theorem Permitted.checked {s : ProjectModel} {w : Write} (h : Permitted s w) : Checked s w := by
  cases w with
  | initComponent v id d data => exact h.elim
  | initBinding v key data source target => exact h.elim
  | _ => exact h

namespace ProjectModel

variable {s : ProjectModel}

theorem getPlugin_ok {id : String} {p : Ref} : s.getPlugin id = .ok p ↔
    s.plugins.get id = some p := by
  unfold getPlugin
  split <;> simp_all

theorem getInstance_ok {instanceName : String} {i : Ref} :
    s.getInstance instanceName = .ok i ↔ s.instances.get instanceName = some i := by
  unfold getInstance
  split <;> simp_all

theorem getTemplate_ok {id : String} {t : Ref} : s.getTemplate id = .ok t ↔
    s.templates.get id = some t := by
  unfold getTemplate
  split <;> simp_all

theorem getComponent_ok {v : ViewRef} {id : String} {c : Ref} :
    s.getComponent v id = .ok c ↔ (s.views v).components.get id = some c := by
  unfold getComponent
  split <;> simp_all

theorem getDefinition_ok {data : CoreComponentDefinition} {d : DefRef} :
    s.getDefinition data = .ok d ↔
      (data.type = .plugin ∧ ∃ p, s.plugins.get data.id = some p ∧ d = .plugin p) ∨
      (data.type = .template ∧ ∃ t, s.templates.get data.id = some t ∧ d = .template t) := by
  unfold getDefinition
  cases data.type with
  | plugin =>
    simp only [except_map_ok, getPlugin_ok, true_and, reduceCtorEq, false_and, or_false]
    exact exists_congr fun p => and_congr_right fun _ => eq_comm
  | template =>
    simp only [except_map_ok, getTemplate_ok, true_and, reduceCtorEq, false_and, false_or]
    exact exists_congr fun t => and_congr_right fun _ => eq_comm

theorem Linked.definition_lt (h : s.Linked) {data : CoreComponentDefinition} {d : DefRef}
    (hd : s.getDefinition data = .ok d) : DefRef.ref d < s.nextRef := by
  rcases getDefinition_ok.mp hd with ⟨_, p, hp, rfl⟩ | ⟨_, t, ht, rfl⟩
  · exact h.plugins.lt _ p hp
  · exact h.templates.lt _ t ht

theorem Linked.addComponent (h : s.Linked) {v : ViewRef} {id : String} {d : DefRef}
    {data : CoreComponentData} (hlive : s.Live v) (hd : s.getDefinition data.definition = .ok d) :
    (s.addComponent v id d data).Linked := by
  have hsame := sameDefinitions_addComponent s v id d data
  exact ⟨h.plugins.congr hsame.plugins, h.templates.congr hsame.templates,
    h.views.addComponent hlive (h.definition_lt hd) (fun p hp => getDefinition_type (hp ▸ hd))⟩

theorem Linked.addBinding (h : s.Linked) {v : ViewRef} {data : CoreBindingData}
    {source target : Ref} (hsource : (s.views v).components.get data.sourceComponent = some source)
    (htarget : (s.views v).components.get data.targetComponent = some target) (key : String) :
    (s.addBinding v key data source target).Linked := by
  have hsame := sameDefinitions_addBinding s v key data source target
  exact ⟨h.plugins.congr hsame.plugins, h.templates.congr hsame.templates,
    h.views.addBinding hsource htarget key⟩

theorem Linked.setPluginData (h : s.Linked) (p : Ref) (data : CorePluginData) :
    (s.setPluginData p data).Linked := by
  have hsame := sameDefinitions_setPluginData s p data
  exact ⟨h.plugins.congr hsame.plugins, h.templates.congr hsame.templates,
    h.views.congr rfl rfl rfl (le_refl _) (fun v => (hsame.templates.live v).mpr)⟩

theorem Linked.dropPlugin (h : s.Linked) {id : String} {p : Ref} (hp : s.plugins.get id = some p) :
    (s.dropPlugin id p).Linked :=
  ⟨h.plugins.dropPlugin hp, h.templates.congr (sameTemplates_dropPlugin s id p),
    h.views.congr rfl rfl rfl (le_refl _) (fun v => ((sameTemplates_dropPlugin s id p).live v).mpr)⟩

theorem addPlugin_views (s : ProjectModel) (id : String) (data : CorePluginData) :
    (s.addPlugin id data).views = s.views ∧ (s.addPlugin id data).componentAt = s.componentAt ∧
      (s.addPlugin id data).bindingAt = s.bindingAt := by
  unfold ProjectModel.addPlugin getOrCreateInstance
  cases s.instances.get data.instanceName <;> exact ⟨rfl, rfl, rfl⟩

theorem addPlugin_plugins (s : ProjectModel) (id id' : String) (data : CorePluginData)
    (hne : id' ≠ id) :
    (s.addPlugin id data).plugins.get id' = s.plugins.get id' := by
  unfold addPlugin getOrCreateInstance
  cases s.instances.get data.instanceName <;> exact get_set_ne _ _ hne

theorem Linked.addPlugin (h : s.Linked) {id : String} (hid : s.plugins.get id = none)
    (data : CorePluginData) :
    (s.addPlugin id data).Linked := by
  have hsame := sameTemplates_addPlugin s id data
  obtain ⟨hv, hc, hb⟩ := addPlugin_views s id data
  exact ⟨h.plugins.addPlugin hid data, h.templates.congr hsame,
    h.views.congr hv hc hb hsame.nextRef (fun v => (hsame.live v).mpr)⟩

theorem Linked.setExports (h : s.Linked) (t : Ref) (templateExports : CoreTemplateExports) :
    (s.setExports t templateExports).Linked := by
  have hsame := sameDefinitions_setExports s t templateExports
  exact ⟨h.plugins.congr hsame.plugins, h.templates.congr hsame.templates,
    h.views.setExports t templateExports⟩

theorem Linked.dropComponent (h : s.Linked) (v : ViewRef) (c : Ref) :
    (s.dropComponent v c).Linked := by
  have hsame := sameDefinitions_dropComponent s v c
  exact ⟨h.plugins.congr hsame.plugins, h.templates.congr hsame.templates,
    h.views.dropComponent v c⟩

theorem Linked.setComponentData (h : s.Linked) {c : Ref} {data : CoreComponentData}
    (ht : data.definition.type = (s.componentAt c).data.definition.type ∨
      data.definition.type = .plugin) :
    (s.setComponentData c data).Linked := by
  have hsame := sameDefinitions_setComponentData s c data
  exact ⟨h.plugins.congr hsame.plugins, h.templates.congr hsame.templates,
    h.views.setComponentData ht⟩

theorem Linked.renameTemplate (h : s.Linked) {t : Ref} (hlive : s.Live (some t)) {newId : String}
    (hnew : s.templates.get newId = none) :
    ((s.dropTemplate (s.templateAt t).id).putTemplate t newId).Linked := by
  obtain ⟨id₀, hid₀⟩ := hlive
  have hdropped : ¬ (s.dropTemplate (s.templateAt t).id).Live (some t) := by
    rintro ⟨id, hid⟩
    obtain ⟨hne, hid⟩ := get_delete_eq_some.mp hid
    exact hne (h.templates.id id t hid).symm
  refine ⟨h.plugins.congr
    ((samePlugins_dropTemplate s _).trans (samePlugins_putTemplate _ t newId)), ?_,
    h.views.renameTemplate h.templates ⟨id₀, hid₀⟩ hnew⟩
  exact (h.templates.dropTemplate _).putTemplate hdropped (h.templates.lt id₀ t hid₀) newId

theorem Linked.eraseTemplate (h : s.Linked) {t : Ref} (hlive : s.Live (some t)) :
    (s.eraseTemplate t).Linked := by
  have hsame := sameDefinitions_deleteContents s t
  exact ⟨(h.plugins.congr hsame.plugins).congr (samePlugins_dropTemplate _ _),
    (h.templates.congr hsame.templates).dropTemplate _, h.views.eraseTemplate h.templates hlive⟩

theorem Linked.apply (h : s.Linked) {w : Write} (hw : Checked s w) : (w.apply s).Linked := by
  cases w with
  | initComponent v id d data => exact h.addComponent hw.1 hw.2.2
  | initBinding v key data source target => exact h.addBinding hw.1 hw.2 key
  | addPlugin id data => exact h.addPlugin hw data
  | displayPlugin p toolboxDisplay => exact h.setPluginData p _
  | importPlugin p data => exact h.setPluginData p data
  | deletePlugin id p => exact h.dropPlugin hw.1
  | importClearPlugin id p => exact h.dropPlugin hw
  | addTemplate id templateExports =>
    exact ⟨h.plugins.congr (samePlugins_addTemplate s id templateExports),
      h.templates.addTemplate id templateExports, h.views.addTemplate hw templateExports⟩
  | renameTemplate t newId => exact h.renameTemplate hw.1 hw.2
  | clearTemplate t => exact h.eraseTemplate hw.1
  | exportConfig t exportId item => exact h.setExports t _
  | exportMember t exportId item => exact h.setExports t _
  | clearExport t exportType exportId =>
    cases exportType with
    | config => exact h.setExports t _
    | member => exact h.setExports t _
  | addComponent v id d data => exact h.addComponent hw.1 hw.2.2.1
  | renameComponent v c newId =>
    obtain ⟨_, id, hc⟩ := hw
    have hsame := sameDefinitions_renameComponent s v c newId
    exact ⟨h.plugins.congr hsame.plugins, h.templates.congr hsame.templates,
      h.views.renameComponent hc newId⟩
  | clearComponent v c => exact h.dropComponent v c
  | importClearComponent v c => exact h.dropComponent v c
  | moveComponent c position => exact h.setComponentData (Or.inl rfl)
  | setConfig c config => exact h.setComponentData (Or.inl rfl)
  | importComponent c p external config => exact h.setComponentData (Or.inr rfl)
  | addBinding v data source target => exact h.addBinding hw.1 hw.2.1 _
  | clearBinding v b =>
    have hsame := sameDefinitions_dropBinding s v b
    exact ⟨h.plugins.congr hsame.plugins, h.templates.congr hsame.templates,
      h.views.dropBinding v b⟩

/-- A write that adds, renames or removes a plugin or a template. -/
def WritesDefinitions : Write → Prop
  | .addPlugin .. | .deletePlugin .. | .importClearPlugin .. | .addTemplate .. | .renameTemplate ..
  | .clearTemplate .. => True
  | _ => False

theorem sameDefinitions_apply (s : ProjectModel) {w : Write} (hw : ¬ WritesDefinitions w) :
    SameDefinitions s (w.apply s) := by
  cases w with
  | initComponent v id d data => exact sameDefinitions_addComponent s v id d data
  | initBinding v key data source target =>
    exact sameDefinitions_addBinding s v key data source target
  | displayPlugin p toolboxDisplay => exact sameDefinitions_setPluginData s p _
  | importPlugin p data => exact sameDefinitions_setPluginData s p data
  | exportConfig t exportId item => exact sameDefinitions_setExports s t _
  | exportMember t exportId item => exact sameDefinitions_setExports s t _
  | clearExport t exportType exportId => cases exportType <;> exact sameDefinitions_setExports s t _
  | addComponent v id d data => exact sameDefinitions_addComponent s v id d data
  | renameComponent v c newId => exact sameDefinitions_renameComponent s v c newId
  | clearComponent v c => exact sameDefinitions_dropComponent s v c
  | importClearComponent v c => exact sameDefinitions_dropComponent s v c
  | moveComponent c position => exact sameDefinitions_setComponentData s c _
  | setConfig c config => exact sameDefinitions_setComponentData s c _
  | importComponent c p external config => exact sameDefinitions_setComponentData s c _
  | addBinding v data source target => exact sameDefinitions_addBinding s v _ data source target
  | clearBinding v b => exact sameDefinitions_dropBinding s v b
  | _ => exact absurd trivial hw

/-- The templates that are neither renamed nor cleared keep their ids. -/
theorem Linked.template_apply (h : s.Linked) {w : Write} (hw : Checked s w) {id : String} {t : Ref}
    (ht : s.templates.get id = some t) (hrename : ∀ newId, w ≠ .renameTemplate t newId)
    (hclear : w ≠ .clearTemplate t) :
    (w.apply s).templates.get id = some t := by
  have hdrop : ∀ u, s.Live (some u) → u ≠ t → id ≠ (s.templateAt u).id := by
    rintro u ⟨id', hu⟩ hne rfl
    rw [h.templates.id id' u hu, hu, Option.some.injEq] at ht
    exact hne ht
  by_cases hd : WritesDefinitions w
  · cases w with
    | addPlugin id' data =>
      exact (congrArg (get · id) (sameTemplates_addPlugin s id' data).templates).trans ht
    | deletePlugin id' p => exact ht
    | importClearPlugin id' p => exact ht
    | addTemplate id' templateExports =>
      refine (get_set_ne _ _ ?_).trans ht
      rintro rfl
      cases ht.symm.trans hw
    | renameTemplate u newId =>
      have hne : u ≠ t := fun he => hrename newId (he ▸ rfl)
      refine get_set_eq_some.mpr (.inr ⟨?_, get_delete_eq_some.mpr ⟨hdrop u hw.1 hne, ht⟩⟩)
      rintro rfl
      cases ht.symm.trans hw.2
    | clearTemplate u =>
      have hsame := (sameDefinitions_deleteContents s u).templates
      refine get_delete_eq_some.mpr ⟨?_, hsame.templates ▸ ht⟩
      rw [hsame.template]
      exact hdrop u hw.1 fun he => hclear (he ▸ rfl)
    | _ => exact hd.elim
  · exact (congrArg (get · id) (sameDefinitions_apply s hd).templates.templates).trans ht

theorem Linked.plugin_apply {w : Write} (hw : Checked s w) {id : String} {p : Ref}
    (hp : s.plugins.get id = some p) (hdelete : ∀ id', w ≠ .deletePlugin id' p)
    (hclear : ∀ id', w ≠ .importClearPlugin id' p) : (w.apply s).plugins.get id = some p := by
  have hdrop : ∀ id' q, s.plugins.get id' = some q → q ≠ p → (s.plugins.delete id').get id =
      some p := by
    intro id' q hq hne
    refine get_delete_eq_some.mpr ⟨?_, hp⟩
    rintro rfl
    rw [hp, Option.some.injEq] at hq
    exact hne hq.symm
  by_cases hd : WritesDefinitions w
  · cases w with
    | addPlugin id' data =>
      refine (addPlugin_plugins s id' id data ?_).trans hp
      rintro rfl
      exact absurd (Eq.trans (Eq.symm hp) hw) (by simp)
    | deletePlugin id' q => exact hdrop id' q hw.1 (fun he => hdelete id' (he ▸ rfl))
    | importClearPlugin id' q => exact hdrop id' q hw (fun he => hclear id' (he ▸ rfl))
    | addTemplate id' templateExports => exact hp
    | renameTemplate t newId => exact hp
    | clearTemplate t => exact
      (congrArg (get · id) (sameDefinitions_deleteContents s t).plugins.plugins).trans hp
    | _ => exact hd.elim
  · exact (congrArg (get · id) (sameDefinitions_apply s hd).plugins.plugins).trans hp

theorem empty_linked : empty.Linked := by
  refine ⟨⟨?_, ?_, ?_, ?_, ?_, ?_, ?_⟩, ⟨?_, ?_, ?_⟩, ⟨?_, ?_, ?_, ?_⟩⟩ <;> intros
    <;> simp_all [empty, allBindings]

end ProjectModel
end MylifeHome.Studio.Core
