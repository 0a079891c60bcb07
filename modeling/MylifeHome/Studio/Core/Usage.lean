import MylifeHome.Studio.Core.Permits

/-!
# The usage of definitions

Plugins, templates and instances keep a register of the components that use
them, under the id of the component alone. The registers are exact as long as no
component gets an id under which one of its registers already has a component,
which may be one of another view.
-/
namespace MylifeHome.Studio.Core

open MylifeHome.Lib MylifeHome.Lib.Program OMap Function CoreOpenedProject

/-- A `usage` map: that of a definition, or that of an instance. -/
inductive Register where
  | definition (d : DefRef)
  | «instance» (i : Ref)
  deriving DecidableEq

namespace ProjectModel

variable {s s' : ProjectModel} {r : Register}

def register (s : ProjectModel) : Register → OMap String Ref
  | .definition d => s.usage d
  | .instance i => (s.instanceAt i).usage

/-- The register is told of the components of the definition. -/
def Records (s : ProjectModel) : Register → DefRef → Prop
  | .definition d', d => d = d'
  | .instance i, d => s.usageInstance d = some i

instance (s : ProjectModel) (r : Register) (d : DefRef) : Decidable (s.Records r d) := by
  cases r <;> unfold Records <;> infer_instance

/-- A component of a view whose definition the register records. -/
def Uses (s : ProjectModel) (r : Register) (id : String) (c : Ref) : Prop :=
  ∃ v, (s.views v).components.get id = some c ∧ s.Records r (s.componentAt c).definition

/-- The register has exactly the components that it has to record. -/
def IndexedAt (s : ProjectModel) (r : Register) : Prop := (s.register r).Indexes (s.Uses r)

theorem register_mapUsage (d : DefRef) (f : OMap String Ref → OMap String Ref) (r : Register) :
    (s.mapUsage d f).register r = if s.Records r d then f (s.register r) else s.register r := by
  cases r with
  | definition d' =>
    cases d' with
    | plugin p =>
      show ((s.mapUsage d f).pluginAt p).usage = _
      rw [mapUsage_pluginAt]
      rfl
    | template t =>
      show ((s.mapUsage d f).templateAt t).usage = _
      rw [mapUsage_templateAt]
      rfl
  | «instance» i =>
    show ((s.mapUsage d f).instanceAt i).usage = _
    rw [mapUsage_instanceAt]
    rfl

theorem usageInstance_congr (h : ∀ p, (s'.pluginAt p).instance = (s.pluginAt p).instance)
    (d : DefRef) :
    s'.usageInstance d = s.usageInstance d := by
  cases d with
  | plugin p => exact congrArg some (h p)
  | template t => rfl

theorem records_congr (h : ∀ p, (s'.pluginAt p).instance = (s.pluginAt p).instance) (r : Register)
    (d : DefRef) :
    s'.Records r d ↔ s.Records r d := by
  cases r with
  | definition d' => exact Iff.rfl
  | «instance» i => simp only [Records, usageInstance_congr h]

/-! ## Writes that change no component -/

/-- The components, their definitions and the registers are the same. -/
structure SameUsage (s s' : ProjectModel) : Prop where
  components : ∀ v, (s'.views v).components = (s.views v).components
  definition : ∀ c, (s'.componentAt c).definition = (s.componentAt c).definition
  register : ∀ r, s'.register r = s.register r
  «instance» : ∀ p, (s'.pluginAt p).instance = (s.pluginAt p).instance

theorem SameUsage.refl (s : ProjectModel) : SameUsage s s :=
  ⟨fun _ => rfl, fun _ => rfl, fun _ => rfl, fun _ => rfl⟩

theorem SameUsage.trans {s'' : ProjectModel} (h : SameUsage s s') (h' : SameUsage s' s'') :
    SameUsage s s'' :=
  ⟨fun v => (h'.components v).trans (h.components v),
    fun c => (h'.definition c).trans (h.definition c),
    fun r => (h'.register r).trans (h.register r), fun p => (h'.instance p).trans (h.instance p)⟩

theorem SameUsage.uses (h : SameUsage s s') (r : Register) (id : String) (c : Ref) :
    s'.Uses r id c ↔ s.Uses r id c := by
  simp only [Uses, h.components, h.definition, records_congr h.instance]

theorem IndexedAt.congr (h : s.IndexedAt r) (hs : SameUsage s s') : s'.IndexedAt r := by
  unfold IndexedAt
  rw [hs.register]
  exact OMap.Indexes.congr h (hs.uses r)

/-- No plugin, template or instance is written. -/
theorem register_eq (hp : s'.pluginAt = s.pluginAt) (hi : s'.instanceAt = s.instanceAt)
    (ht : s'.templateAt = s.templateAt) (r : Register) : s'.register r = s.register r := by
  cases r with
  | definition d => cases d <;> simp only [register, usage, hp, ht]
  | «instance» i => simp only [register, hi]

theorem register_updView (v : ViewRef) (f : ViewModel → ViewModel) (r : Register) :
    (s.updView v f).register r = s.register r := register_eq rfl rfl rfl r

theorem register_updComponent (c : Ref) (f : ComponentModel → ComponentModel) (r : Register) :
    (s.updComponent c f).register r = s.register r := register_eq rfl rfl rfl r

theorem register_newComponent (o : ComponentModel) (r : Register) :
    (s.newComponent o).register r = s.register r :=
  register_eq rfl rfl rfl r

section

variable (s)

theorem sameUsage_setPluginData (p : Ref) (data : CorePluginData) :
    SameUsage s (s.setPluginData p data) := by
  have hp : ∀ q, ((s.setPluginData p data).pluginAt q).usage = (s.pluginAt q).usage ∧
      ((s.setPluginData p data).pluginAt q).instance = (s.pluginAt q).instance := by
    intro q
    by_cases hq : q = p
    · subst hq; simp [setPluginData, updPlugin]
    · simp [setPluginData, updPlugin, hq]
  refine ⟨fun _ => rfl, fun _ => rfl, ?_, fun q => (hp q).2⟩
  intro r
  cases r with
  | definition d =>
    cases d with
    | plugin q => exact (hp q).1
    | template t => rfl
  | «instance» i => rfl

theorem sameUsage_setExports (t : Ref) (templateExports : CoreTemplateExports) :
    SameUsage s (s.setExports t templateExports) := by
  refine ⟨fun _ => rfl, fun _ => rfl, ?_, fun _ => rfl⟩
  intro r
  cases r with
  | definition d =>
    cases d with
    | plugin p => rfl
    | template u =>
      by_cases hu : u = t
      · subst hu; simp [register, usage, setExports, updTemplate]
      · simp [register, usage, setExports, updTemplate, hu]
  | «instance» i => rfl

theorem sameUsage_setComponentData (c : Ref) (data : CoreComponentData) :
    SameUsage s (s.setComponentData c data) :=
  ⟨fun _ => rfl, fun x => by rw [setComponentData_componentAt], register_eq rfl rfl rfl,
    fun _ => rfl⟩

theorem sameUsage_addBinding (v : ViewRef) (key : String) (data : CoreBindingData)
    (source target : Ref) :
    SameUsage s (s.addBinding v key data source target) :=
  ⟨addBinding_components v key data source target, fun x => by rw [addBinding_componentAt],
    register_eq rfl rfl rfl, fun _ => rfl⟩

theorem sameUsage_dropBinding (v : ViewRef) (b : Ref) : SameUsage s (s.dropBinding v b) :=
  ⟨dropBinding_components v b, fun x => by rw [dropBinding_componentAt], register_eq rfl rfl rfl,
    fun _ => rfl⟩

theorem sameUsage_rebuildBinding (v : ViewRef) (b : Ref) : SameUsage s (s.rebuildBinding v b) :=
  ⟨rebuildBinding_components v b, fun _ => rfl, register_eq rfl rfl rfl, fun _ => rfl⟩

end

theorem SameUsage.foldl {f : ProjectModel → Ref → ProjectModel} (hf : ∀ s x, SameUsage s (f s x))
    (l : List Ref) (s : ProjectModel) : SameUsage s (l.foldl f s) := by
  induction l generalizing s with
  | nil => exact .refl s
  | cons x l ih => exact (hf s x).trans (ih (f s x))

/-- After the component itself, its bindings and the exports are renamed. -/
theorem sameUsage_renameComponent (s : ProjectModel) (v : ViewRef) (c : Ref) (newId : String) :
    SameUsage (s.renameComponentAt v c newId) (s.renameComponent v c newId) := by
  have h := SameUsage.foldl (fun s b => sameUsage_rebuildBinding s v b)
    ((s.renameComponentAt v c newId).allBindings c) (s.renameComponentAt v c newId)
  cases v with
  | none => exact h
  | some t => exact h.trans (sameUsage_setExports _ _ _)

/-! ## Writes of components -/

section

variable {v : ViewRef} {id : String} {d : DefRef} {data : CoreComponentData} {c : Ref}

theorem addComponent_register (r : Register) :
    (s.addComponent v id d data).register r =
      if s.Records r d then (s.register r).set id s.nextRef else s.register r := by
  unfold addComponent registerUsage
  dsimp only
  rw [register_updView, register_mapUsage, register_updView, register_newComponent]
  refine if_congr (records_congr (fun _ => rfl) r d) ?_ rfl
  simp [updView, newComponent]

theorem uses_addComponent (hs : s.Linked) (hid : (s.views v).components.get id = none)
    (r : Register) (id' : String) (x : Ref) : (s.addComponent v id d data).Uses r id' x ↔
      (s.Records r d ∧ id' = id ∧ x = s.nextRef) ∨ s.Uses r id' x := by
  have hold : ∀ w, (s.views w).components.get id' = some x →
      ((s.addComponent v id d data).componentAt x).definition = (s.componentAt x).definition := by
    intro w hw
    rw [addComponent_componentAt, update_of_ne (Nat.ne_of_lt (hs.views.component w id' x hw).lt)]
  have hrec : ∀ d', (s.addComponent v id d data).Records r d' ↔ s.Records r d' := records_congr
    (fun p => ((sameDefinitions_addComponent s v id d data).plugins.plugin p).2) r
  simp only [Uses, hrec]
  constructor
  · rintro ⟨w, hw, hr⟩
    rw [addComponent_views] at hw
    split at hw
    · next hwv =>
      subst hwv
      rcases get_set_eq_some.mp hw with ⟨rfl, rfl⟩ | ⟨_, hw⟩
      · rw [addComponent_componentAt, update_self] at hr
        exact Or.inl ⟨hr, rfl, rfl⟩
      · exact Or.inr ⟨w, hw, hold w hw ▸ hr⟩
    · exact Or.inr ⟨w, hw, hold w hw ▸ hr⟩
  · rintro (⟨hr, rfl, rfl⟩ | ⟨w, hw, hr⟩)
    · refine ⟨v, ?_, ?_⟩
      · rw [addComponent_views, if_pos rfl, get_set_self]
      · rw [addComponent_componentAt, update_self]
        exact hr
    · refine ⟨w, ?_, (hold w hw).symm ▸ hr⟩
      rw [addComponent_views]
      split
      · next hwv =>
        subst hwv
        refine get_set_eq_some.mpr (Or.inr ⟨?_, hw⟩)
        rintro rfl
        rw [hid] at hw
        cases hw
      · exact hw

theorem IndexedAt.addComponent (h : s.IndexedAt r) (hs : s.Linked)
    (hid : (s.views v).components.get id = none)
    (hfree : s.Records r d → ∀ x, ¬ s.Uses r id x) : (s.addComponent v id d data).IndexedAt r := by
  unfold IndexedAt
  rw [addComponent_register]
  split
  · next hr =>
    refine OMap.Indexes.congr (OMap.Indexes.set h (hfree hr) s.nextRef) (fun id' x => ?_)
    simp [uses_addComponent hs hid, hr]
  · next hr =>
    refine OMap.Indexes.congr h (fun id' x => ?_)
    simp [uses_addComponent hs hid, hr]

theorem dropComponent_register (r : Register) :
    (s.dropComponent v c).register r =
      if s.Records r (s.componentAt c).definition then (s.register r).delete (s.componentAt c).id
      else s.register r := by
  unfold dropComponent unregisterUsage
  dsimp only
  rw [register_updView, register_mapUsage, register_updView]
  exact if_congr (records_congr (fun _ => rfl) r _) rfl rfl

theorem get_dropComponent (hs : s.Linked) (hc : (s.views v).components.get id = some c)
    (w : ViewRef) (id' : String)
    (x : Ref) : ((s.dropComponent v c).views w).components.get id' = some x ↔
      x ≠ c ∧ (s.views w).components.get id' = some x := by
  have hlinked := hs.views.component v id c hc
  have hx : (s.views w).components.get id' = some x →
      (x ≠ c ↔ (w = v → id' ≠ (s.componentAt c).id)) := by
    intro hw
    have hl := hs.views.component w id' x hw
    constructor
    · rintro hne rfl rfl
      rw [hlinked.id, hc, Option.some.injEq] at hw
      exact hne hw.symm
    · rintro hne rfl
      exact hne (hl.owner.symm.trans hlinked.owner) hl.id.symm
  rw [dropComponent_views]
  split
  · next hwv =>
    subst hwv
    rw [get_delete_eq_some]
    refine and_congr_left fun hw => ?_
    simpa using (hx hw).symm
  · next hwv => exact ⟨fun hw => ⟨(hx hw).mpr (fun he => absurd he hwv), hw⟩, fun hw => hw.2⟩

theorem uses_dropComponent (hs : s.Linked) (hc : (s.views v).components.get id = some c)
    (r : Register) (id' : String)
    (x : Ref) : (s.dropComponent v c).Uses r id' x ↔ x ≠ c ∧ s.Uses r id' x := by
  have hrec : ∀ d', (s.dropComponent v c).Records r d' ↔ s.Records r d' := records_congr
    (fun p => ((sameDefinitions_dropComponent s v c).plugins.plugin p).2) r
  simp only [Uses, hrec, get_dropComponent hs hc]
  constructor
  · rintro ⟨w, ⟨hne, hw⟩, hr⟩
    exact ⟨hne, w, hw, hr⟩
  · rintro ⟨hne, w, hw, hr⟩
    exact ⟨w, ⟨hne, hw⟩, hr⟩

theorem IndexedAt.dropComponent (h : s.IndexedAt r) (hs : s.Linked)
    (hc : (s.views v).components.get id = some c) :
    (s.dropComponent v c).IndexedAt r := by
  have hlinked := hs.views.component v id c hc
  unfold IndexedAt
  rw [dropComponent_register]
  split
  · next hr =>
    refine OMap.Indexes.congr (OMap.Indexes.delete h _) (fun id' x => ?_)
    rw [uses_dropComponent hs hc]
    -- The entry under the id of the component is the component.
    refine and_congr_left fun hx => not_congr ?_
    constructor
    · rintro rfl
      obtain ⟨w, hw, _⟩ := hx
      exact (hs.views.component w id' x hw).id.symm
    · rintro rfl
      exact OMap.Indexes.functional h hx ⟨v, hlinked.id ▸ hc, hr⟩
  · next hr =>
    refine OMap.Indexes.congr h (fun id' x => ?_)
    rw [uses_dropComponent hs hc]
    refine ⟨fun hx => hx.2, fun hx => ⟨?_, hx⟩⟩
    rintro rfl
    exact hr hx.choose_spec.2

theorem renameComponentAt_register (newId : String) (r : Register) :
    (s.renameComponentAt v c newId).register r =
      if s.Records r (s.componentAt c).definition then
        ((s.register r).delete (s.componentAt c).id).set newId c
      else s.register r := by
  have hc : ((s.dropComponent v c).updComponent c (fun o => { o with id := newId })).componentAt c =
      { s.componentAt c with id := newId } := by
    rw [updComponent_componentAt, if_pos rfl]
    rfl
  unfold renameComponentAt registerUsage
  dsimp only
  rw [register_updView, register_mapUsage, register_updView, register_updComponent,
    updView_componentAt, hc, dropComponent_register]
  have hrec : ∀ {s' : ProjectModel}, s'.pluginAt = (s.dropComponent v c).pluginAt →
      ∀ d', s'.Records r d' ↔ s.Records r d' :=
    fun hp => records_congr
      (fun p => by rw [hp]; exact ((sameDefinitions_dropComponent s v c).plugins.plugin p).2) r
  refine (if_congr (hrec rfl _) rfl rfl).trans ?_
  by_cases hr : s.Records r (s.componentAt c).definition
  · simp only [if_pos hr]
  · simp only [if_neg hr]

theorem uses_renameComponentAt (hs : s.Linked) (hc : (s.views v).components.get id = some c)
    {newId : String} (hnew : (s.views v).components.get newId = none) (r : Register) (id' : String)
    (x : Ref) :
    (s.renameComponentAt v c newId).Uses r id' x ↔
      (s.Records r (s.componentAt c).definition ∧ id' = newId ∧ x = c) ∨
        (x ≠ c ∧ s.Uses r id' x) := by
  have hrec : ∀ d', (s.renameComponentAt v c newId).Records r d' ↔
      (s.dropComponent v c).Records r d' := by
    intro d'
    rw [records_congr (s := s)
      (fun p => ((sameDefinitions_renameComponentAt s v c newId).plugins.plugin p).2),
      records_congr (s := s) (fun p => ((sameDefinitions_dropComponent s v c).plugins.plugin p).2)]
  have hrecs : ∀ d', (s.dropComponent v c).Records r d' ↔ s.Records r d' :=
    records_congr (fun p => ((sameDefinitions_dropComponent s v c).plugins.plugin p).2) r
  have hget : ∀ w, ((s.renameComponentAt v c newId).views w).components.get id' = some x ↔
      (w = v ∧ id' = newId ∧ c = x) ∨
        ((w = v → id' ≠ newId) ∧ ((s.dropComponent v c).views w).components.get id' = some x) := by
    intro w
    rw [renameComponentAt_views, dropComponent_views]
    split
    · next hw => simp [hw, get_set_eq_some]
    · next hw => simp [hw]
  rw [← uses_dropComponent hs hc]
  simp only [Uses, hrec, renameComponentAt_componentAt]
  constructor
  · rintro ⟨w, hw, hr⟩
    rcases (hget w).mp hw with ⟨_, rfl, rfl⟩ | ⟨_, hw⟩
    · exact Or.inl ⟨(hrecs _).mp hr, rfl, rfl⟩
    · exact Or.inr ⟨w, hw, hr⟩
  · rintro (⟨hr, rfl, rfl⟩ | ⟨w, hw, hr⟩)
    · exact ⟨v, (hget v).mpr (Or.inl ⟨rfl, rfl, rfl⟩), (hrecs _).mpr hr⟩
    · refine ⟨w, (hget w).mpr (Or.inr ⟨?_, hw⟩), hr⟩
      rintro rfl rfl
      rw [dropComponent_views, if_pos rfl] at hw
      have hw := (get_delete_eq_some.mp hw).2
      rw [hnew] at hw
      cases hw

theorem IndexedAt.renameComponentAt (h : s.IndexedAt r) (hs : s.Linked)
    (hc : (s.views v).components.get id = some c) {newId : String}
    (hnew : (s.views v).components.get newId = none)
    (hfree : s.Records r (s.componentAt c).definition → ∀ x, ¬ s.Uses r newId x) :
    (s.renameComponentAt v c newId).IndexedAt r := by
  have hdrop : (s.dropComponent v c).IndexedAt r := h.dropComponent hs hc
  unfold IndexedAt at hdrop ⊢
  rw [dropComponent_register] at hdrop
  rw [renameComponentAt_register]
  split
  · next hr =>
    rw [if_pos hr] at hdrop
    refine OMap.Indexes.congr (OMap.Indexes.set hdrop ?_ c) (fun id' x => ?_)
    · intro x hx
      exact hfree hr x ((uses_dropComponent hs hc r newId x).mp hx).2
    · rw [uses_renameComponentAt hs hc hnew, uses_dropComponent hs hc]
      simp [hr]
  · next hr =>
    rw [if_neg hr] at hdrop
    refine OMap.Indexes.congr hdrop (fun id' x => ?_)
    rw [uses_renameComponentAt hs hc hnew, uses_dropComponent hs hc]
    simp [hr]

end

/-! ## Writes of definitions -/

/-- The instance of a plugin that is used was made before. -/
def InstancesBefore (s : ProjectModel) : Prop :=
  ∀ v id c p, (s.views v).components.get id = some c → (s.componentAt c).definition = .plugin p →
    (s.pluginAt p).instance < s.nextRef

/-- New objects have no usage, and no component knows them. -/
theorem IndexedAt.extend (h : s.IndexedAt r) (hs : s.Linked)
    (hbefore : ∀ i, r = .instance i → s.InstancesBefore)
    (hviews : ∀ w id, (s'.views w).components.get id = (s.views w).components.get id)
    (hcomponents : s'.componentAt = s.componentAt)
    (hplugin : ∀ p, ((s'.pluginAt p).usage = (s.pluginAt p).usage ∧
      (s'.pluginAt p).instance = (s.pluginAt p).instance) ∨
        (s.nextRef ≤ p ∧ (s'.pluginAt p).usage = ∅))
    (htemplate : ∀ t, (s'.templateAt t).usage = (s.templateAt t).usage ∨
      (s.nextRef ≤ t ∧ (s'.templateAt t).usage = ∅))
    (hinstance : ∀ i, (s'.instanceAt i).usage = (s.instanceAt i).usage ∨
      (s.nextRef ≤ i ∧ (s'.instanceAt i).usage = ∅)) : s'.IndexedAt r := by
  have huses : ∀ id x, s'.Uses r id x ↔ s.Uses r id x := by
    intro id x
    simp only [Uses, hviews, hcomponents]
    refine exists_congr fun w => and_congr_right fun hw => ?_
    have hlt := (hs.views.component w id x hw).definition_lt
    cases r with
    | definition d => exact Iff.rfl
    | «instance» i =>
      cases hd : (s.componentAt x).definition with
      | template t => exact Iff.rfl
      | plugin p =>
        rw [hd] at hlt
        rcases hplugin p with ⟨_, hp⟩ | ⟨hle, _⟩
        · simp only [Records, usageInstance, hp]
        · exact absurd hlt (Nat.not_lt.mpr hle)
  have hdef : ∀ d, r = .definition d → s.nextRef ≤ DefRef.ref d → ∀ id x, ¬ s.Uses r id x := by
    rintro d rfl hle id x ⟨w, hw, hr⟩
    have hlt := (hs.views.component w id x hw).definition_lt
    rw [show (s.componentAt x).definition = d from hr] at hlt
    exact Nat.not_lt.mpr hle hlt
  have hregister : s'.register r = s.register r ∨
      (s'.register r = ∅ ∧ ∀ id x, ¬ s.Uses r id x) := by
    cases r with
    | definition d =>
      cases d with
      | plugin p => exact (hplugin p).imp (fun hp => hp.1) (fun hp => ⟨hp.2, hdef _ rfl hp.1⟩)
      | template t => exact (htemplate t).imp_right (fun ht => ⟨ht.2, hdef _ rfl ht.1⟩)
    | «instance» i =>
      refine (hinstance i).imp_right (fun hi => ⟨hi.2, ?_⟩)
      rintro id x ⟨w, hw, hr⟩
      cases hd : (s.componentAt x).definition with
      | template t => simp [hd, Records, usageInstance] at hr
      | plugin p =>
        have hlt := hbefore i rfl w id x p hw hd
        simp only [hd, Records, usageInstance, Option.some.injEq] at hr
        exact Nat.not_lt.mpr hi.1 (hr ▸ hlt)
  unfold IndexedAt
  rcases hregister with hr | ⟨hr, hno⟩
  · rw [hr]
    exact OMap.Indexes.congr h huses
  · rw [hr]
    intro id x
    simp [huses, hno]

theorem getOrCreateInstance_usage (s : ProjectModel) (n : String) (i : Ref) :
    ((s.getOrCreateInstance n).1.instanceAt i).usage = (s.instanceAt i).usage ∨
      (s.nextRef ≤ i ∧ ((s.getOrCreateInstance n).1.instanceAt i).usage = ∅) := by
  unfold getOrCreateInstance
  split
  · exact Or.inl rfl
  · dsimp only [newInstance]
    by_cases hi : i = s.nextRef
    · subst hi
      exact Or.inr ⟨le_refl _, by rw [update_self]⟩
    · exact Or.inl (by rw [update_of_ne hi])

theorem addPluginTo_usage (s : ProjectModel) (i : Ref) (id : String) (data : CorePluginData)
    (j : Ref) :
    ((s.addPluginTo i id data).instanceAt j).usage = (s.instanceAt j).usage := by
  by_cases hj : j = i
  · subst hj; simp [addPluginTo, updInstance, newPlugin]
  · simp [addPluginTo, updInstance, newPlugin, hj]

theorem getOrCreateInstance_objects (s : ProjectModel) (n : String) :
    (s.getOrCreateInstance n).1.pluginAt = s.pluginAt ∧ (s.getOrCreateInstance n).1.templateAt =
      s.templateAt ∧
      s.nextRef ≤ (s.getOrCreateInstance n).1.nextRef := by
  unfold getOrCreateInstance
  split
  · exact ⟨rfl, rfl, le_refl _⟩
  · exact ⟨rfl, rfl, Nat.le_succ _⟩

theorem IndexedAt.addPlugin (h : s.IndexedAt r) (hs : s.Linked)
    (hbefore : ∀ i, r = .instance i → s.InstancesBefore) (id : String)
    (data : CorePluginData) : (s.addPlugin id data).IndexedAt r := by
  obtain ⟨hv, hc, _⟩ := addPlugin_views s id data
  obtain ⟨hp, ht, hn⟩ := getOrCreateInstance_objects s data.instanceName
  refine h.extend hs hbefore (fun w id => by rw [hv]) hc ?_ ?_ ?_
  · intro p
    by_cases hnew : p = (s.getOrCreateInstance data.instanceName).1.nextRef
    · subst hnew
      exact Or.inr ⟨hn, by simp [ProjectModel.addPlugin, addPluginTo, newPlugin, updInstance]⟩
    · have hsame : (s.addPlugin id data).pluginAt p = s.pluginAt p :=
        (update_of_ne hnew _ _).trans (congrFun hp p)
      exact Or.inl ⟨by rw [hsame], by rw [hsame]⟩
  · intro t
    exact Or.inl (congrArg TemplateModel.usage (congrFun ht t))
  · intro i
    have hi := getOrCreateInstance_usage s data.instanceName i
    rw [← addPluginTo_usage (s.getOrCreateInstance data.instanceName).1
      (s.getOrCreateInstance data.instanceName).2 id data i] at hi
    exact hi

theorem IndexedAt.addTemplate (h : s.IndexedAt r) (hs : s.Linked)
    (hbefore : ∀ i, r = .instance i → s.InstancesBefore) (id : String)
    (templateExports : CoreTemplateExports) :
    (s.addTemplate id templateExports).IndexedAt r := by
  refine h.extend hs hbefore ?_ rfl (fun _ => Or.inl ⟨rfl, rfl⟩) ?_ (fun _ => Or.inl rfl)
  · intro w id'
    show (update s.views (some s.nextRef) {} w).components.get id' = _
    rw [update_apply]
    split
    · next hw =>
      subst hw
      -- A view that is not live has no component.
      refine (Eq.symm ?_ : (none : Option Ref) = _)
      by_contra hne
      obtain ⟨c, hc⟩ := Option.ne_none_iff_exists'.mp hne
      obtain ⟨id₀, hid₀⟩ := (hs.views.component _ _ _ hc).live
      exact Nat.lt_irrefl _ (hs.templates.lt _ _ hid₀)
    · rfl
  · intro t
    by_cases ht : t = s.nextRef
    · subst ht
      exact Or.inr ⟨le_refl _, by simp [ProjectModel.addTemplate, newTemplate]⟩
    · exact Or.inl (congrArg TemplateModel.usage (update_of_ne ht _ _))

/-- The components of a view, one after the other. -/
theorem IndexedAt.dropComponents {v : ViewRef} (l : List Ref) (hl : l.Nodup) {s : ProjectModel}
    (h : s.IndexedAt r) (hs : s.Linked)
    (hplaced : ∀ c ∈ l, ∃ id, (s.views v).components.get id = some c) :
    (l.foldl (fun s c => s.dropComponent v c) s).IndexedAt r := by
  induction l generalizing s with
  | nil => exact h
  | cons c l ih =>
    obtain ⟨hc, hl⟩ := List.nodup_cons.mp hl
    obtain ⟨id, hid⟩ := hplaced c List.mem_cons_self
    refine ih hl (h.dropComponent hs hid) (hs.dropComponent v c) ?_
    intro x hx
    obtain ⟨id', hid'⟩ := hplaced x (List.mem_cons_of_mem _ hx)
    exact ⟨id', (get_dropComponent hs hid v id' x).mpr ⟨fun he => hc (he ▸ hx), hid'⟩⟩

theorem IndexedAt.eraseTemplate (h : s.IndexedAt r) (hs : s.Linked) (t : Ref) :
    (s.eraseTemplate t).IndexedAt r := by
  have hdrop : ((s.views (some t)).components.values.foldl (fun s c => s.dropComponent (some t) c)
      s).IndexedAt r := by
    refine h.dropComponents _ ?_ hs (fun c hc => mem_values.mp hc)
    exact values_nodup (fun id c hc => (hs.views.component _ id c hc).id)
  have hcontents : (s.deleteContents t).IndexedAt r :=
    hdrop.congr (SameUsage.foldl (fun s b => sameUsage_dropBinding s (some t) b) _ _)
  exact hcontents.congr ⟨fun _ => rfl, fun _ => rfl, register_eq rfl rfl rfl, fun _ => rfl⟩

theorem sameUsage_dropPlugin (s : ProjectModel) (id : String) (p : Ref) :
    SameUsage s (s.dropPlugin id p) := by
  refine ⟨fun _ => rfl, fun _ => rfl, ?_, fun _ => rfl⟩
  intro r
  cases r with
  | definition d => cases d <;> rfl
  | «instance» i =>
    show ((s.unregisterPlugin id p).instanceAt i).usage = (s.instanceAt i).usage
    by_cases hi : i = (s.pluginAt p).instance
    · subst hi; simp [unregisterPlugin, updInstance]
    · simp [unregisterPlugin, updInstance, hi]

theorem sameUsage_renameTemplate (s : ProjectModel) (t : Ref) (newId : String) :
    SameUsage s ((s.dropTemplate (s.templateAt t).id).putTemplate t newId) := by
  refine ⟨fun _ => rfl, fun _ => rfl, ?_, fun _ => rfl⟩
  intro r
  cases r with
  | definition d =>
    cases d with
    | plugin p => rfl
    | template u =>
      show (update s.templateAt t { s.templateAt t with id := newId } u).usage = _
      rw [update_apply]
      split
      · next hu => rw [hu]; rfl
      · rfl
  | «instance» i => rfl

/-! ## Every write -/

/-- The definition and the id of the component that a write registers. -/
def registers (s : ProjectModel) : Write → Option (DefRef × String)
  | .initComponent _ id d _ => some (d, id)
  | .addComponent _ id d _ => some (d, id)
  | .renameComponent _ c newId => some ((s.componentAt c).definition, newId)
  | _ => none

/-- A register stays exact when no component is registered in it under an id that it has already. -/
theorem IndexedAt.apply (h : s.IndexedAt r) (hs : s.Linked)
    (hbefore : ∀ i, r = .instance i → s.InstancesBefore) {w : Write} (hw : Checked s w)
    (hfree : ∀ d id, s.registers w = some (d, id) → s.Records r d → ∀ x, ¬ s.Uses r id x) :
    (w.apply s).IndexedAt r := by
  cases w with
  | initComponent v id d data => exact h.addComponent hs hw.2.1 (hfree d id rfl)
  | initBinding v key data source target =>
    exact h.congr (sameUsage_addBinding s v key data source target)
  | addPlugin id data => exact h.addPlugin hs hbefore id data
  | displayPlugin p toolboxDisplay => exact h.congr (sameUsage_setPluginData s p _)
  | importPlugin p data => exact h.congr (sameUsage_setPluginData s p data)
  | deletePlugin id p => exact h.congr (sameUsage_dropPlugin s id p)
  | importClearPlugin id p => exact h.congr (sameUsage_dropPlugin s id p)
  | addTemplate id templateExports => exact h.addTemplate hs hbefore id templateExports
  | renameTemplate t newId => exact h.congr (sameUsage_renameTemplate s t newId)
  | clearTemplate t => exact h.eraseTemplate hs t
  | exportConfig t exportId item => exact h.congr (sameUsage_setExports s t _)
  | exportMember t exportId item => exact h.congr (sameUsage_setExports s t _)
  | clearExport t exportType exportId =>
    cases exportType <;> exact h.congr (sameUsage_setExports s t _)
  | addComponent v id d data => exact h.addComponent hs hw.2.1 (hfree d id rfl)
  | renameComponent v c newId =>
    obtain ⟨hnew, id, hc⟩ := hw
    exact (h.renameComponentAt hs hc hnew (hfree _ newId rfl)).congr
      (sameUsage_renameComponent s v c newId)
  | clearComponent v c => exact h.dropComponent hs hw.choose_spec.1
  | importClearComponent v c => exact h.dropComponent hs hw.choose_spec.1
  | moveComponent c position => exact h.congr (sameUsage_setComponentData s c _)
  | setConfig c config => exact h.congr (sameUsage_setComponentData s c _)
  | importComponent c p external config => exact h.congr (sameUsage_setComponentData s c _)
  | addBinding v data source target => exact h.congr (sameUsage_addBinding s v _ data source target)
  | clearBinding v b => exact h.congr (sameUsage_dropBinding s v b)

theorem indexedAt_empty (r : Register) : empty.IndexedAt r := by
  intro id x
  have hr : empty.register r = ∅ := by
    cases r with
    | definition d => cases d <;> rfl
    | «instance» i => rfl
  rw [hr]
  simp [Uses, empty]

/-! ## The definitions that are used stay -/

/-- Some component of the view has the definition. -/
def Holds (s : ProjectModel) (v : ViewRef) (d : DefRef) : Prop :=
  ∃ id c, (s.views v).components.get id = some c ∧ (s.componentAt c).definition = d

/-- Some component has the definition. -/
def Refers (s : ProjectModel) (d : DefRef) : Prop := ∃ v, s.Holds v d

theorem IndexedAt.used_eq_false {d : DefRef} (h : s.IndexedAt (.definition d)) : s.used d = false ↔
    ¬ s.Refers d := by
  have hsize := OMap.Indexes.size_eq_zero h
  simp only [used, decide_eq_false_iff_not, Nat.not_lt, Nat.le_zero]
  refine hsize.trans ?_
  constructor
  · rintro hno ⟨v, id, c, hc, hd⟩
    exact hno id c ⟨v, hc, hd⟩
  · rintro hno id c ⟨v, hc, hd⟩
    exact hno ⟨v, id, c, hc, hd⟩

/-- A component that is left is one of the view, with the definition that it had, in the model and
in its data. -/
def KeepsNames (s s' : ProjectModel) : Prop :=
  ∀ v id c, (s'.views v).components.get id = some c →
    (∃ id', (s.views v).components.get id' = some c) ∧
    (s'.componentAt c).definition = (s.componentAt c).definition ∧
    (s'.componentAt c).data.definition = (s.componentAt c).data.definition

theorem KeepsNames.trans {s'' : ProjectModel} (h : KeepsNames s s') (h' : KeepsNames s' s'') :
    KeepsNames s s'' := by
  intro v id c hc
  obtain ⟨⟨id', hc'⟩, hd', hn'⟩ := h' v id c hc
  obtain ⟨hold, hd, hn⟩ := h v id' c hc'
  exact ⟨hold, hd'.trans hd, hn'.trans hn⟩

theorem keepsNames_of_views (hviews : ∀ v id c, (s'.views v).components.get id = some c →
      (s.views v).components.get id = some c)
    (hdef : ∀ c, (s'.componentAt c).definition = (s.componentAt c).definition)
    (hdata : ∀ c, (s'.componentAt c).data.definition = (s.componentAt c).data.definition) :
    KeepsNames s s' :=
  fun v id c hc => ⟨⟨id, hviews v id c hc⟩, hdef c, hdata c⟩

theorem keepsNames_addBinding (v : ViewRef) (key : String) (data : CoreBindingData)
    (source target : Ref) :
    KeepsNames s (s.addBinding v key data source target) :=
  keepsNames_of_views (fun w _ _ hc => addBinding_components v key data source target w ▸ hc)
    (fun _ => by rw [addBinding_componentAt]) (fun _ => by rw [addBinding_componentAt])

theorem keepsNames_dropBinding (v : ViewRef) (b : Ref) : KeepsNames s (s.dropBinding v b) :=
  keepsNames_of_views (fun w _ _ hc => dropBinding_components v b w ▸ hc)
    (fun _ => by rw [dropBinding_componentAt]) (fun _ => by rw [dropBinding_componentAt])

theorem keepsNames_dropComponent (hs : s.Linked) {v : ViewRef} {id : String} {c : Ref}
    (hc : (s.views v).components.get id = some c) : KeepsNames s (s.dropComponent v c) :=
  keepsNames_of_views (fun w id' x hx => ((get_dropComponent hs hc w id' x).mp hx).2) (fun _ => rfl)
    fun _ => rfl

theorem keepsNames_setComponentData {c : Ref} {data : CoreComponentData}
    (hdata : data.definition = (s.componentAt c).data.definition) :
    KeepsNames s (s.setComponentData c data) := by
  refine keepsNames_of_views (fun _ _ _ hc => hc) (fun x => by rw [setComponentData_componentAt])
    fun x => ?_
  rw [setComponentData_componentAt]
  dsimp only
  split
  · next hx => rw [hdata, hx]
  · rfl

theorem keepsNames_renameComponent {v : ViewRef} {id : String} {c : Ref}
    (hc : (s.views v).components.get id = some c)
    (newId : String) : KeepsNames s (s.renameComponent v c newId) := by
  have hat : KeepsNames s (s.renameComponentAt v c newId) := by
    intro w id' x hx
    rw [renameComponentAt_componentAt]
    refine ⟨?_, rfl, rfl⟩
    rw [renameComponentAt_views] at hx
    split at hx
    · next hw =>
      subst hw
      rcases get_set_eq_some.mp hx with ⟨-, rfl⟩ | ⟨-, hx⟩
      · exact ⟨id, hc⟩
      · exact ⟨id', (get_delete_eq_some.mp hx).2⟩
    · exact ⟨id', hx⟩
  have hfold : ∀ (l : List Ref) (s : ProjectModel),
      KeepsNames s (l.foldl (fun s b => s.rebuildBinding v b) s) := by
    intro l
    induction l with
    | nil => exact fun s => keepsNames_of_views (fun _ _ _ hc => hc) (fun _ => rfl) fun _ => rfl
    | cons b l ih =>
      intro s
      have hrebuild : KeepsNames s (s.rebuildBinding v b) :=
        keepsNames_of_views (fun w _ _ hc => rebuildBinding_components v b w ▸ hc) (fun _ => rfl)
          fun _ => rfl
      exact hrebuild.trans (ih _)
  have hall := hat.trans (hfold ((s.renameComponentAt v c newId).allBindings c) _)
  cases v with
  | none => exact hall
  | some t => exact hall.trans (keepsNames_of_views (fun _ _ _ hc => hc) (fun _ => rfl)
    fun _ => rfl)

theorem keepsNames_eraseTemplate (hs : s.Linked) (t : Ref) : KeepsNames s (s.eraseTemplate t) := by
  refine keepsNames_of_views (fun w id' c hc => ?_) (deleteContents_definition s t)
    (deleteContents_field (fun o => o.data.definition) (fun _ _ _ => rfl) s t)
  have hc : ((s.deleteContents t).views w).components.get id' = some c := hc
  rw [(deleteContents_views hs.views t w id').1] at hc
  split at hc
  · cases hc
  · exact hc

/-- The view and the definition of the component that a write adds. -/
def adds : Write → Option (ViewRef × DefRef)
  | .initComponent v _ d _ => some (v, d)
  | .addComponent v _ d _ => some (v, d)
  | _ => none

theorem component_addComponent (hs : s.Linked) {v w : ViewRef} {id id' : String} {d : DefRef}
    {data : CoreComponentData} {c : Ref}
    (hc : ((s.addComponent v id d data).views w).components.get id' = some c) :
    ((s.views w).components.get id' = some c ∧ (s.addComponent v id d data).componentAt c =
      s.componentAt c) ∨
      (v = w ∧ ((s.addComponent v id d data).componentAt c).definition = d ∧
        ((s.addComponent v id d data).componentAt c).data = data) := by
  have hold : (s.views w).components.get id' = some c →
      (s.addComponent v id d data).componentAt c = s.componentAt c := fun hc => by
    rw [addComponent_componentAt, update_of_ne (Nat.ne_of_lt (hs.views.component w id' c hc).lt)]
  rw [addComponent_views] at hc
  split at hc
  · next hw =>
    subst hw
    rcases get_set_eq_some.mp hc with ⟨-, rfl⟩ | ⟨-, hc⟩
    · rw [addComponent_componentAt, update_self]
      exact .inr ⟨rfl, rfl, rfl⟩
    · exact .inl ⟨hc, hold hc⟩
  · exact .inl ⟨hc, hold hc⟩

/-- Where a component of a view comes from. It was there before, with the definition that it has, in
its data as well if it is not imported; or it is added, with the definition that its data names. -/
def Origin (s : ProjectModel) (w : Write) (v : ViewRef) (c : Ref) : Prop :=
  (∃ id, (s.views v).components.get id = some c ∧
    ((w.apply s).componentAt c).definition = (s.componentAt c).definition ∧
    (((w.apply s).componentAt c).data.definition = (s.componentAt c).data.definition ∨
      ∃ p external config, w = .importComponent c p external config)) ∨
  (adds w = some (v, ((w.apply s).componentAt c).definition) ∧
    s.getDefinition ((w.apply s).componentAt c).data.definition =
      .ok ((w.apply s).componentAt c).definition)

theorem Linked.component_apply (hs : s.Linked) {w : Write} (hw : Checked s w) {v : ViewRef}
    {id : String} {c : Ref}
    (hc : ((w.apply s).views v).components.get id = some c) : s.Origin w v c := by
  have hkeeps : KeepsNames s (w.apply s) → s.Origin w v c := fun hk => by
    obtain ⟨⟨id', hold⟩, hd, hn⟩ := hk v id c hc
    exact .inl ⟨id', hold, hd, .inl hn⟩
  have hadd : ∀ {v' id' d data}, w.apply s = s.addComponent v' id' d data → adds w = some (v', d) →
      s.getDefinition data.definition = .ok d → s.Origin w v c := fun happly hadds hd => by
    unfold Origin
    rw [happly] at hc ⊢
    rcases component_addComponent hs hc with ⟨hold, heq⟩ | ⟨rfl, hdef, hdata⟩
    · exact .inl ⟨id, hold, by rw [heq], .inl (by rw [heq])⟩
    · exact .inr ⟨by rw [hdef]; exact hadds, by rw [hdef, hdata]; exact hd⟩
  have hsame : (∀ v id c, ((w.apply s).views v).components.get id = some c →
    (s.views v).components.get id = some c) →
      (w.apply s).componentAt = s.componentAt → s.Origin w v c := fun hviews hat =>
    hkeeps (keepsNames_of_views hviews (fun _ => by rw [hat]) fun _ => by rw [hat])
  cases w with
  | initComponent v' id' d data => exact hadd rfl rfl hw.2.2
  | addComponent v' id' d data => exact hadd rfl rfl hw.2.2.1
  | renameComponent v' c' newId => exact hkeeps (keepsNames_renameComponent hw.2.choose_spec newId)
  | initBinding v' key data source target =>
    exact hkeeps (keepsNames_addBinding v' key data source target)
  | addPlugin id' data =>
    obtain ⟨hv, hat, -⟩ := addPlugin_views s id' data
    exact hsame (fun v _ _ hc => congrFun hv v ▸ hc) hat
  | displayPlugin p toolboxDisplay => exact hsame (fun _ _ _ hc => hc) rfl
  | importPlugin p data => exact hsame (fun _ _ _ hc => hc) rfl
  | deletePlugin id' p => exact hsame (fun _ _ _ hc => hc) rfl
  | importClearPlugin id' p => exact hsame (fun _ _ _ hc => hc) rfl
  | addTemplate id' templateExports =>
    refine hsame (fun u k x hx => ?_) rfl
    have hx : (update s.views (some s.nextRef) {} u).components.get k = some x := hx
    rw [update_apply] at hx
    split at hx
    · cases hx
    · exact hx
  | renameTemplate t newId => exact hsame (fun _ _ _ hc => hc) rfl
  | clearTemplate t => exact hkeeps (keepsNames_eraseTemplate hs t)
  | exportConfig t exportId item => exact hsame (fun _ _ _ hc => hc) rfl
  | exportMember t exportId item => exact hsame (fun _ _ _ hc => hc) rfl
  | clearExport t exportType exportId => cases exportType <;> exact hsame (fun _ _ _ hc => hc) rfl
  | clearComponent v' c' => exact hkeeps (keepsNames_dropComponent hs hw.choose_spec.1)
  | importClearComponent v' c' => exact hkeeps (keepsNames_dropComponent hs hw.choose_spec.1)
  | moveComponent c' position => exact hkeeps (keepsNames_setComponentData rfl)
  | setConfig c' config => exact hkeeps (keepsNames_setComponentData rfl)
  | importComponent c' p external config =>
    refine Or.inl ⟨id, hc, by rw [Write.apply, setComponentData_componentAt], ?_⟩
    by_cases hcc : c = c'
    · exact .inr ⟨p, external, config, hcc ▸ rfl⟩
    · refine .inl ?_
      rw [Write.apply, setComponentData_componentAt]
      dsimp only
      rw [if_neg hcc]
  | addBinding v' data source target => exact hkeeps (keepsNames_addBinding v' _ data source target)
  | clearBinding v' b => exact hkeeps (keepsNames_dropBinding v' b)

/-- The definitions of a view are those of the components that were there, and of the one that is
added. -/
theorem Linked.holds_apply (hs : s.Linked) {w : Write} (hw : Checked s w) {v : ViewRef} {d : DefRef}
    (h : (w.apply s).Holds v d) : s.Holds v d ∨ adds w = some (v, d) := by
  obtain ⟨id, c, hc, rfl⟩ := h
  rcases hs.component_apply hw hc with ⟨id', hold, hd, -⟩ | ⟨hadds, -⟩
  · exact .inl ⟨id', c, hold, hd.symm⟩
  · exact .inr hadds

/-- The data of every component names its definition, which is one of the project. -/
def DefinitionsNamed (s : ProjectModel) : Prop :=
  ∀ v id c, (s.views v).components.get id = some c →
    s.getDefinition (s.componentAt c).data.definition = .ok (s.componentAt c).definition

/-- The write does not take the id away from the definition. -/
def Spares (w : Write) (d : DefRef) : Prop :=
  (∀ id p, d = .plugin p → w ≠ .deletePlugin id p ∧ w ≠ .importClearPlugin id p) ∧
    ∀ newId t, d = .template t → w ≠ .renameTemplate t newId ∧ w ≠ .clearTemplate t

theorem Linked.getDefinition_apply (hs : s.Linked) {w : Write} (hw : Checked s w)
    {data : CoreComponentDefinition} {d : DefRef} (hspares : Spares w d)
    (hd : s.getDefinition data = .ok d) :
    (w.apply s).getDefinition data = .ok d := by
  rcases getDefinition_ok.mp hd with ⟨htype, p, hp, rfl⟩ | ⟨htype, t, ht, rfl⟩
  · exact getDefinition_ok.mpr
      (.inl ⟨htype, p, Linked.plugin_apply hw hp (fun id => (hspares.1 id p rfl).1)
      (fun id => (hspares.1 id p rfl).2), rfl⟩)
  · exact getDefinition_ok.mpr
      (.inr ⟨htype, t, hs.template_apply hw ht (fun newId => (hspares.2 newId t rfl).1)
      (hspares.2 "" t rfl).2, rfl⟩)

/-- A component refers to what its data names as long as no write takes that away from it. -/
theorem DefinitionsNamed.apply (h : s.DefinitionsNamed) (hs : s.Linked) {w : Write}
    (hw : Checked s w) (hspares : ∀ d, s.Refers d → Spares w d)
    (himport : ∀ c p external config, w = .importComponent c p external config →
      (s.componentAt c).definition = .plugin p) :
    (w.apply s).DefinitionsNamed := by
  intro v id c hc
  rcases hs.component_apply hw hc with ⟨id', hold, hd, hname⟩ | ⟨hadds, hget⟩
  · rw [hd]
    rcases hname with hname | ⟨p, external, config, rfl⟩
    · rw [hname]
      exact hs.getDefinition_apply hw (hspares _ ⟨v, id', c, hold, rfl⟩) (h v id' c hold)
    · -- the data names the imported plugin, which is the one that the component has
      obtain ⟨-, pid, hp⟩ := hw
      rw [Write.apply, setComponentData_componentAt]
      dsimp only
      rw [if_pos rfl]
      refine getDefinition_ok.mpr (.inl ⟨rfl, p, ?_, himport c p external config rfl⟩)
      exact (congrArg s.plugins.get (hs.plugins.id pid p hp)).trans hp
  · refine hs.getDefinition_apply hw ⟨fun _ _ _ => ⟨?_, ?_⟩, fun _ _ _ => ⟨?_, ?_⟩⟩ hget <;>
      (rintro rfl; cases hadds)

theorem DefinitionsNamed.instancesBefore (h : s.DefinitionsNamed) (hs : s.Linked) :
    s.InstancesBefore := by
  intro v id c p hc hp
  rcases getDefinition_ok.mp (h v id c hc) with ⟨-, q, hq, he⟩ | ⟨-, u, -, he⟩
  · rw [hp] at he
    cases he
    exact hs.plugins.instance_lt _ _ (hs.plugins.instance _ p hq).1
  · rw [hp] at he
    cases he

/-! ## Runs -/

/-- The components of the project and of its templates. -/
def allComponents (s : ProjectModel) : List Ref :=
  (none :: s.templates.values.map some).flatMap (fun v => (s.views v).components.values)

theorem Linked.mem_allComponents (hs : s.Linked) {c : Ref} :
    c ∈ s.allComponents ↔ ∃ v id, (s.views v).components.get id = some c := by
  simp only [allComponents, List.mem_flatMap, mem_values]
  constructor
  · rintro ⟨v, _, hc⟩
    exact ⟨v, hc⟩
  · rintro ⟨v, id, hc⟩
    refine ⟨v, ?_, id, hc⟩
    cases v with
    | none => exact List.mem_cons_self
    | some t =>
      obtain ⟨tid, ht⟩ := (hs.views.component _ _ _ hc).live
      exact List.mem_cons_of_mem _ (List.mem_map_of_mem (mem_values.mpr ⟨tid, ht⟩))

/-- A plugin or a template of the project. -/
def HasDefinition (s : ProjectModel) : DefRef → Prop
  | .plugin p => p ∈ s.plugins.values
  | .template t => t ∈ s.templates.values

instance (s : ProjectModel) (d : DefRef) : Decidable (s.HasDefinition d) := by
  cases d <;> unfold HasDefinition <;> infer_instance

/-- Both definitions tell one register: they are the same, or plugins of one instance. -/
def SharesRegister (s : ProjectModel) (d d' : DefRef) : Prop :=
  d = d' ∨ (s.usageInstance d ≠ none ∧ s.usageInstance d = s.usageInstance d')

instance (s : ProjectModel) (d d' : DefRef) : Decidable (s.SharesRegister d d') := by
  unfold SharesRegister; infer_instance

/-- No component of any view has the id and shares a register with the definition. -/
def IdFree (s : ProjectModel) (d : DefRef) (id : String) : Prop :=
  ∀ c ∈ s.allComponents, (s.componentAt c).id = id →
    ¬ s.SharesRegister d (s.componentAt c).definition

instance (s : ProjectModel) (d : DefRef) (id : String) : Decidable (s.IdFree d id) := by
  unfold IdFree; infer_instance

/-- No component of any view has the definition. -/
def Unused (s : ProjectModel) (d : DefRef) : Prop :=
  ∀ c ∈ s.allComponents, (s.componentAt c).definition ≠ d

instance (s : ProjectModel) (d : DefRef) : Decidable (s.Unused d) := by
  unfold Unused; infer_instance

/-- A component gets an id that none of the components sharing a register with it has. An import
only removes plugins without components, and a component that it sets stays with its plugin; a
template that is renamed has no components. -/
def IdsDistinct (s : ProjectModel) : Write → Prop
  | .initComponent _ id d _ => s.IdFree d id
  | .addComponent _ id d _ => s.IdFree d id
  | .renameComponent _ c newId => s.IdFree (s.componentAt c).definition newId
  | .importClearPlugin _ p => s.Unused (.plugin p)
  | .renameTemplate t _ => s.Unused (.template t)
  | .importComponent c p _ _ => (s.componentAt c).definition = .plugin p
  | _ => True

instance (s : ProjectModel) (w : Write) : Decidable (s.IdsDistinct w) := by
  cases w <;> unfold IdsDistinct <;> infer_instance

theorem IdsDistinct.free (hs : s.Linked) {w : Write} (h : s.IdsDistinct w) {d : DefRef}
    {id : String} (hw : s.registers w = some (d, id)) (hr : s.Records r d)
    (x : Ref) : ¬ s.Uses r id x := by
  have hfree : s.IdFree d id := by
    cases w with
    | initComponent v id' d' data => cases hw; exact h
    | addComponent v id' d' data => cases hw; exact h
    | renameComponent v c newId => cases hw; exact h
    | _ => cases hw
  rintro ⟨v, hx, hrx⟩
  refine hfree x (hs.mem_allComponents.mpr ⟨v, id, hx⟩) (hs.views.component v id x hx).id ?_
  cases r with
  | definition d' => exact Or.inl (Eq.trans hr (Eq.symm hrx))
  | «instance» i => exact Or.inr ⟨by rw [show s.usageInstance d = some i from hr]; simp,
    Eq.trans hr (Eq.symm hrx)⟩

/-- All registers are exact, and the definitions in use are those that the data names. -/
structure UsageExact (s : ProjectModel) : Prop where
  indexed : ∀ r, s.IndexedAt r
  named : s.DefinitionsNamed

theorem Linked.not_unused (hs : s.Linked) {d : DefRef} (h : s.Refers d) : ¬ s.Unused d := by
  obtain ⟨v, id, c, hc, hd⟩ := h
  exact fun hno => hno c (hs.mem_allComponents.mpr ⟨v, id, hc⟩) hd

theorem UsageExact.apply (h : s.UsageExact) (hs : s.Linked) {w : Write} (hw : Checked s w)
    (hd : s.IdsDistinct w) :
    (w.apply s).UsageExact where
  indexed r := (h.indexed r).apply hs (fun _ _ => h.named.instancesBefore hs) hw
    (fun _ _ hreg hr => hd.free hs hreg hr)
  named := by
    refine h.named.apply hs hw (fun d hrefers => ⟨?_, ?_⟩) ?_
    · rintro id p rfl
      constructor <;> rintro rfl
      · exact (h.indexed _).used_eq_false.mp hw.2 hrefers
      · exact hs.not_unused hrefers hd
    · rintro newId t rfl
      constructor <;> rintro rfl
      · exact hs.not_unused hrefers hd
      · exact (h.indexed _).used_eq_false.mp hw.2 hrefers
    · rintro c p external config rfl
      exact hd

theorem usageExact_empty : empty.UsageExact :=
  ⟨indexedAt_empty, fun _ _ _ hc => by cases hc⟩

theorem UsageExact.mem_usage (h : s.UsageExact) (hs : s.Linked) {d : DefRef} {c : Ref} :
    c ∈ (s.usage d).values ↔ c ∈ s.allComponents ∧ (s.componentAt c).definition = d := by
  have hmem : c ∈ (s.register (.definition d)).values ↔ _ :=
    OMap.Indexes.mem_values (h.indexed (.definition d))
  refine hmem.trans ?_
  rw [hs.mem_allComponents]
  constructor
  · rintro ⟨id, v, hc, hd⟩
    exact ⟨⟨v, id, hc⟩, hd⟩
  · rintro ⟨⟨v, id, hc⟩, hd⟩
    exact ⟨id, v, hc, hd⟩

theorem UsageExact.hasDefinition (h : s.UsageExact) (hs : s.Linked) {c : Ref}
    (hc : c ∈ s.allComponents) :
    s.HasDefinition (s.componentAt c).definition := by
  obtain ⟨v, id, hget⟩ := hs.mem_allComponents.mp hc
  rcases getDefinition_ok.mp (h.named v id c hget) with ⟨-, p, hp, hd⟩ | ⟨-, t, ht, hd⟩
  · rw [hd]
    exact mem_values.mpr ⟨_, hp⟩
  · rw [hd]
    exact mem_values.mpr ⟨_, ht⟩

theorem UsageExact.mem_instance_usage (h : s.UsageExact) (hs : s.Linked) {n : String} {i c : Ref}
    (hi : s.instances.get n = some i) : c ∈ (s.instanceAt i).usage.values ↔
      c ∈ s.allComponents ∧ ∃ p ∈ (s.instanceAt i).plugins.values, (s.componentAt c).definition =
        .plugin p := by
  have hmem : c ∈ (s.register (.instance i)).values ↔ _ :=
    OMap.Indexes.mem_values (h.indexed (.instance i))
  refine hmem.trans ?_
  rw [hs.mem_allComponents]
  constructor
  · rintro ⟨id, v, hc, hr⟩
    refine ⟨⟨v, id, hc⟩, ?_⟩
    cases hd : (s.componentAt c).definition with
    | template t => simp [hd, Records, usageInstance] at hr
    | plugin p =>
      simp only [hd, Records, usageInstance, Option.some.injEq] at hr
      obtain ⟨pid, hpid⟩ :=
        mem_values.mp (hd ▸ h.hasDefinition hs (hs.mem_allComponents.mpr ⟨v, id, hc⟩))
      exact ⟨p, mem_values.mpr ⟨pid, hr ▸ (hs.plugins.instance pid p hpid).2⟩, rfl⟩
  · rintro ⟨⟨v, id, hc⟩, p, hp, hd⟩
    obtain ⟨pid, hpid⟩ := mem_values.mp hp
    refine ⟨id, v, hc, ?_⟩
    simp only [hd, Records, usageInstance, (hs.plugins.plugins n i pid p hi hpid).2]

end ProjectModel

/-- In every state reached by calls that keep the ids of the components of a register distinct, the
usage of each plugin, template and instance is the set of the components that have it as their
definition, no definition of a component is missing, and it is the one that the data of the
component names. -/
theorem usage_is_exact {data : CoreProject} {s₀ s : ProjectModel}
    (hload : ProjectModel.load data = .ok s₀)
    (hinit : (ProjectModel.construct data).Meets ProjectModel.IdsDistinct ProjectModel.empty)
    (hrun : Reaches ProjectModel.IdsDistinct s₀ s) :
    (∀ d, s.HasDefinition d → ∀ c, c ∈ (s.usage d).values ↔ c ∈ s.allComponents ∧
      (s.componentAt c).definition = d) ∧
    (∀ n i, s.instances.get n = some i → ∀ c, c ∈ (s.instanceAt i).usage.values ↔
      c ∈ s.allComponents ∧ ∃ p ∈ (s.instanceAt i).plugins.values, (s.componentAt c).definition =
        .plugin p) ∧
    (∀ d, s.HasDefinition d →
      (s.used d = false ↔ ∀ c ∈ s.allComponents, (s.componentAt c).definition ≠ d)) ∧
    ∀ c ∈ s.allComponents, s.HasDefinition (s.componentAt c).definition ∧
      s.getDefinition (s.componentAt c).data.definition = .ok (s.componentAt c).definition := by
  obtain ⟨hs, h⟩ := Reaches.keeps (fun s w hs h hw hd => h.apply hs hw.checked hd)
    (load_keeps (fun s w hs h hw hd => h.apply hs hw hd) hload hinit ProjectModel.usageExact_empty)
      hrun
  refine ⟨fun d _ c => h.mem_usage hs, fun n i hi c => h.mem_instance_usage hs hi, ?_,
    fun c hc => ?_⟩
  · intro d _
    rw [(h.indexed (.definition d)).used_eq_false]
    constructor
    · intro hno c hc hd
      obtain ⟨v, id, hget⟩ := hs.mem_allComponents.mp hc
      exact hno ⟨v, id, c, hget, hd⟩
    · exact fun hno hrefers => hs.not_unused hrefers hno
  · obtain ⟨v, id, hget⟩ := hs.mem_allComponents.mp hc
    exact ⟨h.hasDefinition hs hc, h.named v id c hget⟩

/-! ## Two sessions -/

theorem usage_is_exact_two_views : ∃ s₀ s, ProjectModel.load lampProject = .ok s₀ ∧
    Reaches ProjectModel.IdsDistinct s₀ s ∧ s.allComponents.length = 2 ∧
    (∀ d, s.HasDefinition d → ∀ c, c ∈ (s.usage d).values ↔ c ∈ s.allComponents ∧
      (s.componentAt c).definition = d) := by
  obtain ⟨s₀, s, hload, hinit, hrun, hlen⟩ := session_reaches
    (P := fun s => s.allComponents.length = 2)
    (by decide +kernel : (session 10 lampProject
      [.setTemplate "T", setLamp none "a", setLamp (some "T") "b"]).Ends ProjectModel.empty _)
    (by decide +kernel : (session 10 lampProject
      [.setTemplate "T", setLamp none "a", setLamp (some "T") "b"]).Meets ProjectModel.IdsDistinct
        ProjectModel.empty)
  exact ⟨s₀, s, hload, hrun, hlen, (usage_is_exact hload hinit hrun).1⟩

/-- A lamp of the project and one of a template have the same id: the second takes the place of the
first in the usage of the plugin. When it is cleared nothing is left there, and the plugin of the
first lamp can be deleted. -/
theorem usage_loses_component : ∃ s₀ s s', ProjectModel.load lampProject = .ok s₀ ∧
    Reaches AnyWrite s₀ s ∧
    (∃ c ∈ s.allComponents, s.HasDefinition (s.componentAt c).definition ∧
      c ∉ (s.usage (s.componentAt c).definition).values ∧ s.used (s.componentAt c).definition =
        false) ∧
    (call 10 (.updateToolbox .plugin "i:io.lamp" .delete)).run s = .ok ⟨⟩ s' ∧
    ∃ c ∈ s'.allComponents, ¬ s'.HasDefinition (s'.componentAt c).definition := by
  obtain ⟨s₀, s, hload, hrun, hlost, _, s', hdelete, hmissing⟩ := session_reaches_any
    (by decide +kernel : (session 10 lampProject
      [.setTemplate "T", setLamp none "a", setLamp (some "T") "a",
        .clearComponents (some "T") ["a"]]).Ends
        ProjectModel.empty (fun s =>
          (∃ c ∈ s.allComponents, s.HasDefinition (s.componentAt c).definition ∧
            c ∉ (s.usage (s.componentAt c).definition).values ∧
              s.used (s.componentAt c).definition = false) ∧
          (call 10 (.updateToolbox .plugin "i:io.lamp" .delete)).Ends s (fun s' =>
            ∃ c ∈ s'.allComponents, ¬ s'.HasDefinition (s'.componentAt c).definition)))
  exact ⟨s₀, s, s', hload, hrun, hlost, hdelete, hmissing⟩

end MylifeHome.Studio.Core
