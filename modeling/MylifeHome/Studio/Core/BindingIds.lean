import MylifeHome.Studio.Core.Deploy
import MylifeHome.Studio.Core.Naming
import MylifeHome.Studio.Core.Usage

/-!
# The ids of bindings

The id of a binding joins four names with `:`, and the deployment splits it again.
Ids of components are checked when a component is set or renamed; what is loaded or
imported, the names of members and the ids of exports are not.
-/
namespace MylifeHome.Studio.Core

open MylifeHome.Lib OMap Function CoreOpenedProject

/-- A name that is read back from the id of a binding. -/
def Readable (name : String) : Prop := name ≠ "" ∧ ':' ∉ name.toList

/-- An id that is inserted as it is where a template has its pattern. -/
def ReadableId (id : String) : Prop := Readable id ∧ '$' ∉ id.toList

instance (name : String) : Decidable (Readable name) := inferInstanceAs (Decidable (_ ∧ _))

instance (id : String) : Decidable (ReadableId id) := inferInstanceAs (Decidable (_ ∧ _))

/-- The names that a write brings in are readable. -/
def NamesReadable (_ : ProjectModel) : Write → Prop
  | .initComponent _ id _ _ => ReadableId id
  | .addComponent _ id _ _ => ReadableId id
  | .renameComponent _ _ newId => ReadableId newId
  | .initBinding _ _ data _ _ => Readable data.sourceState ∧ Readable data.targetAction
  | .addPlugin _ data => ∀ name ∈ data.members.keys, Readable name
  | .importPlugin _ data => ∀ name ∈ data.members.keys, Readable name
  | .addTemplate _ templateExports => ∀ e ∈ templateExports.members.entries, Readable e.1 ∧
    Readable e.2.member
  | .exportMember _ exportId _ => Readable exportId
  | _ => True

instance (s : ProjectModel) (w : Write) : Decidable (NamesReadable s w) :=
  match w with
  | .initComponent _ id _ _ | .addComponent _ id _ _ | .renameComponent _ _ id =>
    inferInstanceAs (Decidable (ReadableId id))
  | .initBinding .. => inferInstanceAs (Decidable (_ ∧ _))
  | .addPlugin _ data | .importPlugin _ data =>
    inferInstanceAs (Decidable (∀ name ∈ data.members.keys, Readable name))
  | .addTemplate _ templateExports =>
    inferInstanceAs (Decidable (∀ e ∈ templateExports.members.entries,
      Readable e.1 ∧ Readable e.2.member))
  | .exportMember _ exportId _ => inferInstanceAs (Decidable (Readable exportId))
  | .displayPlugin .. | .deletePlugin .. | .importClearPlugin .. | .renameTemplate
    .. | .clearTemplate _ | .exportConfig ..
  | .clearExport .. | .clearComponent .. | .importClearComponent .. | .moveComponent .. | .setConfig
    .. | .importComponent ..
  | .addBinding .. | .clearBinding .. => instDecidableTrue

namespace ProjectModel

variable {s s' : ProjectModel}

/-- A view or a component keeps the binding. -/
def Bound (s : ProjectModel) (b : Ref) : Prop :=
  (∃ v id, (s.views v).bindings.get id = some b) ∨ ∃ c, b ∈ s.allBindings c

structure Named (s : ProjectModel) : Prop where
  component : ∀ c, ':' ∉ (s.componentAt c).id.toList ∧ '$' ∉ (s.componentAt c).id.toList
  present : ∀ v id c, (s.views v).components.get id = some c → id ≠ ""
  ends : ∀ b, ':' ∉ (s.bindingAt b).data.sourceComponent.toList ∧
    ':' ∉ (s.bindingAt b).data.targetComponent.toList
  binding : ∀ b, s.Bound b → Readable (s.bindingAt b).data.sourceState ∧
    Readable (s.bindingAt b).data.targetAction ∧
    (s.bindingAt b).id = makeId (s.bindingAt b).data
  member : ∀ p name item, (s.pluginAt p).data.members.get name = some item → Readable name
  «export» : ∀ t name item, (s.templateAt t).exports.members.get name = some item → Readable name ∧
    Readable item.member

/-! ## Writes that bring in no name -/

structure NoNewNames (s s' : ProjectModel) : Prop where
  component : ∀ c, (s'.componentAt c).id = (s.componentAt c).id
  present : ∀ v id c, (s'.views v).components.get id = some c →
    (s.views v).components.get id = some c
  bindingAt : s'.bindingAt = s.bindingAt
  bound : ∀ b, s'.Bound b → s.Bound b
  member : ∀ p, (s'.pluginAt p).data.members = (s.pluginAt p).data.members
  «export» : ∀ t name item, (s'.templateAt t).exports.members.get name = some item →
    (s.templateAt t).exports.members.get name = some item

theorem Named.congr (h : s.Named) (hs : NoNewNames s s') : s'.Named where
  component c := hs.component c ▸ h.component c
  present v id c hc := h.present v id c (hs.present v id c hc)
  ends b := hs.bindingAt ▸ h.ends b
  binding b hb := hs.bindingAt ▸ h.binding b (hs.bound b hb)
  member p name item hp := h.member p name item (hs.member p ▸ hp)
  «export» t name item ht := h.export t name item (hs.export t name item ht)

theorem NoNewNames.refl (s : ProjectModel) : NoNewNames s s :=
  ⟨fun _ => rfl, fun _ _ _ h => h, rfl, fun _ h => h, fun _ => rfl, fun _ _ _ h => h⟩

theorem NoNewNames.trans {s'' : ProjectModel} (h : NoNewNames s s') (h' : NoNewNames s' s'') :
    NoNewNames s s'' :=
  ⟨fun c => (h'.component c).trans (h.component c),
    fun v id c hc => h.present v id c (h'.present v id c hc),
    h'.bindingAt.trans h.bindingAt, fun b hb => h.bound b (h'.bound b hb),
    fun p => (h'.member p).trans (h.member p), fun t name item ht =>
      h.export t name item (h'.export t name item ht)⟩

theorem NoNewNames.foldl {f : ProjectModel → Ref → ProjectModel} (hf : ∀ s r, NoNewNames s (f s r))
    (l : List Ref) (s : ProjectModel) : NoNewNames s (l.foldl f s) := by
  induction l generalizing s with
  | nil => exact .refl s
  | cons r l ih => exact (hf s r).trans (ih (f s r))

section

variable (s : ProjectModel)

theorem noNewNames_displayPlugin (p : Ref) (toolboxDisplay : CoreToolboxDisplay) :
    NoNewNames s (s.setPluginData p { (s.pluginAt p).data with
      toolboxDisplay := toolboxDisplay }) := by
  refine ⟨fun _ => rfl, fun _ _ _ h => h, rfl, fun _ h => h, fun q => ?_, fun _ _ _ h => h⟩
  by_cases hq : q = p
  · subst hq; simp [setPluginData, updPlugin]
  · simp [setPluginData, updPlugin, hq]

theorem noNewNames_dropPlugin (id : String) (p : Ref) : NoNewNames s (s.dropPlugin id p) :=
  ⟨fun _ => rfl, fun _ _ _ h => h, rfl, fun _ h => h, fun _ => rfl, fun _ _ _ h => h⟩

theorem noNewNames_setExports (t : Ref) {templateExports : CoreTemplateExports}
    (h : ∀ name item, templateExports.members.get name = some item →
      (s.templateAt t).exports.members.get name =
        some item) : NoNewNames s (s.setExports t templateExports) := by
  refine ⟨fun _ => rfl, fun _ _ _ h => h, rfl, fun _ h => h, fun _ => rfl, fun u name item hu => ?_⟩
  by_cases hut : u = t
  · subst hut
    exact h name item (by simpa [setExports, updTemplate] using hu)
  · simpa [setExports, updTemplate, hut] using hu

theorem noNewNames_renameTemplate (t : Ref) (newId : String) :
    NoNewNames s ((s.dropTemplate (s.templateAt t).id).putTemplate t newId) := by
  refine ⟨fun _ => rfl, fun _ _ _ h => h, rfl, fun _ h => h, fun _ => rfl, fun u name item hu => ?_⟩
  by_cases hut : u = t
  · subst hut
    simpa [putTemplate, dropTemplate, updTemplate] using hu
  · simpa [putTemplate, dropTemplate, updTemplate, hut] using hu

theorem noNewNames_setComponentData (c : Ref) (data : CoreComponentData) :
    NoNewNames s (s.setComponentData c data) := by
  refine ⟨fun x => ?_, fun _ _ _ h => h, rfl, fun b hb => ?_, fun _ => rfl, fun _ _ _ h => h⟩
  · rw [setComponentData_componentAt]
  · rcases hb with hb | ⟨x, hb⟩
    · exact .inl hb
    · rw [allBindings, setComponentData_componentAt] at hb
      exact .inr ⟨x, hb⟩

theorem noNewNames_dropComponent (v : ViewRef) (c : Ref) : NoNewNames s (s.dropComponent v c) := by
  have hdefs : ∀ p, ((s.dropComponent v c).pluginAt p).data = (s.pluginAt p).data := fun p => by
    simp only [ProjectModel.dropComponent, unregisterUsage, updView, mapUsage_pluginAt]
  have hexports : ∀ t, ((s.dropComponent v c).templateAt t).exports = (s.templateAt t).exports :=
    fun t => by
    simp only [ProjectModel.dropComponent, unregisterUsage, updView, mapUsage_templateAt]
  refine ⟨fun _ => rfl, fun w id x hx => ?_, rfl, fun b hb => ?_, fun p => by rw [hdefs],
    fun t _ _ h => hexports t ▸ h⟩
  · exact get_of_dropComponent hx
  · rcases hb with ⟨w, id, hb⟩ | hb
    · rw [dropComponent_bindings] at hb
      exact .inl ⟨w, id, hb⟩
    · exact .inr hb

theorem noNewNames_dropBinding (v : ViewRef) (b : Ref) : NoNewNames s (s.dropBinding v b) := by
  refine ⟨fun x => ?_, fun w id x hx => ?_, rfl, fun x hx => ?_, fun _ => rfl, fun _ _ _ h => h⟩
  · rw [dropBinding_componentAt]
  · rwa [dropBinding_components] at hx
  · rcases hx with ⟨w, id, hx⟩ | ⟨c, hx⟩
    · exact .inl ⟨w, id, get_of_dropBinding hx⟩
    · exact .inr ⟨c, mem_of_dropBinding hx⟩

theorem noNewNames_eraseTemplate (t : Ref) : NoNewNames s (s.eraseTemplate t) :=
  (NoNewNames.foldl (fun s c => noNewNames_dropComponent s (some t) c) _ s).trans
    ((NoNewNames.foldl (fun s b => noNewNames_dropBinding s (some t) b) _ _).trans
      ⟨fun _ => rfl, fun _ _ _ h => h, rfl, fun _ h => h, fun _ => rfl, fun _ _ _ h => h⟩)

end

/-! ## Writes that bring in names -/

theorem Named.addComponent (h : s.Named) (v : ViewRef) {id : String} (hid : ReadableId id)
    (d : DefRef) (data : CoreComponentData) : (s.addComponent v id d data).Named := by
  have hdefs : ∀ p, ((s.addComponent v id d data).pluginAt p).data = (s.pluginAt p).data :=
    fun p => by
    simp only [ProjectModel.addComponent, registerUsage, newComponent, updView, mapUsage_pluginAt]
  have hexports : ∀ t, ((s.addComponent v id d data).templateAt t).exports =
    (s.templateAt t).exports := fun t => by
    simp only [ProjectModel.addComponent, registerUsage, newComponent, updView, mapUsage_templateAt]
  refine ⟨fun c => ?_, fun w id' c hc => ?_, h.ends, fun b hb => h.binding b ?_,
    fun p name item hp => ?_, fun t name item ht => h.export t name item (hexports t ▸ ht)⟩
  · rw [addComponent_componentAt, update_apply]
    split
    · exact ⟨hid.1.2, hid.2⟩
    · exact h.component c
  · rw [addComponent_views] at hc
    split at hc
    · next hw =>
      rcases get_set_eq_some.mp hc with ⟨rfl, -⟩ | ⟨-, hc⟩
      · exact hid.1.1
      · exact h.present v id' c hc
    · exact h.present w id' c hc
  · rcases hb with ⟨w, id', hb⟩ | ⟨c, hb⟩
    · rw [addComponent_bindings] at hb
      exact .inl ⟨w, id', hb⟩
    · rw [allBindings, addComponent_componentAt, update_apply] at hb
      split at hb
      · cases hb
      · exact .inr ⟨c, hb⟩
  · rw [hdefs] at hp
    exact h.member p name item hp

theorem Named.addPlugin (h : s.Named) (id : String) {data : CorePluginData}
    (hdata : ∀ name ∈ data.members.keys, Readable name) : (s.addPlugin id data).Named := by
  obtain ⟨hv, hc, hb⟩ := addPlugin_views s id data
  have hplugin : ∀ p, (s.addPlugin id data).pluginAt p = s.pluginAt p ∨
      ((s.addPlugin id data).pluginAt p).data = data := by
    intro p
    have hto : ∀ (s : ProjectModel) (i : Ref), (s.addPluginTo i id data).pluginAt p = s.pluginAt p ∨
        ((s.addPluginTo i id data).pluginAt p).data = data := by
      intro s i
      by_cases hp : p = s.nextRef
      · exact .inr (by simp [addPluginTo, newPlugin, updInstance, hp])
      · exact .inl (by simp [addPluginTo, newPlugin, updInstance, hp])
    unfold ProjectModel.addPlugin getOrCreateInstance
    cases s.instances.get data.instanceName with
    | some i => exact hto s i
    | none => exact hto _ _
  have hexports : (s.addPlugin id data).templateAt = s.templateAt := by
    unfold ProjectModel.addPlugin getOrCreateInstance
    cases s.instances.get data.instanceName <;> rfl
  refine ⟨hc ▸ h.component, hv ▸ h.present, hb ▸ h.ends, fun b hbound => hb ▸ h.binding b ?_, ?_,
    hexports ▸ h.export⟩
  · rw [Bound, hv] at hbound
    exact hbound.imp_right (Exists.imp fun c hmem => by rwa [allBindings, hc] at hmem)
  · intro p name item hp
    rcases hplugin p with heq | heq
    · exact h.member p name item (heq ▸ hp)
    · rw [heq] at hp
      exact hdata name (mem_keys.mpr ⟨item, hp⟩)

theorem Named.setPluginData (h : s.Named) (p : Ref) {data : CorePluginData}
    (hdata : ∀ name ∈ data.members.keys, Readable name) : (s.setPluginData p data).Named := by
  refine ⟨h.component, h.present, h.ends, h.binding, fun q name item hq => ?_, h.export⟩
  by_cases hqp : q = p
  · subst hqp
    simp only [ProjectModel.setPluginData, updPlugin, update_self] at hq
    exact hdata name (mem_keys.mpr ⟨item, hq⟩)
  · simp only [ProjectModel.setPluginData, updPlugin, update_of_ne hqp] at hq
    exact h.member q name item hq

theorem Named.addTemplate (h : s.Named) (id : String) {templateExports : CoreTemplateExports}
    (hexports : ∀ e ∈ templateExports.members.entries, Readable e.1 ∧ Readable e.2.member) :
    (s.addTemplate id templateExports).Named := by
  have hviews : ∀ w, (s.addTemplate id templateExports).views w = s.views w ∨
      (s.addTemplate id templateExports).views w = {} := by
    intro w
    show update s.views _ _ w = _ ∨ update s.views _ _ w = _
    rw [update_apply]
    split
    · exact .inr rfl
    · exact .inl rfl
  refine ⟨h.component, fun w id' c hc => ?_, h.ends, fun b hb => h.binding b ?_, h.member,
    fun t name item ht => ?_⟩
  · rcases hviews w with hw | hw
    · exact h.present w id' c (hw ▸ hc)
    · rw [hw] at hc; cases hc
  · rcases hb with ⟨w, id', hb⟩ | hb
    · rcases hviews w with hw | hw
      · exact .inl ⟨w, id', hw ▸ hb⟩
      · rw [hw] at hb; cases hb
    · exact .inr hb
  · change ((update s.templateAt _ _ t).exports.members.get name) = some item at ht
    rw [update_apply] at ht
    split at ht
    · exact hexports (name, item) (mem_entries.mpr ht)
    · exact h.export t name item ht

theorem Named.setExports (h : s.Named) (t : Ref) {templateExports : CoreTemplateExports}
    (ht : ∀ name item, templateExports.members.get name = some item → Readable name ∧
      Readable item.member) :
    (s.setExports t templateExports).Named := by
  refine ⟨h.component, h.present, h.ends, h.binding, h.member, fun u name item hu => ?_⟩
  by_cases hut : u = t
  · subst hut
    exact ht name item (by simpa [ProjectModel.setExports, updTemplate] using hu)
  · exact h.export u name item (by simpa [ProjectModel.setExports, updTemplate, hut] using hu)

theorem Named.addBinding (h : s.Named) (v : ViewRef) (key : String) {data : CoreBindingData}
    (source target : Ref) (hs : Readable data.sourceState) (ht : Readable data.targetAction) :
    (s.addBinding v key data source target).Named := by
  have hnew : (s.addBinding v key data source target).bindingAt s.nextRef =
      { ownerTemplate := v, id := makeId (s.rebuiltData data source target),
        data := s.rebuiltData data source target, sourceComponent := source, targetComponent :=
          target } := by
    rw [addBinding_bindingAt, update_self]
  have hold : ∀ b, b ≠ s.nextRef → (s.addBinding v key data source target).bindingAt b =
      s.bindingAt b := by
    intro b hb
    rw [addBinding_bindingAt, update_of_ne hb]
  refine ⟨fun c => ?_, fun w id c hc => ?_, fun b => ?_, fun b hb => ?_, h.member, h.export⟩
  · rw [addBinding_componentAt]
    exact h.component c
  · rw [addBinding_components] at hc
    exact h.present w id c hc
  · by_cases hb : b = s.nextRef
    · rw [hb, hnew]
      exact ⟨(h.component source).1, (h.component target).1⟩
    · rw [hold b hb]
      exact h.ends b
  · by_cases hbn : b = s.nextRef
    · rw [hbn, hnew]
      exact ⟨hs, ht, rfl⟩
    · rw [hold b hbn]
      refine h.binding b ?_
      rcases hb with ⟨w, id, hb⟩ | ⟨c, hb⟩
      · rw [addBinding_views] at hb
        split at hb
        · next hw =>
          rcases get_set_eq_some.mp hb with ⟨-, hb⟩ | ⟨-, hb⟩
          · exact absurd hb.symm hbn
          · exact .inl ⟨v, id, hb⟩
        · exact .inl ⟨w, id, hb⟩
      · refine .inr ⟨c, ?_⟩
        rw [allBindings, addBinding_componentAt, List.mem_append] at hb
        rw [allBindings, List.mem_append]
        have hinsert : ∀ {p : Prop} [Decidable p] {l : List Ref}, b ∈
            (if p then l ++ [s.nextRef] else l) → b ∈ l := by
          intro p _ l hmem
          split at hmem
          · exact (List.mem_append.mp hmem).resolve_right fun h => hbn (List.mem_singleton.mp h)
          · exact hmem
        exact hb.imp hinsert hinsert

theorem Named.renameComponentAt (h : s.Named) (v : ViewRef) (c : Ref) {newId : String}
    (hid : ReadableId newId) :
    (s.renameComponentAt v c newId).Named := by
  have hdefs : ∀ p, ((s.renameComponentAt v c newId).pluginAt p).data = (s.pluginAt p).data :=
    fun p => by
    simp only [ProjectModel.renameComponentAt, ProjectModel.dropComponent, registerUsage,
      unregisterUsage, updView, updComponent, mapUsage_pluginAt]
  have hexports : ∀ t, ((s.renameComponentAt v c newId).templateAt t).exports =
    (s.templateAt t).exports := fun t => by
    simp only [ProjectModel.renameComponentAt, ProjectModel.dropComponent, registerUsage,
      unregisterUsage, updView, updComponent, mapUsage_templateAt]
  refine ⟨fun x => ?_, fun w id x hx => ?_, renameComponentAt_bindingAt v c newId ▸ h.ends,
    fun b hb => ?_, fun p name item hp => h.member p name item (hdefs p ▸ hp), fun t name item ht =>
      h.export t name item (hexports t ▸ ht)⟩
  · rw [renameComponentAt_componentAt]
    dsimp only
    split
    · exact ⟨hid.1.2, hid.2⟩
    · exact h.component x
  · rw [renameComponentAt_views] at hx
    split at hx
    · rcases get_set_eq_some.mp hx with ⟨rfl, -⟩ | ⟨-, hx⟩
      · exact hid.1.1
      · exact h.present v id x (get_delete_eq_some.mp hx).2
    · exact h.present w id x hx
  · rw [renameComponentAt_bindingAt]
    refine h.binding b ?_
    rcases hb with ⟨w, id, hb⟩ | ⟨x, hb⟩
    · rw [renameComponentAt_bindings] at hb
      exact .inl ⟨w, id, hb⟩
    · rw [allBindings, renameComponentAt_componentAt] at hb
      exact .inr ⟨x, hb⟩

/-- A binding that is rebuilt takes the ids of its ends. -/
theorem Named.rebuildBinding (h : s.Named) (v : ViewRef) {b : Ref} (hb : s.Bound b) :
    (s.rebuildBinding v b).Named := by
  refine ⟨h.component, fun w id c hc => ?_, fun x => ?_, fun x hx => ?_, h.member, h.export⟩
  · rw [rebuildBinding_components] at hc
    exact h.present w id c hc
  · rw [rebuildBinding_bindingAt]
    dsimp only
    split
    · exact ⟨(h.component _).1, (h.component _).1⟩
    · exact h.ends x
  · rw [rebuildBinding_bindingAt]
    have hbound : s.Bound x := by
      rcases hx with ⟨w, id, hx⟩ | hx
      · rw [rebuildBinding_views] at hx
        split at hx
        · rcases get_set_eq_some.mp hx with ⟨-, rfl⟩ | ⟨-, hx⟩
          · exact hb
          · exact .inl ⟨v, id, (get_delete_eq_some.mp hx).2⟩
        · exact .inl ⟨w, id, hx⟩
      · exact .inr hx
    obtain ⟨hs, ht, hid⟩ := h.binding x hbound
    dsimp only
    split
    · next hxb => exact ⟨hxb ▸ hs, hxb ▸ ht, rfl⟩
    · exact ⟨hs, ht, hid⟩

theorem Named.renameComponent (h : s.Named) (v : ViewRef) (c : Ref) {newId : String}
    (hid : ReadableId newId) :
    (s.renameComponent v c newId).Named := by
  have hfold : ∀ (l : List Ref) (s : ProjectModel), s.Named → (∀ b ∈ l, b ∈ s.allBindings c) →
      (l.foldl (fun s b => s.rebuildBinding v b) s).Named := by
    intro l
    induction l with
    | nil => exact fun s hs _ => hs
    | cons b l ih =>
      intro s hs hl
      exact ih _ (hs.rebuildBinding v (.inr ⟨c, hl b List.mem_cons_self⟩)) fun x hx =>
        hl x (List.mem_cons_of_mem b hx)
  have hrenamed := hfold _ _ (h.renameComponentAt v c hid) fun _ hb => hb
  cases v with
  | none => exact hrenamed
  | some t =>
    refine hrenamed.setExports t fun name item hitem => ?_
    rw [renamedExports, get_mapVal] at hitem
    obtain ⟨old, hold, rfl⟩ := Option.map_eq_some_iff.mp hitem
    refine ⟨(hrenamed.export t name old hold).1, ?_⟩
    split
    · exact (hrenamed.export t name old hold).2
    · exact (hrenamed.export t name old hold).2

/-! ## Runs -/

/-- A member that a definition has is one of a plugin, or an export. -/
theorem Named.of_getMember (h : s.Named) {fuel : Nat} {d : DefRef} {name : String}
    {item : NetMember} (hm : s.getMember fuel d name = .ok item) : Readable name := by
  cases d with
  | plugin p =>
    have hp : s.pluginMember p name = .ok item := by cases fuel <;> exact hm
    unfold pluginMember at hp
    split at hp
    · next member hget => exact h.member p name member hget
    · cases hp
  | template t =>
    cases fuel with
    | zero => cases hm
    | succ fuel =>
      obtain ⟨⟨c, inner⟩, hexport, -⟩ := except_bind_ok.mp hm
      unfold memberExport at hexport
      split at hexport
      · cases hexport
      · next e hget => exact (h.export t name e hget).1

theorem Named.of_getMemberValueType (h : s.Named) {fuel : Nat} {d : DefRef} {name type : String}
    {memberType : MemberType}
    (hm : s.getMemberValueType fuel d name memberType = .ok type) : Readable name := by
  obtain ⟨item, hitem, -⟩ := except_bind_ok.mp hm
  exact h.of_getMember hitem

theorem Named.apply (h : s.Named) {w : Write} (hw : Checked s w) (hn : NamesReadable s w) :
    (w.apply s).Named := by
  cases w with
  | initComponent v id d data => exact h.addComponent v hn d data
  | initBinding v key data source target => exact h.addBinding v key source target hn.1 hn.2
  | addPlugin id data => exact h.addPlugin id hn
  | displayPlugin p toolboxDisplay => exact h.congr (noNewNames_displayPlugin s p toolboxDisplay)
  | importPlugin p data => exact h.setPluginData p hn
  | deletePlugin id p => exact h.congr (noNewNames_dropPlugin s id p)
  | importClearPlugin id p => exact h.congr (noNewNames_dropPlugin s id p)
  | addTemplate id templateExports => exact h.addTemplate id hn
  | renameTemplate t newId => exact h.congr (noNewNames_renameTemplate s t newId)
  | clearTemplate t => exact h.congr (noNewNames_eraseTemplate s t)
  | exportConfig t exportId item => exact h.congr (noNewNames_setExports s t fun _ _ h => h)
  | exportMember t exportId item =>
    obtain ⟨-, -, c, fuel, -, hmember⟩ := hw
    obtain ⟨found, hfound, -⟩ := except_map_ok.mp hmember
    refine h.setExports t fun name x hx => ?_
    rcases get_set_eq_some.mp hx with ⟨rfl, rfl⟩ | ⟨-, hx⟩
    · exact ⟨hn, h.of_getMember hfound⟩
    · exact h.export t name x hx
  | clearExport t exportType exportId =>
    cases exportType with
    | config => exact h.congr (noNewNames_setExports s t fun _ _ h => h)
    | member => exact h.congr (noNewNames_setExports s t fun _ _ h => (get_delete_eq_some.mp h).2)
  | addComponent v id d data => exact h.addComponent v hn d data
  | renameComponent v c newId => exact h.renameComponent v c hn
  | clearComponent v c => exact h.congr (noNewNames_dropComponent s v c)
  | importClearComponent v c => exact h.congr (noNewNames_dropComponent s v c)
  | moveComponent c position => exact h.congr (noNewNames_setComponentData s c _)
  | setConfig c config => exact h.congr (noNewNames_setComponentData s c _)
  | importComponent c p external config => exact h.congr (noNewNames_setComponentData s c _)
  | addBinding v data source target =>
    obtain ⟨-, -, -, -, fuel, type, hsource, htarget⟩ := hw
    exact h.addBinding v _ source target (h.of_getMemberValueType hsource)
      (h.of_getMemberValueType htarget)
  | clearBinding v b => exact h.congr (noNewNames_dropBinding s v b)

theorem named_empty : empty.Named where
  component _ := ⟨by simp [empty], by simp [empty]⟩
  present _ _ _ h := by cases h
  ends _ := ⟨by simp [empty], by simp [empty]⟩
  binding b h := by
    rcases h with ⟨v, id, h⟩ | ⟨c, h⟩
    · cases h
    · cases h
  member _ _ _ h := by cases h
  «export» _ _ _ h := by cases h

end ProjectModel

/-! ## The resolved project -/

namespace Resolver

variable {s : ProjectModel}

theorem readable_instanceId {componentId id : String} (hc : ReadableId componentId)
    (hid : ReadableId id) :
    ReadableId (instanceId componentId id) := by
  have hmem : ∀ x ∈ (instanceId componentId id).toList, x ∈ id.toList ∨ x ∈ componentId.toList := by
    intro x hx
    rcases Text.toList_replace id idPattern hc.2 with heq | ⟨before, after, htext, heq⟩
    · exact .inl (heq ▸ hx)
    · rw [instanceId, heq, List.mem_append, List.mem_append] at hx
      rw [htext, List.mem_append, List.mem_append]
      tauto
  refine ⟨⟨?_, fun h => (hmem _ h).elim hid.1.2 hc.1.2⟩, fun h => (hmem _ h).elim hid.2 hc.2⟩
  intro hempty
  rcases Text.toList_replace id idPattern hc.2 with heq | ⟨before, after, -, heq⟩
  · rw [instanceId] at hempty
    rw [hempty] at heq
    exact hid.1.1 (String.toList_inj.mp heq.symm)
  · rw [instanceId] at hempty
    rw [hempty] at heq
    have hnil : componentId.toList = [] := by
      have := (List.append_eq_nil_iff.mp heq.symm).1
      exact (List.append_eq_nil_iff.mp this).2
    exact hc.1.1 (String.toList_inj.mp hnil)

theorem createEach_leaves {P : ComponentView → Prop} {create : Ref → RM Builder}
    {l : List (String × Ref)}
    (hstep : ∀ e ∈ l, ∀ view b view', (create e.2).run view = .ok b view' →
      ∀ leaf ∈ b.leaves, P leaf)
    {view view' : ResolvedProjectView} {bs : Builders}
    (h : (createEach create l).run view = .ok bs view') :
    ∀ leaf ∈ bs.leaves, P leaf := by
  induction l generalizing view bs with
  | nil =>
    rw [createEach, run_pure_ok] at h
    obtain ⟨rfl, rfl⟩ := h
    exact fun leaf hl => by cases hl
  | cons e l ih =>
    rw [createEach, run_bind_ok] at h
    obtain ⟨b, view₁, hb, h⟩ := h
    rw [run_bind_ok] at h
    obtain ⟨rest, view₂, hr, h⟩ := h
    rw [run_pure_ok] at h
    obtain ⟨rfl, rfl⟩ := h
    intro leaf hl
    rcases List.mem_append.mp hl with hl | hl
    · exact hstep e List.mem_cons_self _ _ _ hb leaf hl
    · exact ih (fun e he => hstep e (List.mem_cons_of_mem _ he)) hr leaf hl

theorem readable_entry (hs : s.Linked) (hn : s.Named) {v : ViewRef} {e : String × Ref}
    (he : e ∈ (s.views v).components.entries) : ReadableId (s.componentAt e.2).id := by
  have hget := mem_entries.mp he
  have hid := (hs.views.component v e.1 e.2 hget).id
  exact ⟨⟨hid ▸ hn.present v e.1 e.2 hget, (hn.component e.2).1⟩, (hn.component e.2).2⟩

/-- The ids of the leaves are put together from ids of components. -/
theorem readable_leaves (hs : s.Linked) (hn : s.Named) {fuel : Nat} {componentId : String}
    (hid : ReadableId componentId) {d : DefRef} {config : Option CoreComponentConfiguration}
    {external : Bool} {view view' : ResolvedProjectView} {b : Builder}
    (h : (create s fuel componentId d config external).run view = .ok b view') :
    ∀ leaf ∈ b.leaves, ReadableId leaf.id := by
  have hdirect : ∀ {fuel componentId config external view view' b p}, ReadableId componentId →
      (create s fuel componentId (.plugin p) config external).run view = .ok b view' →
      ∀ leaf ∈ b.leaves, ReadableId leaf.id := by
    intro fuel componentId config external view view' b p hid h leaf hl
    rw [create_plugin] at h
    obtain ⟨componentView, rfl, hleaf, -⟩ := createDirect_ok h
    rw [List.mem_singleton.mp hl, hleaf]
    exact hid
  induction fuel generalizing componentId d config external view view' b with
  | zero =>
    cases d with
    | plugin p => exact hdirect hid h
    | template t => rw [create, run_throw_ok] at h; exact h.elim
  | succ fuel ih =>
    cases d with
    | plugin p => exact hdirect hid h
    | template t =>
      rw [create, run_bind_ok] at h
      obtain ⟨applied, view₁, ha, h⟩ := h
      rw [run_bind_ok] at h
      obtain ⟨children, view₂, hchildren, h⟩ := h
      rw [run_pure_ok] at h
      obtain ⟨rfl, rfl⟩ := h
      exact createEach_leaves
        (fun e he _ _ _ hb => ih (readable_instanceId hid (readable_entry hs hn he)) hb) hchildren

mutual

/-- A member of a component leads to a member of a leaf, by exports of readable names. -/
theorem readable_getMemberData (hn : s.Named) : ∀ (builder : Builder) {id : String}
    {half : ComponentView × String},
    getMemberData s builder id = .ok half → Readable id → half.1 ∈ builder.leaves ∧ Readable half.2
  | .direct componentView, id, half, h, hid => by
    rw [getMemberData] at h
    cases h
    exact ⟨List.mem_singleton.mpr rfl, hid⟩
  | .template t children, id, half, h, hid => by
    rw [getMemberData] at h
    split at h
    · cases h
    · next item hitem => exact readable_getMemberDataIn hn children h (hn.export t id item hitem).2

theorem readable_getMemberDataIn (hn : s.Named) : ∀ (builders : Builders)
    {component member : String}
    {half : ComponentView × String}, getMemberDataIn s builders component member = .ok half →
      Readable member →
    half.1 ∈ builders.leaves ∧ Readable half.2
  | .nil, _, _, _, h, _ => by
    rw [getMemberDataIn] at h
    cases h
  | .cons id builder rest, component, member, half, h, hmember => by
    rw [getMemberDataIn] at h
    split at h
    · obtain ⟨hleaf, hname⟩ := readable_getMemberData hn builder h hmember
      exact ⟨List.mem_append_left _ hleaf, hname⟩
    · obtain ⟨hleaf, hname⟩ := readable_getMemberDataIn hn rest h hmember
      exact ⟨List.mem_append_right _ hleaf, hname⟩

end

theorem resolved_bindings_clean (hs : s.Linked) (hn : s.Named) {fuel : Nat}
    {view : ResolvedProjectView}
    (h : resolveProject fuel s = .ok view) : ∀ id b, view.bindings.get id = some b →
      Deploy.Clean b.config := by
  obtain ⟨builders, view₀, hv₀, hcreate, -, -, hbuild⟩ := resolveProject_ok h
  have hleaves : ∀ leaf ∈ builders.leaves, ReadableId leaf.id :=
    createEach_leaves (fun e he _ _ _ hb => readable_leaves hs hn (readable_entry hs hn he) hb)
      hcreate
  refine buildBindings_invariant (P := fun view => ∀ id b,
    view.bindings.get id = some b → Deploy.Clean b.config) ?_ ?_ hbuild
  · intro v builders' b w w' hsub hb hw hrun
    obtain ⟨key, hkey⟩ := mem_values.mp hb
    obtain ⟨hstate, haction, -⟩ := hn.binding b (.inl ⟨v, key, hkey⟩)
    obtain ⟨bindingView, hsource, htarget, rfl⟩ := buildBinding_ok hrun
    obtain ⟨hsl, hsn⟩ := readable_getMemberDataIn hn builders' hsource hstate
    obtain ⟨htl, htn⟩ := readable_getMemberDataIn hn builders' htarget haction
    intro id x hx
    rcases get_set_eq_some.mp hx with ⟨-, rfl⟩ | ⟨-, hx⟩
    · intro part hpart
      simp only [BindingView.config, List.mem_cons, List.not_mem_nil, or_false] at hpart
      rcases hpart with rfl | rfl | rfl | rfl
      · exact (hleaves _ (hsub hsl)).1
      · exact hsn
      · exact (hleaves _ (hsub htl)).1
      · exact htn
    · exact hw id x hx
  · intro id b hb
    rw [putLeaves_bindings, hv₀.no_bindings] at hb
    cases hb

end Resolver

/-- In every state reached by writes of readable names: the id of each binding of the resolved
project is read back as the binding, the bindings of a view have different ids, and when the other
checks of `setBinding` have passed, an id is there only if the very binding is. -/
theorem binding_ids_are_read_back {data : CoreProject} {s₀ s : ProjectModel}
    (hload : ProjectModel.load data = .ok s₀)
    (hinit : (ProjectModel.construct data).Meets NamesReadable ProjectModel.empty)
    (hrun : Reaches NamesReadable s₀ s) :
    (∀ fuel view, resolveProject fuel s = .ok view → ∀ id b, view.bindings.get id = some b →
      Deploy.createBindingConfig (makeId b.config) = .ok b.config) ∧
    (∀ v id b id' b', (s.views v).bindings.get id = some b → (s.views v).bindings.get id' =
      some b' →
      makeId (s.bindingAt b).data = makeId (s.bindingAt b').data →
        (s.bindingAt b).data = (s.bindingAt b').data) ∧
    ∀ v binding source target fuel type, (s.views v).components.get binding.sourceComponent =
      some source →
      (s.views v).components.get binding.targetComponent = some target →
      s.getMemberValueType fuel (s.componentAt source).definition binding.sourceState .state =
        .ok type →
      s.getMemberValueType fuel (s.componentAt target).definition binding.targetAction .action =
        .ok type →
      ((s.views v).bindings.has (makeId binding) = true ↔
        ∃ id b, (s.views v).bindings.get id = some b ∧ (s.bindingAt b).data = binding) := by
  obtain ⟨hs, hn⟩ := Reaches.keeps (fun s w _ h hw hcond => h.apply hw.checked hcond)
    (load_keeps (fun s w _ h hw hcond => h.apply hw hcond) hload hinit ProjectModel.named_empty)
      hrun
  have hparts : ∀ v id b, (s.views v).bindings.get id = some b →
      ∀ part ∈ [(s.bindingAt b).data.sourceComponent, (s.bindingAt b).data.sourceState,
        (s.bindingAt b).data.targetComponent], ':' ∉ part.toList := by
    intro v id b hb part hpart
    simp only [List.mem_cons, List.not_mem_nil, or_false] at hpart
    rcases hpart with rfl | rfl | rfl
    · exact (hn.ends b).1
    · exact (hn.binding b (.inl ⟨v, id, hb⟩)).1.2
    · exact (hn.ends b).2
  refine ⟨fun fuel view hview id b hb => ?_, fun v id b id' b' hb hb' => ?_, ?_⟩
  · exact Deploy.createBindingConfig_makeId (Resolver.resolved_bindings_clean hs hn hview id b hb)
  · exact Deploy.makeId_inj (hparts v id b hb) (hparts v id' b' hb')
  · intro v binding source target fuel type hsource htarget hstate _
    rw [has_iff]
    constructor
    · rintro ⟨b, hb⟩
      refine ⟨_, b, hb, Deploy.makeId_inj (hparts v _ b hb) ?_ ?_⟩
      · intro part hpart
        simp only [List.mem_cons, List.not_mem_nil, or_false] at hpart
        rcases hpart with rfl | rfl | rfl
        · exact (hs.views.component v _ source hsource).id ▸ (hn.component source).1
        · exact (hn.of_getMemberValueType hstate).2
        · exact (hs.views.component v _ target htarget).id ▸ (hn.component target).1
      · rw [← (hn.binding b (.inl ⟨v, _, hb⟩)).2.2, (hs.views.binding v _ b hb).id]
    · rintro ⟨id, b, hb, rfl⟩
      refine ⟨b, ?_⟩
      rw [← (hn.binding b (.inl ⟨v, id, hb⟩)).2.2, (hs.views.binding v id b hb).id]
      exact hb

/-- A lamp that switches a lamp of a template. -/
def nestedCalls : List Call :=
  [.setTemplate "T", setLamp (some "T") (ViewModel.copyId "lamp"),
    .setTemplateExport "T" .member "light" (ViewModel.copyId "lamp") "set",
    .setComponent none "hall" { type := .template, id := "T" } { x := 1, y := 1 },
      setLamp none "door",
    .setBinding none
      { sourceComponent := "door", sourceState := "on", targetComponent := "hall",
        targetAction := "light" }]

theorem binding_ids_are_read_back_nested : ∃ s₀ s view b, ProjectModel.load lampProject = .ok s₀ ∧
    Reaches NamesReadable s₀ s ∧ resolveProject 10 s = .ok view ∧
      view.bindings.get "door:on:hall-lamp:set" = some b ∧
    Deploy.createBindingConfig (makeId b.config) = .ok b.config := by
  obtain ⟨s₀, s, hload, hinit, hrun, hview⟩ := session_reaches
    (P := fun s => (match resolveProject 10 s with
      | .ok view => view.bindings.has "door:on:hall-lamp:set"
      | .error _ => false) = true)
    (by decide +kernel : (session 10 lampProject nestedCalls).Ends ProjectModel.empty _)
    (by decide +kernel : (session 10 lampProject
      nestedCalls).Meets NamesReadable ProjectModel.empty)
  split at hview
  · next view hok =>
    obtain ⟨b, hb⟩ := has_iff.mp hview
    exact ⟨s₀, s, view, b, hload, hrun, hok, hb,
      (binding_ids_are_read_back hload hinit hrun).1 10 view hok _ b hb⟩
  · cases hview

/-- A core that runs a lamp under an id with a colon. -/
def hallLamp : Import.ImportData where
  plugins := [{ id := "i:io.lamp", instanceName := "i", plugin := lampPlugin.toNetPlugin }]
  components := [{ id := "hall:lamp", pluginId := "i:io.lamp", external := false,
                   config := some (.ofList [("level", .number 1)]) }]

def hallLampUpdates : List Import.Update :=
  [{ objectChangeKeys := ["component-set:hall:lamp"], id := "component-set::hall:lamp",
     dependencies := [],
     body := .componentSet { id := "hall:lamp", pluginId := "i:io.lamp", external := false,
                             config := some (.ofList [("level", .number 1)]) } }]

theorem hallLamp_updates : ∃ s₀ changes, ProjectModel.load lampProject = .ok s₀ ∧
    Import.buildUpdates 10 hallLamp s₀ (Import.prepareChanges hallLamp s₀) =
      .ok (hallLampUpdates, changes) :=
  ⟨_, _, rfl, rfl⟩

/-- The lamp is imported and bound to another one. What the deployment reads from the id of the
binding is a binding of other components. -/
theorem imported_id_is_not_read_back : ∃ s₀ changes s view b config, ProjectModel.load lampProject =
    .ok s₀ ∧
    Import.buildUpdates 10 hallLamp s₀ (Import.prepareChanges hallLamp s₀) =
      .ok (hallLampUpdates, changes) ∧
    Reaches AnyWrite s₀ s ∧ resolveProject 10 s = .ok view ∧
      view.bindings.get "hall:lamp:on:door:set" = some b ∧
    b.config = { sourceComponent := "hall:lamp", sourceState := "on", targetComponent := "door",
                 targetAction := "set" } ∧
    Deploy.createBindingConfig (makeId b.config) = .ok config ∧
    config = { sourceComponent := "hall", sourceState := "lamp", targetComponent := "on",
               targetAction := "door" } := by
  obtain ⟨s₀, changes, hload₀, hupdates⟩ := hallLamp_updates
  obtain ⟨_, s, hload, hrun, hview⟩ := session_reaches_any
    (P := fun s => (match resolveProject 10 s with
      | .ok view => (view.bindings.get "hall:lamp:on:door:set").map BindingView.config
      | .error _ => none) =
        some { sourceComponent := "hall:lamp", sourceState := "on", targetComponent := "door",
               targetAction := "set" })
    (by decide +kernel : (session 10 lampProject
      [.applyBulkUpdates ["component-set:hall:lamp"] hallLampUpdates, setLamp none "door",
        .setBinding none
          { sourceComponent := "hall:lamp", sourceState := "on", targetComponent := "door",
            targetAction := "set" }]).Ends ProjectModel.empty _)
  obtain rfl := Except.ok.inj (hload₀.symm.trans hload)
  split at hview
  · next view hok =>
    obtain ⟨b, hb, hconfig⟩ := Option.map_eq_some_iff.mp hview
    exact ⟨s₀, changes, s, view, b, _, hload, hupdates, hrun, hok, hb, hconfig,
      by rw [hconfig]; rfl, rfl⟩
  · cases hview

end MylifeHome.Studio.Core
