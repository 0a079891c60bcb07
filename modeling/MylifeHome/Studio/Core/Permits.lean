import MylifeHome.Studio.Core.Linked
import MylifeHome.Studio.Core.OpenedProject

/-!
# The calls make permitted writes only

For each method, that what it has checked permits its writes. The links of the
graph then hold in every state of every run, and a property that the permitted
writes keep under a condition holds in every run whose writes meet it.
-/
namespace MylifeHome.Studio.Core

open MylifeHome.Lib MylifeHome.Lib.Program MylifeHome.Studio.Core.Import ProjectModel OMap
  CoreOpenedProject ComponentModel

variable {s : ProjectModel}

/-- The links hold after a program that makes permitted writes. -/
theorem checked_of_permitted {α : Type} {p : M α} (h : p.Meets Permitted s) : p.Meets Checked s :=
  h.mono (fun _ _ hw => hw.checked)

theorem linked_run {α : Type} {p : M α} {s' : ProjectModel} {a : α} (hp : p.Meets Checked s)
    (hs : s.Linked)
    (h : p.run s = .ok a s') : s'.Linked := hp.invariant (fun _ _ hs hw => hs.apply hw) hs h

theorem getTemplateOrSelf_live {templateId : Option String} {v : ViewRef}
    (h : s.getTemplateOrSelf templateId = .ok v) : s.Live v := by
  unfold getTemplateOrSelf at h
  split at h
  · cases h; trivial
  · split at h
    · cases h; trivial
    · obtain ⟨t, ht, rfl⟩ := except_map_ok.mp h
      exact ⟨_, getTemplate_ok.mp ht⟩

/-! ## Views -/

namespace ViewModel

theorem registerComponent_permitted {v : ViewRef} {id : String} {data : CoreComponentData}
    (hlive : s.Live v) (hid : (s.views v).components.get id = none)
    (hcycle : ∀ t u, v = some t → s.getDefinition data.definition = .ok (.template u) →
      ∃ fuel usageTemplates, s.getRecursiveTemplateUsage fuel t = .ok usageTemplates ∧
        u ∉ usageTemplates) :
    (registerComponent v id data).Meets Permitted s := by
  simp only [registerComponent, meets_read_bind, meets_orThrow_bind, meets_perform]
  intro d hd
  exact ⟨hlive, hid, hd, fun t u hv hu => hcycle t u hv (hu ▸ hd)⟩

theorem run_registerComponent_ok {v : ViewRef} {id : String} {data : CoreComponentData}
    {s' : ProjectModel} :
    (registerComponent v id data).run s = .ok ⟨⟩ s' ↔
      ∃ d, s.getDefinition data.definition = .ok d ∧ s.addComponent v id d data = s' := by
  simp only [registerComponent, Program.run_bind_ok, Program.run_read_ok, Program.run_orThrow_ok,
    Program.run_perform_ok]
  constructor
  · rintro ⟨_, _, ⟨rfl, rfl⟩, d, _, ⟨hd, rfl⟩, h⟩
    exact ⟨d, hd, h⟩
  · rintro ⟨d, hd, h⟩
    exact ⟨_, _, ⟨rfl, rfl⟩, d, _, ⟨hd, rfl⟩, h⟩

theorem setComponent_permitted (fuel : Nat) {v : ViewRef} (componentId : String)
    {definition : CoreComponentDefinition} (position : Position) (hlive : s.Live v)
    (hcycle : ∀ t u, v = some t → s.getDefinition definition = .ok (.template u) →
      ∃ fuel usageTemplates, s.getRecursiveTemplateUsage fuel t = .ok usageTemplates ∧
        u ∉ usageTemplates) :
    (setComponent fuel v componentId definition position).Meets Permitted s := by
  simp only [setComponent, validateId, meets_read_bind, meets_orThrow_bind, meets_throwIf_bind]
  intro hno _ d _ _ _ config _
  exact registerComponent_permitted hlive (has_eq_false.mp hno) hcycle

theorem renameComponent_permitted (fuel : Nat) (v : ViewRef) (id newId : String) :
    (renameComponent fuel v id newId).Meets Permitted s := by
  simp only [renameComponent, validateId, meets_read_bind, meets_throwIf_bind]
  intro hno _
  split
  · exact meets_throw
  · next c hc =>
    simp only [meets_read_bind, meets_orThrow_bind, meets_perform]
    exact fun _ _ => ⟨has_eq_false.mp hno, id, hc⟩

theorem clearComponent_meets {cond : ProjectModel → Write → Prop} {write : Ref → Write}
    {v : ViewRef} {id : String}
    (hw : ∀ c, (s.views v).components.get id = some c → cond s (write c)) :
    (clearComponent write v id).Meets cond s := by
  simp only [clearComponent, meets_read_bind]
  split
  · exact meets_throw
  · next c hc => exact meets_perform.mpr (hw c hc)

theorem setBinding_permitted (fuel : Nat) (v : ViewRef) (data : CoreBindingData) :
    (setBinding fuel v data).Meets Permitted s := by
  simp only [setBinding, registerBinding, meets_read_bind, meets_orThrow_bind, meets_throwIf_bind,
    meets_perform]
  intro source hsource target htarget hself sourceType hst targetType htt htype hno source' hsource'
    target' htarget'
  cases hsource.symm.trans hsource'
  cases htarget.symm.trans htarget'
  have htypes : sourceType = targetType := by simpa using htype
  subst htypes
  exact ⟨getComponent_ok.mp hsource, getComponent_ok.mp htarget, by simpa using hself,
    has_eq_false.mp hno, fuel, sourceType, hst, htt⟩

theorem clearBinding_permitted (v : ViewRef) (id : String) :
    (clearBinding v id).Meets Permitted s := by
  simp only [clearBinding, meets_read_bind]
  split
  · exact meets_throw
  · next b hb => exact meets_perform.mpr ⟨id, hb⟩

/-! The copy of components to another view. -/

theorem copyId_inj {a b : String} (h : copyId a = copyId b) : a = b := by
  simpa [copyId] using h

theorem copySources_ok {v : ViewRef} {componentsIds : List String} {components : List Ref}
    (h : copySources s v componentsIds = .ok components) :
    components.Nodup ∧ ∀ c ∈ components, ∃ id, (s.views v).components.get id = some c := by
  obtain ⟨found, hfound, hret⟩ := except_bind_ok.mp h
  cases hret
  refine ⟨List.nodup_reverse.mpr (List.nodup_dedup _), ?_⟩
  intro c hc
  rw [List.mem_reverse, List.mem_dedup, List.mem_reverse] at hc
  obtain ⟨id, _, hid⟩ := mem_mapM_ok hfound hc
  exact ⟨id, getComponent_ok.mp hid⟩

theorem checkCopy_ok {target : ViewRef} {components : List Ref}
    {dryRun dryRun' : NamingDryRun.Engine}
    (h : components.foldlM (checkCopy s target) dryRun = .ok dryRun') :
    ∀ c ∈ components, (∃ p, (s.componentAt c).definition = .plugin p) ∧
      (s.views target).components.get (copyId (s.componentAt c).id) = none := by
  induction components generalizing dryRun with
  | nil => exact fun c hc => by cases hc
  | cons x l ih =>
    rw [List.foldlM_cons, except_bind_ok] at h
    obtain ⟨next, hx, h⟩ := h
    intro c hc
    rcases List.mem_cons.mp hc with rfl | hc
    · unfold checkCopy at hx
      dsimp only at hx
      split at hx
      · cases hx
      · split at hx
        · cases hx
        · next p hp =>
          split at hx
          · cases hx
          · next hno => exact ⟨⟨p, hp⟩, has_eq_false.mp (by simpa [hasComponent] using hno)⟩
    · exact ih h c hc

/-- What is left to copy can be copied. -/
structure Copying (v target : ViewRef) (l : List Ref) (s : ProjectModel) : Prop where
  linked : s.Linked
  live : s.Live target
  nodup : l.Nodup
  source : ∀ c ∈ l, ∃ id, (s.views v).components.get id = some c
  plugin : ∀ c ∈ l, ∃ p, (s.componentAt c).definition = .plugin p
  free : ∀ c ∈ l, (s.views target).components.get (copyId (s.componentAt c).id) = none

theorem Copying.permitted {v target : ViewRef} {c : Ref} {l : List Ref}
    (h : Copying v target (c :: l) s) :
    (copyComponent target c).Meets Permitted s := by
  simp only [copyComponent, meets_read_bind]
  refine registerComponent_permitted h.live (h.free c List.mem_cons_self) ?_
  intro t u _ hu
  obtain ⟨id, hid⟩ := h.source c List.mem_cons_self
  obtain ⟨p, hp⟩ := h.plugin c List.mem_cons_self
  have htype := (h.linked.views.component v id c hid).definition_type p hp
  rcases getDefinition_ok.mp hu with ⟨_, _, _, hd⟩ | ⟨htype', _⟩
  · cases hd
  · cases htype.symm.trans htype'

theorem Copying.step {v target : ViewRef} (hne : v ≠ target) {c : Ref} {l : List Ref}
    {s' : ProjectModel} (h : Copying v target (c :: l) s)
    (hrun : (copyComponent target c).run s = .ok ⟨⟩ s') :
    Copying v target l s' := by
  have hlinked := linked_run (checked_of_permitted h.permitted) h.linked hrun
  simp only [copyComponent, Program.run_bind_ok, Program.run_read_ok,
    run_registerComponent_ok] at hrun
  obtain ⟨_, _, ⟨rfl, rfl⟩, d, _, rfl⟩ := hrun
  obtain ⟨hc, hnodup⟩ := List.nodup_cons.mp h.nodup
  have hat : ∀ x ∈ l, (s.addComponent target (copyId (s.componentAt c).id) d
      { definition := (s.componentAt c).data.definition,
        position := (s.componentAt c).data.position,
        config := some ((s.componentAt c).data.config.getD ∅), external := false }).componentAt x =
      s.componentAt x := by
    intro x hx
    obtain ⟨id, hid⟩ := h.source x (List.mem_cons_of_mem _ hx)
    exact Function.update_of_ne (Nat.ne_of_lt (h.linked.views.component v id x hid).lt) _ _
  refine ⟨hlinked, ((sameDefinitions_addComponent s _ _ _ _).templates.live target).mpr h.live,
    hnodup, ?_, ?_, ?_⟩
  · intro x hx
    obtain ⟨id, hid⟩ := h.source x (List.mem_cons_of_mem _ hx)
    refine ⟨id, ?_⟩
    rw [addComponent_views, if_neg hne]
    exact hid
  · intro x hx
    rw [hat x hx]
    exact h.plugin x (List.mem_cons_of_mem _ hx)
  · intro x hx
    rw [hat x hx, addComponent_views, if_pos rfl, get_set_ne]
    · exact h.free x (List.mem_cons_of_mem _ hx)
    · -- Two components of a view have two ids, and so have their copies.
      intro he
      obtain ⟨id, hid⟩ := h.source x (List.mem_cons_of_mem _ hx)
      obtain ⟨id', hid'⟩ := h.source c List.mem_cons_self
      have hids := copyId_inj he
      rw [(h.linked.views.component v id x hid).id,
        (h.linked.views.component v id' c hid').id] at hids
      rw [hids, hid', Option.some.injEq] at hid
      exact hc (hid ▸ hx)

theorem copyTo_permitted (fuel : Nat) (v : ViewRef) (componentsIds : List String) {target : ViewRef}
    (hs : s.Linked)
    (hlive : s.Live target) : (copyTo fuel v componentsIds target).Meets Permitted s := by
  simp only [copyTo, meets_read_bind, meets_orThrow_bind, meets_throwIf_bind]
  intro hne components hsources dryRun hcheck _ _
  obtain ⟨hnodup, hsource⟩ := copySources_ok hsources
  have hcopying : Copying v target components s :=
    ⟨hs, hlive, hnodup, hsource, fun c hc => (checkCopy_ok hcheck c hc).1,
      fun c hc => (checkCopy_ok hcheck c hc).2⟩
  rw [meets_bind]
  refine ⟨?_, ?_⟩
  · refine meets_forEach (P := Copying v target) ?_ hcopying
    exact fun c l s h => ⟨h.permitted, fun s' hrun => h.step (of_decide_eq_false hne) hrun⟩
  · intro _ s' _
    refine meets_forEach (P := fun _ _ => True) ?_ trivial
    intro b l s _
    simp only [copyBinding, meets_read_bind]
    exact ⟨setBinding_permitted fuel target _, fun _ _ => trivial⟩

end ViewModel

/-! ## Components -/

namespace ComponentModel

theorem configure_permitted (fuel : Nat) (c : Ref) (configId : String) (configValue : JsValue) :
    (configure fuel c configId configValue).Meets Permitted s := by
  simp only [configure, meets_read_bind]
  split
  · exact meets_throw
  · next config hconfig =>
    simp only [meets_read_bind, meets_throwIf_bind, meets_orThrow_bind, meets_perform]
    intro _ _ _
    simp [Permitted, Checked, hconfig]

theorem deleteConfig_permitted (c : Ref) (configId : String) :
    (deleteConfig c configId).Meets Permitted s := by
  simp only [deleteConfig, meets_read_bind]
  split
  · exact meets_throw
  · next config hconfig => exact meets_perform.mpr (by simp [Permitted, Checked, hconfig])

theorem writeDefaultConfig_permitted (fuel : Nat) (c : Ref) (configId : String) :
    (writeDefaultConfig fuel c configId).Meets Permitted s := by
  simp only [writeDefaultConfig, meets_read_bind, meets_orThrow_bind]
  intro value _
  split
  · exact meets_throw
  · next config hconfig => exact meets_perform.mpr (by simp [Permitted, Checked, hconfig])

theorem checkDelete_permitted (c : Ref) : (checkDelete c).Meets Permitted s := by
  simp only [checkDelete, meets_read_bind]
  split
  · exact meets_pure
  · simp only [meets_read_bind, meets_throwIf]

end ComponentModel

/-! ## Templates -/

namespace TemplateModel

/-- The ids that the check compares tell the templates apart. -/
theorem setComponent_permitted (fuel : Nat) {t : Ref} (componentId : String)
    (definition : CoreComponentDefinition) (position : Position) (hs : s.Linked)
    (hlive : s.Live (some t)) :
    (setComponent fuel t componentId definition position).Meets Permitted s := by
  simp only [setComponent, meets_read_bind, meets_orThrow_bind, meets_throwIf_bind]
  intro usageTemplates husage hno
  refine ViewModel.setComponent_permitted fuel componentId position hlive ?_
  intro t' u ht' hu
  cases ht'
  refine ⟨fuel, usageTemplates, husage, ?_⟩
  intro hmem
  rcases getDefinition_ok.mp hu with ⟨_, p, _, hd⟩ | ⟨htype, u', hget, hd⟩
  · cases hd
  · cases hd
    refine of_decide_eq_false hno ⟨htype, List.mem_map.mpr ⟨u, hmem, ?_⟩⟩
    exact hs.templates.id _ u hget

theorem clearComponent_meets {cond : ProjectModel → Write → Prop} {write : Ref → Write} {t : Ref}
    {id : String} (hw : ∀ c, (s.views (some t)).components.get id = some c →
      s.hasExportWithComponentId t id = false →
      cond s (write c)) :
    (clearComponent write t id).Meets cond s := by
  simp only [clearComponent, meets_read_bind]
  split
  · exact meets_throw
  · next hconfig =>
    split
    · exact meets_throw
    · next hmembers =>
      refine ViewModel.clearComponent_meets fun c hc => hw c hc ?_
      rw [List.find?_eq_none] at hconfig hmembers
      rw [hasExportWithComponentId, Bool.or_eq_false_iff, List.any_eq_false, List.any_eq_false]
      constructor
      · intro item hitem
        obtain ⟨k, hk⟩ := mem_values.mp hitem
        exact hconfig (k, item) (mem_entries.mpr hk)
      · intro item hitem
        obtain ⟨k, hk⟩ := mem_values.mp hitem
        exact hmembers (k, item) (mem_entries.mpr hk)

theorem setConfigExport_permitted (fuel : Nat) {t : Ref} (exportId componentId configName : String)
    (hs : s.Linked)
    (hlive : s.Live (some t)) : (setConfigExport fuel t exportId componentId configName).Meets
      Permitted s := by
  simp only [setConfigExport, meets_read_bind, meets_orThrow_bind]
  intro c hc _ hconfig
  split
  · exact meets_throw
  · next hfind =>
    simp only [meets_throwIf_bind, meets_read_bind, meets_perform_bind]
    intro hno
    have hget := getComponent_ok.mp hc
    have hid := (hs.views.component _ _ _ hget).id
    refine ⟨⟨hlive, has_eq_false.mp hno, ⟨c, by rw [hid]; exact hget, hconfig⟩, ?_⟩, ?_⟩
    · -- The search skips the export under the given id, which is not there either.
      intro id x hx hsame
      rw [List.find?_eq_none] at hfind
      refine hfind (id, x) (mem_entries.mpr hx) (decide_eq_true ⟨?_, ?_⟩)
      · rintro rfl
        rw [has, hx] at hno
        cases hno
      · exact ⟨hsame.1.trans hid, hsame.2⟩
    · rw [meets_bind]
      refine ⟨deleteConfig_permitted c configName, ?_⟩
      intro _ s' _
      simp only [meets_read_bind]
      exact meets_forEach (P := fun _ _ => True)
        (fun x _ s _ => ⟨writeDefaultConfig_permitted fuel x exportId, fun _ _ => trivial⟩) trivial

theorem setMemberExport_permitted (fuel : Nat) {t : Ref} (exportId componentId memberName : String)
    (hs : s.Linked)
    (hlive : s.Live (some t)) : (setMemberExport fuel t exportId componentId memberName).Meets
      Permitted s := by
  simp only [setMemberExport, meets_read_bind, meets_orThrow_bind, meets_throwIf_bind,
    meets_perform]
  intro c hc _ hmember hno
  have hget := getComponent_ok.mp hc
  exact ⟨hlive, has_eq_false.mp hno, c, fuel,
    by rw [(hs.views.component _ _ _ hget).id]; exact hget, hmember⟩

theorem setExport_permitted (fuel : Nat) {t : Ref} (exportType : ExportType)
    (exportId componentId propertyName : String) (hs : s.Linked) (hlive : s.Live (some t)) :
    (setExport fuel t exportType exportId componentId propertyName).Meets Permitted s := by
  cases exportType with
  | config => exact setConfigExport_permitted fuel exportId componentId propertyName hs hlive
  | member => exact setMemberExport_permitted fuel exportId componentId propertyName hs hlive

end TemplateModel

namespace ViewRef

theorem setComponent_permitted (fuel : Nat) {v : ViewRef} (componentId : String)
    (definition : CoreComponentDefinition) (position : Position) (hs : s.Linked)
    (hlive : s.Live v) :
    (setComponent fuel v componentId definition position).Meets Permitted s := by
  cases v with
  | none =>
    exact ViewModel.setComponent_permitted fuel componentId position hlive fun _ _ ht => by cases ht
  | some t =>
    exact TemplateModel.setComponent_permitted fuel componentId definition position hs hlive

theorem clearComponent_meets {cond : ProjectModel → Write → Prop} {write : Ref → Write}
    {v : ViewRef} {id : String} (hw : ∀ c, (s.views v).components.get id = some c →
      (∀ t, v = some t → s.hasExportWithComponentId t id = false) →
      cond s (write c)) :
    (clearComponent write v id).Meets cond s := by
  cases v with
  | none => exact ViewModel.clearComponent_meets fun c hc => hw c hc (fun t ht => by cases ht)
  | some t =>
    refine TemplateModel.clearComponent_meets fun c hc hno => hw c hc ?_
    intro t' ht'
    cases ht'
    exact hno

end ViewRef

/-! ## The project -/

namespace ProjectModel

theorem deletePlugin_permitted {write : Ref → Write} {id : String}
    (hw : ∀ p, s.plugins.get id = some p → Permitted s (write p)) :
    (deletePlugin write id).Meets Permitted s := by
  simp only [deletePlugin, meets_read_bind, meets_orThrow_bind, meets_perform]
  exact fun p hp => hw p (getPlugin_ok.mp hp)

theorem setTemplate_permitted (templateId : String) :
    (setTemplate templateId).Meets Permitted s := by
  simp only [setTemplate, validateId, meets_read_bind, meets_throwIf_bind, meets_perform]
  exact fun hno _ => has_eq_false.mp hno

theorem renameTemplate_permitted (id newId : String) :
    (renameTemplate id newId).Meets Permitted s := by
  simp only [renameTemplate, validateId, meets_read_bind, meets_throwIf_bind]
  intro hno _
  split
  · exact meets_throw
  · next t ht => exact meets_perform.mpr ⟨⟨id, ht⟩, has_eq_false.mp hno⟩

theorem clearTemplate_permitted (id : String) : (clearTemplate id).Meets Permitted s := by
  simp only [clearTemplate, meets_read_bind]
  split
  · exact meets_throw
  · next t ht =>
    simp only [meets_read_bind, meets_throwIf_bind, meets_perform]
    exact fun hused => ⟨⟨id, ht⟩, hused⟩

theorem importPlugin_permitted (instanceName : String) (netPlugin : NetPlugin) :
    (importPlugin instanceName netPlugin).Meets Permitted s := by
  simp only [importPlugin, findPlugin, meets_read_bind]
  split
  · next p hp => exact meets_perform.mpr hp
  · next hno => exact meets_perform.mpr hno

theorem importComponent_permitted (id pluginId : String) (external : Bool)
    (config : Option CoreComponentConfiguration) :
    (importComponent id pluginId external config).Meets Permitted s := by
  simp only [importComponent, meets_read_bind]
  split
  · next c hc =>
    simp only [executeImport, meets_read_bind, meets_orThrow_bind, meets_perform]
    exact fun p hp => ⟨⟨id, hc⟩, pluginId, getPlugin_ok.mp hp⟩
  · next hno => exact ViewModel.registerComponent_permitted trivial hno (fun t u ht => by cases ht)

end ProjectModel

/-! ## The bulk updates -/

theorem applyUpdate_permitted (fuel : Nat) (ctx : ApplyContext) (update : Update) :
    (applyUpdate fuel ctx update).Meets Permitted s := by
  unfold applyUpdate
  cases update.body with
  | pluginSet plugin =>
    rw [meets_bind]
    exact ⟨importPlugin_permitted _ _, fun _ _ _ => meets_pure⟩
  | pluginClear pluginId =>
    rw [meets_bind]
    exact ⟨deletePlugin_permitted fun p hp => hp, fun _ _ _ => meets_pure⟩
  | componentSet component =>
    rw [meets_bind]
    exact ⟨importComponent_permitted _ _ _ _, fun _ _ _ => meets_pure⟩
  | componentClear templateId componentId =>
    rw [meets_bind]
    refine ⟨?_, fun _ _ _ => meets_pure⟩
    simp only [UpdateApi.clearComponent, meets_read_bind, meets_orThrow_bind]
    exact fun v _ => ViewRef.clearComponent_meets fun c hc hno => ⟨componentId, hc, hno⟩
  | componentResetConfig templateId componentId configId =>
    dsimp only
    split
    · exact meets_pure
    · rw [meets_bind]
      refine ⟨?_, fun _ _ _ => meets_pure⟩
      simp only [UpdateApi.resetComponentConfig, meets_read_bind, meets_orThrow_bind]
      exact fun v _ c _ => writeDefaultConfig_permitted fuel c configId
  | componentClearConfig templateId componentId configId =>
    dsimp only
    split
    · exact meets_pure
    · rw [meets_bind]
      refine ⟨?_, fun _ _ _ => meets_pure⟩
      simp only [UpdateApi.clearComponentConfig, meets_read_bind, meets_orThrow_bind]
      exact fun v _ c _ => deleteConfig_permitted c configId
  | bindingClear templateId bindingId =>
    rw [meets_bind]
    refine ⟨?_, fun _ _ _ => meets_pure⟩
    simp only [UpdateApi.clearBinding, meets_read_bind, meets_orThrow_bind]
    exact fun v _ => ViewModel.clearBinding_permitted v bindingId
  | templateClearExport templateId exportType exportId =>
    rw [meets_bind]
    refine ⟨?_, fun _ _ _ => meets_pure⟩
    simp only [UpdateApi.clearTemplateExport, TemplateModel.importClearExport, meets_read_bind,
      meets_orThrow_bind, meets_perform]
    exact fun t ht => ⟨templateId, getTemplate_ok.mp ht⟩

theorem applyUpdates_permitted (fuel : Nat) (updates : List Update) (selection : List String)
    (hs : s.Linked) :
    (applyUpdates fuel updates selection).Meets Permitted s :=
  meets_foldEach (P := ProjectModel.Linked)
    (fun update _ ctx _ hs => ⟨applyUpdate_permitted fuel ctx update, fun _ _ hrun =>
      linked_run (checked_of_permitted (applyUpdate_permitted fuel ctx update)) hs hrun⟩) hs

/-! ## The calls -/

namespace CoreOpenedProject

theorem updateToolboxInstance_permitted (id : String) (action : ToolboxAction) (hs : s.Linked) :
    (updateToolboxInstance id action).Meets Permitted s := by
  simp only [updateToolboxInstance, meets_read_bind, meets_orThrow_bind]
  intro i hi
  have hget := getInstance_ok.mp hi
  cases action with
  | display wanted =>
    simp only [InstanceModel.updateAllPluginsDisplay, meets_read_bind]
    refine meets_forEach (P := fun l s => ∀ p ∈ l, ∃ id, s.plugins.get id = some p) ?_ ?_
    · intro p l s h
      refine ⟨meets_perform.mpr (h p List.mem_cons_self), ?_⟩
      intro s' hrun q hq
      obtain rfl := Program.run_perform_ok.mp hrun
      exact h q (List.mem_cons_of_mem _ hq)
    · intro p hp
      obtain ⟨pid, hpid⟩ := mem_values.mp hp
      exact ⟨pid, (hs.plugins.plugins id i pid p hget hpid).1⟩
  | delete =>
    simp only [meets_read_bind]
    refine meets_forEach (P := fun l s => l.Nodup ∧ ∀ id ∈ l, ∃ p, s.plugins.get id = some p ∧
      s.used (.plugin p) = false) ?_ ?_
    · rintro pid l _ ⟨hnodup, h⟩
      obtain ⟨p, hp, hused⟩ := h pid List.mem_cons_self
      refine ⟨deletePlugin_permitted fun q hq => ?_, ?_⟩
      · cases hp.symm.trans hq
        exact ⟨hp, hused⟩
      · intro s' hrun
        simp only [deletePlugin, Program.run_bind_ok, Program.run_read_ok, Program.run_orThrow_ok,
          Program.run_perform_ok] at hrun
        obtain ⟨_, _, ⟨rfl, rfl⟩, q, _, ⟨_, rfl⟩, rfl⟩ := hrun
        obtain ⟨hpid, hnodup⟩ := List.nodup_cons.mp hnodup
        refine ⟨hnodup, ?_⟩
        intro id' hid'
        obtain ⟨p', hp', hused'⟩ := h id' (List.mem_cons_of_mem _ hid')
        refine ⟨p', get_delete_eq_some.mpr ⟨?_, hp'⟩, hused'⟩
        rintro rfl
        exact hpid hid'
    · -- The plugins of the instance are listed once, under their own ids.
      have hpid : ∀ pid p, (s.instanceAt i).plugins.get pid = some p → (s.pluginAt p).id = pid :=
        fun pid p hp =>
        hs.plugins.id pid p (hs.plugins.plugins id i pid p hget hp).1
      constructor
      · have hkeys := (s.instanceAt i).plugins.keys_nodup
        rw [keys_eq_map_values hpid] at hkeys
        exact hkeys.sublist (List.filter_sublist.map _)
      · intro pid hmem
        obtain ⟨p, hp, rfl⟩ := List.mem_map.mp hmem
        obtain ⟨hp, hused⟩ := List.mem_filter.mp hp
        obtain ⟨pid, hpget⟩ := mem_values.mp hp
        rw [hpid pid p hpget]
        exact ⟨p, (hs.plugins.plugins id i pid p hget hpget).1, by simpa using hused⟩

theorem updateToolboxPlugin_permitted (id : String) (action : ToolboxAction) (hs : s.Linked) :
    (updateToolboxPlugin id action).Meets Permitted s := by
  simp only [updateToolboxPlugin, meets_read_bind, meets_orThrow_bind]
  intro p hp
  have hget := getPlugin_ok.mp hp
  cases action with
  | display wanted => exact meets_perform.mpr ⟨id, hget⟩
  | delete =>
    simp only [meets_read_bind, meets_throwIf_bind]
    intro hused
    refine deletePlugin_permitted fun q hq => ?_
    rw [hs.plugins.id id p hget] at hq ⊢
    cases hget.symm.trans hq
    exact ⟨hget, hused⟩

theorem clearWithBindings_permitted (v : ViewRef) (componentId : String) :
    (clearWithBindings v componentId).Meets Permitted s := by
  have hvisited : ∀ (visited : ProjectModel → List Ref) (l : List Ref) (s : ProjectModel),
      (forEach l (clearVisited v visited)).Meets Permitted s := by
    intro visited l s
    refine meets_forEach (P := fun _ _ => True) ?_ trivial
    intro b l s _
    refine ⟨?_, fun _ _ => trivial⟩
    simp only [clearVisited, meets_read_bind]
    split
    · simp only [meets_read_bind]
      exact ViewModel.clearBinding_permitted v _
    · exact meets_pure
  simp only [clearWithBindings, meets_read_bind, meets_orThrow_bind]
  intro c _
  rw [meets_bind]
  refine ⟨hvisited _ _ s, fun _ s' _ => ?_⟩
  simp only [meets_read_bind]
  rw [meets_bind]
  refine ⟨hvisited _ _ s', fun _ s'' _ => ?_⟩
  exact ViewRef.clearComponent_meets fun c hc hno => ⟨componentId, hc, hno⟩

theorem call_permitted (fuel : Nat) (c : Call) (hs : s.Linked) :
    (call fuel c).Meets Permitted s := by
  cases c with
  | updateToolbox itemType itemId action =>
    cases itemType with
    | «instance» => exact updateToolboxInstance_permitted itemId action hs
    | plugin => exact updateToolboxPlugin_permitted itemId action hs
  | setTemplate templateId => exact setTemplate_permitted templateId
  | clearTemplate templateId => exact clearTemplate_permitted templateId
  | renameTemplate templateId newId => exact renameTemplate_permitted templateId newId
  | setTemplateExport templateId exportType exportId componentId propertyName =>
    simp only [call, setTemplateExport, meets_read_bind, meets_orThrow_bind]
    exact fun t ht => TemplateModel.setExport_permitted fuel exportType exportId componentId
      propertyName hs
      ⟨templateId, getTemplate_ok.mp ht⟩
  | setComponent templateId componentId definition position =>
    simp only [call, setComponent, meets_read_bind, meets_orThrow_bind]
    exact fun v hv => ViewRef.setComponent_permitted fuel componentId definition position hs
      (getTemplateOrSelf_live hv)
  | moveComponents templateId componentsIds delta =>
    simp only [call, moveComponents, meets_read_bind, meets_orThrow_bind]
    intro v _
    refine meets_forEach (P := fun _ _ => True) ?_ trivial
    intro componentId l s _
    refine ⟨?_, fun _ _ => trivial⟩
    simp only [move, meets_read_bind, meets_orThrow_bind, meets_perform]
    exact fun c hc => ⟨v, componentId, getComponent_ok.mp hc⟩
  | configureComponent templateId componentId configId configValue =>
    simp only [call, configureComponent, meets_read_bind, meets_orThrow_bind]
    exact fun v _ c _ => configure_permitted fuel c configId configValue
  | renameComponent templateId componentId newId =>
    simp only [call, renameComponent, meets_read_bind, meets_orThrow_bind]
    exact fun v _ _ _ => ViewModel.renameComponent_permitted fuel v componentId newId
  | clearComponents templateId componentsIds =>
    simp only [call, clearComponents, meets_read_bind, meets_orThrow_bind]
    intro v _
    rw [meets_bind]
    constructor
    · refine meets_forEach (P := fun _ _ => True) ?_ trivial
      intro componentId l s _
      refine ⟨?_, fun _ _ => trivial⟩
      simp only [meets_read_bind, meets_orThrow_bind]
      exact fun c _ => checkDelete_permitted c
    · intro _ s' _
      exact meets_forEach (P := fun _ _ => True)
        (fun componentId _ s _ => ⟨clearWithBindings_permitted v componentId, fun _ _ => trivial⟩)
          trivial
  | copyComponentsToTemplate templateId componentsIds targetTemplateId =>
    simp only [call, copyComponentsToTemplate, meets_read_bind, meets_orThrow_bind]
    exact fun v _ target htarget =>
      ViewModel.copyTo_permitted fuel v componentsIds hs (getTemplateOrSelf_live htarget)
  | setBinding templateId binding =>
    simp only [call, setBinding, meets_read_bind, meets_orThrow_bind]
    exact fun v _ => ViewModel.setBinding_permitted fuel v binding
  | clearBinding templateId bindingId =>
    simp only [call, clearBinding, meets_read_bind, meets_orThrow_bind]
    exact fun v _ => ViewModel.clearBinding_permitted v bindingId
  | applyBulkUpdates selection updates =>
    exact meets_discard.mpr (applyUpdates_permitted fuel updates selection hs)

end CoreOpenedProject

/-! ## The constructor -/

namespace ProjectModel

theorem run_initComponent_ok {v : ViewRef} {e : String × CoreComponentData} {s' : ProjectModel} :
    (initComponent v e).run s = .ok ⟨⟩ s' ↔
      ∃ d, s.getDefinition e.2.definition = .ok d ∧ s.addComponent v e.1 d e.2 = s' := by
  simp only [initComponent, Program.run_bind_ok, Program.run_read_ok, Program.run_orThrow_ok,
    Program.run_perform_ok]
  constructor
  · rintro ⟨_, _, ⟨rfl, rfl⟩, d, _, ⟨hd, rfl⟩, h⟩
    exact ⟨d, hd, h⟩
  · rintro ⟨d, hd, h⟩
    exact ⟨_, _, ⟨rfl, rfl⟩, d, _, ⟨hd, rfl⟩, h⟩

theorem run_initBinding_ok {v : ViewRef} {e : String × CoreBindingData} {s' : ProjectModel} :
    (initBinding v e).run s = .ok ⟨⟩ s' ↔
      ∃ source target, (s.views v).components.get e.2.sourceComponent = some source ∧
        (s.views v).components.get e.2.targetComponent = some target ∧
        s.addBinding v e.1 e.2 source target = s' := by
  simp only [initBinding, Program.run_bind_ok, Program.run_read_ok, Program.run_orThrow_ok,
    Program.run_perform_ok, getComponent_ok]
  constructor
  · rintro ⟨_, _, ⟨rfl, rfl⟩, source, _, ⟨hs, rfl⟩, _, _, ⟨rfl, rfl⟩, target, _, ⟨ht, rfl⟩, h⟩
    exact ⟨source, target, hs, ht, h⟩
  · rintro ⟨source, target, hs, ht, h⟩
    exact ⟨_, _, ⟨rfl, rfl⟩, source, _, ⟨hs, rfl⟩, _, _, ⟨rfl, rfl⟩, target, _, ⟨ht, rfl⟩, h⟩

/-- The components of a view that are left to load are not there yet. -/
structure Loading (v : ViewRef) (l : List (String × CoreComponentData)) (s : ProjectModel) :
    Prop where
  linked : s.Linked
  live : s.Live v
  nodup : (l.map Prod.fst).Nodup
  free : ∀ e ∈ l, (s.views v).components.get e.1 = none

theorem Loading.checked {v : ViewRef} {e : String × CoreComponentData}
    {l : List (String × CoreComponentData)}
    (h : Loading v (e :: l) s) : (initComponent v e).Meets Checked s := by
  simp only [initComponent, meets_read_bind, meets_orThrow_bind, meets_perform]
  exact fun d hd => ⟨h.live, h.free e List.mem_cons_self, hd⟩

theorem Loading.step {v : ViewRef} {e : String × CoreComponentData}
    {l : List (String × CoreComponentData)} {s' : ProjectModel} (h : Loading v (e :: l) s)
    (hrun : (initComponent v e).run s = .ok ⟨⟩ s') :
    Loading v l s' := by
  have hlinked := linked_run h.checked h.linked hrun
  obtain ⟨d, hd, rfl⟩ := run_initComponent_ok.mp hrun
  obtain ⟨he, hnodup⟩ := List.nodup_cons.mp h.nodup
  refine ⟨hlinked, ((sameDefinitions_addComponent s _ _ _ _).templates.live v).mpr h.live,
    hnodup, ?_⟩
  intro e' he'
  rw [addComponent_views, if_pos rfl, get_set_ne]
  · exact h.free e' (List.mem_cons_of_mem _ he')
  · intro heq
    exact he (heq ▸ List.mem_map_of_mem he')

theorem initView_checked {v : ViewRef} {data : CoreView} (hs : s.Linked) (hlive : s.Live v)
    (hempty : ∀ id, (s.views v).components.get id = none) : (initView v data).Meets Checked s := by
  rw [initView, meets_bind]
  constructor
  · exact meets_forEach (P := Loading v) (fun e l s h => ⟨h.checked, fun s' hrun => h.step hrun⟩)
      ⟨hs, hlive, data.components.nodup, fun e _ => hempty e.1⟩
  · intro _ s' _
    refine meets_forEach (P := fun _ _ => True) ?_ trivial
    intro e l s _
    refine ⟨?_, fun _ _ => trivial⟩
    simp only [initBinding, meets_read_bind, meets_orThrow_bind, meets_perform]
    exact fun source hsource target htarget =>
      ⟨getComponent_ok.mp hsource, getComponent_ok.mp htarget⟩

/-- The initialisation of a view leaves the other views and the templates alone. -/
theorem initView_others {v : ViewRef} {data : CoreView} {s' : ProjectModel}
    (h : (initView v data).run s = .ok ⟨⟩ s') :
    s'.templates = s.templates ∧ ∀ w, w ≠ v → s'.views w = s.views w := by
  obtain ⟨_, s₁, h₁, h₂⟩ := Program.run_bind_ok.mp h
  have hs₁ := forEach_rule (P := fun _ s₁ => s₁.templates = s.templates ∧ ∀ w,
    w ≠ v → s₁.views w = s.views w)
    (fun e l s₁ s₂ hP hrun => by
      obtain ⟨d, _, rfl⟩ := run_initComponent_ok.mp hrun
      refine ⟨hP.1, fun w hw => ?_⟩
      rw [addComponent_views, if_neg hw]
      exact hP.2 w hw) ⟨rfl, fun _ _ => rfl⟩ h₁
  exact forEach_rule (P := fun _ s₁ => s₁.templates = s.templates ∧ ∀ w,
    w ≠ v → s₁.views w = s.views w)
    (fun e l s₁ s₂ hP hrun => by
      obtain ⟨source, target, _, _, rfl⟩ := run_initBinding_ok.mp hrun
      refine ⟨hP.1, fun w hw => ?_⟩
      rw [addBinding_views, if_neg hw]
      exact hP.2 w hw) hs₁ h₂

/-- The plugins that are left to load are not there yet, and nothing else is. -/
structure LoadingPlugins (l : List (String × CorePluginData)) (s : ProjectModel) : Prop where
  linked : s.Linked
  nodup : (l.map Prod.fst).Nodup
  free : ∀ e ∈ l, s.plugins.get e.1 = none
  templates : s.templates = ∅
  views : ∀ v, s.views v = {}

theorem LoadingPlugins.step {e : String × CorePluginData} {l : List (String × CorePluginData)}
    (h : LoadingPlugins (e :: l) s) : LoadingPlugins l (s.addPlugin e.1 e.2) := by
  obtain ⟨he, hnodup⟩ := List.nodup_cons.mp h.nodup
  refine ⟨h.linked.addPlugin (h.free e List.mem_cons_self) e.2, hnodup, ?_, ?_, ?_⟩
  · intro e' he'
    refine (addPlugin_plugins s e.1 e'.1 e.2 ?_).trans (h.free e' (List.mem_cons_of_mem _ he'))
    intro heq
    exact he (heq ▸ List.mem_map_of_mem he')
  · exact (sameTemplates_addPlugin s e.1 e.2).templates.trans h.templates
  · intro v
    exact (congrFun (addPlugin_views s e.1 e.2).1 v).trans (h.views v)

/-- The templates that are left to load are not there yet, and no view has contents. -/
structure LoadingTemplates (l : List (String × CoreTemplate)) (s : ProjectModel) : Prop where
  linked : s.Linked
  nodup : (l.map Prod.fst).Nodup
  free : ∀ e ∈ l, s.templates.get e.1 = none
  views : ∀ v, s.views v = {}

theorem LoadingTemplates.step {e : String × CoreTemplate} {l : List (String × CoreTemplate)}
    (h : LoadingTemplates (e :: l) s) :
    LoadingTemplates l ((Write.addTemplate e.1 e.2.exports).apply s) := by
  obtain ⟨he, hnodup⟩ := List.nodup_cons.mp h.nodup
  refine ⟨h.linked.apply (w := .addTemplate e.1 e.2.exports) (h.free e List.mem_cons_self),
    hnodup, ?_, ?_⟩
  · intro e' he'
    refine (get_set_ne _ _ ?_).trans (h.free e' (List.mem_cons_of_mem _ he'))
    intro heq
    exact he (heq ▸ List.mem_map_of_mem he')
  · intro v
    refine (Function.update_apply _ _ _ _).trans ?_
    split
    · rfl
    · exact h.views v

/-- The templates that are left to initialise have no component yet. -/
structure InitialisingTemplates (l : List (String × CoreTemplate)) (s : ProjectModel) : Prop where
  linked : s.Linked
  nodup : (l.map Prod.fst).Nodup
  empty : ∀ e ∈ l, ∀ t, s.templates.get e.1 = some t →
    ∀ id, (s.views (some t)).components.get id = none

theorem InitialisingTemplates.step {e : String × CoreTemplate} {l : List (String × CoreTemplate)}
    {t : Ref} {s' : ProjectModel} (h : InitialisingTemplates (e :: l) s)
    (ht : s.templates.get e.1 = some t) (hlinked : s'.Linked)
    (hrun : (initView (some t) e.2.toCoreView).run s = .ok ⟨⟩ s') :
    InitialisingTemplates l s' := by
  obtain ⟨htemplates, hviews⟩ := initView_others hrun
  obtain ⟨he, hnodup⟩ := List.nodup_cons.mp h.nodup
  refine ⟨hlinked, hnodup, ?_⟩
  intro e' he' t' ht' id
  rw [htemplates] at ht'
  rw [hviews]
  · exact h.empty e' (List.mem_cons_of_mem _ he') t' ht' id
  · -- Another id is another template.
    intro heq
    cases heq
    have hid := h.linked.templates.id _ _ ht'
    rw [h.linked.templates.id _ _ ht] at hid
    exact he (hid ▸ List.mem_map_of_mem he')

theorem construct_checked (data : CoreProject) : (construct data).Meets Checked empty := by
  have hplugins : LoadingPlugins data.plugins.entries empty :=
    ⟨empty_linked, data.plugins.nodup, fun _ _ => rfl, rfl, fun _ => rfl⟩
  rw [construct, meets_bind]
  refine ⟨meets_forEach (P := LoadingPlugins) ?_ hplugins, ?_⟩
  · intro e l s h
    refine ⟨meets_perform.mpr (h.free e List.mem_cons_self), ?_⟩
    intro s' hrun
    obtain rfl := Program.run_perform_ok.mp hrun
    exact h.step
  intro _ s₁ h₁
  have hs₁ : LoadingPlugins [] s₁ := forEach_rule (fun e l s s' hP hrun => by
    obtain rfl := Program.run_perform_ok.mp hrun
    exact hP.step) hplugins h₁
  have htemplates : LoadingTemplates data.templates.entries s₁ :=
    ⟨hs₁.linked, data.templates.nodup, fun _ _ => by rw [hs₁.templates]; rfl, hs₁.views⟩
  rw [meets_bind]
  refine ⟨meets_forEach (P := LoadingTemplates) ?_ htemplates, ?_⟩
  · intro e l s h
    refine ⟨meets_perform.mpr (h.free e List.mem_cons_self), ?_⟩
    intro s' hrun
    obtain rfl := Program.run_perform_ok.mp hrun
    exact h.step
  intro _ s₂ h₂
  have hs₂ : LoadingTemplates [] s₂ := forEach_rule (fun e l s s' hP hrun => by
    obtain rfl := Program.run_perform_ok.mp hrun
    exact hP.step) htemplates h₂
  have hinit : (initView none data.toCoreView).Meets Checked s₂ :=
    initView_checked hs₂.linked trivial (fun id => by rw [hs₂.views]; rfl)
  rw [meets_bind]
  refine ⟨hinit, ?_⟩
  intro _ s₃ h₃
  obtain ⟨_, hothers⟩ := initView_others h₃
  refine meets_forEach (P := InitialisingTemplates) ?_ ⟨linked_run hinit hs₂.linked h₃,
    data.templates.nodup, ?_⟩
  · intro e l s h
    have hmeets : (do
        let t ← orThrow ((← read).getTemplate e.1)
        initView (some t) e.2.toCoreView : M PUnit).Meets Checked s := by
      simp only [meets_read_bind, meets_orThrow_bind]
      intro t ht
      have ht := getTemplate_ok.mp ht
      exact initView_checked h.linked ⟨e.1, ht⟩ (h.empty e List.mem_cons_self t ht)
    refine ⟨hmeets, ?_⟩
    intro s' hrun
    have hlinked := linked_run hmeets h.linked hrun
    simp only [Program.run_bind_ok, Program.run_read_ok, Program.run_orThrow_ok,
      getTemplate_ok] at hrun
    obtain ⟨_, _, ⟨rfl, rfl⟩, t, _, ⟨ht, rfl⟩, hrun⟩ := hrun
    exact h.step ht hlinked hrun
  · intro e _ t _ id
    rw [hothers (some t) (by simp), hs₂.views]
    rfl

end ProjectModel

/-! ## Runs -/

section Runs

variable {cond : ProjectModel → Write → Prop} {P : ProjectModel → Prop}

/-- The rule of the constructor. -/
theorem load_keeps (hwrite : ∀ s w, s.Linked → P s → Checked s w → cond s w → P (w.apply s))
    {data : CoreProject} {s₀ : ProjectModel} (hload : load data = .ok s₀)
    (hmeets : (construct data).Meets cond empty) (hempty : P empty) :
    s₀.Linked ∧ P s₀ :=
  ((construct_checked data).and hmeets).invariant (P := fun s => s.Linked ∧ P s)
    (fun s w h hw => ⟨h.1.apply hw.1, hwrite s w h.1 h.2 hw.1 hw.2⟩) ⟨empty_linked, hempty⟩
    (load_ok.mp hload)

/-- The rule of the runs: what the permitted writes keep holds in every state reached. -/
theorem Reaches.keeps (hwrite : ∀ s w, s.Linked → P s → Permitted s w → cond s w → P (w.apply s))
    {s₀ s : ProjectModel} (h₀ : s₀.Linked ∧ P s₀) (h : Reaches cond s₀ s) : s.Linked ∧ P s := by
  refine h.invariant (P := fun s => s.Linked ∧ P s) ?_ h₀
  intro s fuel call s' hs hrun hmeets
  exact ((call_permitted fuel call hs.1).and hmeets).invariant (P := fun s => s.Linked ∧ P s)
    (fun s w h hw => ⟨h.1.apply hw.1.checked, hwrite s w h.1 h.2 hw.1 hw.2⟩) hs hrun

end Runs

/-- The model after a list of calls, each of which may return, or throw after some of its writes. -/
def CoreOpenedProject.edited (s₀ : ProjectModel) (calls : List (Nat × Call)) : ProjectModel :=
  calls.foldl (fun s c => (call c.1 c.2).leaves s) s₀

/-- A plugin with a state, an action and a config item. -/
def lampPlugin : CorePluginData where
  name := "lamp"
  module := "io"
  usage := .actuator
  version := "1"
  description := ""
  members := .ofList [
    ("on", { description := "", memberType := .state, valueType := "bool" }),
    ("set", { description := "", memberType := .action, valueType := "bool" })]
  config := .ofList [("level", { description := "", valueType := .integer })]
  instanceName := "i"
  toolboxDisplay := .show

/-- A project with nothing but a plugin. -/
def lampProject : CoreProject where
  components := ∅
  bindings := ∅
  plugins := .ofList [("i:io.lamp", lampPlugin)]
  templates := ∅

def setLamp (templateId : Option String) (id : String) : Call :=
  .setComponent templateId id { type := .plugin, id := "i:io.lamp" } { x := 1, y := 1 }

end MylifeHome.Studio.Core
