import MylifeHome.Studio.Core.Validation

/-!
# The deployment of a core project

What `deploy.ts` reads back from the id of a binding, and what a passed validation
says of the components.
-/
namespace MylifeHome.Studio.Core.Deploy

open MylifeHome.Lib MylifeHome.Core Validation

/-! ## Ids of bindings -/

/-- A missing part is as bad as an empty one. -/
def createBindingConfig (id : String) : Except Err BindingConfig :=
  match Text.split id ':' with
  | sourceComponent :: sourceState :: targetComponent :: targetAction :: _ =>
    if sourceComponent = "" ∨ sourceState = "" ∨ targetComponent = "" ∨ targetAction = "" then
      .error (.error ("Could not parse binding id '" ++ id ++ "'"))
    else .ok
      { sourceComponent := sourceComponent, sourceState := sourceState,
        targetComponent := targetComponent,
        targetAction := targetAction }
  | _ => .error (.error ("Could not parse binding id '" ++ id ++ "'"))

/-- A binding whose id can be read back: its parts are there and have no separator in them. -/
def Clean (b : BindingConfig) : Prop :=
  ∀ part ∈ [b.sourceComponent, b.sourceState, b.targetComponent, b.targetAction], part ≠ "" ∧
    ':' ∉ part.toList

theorem createBindingConfig_makeId {b : BindingConfig} (h : Clean b) :
    createBindingConfig (makeId b) = .ok b := by
  have hsplit : Text.split (makeId b) ':' =
      [b.sourceComponent, b.sourceState, b.targetComponent, b.targetAction] := by
    apply Text.split_of_toList
    · exact fun p hp => (h p hp).2
    · simp
    · simp [makeId, List.intercalate, String.toList_append]
  have h₁ := (h b.sourceComponent (by simp)).1
  have h₂ := (h b.sourceState (by simp)).1
  have h₃ := (h b.targetComponent (by simp)).1
  have h₄ := (h b.targetAction (by simp)).1
  rw [createBindingConfig, hsplit]
  simp [h₁, h₂, h₃, h₄]

/-- Two ids are the same only if the names are, when the separator is in none but the last. -/
theorem makeId_inj {b b' : BindingConfig}
    (h : ∀ part ∈ [b.sourceComponent, b.sourceState, b.targetComponent], ':' ∉ part.toList)
    (h' : ∀ part ∈ [b'.sourceComponent, b'.sourceState, b'.targetComponent], ':' ∉ part.toList)
    (heq : makeId b = makeId b') : b = b' := by
  have hparts : [b.sourceComponent, b.sourceState, b.targetComponent, b.targetAction].map
    String.toList =
      [b'.sourceComponent, b'.sourceState, b'.targetComponent, b'.targetAction].map
        String.toList := by
    refine Text.intercalate_inj (x := ':') rfl ?_ ?_ ?_
    · simpa using h
    · simpa using h'
    · have htext := congrArg String.toList heq
      simpa [makeId, List.intercalate, String.toList_append] using htext
  simp only [List.map_cons, List.map_nil, List.cons.injEq, String.toList_inj, and_true] at hparts
  obtain ⟨h₁, h₂, h₃, h₄⟩ := hparts
  cases b
  cases b'
  simp_all

/-! ## Validation -/

/-- Nothing in a validation keeps the deployment from going on. -/
def NoError (validation : List Item) : Prop := ∀ item ∈ validation, item.severity ≠ .error

theorem hasError_eq_false {validation : List Item} : hasError validation = false ↔
    NoError validation := by
  simp [hasError, NoError]

theorem noError_append {a b : List Item} : NoError (a ++ b) ↔ NoError a ∧ NoError b := by
  simp only [NoError, List.mem_append, or_imp, forall_and]

theorem noError_flatMap {α : Type} {l : List α} {f : α → List Item} :
    NoError (l.flatMap f) ↔ ∀ a ∈ l, NoError (f a) := by
  simp only [NoError, List.mem_flatMap, forall_exists_index, and_imp]
  exact ⟨fun h a ha item hi => h item a ha hi, fun h item a ha hi => h a ha item hi⟩

theorem not_noError_singleton {item : Item} (h : item.severity = .error) : ¬ NoError [item] :=
  fun hn => hn item (List.mem_singleton_self item) h

section Validated

variable {project : ResolvedProjectView} {online : Online}

/-- Each of the project's own components has a configuration, and no errors in it. -/
theorem config_of_noError {configs : List Item} (h : validateComponentConfigs project = .ok configs)
    (hn : NoError configs) {id : String} {c : ComponentView}
    (hc : project.components.get id = some c)
    (hx : c.external = false) : ∃ config, c.config = some config ∧
      (configErrors c config).size = 0 := by
  rw [validateComponentConfigs, except_bind_ok] at h
  obtain ⟨parts, hp, h⟩ := h
  cases h
  obtain ⟨part, hmem, hpart⟩ := mapM_ok_mem hp (OMap.mem_entries.mpr hc)
  have hpn : NoError part := fun item hi => hn item (List.mem_flatten.mpr ⟨part, hmem, hi⟩)
  simp only [componentConfig, hx] at hpart
  cases hcfg : c.config with
  | none => simp [hcfg] at hpart
  | some config =>
    refine ⟨config, rfl, ?_⟩
    simp only [hcfg] at hpart
    by_contra hz
    simp [hz] at hpart
    subst hpart
    exact absurd hpn (not_noError_singleton rfl)

/-- A configuration without errors has the keys of the plugin only, and values of their types. -/
theorem config_valid {c : ComponentView} {config : CoreComponentConfiguration}
    (h : (configErrors c config).size = 0) :
    (∀ k v, config.get k = some v → c.plugin.data.config.has k = true) ∧
      ∀ k item, c.plugin.data.config.get k = some item →
        item.valueType.accepts ((config.get k).getD .undefined) = true := by
  rw [OMap.size_eq_zero] at h
  simp only [configErrors, OMap.get_putEach, OMap.get_empty, Option.or_none,
    Option.or_eq_none_iff] at h
  constructor
  · intro k v hv
    have hk := (h k).2
    rw [hv, Option.bind_some, extraKeyError] at hk
    by_contra hne
    simp [hne] at hk
  · intro k item hi
    have hk := (h k).1
    rw [hi, Option.bind_some, configValueError] at hk
    by_contra hne
    simp [hne] at hk

end Validated
end MylifeHome.Studio.Core.Deploy
