import MylifeHome.Core.HostedComponents

/-!
# The store and the identity of bindings

`Store` of `mylife-home-core` as it is saved and loaded, and the key under which
the component manager and the store know a binding: its four names joined by `|`.
-/
namespace MylifeHome.Core.Hosted

open MylifeHome.Lib MylifeHome.Common OMap

/-- An item of the store file; `other` is an item of a type the store does not know. -/
inductive StoreItem where
  | component (config : ComponentConfig)
  | binding (config : BindingConfig)
  | other (type : String)
  deriving DecidableEq

structure Store where
  components : OMap String ComponentConfig := ∅
  bindings : OMap String BindingConfig := ∅
  deriving DecidableEq

namespace Store

def loadItem (s : Store) : StoreItem → Except String Store
  | .component config => .ok { s with components := s.components.set config.id config }
  | .binding config => .ok { s with bindings := s.bindings.set (buildBindingKey config) config }
  | .other type => .error ("Unknown item type '" ++ type ++ "'")

/-- `load` in a new process. -/
def load (items : List StoreItem) : Except String Store := items.foldlM loadItem {}

def save (s : Store) : List StoreItem :=
  s.components.values.map .component ++ s.bindings.values.map .binding

/-- Every configuration is stored under its own key. -/
structure Keyed (s : Store) : Prop where
  components : ∀ id config, s.components.get id = some config → config.id = id
  bindings : ∀ key config, s.bindings.get key = some config → buildBindingKey config = key

theorem foldlM_components (l : List ComponentConfig) (s : Store) :
    (l.map StoreItem.component).foldlM loadItem s =
    .ok { s with components := l.foldl (fun m config => m.set config.id config) s.components } := by
  induction l generalizing s with
  | nil => rfl
  | cons config l ih => exact ih _

theorem foldlM_bindings (l : List BindingConfig) (s : Store) :
    (l.map StoreItem.binding).foldlM loadItem s =
    .ok { s with bindings := l.foldl (fun m config =>
      m.set (buildBindingKey config) config) s.bindings } := by
  induction l generalizing s with
  | nil => rfl
  | cons config l ih => exact ih _

theorem Keyed.load_save {s : Store} (h : s.Keyed) : load s.save = .ok s := by
  rw [load, save, List.foldlM_append, foldlM_components]
  show (s.bindings.values.map StoreItem.binding).foldlM loadItem _ = _
  rw [foldlM_bindings]
  simp only [foldl_set_values h.components, foldl_set_values h.bindings]

end Store

/-! ## Names without the separator -/

/-- The separator is in none of the first three names. -/
def Plain (config : BindingConfig) : Prop :=
  ∀ name ∈ [config.sourceComponent, config.sourceState, config.targetComponent], '|' ∉ name.toList

instance (config : BindingConfig) : Decidable (Plain config) := by unfold Plain; infer_instance

theorem buildBindingKey_inj {c d : BindingConfig} (hc : Plain c) (hd : Plain d)
    (h : buildBindingKey c = buildBindingKey d) : c = d := by
  have hl := congrArg String.toList h
  rw [buildBindingKey, buildBindingKey, String.toList_intercalate, String.toList_intercalate,
    show "|".toList = ['|'] from rfl] at hl
  have hparts := Text.intercalate_inj (by rfl) ?_ ?_ hl
  · simp only [List.map_cons, List.map_nil, List.cons.injEq, String.toList_inj, and_true] at hparts
    cases c
    cases d
    simpa using hparts
  · simpa [Plain] using hc
  · simpa [Plain] using hd

/-! ## What is kept about bindings -/

/-- What makes up the identity of a `Binding` object. -/
def Binding.shape (link : Binding) : BindingConfig × Bool := (link.config, link.closed)

@[simp] theorem Binding.shape_withComponent (link : Binding) (c : Component) :
    (link.withComponent c).shape = link.shape := by
  unfold Binding.withComponent
  repeat' split
  all_goals rfl

@[simp] theorem Binding.shape_withoutComponent (link : Binding) (c : Component) :
    (link.withoutComponent c).shape = link.shape := by
  unfold Binding.withoutComponent
  repeat' split
  all_goals rfl

def Manager.shapes (s : Manager) : List (BindingConfig × Bool) := s.links.map Binding.shape

def Manager.store (s : Manager) : Store :=
  { components := s.storeComponents, bindings := s.storeBindings }

/-- A configuration is bound: the manager and the store have it under its key, and
the manager's `Binding` object is its own and open. -/
def Bound (s : Manager) (config : BindingConfig) : Prop :=
  s.storeBindings.get (buildBindingKey config) = some config ∧
    ∃ k, s.bindings.get (buildBindingKey config) = some k ∧ s.shapes[k]? = some (config, false)

instance (s : Manager) (config : BindingConfig) : Decidable (Bound s config) :=
  decidable_of_iff (s.storeBindings.get (buildBindingKey config) = some config ∧
      ((s.bindings.get (buildBindingKey config)).any fun k =>
        decide (s.shapes[k]? = some (config, false))) = true) (by
    simp [Bound, Option.any_eq_true])

/-- What holds about the bindings of a manager in every run. -/
structure Kept (s : Manager) : Prop where
  components : ∀ id config, s.storeComponents.get id = some config → config.id = id
  store : ∀ key config, s.storeBindings.get key = some config → buildBindingKey config = key
  plain : ∀ key config, s.storeBindings.get key = some config → Plain config
  stored : ∀ key, s.storeBindings.has key = s.bindings.has key
  links : ∀ key k config, s.bindings.get key = some k → s.storeBindings.get key = some config →
    s.shapes[k]? = some (config, false)

theorem Kept.bound_iff {s : Manager} (h : Kept s) {config : BindingConfig} (hp : Plain config) :
    Bound s config ↔ s.bindings.has (buildBindingKey config) = true := by
  constructor
  · rintro ⟨_, k, hk, _⟩
    exact has_iff.mpr ⟨k, hk⟩
  · intro hhas
    obtain ⟨k, hk⟩ := has_iff.mp hhas
    rw [← h.stored] at hhas
    obtain ⟨config', hconfig⟩ := has_iff.mp hhas
    obtain rfl := buildBindingKey_inj (h.plain _ _ hconfig) hp (h.store _ _ hconfig)
    exact ⟨hconfig, k, hk, h.links _ k _ hk hconfig⟩

section Events

variable {description : Plugin → Studio.Core.NetPlugin} {b : Behaviour} {s₀ : Manager}

/-- The states differ in what is not about bindings; the store keeps its components under
their ids. -/
structure Aside (s₀ s : Manager) : Prop where
  bindings : s.bindings = s₀.bindings
  storeBindings : s.storeBindings = s₀.storeBindings
  shapes : s.shapes = s₀.shapes
  components : ∀ id config, s.storeComponents.get id = some config → config.id = id

theorem shapes_set {links : List Binding} {k : Nat} {link link' : Binding}
    (hk : (links.map Binding.shape)[k]? = some link.shape) (hl : link'.shape = link.shape) :
    (links.set k link').map Binding.shape = links.map Binding.shape := by
  rw [List.map_set, hl]
  apply List.ext_getElem?
  intro i
  by_cases hi : i = k
  · subst hi
    rw [List.getElem?_set_self', hk]
    rfl
  · rw [List.getElem?_set_ne (Ne.symm hi)]

theorem aside_onComponentAdd (c : Component) {k : Nat} {link : Binding}
    (hk : s₀.shapes[k]? = some link.shape) :
    Keeps (Aside s₀) (onComponentAdd b c k link) := by
  refine keeps_bind (keeps_modify ?_) (fun _ => keeps_throwIf _ _)
  intro s hs
  refine ⟨hs.bindings, hs.storeBindings, ?_, hs.components⟩
  have hlink : (s.links.map Binding.shape)[k]? = some link.shape := by
    rw [← hk, ← hs.shapes]
    rfl
  exact (shapes_set hlink (link.shape_withComponent c)).trans hs.shapes

theorem aside_emitAdd (n : InstanceName) (c : Component) : Keeps (Aside s₀) (emitAdd b n c) := by
  refine keeps_bind (keeps_modify fun _ hs => { hs with }) fun _ =>
    keeps_get_bind fun s hs => keeps_forEach ?_
  rintro ⟨link, k⟩ hp
  dsimp only
  split
  · exact keeps_pure _
  · refine aside_onComponentAdd c ?_
    rw [← hs.shapes, Manager.shapes, List.getElem?_map, List.mem_zipIdx_iff_getElem?.mp hp]
    rfl

theorem aside_unpublish (n : InstanceName) (c : Component) : Keeps (Aside s₀) (unpublish n c) := by
  refine keeps_bind keeps_get fun _ => ?_
  split
  · exact keeps_bind (keeps_throwIf _ _) fun _ =>
      keeps_modify fun _ hs => { hs with }
  · exact keeps_pure _

theorem aside_emitRemove (n : InstanceName) (c : Component) :
    Keeps (Aside s₀) (emitRemove n c) := by
  refine keeps_bind (aside_unpublish n c) fun _ =>
    keeps_modify fun s hs => ⟨hs.bindings, hs.storeBindings, ?_, hs.components⟩
  rw [← hs.shapes, Manager.shapes, Manager.shapes, List.map_map]
  refine List.map_congr_left fun link _ => ?_
  dsimp only [Function.comp]
  split
  · rfl
  · exact link.shape_withoutComponent c

theorem aside_registryAddComponent (n : InstanceName) (c : Component) :
    Keeps (Aside s₀) (registryAddComponent b n c) :=
  keeps_bind keeps_get fun _ => keeps_bind (keeps_orThrow _) fun _ => keeps_bind
    (keeps_modify fun _ hs => { hs with }) fun _ => aside_emitAdd n c

theorem aside_registryRemoveComponent (n : InstanceName) (c : Component) :
    Keeps (Aside s₀) (registryRemoveComponent n c) :=
  keeps_bind keeps_get fun _ => keeps_bind (keeps_orThrow _) fun _ => keeps_bind
    (keeps_modify fun _ hs => { hs with }) fun _ => aside_emitRemove n c

variable (description b s₀) in
theorem aside_startComponent (config : ComponentConfig) :
    Keeps (Aside s₀) (startComponent description b config) := by
  refine keeps_bind keeps_get fun _ => keeps_bind (keeps_orThrow _) fun plugin =>
    keeps_bind ?_ fun component =>
    keeps_bind (keeps_modify fun _ hs => { hs with }) fun _ =>
      aside_registryAddComponent none component
  exact keeps_bind (keeps_orThrow _) fun _ => keeps_bind (keeps_throwIf _ _) fun _ =>
    keeps_bind keeps_get fun _ =>
    keeps_bind (keeps_modify fun _ hs => { hs with }) fun _ =>
      keeps_bind (keeps_throwIf _ _) fun _ => keeps_pure _

theorem aside_addComponent (config : ComponentConfig) :
    Keeps (Aside s₀) (addComponent description b config) := by
  refine keeps_bind keeps_get fun _ => keeps_bind (keeps_throwIf _ _) fun _ =>
    keeps_bind (aside_startComponent _ _ _ config) fun _ => keeps_modify fun s hs =>
      ⟨hs.bindings, hs.storeBindings, hs.shapes, ?_⟩
  intro id config' h
  rcases get_set_eq_some.mp h with ⟨rfl, rfl⟩ | ⟨_, h⟩
  · rfl
  · exact hs.components id config' h

theorem aside_removeComponent (id : String) : Keeps (Aside s₀) (removeComponent b id) := by
  refine keeps_bind keeps_get fun s => ?_
  cases s.components.get id with
  | none => exact keeps_throw _
  | some component =>
    refine keeps_bind (aside_registryRemoveComponent none component) fun _ =>
      keeps_bind (keeps_throwIf _ _) fun _ =>
      keeps_modify fun s hs => ⟨hs.bindings, hs.storeBindings, hs.shapes, ?_⟩
    intro id' config h
    exact hs.components id' config (get_delete_eq_some.mp h).2

theorem aside_appear (instanceName id : String) (plugin : Plugin) :
    Keeps (Aside s₀) (appear instanceName id plugin b) := by
  refine keeps_bind keeps_get fun s => ?_
  split
  · exact keeps_pure _
  · exact keeps_bind (keeps_modify fun _ hs => { hs with }) fun _ =>
      aside_registryAddComponent _ _

theorem aside_disappear (instanceName id : String) : Keeps (Aside s₀) (disappear instanceName id) :=
  keeps_bind keeps_get fun _ => keeps_bind (keeps_orThrow _) fun _ =>
    aside_registryRemoveComponent _ _

theorem Aside.kept {s : Manager} (h : Kept s₀) (ha : Aside s₀ s) : Kept s where
  components := ha.components
  store := by rw [ha.storeBindings]; exact h.store
  plain := by rw [ha.storeBindings]; exact h.plain
  stored := by rw [ha.storeBindings, ha.bindings]; exact h.stored
  links := by rw [ha.storeBindings, ha.bindings, ha.shapes]; exact h.links

/-! ### The calls about bindings -/

variable {s : Manager} {config : BindingConfig}

/-- The state once a `Binding` object was made for a configuration. -/
def withLink (s : Manager) (config : BindingConfig) : Manager :=
  { s with links := s.links ++ [{ config }] }

theorem shapes_withLink : (withLink s config).shapes = s.shapes ++ [(config, false)] := by
  simp [withLink, Manager.shapes, Binding.shape]

theorem getElem_shapes_withLink {k : Nat} {shape : BindingConfig × Bool}
    (h : s.shapes[k]? = some shape)
    (config : BindingConfig) : (withLink s config).shapes[k]? = some shape := by
  rw [shapes_withLink, List.getElem?_append_left (List.getElem?_eq_some_iff.mp h).1, h]

/-- Only the code of a plugin throws while a `Binding` object is made. -/
theorem newBinding_error {e : CallError} {s' : Manager}
    (h : (newBinding b config).run s = .error e s') : e = .plugin := by
  by_contra hne
  have havoids : Avoids e (newBinding b config) := by
    refine avoids_bind avoids_get fun s₁ => avoids_bind (avoids_modify _) fun _ =>
      avoids_bind (avoids_forEach fun d _ => avoids_bind avoids_get fun s₂ => ?_) fun _ =>
        avoids_pure _
    cases s₂.links[s₁.links.length]? with
    | none => exact avoids_pure _
    | some link => exact avoids_bind (avoids_modify _) fun _ => avoids_throwIf (Ne.symm hne)
  exact havoids s s' h

variable (b config) in
/-- What `newBinding` does once the object is in the list. -/
theorem keeps_present : Keeps (Aside (withLink s config)) (do
    forEach s.registry.getComponentsData fun d => do
      let s' ← get
      match s'.links[s.links.length]? with
      | none => pure ⟨⟩
      | some link => onComponentAdd b d.component s.links.length link
    return s.links.length : MM Nat) := by
  refine keeps_bind (keeps_forEach fun d _ => keeps_get_bind fun s' hs' => ?_) fun _ => keeps_pure _
  cases hlink : s'.links[s.links.length]? with
  | none => exact keeps_pure _
  | some link =>
    refine aside_onComponentAdd d.component ?_
    rw [← hs'.shapes, Manager.shapes, List.getElem?_map, hlink]
    rfl

variable (b config) in
theorem newBinding_aside (h : ∀ id config, s.storeComponents.get id = some config →
    config.id = id) :
    Aside (withLink s config) (after (newBinding b config) s) :=
  keeps_present b config (withLink s config) ⟨rfl, rfl, rfl, h⟩

variable (b config) in
theorem newBinding_spec (h : ∀ id config, s.storeComponents.get id = some config → config.id = id) :
    (∃ s', (newBinding b config).run s = .error .plugin s' ∧ Aside (withLink s config) s') ∨
      ∃ s', (newBinding b config).run s = .ok s.links.length s' ∧ Aside (withLink s config) s' := by
  have haside := newBinding_aside b config h
  cases hrun : (newBinding b config).run s with
  | error e s' =>
    obtain rfl := newBinding_error hrun
    exact Or.inl ⟨s', rfl, after_error hrun ▸ haside⟩
  | ok k s' =>
    rw [after_ok hrun] at haside
    refine Or.inr ⟨s', ?_, haside⟩
    obtain ⟨_, _, hget, h₁⟩ := run_bind_ok.mp hrun
    obtain ⟨rfl, rfl⟩ := run_get_ok.mp hget
    obtain ⟨_, _, _, h₂⟩ := run_bind_ok.mp h₁
    obtain ⟨_, _, _, h₃⟩ := run_bind_ok.mp h₂
    rw [(run_pure_ok.mp h₃).1]

/-- The state at the end of an `addBinding` that returns. -/
def bind (s s' : Manager) (config : BindingConfig) : Manager :=
  { s' with
    bindings := s'.bindings.set (buildBindingKey config) s.links.length
    storeBindings := s'.storeBindings.set (buildBindingKey config) config }

/-- The state at the end of a `removeBinding` that returns; `k` is the object that is closed. -/
def unbind (s : Manager) (k : Nat) (config : BindingConfig) : Manager :=
  { s with
    links := s.links.modify k
      (fun link => { link with source := none, target := none, closed := true })
    bindings := s.bindings.delete (buildBindingKey config)
    storeBindings := s.storeBindings.delete (buildBindingKey config) }

variable (b config) in
/-- A call of `addBinding` is refused for its key, fails in the code of a plugin, or binds the
configuration. -/
theorem addBinding_cases (h : ∀ id config, s.storeComponents.get id = some config →
    config.id = id) :
    (s.bindings.has (buildBindingKey config) = true ∧ (addBinding b config).run s =
      .error (.bindingExists config) s) ∨
      s.bindings.has (buildBindingKey config) = false ∧
        ((∃ s', (addBinding b config).run s = .error .plugin s' ∧ Aside (withLink s config) s') ∨
          ∃ s', Aside (withLink s config) s' ∧ (addBinding b config).run s =
            .ok ⟨⟩ (bind s s' config)) := by
  simp only [addBinding, EStateM.run_bind, EStateM.run_get]
  cases hhas : s.bindings.has (buildBindingKey config) with
  | true => exact Or.inl ⟨rfl, rfl⟩
  | false =>
    refine Or.inr ⟨rfl, ?_⟩
    simp only [run_throwIf_false, startBinding, EStateM.run_bind]
    rcases newBinding_spec b config h with ⟨s', hrun, ha⟩ | ⟨s', hrun, ha⟩
    · rw [hrun]
      exact Or.inl ⟨s', rfl, ha⟩
    · rw [hrun]
      exact Or.inr ⟨s', ha, rfl⟩

variable (s config) in
theorem removeBinding_cases :
    (s.bindings.has (buildBindingKey config) = false ∧
      (removeBinding config).run s = .error (.bindingMissing config) s) ∨
    ∃ k, s.bindings.get (buildBindingKey config) = some k ∧
      (removeBinding config).run s = .ok ⟨⟩ (unbind s k config) := by
  simp only [removeBinding, EStateM.run_bind, EStateM.run_get, has]
  cases s.bindings.get (buildBindingKey config) with
  | none => exact Or.inl ⟨rfl, rfl⟩
  | some k => exact Or.inr ⟨k, rfl, rfl⟩

theorem Kept.withLink (h : Kept s) (config : BindingConfig) : Kept (withLink s config) where
  components := h.components
  store := h.store
  plain := h.plain
  stored := h.stored
  links := by
    intro key k c hk hc
    exact getElem_shapes_withLink (h.links key k c hk hc) config

variable {s' : Manager} {k : Nat}

theorem shapes_bind (ha : Aside (withLink s config) s') :
    (bind s s' config).shapes = s.shapes ++ [(config, false)] :=
  ha.shapes.trans shapes_withLink

theorem shapes_unbind : (unbind s k config).shapes =
    s.shapes.modify k (fun shape => (shape.1, true)) := by
  apply List.ext_getElem?
  intro i
  simp only [Manager.shapes, unbind, List.getElem?_map, List.getElem?_modify]
  by_cases hi : k = i
  · cases s.links[i]? <;> simp [hi, Binding.shape]
  · cases s.links[i]? <;> simp [hi]

theorem getElem_shapes_bind (ha : Aside (withLink s config) s') :
    (bind s s' config).shapes[s.links.length]? = some (config, false) := by
  rw [shapes_bind ha]
  simp [Manager.shapes]

theorem Kept.bind (h : Kept s) (hp : Plain config) (ha : Aside (Hosted.withLink s config) s') :
    Kept (Hosted.bind s s' config) := by
  have h' := ha.kept (h.withLink config)
  refine ⟨h'.components, ?_, ?_, ?_, ?_⟩
  · intro key c hc
    rcases get_set_eq_some.mp hc with ⟨rfl, rfl⟩ | ⟨_, hc⟩
    · rfl
    · exact h'.store key c hc
  · intro key c hc
    rcases get_set_eq_some.mp hc with ⟨rfl, rfl⟩ | ⟨_, hc⟩
    · exact hp
    · exact h'.plain key c hc
  · intro key
    simp only [Hosted.bind, has_set, h'.stored key]
  · intro key k c hk hc
    rcases get_set_eq_some.mp hk with ⟨rfl, rfl⟩ | ⟨hne, hk⟩
    · rw [Hosted.bind, get_set_self, Option.some.injEq] at hc
      subst hc
      exact getElem_shapes_bind ha
    · rw [Hosted.bind, get_set_ne _ _ hne] at hc
      exact h'.links key k c hk hc

theorem Kept.unbind (h : Kept s) (hk : s.bindings.get (buildBindingKey config) = some k) :
    Kept (Hosted.unbind s k config) := by
  refine ⟨h.components, ?_, ?_, ?_, ?_⟩
  · exact fun key c hc => h.store key c (get_delete_eq_some.mp hc).2
  · exact fun key c hc => h.plain key c (get_delete_eq_some.mp hc).2
  · intro key
    simp only [Hosted.unbind, has_delete, h.stored key]
  · intro key j c hj hc
    obtain ⟨hne, hget⟩ := get_delete_eq_some.mp hj
    obtain ⟨_, hstore⟩ := get_delete_eq_some.mp hc
    have hshape := h.links key j c hget hstore
    -- the closed object is that of another key, so of another configuration
    have hjk : j ≠ k := by
      rintro rfl
      have hhas : s.storeBindings.has (buildBindingKey config) = true :=
        (h.stored _).trans (has_iff.mpr ⟨j, hk⟩)
      obtain ⟨c', hc'⟩ := has_iff.mp hhas
      have hshape' := h.links _ j c' hk hc'
      rw [hshape, Option.some.injEq, Prod.mk.injEq] at hshape'
      exact hne ((h.store _ _ hstore).symm.trans (hshape'.1 ▸ h.store _ _ hc'))
    rw [shapes_unbind, List.getElem?_modify_ne _ _ (Ne.symm hjk), hshape]

theorem getElem_append_shape {shapes : List (BindingConfig × Bool)} {k : Nat} {d : BindingConfig}
    (hd : d ≠ config) :
    (shapes ++ [(config, false)])[k]? = some (d, false) ↔ shapes[k]? = some (d, false) := by
  rw [List.getElem?_append]
  split
  · rfl
  · next hlen =>
    have hnone : shapes[k]? = none := List.getElem?_eq_none (by omega)
    rw [hnone]
    cases k - shapes.length with
    | zero => simpa using Ne.symm hd
    | succ j => simp

/-- Adding a configuration binds it and leaves every other one as it is. -/
theorem bound_bind (hn : s.bindings.has (buildBindingKey config) = false)
    (ha : Aside (withLink s config) s') :
    Bound (bind s s' config) config ∧ ∀ d, d ≠ config →
      (Bound (bind s s' config) d ↔ Bound s d) := by
  refine ⟨⟨get_set_self .., _, get_set_self .., getElem_shapes_bind ha⟩, fun d hd => ?_⟩
  by_cases hkey : buildBindingKey d = buildBindingKey config
  · constructor
    · rintro ⟨hstore, _⟩
      rw [hkey, bind, get_set_self, Option.some.injEq] at hstore
      exact absurd hstore.symm hd
    · rintro ⟨_, k, hk, _⟩
      rw [hkey, has_eq_false.mp hn] at hk
      cases hk
  · unfold Bound
    rw [shapes_bind ha]
    simp only [bind, get_set_ne _ _ hkey, ha.storeBindings, ha.bindings]
    refine and_congr_right fun _ => exists_congr fun k => and_congr_right fun _ => ?_
    exact getElem_append_shape hd

/-- A new `Binding` object that is not in the map binds nothing. -/
theorem bound_withLink (hn : s.bindings.has (buildBindingKey config) = false) (d : BindingConfig) :
    Bound (withLink s config) d ↔ Bound s d := by
  by_cases hd : d = config
  · have hnone : s.bindings.get (buildBindingKey d) = none := hd ▸ has_eq_false.mp hn
    simp [Bound, withLink, hnone]
  · unfold Bound
    rw [shapes_withLink]
    exact and_congr_right fun _ => exists_congr fun k => and_congr_right fun _ =>
      getElem_append_shape hd

/-- Removing a bound configuration leaves every other one as it is. -/
theorem bound_unbind (hb : Bound s config) (hk : s.bindings.get (buildBindingKey config) = some k) :
    ¬ Bound (unbind s k config) config ∧ ∀ d, d ≠ config →
      (Bound (unbind s k config) d ↔ Bound s d) := by
  obtain ⟨hstore, k', hk', hshape⟩ := hb
  obtain rfl : k' = k := Option.some.inj (hk'.symm.trans hk)
  constructor
  · rintro ⟨h, _⟩
    rw [unbind, get_delete_self] at h
    cases h
  · intro d hd
    by_cases hkey : buildBindingKey d = buildBindingKey config
    · constructor
      · rintro ⟨h, _⟩
        rw [hkey, unbind, get_delete_self] at h
        cases h
      · rintro ⟨h, _⟩
        rw [hkey, hstore, Option.some.injEq] at h
        exact absurd h.symm hd
    · unfold Bound
      rw [shapes_unbind]
      simp only [unbind, get_delete_ne _ hkey]
      refine and_congr_right fun _ => exists_congr fun j => and_congr_right fun _ => ?_
      by_cases hj : k' = j
      · subst hj
        simp [hshape, Ne.symm hd]
      · rw [List.getElem?_modify_ne _ _ hj]

/-- A configuration that is refused or whose plugin code throws changes no other one. -/
theorem bound_aside (ha : Aside s s') (d : BindingConfig) : Bound s' d ↔ Bound s d := by
  unfold Bound
  rw [ha.storeBindings, ha.bindings, ha.shapes]

end Events

/-! ## Runs -/

def PlainEvent : Event → Prop
  | .addBinding config _ => Plain config
  | .removeBinding config => Plain config
  | _ => True

instance (e : Event) : Decidable (PlainEvent e) :=
  match e with
  | .addBinding config _ | .removeBinding config => inferInstanceAs (Decidable (Plain config))
  | .addComponent .. | .removeComponent .. | .appear .. | .disappear .. => instDecidableTrue

section Runs

variable {description : Plugin → Studio.Core.NetPlugin} {b : Behaviour} {s s' : Manager}

theorem aside_refl (h : Kept s) : Aside s s := ⟨rfl, rfl, rfl, h.components⟩

theorem Kept.step (h : Kept s) {e : Event} (hp : PlainEvent e) : Kept (step description s e) := by
  unfold Hosted.step handle
  cases e with
  | addComponent config b => exact (aside_addComponent config s (aside_refl h)).kept h
  | removeComponent id b => exact (aside_removeComponent id s (aside_refl h)).kept h
  | appear instanceName id plugin b =>
    exact (aside_appear instanceName id plugin s (aside_refl h)).kept h
  | disappear instanceName id => exact (aside_disappear instanceName id s (aside_refl h)).kept h
  | addBinding config b =>
    rcases addBinding_cases b config h.components with
      ⟨_, hrun⟩ | ⟨_, ⟨s', hrun, ha⟩ | ⟨s', ha, hrun⟩⟩
    all_goals
      show Kept (after (addBinding b config) s)
    · rw [after_error hrun]
      exact h
    · rw [after_error hrun]
      exact ha.kept (h.withLink config)
    · rw [after_ok hrun]
      exact h.bind hp ha
  | removeBinding config =>
    rcases removeBinding_cases s config with ⟨_, hrun⟩ | ⟨k, hk, hrun⟩
    all_goals
      show Kept (after (removeBinding config) s)
    · rw [after_error hrun]
      exact h
    · rw [after_ok hrun]
      exact h.unbind hk

/-- `init` makes an object for every stored binding. -/
theorem init_kept (hl : Loaded s)
    (hplain : ∀ key config, s.storeBindings.get key = some config → Plain config)
    (hinit : (init description b).run s = .ok ⟨⟩ s') : Kept s' := by
  have hgood := init_good hl hinit
  rw [init, run_bind_ok] at hinit
  obtain ⟨_, _, hget, hinit⟩ := hinit
  obtain ⟨rfl, rfl⟩ := run_get_ok.mp hget
  obtain ⟨_, s₁, hcomponents, hbindings⟩ := run_bind_ok.mp hinit
  have ha : Aside s s₁ := by
    have hkeeps := keeps_forEach (l := s.storeComponents.values)
      (fun config _ => aside_startComponent description b s config) s
      ⟨rfl, rfl, rfl, hl.storeComponents⟩
    rwa [after_ok hcomponents] at hkeeps
  have hloop := forEach_invariant (P := fun t => t.storeBindings = s.storeBindings ∧
      (∀ id config, t.storeComponents.get id = some config → config.id = id) ∧
      ∀ key k, t.bindings.get key = some k → ∃ config, s.storeBindings.get key = some config ∧
        t.shapes[k]? = some (config, false)) ?_ ⟨ha.storeBindings, ha.components, ?_⟩ hbindings
  · obtain ⟨hstore, hcomp, hlinks⟩ := hloop
    refine ⟨hcomp, by rw [hstore]; exact hl.storeBindings, by rw [hstore]; exact hplain,
      hgood.bindings, ?_⟩
    intro key k config hk hconfig
    obtain ⟨config', hconfig', hshape⟩ := hlinks key k hk
    rw [hstore, hconfig', Option.some.injEq] at hconfig
    exact hconfig ▸ hshape
  · rintro config hmem t t' ⟨hstore, hcomp, hlinks⟩ hrun
    obtain ⟨key, hkey⟩ := mem_values.mp hmem
    obtain rfl := hl.storeBindings key config hkey
    obtain ⟨k, t₁, hnew, hset⟩ := run_bind_ok.mp hrun
    rcases newBinding_spec b config hcomp with ⟨t₂, hrun', _⟩ | ⟨t₂, hrun', ha⟩
    · rw [hrun'] at hnew
      cases hnew
    · rw [hrun'] at hnew
      cases hnew
      rw [run_modify_ok] at hset
      subst hset
      refine ⟨ha.storeBindings.trans hstore, ha.components, ?_⟩
      intro key k hk
      rcases get_set_eq_some.mp hk with ⟨rfl, rfl⟩ | ⟨_, hk⟩
      · exact ⟨config, hkey, getElem_shapes_bind ha⟩
      · rw [ha.bindings] at hk
        obtain ⟨config', hconfig', hshape⟩ := hlinks key k hk
        refine ⟨config', hconfig', ?_⟩
        exact (congrArg (·[k]?) ha.shapes).trans (getElem_shapes_withLink hshape config)
  · intro key k hk
    rw [ha.bindings, hl.bindings] at hk
    cases hk

/-- `addBinding` is refused for its own configuration only, and changes the binding of no
other one. -/
theorem Kept.addBinding (h : Kept s) {config : BindingConfig} (hp : Plain config) (b : Behaviour) :
    (Bound s config → (addBinding b config).run s = .error (.bindingExists config) s) ∧
      (¬ Bound s config → (∃ s', (Hosted.addBinding b config).run s = .error .plugin s' ∧ ∀ d,
        Bound s' d ↔ Bound s d) ∨
        ∃ s', (Hosted.addBinding b config).run s = .ok ⟨⟩ s' ∧ Bound s' config ∧
          ∀ d, d ≠ config → (Bound s' d ↔ Bound s d)) := by
  rw [h.bound_iff hp]
  rcases addBinding_cases b config h.components with ⟨hhas, hrun⟩ | ⟨hhas, hrest⟩
  · exact ⟨fun _ => hrun, fun hn => absurd hhas hn⟩
  · refine ⟨fun hh => absurd hh (by simp [hhas]), fun _ => ?_⟩
    rcases hrest with ⟨s', hrun, ha⟩ | ⟨s', ha, hrun⟩
    · exact Or.inl ⟨s', hrun, fun d => (bound_aside ha d).trans (bound_withLink hhas d)⟩
    · exact Or.inr ⟨_, hrun, bound_bind hhas ha⟩

/-- `removeBinding` fails for a configuration that is not bound only, and changes the binding of no
other one. -/
theorem Kept.removeBinding (h : Kept s) {config : BindingConfig} (hp : Plain config) :
    (¬ Bound s config → (removeBinding config).run s = .error (.bindingMissing config) s) ∧
      (Bound s config → ∃ s', (Hosted.removeBinding config).run s = .ok ⟨⟩ s' ∧ ¬ Bound s' config ∧
        ∀ d, d ≠ config → (Bound s' d ↔ Bound s d)) := by
  rcases removeBinding_cases s config with ⟨hhas, hrun⟩ | ⟨k, hk, hrun⟩
  · refine ⟨fun _ => hrun, fun hb => ?_⟩
    rw [h.bound_iff hp, hhas] at hb
    cases hb
  · have hb : Bound s config := (h.bound_iff hp).mpr (has_iff.mpr ⟨k, hk⟩)
    exact ⟨fun hn => absurd hb hn, fun _ => ⟨_, hrun, bound_unbind hb hk⟩⟩

/-- In every run from a loaded store, with names that do not have the separator in
them: a binding call is refused only because of its own configuration and changes
the binding of no other one, and the store is restored from what it saves. -/
theorem bindings_kept_apart (description : Plugin → Studio.Core.NetPlugin) (b : Behaviour)
    (s s₀ : Manager) (hl : Loaded s)
    (hplain : ∀ key config, s.storeBindings.get key = some config → Plain config)
    (hinit : (init description b).run s = .ok ⟨⟩ s₀) (es : List Event)
    (h : Along (step description) (fun _ e => PlainEvent e) s₀ es) :
    let t := es.foldl (step description) s₀
    (∀ config b, Plain config →
      (Bound t config → (addBinding b config).run t = .error (.bindingExists config) t ∧
        ∃ t', (removeBinding config).run t = .ok ⟨⟩ t' ∧ ¬ Bound t' config ∧
          ∀ d, d ≠ config → (Bound t' d ↔ Bound t d)) ∧
      (¬ Bound t config → (removeBinding config).run t = .error (.bindingMissing config) t ∧
        ((∃ t', (addBinding b config).run t = .error .plugin t' ∧ ∀ d, Bound t' d ↔ Bound t d) ∨
          ∃ t', (addBinding b config).run t = .ok ⟨⟩ t' ∧ Bound t' config ∧
            ∀ d, d ≠ config → (Bound t' d ↔ Bound t d)))) ∧
    Store.load t.store.save = .ok t.store := by
  intro t
  have hkept : Kept t := h.invariant (init_kept hl hplain hinit) fun _ _ hs hp => hs.step hp
  refine ⟨fun config b hp => ?_, Store.Keyed.load_save ⟨hkept.components, hkept.store⟩⟩
  have hadd := hkept.addBinding hp b
  have hremove := hkept.removeBinding hp
  exact ⟨fun hb => ⟨hadd.1 hb, hremove.2 hb⟩, fun hn => ⟨hremove.1 hn, hadd.2 hn⟩⟩

end Runs

/-- Two bindings of the sample core, one after the other; the second comes from a remote
component. -/
def buttonToFan : BindingConfig := { lampToFan with sourceComponent := "button" }

theorem bindings_kept_apart_button :
    let t := [Event.addBinding lampToFan {}, .addBinding buttonToFan {},
      .removeBinding lampToFan].foldl
      (step sampleDescription) sampleStarted
    t.storeBindings.values = [buttonToFan] ∧
      (addBinding {} buttonToFan).run t = .error (.bindingExists buttonToFan) t ∧
      Store.load t.store.save = .ok t.store := by
  have h := bindings_kept_apart sampleDescription {} sampleLoaded sampleStarted sampleLoaded_loaded
    (fun _ _ h => nomatch h) rfl [.addBinding lampToFan {}, .addBinding buttonToFan {},
      .removeBinding lampToFan]
    (by decide)
  exact ⟨by decide, ((h.1 buttonToFan {} (by decide)).1 (by decide)).1, h.2⟩

/-- Names that have the separator in them: the second binding is taken for the
first, so that adding it fails and removing it closes the first. -/
theorem bindings_confused :
    let first : BindingConfig :=
      { sourceComponent := "lamp|value", sourceState := "on", targetComponent := "fan",
        targetAction := "setValue" }
    let second : BindingConfig :=
      { first with sourceComponent := "lamp", sourceState := "value|on" }
    let t := step sampleDescription sampleStarted (.addBinding first {})
    first ≠ second ∧ Bound t first ∧ ¬ Bound t second ∧
      fails sampleDescription t (.addBinding second {}) = true ∧
      ¬ Bound (step sampleDescription t (.removeBinding second)) first := by
  decide

end MylifeHome.Core.Hosted
