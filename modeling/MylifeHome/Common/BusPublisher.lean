import MylifeHome.Lib.Run
import MylifeHome.Common.Registry
import MylifeHome.Common.Types

/-!
# Remote components in the registry

The handlers of `BusInstance`: what a metadata message of one instance does to
the registry. A plugin is looked up under its instance, a component under its id
alone. `Reflects` relates a registry to what the instances publish; each handler
keeps the relation when no other instance uses the same id.
-/
namespace MylifeHome.Common

open MylifeHome.Lib OMap
open MylifeHome.Studio.Core (NetPlugin)

structure NetComponent where
  id : String
  plugin : String
  deriving DecidableEq

/-- The id that `decodePlugin` gives to a plugin. -/
def netPluginId (p : NetPlugin) : String := p.module ++ "." ++ p.name

/-- The value of a metadata path. -/
inductive NetValue where
  | plugin (p : NetPlugin)
  | component (c : NetComponent)
  | other
  deriving DecidableEq

inductive HandlerError where
  | registry (e : RegistryError)
  | metadata (e : Metadata.TypeError)
  | typeError
  deriving DecidableEq

/-- The object that `decodePlugin` makes, as the registry knows it. -/
def decodePlugin (object : Nat) (p : NetPlugin) : Except HandlerError Plugin :=
  match Metadata.decodePlugin p with
  | .ok plugin => .ok { object, module := plugin.module, name := plugin.name }
  | .error e => .error (.metadata e)

/-- The types of all members can be read. -/
def Readable (p : NetPlugin) : Prop :=
  ∀ e ∈ p.members.entries, (Metadata.parseType e.2.valueType).isOk = true

instance (p : NetPlugin) : Decidable (Readable p) := inferInstanceAs (Decidable (∀ e ∈ _, _))

theorem decodePlugin_ok {p : NetPlugin} (h : Readable p) (object : Nat) :
    decodePlugin object p = .ok { object, module := p.module, name := p.name } := by
  obtain ⟨plugin, hp, hm, hn⟩ := Metadata.decodePlugin_ok h
  simp only [decodePlugin, hp, hm, hn]

inductive PathType where
  | plugins
  | components
  deriving DecidableEq

def PathType.text : PathType → String
  | .plugins => "plugins"
  | .components => "components"

/-- `const [type, id] = path.split('/')`, for the types that the handlers treat.
A missing id is read as the text of `undefined`. -/
def parsePath (path : String) : Option (PathType × String) :=
  match Text.split path '/' with
  | [] => none
  | type :: rest =>
    let id := rest.headD "undefined"
    if type = "plugins" then some (.plugins, id)
    else if type = "components" then some (.components, id)
    else none

def buildPath (type : PathType) (id : String) : String := type.text ++ "/" ++ id

theorem parsePath_buildPath {type : PathType} {id : String} (h : '/' ∉ id.toList) :
    parsePath (buildPath type id) = some (type, id) := by
  have hs : Text.split (buildPath type id) '/' = [type.text, id] := by
    refine Text.split_of_toList ?_ (by simp) ?_
    · intro p hp
      rcases List.mem_cons.mp hp with rfl | hp
      · cases type <;> decide
      · rw [List.mem_singleton.mp hp]; exact h
    · simp [buildPath, List.intercalate]
  rw [parsePath, hs]
  cases type <;> rfl

namespace BusInstance

variable (r : Registry) (instanceName : InstanceName)

/-- `new BusComponent(...)`: the object needs the plugin of its instance. -/
def busComponent (object : Nat) (c : NetComponent) : Except RegistryError Component := do
  let plugin ← r.getPlugin instanceName c.plugin
  return { object, id := c.id, plugin }

/-- The `set` handler; `object` is the identity of the object it may create. -/
def set (object : Nat) (path : String) (value : NetValue) : Except HandlerError Registry :=
  match parsePath path with
  | some (.plugins, id) =>
    if r.hasPlugin instanceName id then .ok r
    else match value with
      | .plugin p => do
        let plugin ← decodePlugin object p
        (r.addPlugin instanceName plugin).mapError .registry
      | _ => .error .typeError
  | some (.components, id) =>
    if r.hasComponent id then .ok r
    else match value with
      | .component c => (do
          let component ← busComponent r instanceName object c
          r.addComponent instanceName component).mapError .registry
      | _ => .error .typeError
  | none => .ok r

/-- The `clear` handler. -/
def clear (path : String) : Except HandlerError Registry :=
  match parsePath path with
  | some (.plugins, id) => (do
      let plugin ← r.getPlugin instanceName id
      r.removePlugin instanceName plugin).mapError .registry
  | some (.components, id) => (do
      let component ← r.getComponent id
      r.removeComponent instanceName component).mapError .registry
  | none => .ok r

end BusInstance

/-! ## What a registry reflects -/

/-- The registry holds exactly the plugins `P` and the components `C`, each given
by an instance and an id. -/
structure Reflects (r : Registry) (P C : InstanceName → String → Prop) : Prop where
  coherent : r.Coherent
  components : ∀ n id, (∃ c, r.components.get id = some { instanceName := n, component := c }) ↔
    C n id
  plugins : ∀ key, (∃ p, r.pluginsPerInstance.get key = some p) ↔ ∃ n id, P n id ∧
    pluginKey n id = key
  pluginId : ∀ n id p, P n id → r.pluginsPerInstance.get (pluginKey n id) = some p → p.id = id
  pluginPairs : ∀ n p, p ∈ (r.dataOf n).plugins ↔
    P n p.id ∧ r.pluginsPerInstance.get (pluginKey n p.id) = some p
  keys : ∀ n id n' id', P n id → P n' id' → pluginKey n id = pluginKey n' id' → n = n' ∧ id = id'
  nodup : ∀ n, (r.dataOf n).plugins.Nodup

/-- One more pair. -/
def With (R : InstanceName → String → Prop) (n : InstanceName) (id : String) (n' : InstanceName)
    (id' : String) : Prop :=
  (n' = n ∧ id' = id) ∨ R n' id'

/-- One pair less. -/
def Without (R : InstanceName → String → Prop) (n : InstanceName) (id : String) (n' : InstanceName)
    (id' : String) : Prop :=
  R n' id' ∧ ¬ (n' = n ∧ id' = id)

namespace Reflects

variable {r : Registry} {P C P' C' : InstanceName → String → Prop} {n : InstanceName}

theorem empty : Reflects {} (fun _ _ => False) (fun _ _ => False) := by
  refine ⟨Registry.coherent_empty, ?_, ?_, ?_, ?_, ?_, ?_⟩ <;> simp [Registry.dataOf]

theorem congr (h : Reflects r P C) (hP : ∀ n id, P' n id ↔ P n id) (hC : ∀ n id, C' n id ↔ C n id) :
    Reflects r P' C' := by
  obtain rfl : P' = P := funext fun n => funext fun id => propext (hP n id)
  obtain rfl : C' = C := funext fun n => funext fun id => propext (hC n id)
  exact h

theorem getPlugin (h : Reflects r P C) {id : String} (hp : P n id) :
    ∃ p, r.pluginsPerInstance.get (pluginKey n id) = some p ∧ p.id = id := by
  obtain ⟨p, hg⟩ := (h.plugins (pluginKey n id)).mpr ⟨n, id, hp, rfl⟩
  exact ⟨p, hg, h.pluginId n id p hp hg⟩

/-- A plugin key that no published plugin has is free. -/
theorem pluginFree (h : Reflects r P C) {key : String}
    (hk : ∀ n id, P n id → pluginKey n id ≠ key) :
    r.pluginsPerInstance.get key = none := by
  by_contra hne
  obtain ⟨p, hp⟩ := Option.ne_none_iff_exists'.mp hne
  obtain ⟨n, id, hP, hkey⟩ := (h.plugins key).mp ⟨p, hp⟩
  exact hk n id hP hkey

theorem addPlugin (h : Reflects r P C) {p : Plugin}
    (hk : ∀ n' id', P n' id' → pluginKey n' id' ≠ pluginKey n p.id) :
    ∃ r', r.addPlugin n p = .ok r' ∧
      (r'.components = r.components ∧ ∀ m, m ≠ n → r'.dataOf m = r.dataOf m) ∧
      Reflects r' (With P n p.id) C := by
  have hnot : ¬ P n p.id := fun hP => hk n p.id hP rfl
  obtain ⟨r', hr', hcomp, hplug, hdata⟩ := Registry.addPlugin_ok (h.pluginFree hk)
  refine ⟨r', hr', ⟨hcomp, fun m hm => by rw [hdata, if_neg hm]⟩, ?_, ?_, ?_, ?_, ?_, ?_, ?_⟩
  · constructor
    · intro m c
      rw [hcomp, hdata]
      split
      · next hm => subst hm; exact h.coherent.pairs m c
      · exact h.coherent.pairs m c
    · rw [hcomp]; exact h.coherent.ids
  · rw [hcomp]; exact h.components
  · intro key
    rw [hplug]
    simp only [get_set_eq_some]
    constructor
    · rintro ⟨q, ⟨rfl, rfl⟩ | ⟨_, hq⟩⟩
      · exact ⟨n, p.id, Or.inl ⟨rfl, rfl⟩, rfl⟩
      · obtain ⟨n', id', hP, hkey⟩ := (h.plugins key).mp ⟨q, hq⟩
        exact ⟨n', id', Or.inr hP, hkey⟩
    · rintro ⟨n', id', ⟨rfl, rfl⟩ | hP, rfl⟩
      · exact ⟨p, Or.inl ⟨rfl, rfl⟩⟩
      · obtain ⟨q, hq, _⟩ := h.getPlugin hP
        exact ⟨q, Or.inr ⟨hk n' id' hP, hq⟩⟩
  · rintro n' id' q (⟨rfl, rfl⟩ | hP) hq
    · rw [hplug, get_set_self, Option.some.injEq] at hq
      rw [hq]
    · rw [hplug, get_set_ne _ _ (hk n' id' hP)] at hq
      exact h.pluginId n' id' q hP hq
  · intro m q
    rw [hdata, hplug, get_set_eq_some]
    by_cases hm : m = n
    · subst hm
      simp only [if_true, List.mem_insert_iff, h.pluginPairs, With]
      constructor
      · rintro (rfl | ⟨hP, hq⟩)
        · exact ⟨Or.inl ⟨trivial, rfl⟩, Or.inl ⟨rfl, rfl⟩⟩
        · exact ⟨Or.inr hP, Or.inr ⟨hk m q.id hP, hq⟩⟩
      · rintro ⟨_, ⟨_, rfl⟩ | ⟨hne, hq⟩⟩
        · exact Or.inl rfl
        · rename_i hP
          rcases hP with ⟨_, hid⟩ | hP
          · exact absurd (by rw [hid]) hne
          · exact Or.inr ⟨hP, hq⟩
    · rw [if_neg hm]
      simp only [h.pluginPairs, With, hm, false_and, false_or]
      refine and_congr_right fun hP => ⟨fun hq => Or.inr ⟨hk m q.id hP, hq⟩, ?_⟩
      rintro (⟨hkey, _⟩ | ⟨_, hq⟩)
      · exact absurd hkey (hk m q.id hP)
      · exact hq
  · rintro n₁ id₁ n₂ id₂ (⟨rfl, rfl⟩ | h₁) (⟨rfl, rfl⟩ | h₂) hkey
    · exact ⟨rfl, rfl⟩
    · exact absurd hkey.symm (hk n₂ id₂ h₂)
    · exact absurd hkey (hk n₁ id₁ h₁)
    · exact h.keys n₁ id₁ n₂ id₂ h₁ h₂ hkey
  · intro m
    rw [hdata]
    split
    · exact (h.nodup n).insert
    · exact h.nodup m

theorem removePlugin (h : Reflects r P C) {p : Plugin} (hP : P n p.id)
    (hp : r.pluginsPerInstance.get (pluginKey n p.id) = some p) :
    ∃ r', r.removePlugin n p = .ok r' ∧
      (r'.components = r.components ∧ ∀ m, m ≠ n → r'.dataOf m = r.dataOf m) ∧
      Reflects r' (Without P n p.id) C := by
  obtain ⟨r', hr', hcomp, hplug, hdata⟩ := Registry.removePlugin_ok hp
  have hother : ∀ {n' id'}, P n' id' →
      (pluginKey n' id' ≠ pluginKey n p.id ↔ ¬ (n' = n ∧ id' = p.id)) := by
    intro n' id' hP'
    refine not_congr ⟨h.keys n' id' n p.id hP' hP, ?_⟩
    rintro ⟨rfl, rfl⟩; rfl
  refine ⟨r', hr', ⟨hcomp, fun m hm => by rw [hdata, if_neg hm]⟩, ?_, ?_, ?_, ?_, ?_, ?_, ?_⟩
  · constructor
    · intro m c
      rw [hcomp, hdata]
      split
      · next hm => subst hm; exact h.coherent.pairs m c
      · exact h.coherent.pairs m c
    · rw [hcomp]; exact h.coherent.ids
  · rw [hcomp]; exact h.components
  · intro key
    rw [hplug]
    simp only [get_delete_eq_some]
    constructor
    · rintro ⟨q, hne, hq⟩
      obtain ⟨n', id', hP', rfl⟩ := (h.plugins key).mp ⟨q, hq⟩
      exact ⟨n', id', ⟨hP', (hother hP').mp hne⟩, rfl⟩
    · rintro ⟨n', id', ⟨hP', hne⟩, rfl⟩
      obtain ⟨q, hq, _⟩ := h.getPlugin hP'
      exact ⟨q, (hother hP').mpr hne, hq⟩
  · rintro n' id' q ⟨hP', hne⟩ hq
    rw [hplug, get_delete_ne _ ((hother hP').mpr hne)] at hq
    exact h.pluginId n' id' q hP' hq
  · intro m q
    rw [hdata, hplug, get_delete_eq_some]
    by_cases hm : m = n
    · subst hm
      simp only [if_true, List.mem_filter, h.pluginPairs, Without, decide_eq_true_eq, true_and]
      constructor
      · rintro ⟨⟨hP', hq⟩, hne⟩
        have hid : q.id ≠ p.id := by
          intro hid
          rw [hid, hp, Option.some.injEq] at hq
          exact hne hq.symm
        exact ⟨⟨hP', hid⟩, (hother hP').mpr (fun he => hid he.2), hq⟩
      · rintro ⟨⟨hP', hid⟩, _, hq⟩
        exact ⟨⟨hP', hq⟩, fun he => hid (by rw [he])⟩
    · rw [if_neg hm]
      simp only [h.pluginPairs, Without, hm, false_and, not_false_eq_true, and_true]
      refine and_congr_right fun hP' => ?_
      rw [and_iff_right ((hother hP').mpr fun he => hm he.1)]
  · intro n₁ id₁ n₂ id₂ h₁ h₂ hkey
    exact h.keys n₁ id₁ n₂ id₂ h₁.1 h₂.1 hkey
  · intro m
    rw [hdata]
    split
    · exact (h.nodup n).filter _
    · exact h.nodup m

theorem addComponent (h : Reflects r P C) {c : Component} (hc : ∀ n', ¬ C n' c.id) :
    ∃ r', r.addComponent n c = .ok r' ∧
      (r'.components = r.components.set c.id { instanceName := n, component := c } ∧
        ∀ m, m ≠ n → r'.dataOf m = r.dataOf m) ∧ Reflects r' P (With C n c.id) := by
  have hfree : r.components.get c.id = none := by
    by_contra hne
    obtain ⟨⟨n', c'⟩, hd⟩ := Option.ne_none_iff_exists'.mp hne
    exact hc n' ((h.components n' c.id).mp ⟨c', hd⟩)
  obtain ⟨r', hr', hcomp, hplug, hdata⟩ := Registry.addComponent_ok (n := n) hfree
  refine ⟨r', hr', ⟨hcomp, fun m hm => by rw [hdata, if_neg hm]⟩, h.coherent.add hfree hcomp hdata,
    ?_, ?_, ?_, ?_, h.keys, ?_⟩
  · intro n' id
    rw [hcomp]
    simp only [get_set_eq_some, ComponentData.mk.injEq]
    constructor
    · rintro ⟨c', ⟨rfl, rfl, rfl⟩ | ⟨_, hc'⟩⟩
      · exact Or.inl ⟨rfl, rfl⟩
      · exact Or.inr ((h.components n' id).mp ⟨c', hc'⟩)
    · rintro (⟨rfl, rfl⟩ | hC)
      · exact ⟨c, Or.inl ⟨rfl, rfl, rfl⟩⟩
      · obtain ⟨c', hc'⟩ := (h.components n' id).mpr hC
        refine ⟨c', Or.inr ⟨?_, hc'⟩⟩
        rintro rfl
        exact hc n' hC
  · rw [hplug]; exact h.plugins
  · rw [hplug]; exact h.pluginId
  · intro m q
    rw [hplug, hdata]
    split
    · next hm => subst hm; exact h.pluginPairs m q
    · exact h.pluginPairs m q
  · intro m
    rw [hdata]
    split
    · exact h.nodup n
    · exact h.nodup m

theorem removeComponent (h : Reflects r P C) {c : Component}
    (hc : r.components.get c.id = some { instanceName := n, component := c }) :
    ∃ r', r.removeComponent n c = .ok r' ∧ (r'.components = r.components.delete c.id ∧
      ∀ m, m ≠ n → r'.dataOf m = r.dataOf m) ∧ Reflects r' P (Without C n c.id) := by
  obtain ⟨r', hr', hcomp, hplug, hdata⟩ := Registry.removeComponent_ok (n := n) hc
  refine ⟨r', hr', ⟨hcomp, fun m hm => by rw [hdata, if_neg hm]⟩, h.coherent.remove hc hcomp hdata,
    ?_, ?_, ?_, ?_, h.keys, ?_⟩
  · intro n' id
    rw [hcomp]
    simp only [get_delete_eq_some]
    constructor
    · rintro ⟨c', hne, hc'⟩
      exact ⟨(h.components n' id).mp ⟨c', hc'⟩, fun he => hne he.2⟩
    · rintro ⟨hC, hne⟩
      obtain ⟨c', hc'⟩ := (h.components n' id).mpr hC
      refine ⟨c', ?_, hc'⟩
      rintro rfl
      rw [hc, Option.some.injEq] at hc'
      exact hne ⟨(ComponentData.mk.inj hc').1.symm, rfl⟩
  · rw [hplug]; exact h.plugins
  · rw [hplug]; exact h.pluginId
  · intro m q
    rw [hplug, hdata]
    split
    · next hm => subst hm; exact h.pluginPairs m q
    · exact h.pluginPairs m q
  · intro m
    rw [hdata]
    split
    · exact h.nodup n
    · exact h.nodup m

/-! ### The handlers -/

/-- The entries and the sets of every instance but one are those of before. -/
def KeepsAllBut (n : InstanceName) (r r' : Registry) : Prop :=
  (∀ id d, d.instanceName ≠ n → (r'.components.get id = some d ↔ r.components.get id = some d)) ∧
    ∀ m, m ≠ n → r'.dataOf m = r.dataOf m

theorem KeepsAllBut.refl (n : InstanceName) (r : Registry) : KeepsAllBut n r r :=
  ⟨fun _ _ _ => Iff.rfl, fun _ _ => rfl⟩

theorem keepsAllBut_of_eq {r' : Registry}
    (h : r'.components = r.components ∧ ∀ m, m ≠ n → r'.dataOf m = r.dataOf m) :
    KeepsAllBut n r r' := ⟨fun _ _ _ => by rw [h.1], h.2⟩

/-- A message that sets a plugin, when no other published plugin has its key. -/
theorem setPlugin (h : Reflects r P C) (object : Nat) {p : NetPlugin}
    (hid : '/' ∉ (netPluginId p).toList)
    (hk : ∀ n' id', P n' id' → pluginKey n' id' = pluginKey n (netPluginId p) → n' = n ∧
      id' = netPluginId p)
    (hread : P n (netPluginId p) ∨ Readable p) :
    ∃ r', BusInstance.set r n object (buildPath .plugins (netPluginId p)) (.plugin p) = .ok r' ∧
      KeepsAllBut n r r' ∧
      Reflects r' (With P n (netPluginId p)) C := by
  simp only [BusInstance.set, parsePath_buildPath hid]
  by_cases hP : P n (netPluginId p)
  · obtain ⟨q, hq, _⟩ := h.getPlugin hP
    refine ⟨r, if_pos (has_iff.mpr ⟨q, hq⟩), .refl n r, h.congr ?_ (fun _ _ => Iff.rfl)⟩
    intro n' id'
    refine ⟨?_, Or.inr⟩
    rintro (⟨rfl, rfl⟩ | h')
    · exact hP
    · exact h'
  · have hk' : ∀ n' id', P n' id' → pluginKey n' id' ≠ pluginKey n (netPluginId p) := by
      intro n' id' hP' hkey
      obtain ⟨rfl, rfl⟩ := hk n' id' hP' hkey
      exact hP hP'
    have hdecode := decodePlugin_ok (hread.resolve_left hP) object
    obtain ⟨r', hr', hkeep, href⟩ :=
      h.addPlugin (n := n) (p := { object, module := p.module, name := p.name }) hk'
    refine ⟨r', ?_, keepsAllBut_of_eq hkeep, href⟩
    rw [if_neg (by simp [Registry.hasPlugin, has, h.pluginFree hk'])]
    simp [hdecode, hr', Except.mapError, bind, Except.bind]

/-- A message that sets a component, when its plugin is there and no other
instance publishes the id. -/
theorem setComponent (h : Reflects r P C) (object : Nat) {c : NetComponent}
    (hid : '/' ∉ c.id.toList) (hP : P n c.plugin) (hC : ∀ n', C n' c.id → n' = n) :
    ∃ r', BusInstance.set r n object (buildPath .components c.id) (.component c) = .ok r' ∧
      KeepsAllBut n r r' ∧
      Reflects r' P (With C n c.id) := by
  simp only [BusInstance.set, parsePath_buildPath hid]
  by_cases hCn : C n c.id
  · obtain ⟨c', hc'⟩ := (h.components n c.id).mpr hCn
    refine ⟨r, if_pos (has_iff.mpr ⟨_, hc'⟩), .refl n r, h.congr (fun _ _ => Iff.rfl) ?_⟩
    intro n' id'
    refine ⟨?_, Or.inr⟩
    rintro (⟨rfl, rfl⟩ | h')
    · exact hCn
    · exact h'
  · have hno : ∀ n', ¬ C n' c.id := by
      intro n' hC'
      exact hCn (hC n' hC' ▸ hC')
    obtain ⟨p, hp, _⟩ := h.getPlugin hP
    obtain ⟨r', hr', ⟨hcomp, hdata⟩, href⟩ :=
      h.addComponent (n := n) (c := { object, id := c.id, plugin := p }) hno
    have hfree : r.hasComponent c.id = false := by
      rw [Registry.hasComponent, has_eq_false]
      by_contra hne
      obtain ⟨⟨n', c'⟩, hd⟩ := Option.ne_none_iff_exists'.mp hne
      exact hno n' ((h.components n' c.id).mp ⟨c', hd⟩)
    refine ⟨r', ?_, ⟨?_, hdata⟩, href⟩
    · rw [hfree]
      simp [BusInstance.busComponent, Registry.getPlugin, hp, hr', Except.mapError, bind,
        Except.bind, pure, Except.pure]
    · intro id d hd
      rw [hcomp, get_set_eq_some]
      constructor
      · rintro (⟨_, rfl⟩ | ⟨_, hd'⟩)
        · exact absurd rfl hd
        · exact hd'
      · intro hd'
        refine Or.inr ⟨?_, hd'⟩
        rintro rfl
        obtain ⟨n', c'⟩ := d
        exact hno n' ((h.components n' c.id).mp ⟨c', hd'⟩)

theorem clearPlugin (h : Reflects r P C) {id : String} (hid : '/' ∉ id.toList) (hP : P n id) :
    ∃ r', BusInstance.clear r n (buildPath .plugins id) = .ok r' ∧ KeepsAllBut n r r' ∧
      Reflects r' (Without P n id) C := by
  obtain ⟨p, hp, rfl⟩ := h.getPlugin hP
  obtain ⟨r', hr', hkeep, href⟩ := h.removePlugin hP hp
  refine ⟨r', ?_, keepsAllBut_of_eq hkeep, href⟩
  simp [BusInstance.clear, parsePath_buildPath hid, Registry.getPlugin, hp, hr', Except.mapError,
    bind, Except.bind]

theorem clearComponent (h : Reflects r P C) {id : String} (hid : '/' ∉ id.toList) (hC : C n id) :
    ∃ r', BusInstance.clear r n (buildPath .components id) = .ok r' ∧ KeepsAllBut n r r' ∧
      Reflects r' P (Without C n id) := by
  obtain ⟨c, hc⟩ := (h.components n id).mpr hC
  obtain rfl := h.coherent.ids id _ hc
  obtain ⟨r', hr', ⟨hcomp, hdata⟩, href⟩ := h.removeComponent hc
  refine ⟨r', ?_, ⟨?_, hdata⟩, href⟩
  · simp [BusInstance.clear, parsePath_buildPath hid, Registry.getComponent, hc, hr',
      Except.mapError, bind, Except.bind]
  · intro id' d hd
    rw [hcomp, get_delete_eq_some, and_iff_right_iff_imp]
    rintro hd' rfl
    rw [hc, Option.some.injEq] at hd'
    exact hd (by rw [← hd'])

end Reflects

/-! ## Metadata messages of several instances -/

/-- A metadata message, as its instance publishes it. -/
inductive Message where
  | setPlugin (n : String) (p : NetPlugin)
  | setComponent (n : String) (c : NetComponent)
  | clearPlugin (n : String) (id : String)
  | clearComponent (n : String) (id : String)
  deriving DecidableEq

def Message.sender : Message → String
  | .setPlugin n _ | .setComponent n _ | .clearPlugin n _ | .clearComponent n _ => n

/-- The registry of a process and what the instances publish at the moment. -/
structure Bus where
  registry : Registry := {}
  objects : Nat := 0
  plugins : List (String × String) := []
  components : List (String × String) := []
  thrown : List HandlerError := []

namespace Bus

/-- The handler of the message's `BusInstance`. -/
def handle (s : Bus) : Message → Except HandlerError Registry
  | .setPlugin n p => BusInstance.set s.registry (some n) s.objects
    (buildPath .plugins (netPluginId p)) (.plugin p)
  | .setComponent n c => BusInstance.set s.registry (some n) s.objects (buildPath .components c.id)
    (.component c)
  | .clearPlugin n id => BusInstance.clear s.registry (some n) (buildPath .plugins id)
  | .clearComponent n id => BusInstance.clear s.registry (some n) (buildPath .components id)

/-- What the instances publish after a message. -/
def publish (s : Bus) : Message → Bus
  | .setPlugin n p => { s with plugins := (s.plugins).insert (n, netPluginId p) }
  | .setComponent n c => { s with components := (s.components).insert (n, c.id) }
  | .clearPlugin n id => { s with plugins := s.plugins.filter (fun e => decide (e ≠ (n, id))) }
  | .clearComponent n id =>
    { s with components := s.components.filter (fun e => decide (e ≠ (n, id))) }

/-- A handler that throws changes nothing in the registry. -/
def step (s : Bus) (m : Message) : Bus :=
  let s' := { s.publish m with objects := s.objects + 1 }
  match s.handle m with
  | .ok registry => { s' with registry }
  | .error e => { s' with thrown := e :: s'.thrown }

/-- An instance clears what it has set and publishes a component while its plugin
is published. -/
def Enabled (s : Bus) : Message → Prop
  | .setPlugin _ _ => True
  | .setComponent n c => (n, c.plugin) ∈ s.plugins
  | .clearPlugin n id => (n, id) ∈ s.plugins
  | .clearComponent n id => (n, id) ∈ s.components

/-- The ids fit in one level of a topic, no two plugins share a registry key, the types of
a new plugin can be read, and a component is set while no other instance publishes its id. -/
def Alone (s : Bus) : Message → Prop
  | .setPlugin n p => '/' ∉ (netPluginId p).toList ∧ ((n, netPluginId p) ∈ s.plugins ∨ Readable p) ∧
      ∀ e ∈ s.plugins, pluginKey (some e.1) e.2 = pluginKey (some n) (netPluginId p) →
        e = (n, netPluginId p)
  | .setComponent n c => '/' ∉ c.id.toList ∧ ∀ e ∈ s.components, e.2 = c.id → e.1 = n
  | .clearPlugin _ _ | .clearComponent _ _ => True

instance (s : Bus) (m : Message) : Decidable (Enabled s m) :=
  match m with
  | .setPlugin _ _ => inferInstanceAs (Decidable True)
  | .setComponent _ _ => inferInstanceAs (Decidable (_ ∈ _))
  | .clearPlugin _ _ => inferInstanceAs (Decidable (_ ∈ _))
  | .clearComponent _ _ => inferInstanceAs (Decidable (_ ∈ _))

instance (s : Bus) (m : Message) : Decidable (Alone s m) :=
  match m with
  | .setPlugin _ _ => inferInstanceAs (Decidable (_ ∧ (_ ∨ _) ∧ ∀ e ∈ _, _))
  | .setComponent n c => inferInstanceAs
    (Decidable ('/' ∉ c.id.toList ∧ ∀ e ∈ s.components, e.2 = c.id → e.1 = n))
  | .clearPlugin _ _ => inferInstanceAs (Decidable True)
  | .clearComponent _ _ => inferInstanceAs (Decidable True)

/-- The pairs of a list of published ids, as instances of the registry. -/
def Pairs (l : List (String × String)) (n : InstanceName) (id : String) : Prop := ∃ i, n = some i ∧
    (i, id) ∈ l

theorem pairs_some {l : List (String × String)} {i id : String} : Pairs l (some i) id ↔
    (i, id) ∈ l := by
  simp [Pairs]

theorem pairs_insert {l : List (String × String)} {i id : String} (n : InstanceName)
    (id' : String) :
    Pairs (l.insert (i, id)) n id' ↔ With (Pairs l) (some i) id n id' := by
  cases n with
  | none => simp [Pairs, With]
  | some j => simp [pairs_some, With]

theorem pairs_filter {l : List (String × String)} {i id : String} (n : InstanceName)
    (id' : String) :
    Pairs (l.filter (fun e => decide (e ≠ (i, id)))) n id' ↔
      Without (Pairs l) (some i) id n id' := by
  cases n with
  | none => simp [Pairs, Without]
  | some j => simp [pairs_some, Without, imp_iff_not_or]

/-- The entries of the other instances stay as they are. -/
def KeepsOthers (s : Bus) (m : Message) : Prop :=
  Reflects.KeepsAllBut (some m.sender) s.registry (s.step m).registry

structure Good (s : Bus) : Prop where
  reflects : Reflects s.registry (Pairs s.plugins) (Pairs s.components)
  slashPlugins : ∀ e ∈ s.plugins, '/' ∉ e.2.toList
  slashComponents : ∀ e ∈ s.components, '/' ∉ e.2.toList
  thrown : s.thrown = []

theorem good_init : Good {} := by
  refine ⟨Reflects.empty.congr ?_ ?_, ?_, ?_, rfl⟩ <;> simp [Pairs]

theorem Good.step {s : Bus} (hg : Good s) {m : Message} (he : Enabled s m) (ha : Alone s m) :
    Good (s.step m) ∧ s.KeepsOthers m := by
  cases m with
  | setPlugin n p =>
    have hk : ∀ n' id', Pairs s.plugins n' id' → pluginKey n' id' = pluginKey (some n)
      (netPluginId p) →
        n' = some n ∧ id' = netPluginId p := by
      rintro _ id' ⟨i, rfl, hi⟩ hkey
      have he := ha.2.2 (i, id') hi hkey
      simp_all
    have hread := ha.2.1.imp_left pairs_some.mpr
    obtain ⟨r', hr', hkeep, href⟩ := hg.reflects.setPlugin s.objects ha.1 hk hread
    have hs : s.step (.setPlugin n p) =
        { s with registry := r', objects := s.objects + 1, plugins := s.plugins.insert (n,
          netPluginId p) } := by
      simp only [Bus.step, handle, hr', publish]
    rw [KeepsOthers, hs]
    refine ⟨⟨href.congr pairs_insert (fun _ _ => Iff.rfl), ?_, hg.slashComponents, hg.thrown⟩,
      hkeep⟩
    intro e he
    rcases List.mem_insert_iff.mp he with rfl | he
    · exact ha.1
    · exact hg.slashPlugins e he
  | setComponent n c =>
    have hC : ∀ n', Pairs s.components n' c.id → n' = some n := by
      rintro _ ⟨i, rfl, hi⟩
      exact congrArg some (ha.2 (i, c.id) hi rfl)
    obtain ⟨r', hr', hkeep, href⟩ := hg.reflects.setComponent s.objects ha.1 (pairs_some.mpr he) hC
    have hs : s.step (.setComponent n c) =
        { s with registry := r', objects := s.objects + 1, components := s.components.insert (n,
          c.id) } := by
      simp only [Bus.step, handle, hr', publish]
    rw [KeepsOthers, hs]
    refine ⟨⟨href.congr (fun _ _ => Iff.rfl) pairs_insert, hg.slashPlugins, ?_, hg.thrown⟩, hkeep⟩
    intro e he
    rcases List.mem_insert_iff.mp he with rfl | he
    · exact ha.1
    · exact hg.slashComponents e he
  | clearPlugin n id =>
    have he : (n, id) ∈ s.plugins := he
    obtain ⟨r', hr', hkeep, href⟩ := hg.reflects.clearPlugin (hg.slashPlugins _ he)
      (pairs_some.mpr he)
    have hs : s.step (.clearPlugin n id) =
        { s with registry := r', objects := s.objects + 1, plugins := s.plugins.filter (fun e =>
          decide (e ≠ (n, id))) } := by
      simp only [Bus.step, handle, hr', publish]
    rw [KeepsOthers, hs]
    exact ⟨⟨href.congr pairs_filter (fun _ _ => Iff.rfl),
      fun e he => hg.slashPlugins e
        (List.mem_filter.mp he).1, hg.slashComponents, hg.thrown⟩, hkeep⟩
  | clearComponent n id =>
    have he : (n, id) ∈ s.components := he
    obtain ⟨r', hr', hkeep,
      href⟩ := hg.reflects.clearComponent (hg.slashComponents _ he) (pairs_some.mpr he)
    have hs : s.step (.clearComponent n id) =
        { s with registry := r', objects := s.objects + 1, components :=
            s.components.filter (fun e => decide (e ≠ (n, id))) } := by
      simp only [Bus.step, handle, hr', publish]
    rw [KeepsOthers, hs]
    exact ⟨⟨href.congr (fun _ _ => Iff.rfl) pairs_filter, hg.slashPlugins,
      fun e he => hg.slashComponents e (List.mem_filter.mp he).1, hg.thrown⟩, hkeep⟩

/-- The registry follows the messages: no handler has thrown, the map and the
sets agree, an id is registered exactly if an instance publishes it, and the next
message leaves the entries of the other instances alone. -/
structure Follows (s : Bus) (next : Message → Prop) : Prop where
  quiet : s.thrown = []
  coherent : s.registry.Coherent
  pluginSets : ∀ n p, p ∈ (s.registry.dataOf n).plugins →
    s.registry.pluginsPerInstance.get (pluginKey n p.id) = some p
  registered : ∀ id, s.registry.hasComponent id = true ↔ ∃ n, (n, id) ∈ s.components
  others : ∀ m, next m → s.KeepsOthers m

theorem Good.follows {s : Bus} (hg : Good s) : Follows s (fun m => Enabled s m ∧ Alone s m) := by
  refine ⟨hg.thrown, hg.reflects.coherent, fun n p hp => ((hg.reflects.pluginPairs n p).mp hp).2,
    ?_, fun m hm => (hg.step hm.1 hm.2).2⟩
  intro id
  rw [Registry.hasComponent, has_iff]
  constructor
  · rintro ⟨⟨n, c⟩, hc⟩
    obtain ⟨i, _, hi⟩ := (hg.reflects.components n id).mp ⟨c, hc⟩
    exact ⟨i, hi⟩
  · rintro ⟨i, hi⟩
    obtain ⟨c, hc⟩ := (hg.reflects.components (some i) id).mpr (pairs_some.mpr hi)
    exact ⟨_, hc⟩

/-- In every run of messages in which ids are not shared, the registry follows. -/
theorem registry_follows_metadata (ms : List Message)
    (h : Along Bus.step (fun s m => Enabled s m ∧ Alone s m) {} ms) :
    Follows (ms.foldl Bus.step {}) (fun m => Enabled (ms.foldl Bus.step {}) m ∧
      Alone (ms.foldl Bus.step {}) m) :=
  (h.invariant good_init (fun _ _ hg hc => (hg.step hc.1 hc.2).1)).follows

def lampPlugin : NetPlugin where
  name := "lamp"
  module := "lights"
  usage := .actuator
  version := "1"
  description := ""
  members := .ofList [("mode",
    { description := "", memberType := .state, valueType := "enum\x7boff,on\x7d" })]
  config := ∅

/-- Two instances with a component each; the second one removes its own. -/
def apartMessages : List Message :=
  [.setPlugin "attic" lampPlugin, .setComponent "attic" { id := "lamp1", plugin := "lights.lamp" },
    .setPlugin "cellar" lampPlugin,
      .setComponent "cellar" { id := "lamp2", plugin := "lights.lamp" },
    .clearComponent "cellar" "lamp2"]

theorem registry_follows_metadata_apart :
    Along Bus.step (fun s m => Enabled s m ∧ Alone s m) {} apartMessages ∧
      (apartMessages.foldl Bus.step {}).components = [("attic", "lamp1")] ∧
      Follows (apartMessages.foldl Bus.step {})
        (fun m => Enabled (apartMessages.foldl Bus.step {}) m ∧
          Alone (apartMessages.foldl Bus.step {}) m) :=
  ⟨by decide, by decide, registry_follows_metadata apartMessages (by decide)⟩

/-- Two instances publish one component id. -/
def sharedMessages : List Message :=
  [.setPlugin "attic" lampPlugin, .setComponent "attic" { id := "lamp", plugin := "lights.lamp" },
    .setPlugin "cellar" lampPlugin,
      .setComponent "cellar" { id := "lamp", plugin := "lights.lamp" }]

def clearShared : Message := .clearComponent "cellar" "lamp"

/-- When the second instance clears the id, the first one's entry is removed from
the map but not from its set, although the first instance still publishes it. -/
theorem registry_loses_shared_id :
    Along Bus.step Enabled {} (sharedMessages ++ [clearShared]) ∧
      ¬ (sharedMessages.foldl Bus.step {}).KeepsOthers clearShared ∧
      ¬ Follows ((sharedMessages ++ [clearShared]).foldl Bus.step {})
        (Enabled ((sharedMessages ++ [clearShared]).foldl Bus.step {})) := by
  refine ⟨by decide, ?_, ?_⟩
  · intro hk
    have hold : (sharedMessages.foldl Bus.step {}).registry.components.get "lamp" =
        some { instanceName := some "attic", component :=
          { object := 1, id := "lamp",
            plugin := { object := 0, module := "lights", name := "lamp" } } } := by decide
    have hnew := (hk.1 "lamp" _ (by decide)).mpr hold
    exact absurd hnew (by decide)
  · intro hf
    have hpub : ∃ n, (n, "lamp") ∈
        ((sharedMessages ++ [clearShared]).foldl Bus.step {}).components :=
      ⟨"attic", by decide⟩
    exact absurd ((hf.registered "lamp").mpr hpub) (by decide)

end Bus

end MylifeHome.Common
