import MylifeHome.Lib.OMap

/-!
# The component registry

`Registry` of `mylife-home-common`: the plugins and components that a process
knows, of its own and of other instances. A component is found by its id alone;
beside that map each instance has the sets of its plugins and components. An
instance name is `none` for what is local to the process.
-/
namespace MylifeHome.Common

open MylifeHome.Lib OMap

abbrev InstanceName := Option String

/-- A plugin object; `object` tells two objects of one description apart. -/
structure Plugin where
  object : Nat
  module : String
  name : String
  deriving DecidableEq

def Plugin.id (p : Plugin) : String := p.module ++ "." ++ p.name

structure Component where
  object : Nat
  id : String
  plugin : Plugin
  deriving DecidableEq

structure InstanceData where
  plugins : List Plugin := []
  components : List Component := []
  deriving DecidableEq

structure ComponentData where
  instanceName : InstanceName
  component : Component
  deriving DecidableEq

inductive RegistryError where
  | pluginExists (key : String)
  | pluginMissing (key : String)
  | componentExists (id : String)
  | componentMissing (id : String)
  deriving DecidableEq

def RegistryError.message : RegistryError → String
  | .pluginExists key => "Plugin " ++ key ++ " does already exist in the registry"
  | .pluginMissing key => "Plugin " ++ key ++ " does not exist in the registry"
  | .componentExists id => "Component " ++ id ++ " does already exist in the registry"
  | .componentMissing id => "Component " ++ id ++ " does not exist in the registry"

structure Registry where
  components : OMap String ComponentData := ∅
  pluginsPerInstance : OMap String Plugin := ∅
  instances : OMap InstanceName InstanceData := ∅

/-- The key of a plugin, with `local` for a missing or empty instance name. -/
def pluginKey (instanceName : InstanceName) (id : String) : String :=
  (match instanceName with
    | none => "local"
    | some name => if name = "" then "local" else name) ++ ":" ++ id

def buildPluginId (instanceName : InstanceName) (p : Plugin) : String := pluginKey instanceName p.id

namespace Registry

variable (r : Registry)

/-- The sets of one instance, empty for an instance that is not listed. -/
def dataOf (instanceName : InstanceName) : InstanceData := (r.instances.get instanceName).getD {}

def updateInstance (instanceName : InstanceName) (callback : InstanceData → InstanceData) :
    Registry :=
  let data := callback (r.dataOf instanceName)
  { r with
    instances :=
      if data.plugins = [] ∧ data.components = [] then r.instances.delete instanceName
      else r.instances.set instanceName data }

def addPlugin (instanceName : InstanceName) (plugin : Plugin) : Except RegistryError Registry :=
  let key := buildPluginId instanceName plugin
  if r.pluginsPerInstance.has key then .error (.pluginExists key)
  else .ok ({ r with pluginsPerInstance := r.pluginsPerInstance.set key plugin }.updateInstance
    instanceName
    (fun d => { d with plugins := d.plugins.insert plugin }))

def removePlugin (instanceName : InstanceName) (plugin : Plugin) : Except RegistryError Registry :=
  let key := buildPluginId instanceName plugin
  if r.pluginsPerInstance.has key then
    .ok ({ r with pluginsPerInstance := r.pluginsPerInstance.delete key }.updateInstance
      instanceName
      (fun d => { d with plugins := d.plugins.filter (fun p => decide (p ≠ plugin)) }))
  else .error (.pluginMissing key)

def hasPlugin (instanceName : InstanceName) (id : String) : Bool :=
  r.pluginsPerInstance.has (pluginKey instanceName id)

def getPlugin (instanceName : InstanceName) (id : String) : Except RegistryError Plugin :=
  match r.pluginsPerInstance.get (pluginKey instanceName id) with
  | none => .error (.pluginMissing (pluginKey instanceName id))
  | some p => .ok p

def addComponent (instanceName : InstanceName) (component : Component) :
    Except RegistryError Registry :=
  if r.components.has component.id then .error (.componentExists component.id)
  else .ok ({ r with components := r.components.set component.id { instanceName, component
    } }.updateInstance
    instanceName (fun d => { d with components := d.components.insert component }))

def removeComponent (instanceName : InstanceName) (component : Component) :
    Except RegistryError Registry :=
  if r.components.has component.id then
    .ok ({ r with components := r.components.delete component.id }.updateInstance instanceName
      (fun d => { d with components := d.components.filter (fun c => decide (c ≠ component)) }))
  else .error (.componentMissing component.id)

def hasComponent (id : String) : Bool := r.components.has id

def getComponent (id : String) : Except RegistryError Component :=
  match r.components.get id with
  | none => .error (.componentMissing id)
  | some d => .ok d.component

def getComponentsData : List ComponentData := r.components.values

variable {r} {n m : InstanceName}

theorem dataOf_updateInstance (f : InstanceData → InstanceData) :
    (r.updateInstance n f).dataOf m = if m = n then f (r.dataOf n) else r.dataOf m := by
  have hget : (r.updateInstance n f).dataOf m =
      ((if (f (r.dataOf n)).plugins = [] ∧ (f (r.dataOf n)).components =
        [] then r.instances.delete n
        else r.instances.set n (f (r.dataOf n))).get m).getD {} := rfl
  rw [hget]
  by_cases hm : m = n
  · subst hm
    rw [if_pos rfl]
    by_cases he : (f (r.dataOf m)).plugins = [] ∧ (f (r.dataOf m)).components = []
    · rw [if_pos he, get_delete_self, Option.getD_none, ← he.1, ← he.2]
    · rw [if_neg he, get_set_self, Option.getD_some]
  · rw [if_neg hm]
    split
    · rw [get_delete_ne _ hm]; rfl
    · rw [get_set_ne _ _ hm]; rfl

@[simp] theorem components_updateInstance (f : InstanceData → InstanceData) :
    (r.updateInstance n f).components = r.components := rfl

@[simp] theorem pluginsPerInstance_updateInstance (f : InstanceData → InstanceData) :
    (r.updateInstance n f).pluginsPerInstance = r.pluginsPerInstance := rfl

/-- The map and the sets of the instances hold the same pairs of an owner and a
component. -/
structure Coherent (r : Registry) : Prop where
  pairs : ∀ n c, c ∈ (r.dataOf n).components ↔
    r.components.get c.id = some { instanceName := n, component := c }
  ids : ∀ id d, r.components.get id = some d → d.component.id = id

theorem coherent_empty : Coherent {} := by
  constructor
  · intro n c
    simp [dataOf]
  · intro id d h
    cases h

theorem addComponent_ok {c : Component} (hc : r.components.get c.id = none) :
    ∃ r', r.addComponent n c = .ok r' ∧
      r'.components = r.components.set c.id { instanceName := n, component := c } ∧
      r'.pluginsPerInstance = r.pluginsPerInstance ∧
      ∀ m, r'.dataOf m = if m = n then { r.dataOf n with
        components := (r.dataOf n).components.insert c } else r.dataOf m := by
  exact ⟨_, if_neg (by simp [has, hc]), rfl, rfl, fun m => dataOf_updateInstance _⟩

theorem addComponent_error {c : Component} {d : ComponentData}
    (hc : r.components.get c.id = some d) :
    r.addComponent n c = .error (.componentExists c.id) := by
  rw [addComponent, if_pos (has_iff.mpr ⟨d, hc⟩)]

theorem removeComponent_ok {c : Component} {d : ComponentData}
    (hc : r.components.get c.id = some d) :
    ∃ r', r.removeComponent n c = .ok r' ∧ r'.components = r.components.delete c.id ∧
      r'.pluginsPerInstance = r.pluginsPerInstance ∧
      ∀ m, r'.dataOf m = if m = n then { r.dataOf n with
        components := (r.dataOf n).components.filter (fun c' => decide (c' ≠ c)) }
          else r.dataOf m := by
  exact ⟨_, if_pos (has_iff.mpr ⟨d, hc⟩), rfl, rfl, fun m => dataOf_updateInstance _⟩

theorem addPlugin_ok {p : Plugin} (hp : r.pluginsPerInstance.get (pluginKey n p.id) = none) :
    ∃ r', r.addPlugin n p = .ok r' ∧ r'.components = r.components ∧
      r'.pluginsPerInstance = r.pluginsPerInstance.set (pluginKey n p.id) p ∧
      ∀ m, r'.dataOf m = if m = n then { r.dataOf n with plugins := (r.dataOf n).plugins.insert p }
        else r.dataOf m := by
  exact ⟨_, if_neg (by simp [has, buildPluginId, hp]), rfl, rfl, fun m => dataOf_updateInstance _⟩

theorem removePlugin_ok {p q : Plugin} (hp : r.pluginsPerInstance.get (pluginKey n p.id) = some q) :
    ∃ r', r.removePlugin n p = .ok r' ∧ r'.components = r.components ∧
      r'.pluginsPerInstance = r.pluginsPerInstance.delete (pluginKey n p.id) ∧
      ∀ m, r'.dataOf m = if m = n then { r.dataOf n with
        plugins := (r.dataOf n).plugins.filter (fun p' => decide (p' ≠ p)) } else r.dataOf m := by
  exact ⟨_, if_pos (has_iff.mpr ⟨q, hp⟩), rfl, rfl, fun m => dataOf_updateInstance _⟩

theorem of_addComponent {c : Component} {r' : Registry} (h : r.addComponent n c = .ok r') :
    r.components.get c.id = none ∧
      r'.components = r.components.set c.id { instanceName := n, component := c } := by
  cases hc : r.components.get c.id with
  | some d =>
    rw [addComponent_error hc] at h
    cases h
  | none =>
    obtain ⟨r₁, hr₁, hcomp, _⟩ := addComponent_ok (n := n) hc
    rw [hr₁, Except.ok.injEq] at h
    exact ⟨rfl, h ▸ hcomp⟩

theorem of_removeComponent {c : Component} {r' : Registry} (h : r.removeComponent n c = .ok r') :
    (∃ d, r.components.get c.id = some d) ∧ r'.components = r.components.delete c.id := by
  cases hc : r.components.get c.id with
  | none =>
    rw [removeComponent, if_neg (by simp [has, hc])] at h
    cases h
  | some d =>
    obtain ⟨r₁, hr₁, hcomp, _⟩ := removeComponent_ok (n := n) hc
    rw [hr₁, Except.ok.injEq] at h
    exact ⟨⟨d, rfl⟩, h ▸ hcomp⟩

/-- What a successful `addComponent` leaves: one new pair. -/
theorem Coherent.add (hr : r.Coherent) {c : Component} {r' : Registry}
    (hc : r.components.get c.id = none)
    (hcomp : r'.components = r.components.set c.id { instanceName := n, component := c })
    (hdata : ∀ m, r'.dataOf m =
      if m = n then { r.dataOf n with components := (r.dataOf n).components.insert c }
      else r.dataOf m) :
    r'.Coherent := by
  constructor
  · intro m c'
    rw [hcomp, hdata, get_set_eq_some]
    have hold := hr.pairs m c'
    by_cases hm : m = n
    · subst hm
      simp only [if_true, List.mem_insert_iff, hold]
      constructor
      · rintro (rfl | h)
        · exact Or.inl ⟨rfl, rfl⟩
        · refine Or.inr ⟨?_, h⟩
          intro hid
          rw [hid, hc] at h
          cases h
      · rintro (⟨_, h⟩ | ⟨_, h⟩)
        · exact Or.inl (ComponentData.mk.inj h).2.symm
        · exact Or.inr h
    · simp only [if_neg hm, hold]
      constructor
      · intro h
        refine Or.inr ⟨?_, h⟩
        intro hid
        rw [hid, hc] at h
        cases h
      · rintro (⟨_, h⟩ | ⟨_, h⟩)
        · exact absurd (ComponentData.mk.inj h).1.symm hm
        · exact h
  · intro id d h
    rw [hcomp, get_set_eq_some] at h
    rcases h with ⟨rfl, rfl⟩ | ⟨_, h⟩
    · rfl
    · exact hr.ids id d h

/-- What `removeComponent` leaves when it is called for the owner: one pair less. -/
theorem Coherent.remove (hr : r.Coherent) {c : Component} {r' : Registry}
    (hc : r.components.get c.id = some { instanceName := n, component := c })
    (hcomp : r'.components = r.components.delete c.id)
    (hdata : ∀ m, r'.dataOf m = if m = n then { r.dataOf n with
      components := (r.dataOf n).components.filter (fun c' => decide (c' ≠ c)) } else r.dataOf m) :
    r'.Coherent := by
  constructor
  · intro m c'
    rw [hcomp, hdata, get_delete_eq_some]
    have hold := hr.pairs m c'
    by_cases hm : m = n
    · subst hm
      simp only [if_true, List.mem_filter, hold, decide_eq_true_eq]
      constructor
      · rintro ⟨h, hne⟩
        refine ⟨fun hid => ?_, h⟩
        rw [hid, hc, Option.some.injEq] at h
        exact hne (ComponentData.mk.inj h).2.symm
      · rintro ⟨hid, h⟩
        exact ⟨h, fun hcc => hid (by rw [hcc])⟩
    · simp only [if_neg hm, hold]
      refine ⟨fun h => ⟨?_, h⟩, fun h => h.2⟩
      intro hid
      rw [hid, hc, Option.some.injEq] at h
      exact hm (ComponentData.mk.inj h).1.symm
  · intro id d h
    rw [hcomp, get_delete_eq_some] at h
    exact hr.ids id d h.2

theorem Coherent.addComponent_ok (hr : r.Coherent) {c : Component} {r' : Registry}
    (h : r.addComponent n c = .ok r') :
    r.components.get c.id = none ∧ r'.Coherent ∧
      r'.components = r.components.set c.id { instanceName := n, component := c } ∧
      r'.pluginsPerInstance = r.pluginsPerInstance := by
  cases hc : r.components.get c.id with
  | some d =>
    rw [addComponent_error hc] at h
    cases h
  | none =>
    obtain ⟨r₁, hr₁, hcomp, hplug, hdata⟩ := Registry.addComponent_ok (n := n) hc
    rw [hr₁, Except.ok.injEq] at h
    subst h
    exact ⟨rfl, hr.add hc hcomp hdata, hcomp, hplug⟩

theorem Coherent.removeComponent_ok (hr : r.Coherent) {c : Component} {r' : Registry}
    (hc : r.components.get c.id = some { instanceName := n, component := c })
    (h : r.removeComponent n c = .ok r') :
    r'.Coherent ∧ r'.components = r.components.delete c.id ∧
      r'.pluginsPerInstance = r.pluginsPerInstance := by
  obtain ⟨r₁, hr₁, hcomp, hplug, hdata⟩ := Registry.removeComponent_ok (n := n) hc
  rw [hr₁, Except.ok.injEq] at h
  subst h
  exact ⟨hr.remove hc hcomp hdata, hcomp, hplug⟩

end Registry
end MylifeHome.Common
