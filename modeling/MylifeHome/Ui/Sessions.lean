import MylifeHome.Ui.Model

/-!
# The sessions of the UI

`SessionsManager` and `SessionsRegistryConnector` of `mylife-home-ui` send to every client
the components of the registry that the model requires, with the states it requires; the
registry reducer of the client puts them in its store. The messages are JSON texts, which
have no number that is not finite.
-/
namespace MylifeHome.Ui.Sessions

open MylifeHome.Lib OMap
open MylifeHome.Studio.Core (PluginUsage)

variable {V : Type}

abbrev ComponentStates (V : Type) := OMap String V

abbrev Reset (V : Type) := OMap String (ComponentStates V)

/-- A component object, with the listener that the connector may have on it. -/
structure Component (V : Type) where
  id : String
  usage : PluginUsage
  states : ComponentStates V
  listener : Bool := false

/-- The value of a state. A float state may be any number that the bus carries. -/
inductive StateValue where
  | null
  | bool (b : Bool)
  | number (q : ℚ)
  | nan
  | infinity (negative : Bool)
  | string (s : String)
  /-- The value of a complex state, which came from the bus as this JSON text. -/
  | object (json : String)
  deriving DecidableEq

/-- `JSON.parse` of `JSON.stringify`. -/
def StateValue.throughJson : StateValue → StateValue
  | .nan => .null
  | .infinity _ => .null
  | value => value

/-- The messages of a session. -/
inductive Message (V : Type) where
  | state (data : Reset V)
  | add (id : String) (attributes : ComponentStates V)
  | remove (id : String)
  | change (id name : String) (value : V)
  | modelHash (hash : String)

def Message.map {W : Type} (f : V → W) : Message V → Message W
  | .state data => .state (data.mapVal (·.mapVal f))
  | .add id attributes => .add id (attributes.mapVal f)
  | .remove id => .remove id
  | .change id name value => .change id name (f value)
  | .modelHash hash => .modelHash hash

/-- A message as the client reads it, after `Session.send`. -/
def Message.throughJson (message : Message StateValue) : Message StateValue :=
  message.map .throughJson

/-- The registry reducer of the client; it is not concerned with `modelHash`. -/
def reducer (state : Reset V) : Message V → Reset V
  | .state data => data
  | .add id attributes => state.set id attributes
  | .remove id => state.delete id
  | .change id name value => state.set id (((state.get id).getD ∅).set name value)
  | .modelHash _ => state

/-- The store of a client that received the messages. -/
def store (received : List (Message V)) : Reset V := received.foldl reducer ∅

/-- Objects are never reused: `components` holds all there were, and `registered` the number
of the one that is in the registry. A session is the list of what it was sent. -/
structure SessionsManager (V : Type) where
  components : List (Component V) := []
  registered : OMap String Nat := ∅
  model : ModelManager
  requiredComponentStates : OMap (Option String) (List (Option String)) := ∅
  counter : Nat := 0
  sessions : OMap Nat (List (Message V)) := ∅

inductive Event (V : Type) where
  /-- `Registry.addComponent` and `Registry.removeComponent`. -/
  | add (id : String) (usage : PluginUsage) (states : ComponentStates V)
  | remove (id : String)
  /-- A component object changes a state, in the registry or not. -/
  | state (component : Nat) (name : String) (value : V)
  /-- The model manager tells of an update. -/
  | modelUpdate (model : ModelManager)
  | newSocket
  | close (session : Nat)

/-- The map that `setRequiredComponentStates` builds. -/
def buildRequired (required : List RequiredComponentState) :
    OMap (Option String) (List (Option String)) :=
  required.foldl (fun m r =>
    m.set r.componentId (((m.get r.componentId).getD []).insert r.componentState)) ∅

namespace SessionsManager

variable (s : SessionsManager V)

def isRequiredComponent (component : Component V) : Bool :=
  s.requiredComponentStates.has (some component.id)

def isRequiredComponentState (componentId componentState : String) : Bool :=
  (s.requiredComponentStates.get (some componentId)).any fun requiredStates =>
    decide (some componentState ∈ requiredStates)

def getRequiredComponentStates (component : Component V) : ComponentStates V :=
  putEach (fun name value => if s.isRequiredComponentState component.id name then some value
    else none)
    component.states ∅

/-- The object of the registry. -/
def findComponent (id : String) : Option (Component V) :=
  (s.registered.get id).bind fun i => s.components[i]?

def broadcast (message : Message V) : SessionsManager V :=
  { s with sessions := s.sessions.mapVal (· ++ [message]) }

/-- The state that `sendState` sends. -/
def fullState : Reset V :=
  putEach (fun id _ => (s.findComponent id).bind fun component =>
    if component.usage = .ui ∧
      s.isRequiredComponent component then some (s.getRequiredComponentStates component) else none)
    s.registered ∅

def setListener (component : Nat) (listener : Bool) : SessionsManager V :=
  { s with components := s.components.modify component fun c => { c with listener } }

def onComponentAdd (i : Nat) (component : Component V) : SessionsManager V :=
  if component.usage ≠ .ui then s
  else
    let s := s.setListener i true
    if s.isRequiredComponent component then s.broadcast
      (.add component.id (s.getRequiredComponentStates component)) else s

def onComponentRemove (i : Nat) (component : Component V) : SessionsManager V :=
  if component.usage ≠ .ui then s
  else
    let s := s.setListener i false
    if s.isRequiredComponent component then s.broadcast (.remove component.id) else s

/-- The listener on the states of a component. -/
def onState (component : Component V) (name : String) (value : V) : SessionsManager V :=
  if component.listener ∧
    s.isRequiredComponentState component.id name then s.broadcast (.change component.id name value)
  else s

def setRequiredComponentStates (required : List RequiredComponentState) : SessionsManager V :=
  let s := { s with requiredComponentStates := buildRequired required }
  s.broadcast (.state s.fullState)

def onModelUpdate : SessionsManager V :=
  (s.setRequiredComponentStates s.model.requiredComponentStates).broadcast
    (.modelHash s.model.modelHash)

/-- The registry refuses an id that it has, and the removal of one that it does not have. -/
def step : Event V → SessionsManager V
  | .add id usage states =>
    if s.registered.has id then s
    else
      let component : Component V := { id, usage, states }
      { s with
        components := s.components ++ [component]
        registered := s.registered.set id s.components.length }.onComponentAdd s.components.length
          component
  | .remove id =>
    match s.registered.get id with
    | none => s
    | some i =>
      match s.components[i]? with
      | none => s
      | some component =>
        { s with registered := s.registered.delete id }.onComponentRemove i component
  | .state i name value =>
    match s.components[i]? with
    | none => s
    | some component =>
      { s with components := s.components.modify i fun c => { c with
        states := c.states.set name value } }.onState
        component name value
  | .modelUpdate model => { s with model }.onModelUpdate
  | .newSocket =>
    { s with
      counter := s.counter + 1
      sessions := s.sessions.set (s.counter + 1) [.state s.fullState,
        .modelHash s.model.modelHash] }
  | .close session => { s with sessions := s.sessions.delete session }

/-- The constructor, on the components that the registry has already. -/
def construct (components : List (Component V)) (model : ModelManager) : SessionsManager V :=
  SessionsManager.onModelUpdate
    { components := components.map fun c => { c with listener := decide (c.usage = .ui) }
      registered := (components.map Component.id).zipIdx.foldl (fun m e => m.set e.1 e.2) ∅
      model }

/-! ## What the clients are to see -/

/-- The components of the registry that are for the UI and that the model requires, with the
states that it requires. -/
def view (id : String) : Option (String → Option V) :=
  (s.findComponent id).bind fun component =>
    if component.usage = .ui ∧ some id ∈ s.model.requiredComponentStates.map (·.componentId) then
      some fun name =>
        if ⟨some id, some name⟩ ∈ s.model.requiredComponentStates then component.states.get name
        else none
    else none

/-- The view after a change of all values. -/
def mapView {W : Type} (f : V → W) (view : String → Option (String → Option V)) (id : String) :
    Option (String → Option W) := (view id).map fun attributes name => (attributes name).map f

/-- A store has these components with these states. -/
def Shows (store : Reset V) (view : String → Option (String → Option V)) : Prop :=
  ∀ id, (store.get id).map get = view id

section Values

variable {W : Type} {f : V → W} {view : String → Option (String → Option V)}

/-- The reducer does the same to messages whose values were changed. -/
theorem Shows.reducer_map {st : Reset V} {st' : Reset W}
    (h : Shows st' (mapView f fun id => (st.get id).map get)) (m : Message V) :
    Shows (reducer st' (m.map f)) (mapView f fun id => ((reducer st m).get id).map get) := by
  intro id
  have hid := h id
  have hmap : ∀ attributes : ComponentStates V,
      (attributes.mapVal f).get = fun name => (attributes.get name).map f :=
    fun attributes => funext fun name => get_mapVal f attributes name
  unfold mapView at hid ⊢
  cases m with
  | state data => simp [reducer, Message.map, get_mapVal, Function.comp_def, hmap]
  | add id' attributes =>
    simp only [reducer, Message.map, get_set]
    split
    · simp [hmap]
    · exact hid
  | remove id' =>
    simp only [reducer, Message.map, get_delete]
    split
    · rfl
    · exact hid
  | change id' name value =>
    simp only [reducer, Message.map, get_set]
    split
    next heq =>
      subst heq
      simp only [Option.map_some, Option.some.injEq]
      funext n
      simp only [get_set]
      split
      · rfl
      · cases hst : st.get id with
        | none =>
          simp only [hst, Option.map_none, Option.map_eq_none_iff] at hid
          simp [hid]
        | some attributes =>
          simp only [hst, Option.map_some] at hid
          obtain ⟨attributes', hst', heq⟩ := Option.map_eq_some_iff.mp hid
          simp [hst', heq]
    · exact hid
  | modelHash hash => exact hid

theorem store_map (sent : List (Message V)) :
    Shows (store (sent.map (Message.map f)))
      (mapView f fun id => ((store sent).get id).map get) := by
  induction sent using List.reverseRecOn with
  | nil => exact fun id => rfl
  | append_singleton sent m ih =>
    rw [List.map_append, store, store, List.foldl_append, List.foldl_append]
    exact Shows.reducer_map ih m

theorem Shows.map {sent : List (Message V)} (h : Shows (store sent) view) :
    Shows (store (sent.map (Message.map f))) (mapView f view) := by
  have hstore := store_map (f := f) sent
  rwa [show (fun id => ((store sent).get id).map get) = view from funext h] at hstore

end Values

section Required

variable {required : List RequiredComponentState}

theorem buildRequired_spec (x : Option String) :
    ((buildRequired required).has x = true ↔ x ∈ required.map (·.componentId)) ∧
      ∀ y, y ∈ ((buildRequired required).get x).getD [] ↔ ⟨x, y⟩ ∈ required := by
  unfold buildRequired
  induction required using List.reverseRecOn with
  | nil => simp [has]
  | append_singleton required r ih =>
    rw [List.foldl_append, List.foldl_cons, List.foldl_nil, has_set, get_set]
    by_cases hx : x = r.componentId
    · subst hx
      refine ⟨by simp, fun y => ?_⟩
      rw [if_pos rfl, Option.getD_some, List.mem_insert_iff, ih.2, List.mem_append,
        List.mem_singleton, or_comm]
      obtain ⟨x, z⟩ := r
      simp
    · refine ⟨by simp [hx, ih.1], fun y => ?_⟩
      rw [if_neg hx, ih.2]
      obtain ⟨x', z⟩ := r
      have hne : (⟨x, y⟩ : RequiredComponentState) ≠ ⟨x', z⟩ :=
        fun he => hx (RequiredComponentState.mk.inj he).1
      simp [hne]

end Required

/-- The connector knows what the model requires and listens to the components of the
registry that are for the UI, and the stores of the clients show them. -/
structure Mirrored : Prop where
  current : s.requiredComponentStates = buildRequired s.model.requiredComponentStates
  registered : ∀ (id : String) (i : Nat), s.registered.get id = some i →
    ∃ c, s.components[i]? = some c ∧ c.id = id ∧ c.listener = decide (c.usage = .ui)
  listens : ∀ (i : Nat) (c : Component V), s.components[i]? = some c → c.listener = true →
    s.registered.get c.id = some i
  shows : ∀ k received, s.sessions.get k = some received → Shows (store received) s.view

section Steps

variable {s} {s' : SessionsManager V}

theorem isRequiredComponent_iff
    (h : s.requiredComponentStates = buildRequired s.model.requiredComponentStates)
    (c : Component V) : s.isRequiredComponent c = true ↔
      some c.id ∈ s.model.requiredComponentStates.map (·.componentId) := by
  rw [isRequiredComponent, h]
  exact (buildRequired_spec _).1

theorem isRequiredComponentState_iff
    (h : s.requiredComponentStates = buildRequired s.model.requiredComponentStates)
    (id name : String) : s.isRequiredComponentState id name = true ↔
      ⟨some id, some name⟩ ∈ s.model.requiredComponentStates := by
  rw [isRequiredComponentState, h, ← (buildRequired_spec _).2]
  cases (buildRequired s.model.requiredComponentStates).get (some id) <;> simp

/-- The attributes that are sent for a component are its required states. -/
theorem get_getRequiredComponentStates
    (h : s.requiredComponentStates = buildRequired s.model.requiredComponentStates)
    (c : Component V) : (s.getRequiredComponentStates c).get = fun name =>
      if ⟨some c.id, some name⟩ ∈ s.model.requiredComponentStates then c.states.get name
      else none := by
  funext name
  rw [getRequiredComponentStates, get_putEach]
  simp only [isRequiredComponentState_iff h, get_empty, Option.or_none]
  split
  · cases c.states.get name <;> rfl
  · cases c.states.get name <;> rfl

theorem fullState_shows (h : s.requiredComponentStates =
    buildRequired s.model.requiredComponentStates)
    (hid : ∀ id c, s.findComponent id = some c → c.id = id) : Shows s.fullState s.view := by
  intro id
  rw [fullState, get_putEach, view]
  cases hget : s.registered.get id with
  | none => simp [findComponent, hget]
  | some i =>
    cases hc : s.findComponent id with
    | none => simp
    | some c =>
      obtain rfl := hid id c hc
      simp only [Option.bind_some, isRequiredComponent_iff h, get_empty, Option.or_none]
      split
      · rw [Option.map_some, get_getRequiredComponentStates h]
      · rfl

theorem Mirrored.id_of_find (h : s.Mirrored) (id : String) (c : Component V)
    (hc : s.findComponent id = some c) :
    c.id = id := by
  obtain ⟨i, hi, hc⟩ := Option.bind_eq_some_iff.mp hc
  obtain ⟨c', hc', hid, -⟩ := h.registered id i hi
  rw [Option.some.inj (hc.symm.trans hc')]
  exact hid

theorem store_concat (received : List (Message V)) (m : Message V) :
    store (received ++ [m]) = reducer (store received) m := by
  rw [store, List.foldl_append]
  rfl

/-- The stores follow a message that takes one view to another. -/
theorem shows_broadcast {v v' : String → Option (String → Option V)} {m : Message V}
    (h : ∀ k received, s.sessions.get k = some received → Shows (store received) v)
    (hm : ∀ st : Reset V, Shows st v → Shows (reducer st m) v') :
    ∀ k received, (s.broadcast m).sessions.get k = some received → Shows (store received) v' := by
  intro k received hk
  rw [broadcast, get_mapVal] at hk
  obtain ⟨received', hk', rfl⟩ := Option.map_eq_some_iff.mp hk
  rw [store_concat]
  exact hm _ (h k received' hk')

/-- The view of an id depends on its component in the registry. -/
theorem view_congr {id : String} (hmodel : s'.model = s.model)
    (hfind : (s'.findComponent id).map (fun c => (c.usage, c.states)) =
      (s.findComponent id).map fun c => (c.usage, c.states)) :
    s'.view id = s.view id := by
  unfold view
  rw [hmodel]
  cases hc : s.findComponent id with
  | none =>
    rw [hc] at hfind
    rw [Option.map_eq_none_iff.mp hfind]
  | some c =>
    rw [hc] at hfind
    obtain ⟨c', hc', heq⟩ := Option.map_eq_some_iff.mp hfind
    obtain ⟨husage, hstates⟩ := Prod.mk.inj heq
    simp only [hc', Option.bind_some, husage, hstates]

theorem modify_concat {α : Type} (l : List α) (a : α) (f : α → α) :
    (l ++ [a]).modify l.length f = l ++ [f a] := by
  induction l with
  | nil => rfl
  | cons b l ih => simp [ih]

theorem modify_eq_self {α : Type} {l : List α} {a : α} {i : Nat} {f : α → α} (hi : l[i]? = some a)
    (hf : f a = a) :
    l.modify i f = l := by
  refine List.ext_getElem? fun j => ?_
  rw [List.getElem?_modify]
  by_cases hij : i = j
  · subst hij
    simp [hi, hf]
  · simp [hij]

theorem getElem?_concat_of_some {α : Type} {l : List α} {a b : α} {i : Nat} (h : l[i]? = some b) :
    (l ++ [a])[i]? = some b := by
  rw [List.getElem?_append_left (List.getElem?_eq_some_iff.mp h).1, h]

section Add

variable {id : String} {usage : PluginUsage} {states : ComponentStates V}

/-- A component is added: the registry and the listener. -/
def added (s : SessionsManager V) (component : Component V) : SessionsManager V :=
  { s with
    components := s.components ++ [{ component with listener := decide (component.usage = .ui) }]
    registered := s.registered.set component.id s.components.length }

theorem step_add (hid : s.registered.has id = false) : s.step (.add id usage states) =
    let s' := s.added { id, usage, states }
    if usage = .ui ∧ s.requiredComponentStates.has (some id) then
      s'.broadcast (.add id (s'.getRequiredComponentStates { id, usage, states }))
    else s' := by
  simp only [step, hid, Bool.false_eq_true, if_false, onComponentAdd, added]
  by_cases husage : usage = .ui
  · subst husage
    simp only [ne_eq, not_true_eq_false, if_false, setListener, modify_concat, isRequiredComponent,
      true_and, decide_true]
  · simp [husage]

theorem findComponent_added (h : s.Mirrored) (component : Component V) (id : String) :
    (s.added component).findComponent id =
      if id = component.id then some { component with listener := decide (component.usage = .ui) }
      else s.findComponent id := by
  unfold findComponent added
  rw [get_set]
  split
  · simp
  · cases hi : s.registered.get id with
    | none => rfl
    | some i =>
      obtain ⟨c, hc, -⟩ := h.registered id i hi
      simp only [Option.bind_some, hc]
      exact getElem?_concat_of_some hc

theorem Mirrored.add (h : s.Mirrored) : (s.step (.add id usage states)).Mirrored := by
  cases hid : s.registered.has id with
  | true =>
    simp only [step, hid, if_true]
    exact h
  | false =>
    have hnone : s.registered.get id = none := has_eq_false.mp hid
    have hfind := findComponent_added h { id, usage, states }
    -- the store of a client gets the component, if it is to show it
    have hother : ∀ {id'}, id' ≠ id → (s.added { id, usage, states }).view id' = s.view id' :=
      fun hne =>
      view_congr rfl (by rw [hfind, if_neg hne])
    have hself : (s.added { id, usage, states }).view id =
        if usage = .ui ∧ some id ∈ s.model.requiredComponentStates.map (·.componentId) then
          some fun name => if ⟨some id, some name⟩ ∈ s.model.requiredComponentStates then states.get
            name else none
        else none := by
      rw [view, hfind, if_pos rfl]
      rfl
    have hbefore : s.view id = none := by simp [view, findComponent, hnone]
    have hregistered : ∀ (id' : String) (i : Nat), (s.added { id, usage, states }).registered.get
      id' = some i →
        ∃ c, (s.added { id, usage, states }).components[i]? = some c ∧ c.id = id' ∧
          c.listener = decide (c.usage = .ui) := by
      intro id' i hi
      obtain ⟨rfl, rfl⟩ | ⟨-, hi⟩ := get_set_eq_some.mp hi
      · exact ⟨{ id := id', usage, states, listener := decide (usage = .ui) }, by simp [added],
          rfl, rfl⟩
      · obtain ⟨c, hc, hrest⟩ := h.registered id' i hi
        exact ⟨c, getElem?_concat_of_some hc, hrest⟩
    have hlistens : ∀ (i : Nat) (c : Component V), (s.added { id, usage, states }).components[i]? =
      some c →
        c.listener = true → (s.added { id, usage, states }).registered.get c.id = some i := by
      intro i c hc hl
      rw [added, List.getElem?_append] at hc
      split at hc
      · have hget := h.listens i c hc hl
        have hne : c.id ≠ id := fun he => by rw [he, hnone] at hget; cases hget
        exact (get_set_ne _ _ hne).trans hget
      · rw [List.getElem?_singleton] at hc
        split at hc
        next hlt hi =>
          obtain rfl := Option.some.inj hc
          rw [show i = s.components.length from by omega]
          exact get_set_self ..
        · cases hc
    rw [step_add hid]
    dsimp only
    split
    next hshown =>
      have hshown' : usage = .ui ∧
          some id ∈ s.model.requiredComponentStates.map (·.componentId) := by
        rwa [h.current, (buildRequired_spec _).1] at hshown
      refine ⟨h.current, hregistered, hlistens, shows_broadcast h.shows fun st hst id' => ?_⟩
      rw [reducer, get_set]
      by_cases hne : id' = id
      · subst hne
        rw [if_pos rfl, Option.map_some,
          get_getRequiredComponentStates (s := s.added { id := id', usage, states }) h.current]
        exact (hself.trans (if_pos hshown')).symm
      · rw [if_neg hne]
        exact (hst id').trans (hother hne).symm
    next hhidden =>
      have hhidden' : ¬ (usage = .ui ∧
          some id ∈ s.model.requiredComponentStates.map (·.componentId)) := by
        rwa [h.current, (buildRequired_spec _).1] at hhidden
      refine ⟨h.current, hregistered, hlistens, fun k received hk id' => ?_⟩
      by_cases hne : id' = id
      · subst hne
        rw [hself, if_neg hhidden', ← hbefore]
        exact h.shows k received hk id'
      · rw [hother hne]
        exact h.shows k received hk id'

end Add

section Remove

variable {id : String} {i : Nat} {component : Component V}

/-- A component is removed: the registry and the listener. -/
def removed (s : SessionsManager V) (id : String) (i : Nat) : SessionsManager V :=
  { s with
    components := s.components.modify i fun c => { c with listener := false }
    registered := s.registered.delete id }

theorem step_remove (h : s.Mirrored) (hget : s.registered.get id = some i)
    (hi : s.components[i]? = some component) :
    s.step (.remove id) =
      if component.usage = .ui ∧
        s.requiredComponentStates.has (some id) then (s.removed id i).broadcast (.remove id)
      else s.removed id i := by
  obtain ⟨c, hc, hid, hl⟩ := h.registered id i hget
  obtain rfl := Option.some.inj (hi.symm.trans hc)
  simp only [step, hget, hi, onComponentRemove, removed]
  by_cases husage : component.usage = .ui
  · simp only [husage, ne_eq, not_true_eq_false, if_false, setListener, isRequiredComponent,
      true_and, hid]
  · have hsame : s.components.modify i (fun c => { c with listener := false }) = s.components := by
      have hl : component.listener = false := by simpa [husage] using hl
      refine modify_eq_self hi ?_
      rw [← hl]
    simp [husage, hsame]

theorem Mirrored.remove (h : s.Mirrored) (id : String) : (s.step (.remove id)).Mirrored := by
  cases hget : s.registered.get id with
  | none =>
    simp only [step, hget]
    exact h
  | some i =>
    obtain ⟨c, hc, hid, -⟩ := h.registered id i hget
    have hother : ∀ {id'}, id' ≠ id → (s.removed id i).view id' = s.view id' := by
      intro id' hne
      refine view_congr rfl ?_
      unfold findComponent removed
      rw [get_delete_ne _ hne]
      cases s.registered.get id' with
      | none => rfl
      | some j =>
        simp only [Option.bind_some, List.getElem?_modify]
        cases s.components[j]? with
        | none => rfl
        | some c' => by_cases hij : i = j <;> simp [hij]
    have hself : (s.removed id i).view id = none := by simp [view, findComponent, removed]
    have hregistered : ∀ (id' : String) (j : Nat), (s.removed id i).registered.get id' = some j →
        ∃ c, (s.removed id i).components[j]? = some c ∧ c.id = id' ∧
          c.listener = decide (c.usage = .ui) := by
      intro id' j hj
      obtain ⟨hne, hj⟩ := get_delete_eq_some.mp hj
      obtain ⟨c', hc', hid', hl⟩ := h.registered id' j hj
      have hij : i ≠ j := by
        rintro rfl
        rw [Option.some.inj (hc'.symm.trans hc), hid] at hid'
        exact hne hid'.symm
      exact ⟨c', by simp [removed, hij, hc'], hid', hl⟩
    have hlistens : ∀ (j : Nat) (c' : Component V), (s.removed id i).components[j]? = some c' →
      c'.listener = true →
        (s.removed id i).registered.get c'.id = some j := by
      intro j c' hc' hl
      rw [removed, List.getElem?_modify] at hc'
      obtain ⟨c'', hc'', rfl⟩ := Option.map_eq_some_iff.mp hc'
      by_cases hij : i = j
      · simp [hij] at hl
      · simp only [hij, if_false] at hl ⊢
        have hj := h.listens j c'' hc'' hl
        have hne : c''.id ≠ id := fun he => hij (Option.some.inj (hget.symm.trans (he ▸ hj)))
        exact (get_delete_ne _ hne).trans hj
    rw [step_remove h hget hc]
    split
    · refine ⟨h.current, hregistered, hlistens, shows_broadcast h.shows fun st hst id' => ?_⟩
      rw [reducer, get_delete]
      by_cases hne : id' = id
      · subst hne
        rw [if_pos rfl]
        exact hself.symm
      · rw [if_neg hne]
        exact (hst id').trans (hother hne).symm
    next hhidden =>
      have hbefore : s.view id = none := by
        rw [h.current, (buildRequired_spec _).1] at hhidden
        simp only [view, findComponent, hget, Option.bind_some, hc]
        exact if_neg hhidden
      refine ⟨h.current, hregistered, hlistens, fun k received hk id' => ?_⟩
      by_cases hne : id' = id
      · subst hne
        rw [hself, ← hbefore]
        exact h.shows k received hk id'
      · rw [hother hne]
        exact h.shows k received hk id'

end Remove

section State

variable {i : Nat} {name : String} {value : V}

/-- An object changes a state. -/
def changed (s : SessionsManager V) (i : Nat) (name : String) (value : V) : SessionsManager V :=
  { s with components := s.components.modify i fun c => { c with
    states := c.states.set name value } }

theorem view_changed (id : String) : (s.changed i name value).view id =
    if s.registered.get id = some i then
      (s.view id).map fun attributes n =>
        if n = name ∧ ⟨some id, some name⟩ ∈ s.model.requiredComponentStates then some value
        else attributes n
    else s.view id := by
  unfold view findComponent changed
  cases hget : s.registered.get id with
  | none => rfl
  | some j =>
    simp only [Option.bind_some, List.getElem?_modify]
    by_cases hij : i = j
    · subst hij
      cases s.components[i]? with
      | none => simp
      | some c =>
        simp only [if_true, Option.map_eq_map, Option.map_some, Option.bind_some]
        split
        · rw [Option.map_some]
          congr 1
          funext n
          rw [get_set]
          by_cases hn : n = name
          · subst hn
            by_cases hreq : (⟨some id, some n⟩ : RequiredComponentState) ∈
              s.model.requiredComponentStates <;> simp [hreq]
          · simp [hn]
        · rfl
    · have hji : ¬ j = i := fun he => hij he.symm
      cases s.components[j]? <;> simp [hij, hji]

theorem Mirrored.state (h : s.Mirrored) : (s.step (.state i name value)).Mirrored := by
  cases hc : s.components[i]? with
  | none =>
    simp only [step, hc]
    exact h
  | some c =>
    have hback : ∀ {j : Nat} {c' : Component V}, (s.changed i name value).components[j]? = some c' →
        ∃ c'', s.components[j]? = some c'' ∧ c'.id = c''.id ∧ c'.listener = c''.listener := by
      intro j c' hc'
      rw [changed, List.getElem?_modify] at hc'
      obtain ⟨c'', hc'', rfl⟩ := Option.map_eq_some_iff.mp hc'
      refine ⟨c'', hc'', ?_⟩
      split <;> exact ⟨rfl, rfl⟩
    have hregistered : ∀ (id : String) (j : Nat), (s.changed i name value).registered.get id =
      some j →
        ∃ c, (s.changed i name value).components[j]? = some c ∧ c.id = id ∧
          c.listener = decide (c.usage = .ui) := by
      intro id j hj
      obtain ⟨c', hc', hrest⟩ := h.registered id j hj
      refine ⟨if i = j then { c' with states := c'.states.set name value } else c', ?_, ?_⟩
      · rw [changed, List.getElem?_modify, hc']
        rfl
      · split <;> exact hrest
    have hlistens : ∀ (j : Nat) (c' : Component V), (s.changed i name value).components[j]? =
      some c' →
        c'.listener = true → (s.changed i name value).registered.get c'.id = some j := by
      intro j c' hc' hl
      obtain ⟨c'', hc'', hid, hl'⟩ := hback hc'
      rw [hid]
      exact h.listens j c'' hc'' (hl'.symm.trans hl)
    have hstep : s.step (.state i name value) = (s.changed i name value).onState c name value := by
      simp only [step, hc, changed]
    rw [hstep, onState]
    split
    next hshown =>
      have hget := h.listens i c hc hshown.1
      have hreq : ⟨some c.id, some name⟩ ∈ s.model.requiredComponentStates :=
        (isRequiredComponentState_iff (s := s.changed i name value) h.current c.id name).mp hshown.2
      refine ⟨h.current, hregistered, hlistens, shows_broadcast h.shows fun st hst id => ?_⟩
      rw [reducer, get_set]
      have hview := @view_changed _ s i name value id
      by_cases hid : id = c.id
      · subst hid
        rw [if_pos hget, ← hst c.id] at hview
        have hsome : (s.view c.id).isSome = true := by
          obtain ⟨c', hc', -, hl⟩ := h.registered c.id i hget
          obtain rfl := Option.some.inj (hc.symm.trans hc')
          have husage : c.usage = .ui := by simpa [hshown.1] using hl
          simp only [view, findComponent, hget, Option.bind_some, hc]
          rw [if_pos ⟨husage, List.mem_map.mpr ⟨_, hreq, rfl⟩⟩]
          rfl
        rw [← hst c.id, Option.isSome_map] at hsome
        obtain ⟨attributes, hattributes⟩ := Option.isSome_iff_exists.mp hsome
        rw [hattributes, Option.map_some, Option.map_some] at hview
        rw [if_pos rfl, hattributes, Option.getD_some, Option.map_some]
        refine Eq.trans ?_ hview.symm
        congr 1
        funext n
        rw [get_set]
        simp [hreq]
      · have hne : s.registered.get id ≠ some i := by
          intro hi
          obtain ⟨c', hc', hid', -⟩ := h.registered id i hi
          obtain rfl := Option.some.inj (hc.symm.trans hc')
          exact hid hid'.symm
        rw [if_neg hne] at hview
        rw [if_neg hid]
        exact (hst id).trans hview.symm
    next hhidden =>
      refine ⟨h.current, hregistered, hlistens, fun k received hk id => ?_⟩
      rw [h.shows k received hk id, view_changed]
      split
      next hi =>
        obtain ⟨c', hc', rfl, hl⟩ := h.registered id i hi
        obtain rfl := Option.some.inj (hc.symm.trans hc')
        by_cases husage : c.usage = .ui
        · have hreq : ⟨some c.id, some name⟩ ∉ s.model.requiredComponentStates := fun hreq =>
            hhidden ⟨by simp [hl, husage],
              (isRequiredComponentState_iff (s := s.changed i name value) h.current c.id name).mpr
                hreq⟩
          simp [hreq]
        · simp [view, findComponent, hi, hc, husage]
      · rfl

end State

theorem Mirrored.onModelUpdate
    (hregistered : ∀ (id : String) (i : Nat), s.registered.get id = some i →
      ∃ c, s.components[i]? = some c ∧ c.id = id ∧ c.listener = decide (c.usage = .ui))
    (hlistens : ∀ (i : Nat) (c : Component V), s.components[i]? = some c → c.listener = true →
      s.registered.get c.id = some i) :
    s.onModelUpdate.Mirrored := by
  have hfull : Shows (fullState { s with
      requiredComponentStates := buildRequired s.model.requiredComponentStates }) s.view := by
    refine fullState_shows (s := { s with requiredComponentStates := _ }) rfl fun id c hc => ?_
    obtain ⟨i, hi, hc⟩ := Option.bind_eq_some_iff.mp hc
    obtain ⟨c', hc', hid, -⟩ := hregistered id i hi
    rw [Option.some.inj (hc.symm.trans hc')]
    exact hid
  refine ⟨rfl, hregistered, hlistens, shows_broadcast (v := s.view) ?_ fun st hst => hst⟩
  intro k received hk
  rw [setRequiredComponentStates, broadcast, get_mapVal] at hk
  obtain ⟨received', -, rfl⟩ := Option.map_eq_some_iff.mp hk
  rw [store_concat]
  exact hfull

theorem Mirrored.newSocket (h : s.Mirrored) : (s.step .newSocket).Mirrored := by
  refine ⟨h.current, h.registered, h.listens, fun k received hk => ?_⟩
  obtain ⟨-, rfl⟩ | ⟨-, hk⟩ := get_set_eq_some.mp hk
  · exact fullState_shows h.current h.id_of_find
  · exact h.shows k received hk

theorem Mirrored.close (h : s.Mirrored) (session : Nat) : (s.step (.close session)).Mirrored :=
  ⟨h.current, h.registered, h.listens,
    fun k received hk => h.shows k received (get_delete_eq_some.mp hk).2⟩

theorem Mirrored.step (h : s.Mirrored) (e : Event V) : (s.step e).Mirrored := by
  cases e with
  | add id usage states => exact h.add
  | remove id => exact h.remove id
  | state i name value => exact h.state
  | modelUpdate model => exact .onModelUpdate h.registered h.listens
  | newSocket => exact h.newSocket
  | close session => exact h.close session

theorem construct_mirrored {components : List (Component V)}
    (h : (components.map Component.id).Nodup)
    (model : ModelManager) : (construct components model).Mirrored := by
  have hget : ∀ (id : String) (i : Nat),
      ((components.map Component.id).zipIdx.foldl (fun m e => m.set e.1 e.2)
        (∅ : OMap String Nat)).get id = some i ↔
        ∃ c, components[i]? = some c ∧ c.id = id := by
    intro id i
    rw [← mem_entries, entries_foldl_set _ (by simpa [List.zipIdx_map_fst] using h), entries_empty,
      List.nil_append, List.mem_zipIdx_iff_getElem?]
    simp
  refine .onModelUpdate (fun id i hi => ?_) fun i c hc _ => ?_
  · obtain ⟨c, hc, rfl⟩ := (hget id i).mp hi
    exact ⟨{ c with listener := decide (c.usage = .ui) }, by simp [hc], rfl, rfl⟩
  · rw [List.getElem?_map] at hc
    obtain ⟨c', hc', rfl⟩ := Option.map_eq_some_iff.mp hc
    exact (hget c'.id i).mpr ⟨c', hc', rfl⟩

end Steps

def lampModel : ModelManager where
  modelHash := "hash"
  resources := ∅
  requiredComponentStates := [⟨some "lamp", some "on"⟩]

def lamp : Component StateValue where
  id := "lamp"
  usage := .ui
  states := .ofList [("on", .bool false), ("broken", .bool false)]

end SessionsManager

end MylifeHome.Ui.Sessions
