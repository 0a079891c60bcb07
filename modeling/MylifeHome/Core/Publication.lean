import MylifeHome.Bus.Client

/-!
# The publication of the local components on the bus

`BusPublisher` of `mylife-home-core` over `Components` of `mylife-home-common`: a
`BusComponent` object for each local component, the `LocalComponent` objects of the
transport, and the functions `setOnline` and `setOffline` that are running, each
stopped at an await. A publication is sent in the order of the calls, so the last
metadata message of an id is that of the last call.
-/
namespace MylifeHome.Core.Publication

open MylifeHome.Lib MylifeHome.Bus

/-- A member of the plugin, in the order of `plugin.members`. -/
structure Member where
  name : String
  isAction : Bool
  deriving DecidableEq

/-- What runs when the promise is resolved: the rest of the loop of `setOnline`, or the
end of `removeLocalComponent` under `setOffline`. -/
inductive Continuation where
  | setOnline (rest : List Member)
  | setOffline
  deriving DecidableEq

/-- The object of a local component, which stays after `close` for what is still
running on it. -/
structure BusComponent where
  id : String
  members : List Member
  /-- A `LocalComponent` object. -/
  transportComponent : Option Nat := none
  pending : List Continuation := []
  /-- It was removed from the registry, and the component is destroyed. -/
  closed : Bool := false
  deriving DecidableEq

structure Publisher where
  instanceName : String
  online : Bool := false
  /-- `Components.localComponents`. -/
  localComponents : OMap String Nat := ∅
  /-- Each `LocalComponent` object, as the topics of its `subscriptions`. -/
  localObjects : List (List String) := []
  /-- The subscriptions of the client. -/
  subscriptions : List String := []
  components : List BusComponent := []
  /-- The last message of `components/<id>`: a set, or a clear. -/
  metadata : OMap String Bool := ∅
  /-- An asynchronous function was rejected. -/
  failed : Bool := false

namespace Publisher

variable (s : Publisher)

def fail : Publisher := { s with failed := true }

def await (k : Nat) (c : Continuation) : Publisher :=
  { s with components := s.components.modify k fun b => { b with pending := b.pending ++ [c] } }

def setTransportComponent (k : Nat) (l : Option Nat) : Publisher :=
  { s with components := s.components.modify k fun b => { b with transportComponent := l } }

def publishMeta (id : String) : Publisher := { s with metadata := s.metadata.set id true }

def unpublishMeta (id : String) : Publisher := { s with metadata := s.metadata.set id false }

/-- `registerAction` of the object `l`, called by the loop of `setOnline`. -/
def registerAction (l : Nat) (topic : String) (k : Nat) (rest : List Member) : Publisher :=
  let topics := s.localObjects[l]?.getD []
  if topic ∈ topics then s.fail
  else
    { s with localObjects := s.localObjects.set l (topics ++ [topic])
             subscriptions := s.subscriptions ∪ [topic] }.await k (.setOnline rest)

/-- The loop of `setOnline` on the members that are left, up to its next await. -/
def register (k : Nat) (b : BusComponent) : List Member → Publisher
  | [] => s.publishMeta b.id
  | m :: rest =>
    if m.isAction then
      match b.transportComponent with
      | none => s.fail
      | some l => s.registerAction l (componentTopic s.instanceName b.id m.name) k rest
    -- `getState` of a destroyed component, and `onStateChange`
    else if b.closed || (s.online && b.transportComponent.isNone) then s.fail
    else register k b rest

def setOnline (k : Nat) (b : BusComponent) : Publisher :=
  if s.localComponents.has b.id then s.fail
  else
    let l := s.localObjects.length
    ({ s with localComponents := s.localComponents.set b.id l
              localObjects := s.localObjects ++ [[]] }.setTransportComponent k (some l)).register k
      { b with transportComponent := some l } b.members

def setOffline (k : Nat) (b : BusComponent) : Publisher :=
  let s := s.setTransportComponent k none
  match s.localComponents.get b.id with
  | none => s.fail
  | some l =>
    let topics := s.localObjects[l]?.getD []
    { s with subscriptions := s.subscriptions.filter fun t => decide (t ∉ topics) }.await k
      .setOffline

def onOnlineChange (k : Nat) (b : BusComponent) (online : Bool) : Publisher :=
  if online then s.setOnline k b else s.setOffline k b

/-- `BusPublisher.onComponentAdd`. -/
def onComponentAdd (id : String) (members : List Member) : Publisher :=
  let b : BusComponent := { id, members }
  let s := { s with components := s.components ++ [b] }
  if s.online then s.onOnlineChange (s.components.length - 1) b true else s

/-- `BusPublisher.onComponentRemove`. -/
def onComponentRemove (k : Nat) (b : BusComponent) : Publisher :=
  let s := s.unpublishMeta b.id
  let s := { s with components := s.components.modify k fun b => { b with closed := true } }
  if s.online then s.onOnlineChange k b false else s

/-- One turn of the loop of `BusPublisher.onOnlineChange`, which goes over the objects
that are not closed. -/
def changeOne (online : Bool) (s : Publisher) (k : Nat) : Publisher :=
  match s.components[k]? with
  | none => s
  | some b => if b.closed then s else s.onOnlineChange k b online

/-- The transport goes online or offline. -/
def changeOnline (online : Bool) : Publisher :=
  (List.range s.components.length).foldl (changeOne online) { s with online }

/-- The promise awaited at index `i` of the object `k` is resolved. -/
def resolve (k i : Nat) : Publisher :=
  match s.components[k]? with
  | none => s
  | some b =>
    match b.pending[i]? with
    | none => s
    | some c =>
      let s := { s with components := s.components.modify k fun b => { b with
        pending := b.pending.eraseIdx i } }
      match c with
      | .setOnline rest => s.register k { b with pending := b.pending.eraseIdx i } rest
      | .setOffline => { s with localComponents := s.localComponents.delete b.id }

inductive Event where
  | add (id : String) (members : List Member)
  | remove (k : Nat)
  | onlineChange (online : Bool)
  | resolve (k i : Nat)

def step (s : Publisher) : Event → Publisher
  | .add id members => s.onComponentAdd id members
  | .remove k =>
    match s.components[k]? with
    | none => s
    | some b => s.onComponentRemove k b
  | .onlineChange online => s.changeOnline online
  | .resolve k i => s.resolve k i

def init (instanceName : String) : Publisher := { instanceName }

/-- A component with that id is registered locally. -/
def Registers (id : String) : Prop := ∃ b ∈ s.components, b.id = id ∧ b.closed = false

/-- Nothing is awaited. -/
def Settled : Prop := ∀ b ∈ s.components, b.pending = []

/-- What can happen: the registry refuses an id it has, and a member has one entry in
the object of the members; only what is registered is removed. -/
def Enabled (s : Publisher) : Event → Prop
  | .add id members => (∀ b ∈ s.components, b.id = id → b.closed = true) ∧
    (members.map (·.name)).Nodup
  | .remove k => ∃ b ∈ s.components[k]?, b.closed = false
  | .onlineChange online => online ≠ s.online
  | .resolve k i => ∃ b ∈ s.components[k]?, i < b.pending.length

/-- The topics of its actions. -/
def actionTopics (instanceName id : String) (members : List Member) : List String :=
  (members.filter (·.isAction)).map fun m => componentTopic instanceName id m.name

/-- An id has what it should have on the bus: when registered, a `LocalComponent` object
with every action subscribed and a metadata, and nothing otherwise. -/
structure InPlace (id : String) : Prop where
  present : ∀ b ∈ s.components, b.id = id → b.closed = false →
    ∃ l topics, s.localComponents.get id = some l ∧ s.localObjects[l]? = some topics ∧
      (∀ t ∈ actionTopics s.instanceName id b.members, t ∈ topics ∧ t ∈ s.subscriptions) ∧
        s.metadata.get id = some true
  absent : ¬ s.Registers id → s.localComponents.get id = none ∧ s.metadata.get id ≠ some true

/-! ## The phases of a component -/

/-- No `/` in the id and in the names, so that two actions never have one topic. -/
structure Named (id : String) (members : List Member) : Prop where
  id : '/' ∉ id.toList
  names : ∀ m ∈ members, '/' ∉ m.name.toList
  nodup : (members.map (·.name)).Nodup

variable {s}

theorem componentTopic_inj {instanceName id id' name name' : String} (hi : '/' ∉ id.toList)
    (hi' : '/' ∉ id'.toList) (hn : '/' ∉ name.toList) (hn' : '/' ∉ name'.toList)
    (h : componentTopic instanceName id name = componentTopic instanceName id' name') : id = id' ∧
      name = name' := by
  have hs : ∀ i n : String, componentTopic instanceName i n = instanceName ++ "/components/" ++
      (i ++ "/" ++ n) := by
    intro i n
    apply String.toList_injective
    simp [componentTopic, buildTopic]
  rw [hs, hs] at h
  have ht : id ++ "/" ++ name = id' ++ "/" ++ name' := by
    apply String.toList_injective
    have hl := congrArg String.toList h
    simp only [String.toList_append, List.append_assoc, List.append_cancel_left_eq] at hl
    simpa only [String.toList_append, List.append_assoc] using hl
  have hl : Text.split (id ++ "/" ++ name) '/' = [id, name] :=
    Text.split_of_toList (by simp [hi, hn]) (by simp) (by simp)
  have hl' : Text.split (id' ++ "/" ++ name') '/' = [id', name'] :=
    Text.split_of_toList (by simp [hi', hn']) (by simp) (by simp)
  rw [ht, hl'] at hl
  simp at hl
  exact ⟨hl.1.symm, hl.2.symm⟩

/-- The object `l` of the transport is that of the id, with the actions of `members`
registered and subscribed. -/
structure Registered (s : Publisher) (id : String) (l : Nat) (members : List Member) : Prop where
  get : s.localComponents.get id = some l
  topics : s.localObjects[l]? = some (actionTopics s.instanceName id members)
  subscribed : ∀ t ∈ actionTopics s.instanceName id members, t ∈ s.subscriptions

/-- Where an object is, `on` telling whether it was last told to go online. -/
inductive Phase (s : Publisher) (on : Bool) (b : BusComponent) : Prop where
  | idle (hc : b.closed = true ∨ on = false) (hp : b.pending = [])
    (ht : b.transportComponent = none)
  | leaving (hc : b.closed = true ∨ on = false) (hp : b.pending = [.setOffline])
    (ht : b.transportComponent = none)
      (l : Nat) (hl : s.localComponents.get b.id = some l)
  | joining (hc : b.closed = false) (ho : on = true) (done rest : List Member)
    (hm : b.members = done ++ rest)
      (hp : b.pending = [.setOnline rest]) (l : Nat) (ht : b.transportComponent = some l)
      (hr : Registered s b.id l done)
  | published (hc : b.closed = false) (ho : on = true) (hp : b.pending = []) (l : Nat)
      (ht : b.transportComponent = some l) (hr : Registered s b.id l b.members)
      (hm : s.metadata.get b.id = some true)

/-- It is registered, or something is still running on it. -/
def Busy (b : BusComponent) : Prop := b.closed = false ∨ b.pending ≠ []

/-- It has a `LocalComponent` object. -/
def Holds (on : Bool) (b : BusComponent) : Prop := b.pending ≠ [] ∨ (b.closed = false ∧ on = true)

structure Good (on : Nat → Bool) (s : Publisher) : Prop where
  ok : s.failed = false
  named : ∀ (k : Nat) (b : BusComponent), s.components[k]? = some b → Named b.id b.members
  phase : ∀ (k : Nat) (b : BusComponent), s.components[k]? = some b → Phase s (on k) b
  apart : ∀ (j k : Nat) (a b : BusComponent), s.components[j]? = some a →
    s.components[k]? = some b → a.id = b.id →
    Busy a → Busy b → j = k
  held : ∀ id l, s.localComponents.get id = some l →
    ∃ (k : Nat) (b : BusComponent), s.components[k]? = some b ∧ b.id = id ∧ Holds (on k) b
  range : ∀ id l, s.localComponents.get id = some l → l < s.localObjects.length
  inj : ∀ id id' l, s.localComponents.get id = some l → s.localComponents.get id' = some l →
    id = id'
  announced : ∀ id, s.metadata.get id = some true →
    ∃ (k : Nat) (b : BusComponent), s.components[k]? = some b ∧ b.id = id ∧ b.closed = false

/-- `s'` has what `s` has for an id. -/
structure SameAt (s s' : Publisher) (id : String) : Prop where
  get : s'.localComponents.get id = s.localComponents.get id
  metadata : s'.metadata.get id = s.metadata.get id
  object : ∀ l, s.localComponents.get id = some l → s'.localObjects[l]? = s.localObjects[l]?
  subscribed : '/' ∉ id.toList → ∀ name, '/' ∉ name.toList →
    componentTopic s.instanceName id name ∈ s.subscriptions →
      componentTopic s.instanceName id name ∈ s'.subscriptions

theorem mem_actionTopics {instanceName id t : String} {members : List Member} :
    t ∈ actionTopics instanceName id members ↔
      ∃ m ∈ members, m.isAction = true ∧ componentTopic instanceName id m.name = t := by
  simp [actionTopics, and_assoc]

theorem Registered.same {s' : Publisher} {id : String} {l : Nat} {members : List Member}
    (h : Registered s id l members) (hs : SameAt s s' id) (hi : s'.instanceName = s.instanceName)
    (hd : '/' ∉ id.toList)
    (hn : ∀ m ∈ members, '/' ∉ m.name.toList) : Registered s' id l members where
  get := by rw [hs.get, h.get]
  topics := by rw [hs.object l h.get, h.topics, hi]
  subscribed t ht := by
    rw [hi] at ht
    obtain ⟨m, hm, ha, rfl⟩ := mem_actionTopics.mp ht
    exact hs.subscribed hd _ (hn m hm) (h.subscribed _ (mem_actionTopics.mpr ⟨m, hm, ha, rfl⟩))

theorem Phase.same {s' : Publisher} {on : Bool} {b : BusComponent} (h : Phase s on b)
    (hs : SameAt s s' b.id) (hi : s'.instanceName = s.instanceName)
    (hn : Named b.id b.members) : Phase s' on b := by
  cases h with
  | idle hc hp ht => exact .idle hc hp ht
  | leaving hc hp ht l hl => exact .leaving hc hp ht l (by rw [hs.get, hl])
  | joining hc ho done rest hm hp l ht hr =>
    refine .joining hc ho done rest hm hp l ht (hr.same hs hi hn.id fun m h => hn.names m ?_)
    rw [hm]
    exact List.mem_append_left _ h
  | published hc ho hp l ht hr hm =>
    exact .published hc ho hp l ht (hr.same hs hi hn.id hn.names) (by rw [hs.metadata, hm])

theorem Phase.idle_of_not_busy {s' : Publisher} {on on' : Bool} {b : BusComponent}
    (h : Phase s on b) (hb : ¬ Busy b) :
    Phase s' on' b := by
  rw [Busy, not_or, not_not] at hb
  cases h with
  | idle hc hp ht => exact .idle (.inl (by simpa using hb.1)) hp ht
  | leaving hc hp => rw [hp] at hb; cases hb.2
  | joining hc => exact absurd hc hb.1
  | published hc => exact absurd hc hb.1

/-- One object goes to its next phase and what belongs to the other ids stays. -/
structure Moves (on on' : Nat → Bool) (s s' : Publisher) (k : Nat) (b b' : BusComponent) :
    Prop where
  others : ∀ j, j ≠ k → on' j = on j
  components : s'.components = s.components.set k b'
  instanceName : s'.instanceName = s.instanceName
  failed : s'.failed = s.failed
  id : b'.id = b.id
  members : b'.members = b.members
  same : ∀ id, id ≠ b.id → SameAt s s' id
  phase : Phase s' (on' k) b'
  holds : ∀ l, s'.localComponents.get b.id = some l →
    Holds (on' k) b' ∧ l < s'.localObjects.length ∧ ∀ id, id ≠ b.id →
      s.localComponents.get id ≠ some l
  length : s.localObjects.length ≤ s'.localObjects.length
  announced : s'.metadata.get b.id = some true → b'.closed = false

theorem Good.moves {on on' : Nat → Bool} {s s' : Publisher} {k : Nat} {b b' : BusComponent}
    (hg : Good on s) (hk : s.components[k]? = some b) (hb : Busy b) (h : Moves on on' s s' k b b') :
    Good on' s' := by
  have hlen : k < s.components.length := (List.getElem?_eq_some_iff.mp hk).1
  have hself : s'.components[k]? = some b' := by rw [h.components, List.getElem?_set_self hlen]
  have hne : ∀ j, j ≠ k → s'.components[j]? = s.components[j]? := by
    intro j hj
    rw [h.components, List.getElem?_set_ne hj.symm]
  have hnot : ∀ j a, j ≠ k → s.components[j]? = some a → a.id = b.id → ¬ Busy a :=
    fun j a hj ha hid hbusy => hj (hg.apart j k a b ha hk hid hbusy hb)
  refine ⟨h.failed.trans hg.ok, ?_, ?_, ?_, ?_, ?_, ?_, ?_⟩
  · intro j a ha
    by_cases hj : j = k
    · subst hj
      obtain rfl : b' = a := by rw [hself] at ha; exact Option.some.inj ha
      rw [h.id, h.members]
      exact hg.named j b hk
    · exact hg.named j a (by rw [← hne j hj, ha])
  · intro j a ha
    by_cases hj : j = k
    · subst hj
      obtain rfl : b' = a := by rw [hself] at ha; exact Option.some.inj ha
      exact h.phase
    · rw [hne j hj] at ha
      rw [h.others j hj]
      by_cases hid : a.id = b.id
      · exact (hg.phase j a ha).idle_of_not_busy (hnot j a hj ha hid)
      · exact (hg.phase j a ha).same (h.same a.id hid) h.instanceName (hg.named j a ha)
  · -- the busy object of an id stays the same one
    intro i j a c ha hc hid hba hbc
    by_cases hi : i = k <;> by_cases hj : j = k
    · rw [hi, hj]
    · subst hi
      rw [hne j hj] at hc
      obtain rfl : b' = a := by rw [hself] at ha; exact Option.some.inj ha
      exact absurd hbc (hnot j c hj hc (by rw [← hid, h.id]))
    · subst hj
      rw [hne i hi] at ha
      obtain rfl : b' = c := by rw [hself] at hc; exact Option.some.inj hc
      exact absurd hba (hnot i a hi ha (by rw [hid, h.id]))
    · rw [hne i hi] at ha
      rw [hne j hj] at hc
      exact hg.apart i j a c ha hc hid hba hbc
  · intro id l hl
    by_cases hid : id = b.id
    · subst hid
      exact ⟨k, b', hself, h.id, (h.holds l hl).1⟩
    · rw [(h.same id hid).get] at hl
      obtain ⟨j, a, ha, haid, hh⟩ := hg.held id l hl
      have hj : j ≠ k := by
        rintro rfl
        rw [hk] at ha
        exact hid (haid ▸ congrArg BusComponent.id (Option.some.inj ha).symm)
      exact ⟨j, a, by rw [hne j hj, ha], haid, by rw [h.others j hj]; exact hh⟩
  · intro id l hl
    by_cases hid : id = b.id
    · exact (h.holds l (hid ▸ hl)).2.1
    · rw [(h.same id hid).get] at hl
      exact Nat.lt_of_lt_of_le (hg.range id l hl) h.length
  · intro id id' l hl hl'
    by_cases hid : id = b.id <;> by_cases hid' : id' = b.id
    · rw [hid, hid']
    · rw [(h.same id' hid').get] at hl'
      exact absurd hl' ((h.holds l (hid ▸ hl)).2.2 id' hid')
    · rw [(h.same id hid).get] at hl
      exact absurd hl ((h.holds l (hid' ▸ hl')).2.2 id hid)
    · rw [(h.same id hid).get] at hl
      rw [(h.same id' hid').get] at hl'
      exact hg.inj id id' l hl hl'
  · intro id hm
    by_cases hid : id = b.id
    · exact ⟨k, b', hself, by rw [h.id, hid], h.announced (hid ▸ hm)⟩
    · rw [(h.same id hid).metadata] at hm
      obtain ⟨j, a, ha, haid, hc⟩ := hg.announced id hm
      have hj : j ≠ k := by
        rintro rfl
        rw [hk] at ha
        exact hid (haid ▸ congrArg BusComponent.id (Option.some.inj ha).symm)
      exact ⟨j, a, by rw [hne j hj, ha], haid, hc⟩

/-! ## The functions, from one await to the next -/

/-- What the loop of `setOnline` on the object `k` leaves, with the object `l` of the
transport. -/
structure Advances (s s' : Publisher) (k l : Nat) (b b' : BusComponent) : Prop where
  components : s'.components = s.components.set k b'
  instanceName : s'.instanceName = s.instanceName
  failed : s'.failed = s.failed
  id : b'.id = b.id
  members : b'.members = b.members
  closed : b'.closed = false
  get : s'.localComponents = s.localComponents
  length : s'.localObjects.length = s.localObjects.length
  object : ∀ i, i ≠ l → s'.localObjects[i]? = s.localObjects[i]?
  metadata : ∀ id, id ≠ b.id → s'.metadata.get id = s.metadata.get id
  subscribed : ∀ t ∈ s.subscriptions, t ∈ s'.subscriptions
  phase : Phase s' true b'

theorem actionTopics_snoc_state {instanceName id : String} {done : List Member} {m : Member}
    (h : m.isAction = false) :
    actionTopics instanceName id (done ++ [m]) = actionTopics instanceName id done := by
  simp [actionTopics, h]

theorem actionTopics_snoc_action {instanceName id : String} {done : List Member} {m : Member}
    (h : m.isAction = true) :
    actionTopics instanceName id (done ++ [m]) =
      actionTopics instanceName id done ++ [componentTopic instanceName id m.name] := by
  simp [actionTopics, h]

/-- The next action has not been registered yet. -/
theorem not_mem_actionTopics {instanceName id : String} {members done rest : List Member}
    {m : Member} (hn : Named id members) (hm : members = done ++ m :: rest) :
    componentTopic instanceName id m.name ∉ actionTopics instanceName id done := by
  intro hc
  obtain ⟨m', hm', -, he⟩ := mem_actionTopics.mp hc
  have hin : m ∈ members := by rw [hm]; simp
  have hin' : m' ∈ members := by rw [hm]; exact List.mem_append_left _ hm'
  have hname := (componentTopic_inj hn.id hn.id (hn.names m' hin') (hn.names m hin) he).2
  have hd := hn.nodup
  rw [hm, List.map_append, List.map_cons, List.nodup_append] at hd
  exact hd.2.2 _ (List.mem_map_of_mem hm') m.name (List.mem_cons_self ..) hname

theorem modify_eq_set {l : List BusComponent} {k : Nat} {b : BusComponent} (h : l[k]? = some b)
    (f : BusComponent → BusComponent) : l.modify k f = l.set k (f b) := by
  rw [List.modify_eq_set_getElem?, h]
  rfl

theorem registerAction_advances {k l : Nat} {b : BusComponent} {done rest : List Member}
    {m : Member} (hk : s.components[k]? = some b) (hc : b.closed = false)
    (ht : b.transportComponent = some l) (hp : b.pending = []) (hm : b.members = done ++ m :: rest)
    (ha : m.isAction = true) (hn : Named b.id b.members) (hr : Registered s b.id l done) :
    Advances s (s.registerAction l (componentTopic s.instanceName b.id m.name) k rest) k l b
      { b with pending := [.setOnline rest] } := by
  have hl : l < s.localObjects.length := (List.getElem?_eq_some_iff.mp hr.topics).1
  have hnew : s.registerAction l (componentTopic s.instanceName b.id m.name) k rest =
      { s with localObjects := s.localObjects.set l (actionTopics s.instanceName b.id (done ++ [m]))
               subscriptions := s.subscriptions ∪ [componentTopic s.instanceName b.id m.name]
               components := s.components.set k { b with pending := [.setOnline rest] } } := by
    simp only [registerAction, hr.topics, Option.getD_some,
      if_neg (not_mem_actionTopics hn hm), await,
      modify_eq_set hk, hp, List.nil_append, actionTopics_snoc_action ha]
  rw [hnew]
  refine ⟨rfl, rfl, rfl, rfl, rfl, hc, rfl, List.length_set, ?_, fun _ _ => rfl, ?_, ?_⟩
  · intro i hi
    exact List.getElem?_set_ne hi.symm
  · intro t h
    exact List.mem_union_iff.mpr (.inl h)
  · refine .joining hc rfl (done ++ [m]) rest (by simp [hm]) rfl l ht ⟨hr.get,
      List.getElem?_set_self hl, ?_⟩
    intro t h
    simp only [actionTopics_snoc_action ha, List.mem_append, List.mem_singleton] at h
    rcases h with h | rfl
    · exact List.mem_union_iff.mpr (.inl (hr.subscribed t h))
    · exact List.mem_union_iff.mpr (.inr (List.mem_singleton_self _))

theorem publishMeta_advances {k l : Nat} {b : BusComponent} (hk : s.components[k]? = some b)
    (hc : b.closed = false) (ht : b.transportComponent = some l) (hp : b.pending = [])
    (hr : Registered s b.id l b.members) :
    Advances s (s.publishMeta b.id) k l b b := by
  have hset : s.components.set k b = s.components := by
    obtain ⟨hlt, rfl⟩ := List.getElem?_eq_some_iff.mp hk
    exact List.set_getElem_self hlt
  refine ⟨hset.symm, rfl, rfl, rfl, rfl, hc, rfl, rfl, fun _ _ => rfl, ?_, fun _ h => h, ?_⟩
  · intro id hid
    exact OMap.get_set_ne _ _ hid
  · exact .published hc rfl hp l ht { hr with } (OMap.get_set_self _ _ _)

/-- The loop registers the next action and stops, or comes to its end. -/
theorem register_advances {k l : Nat} {b : BusComponent} (hk : s.components[k]? = some b)
    (hc : b.closed = false) (ht : b.transportComponent = some l) (hp : b.pending = [])
    (hn : Named b.id b.members) (rest : List Member) :
    ∀ done, b.members = done ++ rest → Registered s b.id l done →
      ∃ b', Advances s (s.register k b rest) k l b b' := by
  induction rest with
  | nil =>
    intro done hm hr
    rw [List.append_nil] at hm
    exact ⟨b, publishMeta_advances hk hc ht hp (hm ▸ hr)⟩
  | cons m rest ih =>
    intro done hm hr
    rw [register]
    by_cases ha : m.isAction = true
    · rw [if_pos ha, ht]
      exact ⟨_, registerAction_advances hk hc ht hp hm ha hn hr⟩
    · have hs : actionTopics s.instanceName b.id (done ++ [m]) =
          actionTopics s.instanceName b.id done :=
        actionTopics_snoc_state (by simpa using ha)
      rw [if_neg ha, if_neg (by simp [hc, ht])]
      refine ih (done ++ [m]) (by simp [hm]) ⟨hr.get, ?_, ?_⟩
      · rw [hs, hr.topics]
      · rw [hs]
        exact hr.subscribed

variable {on : Nat → Bool} {k : Nat} {b : BusComponent}

theorem Good.setOnline (hg : Good on s) (hk : s.components[k]? = some b) (hc : b.closed = false)
    (hp : b.pending = [])
    (ho : on k = false) : Good (Function.update on k true) (s.setOnline k b) := by
  have hnone : s.localComponents.get b.id = none := by
    rw [Option.eq_none_iff_forall_ne_some]
    intro l hl
    obtain ⟨j, a, ha, hid, hh⟩ := hg.held b.id l hl
    obtain rfl : j = k := by
      refine hg.apart j k a b ha hk hid ?_ (.inl hc)
      rcases hh with hh | hh
      · exact .inr hh
      · exact .inl hh.1
    obtain rfl : b = a := by rw [hk] at ha; exact Option.some.inj ha
    rcases hh with hh | ⟨-, hh⟩
    · exact hh hp
    · rw [ho] at hh; cases hh
  have hlen : k < s.components.length := (List.getElem?_eq_some_iff.mp hk).1
  rw [Publisher.setOnline, if_neg (by rw [OMap.has_eq_false.mpr hnone]; exact Bool.false_ne_true)]
  set l := s.localObjects.length
  set s1 : Publisher := { s with localComponents := s.localComponents.set b.id l
                                 localObjects := s.localObjects ++
                                   [[]] }.setTransportComponent k (some l) with hs1
  have hcomp : s1.components = s.components.set k { b with transportComponent := some l } :=
    modify_eq_set hk _
  have hr : Registered s1 b.id l [] := by
    refine ⟨OMap.get_set_self _ _ _, ?_, fun _ h => by cases h⟩
    exact List.getElem?_concat_length
  obtain ⟨b', ha⟩ := register_advances (b := { b with transportComponent := some l }) (k := k)
    (by rw [hcomp, List.getElem?_set_self hlen]) hc rfl hp (hg.named k b hk) b.members [] rfl hr
  refine hg.moves hk (.inl hc) ⟨fun j hj => Function.update_of_ne hj _ _, ?_, ha.instanceName,
    ha.failed, ha.id, ha.members, ?_, ?_, ?_, ?_, fun _ => ha.closed⟩
  · rw [ha.components, hcomp, List.set_set]
  · intro id hid
    refine ⟨?_, ha.metadata id hid, ?_, fun _ _ _ h => ha.subscribed _ h⟩
    · rw [ha.get]
      exact OMap.get_set_ne _ _ hid
    · intro i hi
      have hlt := hg.range id i hi
      rw [ha.object i (Nat.ne_of_lt hlt)]
      exact List.getElem?_append_left hlt
  · rw [Function.update_self]
    exact ha.phase
  · intro i hi
    rw [ha.get] at hi
    obtain rfl : l = i := by
      have h := OMap.get_set_self s.localComponents b.id l
      exact Option.some.inj (h.symm.trans hi)
    refine ⟨.inr ⟨ha.closed, Function.update_self _ _ _⟩, ?_, ?_⟩
    · rw [ha.length]
      simp [hs1, setTransportComponent, l]
    · intro id hid h
      exact Nat.lt_irrefl _ (hg.range id _ h)
  · rw [ha.length]
    simp [hs1, setTransportComponent]

/-- `terminate` drops no topic of another id. -/
theorem sameAt_unsubscribe {s' : Publisher} {id id' : String} {members : List Member}
    (hn : Named id members) (hid : id' ≠ id) (hl : s'.localComponents = s.localComponents)
    (ho : s'.localObjects = s.localObjects) (hm : s'.metadata.get id' = s.metadata.get id')
    (hs : s'.subscriptions = s.subscriptions.filter fun t =>
      decide (t ∉ actionTopics s.instanceName id members)) :
    SameAt s s' id' where
  get := by rw [hl]
  metadata := hm
  object l _ := by rw [ho]
  subscribed hd name hname ht := by
    rw [hs]
    refine List.mem_filter.mpr ⟨ht, decide_eq_true ?_⟩
    intro hc
    obtain ⟨m, hm, -, he⟩ := mem_actionTopics.mp hc
    exact hid (componentTopic_inj hn.id hd (hn.names m hm) hname he).1.symm

theorem setOffline_eq {a : BusComponent} {l : Nat} {topics : List String}
    (hk : s.components[k]? = some a) (hl : s.localComponents.get b.id = some l)
    (ht : s.localObjects[l]? = some topics) :
    s.setOffline k b =
      { s with components := s.components.set k { a with transportComponent := none
                                                         pending := a.pending ++ [.setOffline] }
               subscriptions := s.subscriptions.filter fun t => decide (t ∉ topics) } := by
  have hlen : k < s.components.length := (List.getElem?_eq_some_iff.mp hk).1
  have hset : (s.components.set k { a with transportComponent := none })[k]? =
      some { a with transportComponent := none } := List.getElem?_set_self hlen
  simp only [setOffline, setTransportComponent, hl, ht, Option.getD_some, await, modify_eq_set hk,
    modify_eq_set hset, List.set_set]

theorem Good.published (hg : Good on s) (hk : s.components[k]? = some b) (hc : b.closed = false)
    (hp : b.pending = [])
    (ho : on k = true) : ∃ l, Registered s b.id l b.members ∧ s.metadata.get b.id = some true := by
  cases hg.phase k b hk with
  | idle h =>
    rcases h with h | h
    · rw [hc] at h; cases h
    · rw [ho] at h; cases h
  | leaving _ h => rw [hp] at h; cases h
  | joining _ _ _ _ _ h => rw [hp] at h; cases h
  | published _ _ _ l _ hr hm => exact ⟨l, hr, hm⟩

theorem Good.idle (hg : Good on s) (hk : s.components[k]? = some b) (hp : b.pending = [])
    (ho : on k = false) :
    b.transportComponent = none := by
  cases hg.phase k b hk with
  | idle _ _ ht => exact ht
  | leaving _ h => rw [hp] at h; cases h
  | joining _ h => rw [ho] at h; cases h
  | published _ h => rw [ho] at h; cases h

theorem Good.setOffline (hg : Good on s) (hk : s.components[k]? = some b) (hc : b.closed = false)
    (hp : b.pending = [])
    (ho : on k = true) : Good (Function.update on k false) (s.setOffline k b) := by
  obtain ⟨l, hr, hm⟩ := hg.published hk hc hp ho
  rw [setOffline_eq hk hr.get hr.topics]
  refine hg.moves hk (.inl hc) ⟨fun j hj => Function.update_of_ne hj _ _, rfl, rfl, rfl, rfl, rfl,
    ?_, ?_, ?_, Nat.le_refl _, fun _ => hc⟩
  · intro id hid
    exact sameAt_unsubscribe (hg.named k b hk) hid rfl rfl rfl rfl
  · refine .leaving (.inr (Function.update_self _ _ _)) ?_ rfl l hr.get
    rw [hp]
    rfl
  · intro i hi
    exact ⟨.inl (by simp), hg.range _ i hi, fun id hid h => hid (hg.inj _ _ i h hi)⟩

theorem Good.remove (hg : Good (fun _ => s.online) s) (hk :
    s.components[k]? = some b) (hc : b.closed = false)
    (hp : b.pending = []) : Good (fun _ => s.online) (s.onComponentRemove k b) := by
  have hlen : k < s.components.length := (List.getElem?_eq_some_iff.mp hk).1
  have hmeta : ∀ id, id ≠ b.id → (s.metadata.set b.id false).get id = s.metadata.get id :=
    fun id hid => OMap.get_set_ne _ _ hid
  have hmeta' : (s.metadata.set b.id false).get b.id ≠ some true := by
    rw [OMap.get_set_self]
    simp
  rw [onComponentRemove]
  simp only [unpublishMeta, modify_eq_set hk, onOnlineChange, Bool.false_eq_true, if_false]
  by_cases hon : s.online = true
  · obtain ⟨l, hr, -⟩ := hg.published hk hc hp hon
    rw [if_pos hon, setOffline_eq
      (s := { s with components := s.components.set k { b with closed := true },
                     metadata := s.metadata.set b.id false })
      (List.getElem?_set_self hlen) hr.get hr.topics]
    refine hg.moves hk (.inl hc) ⟨fun _ _ => rfl, List.set_set _, rfl, rfl, rfl, rfl, ?_, ?_, ?_,
      Nat.le_refl _, fun h => absurd h hmeta'⟩
    · intro id hid
      exact sameAt_unsubscribe (hg.named k b hk) hid rfl rfl (hmeta id hid) rfl
    · refine .leaving (.inl rfl) ?_ rfl l hr.get
      rw [hp]
      rfl
    · intro i hi
      exact ⟨.inl (by simp), hg.range _ i hi, fun id hid h => hid (hg.inj _ _ i h hi)⟩
  · have hoff : s.online = false := by simpa using hon
    rw [if_neg hon]
    refine hg.moves hk (.inl hc) ⟨fun _ _ => rfl, rfl, rfl, rfl, rfl, rfl, ?_, ?_, ?_,
      Nat.le_refl _, fun h => absurd h hmeta'⟩
    · intro id hid
      exact ⟨rfl, hmeta id hid, fun _ _ => rfl, fun _ _ _ h => h⟩
    · have ht := hg.idle hk hp hoff
      exact .idle (.inl rfl) hp ht
    · intro i hi
      obtain ⟨j, a, ha, hid, hh⟩ := hg.held b.id i hi
      rcases hh with hh | hh
      · obtain rfl : j = k := hg.apart j k a b ha hk hid (.inr hh) (.inl hc)
        obtain rfl : b = a := by rw [hk] at ha; exact Option.some.inj ha
        exact absurd hp hh
      · rw [hoff] at hh
        cases hh.2

/-! ## The runs -/

theorem Good.resolve {i : Nat} (hg : Good on s) (hk : s.components[k]? = some b)
    (hi : i < b.pending.length) :
    Good on (s.resolve k i) := by
  have hbusy : Busy b := .inr (by rintro h; rw [h] at hi; exact Nat.not_lt_zero _ hi)
  have hlen : k < s.components.length := (List.getElem?_eq_some_iff.mp hk).1
  have hphase := hg.phase k b hk
  cases hphase with
  | idle _ hp => rw [hp] at hi; exact absurd hi (Nat.not_lt_zero _)
  | published _ _ hp => rw [hp] at hi; exact absurd hi (Nat.not_lt_zero _)
  | leaving hc hp ht l hl =>
    obtain rfl : i = 0 := by rw [hp] at hi; simpa using hi
    simp only [Publisher.resolve, hk, hp, List.getElem?_cons_zero, modify_eq_set hk,
      List.eraseIdx_cons_zero]
    refine hg.moves hk hbusy ⟨fun _ _ => rfl, rfl, rfl, rfl, rfl, rfl, ?_, .idle hc rfl ht, ?_,
      Nat.le_refl _, ?_⟩
    · intro id hid
      exact ⟨OMap.get_delete_ne _ hid, rfl, fun _ _ => rfl, fun _ _ _ h => h⟩
    · intro j hj
      rw [OMap.get_delete_self] at hj
      cases hj
    · intro hm
      obtain ⟨j, a, ha, hid, hca⟩ := hg.announced b.id hm
      obtain rfl : j = k := hg.apart j k a b ha hk hid (.inl hca) hbusy
      obtain rfl : b = a := by rw [hk] at ha; exact Option.some.inj ha
      exact hca
  | joining hc ho done rest hm hp l ht hr =>
    obtain rfl : i = 0 := by rw [hp] at hi; simpa using hi
    simp only [Publisher.resolve, hk, hp, List.getElem?_cons_zero, modify_eq_set hk,
      List.eraseIdx_cons_zero]
    obtain ⟨b', ha⟩ := register_advances
      (s := { s with components := s.components.set k { b with pending := [] } })
      (b := { b with pending := [] }) (List.getElem?_set_self hlen) hc ht rfl (hg.named k b hk)
        rest done hm
      { hr with }
    refine hg.moves hk hbusy ⟨fun _ _ => rfl, ?_, ha.instanceName, ha.failed, ha.id, ha.members,
      ?_, ?_, ?_, Nat.le_of_eq ha.length.symm, fun _ => ha.closed⟩
    · rw [ha.components, List.set_set]
    · intro id hid
      refine ⟨by rw [ha.get], ha.metadata id hid, fun j hj => ha.object j ?_,
        fun _ _ _ h => ha.subscribed _ h⟩
      rintro rfl
      exact hid (hg.inj _ _ _ hj hr.get)
    · rw [ho]
      exact ha.phase
    · intro j hj
      rw [ha.get] at hj
      refine ⟨.inr ⟨ha.closed, ho⟩, ?_, fun id hid h => hid (hg.inj _ _ j h hj)⟩
      rw [ha.length]
      exact hg.range _ j hj

theorem Phase.told {b : BusComponent} {o o' : Bool} (h : Phase s o b)
    (ho : b.closed = false → o' = o) :
    Phase s o' b := by
  by_cases hc : b.closed = true
  · cases h with
    | idle _ hp ht => exact .idle (.inl hc) hp ht
    | leaving _ hp ht l hl => exact .leaving (.inl hc) hp ht l hl
    | joining h => rw [hc] at h; cases h
    | published h => rw [hc] at h; cases h
  · rw [ho (by simpa using hc)]
    exact h

/-- What a closed object was told does not matter, nor does the flag of the transport. -/
theorem Good.told {on on' : Nat → Bool} (hg : Good on s) (online : Bool)
    (h : ∀ (k : Nat) (b : BusComponent), s.components[k]? = some b → b.closed = false →
      on' k = on k) :
    Good on' { s with online } where
  ok := hg.ok
  named := hg.named
  phase k b hk := by
    cases (hg.phase k b hk).told (h k b hk) with
    | idle hc hp ht => exact .idle hc hp ht
    | leaving hc hp ht l hl => exact .leaving hc hp ht l hl
    | joining hc ho done rest hm hp l ht hr => exact .joining hc ho done rest hm hp l ht { hr with }
    | published hc ho hp l ht hr hm => exact .published hc ho hp l ht { hr with } hm
  apart := hg.apart
  held id l hl := by
    obtain ⟨k, b, hk, hid, hh⟩ := hg.held id l hl
    refine ⟨k, b, hk, hid, ?_⟩
    rcases hh with hh | ⟨hc, ho⟩
    · exact .inl hh
    · exact .inr ⟨hc, by rw [h k b hk hc, ho]⟩
  range := hg.range
  inj := hg.inj
  announced := hg.announced

theorem getElem?_concat_some {l : List BusComponent} {b c : BusComponent} {k : Nat}
    (h : (l ++ [b])[k]? = some c) :
    l[k]? = some c ∨ (k = l.length ∧ c = b) := by
  rcases Nat.lt_trichotomy k l.length with hk | hk | hk
  · rw [List.getElem?_append_left hk] at h
    exact .inl h
  · subst hk
    rw [List.getElem?_concat_length] at h
    exact .inr ⟨rfl, (Option.some.inj h).symm⟩
  · rw [List.getElem?_eq_none (by rw [List.length_append]; exact hk)] at h
    cases h

/-- A new object that was told nothing yet. -/
theorem Good.append {id : String} {members : List Member} (hg : Good on s) (hn : Named id members)
    (hfree : ∀ b ∈ s.components, b.id = id → ¬ Busy b) :
    Good (Function.update on s.components.length false)
      { s with components := s.components ++ [({ id, members } : BusComponent)] } := by
  have hold : ∀ (k : Nat) (b : BusComponent), s.components[k]? = some b →
      (s.components ++ [({ id, members } : BusComponent)])[k]? = some b ∧
        Function.update on s.components.length false k = on k := by
    intro k b hk
    have hlt := (List.getElem?_eq_some_iff.mp hk).1
    exact ⟨by rw [List.getElem?_append_left hlt, hk], Function.update_of_ne (Nat.ne_of_lt hlt) _ _⟩
  refine ⟨hg.ok, ?_, ?_, ?_, ?_, hg.range, hg.inj, ?_⟩
  · intro k b hk
    rcases getElem?_concat_some hk with hk | ⟨-, rfl⟩
    · exact hg.named k b hk
    · exact hn
  · intro k b hk
    rcases getElem?_concat_some hk with hk | ⟨rfl, rfl⟩
    · rw [(hold k b hk).2]
      exact (hg.phase k b hk).same ⟨rfl, rfl, fun _ _ => rfl, fun _ _ _ h => h⟩ rfl
        (hg.named k b hk)
    · exact .idle (.inr (Function.update_self _ _ _)) rfl rfl
  · intro j k a b ha hb hid hba hbb
    rcases getElem?_concat_some ha with ha | ⟨rfl, rfl⟩
      <;> rcases getElem?_concat_some hb with hb | ⟨rfl, rfl⟩
    · exact hg.apart j k a b ha hb hid hba hbb
    · exact absurd hba (hfree a (List.mem_of_getElem? ha) hid)
    · exact absurd hbb (hfree b (List.mem_of_getElem? hb) hid.symm)
    · rfl
  · intro id' l hl
    obtain ⟨k, b, hk, hid, hh⟩ := hg.held id' l hl
    exact ⟨k, b, (hold k b hk).1, hid, by rw [(hold k b hk).2]; exact hh⟩
  · intro id' hm
    obtain ⟨k, b, hk, hid, hc⟩ := hg.announced id' hm
    exact ⟨k, b, (hold k b hk).1, hid, hc⟩

/-- A component is added or removed when nothing is awaited for its id, and the transport
goes online or offline when nothing is awaited at all; the topics of the actions differ. -/
def Calm (s : Publisher) : Event → Prop
  | .add id members =>
    (∀ b ∈ s.components, b.id = id → b.pending = []) ∧ '/' ∉ id.toList ∧
      ∀ m ∈ members, '/' ∉ m.name.toList
  | .remove k => ∀ b ∈ s.components[k]?, b.pending = []
  | .onlineChange _ => s.Settled
  | .resolve _ _ => True

/-- Only the object `k` is changed, and not the flag of the transport. -/
structure Only (k : Nat) (s s' : Publisher) : Prop where
  online : s'.online = s.online
  others : ∀ j, j ≠ k → s'.components[j]? = s.components[j]?

theorem Only.trans {s s' s'' : Publisher} (h : Only k s s') (h' : Only k s' s'') : Only k s s'' :=
  ⟨h'.online.trans h.online, fun j hj => (h'.others j hj).trans (h.others j hj)⟩

theorem only_modify {s' : Publisher} {f : BusComponent → BusComponent} (ho : s'.online = s.online)
    (hc : s'.components = s.components.modify k f) : Only k s s' :=
  ⟨ho, fun j hj => by simp [hc, hj.symm]⟩

theorem only_of_components {s' : Publisher} (ho : s'.online = s.online)
    (hc : s'.components = s.components) :
    Only k s s' :=
  ⟨ho, fun j _ => by rw [hc]⟩

theorem only_register (s : Publisher) (k : Nat) (b : BusComponent) (rest : List Member) :
    Only k s (s.register k b rest) := by
  induction rest with
  | nil => exact only_of_components rfl rfl
  | cons m rest ih =>
    rw [register]
    split
    · cases b.transportComponent with
      | none => exact only_of_components rfl rfl
      | some l =>
        simp only [registerAction]
        split
        · exact only_of_components rfl rfl
        · exact only_modify rfl rfl
    · split
      · exact only_of_components rfl rfl
      · exact ih

theorem only_setOnline (s : Publisher) (k : Nat) (b : BusComponent) :
    Only k s (s.setOnline k b) := by
  rw [Publisher.setOnline]
  split
  · exact only_of_components rfl rfl
  · refine .trans ?_ (only_register _ _ _ _)
    exact only_modify rfl rfl

theorem only_setOffline (s : Publisher) (k : Nat) (b : BusComponent) :
    Only k s (s.setOffline k b) := by
  have h : Only k s (s.setTransportComponent k none) := only_modify rfl rfl
  simp only [Publisher.setOffline]
  cases (s.setTransportComponent k none).localComponents.get b.id with
  | none => exact h.trans (only_of_components rfl rfl)
  | some l => exact h.trans (only_modify rfl rfl)

theorem only_onOnlineChange (s : Publisher) (k : Nat) (b : BusComponent) (online : Bool) :
    Only k s (s.onOnlineChange k b online) := by
  cases online with
  | true => exact only_setOnline s k b
  | false => exact only_setOffline s k b

theorem only_changeOne (s : Publisher) (k : Nat) (online : Bool) :
    Only k s (changeOne online s k) := by
  rw [changeOne]
  cases s.components[k]? with
  | none => exact only_of_components rfl rfl
  | some b =>
    dsimp only
    split
    · exact only_of_components rfl rfl
    · exact only_onOnlineChange s k b online

theorem only_resolve (s : Publisher) (k i : Nat) : Only k s (s.resolve k i) := by
  rw [Publisher.resolve]
  cases s.components[k]? with
  | none => exact only_of_components rfl rfl
  | some b =>
    dsimp only
    cases b.pending[i]? with
    | none => exact only_of_components rfl rfl
    | some c =>
      cases c with
      | setOnline rest =>
        refine .trans ?_ (only_register _ _ _ _)
        exact only_modify rfl rfl
      | setOffline => exact only_modify rfl rfl

theorem Good.changeOne {online : Bool} (hg : Good on s) (hk : s.components[k]? = some b)
    (hp : b.pending = [])
    (ho : on k = !online) : Good (Function.update on k online) (changeOne online s k) := by
  simp only [Publisher.changeOne, hk]
  by_cases hc : b.closed = true
  · rw [if_pos hc]
    refine hg.told s.online ?_
    intro j a ha hca
    refine Function.update_of_ne ?_ _ _
    rintro rfl
    rw [hk, Option.some.injEq] at ha
    subst ha
    rw [hc] at hca
    cases hca
  · rw [if_neg hc]
    cases online with
    | true => exact hg.setOnline hk (by simpa using hc) hp ho
    | false => exact hg.setOffline hk (by simpa using hc) hp ho

/-- The loop over the objects: those already seen were told. -/
theorem Good.changeAll {online : Bool} (hg : Good (fun _ => !online) s) (hs : s.Settled) (n : Nat)
    (hn : n ≤ s.components.length) :
    Good (fun j => if j < n then online else !online)
      ((List.range n).foldl (Publisher.changeOne online) s) ∧
      ((List.range n).foldl (Publisher.changeOne online) s).online = s.online ∧
      ∀ j, n ≤ j → ((List.range n).foldl (Publisher.changeOne online) s).components[j]? =
        s.components[j]? := by
  induction n with
  | zero => exact ⟨by simpa using hg, rfl, fun _ _ => rfl⟩
  | succ n ih =>
    obtain ⟨hgood, honl, hrest⟩ := ih (Nat.le_of_succ_le hn)
    rw [List.range_succ, List.foldl_append, List.foldl_cons, List.foldl_nil]
    have hk := List.getElem?_eq_getElem hn
    have hstep := hgood.changeOne ((hrest n (Nat.le_refl n)).trans hk) (hs _ (List.getElem_mem hn))
      (if_neg (Nat.lt_irrefl n))
    have honly := only_changeOne ((List.range n).foldl (Publisher.changeOne online) s) n online
    refine ⟨?_, honly.online.trans honl, ?_⟩
    · convert hstep using 1
      funext j
      by_cases hj : j = n
      · subst hj
        simp
      · rw [Function.update_of_ne hj]
        exact if_congr (by omega) rfl rfl
    · intro j hj
      rw [honly.others j (by omega), hrest j (by omega)]

theorem Good.add {id : String} {members : List Member} (hg : Good (fun _ => s.online) s)
    (hn : Named id members) (hfree : ∀ b ∈ s.components, b.id = id → ¬ Busy b) :
    Good (fun _ => s.online) (s.onComponentAdd id members) := by
  have happ := hg.append hn hfree
  have hk : (s.components ++ [({ id, members } : BusComponent)])[s.components.length]? =
      some { id, members } :=
    List.getElem?_concat_length
  simp only [onComponentAdd, List.length_append, List.length_singleton, Nat.add_sub_cancel]
  by_cases hon : s.online = true
  · have hgood := happ.setOnline hk rfl rfl (Function.update_self _ _ _)
    rw [Function.update_idem, Function.update_eq_self_iff.mpr hon.symm] at hgood
    rw [if_pos hon]
    exact hgood
  · have hoff : s.online = false := by simpa using hon
    rw [Function.update_eq_self_iff.mpr hoff.symm] at happ
    rw [if_neg hon]
    exact happ

theorem Good.step {e : Event} (hg : Good (fun _ => s.online) s) (he : Enabled s e) (hc : Calm s e) :
    Good (fun _ => (s.step e).online) (s.step e) := by
  cases e with
  | add id members =>
    have honl : (s.onComponentAdd id members).online = s.online := by
      simp only [onComponentAdd]
      split
      · exact (only_onOnlineChange _ _ _ _).online
      · rfl
    rw [Publisher.step, honl]
    refine hg.add ⟨hc.2.1, hc.2.2, he.2⟩ ?_
    intro b hb hid hbusy
    rcases hbusy with h | h
    · rw [he.1 b hb hid] at h
      cases h
    · exact h (hc.1 b hb hid)
  | remove k =>
    obtain ⟨b, hb, hcl⟩ := he
    have hk : s.components[k]? = some b := hb
    have honl : (s.onComponentRemove k b).online = s.online := by
      simp only [onComponentRemove]
      split
      · exact (only_onOnlineChange _ _ _ _).online
      · rfl
    simp only [Publisher.step, hk, honl]
    exact hg.remove hk hcl (hc b hb)
  | onlineChange online =>
    have hon : s.online = !online := by
      cases online <;> simpa using Ne.symm he
    have hgs : Good (fun _ => !online) { s with online } := hg.told online (fun _ _ _ _ => hon.symm)
    obtain ⟨hgood, honl, hrest⟩ := hgs.changeAll hc s.components.length (Nat.le_refl _)
    rw [Publisher.step, show (s.changeOnline online).online = online from honl]
    refine hgood.told _ ?_
    intro k b hk _
    refine (if_pos ?_).symm
    by_contra hlt
    have hnone := (hrest k (Nat.le_of_not_lt hlt)).trans
      (List.getElem?_eq_none (Nat.le_of_not_lt hlt))
    rw [hk] at hnone
    cases hnone
  | resolve k i =>
    obtain ⟨b, hb, hi⟩ := he
    have hk : s.components[k]? = some b := hb
    rw [Publisher.step, (only_resolve s k i).online]
    exact hg.resolve hk hi

theorem good_init (instanceName : String) :
    Good (fun _ => (init instanceName).online) (init instanceName) where
  ok := rfl
  named _ _ h := by cases h
  phase _ _ h := by cases h
  apart _ _ _ _ h := by cases h
  held _ _ h := by cases h
  range _ _ h := by cases h
  inj _ _ _ h := by cases h
  announced _ h := by cases h

theorem Good.inPlace (hg : Good (fun _ => s.online) s) (hs : s.Settled) (hon : s.online = true)
    (id : String) :
    s.InPlace id where
  present b hb hid hc := by
    obtain ⟨k, hk⟩ := List.getElem?_of_mem hb
    subst hid
    obtain ⟨l, hr, hm⟩ := hg.published hk hc (hs b hb) hon
    exact ⟨l, _, hr.get, hr.topics, fun t ht => ⟨ht, hr.subscribed t ht⟩, hm⟩
  absent hn := by
    refine ⟨?_, ?_⟩
    · rw [Option.eq_none_iff_forall_ne_some]
      intro l hl
      obtain ⟨k, b, hk, hid, hh⟩ := hg.held id l hl
      rcases hh with hh | hh
      · exact hh (hs b (List.mem_of_getElem? hk))
      · exact hn ⟨b, List.mem_of_getElem? hk, hid, hh.1⟩
    · intro hm
      obtain ⟨k, b, hk, hid, hc⟩ := hg.announced id hm
      exact hn ⟨b, List.mem_of_getElem? hk, hid, hc⟩

/-- In a run where the components and the transport change only when what was awaited is
done, nothing fails, and every id is in place each time nothing is awaited. -/
theorem publication_settles (instanceName : String) (es : List Event)
    (h : Along step (fun s e => Enabled s e ∧ Calm s e) (init instanceName) es) :
    (es.foldl step (init instanceName)).failed = false ∧
      ((es.foldl step (init instanceName)).Settled →
        (es.foldl step (init instanceName)).online = true →
        ∀ id, (es.foldl step (init instanceName)).InPlace id) := by
  have hg : Good (fun _ => (es.foldl step (init instanceName)).online)
      (es.foldl step (init instanceName)) :=
    h.invariant (P := fun s => Good (fun _ => s.online) s) (good_init instanceName)
      fun s e hg hc => Good.step hg hc.1 hc.2
  exact ⟨hg.ok, fun hs hon id => hg.inPlace hs hon id⟩

instance (id : String) : Decidable (s.Registers id) :=
  inferInstanceAs (Decidable (∃ b ∈ s.components, b.id = id ∧ b.closed = false))

instance : Decidable s.Settled := inferInstanceAs (Decidable (∀ b ∈ s.components, b.pending = []))

instance : DecidablePred (Enabled s)
  | .add _ _ => inferInstanceAs (Decidable (_ ∧ _))
  | .remove k => inferInstanceAs (Decidable (∃ b ∈ s.components[k]?, b.closed = false))
  | .onlineChange _ => inferInstanceAs (Decidable (_ ≠ _))
  | .resolve k i => inferInstanceAs (Decidable (∃ b ∈ s.components[k]?, i < b.pending.length))

instance : DecidablePred (Calm s)
  | .add _ _ => inferInstanceAs (Decidable (_ ∧ _ ∧ _))
  | .remove k => inferInstanceAs (Decidable (∀ b ∈ s.components[k]?, b.pending = []))
  | .onlineChange _ => inferInstanceAs (Decidable s.Settled)
  | .resolve _ _ => inferInstanceAs (Decidable True)

/-- A lamp is published, the connection is lost and comes back, the lamp is removed and
another one is added with its id. -/
def calmRun : List Event :=
  [.add "lamp" [⟨"value", false⟩, ⟨"on", true⟩, ⟨"off", true⟩], .onlineChange true, .resolve 0 0,
    .resolve 0 0,
    .onlineChange false, .resolve 0 0, .onlineChange true, .resolve 0 0, .resolve 0 0, .remove 0,
      .resolve 0 0,
    .add "lamp" [⟨"set", true⟩], .resolve 1 0]

theorem publication_settles_readded :
    (calmRun.foldl step (init "core")).failed = false ∧
      ((calmRun.foldl step (init "core")).Settled →
        (calmRun.foldl step (init "core")).online = true →
        ∀ id, (calmRun.foldl step (init "core")).InPlace id) ∧
      (calmRun.foldl step (init "core")).Settled ∧
        (calmRun.foldl step (init "core")).online = true ∧
      (calmRun.foldl step (init "core")).Registers "lamp" := by
  have h := publication_settles "core" calmRun (by decide +kernel)
  exact ⟨h.1, h.2, by decide +kernel, by decide +kernel, by decide +kernel⟩

/-- The lamp is added again before the unsubscription of the first one is done. -/
def readdRun : List Event :=
  [.onlineChange true, .add "lamp" [⟨"on", true⟩], .resolve 0 0, .remove 0,
    .add "lamp" [⟨"on", true⟩]]

/-- The lamp is removed before the subscription of its action is done. -/
def ghostRun : List Event :=
  [.onlineChange true, .add "lamp" [⟨"on", true⟩], .remove 0, .resolve 0 0, .resolve 0 0]

/-- The first run fails. The second one ends with nothing registered and nothing awaited, and
the metadata was set after it was cleared. -/
theorem readd_fails_ghost_stays :
    Along step Enabled (init "core") readdRun ∧ (readdRun.foldl step (init "core")).failed = true ∧
      Along step Enabled (init "core") ghostRun ∧ (ghostRun.foldl step (init "core")).Settled ∧
      (ghostRun.foldl step (init "core")).online = true ∧
        ¬ (ghostRun.foldl step (init "core")).Registers "lamp" ∧
      (ghostRun.foldl step (init "core")).metadata.get "lamp" = some true := by
  decide +kernel

end Publisher

end MylifeHome.Core.Publication
