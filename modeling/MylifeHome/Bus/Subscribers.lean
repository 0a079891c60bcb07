import MylifeHome.Bus.Client

/-!
# The users of one client

Metadata views, remote components, aggregated log streams and other callers share
the subscription set of a client. The set does not count: the first that releases
a filter ends it for all. The client is online here and the broker takes each call
before the next.
-/
namespace MylifeHome.Bus.Subscribers

open MylifeHome.Lib MylifeHome.Lib.Mqtt

/-- What a user is; a `raw` one calls `subscribe` and `unsubscribe` itself. -/
inductive Kind where
  | view (instanceName : String)
  | remote (instanceName id : String)
  | log
  | raw
  deriving DecidableEq

/-- A user of the client with the filters that it has subscribed to and not released. -/
structure User where
  kind : Kind
  topics : List String := []
  live : Bool := true
  deriving DecidableEq

/-- The `onMessage` listener of the user takes the message. -/
def User.accepts (u : User) (topic : String) : Bool :=
  match u.kind with
  | .view name =>
    match Text.split topic '/' with
    | instanceName :: domain :: _ => decide (instanceName = name) && decide (domain = "metadata")
    | _ => false
  | .remote _ _ => decide (topic ∈ u.topics)
  | .log =>
    match Text.split topic '/' with
    | [_, domain] => decide (domain = "logger")
    | _ => false
  | .raw => true

structure Hub where
  world : World
  users : List User := []

inductive Event where
  | createView (instanceName : String)
  | closeView (k : Nat)
  | trackRemoteComponent (instanceName id : String)
  | registerStateChange (k : Nat) (name : String)
  | untrackRemoteComponent (k : Nat)
  | createStream
  | destroyStream (k : Nat)
  | join
  | subscribe (k : Nat) (topics : List String)
  | unsubscribe (k : Nat) (topics : List String)
  deriving DecidableEq

namespace Hub

variable (h : Hub)

def subscribe (topics : List String) : Hub :=
  { h with world := (h.world.subscribe topics none).process }

def unsubscribe (topics : List String) : Hub :=
  { h with world := (h.world.unsubscribe topics none).process }

def join (u : User) : Hub := { h with users := h.users ++ [u] }.subscribe u.topics

/-- `closeView`, `untrackRemoteComponent` and the end of a stream: all filters of the
user are released. -/
def terminate (k : Nat) : Hub :=
  match h.users[k]? with
  | none => h
  | some u => { h with users := h.users.set k { u with live := false } }.unsubscribe u.topics

def listenTopic (instanceName : String) : String := buildTopic instanceName ["metadata", "#"]

/-- `addSubscription`; a state that is registered already is refused. -/
def registerStateChange (k : Nat) (name : String) : Hub :=
  match h.users[k]? with
  | some u =>
    match u.kind with
    | .remote instanceName id =>
      let topic := componentTopic instanceName id name
      if topic ∈ u.topics then h
      else { h with users := h.users.set k { u with topics := u.topics ++ [topic] } }.subscribe
        [topic]
    | _ => h
  | none => h

def step : Event → Hub
  | .createView instanceName =>
    h.join { kind := .view instanceName, topics := [listenTopic instanceName] }
  | .closeView k => h.terminate k
  | .trackRemoteComponent instanceName id =>
    { h with users := h.users ++ [{ kind := .remote instanceName id }] }
  | .registerStateChange k name => h.registerStateChange k name
  | .untrackRemoteComponent k => h.terminate k
  | .createStream => h.join { kind := .log, topics := [buildTopic "+" ["logger"]] }
  | .destroyStream k => h.terminate k
  | .join => { h with users := h.users ++ [{ kind := .raw }] }
  | .subscribe k topics =>
    match h.users[k]? with
    | none => h
    | some u => { h with users := h.users.set k { u with topics := u.topics ++ topics } }.subscribe
      topics
  | .unsubscribe k topics =>
    match h.users[k]? with
    | none => h
    | some u =>
      { h with users := h.users.set k { u with
        topics := u.topics.filter fun t => decide (t ∉ topics) } }.unsubscribe topics

/-- The live user number `k` is of the kind. -/
def isA (k : Nat) (kind : Kind → Bool) : Bool :=
  match h.users[k]? with
  | some u => u.live && kind u.kind
  | none => false

end Hub

def Kind.isView : Kind → Bool
  | .view _ => true
  | _ => false

def Kind.isRemote : Kind → Bool
  | .remote _ _ => true
  | _ => false

namespace Hub

/-- A user calls what its kind offers, and nothing after its end. -/
def Enabled (h : Hub) : Event → Prop
  | .closeView k => h.isA k Kind.isView = true
  | .registerStateChange k _ => h.isA k Kind.isRemote = true
  | .untrackRemoteComponent k => h.isA k Kind.isRemote = true
  | .destroyStream k => h.isA k (fun kind => decide (kind = .log)) = true
  | .subscribe k _ => h.isA k (fun kind => decide (kind = .raw)) = true
  | .unsubscribe k _ => h.isA k (fun kind => decide (kind = .raw)) = true
  | _ => True

instance (h : Hub) (e : Event) : Decidable (Enabled h e) := by
  cases e <;> unfold Enabled <;> infer_instance

/-- No other live user holds one of the filters. -/
def Unshared (h : Hub) (k : Nat) (topics : List String) : Prop :=
  ∀ p ∈ h.users.zipIdx, p.2 ≠ k → p.1.live = true → ∀ t ∈ topics, t ∉ p.1.topics

instance (h : Hub) (k : Nat) (topics : List String) : Decidable (Unshared h k topics) := by
  unfold Unshared; infer_instance

def topicsOf (h : Hub) (k : Nat) : List String := ((h.users[k]?).map User.topics).getD []

/-- The condition on a call: instance names, component ids and state names are
levels of a topic, and what is released is not held by another live user. -/
def Apart (h : Hub) : Event → Prop
  | .createView instanceName => Level instanceName
  | .trackRemoteComponent instanceName id => Level instanceName ∧ Level id
  | .registerStateChange _ name => Level name
  | .closeView k | .untrackRemoteComponent k | .destroyStream k => h.Unshared k (h.topicsOf k)
  | .unsubscribe k topics => h.Unshared k topics
  | _ => True

instance (h : Hub) (e : Event) : Decidable (Apart h e) := by
  cases e <;> unfold Apart <;> infer_instance

/-- A message that is published on the topic reaches the user. -/
def receives (h : Hub) (u : User) (topic : String) : Bool :=
  h.world.broker.sends topic && u.accepts topic

/-- Every live user gets what is published on the filters that it holds. -/
def Undisturbed (h : Hub) : Prop :=
  ∀ (k : Nat) (u : User), h.users[k]? = some u → u.live = true →
    ∀ f ∈ u.topics, ∀ t, topicMatches f t = true → h.receives u t = true

/-! ## The invariant -/

/-- The filters of a user are those of its kind. -/
def Shape (u : User) : Prop :=
  match u.kind with
  | .view name => Level name ∧ u.topics = [listenTopic name]
  | .remote name id => Level name ∧ Level id ∧ ∀ f ∈ u.topics, ∀ l ∈ Text.split f '/', l ≠
    "+" ∧ l ≠ "#"
  | .log => u.topics = [buildTopic "+" ["logger"]]
  | .raw => True

structure Good (h : Hub) : Prop where
  online : h.world.online = true
  outbox : h.world.outbox = []
  held : ∀ (k : Nat) (u : User), h.users[k]? = some u → u.live = true →
    ∀ f ∈ u.topics, f ∈ h.world.broker.filters
  shape : ∀ (k : Nat) (u : User), h.users[k]? = some u → Shape u

/-- The listener of a user takes what its filters let through. -/
theorem accepts_of_shape {u : User} (hs : Shape u) {f t : String} (hf : f ∈ u.topics)
    (ht : topicMatches f t = true) :
    u.accepts t = true := by
  unfold Shape at hs
  unfold User.accepts
  cases hk : u.kind with
  | view name =>
    rw [hk] at hs
    obtain ⟨hl, htop⟩ := hs
    rw [htop, List.mem_singleton] at hf
    subst hf
    have hsplit : Text.split (listenTopic name) '/' = [name, "metadata", "#"] :=
      split_buildTopic (by simp [hl.1])
    rw [topicMatches, hsplit] at ht
    generalize Text.split t '/' = ts at ht ⊢
    rcases ts with _ | ⟨a, _ | ⟨b, ts⟩⟩
    · simp [levelsMatch, hl.2.2] at ht
    · simp [levelsMatch, hl.2.2] at ht
    · simp [levelsMatch, hl.2.1, hl.2.2] at ht
      simp [ht.1, ht.2]
  | remote name id =>
    rw [hk] at hs
    rw [(topicMatches_literal (hs.2.2 f hf)).mp ht]
    exact decide_eq_true hf
  | log =>
    rw [hk] at hs
    have htop : u.topics = [buildTopic "+" ["logger"]] := hs
    rw [htop, List.mem_singleton] at hf
    subst hf
    have hsplit : Text.split (buildTopic "+" ["logger"]) '/' = ["+", "logger"] :=
      split_buildTopic (by decide)
    rw [topicMatches, hsplit] at ht
    generalize Text.split t '/' = ts at ht ⊢
    rcases ts with _ | ⟨a, _ | ⟨b, _ | ⟨c, ts⟩⟩⟩
    · simp [levelsMatch] at ht
    · simp [levelsMatch] at ht
    · simp [levelsMatch] at ht
      simp [ht]
    · simp [levelsMatch] at ht
  | raw => rfl

variable {h : Hub}

theorem Good.undisturbed (hg : Good h) : Undisturbed h := by
  intro k u hu hl f hf t ht
  rw [receives, sends_of_mem (hg.held k u hu hl f hf) ht, accepts_of_shape (hg.shape k u hu) hf ht]
  rfl

section Calls

variable {w : World} {topics : List String}

theorem subscribe_taken (topics : List String) (ho : w.online = true) (hout : w.outbox = []) :
    (w.subscribe topics none).process.online = true ∧
      (w.subscribe topics none).process.outbox = [] ∧
      ∀ f, f ∈ (w.subscribe topics none).process.broker.filters ↔
        f ∈ w.broker.filters ∨ f ∈ topics := by
  have hsend : w.subscribe topics none =
      { w with subscriptions := w.subscriptions ∪ topics, outbox := [(.subscribe topics,
        none)] } := by
    rw [World.subscribe, if_pos ho, World.send, hout]
    rfl
  rw [hsend]
  exact ⟨ho, rfl, fun f => mem_applyFilters_subscribe (τ := Tag)⟩

theorem unsubscribe_taken (topics : List String) (ho : w.online = true) (hout : w.outbox = []) :
    (w.unsubscribe topics none).process.online = true ∧
      (w.unsubscribe topics none).process.outbox = [] ∧
      ∀ f, f ∈ (w.unsubscribe topics none).process.broker.filters ↔ f ∈ w.broker.filters ∧
        f ∉ topics := by
  have hsend : w.unsubscribe topics none =
      { w with
        subscriptions := w.subscriptions.filter fun t => decide (t ∉ topics)
        outbox := [(.unsubscribe topics, none)] } := by
    rw [World.unsubscribe, if_pos ho, World.send, hout]
    rfl
  rw [hsend]
  exact ⟨ho, rfl, fun f => mem_applyFilters_unsubscribe (τ := Tag)⟩

variable {users : List User}

theorem Good.subscribe (hg : Good h)
    (hheld : ∀ (k : Nat) (u : User), users[k]? = some u → u.live = true → ∀ f ∈ u.topics,
      f ∈ h.world.broker.filters ∨ f ∈ topics)
    (hshape : ∀ (k : Nat) (u : User), users[k]? = some u → Shape u) :
    Good ({ h with users := users }.subscribe topics) := by
  obtain ⟨ho, hout, hf⟩ := subscribe_taken topics hg.online hg.outbox
  exact ⟨ho, hout, fun k u hu hl f hfu => (hf f).mpr (hheld k u hu hl f hfu), hshape⟩

theorem Good.unsubscribe (hg : Good h)
    (hheld : ∀ (k : Nat) (u : User), users[k]? = some u → u.live = true → ∀ f ∈ u.topics,
      f ∈ h.world.broker.filters ∧ f ∉ topics)
    (hshape : ∀ (k : Nat) (u : User), users[k]? = some u → Shape u) :
    Good ({ h with users := users }.unsubscribe topics) := by
  obtain ⟨ho, hout, hf⟩ := unsubscribe_taken topics hg.online hg.outbox
  exact ⟨ho, hout, fun k u hu hl f hfu => (hf f).mpr (hheld k u hu hl f hfu), hshape⟩

theorem getElem?_snoc {k : Nat} {u u' : User} (hu : (h.users ++ [u'])[k]? = some u) :
    h.users[k]? = some u ∨ u = u' := by
  rcases Nat.lt_or_ge k h.users.length with hk | hk
  · rw [List.getElem?_append_left hk] at hu
    exact Or.inl hu
  · rw [List.getElem?_append_right hk] at hu
    have hmem := List.mem_of_getElem? hu
    exact Or.inr (List.mem_singleton.mp hmem)

theorem getElem?_put {k j : Nat} {u u' : User} (hu : (h.users.set k u')[j]? = some u) :
    (j = k ∧ u = u') ∨ (j ≠ k ∧ h.users[j]? = some u) := by
  rw [List.getElem?_set] at hu
  split at hu
  · next hk =>
    split at hu
    · exact Or.inl ⟨hk.symm, (Option.some.inj hu).symm⟩
    · cases hu
  · next hk => exact Or.inr ⟨fun he => hk he.symm, hu⟩

theorem Good.join (hg : Good h) {u : User} (hs : Shape u) : Good (h.join u) := by
  refine hg.subscribe (fun k v hv hl f hf => ?_) (fun k v hv => ?_)
  · rcases getElem?_snoc hv with hv | rfl
    · exact Or.inl (hg.held k v hv hl f hf)
    · exact Or.inr hf
  · rcases getElem?_snoc hv with hv | rfl
    · exact hg.shape k v hv
    · exact hs

theorem Good.enter (hg : Good h) {u : User} (hs : Shape u) (ht : u.topics = []) :
    Good { h with users := h.users ++ [u] } := by
  refine ⟨hg.online, hg.outbox, fun k v hv hl f hf => ?_, fun k v hv => ?_⟩
  · rcases getElem?_snoc hv with hv | rfl
    · exact hg.held k v hv hl f hf
    · rw [ht] at hf; cases hf
  · rcases getElem?_snoc hv with hv | rfl
    · exact hg.shape k v hv
    · exact hs

/-- What a user releases, the others still hold. -/
theorem Good.release (hg : Good h) {k : Nat} {u' : User} (hun : h.Unshared k topics) (hs : Shape u')
    (hu' : u'.live = true → ∀ f ∈ u'.topics, f ∈ h.world.broker.filters ∧ f ∉ topics) :
    Good ({ h with users := h.users.set k u' }.unsubscribe topics) := by
  refine hg.unsubscribe (fun j v hv hl f hf => ?_) (fun j v hv => ?_)
  · rcases getElem?_put hv with ⟨rfl, rfl⟩ | ⟨hj, hv⟩
    · exact hu' hl f hf
    · refine ⟨hg.held j v hv hl f hf, fun hft => ?_⟩
      exact hun (v, j) (List.mk_mem_zipIdx_iff_getElem?.mpr hv) hj hl f hft hf
  · rcases getElem?_put hv with ⟨rfl, rfl⟩ | ⟨hj, hv⟩
    · exact hs
    · exact hg.shape j v hv

theorem Good.terminate (hg : Good h) {k : Nat} (hun : h.Unshared k (h.topicsOf k)) :
    Good (h.terminate k) := by
  unfold Hub.terminate
  cases hu : h.users[k]? with
  | none => exact hg
  | some u =>
    have htop : h.topicsOf k = u.topics := by rw [topicsOf, hu]; rfl
    rw [htop] at hun
    exact hg.release hun (hg.shape k u hu) (fun hl => by cases hl)

theorem Good.take (hg : Good h) {k : Nat} {u : User} (hu : h.users[k]? = some u)
    (hl : u.live = true) (hs : Shape { u with topics := u.topics ++ topics }) :
    Good ({ h with users := h.users.set k { u with topics := u.topics ++ topics } }.subscribe
      topics) := by
  refine hg.subscribe (fun j v hv hlv f hf => ?_) (fun j v hv => ?_)
  · rcases getElem?_put hv with ⟨rfl, rfl⟩ | ⟨_, hv⟩
    · rcases List.mem_append.mp hf with hf | hf
      · exact Or.inl (hg.held j u hu hl f hf)
      · exact Or.inr hf
    · exact Or.inl (hg.held j v hv hlv f hf)
  · rcases getElem?_put hv with ⟨rfl, rfl⟩ | ⟨_, hv⟩
    · exact hs
    · exact hg.shape j v hv

theorem isA_iff {k : Nat} {kind : Kind → Bool} :
    h.isA k kind = true ↔ ∃ u, h.users[k]? = some u ∧ u.live = true ∧ kind u.kind = true := by
  unfold isA
  cases h.users[k]? with
  | none => simp
  | some u => simp

theorem Good.registerStateChange (hg : Good h) {k : Nat} {name : String}
    (hen : h.isA k Kind.isRemote = true)
    (hname : Level name) : Good (h.registerStateChange k name) := by
  obtain ⟨⟨kind, topics, live⟩, hu, hl, hkind⟩ := isA_iff.mp hen
  cases kind with
  | view n => cases hkind
  | log => cases hkind
  | raw => cases hkind
  | remote instanceName id =>
    unfold Hub.registerStateChange
    rw [hu]
    dsimp only
    split
    · exact hg
    · obtain ⟨hn, hid, hlit⟩ := hg.shape k _ hu
      refine hg.take hu hl ⟨hn, hid, fun f hf => ?_⟩
      rcases List.mem_append.mp hf with hf | hf
      · exact hlit f hf
      · rw [List.mem_singleton.mp hf]
        exact componentTopic_literal hn hid hname

theorem Good.step (hg : Good h) {e : Event} (hen : h.Enabled e) (hap : h.Apart e) :
    Good (h.step e) := by
  cases e with
  | createView instanceName => exact hg.join ⟨hap, rfl⟩
  | closeView k => exact hg.terminate hap
  | trackRemoteComponent instanceName id =>
    exact hg.enter ⟨hap.1, hap.2, fun f hf => by cases hf⟩ rfl
  | registerStateChange k name => exact hg.registerStateChange hen hap
  | untrackRemoteComponent k => exact hg.terminate hap
  | createStream => exact hg.join rfl
  | destroyStream k => exact hg.terminate hap
  | join => exact hg.enter trivial rfl
  | subscribe k topics =>
    obtain ⟨u, hu, hl, hkind⟩ := isA_iff.mp hen
    have hk : u.kind = .raw := of_decide_eq_true hkind
    unfold Hub.step
    simp only [hu]
    exact hg.take hu hl (by simp only [Shape, hk])
  | unsubscribe k topics =>
    obtain ⟨u, hu, hl, hkind⟩ := isA_iff.mp hen
    have hk : u.kind = .raw := of_decide_eq_true hkind
    unfold Hub.step
    simp only [hu]
    refine hg.release hap (by simp only [Shape, hk]) (fun _ f hf => ?_)
    obtain ⟨hf, hn⟩ := List.mem_filter.mp hf
    exact ⟨hg.held k u hu hl f hf, of_decide_eq_true hn⟩

end Calls

/-- A client that is online. -/
def onlineWorld : World :=
  { instanceName := "studio", online := true, connected := true, handlers := [.done] }

def apartRun : List Event :=
  [.createView "hall", .createView "attic", .trackRemoteComponent "hall" "lamp",
    .registerStateChange 2 "value", .createStream, .closeView 1, .untrackRemoteComponent 2]

end Hub

end MylifeHome.Bus.Subscribers
