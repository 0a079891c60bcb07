import MylifeHome.Lib.Mqtt
import MylifeHome.Lib.Run

/-!
# The bus client and its connection

`Client` of `mylife-home-common`: its online flag and subscription set, the packets
it has sent and the broker has not taken yet, and the connect handlers that are
running, each stopped at one of its awaits. A handler is not cancelled when the
connection closes. Packets are taken in order, and only while connected; taking a
packet resolves the await of its sender, which then runs up to its next one.
-/
namespace MylifeHome.Bus

open MylifeHome.Lib MylifeHome.Lib.Mqtt

/-- `buildTopic` and `buildRemoteTopic`: the parts joined. -/
def buildTopic (instanceName : String) (parts : List String) : String :=
  String.intercalate "/" (instanceName :: parts)

/-- The topic of a state or an action of a component. -/
def componentTopic (instanceName id name : String) : String :=
  buildTopic instanceName ["components", id, name]

theorem split_buildTopic {name : String} {parts : List String}
    (h : ∀ p ∈ name :: parts, '/' ∉ p.toList) :
    Text.split (buildTopic name parts) '/' = name :: parts :=
  Text.split_of_toList h (by simp) (by rw [buildTopic, String.toList_intercalate]; rfl)

theorem split_componentTopic {instanceName id name : String} (hi : Level instanceName)
    (hc : Level id) (hn : Level name) :
    Text.split (componentTopic instanceName id name) '/' = [instanceName, "components", id, name] :=
  split_buildTopic (by simp [hi.1, hc.1, hn.1])

theorem componentTopic_literal {instanceName id name : String} (hi : Level instanceName)
    (hc : Level id)
    (hn : Level name) : ∀ l ∈ Text.split (componentTopic instanceName id name) '/', l ≠ "+" ∧
      l ≠ "#" := by
  rw [split_componentTopic hi hc hn]
  simp [hi.2, hc.2, hn.2]

/-- The topic is one of the instance: `topic.startsWith(instanceName + '/')`. -/
def isUnder (instanceName topic : String) : Bool :=
  (instanceName ++ "/").toList.isPrefixOf topic.toList

/-- Who published a message: a call of the process, with the number of times the
client had gone online, a clear of `clearResidentState`, a connect handler, or
another client of the broker. -/
inductive Tag where
  | own (onlines : Nat)
  | resident
  | handler
  | other
  deriving DecidableEq

/-- Where a connect handler is: the await it is stopped at, or `announced` between
`onlineChange(true)` and what follows it. -/
inductive Stage where
  | clearing
  | subscribing (elapsed : Bool)
  | sleeping
  | unsubscribing
  | announcing
  | announced
  | resubscribing
  | done
  deriving DecidableEq

/-- The listener `clearTopic` is on while the handler is in `clearResidentState`. -/
def Stage.listens : Stage → Bool
  | .subscribing _ | .sleeping => true
  | _ => false

/-- The stages of a handler that found the client offline and has not announced it. -/
def Stage.isOffline : Stage → Bool
  | .clearing | .sleeping | .announcing => true
  | _ => false

structure World where
  instanceName : String
  online : Bool := false
  subscriptions : List String := []
  /-- How many times `onlineChange(true)` had an effect. -/
  onlines : Nat := 0
  connected : Bool := false
  broker : Broker Tag := {}
  /-- What was sent, each packet with the handler that awaits it. -/
  outbox : List (Packet Tag × Option Nat) := []
  inbox : List (Message Tag) := []
  handlers : List Stage := []
  /-- A message that the process had published since it went online was cleared by
  `clearResidentState`. -/
  lost : Bool := false

namespace World

variable (w : World)

def onlineTopic : String := buildTopic w.instanceName ["online"]

def selfStateTopic : String := buildTopic w.instanceName ["#"]

def send (p : Packet Tag) (waiter : Option Nat) : World :=
  { w with outbox := w.outbox ++ [(p, waiter)] }

def setStage (k : Nat) (stage : Stage) : World := { w with handlers := w.handlers.set k stage }

def publish (topic : String) (payload : Payload) (retain : Bool) : World :=
  w.send (.publish { topic, payload, retain, tag := .own w.onlines }) none

def subscribe (topics : List String) (waiter : Option Nat) : World :=
  let w := { w with subscriptions := w.subscriptions ∪ topics }
  if w.online then w.send (.subscribe topics) waiter else w

def unsubscribe (topics : List String) (waiter : Option Nat) : World :=
  let w := { w with subscriptions := w.subscriptions.filter fun t => decide (t ∉ topics) }
  if w.online then w.send (.unsubscribe topics) waiter else w

/-! The connect handler, from one await to the next. -/

def startHandler : World :=
  { w with handlers := w.handlers ++ [Stage.clearing] }.send
    (.publish { topic := w.onlineTopic, payload := [], retain := true, tag := .handler })
      (some w.handlers.length)

/-- The head of `clearResidentState`. -/
def enterResident (k : Nat) : World :=
  (w.subscribe [w.selfStateTopic] (some k)).setStage k (if w.online then .subscribing false
    else .sleeping)

def announce (k : Nat) : World :=
  (w.send (.publish { topic := w.onlineTopic, payload := [1], retain := true, tag := .handler })
    (some k)).setStage k
    .announcing

/-- The end of `clearResidentState`. -/
def leaveResident (k : Nat) : World :=
  let w' := w.unsubscribe [w.selfStateTopic] (some k)
  if w.online then w'.setStage k .unsubscribing else w'.announce k

def goOnline (k : Nat) : World :=
  { w with online := true, onlines := if w.online then w.onlines else w.onlines + 1 }.setStage k
    .announced

/-- The last lines of the handler. -/
def resubscribe (k : Nat) : World :=
  if w.subscriptions = [] then w.setStage k .done
  else (w.send (.subscribe w.subscriptions) (some k)).setStage k .resubscribing

/-- The await of the handler is resolved. -/
def resume (k : Nat) : World :=
  match w.handlers[k]? with
  | some .clearing => w.enterResident k
  | some (.subscribing elapsed) => if elapsed then w.leaveResident k else w.setStage k .sleeping
  | some .unsubscribing => w.announce k
  | some .announcing => w.goOnline k
  | some .resubscribing => w.setStage k .done
  | _ => w

/-- The timer of `sleepWithReset` fires. -/
def elapse (k : Nat) : World :=
  match w.handlers[k]? with
  | some (.subscribing _) => w.setStage k (.subscribing true)
  | some .sleeping => w.leaveResident k
  | _ => w

/-- The packet is a clear of `clearResidentState` that hits a message which the
process has published since it is online. -/
def loses : Packet Tag → Bool
  | .publish m =>
    decide (m.tag = .resident) && decide (0 < w.onlines) &&
      ((w.broker.retained.get m.topic).map Message.tag == some (.own w.onlines))
  | _ => false

/-- The broker takes a packet and leaves the rest. -/
def taken (p : Packet Tag) (rest : List (Packet Tag × Option Nat)) : World :=
  { w with
    broker := (w.broker.process p).1
    inbox := w.inbox ++ (w.broker.process p).2
    outbox := rest
    lost := w.lost || w.loses p }

/-- The broker takes the first packet, and the handler that awaits it goes on. -/
def process : World :=
  match w.outbox with
  | [] => w
  | (p, none) :: rest => w.taken p rest
  | (p, some k) :: rest => (w.taken p rest).resume k

/-- `clearTopic` -/
def clearTopic (m : Message Tag) : World :=
  if m.retain && !m.payload.isEmpty && isUnder w.instanceName m.topic then
    w.send (.publish { topic := m.topic, payload := [], retain := true, tag := .resident }) none
  else w

/-- The first message that was received goes to each listener. -/
def deliver : World :=
  match w.inbox with
  | [] => w
  | m :: rest =>
    (w.handlers.filter Stage.listens).foldl (fun w _ => w.clearTopic m) { w with inbox := rest }

def connect : World := { w with connected := true }.startHandler

/-- The session ends with the connection: its subscriptions and the messages under
way are gone, and the broker publishes the will. -/
def close : World :=
  { w with
    connected := false
    online := false
    inbox := []
    broker := { retained := w.broker.retained.delete w.onlineTopic, filters := [] } }

end World

inductive Event where
  | connect
  | close
  | process
  | deliver
  | elapse (k : Nat)
  | resubscribe (k : Nat)
  | publish (topic : String) (payload : Payload) (retain : Bool)
  | subscribe (topics : List String)
  | unsubscribe (topics : List String)
  | remote (topic : String) (payload : Payload) (retain : Bool)
  deriving DecidableEq

namespace World

def step (w : World) : Event → World
  | .connect => w.connect
  | .close => w.close
  | .process => w.process
  | .deliver => w.deliver
  | .elapse k => w.elapse k
  | .resubscribe k => w.resubscribe k
  | .publish topic payload retain => w.publish topic payload retain
  | .subscribe topics => w.subscribe topics none
  | .unsubscribe topics => w.unsubscribe topics none
  | .remote topic payload retain =>
    let message : Message Tag := { topic, payload, retain, tag := .other }
    { w with
      broker := (w.broker.process (.publish message)).1
      inbox := w.inbox ++ (w.broker.process (.publish message)).2 }

/-- When an event can happen. -/
def Enabled (w : World) : Event → Prop
  | .connect => w.connected = false
  | .close => w.connected = true
  | .process => w.connected = true
  | .resubscribe k => w.handlers[k]? = some .announced
  | _ => True

instance (w : World) (e : Event) : Decidable (Enabled w e) := by
  cases e <;> unfold Enabled <;> infer_instance

/-- Nothing is pending. -/
def Settled (w : World) : Prop := w.outbox = [] ∧ ∀ stage ∈ w.handlers, stage = .done

/-- The condition on a close: no connect handler is running, and no subscribe or
unsubscribe is pending. -/
def Calm (w : World) : Event → Prop
  | .close => (∀ stage ∈ w.handlers, stage = .done) ∧ ∀ p ∈ w.outbox, p.1.isPublish = true
  | _ => True

instance (w : World) (e : Event) : Decidable (Calm w e) := by
  cases e <;> unfold Calm <;> infer_instance

/-- A client that was just made, with what its broker retains. -/
def start (instanceName : String) (retained : OMap String (Message Tag)) : World :=
  { instanceName, broker := { retained } }

/-! ## Flaps -/

/-- The filters once the broker has taken what was sent. -/
def replay (filters : List String) (outbox : List (Packet Tag × Option Nat)) : List String :=
  outbox.foldl (fun fs p => p.1.applyFilters fs) filters

theorem replay_append (filters : List String) (outbox : List (Packet Tag × Option Nat))
    (p : Packet Tag × Option Nat) :
    replay filters (outbox ++ [p]) = p.1.applyFilters (replay filters outbox) := by
  simp [replay]

theorem replay_publishes {filters : List String} {outbox : List (Packet Tag × Option Nat)}
    (h : ∀ p ∈ outbox, p.1.isPublish = true) : replay filters outbox = filters := by
  induction outbox with
  | nil => rfl
  | cons p outbox ih =>
    have hp := h p List.mem_cons_self
    obtain ⟨packet, waiter⟩ := p
    cases packet with
    | publish m => exact ih (fun q hq => h q (List.mem_cons_of_mem _ hq))
    | subscribe fs => cases hp
    | unsubscribe fs => cases hp

/-- Before `onlineChange(true)`: nothing is subscribed or asked to be. -/
structure Offline (w : World) : Prop where
  online : w.online = false
  filters : w.broker.filters = []
  inbox : w.inbox = []
  publishes : ∀ p ∈ w.outbox, p.1.isPublish = true

/-- Where a calm run can be: disconnected, in a connect handler before or after
`onlineChange(true)`, or online. -/
inductive Phase (w : World) (n : Nat) : Prop where
  | disconnected (hc : w.connected = false) (hh : w.handlers = List.replicate n .done)
    (ho : Offline w)
  | handshake (stage : Stage) (hs : stage.isOffline = true) (hc : w.connected = true)
      (hh : w.handlers = List.replicate n .done ++ [stage]) (ho : Offline w)
  | announced (hc : w.connected = true) (hh : w.handlers = List.replicate n .done ++ [.announced])
      (ho : w.online = true) (hsub : ∀ t ∈ replay w.broker.filters w.outbox, t ∈ w.subscriptions)
  | online (stage : Stage) (hs : stage = .resubscribing ∨ stage = .done) (hc : w.connected = true)
      (hh : w.handlers = List.replicate n .done ++ [stage]) (ho : w.online = true)
      (hsub : ∀ t, t ∈ replay w.broker.filters w.outbox ↔ t ∈ w.subscriptions)

/-- No clear of `clearResidentState` is on its way. -/
def NotResident : Packet Tag → Prop
  | .publish m => m.tag ≠ .resident
  | _ => True

structure Good (w : World) : Prop where
  lost : w.lost = false
  resident : ∀ p ∈ w.outbox, NotResident p.1
  phase : ∃ n, Phase w n

section Lookup

variable {n k : Nat} {stage : Stage}

theorem getElem?_last : (List.replicate n Stage.done ++ [stage])[n]? = some stage := by
  simp

theorem getElem?_other (hk : k ≠ n) :
    (List.replicate n Stage.done ++ [stage])[k]? = some .done ∨
      (List.replicate n Stage.done ++ [stage])[k]? = none := by
  rcases Nat.lt_or_gt_of_ne hk with h | h
  · exact Or.inl (by simp [List.getElem?_append_left, h])
  · exact Or.inr (by simp; omega)

theorem set_last (stage' : Stage) :
    (List.replicate n Stage.done ++ [stage]).set n stage' =
      List.replicate n Stage.done ++ [stage'] := by
  simp [List.set_append_right]

variable {w : World}

theorem resume_idle (h : w.handlers[k]? = some .done ∨ w.handlers[k]? = none) : w.resume k = w := by
  unfold resume
  rcases h with h | h <;> rw [h]

theorem elapse_idle (h : w.handlers[k]? = some .done ∨ w.handlers[k]? = none) : w.elapse k = w := by
  unfold elapse
  rcases h with h | h <;> rw [h]

/-- Only the last handler may be running. -/
theorem Phase.idle (h : Phase w n) (hk : k ≠ n) : w.handlers[k]? = some .done ∨
    w.handlers[k]? = none := by
  cases h with
  | disconnected _ hh _ =>
    rw [hh]
    by_cases hk : k < n
    · exact Or.inl (by simp [hk])
    · exact Or.inr (by simp; omega)
  | handshake _ _ _ hh _ => rw [hh]; exact getElem?_other hk
  | announced _ hh _ _ => rw [hh]; exact getElem?_other hk
  | online _ _ _ hh _ _ => rw [hh]; exact getElem?_other hk

theorem enterResident_offline (h : w.online = false) :
    w.enterResident k = { w with
      subscriptions := w.subscriptions ∪ [w.selfStateTopic]
      handlers := w.handlers.set k .sleeping } := by
  simp [enterResident, subscribe, h, setStage]

theorem leaveResident_offline (h : w.online = false) :
    w.leaveResident k =
      { w with subscriptions := w.subscriptions.filter fun t => decide (t ∉
        [w.selfStateTopic]) }.announce k := by
  simp [leaveResident, unsubscribe, h]

end Lookup

section Preserved

variable {w : World} {n : Nat}

theorem loses_eq_false {p : Packet Tag} (h : NotResident p) : w.loses p = false := by
  cases p with
  | publish m =>
    have hm : decide (m.tag = .resident) = false := decide_eq_false h
    simp [loses, hm]
  | subscribe fs => rfl
  | unsubscribe fs => rfl

theorem Offline.taken (ho : Offline w) {p : Packet Tag} {waiter : Option Nat}
    {rest : List (Packet Tag × Option Nat)}
    (hout : w.outbox = (p, waiter) :: rest) : Offline (w.taken p rest) := by
  have hp := ho.publishes (p, waiter) (by rw [hout]; exact List.mem_cons_self)
  cases p with
  | publish m =>
    have hproc := process_publish_unsubscribed (m := m) ho.filters
    refine ⟨ho.online, ?_, ?_,
      fun q hq => ho.publishes q (by rw [hout]; exact List.mem_cons_of_mem _ hq)⟩
    · show (w.broker.process (.publish m)).1.filters = []
      rw [filters_process]
      exact ho.filters
    · show w.inbox ++ (w.broker.process (.publish m)).2 = []
      rw [hproc, ho.inbox]
      rfl
  | subscribe fs => cases hp
  | unsubscribe fs => cases hp

theorem Offline.send (ho : Offline w) (m : Message Tag) (waiter : Option Nat) :
    Offline (w.send (.publish m) waiter) := by
  refine ⟨ho.online, ho.filters, ho.inbox, fun p hp => ?_⟩
  rcases List.mem_append.mp hp with hp | hp
  · exact ho.publishes p hp
  · rw [List.mem_singleton.mp hp]; rfl

theorem replay_taken {p : Packet Tag} {waiter : Option Nat} {rest : List (Packet Tag × Option Nat)}
    (hout : w.outbox = (p, waiter) :: rest) :
    replay (w.taken p rest).broker.filters (w.taken p rest).outbox =
      replay w.broker.filters w.outbox := by
  show replay (w.broker.process p).1.filters rest = replay w.broker.filters w.outbox
  rw [hout, filters_process]
  rfl

theorem resident_append {outbox : List (Packet Tag × Option Nat)} {p : Packet Tag × Option Nat}
    (h : ∀ p ∈ outbox, NotResident p.1) (hp : NotResident p.1) : ∀ q ∈ outbox ++ [p],
      NotResident q.1 := by
  intro q hq
  rcases List.mem_append.mp hq with hq | hq
  · exact h q hq
  · rw [List.mem_singleton.mp hq]; exact hp

theorem Good.taken (hg : Good w) {p : Packet Tag} {waiter : Option Nat}
    {rest : List (Packet Tag × Option Nat)}
    (hout : w.outbox = (p, waiter) :: rest) : Good (w.taken p rest) := by
  have hp : NotResident p := hg.resident (p, waiter) (by rw [hout]; exact List.mem_cons_self)
  refine ⟨?_, fun q hq => hg.resident q (by rw [hout]; exact List.mem_cons_of_mem _ hq), ?_⟩
  · show (w.lost || w.loses p) = false
    rw [hg.lost, loses_eq_false hp]
    rfl
  · obtain ⟨n, hphase⟩ := hg.phase
    refine ⟨n, ?_⟩
    cases hphase with
    | disconnected hc hh ho => exact .disconnected hc hh (ho.taken hout)
    | handshake stage hs hc hh ho => exact .handshake stage hs hc hh (ho.taken hout)
    | announced hc hh ho hsub => exact .announced hc hh ho (by rw [replay_taken hout]; exact hsub)
    | online stage hs hc hh ho hsub =>
      exact .online stage hs hc hh ho (by rw [replay_taken hout]; exact hsub)

theorem Good.announce (hg : Good w) {stage : Stage} (hc : w.connected = true)
    (hh : w.handlers = List.replicate n .done ++ [stage]) (ho : Offline w) :
    Good (w.announce n) := by
  refine ⟨hg.lost, resident_append hg.resident (by simp [NotResident]), n, ?_⟩
  refine .handshake .announcing rfl hc ?_ ⟨ho.online, ho.filters, ho.inbox, (ho.send _ _).publishes⟩
  show w.handlers.set n _ = _
  rw [hh, set_last]

/-- What is subscribed offline is only noted. -/
theorem Offline.subscriptions (ho : Offline w) (subscriptions : List String) :
    Offline { w with subscriptions } :=
  { ho with }

/-- A handler that goes on finds the client offline up to its announcement. -/
theorem Good.resume (hg : Good w) (k : Nat) : Good (w.resume k) := by
  obtain ⟨n, hphase⟩ := hg.phase
  by_cases hk : k = n
  · subst hk
    cases hphase with
    | disconnected hc hh ho =>
      rw [resume_idle (Or.inr (by rw [hh]; simp))]
      exact hg
    | handshake stage hs hc hh ho =>
      have hget : w.handlers[k]? = some stage := by rw [hh, getElem?_last]
      cases stage with
      | clearing =>
        have hres : w.resume k = w.enterResident k := by rw [World.resume, hget]
        rw [hres, enterResident_offline ho.online]
        refine ⟨hg.lost, hg.resident, k, .handshake .sleeping rfl hc ?_ ?_⟩
        · show w.handlers.set k _ = _
          rw [hh, set_last]
        · exact { ho with }
      | announcing =>
        have hres : w.resume k = w.goOnline k := by rw [World.resume, hget]
        rw [hres]
        refine ⟨hg.lost, hg.resident, k, .announced hc ?_ rfl ?_⟩
        · show w.handlers.set k _ = _
          rw [hh, set_last]
        · show ∀ t ∈ replay w.broker.filters w.outbox, _
          rw [replay_publishes ho.publishes, ho.filters]
          simp
      | sleeping =>
        have hres : w.resume k = w := by rw [World.resume, hget]
        rw [hres]
        exact hg
      | subscribing _ | unsubscribing | announced | resubscribing | done => cases hs
    | announced hc hh ho hsub =>
      have hget : w.handlers[k]? = some .announced := by rw [hh, getElem?_last]
      have hres : w.resume k = w := by rw [World.resume, hget]
      rw [hres]
      exact hg
    | online stage hs hc hh ho hsub =>
      have hget : w.handlers[k]? = some stage := by rw [hh, getElem?_last]
      rcases hs with rfl | rfl
      · have hres : w.resume k = w.setStage k .done := by rw [World.resume, hget]
        rw [hres]
        refine ⟨hg.lost, hg.resident, k, .online .done (Or.inr rfl) hc ?_ ho hsub⟩
        show w.handlers.set k _ = _
        rw [hh, set_last]
      · rw [resume_idle (Or.inl hget)]
        exact hg
  · rw [resume_idle (hphase.idle hk)]
    exact hg

theorem Good.process (hg : Good w) : Good w.process := by
  unfold World.process
  split
  · exact hg
  · next p rest hout => exact hg.taken hout
  · next p k rest hout => exact (hg.taken hout).resume k

theorem Good.elapse (hg : Good w) (k : Nat) : Good (w.elapse k) := by
  obtain ⟨n, hphase⟩ := hg.phase
  by_cases hk : k = n
  · subst hk
    -- The timer is awaited offline only.
    have hidle : (∀ b, w.handlers[k]? ≠ some (.subscribing b)) → w.handlers[k]? ≠ some .sleeping →
        w.elapse k = w := by
      intro h₁ h₂
      unfold World.elapse
      split
      · next b h => exact absurd h (h₁ b)
      · next h => exact absurd h h₂
      · rfl
    cases hphase with
    | disconnected hc hh ho =>
      rw [elapse_idle (Or.inr (by rw [hh]; simp))]
      exact hg
    | handshake stage hs hc hh ho =>
      have hget : w.handlers[k]? = some stage := by rw [hh, getElem?_last]
      cases stage with
      | sleeping =>
        have hel : w.elapse k = w.leaveResident k := by rw [World.elapse, hget]
        rw [hel, leaveResident_offline ho.online]
        have hg' : Good { w with
            subscriptions := w.subscriptions.filter fun t => decide (t ∉ [w.selfStateTopic]) } :=
          ⟨hg.lost, hg.resident, k, .handshake .sleeping rfl hc hh (ho.subscriptions _)⟩
        exact hg'.announce hc hh (ho.subscriptions _)
      | clearing | announcing =>
        rw [hidle (by rw [hget]; simp) (by rw [hget]; simp)]
        exact hg
      | subscribing _ | unsubscribing | announced | resubscribing | done => cases hs
    | announced hc hh ho hsub =>
      have hget : w.handlers[k]? = some .announced := by rw [hh, getElem?_last]
      rw [hidle (by rw [hget]; simp) (by rw [hget]; simp)]
      exact hg
    | online stage hs hc hh ho hsub =>
      have hget : w.handlers[k]? = some stage := by rw [hh, getElem?_last]
      rw [hidle (by rw [hget]; rcases hs with rfl | rfl <;> simp)
        (by rw [hget]; rcases hs with rfl | rfl <;> simp)]
      exact hg
  · rw [elapse_idle (hphase.idle hk)]
    exact hg

theorem Good.resubscribe (hg : Good w) {k : Nat} (hen : w.handlers[k]? = some .announced) :
    Good (w.resubscribe k) := by
  obtain ⟨n, hphase⟩ := hg.phase
  have hk : k = n := by
    by_contra hk
    rcases hphase.idle hk with h | h <;> rw [h] at hen <;> cases hen
  subst hk
  cases hphase with
  | disconnected hc hh ho =>
    rw [hh] at hen
    simp at hen
  | handshake stage hs hc hh ho =>
    rw [hh, getElem?_last] at hen
    cases hen
    cases hs
  | announced hc hh ho hsub =>
    unfold World.resubscribe
    split
    · next hnone =>
      refine ⟨hg.lost, hg.resident, k,
        .online .done (Or.inr rfl) hc ?_ ho (fun t => ⟨hsub t, fun ht => ?_⟩)⟩
      · show w.handlers.set k _ = _
        rw [hh, set_last]
      · have ht' : t ∈ w.subscriptions := ht
        rw [hnone] at ht'
        cases ht'
    · refine ⟨hg.lost, resident_append hg.resident trivial, k,
        .online .resubscribing (Or.inl rfl) hc ?_ ho ?_⟩
      · show w.handlers.set k _ = _
        rw [hh, set_last]
      · intro t
        show t ∈ replay w.broker.filters (w.outbox ++ [_]) ↔ t ∈ w.subscriptions
        rw [replay_append, mem_applyFilters_subscribe]
        exact ⟨fun h => h.elim (hsub t) id, Or.inr⟩
  | online stage hs hc hh ho hsub =>
    rw [hh, getElem?_last] at hen
    rcases hs with rfl | rfl <;> cases hen

theorem Good.publish (hg : Good w) (topic : String) (payload : Payload) (retain : Bool) :
    Good (w.publish topic payload retain) := by
  refine ⟨hg.lost, resident_append hg.resident (by simp [NotResident]), ?_⟩
  obtain ⟨n, hphase⟩ := hg.phase
  refine ⟨n, ?_⟩
  cases hphase with
  | disconnected hc hh ho => exact .disconnected hc hh (ho.send _ _)
  | handshake stage hs hc hh ho => exact .handshake stage hs hc hh (ho.send _ _)
  | announced hc hh ho hsub =>
    refine .announced hc hh ho ?_
    show ∀ t ∈ replay w.broker.filters (w.outbox ++ [_]), _
    rw [replay_append]
    exact hsub
  | online stage hs hc hh ho hsub =>
    refine .online stage hs hc hh ho ?_
    show ∀ t, t ∈ replay w.broker.filters (w.outbox ++ [_]) ↔ _
    rw [replay_append]
    exact hsub

/-- A change of the subscriptions that is sent at once when the client is online. -/
theorem Good.resubscribed (hg : Good w) (packet : Packet Tag) (hp : NotResident packet) :
    Good (if w.online then { w with subscriptions := packet.applyFilters w.subscriptions }.send
      packet none
      else { w with subscriptions := packet.applyFilters w.subscriptions }) := by
  obtain ⟨n, hphase⟩ := hg.phase
  have hoff : w.online = false → ¬ w.online = true := fun ho => by simp [ho]
  cases hphase with
  | disconnected hc hh ho =>
    rw [if_neg (hoff ho.online)]
    exact ⟨hg.lost, hg.resident, n, .disconnected hc hh (ho.subscriptions _)⟩
  | handshake stage hs hc hh ho =>
    rw [if_neg (hoff ho.online)]
    exact ⟨hg.lost, hg.resident, n, .handshake stage hs hc hh (ho.subscriptions _)⟩
  | announced hc hh ho hsub =>
    rw [if_pos ho]
    refine ⟨hg.lost, resident_append hg.resident hp, n, .announced hc hh ho fun t => ?_⟩
    rw [World.send, replay_append]
    exact mem_applyFilters_mono (hsub t)
  | online stage hs hc hh ho hsub =>
    rw [if_pos ho]
    refine ⟨hg.lost, resident_append hg.resident hp, n, .online stage hs hc hh ho fun t => ?_⟩
    rw [World.send, replay_append]
    exact ⟨mem_applyFilters_mono (hsub t).mp, mem_applyFilters_mono (hsub t).mpr⟩

theorem Good.subscribe (hg : Good w) (topics : List String) : Good (w.subscribe topics none) :=
  hg.resubscribed (.subscribe topics) trivial

theorem Good.unsubscribe (hg : Good w) (topics : List String) : Good (w.unsubscribe topics none) :=
  hg.resubscribed (.unsubscribe topics) trivial

theorem Good.deliver (hg : Good w) : Good w.deliver := by
  obtain ⟨n, hphase⟩ := hg.phase
  have hempty : w.inbox = [] → w.deliver = w := by
    intro h
    unfold World.deliver
    rw [h]
  -- Online, no handler has its listener on.
  have hquiet : ∀ stage : Stage, stage.listens = false →
    w.handlers = List.replicate n .done ++ [stage] →
      ∃ inbox, w.deliver = { w with inbox } := by
    intro stage hs hh
    have hnone : w.handlers.filter Stage.listens = [] := by
      rw [hh, List.filter_append, List.filter_replicate_of_neg (by decide),
        List.filter_singleton, hs]
      rfl
    unfold World.deliver
    rw [hnone]
    cases hi : w.inbox with
    | nil => exact ⟨w.inbox, rfl⟩
    | cons m rest => exact ⟨rest, rfl⟩
  cases hphase with
  | disconnected hc hh ho => rw [hempty ho.inbox]; exact hg
  | handshake stage hs hc hh ho => rw [hempty ho.inbox]; exact hg
  | announced hc hh ho hsub =>
    obtain ⟨inbox, hd⟩ := hquiet _ rfl hh
    rw [hd]
    exact ⟨hg.lost, hg.resident, n, .announced hc hh ho hsub⟩
  | online stage hs hc hh ho hsub =>
    obtain ⟨inbox, hd⟩ := hquiet _ (by rcases hs with rfl | rfl <;> rfl) hh
    rw [hd]
    exact ⟨hg.lost, hg.resident, n, .online stage hs hc hh ho hsub⟩

theorem Good.connect (hg : Good w) (hen : w.connected = false) : Good w.connect := by
  obtain ⟨n, hphase⟩ := hg.phase
  cases hphase with
  | disconnected hc hh ho =>
    refine ⟨hg.lost, resident_append hg.resident (by simp [NotResident]), n,
      .handshake .clearing rfl rfl ?_ ?_⟩
    · show w.handlers ++ [Stage.clearing] = _
      rw [hh]
    · exact ⟨ho.online, ho.filters, ho.inbox, (ho.send _ _).publishes⟩
  | handshake stage hs hc hh ho => rw [hc] at hen; cases hen
  | announced hc hh ho hsub => rw [hc] at hen; cases hen
  | online stage hs hc hh ho hsub => rw [hc] at hen; cases hen

theorem Good.close (hg : Good w) (hcalm : Calm w .close) : Good w.close := by
  obtain ⟨hdone, hpub⟩ := hcalm
  refine ⟨hg.lost, hg.resident, w.handlers.length, .disconnected rfl ?_ ⟨rfl, rfl, rfl, hpub⟩⟩
  exact List.eq_replicate_of_mem hdone

theorem Good.remote (hg : Good w) (m : Message Tag) :
    Good { w with
      broker := (w.broker.process (.publish m)).1
      inbox := w.inbox ++ (w.broker.process (.publish m)).2 } := by
  refine ⟨hg.lost, hg.resident, ?_⟩
  obtain ⟨n, hphase⟩ := hg.phase
  have hf : (w.broker.process (.publish m)).1.filters = w.broker.filters := filters_process
  have hoff : Offline w → Offline { w with
      broker := (w.broker.process (.publish m)).1
      inbox := w.inbox ++ (w.broker.process (.publish m)).2 } := by
    intro ho
    refine ⟨ho.online, hf.trans ho.filters, ?_, ho.publishes⟩
    show w.inbox ++ (w.broker.process (.publish m)).2 = []
    rw [process_publish_unsubscribed ho.filters, ho.inbox]
    rfl
  refine ⟨n, ?_⟩
  cases hphase with
  | disconnected hc hh ho => exact .disconnected hc hh (hoff ho)
  | handshake stage hs hc hh ho => exact .handshake stage hs hc hh (hoff ho)
  | announced hc hh ho hsub => exact .announced hc hh ho (by rw [hf]; exact hsub)
  | online stage hs hc hh ho hsub => exact .online stage hs hc hh ho (by rw [hf]; exact hsub)

theorem Good.step (hg : Good w) {e : Event} (hen : w.Enabled e) (hcalm : w.Calm e) :
    Good (w.step e) := by
  cases e with
  | connect => exact hg.connect hen
  | close => exact hg.close hcalm
  | process => exact hg.process
  | deliver => exact hg.deliver
  | elapse k => exact hg.elapse k
  | resubscribe k => exact hg.resubscribe hen
  | publish topic payload retain => exact hg.publish topic payload retain
  | subscribe topics => exact hg.subscribe topics
  | unsubscribe topics => exact hg.unsubscribe topics
  | remote topic payload retain => exact hg.remote _

theorem good_start (instanceName : String) (retained : OMap String (Message Tag)) :
    Good (start instanceName retained) :=
  ⟨rfl, (fun _ h => by cases h), 0, .disconnected rfl rfl ⟨rfl, rfl, rfl, fun _ h => by cases h⟩⟩

theorem Good.settled (hg : Good w) (hs : w.Settled) (ho : w.online = true) (t : String) :
    t ∈ w.broker.filters ↔ t ∈ w.subscriptions := by
  obtain ⟨n, hphase⟩ := hg.phase
  cases hphase with
  | disconnected hc hh hoff => rw [hoff.online] at ho; cases ho
  | handshake stage hs' hc hh hoff => rw [hoff.online] at ho; cases ho
  | announced hc hh _ hsub => cases hs.2 .announced (by rw [hh]; simp)
  | online stage hs' hc hh _ hsub =>
    have hsub' := hsub t
    rw [hs.1] at hsub'
    exact hsub'

end Preserved

/-- In a run whose closes are calm, `clearResidentState` never takes a message that
the process published since it is online, and the broker ends with the filters of
the subscription set. -/
theorem flaps_harmless_when_calm (instanceName : String) (retained : OMap String (Message Tag))
    (es : List Event)
    (h : Along step (fun w e => w.Enabled e ∧ w.Calm e) (start instanceName retained) es) :
    (es.foldl step (start instanceName retained)).lost = false ∧
      ((es.foldl step (start instanceName retained)).Settled →
        (es.foldl step (start instanceName retained)).online = true →
        ∀ t, t ∈ (es.foldl step (start instanceName retained)).broker.filters ↔
          t ∈ (es.foldl step (start instanceName retained)).subscriptions) := by
  have hg : Good (es.foldl step (start instanceName retained)) :=
    h.invariant (good_start instanceName retained) (fun _ _ hg hcond => hg.step hcond.1 hcond.2)
  exact ⟨hg.lost, hg.settled⟩

/-- Two calm connections, with a subscription and a publication in each. -/
def calmRun : List Event :=
  [.subscribe ["hall/metadata/#"], .connect, .process, .elapse 0, .process,
    .publish "core/metadata/plugins/p" [1] true, .resubscribe 0, .process, .process, .close,
    .unsubscribe ["hall/metadata/#"], .subscribe ["attic/metadata/#"], .connect, .process,
      .elapse 1, .process,
    .publish "core/metadata/plugins/p" [1] true, .resubscribe 1, .process, .process]

theorem flaps_harmless_when_calm_twice :
    (calmRun.foldl step (start "core" ∅)).lost = false ∧
      ((calmRun.foldl step (start "core" ∅)).Settled →
        (calmRun.foldl step (start "core" ∅)).online = true →
        ∀ t, t ∈ (calmRun.foldl step (start "core" ∅)).broker.filters ↔
          t ∈ (calmRun.foldl step (start "core" ∅)).subscriptions) ∧
      (calmRun.foldl step (start "core" ∅)).online = true ∧
        (calmRun.foldl step (start "core" ∅)).outbox = [] ∧
      (calmRun.foldl step (start "core" ∅)).subscriptions = ["attic/metadata/#"] := by
  have h := flaps_harmless_when_calm "core" ∅ calmRun (by decide +kernel)
  exact ⟨h.1, h.2, by decide +kernel, by decide +kernel, by decide +kernel⟩

/-- The connection is lost while the first handler sleeps. The handler goes on in the
second connection and brings the client online while the second handler has its
listener on and `core/#` in the set: the set is subscribed, and the metadata that
was just published is sent back as retained and cleared. -/
def flapRun : List Event :=
  [.connect, .process, .close, .connect, .elapse 0, .process, .process,
    .publish "core/metadata/plugins/p" [1] true, .resubscribe 0, .process, .process, .deliver,
      .deliver, .process, .process]

/-- A subscribe that is pending at a close reaches the broker after the topic was given up. -/
def pendingRun : List Event :=
  [.connect, .process, .elapse 0, .process, .resubscribe 0, .subscribe ["hall/metadata/#"], .close,
    .unsubscribe ["hall/metadata/#"], .connect, .process, .process, .elapse 1, .process,
      .resubscribe 1]

theorem flap_clears_published :
    (Along step Enabled (start "core" ∅) flapRun ∧
      (flapRun.foldl step (start "core" ∅)).lost = true ∧
      (flapRun.foldl step (start "core" ∅)).broker.retained.get "core/metadata/plugins/p" = none) ∧
    (Along step Enabled (start "core" ∅) pendingRun ∧
      (pendingRun.foldl step (start "core" ∅)).Settled ∧
      (pendingRun.foldl step (start "core" ∅)).online = true ∧
      (pendingRun.foldl step (start "core" ∅)).broker.filters = ["hall/metadata/#"] ∧
      (pendingRun.foldl step (start "core" ∅)).subscriptions = []) := by
  refine ⟨⟨by decide +kernel, by decide +kernel, by decide +kernel⟩,
    by decide +kernel, ⟨by decide +kernel, by decide +kernel⟩, by decide +kernel,
    by decide +kernel, by decide +kernel⟩

end World

end MylifeHome.Bus
