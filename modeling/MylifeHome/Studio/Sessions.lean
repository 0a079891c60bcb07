import MylifeHome.Lib.OMap
import MylifeHome.Lib.Text
import Mathlib.Logic.Function.Basic

/-!
# Session notifiers

`SessionImpl`, `SessionNotifier` and any number of `SessionNotifierManager`
objects on the same sessions. A session numbers its notifiers with a counter of
its own; a manager stores the notifiers of all sessions in one map keyed by that
number. The ledger below is the intended bookkeeping, per session and number,
and the main result says when a broadcast reaches exactly the ledger's entries.
-/
namespace MylifeHome.Studio.Sessions

open MylifeHome.Lib

/-- The socket of a session stands for the session object. -/
abbrev Socket := Nat

/-- `features` holds one `SessionNotifiers` set per feature name. -/
structure SessionImpl where
  notifierIdGenerator : Nat := 0
  features : OMap String (List String) := ∅

structure SessionNotifier where
  session : Socket
  id : String
  type : String
  deriving DecidableEq

/-- The message that `SessionNotifier.notify` puts on the session's socket. -/
structure Notification (Data : Type) where
  session : Socket
  notifierId : String
  notifierType : String
  data : Data
  deriving DecidableEq

def SessionNotifier.notify {Data : Type} (n : SessionNotifier) (data : Data) : Notification Data :=
  { session := n.session, notifierId := n.id, notifierType := n.type, data }

/-- Managers are told apart by their feature name. -/
abbrev FeatureName := String

structure System where
  sessions : Socket → SessionImpl
  opened : List Socket
  closed : List Socket
  notifiers : FeatureName → OMap String SessionNotifier

def System.init : System :=
  { sessions := fun _ => {}, opened := [], closed := [], notifiers := fun _ => ∅ }

section

-- The notifier type that each manager was constructed with.
variable (notifierType : FeatureName → String)

namespace System

/-- The id that `createNotifier` hands out next on a session. -/
def nextId (σ : System) (session : Socket) : String :=
  Nat.repr ((σ.sessions session).notifierIdGenerator + 1)

/-- `SessionImpl.createNotifier`, also what every other service calls. -/
def sessionCreateNotifier (σ : System) (session : Socket) : System :=
  let impl := σ.sessions session
  { σ with
    sessions := Function.update σ.sessions session
      { impl with notifierIdGenerator := impl.notifierIdGenerator + 1 } }

/-- `getNotifiersFromSession`, with the empty set for a feature not created yet. -/
def notifierIds (σ : System) (m : FeatureName) (session : Socket) : List String :=
  ((σ.sessions session).features.get m).getD []

def setNotifierIds (σ : System) (m : FeatureName) (session : Socket) (ids : List String) : System :=
  let impl := σ.sessions session
  { σ with
    sessions := Function.update σ.sessions session
      { impl with features := impl.features.set m ids } }

def setNotifiers (σ : System) (m : FeatureName) (map : OMap String SessionNotifier) : System :=
  { σ with notifiers := Function.update σ.notifiers m map }

def createNotifier (σ : System) (m : FeatureName) (session : Socket) : System :=
  let notifier : SessionNotifier := { session, id := σ.nextId session, type := notifierType m }
  let σ := σ.sessionCreateNotifier session
  let σ := σ.setNotifiers m ((σ.notifiers m).set notifier.id notifier)
  σ.setNotifierIds m session ((σ.notifierIds m session).insert notifier.id)

def removeNotifier (σ : System) (m : FeatureName) (session : Socket) (notifierId : String) :
    System :=
  let σ := σ.setNotifiers m ((σ.notifiers m).delete notifierId)
  σ.setNotifierIds m session ((σ.notifierIds m session).filter (fun id => decide (id ≠ notifierId)))

/-- `sessionHandler(session, 'close')` of every manager: each deletes the ids of
its own feature of that session. -/
def closeSession (σ : System) (session : Socket) : System :=
  { σ with
    opened := σ.opened.erase session
    closed := session :: σ.closed
    notifiers := fun m =>
      (σ.notifierIds m session).foldl (fun map id => map.delete id) (σ.notifiers m) }

def notifyAll {Data : Type} (σ : System) (m : FeatureName) (data : Data) :
    List (Notification Data) :=
  (σ.notifiers m).values.map (fun n => n.notify data)

end System

inductive Event where
  | open (session : Socket)
  | createNotifier (m : FeatureName) (session : Socket)
  | removeNotifier (m : FeatureName) (session : Socket) (notifierId : String)
  | otherCreateNotifier (session : Socket)
  | close (session : Socket)

def System.step (σ : System) : Event → System
  | .open session => { σ with opened := session :: σ.opened }
  | .createNotifier m session => σ.createNotifier notifierType m session
  | .removeNotifier m session id => σ.removeNotifier m session id
  | .otherCreateNotifier session => σ.sessionCreateNotifier session
  | .close session => σ.closeSession session

/-- A socket connects once and disconnects once, is used after it connected (a
request in flight may outlive the connection), and removes only ids it got. -/
def Enabled (σ : System) : Event → Prop
  | .open session => session ∉ σ.opened ∧ session ∉ σ.closed
  | .createNotifier _ session => session ∈ σ.opened ∨ session ∈ σ.closed
  | .removeNotifier _ session id => (session ∈ σ.opened ∨ session ∈ σ.closed) ∧
      ∃ k < (σ.sessions session).notifierIdGenerator, id = Nat.repr (k + 1)
  | .otherCreateNotifier session => session ∈ σ.opened ∨ session ∈ σ.closed
  | .close session => session ∈ σ.opened

instance (σ : System) (e : Event) : Decidable (Enabled σ e) :=
  match e with
  | .open _ => inferInstanceAs (Decidable (_ ∧ _))
  | .createNotifier _ _ => inferInstanceAs (Decidable (_ ∨ _))
  | .removeNotifier _ _ _ => inferInstanceAs (Decidable (_ ∧ _))
  | .otherCreateNotifier _ => inferInstanceAs (Decidable (_ ∨ _))
  | .close session => inferInstanceAs (Decidable (session ∈ σ.opened))

/-- What the managers are for: per manager, the pairs of a session and a number
it handed out there that are neither removed nor closed with the session. -/
structure Ledger where
  count : Socket → Nat
  live : FeatureName → List (Socket × Nat)

namespace Ledger

def init : Ledger := { count := fun _ => 0, live := fun _ => [] }

def step (l : Ledger) : Event → Ledger
  | .open _ => l
  | .createNotifier m session =>
    { count := Function.update l.count session (l.count session + 1)
      live := Function.update l.live m ((session, l.count session + 1) :: l.live m) }
  | .removeNotifier m session id =>
    { l with
      live := Function.update l.live m
        ((l.live m).filter (fun e => decide (¬ (e.1 = session ∧ Nat.repr e.2 = id)))) }
  | .otherCreateNotifier session =>
    { l with count := Function.update l.count session (l.count session + 1) }
  | .close session => { l with
    live := fun m => (l.live m).filter (fun e => decide (e.1 ≠ session)) }

/-- The notifier that one entry of the ledger stands for. -/
def notifier (m : FeatureName) (e : Socket × Nat) : SessionNotifier :=
  { session := e.1, id := Nat.repr e.2, type := notifierType m }

end Ledger

/-- Runs of the system and its ledger in which every event meets `cond` in the
state it happens in. -/
inductive Reaches (cond : System → Event → Prop) : System → Ledger → Prop
  | init : Reaches cond .init .init
  | step {σ : System} {l : Ledger} {e : Event} (h : Reaches cond σ l) (he : Enabled σ e)
  (hc : cond σ e) :
      Reaches cond (σ.step notifierType e) (l.step e)

/-- A broadcast reaches every entry of the ledger once, and nobody else. -/
def Delivers (σ : System) (l : Ledger) : Prop :=
  ∀ (m : FeatureName) (Data : Type) (data : Data),
    (σ.notifyAll m data).Perm
      ((l.live m).map (fun e => (Ledger.notifier notifierType m e).notify data))

/-- No event touches a map entry of another session: the number handed out is
not a key in use, and a number given back is not another session's key. -/
def NoClash (σ : System) : Event → Prop
  | .createNotifier m session => (σ.notifiers m).get (σ.nextId session) = none
  | .removeNotifier m session id => ∀ n ∈ (σ.notifiers m).get id, n.session = session
  | _ => True

instance (σ : System) (e : Event) : Decidable (NoClash σ e) :=
  match e with
  | .createNotifier _ _ => inferInstanceAs (Decidable (_ = none))
  | .removeNotifier m session id =>
    inferInstanceAs (Decidable (∀ n ∈ (σ.notifiers m).get id, n.session = session))
  | .open _ | .otherCreateNotifier _ | .close _ => inferInstanceAs (Decidable True)

/-- Under `NoClash` the map of a manager is the ledger, entry by entry, and the
feature of a session that is not closed lists that session's entries. -/
structure Inv (σ : System) (l : Ledger) : Prop where
  count : ∀ s, (σ.sessions s).notifierIdGenerator = l.count s
  bound : ∀ m s k, (s, k) ∈ l.live m → k ≤ l.count s
  nodup : ∀ m, (l.live m).Nodup
  map : ∀ m id n, (σ.notifiers m).get id = some n ↔
    ∃ e ∈ l.live m, n = Ledger.notifier notifierType m e ∧ id = Nat.repr e.2
  ids : ∀ m s, s ∉ σ.closed → ∀ id, id ∈ σ.notifierIds m s ↔ ∃ k, (s, k) ∈ l.live m ∧
    id = Nat.repr k
  opened : σ.opened.Nodup ∧ ∀ s ∈ σ.opened, s ∉ σ.closed

variable {notifierType} {σ : System} {l : Ledger}

theorem inv_init : Inv notifierType System.init Ledger.init := by
  constructor
  · intro s; rfl
  · intro m s k h; cases h
  · intro m; exact List.nodup_nil
  · intro m id n
    simp [System.init, Ledger.init]
  · intro m s _ id
    simp [System.init, System.notifierIds, Ledger.init]
  · exact ⟨List.nodup_nil, by intro s h; cases h⟩

/-- A number above the counter is in no entry of the session. -/
theorem Inv.fresh (h : Inv notifierType σ l) (m : FeatureName) (s : Socket) :
    (s, l.count s + 1) ∉ l.live m := by
  intro he
  have := h.bound m s _ he
  omega

theorem notifierIds_create (m m' : FeatureName) (session s : Socket) :
    (σ.createNotifier notifierType m session).notifierIds m' s =
      if m' = m ∧ s = session then (σ.notifierIds m s).insert (σ.nextId s)
      else σ.notifierIds m' s := by
  by_cases hs : s = session
  · subst hs
    by_cases hm : m' = m
    · subst hm
      simp [System.createNotifier, System.notifierIds, System.setNotifierIds, System.setNotifiers,
        System.sessionCreateNotifier]
    · simp [System.createNotifier, System.notifierIds, System.setNotifierIds, System.setNotifiers,
        System.sessionCreateNotifier, hm, OMap.get_set_ne]
  · simp [System.createNotifier, System.notifierIds, System.setNotifierIds, System.setNotifiers,
      System.sessionCreateNotifier, hs]

theorem notifiers_create (m m' : FeatureName) (session : Socket) :
    (σ.createNotifier notifierType m session).notifiers m' =
      if m' = m then (σ.notifiers m).set (σ.nextId session)
        { session, id := σ.nextId session, type := notifierType m } else σ.notifiers m' := by
  by_cases hm : m' = m
  · subst hm
    simp [System.createNotifier, System.setNotifierIds, System.setNotifiers,
      System.sessionCreateNotifier]
  · simp [System.createNotifier, System.setNotifierIds, System.setNotifiers,
      System.sessionCreateNotifier, hm]

theorem generator_create (m : FeatureName) (session s : Socket) :
    ((σ.createNotifier notifierType m session).sessions s).notifierIdGenerator =
      if s = session then (σ.sessions s).notifierIdGenerator + 1
      else (σ.sessions s).notifierIdGenerator := by
  by_cases hs : s = session
  · subst hs
    simp [System.createNotifier, System.setNotifierIds, System.setNotifiers,
      System.sessionCreateNotifier]
  · simp [System.createNotifier, System.setNotifierIds, System.setNotifiers,
      System.sessionCreateNotifier, hs]

theorem inv_create (h : Inv notifierType σ l) (m : FeatureName) (session : Socket)
    (hc : NoClash σ (.createNotifier m session)) :
    Inv notifierType (σ.step notifierType (.createNotifier m session))
      (l.step (.createNotifier m session)) := by
  have hid : σ.nextId session = Nat.repr (l.count session + 1) := by rw [System.nextId, h.count]
  have hlive : ∀ m' e, e ∈ (l.step (.createNotifier m session)).live m' ↔
      (m' = m ∧ e = (session, l.count session + 1)) ∨ e ∈ l.live m' := by
    intro m' e
    by_cases hm : m' = m
    · subst hm; simp [Ledger.step]
    · simp [Ledger.step, hm]
  have hcount : ∀ s, (l.step (.createNotifier m session)).count s =
      if s = session then l.count s + 1 else l.count s := by
    intro s
    by_cases hs : s = session
    · subst hs; simp [Ledger.step]
    · simp [Ledger.step, hs]
  constructor
  · intro s
    rw [hcount]
    show ((σ.createNotifier notifierType m session).sessions s).notifierIdGenerator = _
    rw [generator_create, h.count]
  · intro m' s k he
    rw [hcount]
    rcases (hlive m' _).mp he with ⟨_, he⟩ | he
    · cases he; simp
    · have := h.bound m' s k he
      split <;> omega
  · intro m'
    by_cases hm : m' = m
    · subst hm
      have he : (l.step (.createNotifier m' session)).live m' = (session, l.count session + 1) ::
          l.live m' := by
        simp [Ledger.step]
      rw [he]
      exact List.nodup_cons.mpr ⟨h.fresh m' session, h.nodup m'⟩
    · have he : (l.step (.createNotifier m session)).live m' = l.live m' := by
        simp [Ledger.step, hm]
      rw [he]
      exact h.nodup m'
  · intro m' id n
    show ((σ.createNotifier notifierType m session).notifiers m').get id = some n ↔ _
    rw [notifiers_create]
    by_cases hm : m' = m
    · subst hm
      have hold : ¬ ∃ e ∈ l.live m', σ.nextId session = Nat.repr e.2 := by
        rintro ⟨e, he, hr⟩
        have := (h.map m' (σ.nextId session) _).mpr ⟨e, he, rfl, hr⟩
        rw [hc] at this
        cases this
      rw [if_pos rfl, OMap.get_set_eq_some, h.map]
      constructor
      · rintro (⟨rfl, rfl⟩ | ⟨hne, e, he, hn, hr⟩)
        · exact ⟨_, (hlive m' _).mpr (Or.inl ⟨rfl, rfl⟩), by simp [Ledger.notifier, hid], hid⟩
        · exact ⟨e, (hlive m' e).mpr (Or.inr he), hn, hr⟩
      · rintro ⟨e, he, hn, hr⟩
        rcases (hlive m' e).mp he with ⟨_, rfl⟩ | he
        · exact Or.inl ⟨by rw [hr, hid], by simp [hn, Ledger.notifier, hid]⟩
        · refine Or.inr ⟨?_, e, he, hn, hr⟩
          intro hid'
          exact hold ⟨e, he, by rw [← hid', hr]⟩
    · rw [if_neg hm, h.map]
      simp [hlive, hm]
  · intro m' s hs id
    show id ∈ (σ.createNotifier notifierType m session).notifierIds m' s ↔ _
    have hold := h.ids m' s hs id
    rw [notifierIds_create]
    by_cases hms : m' = m ∧ s = session
    · obtain ⟨rfl, rfl⟩ := hms
      rw [if_pos ⟨rfl, rfl⟩, List.mem_insert_iff, hold, hid]
      constructor
      · rintro (rfl | ⟨k, hk, rfl⟩)
        · exact ⟨_, (hlive m' _).mpr (Or.inl ⟨rfl, rfl⟩), rfl⟩
        · exact ⟨k, (hlive m' _).mpr (Or.inr hk), rfl⟩
      · rintro ⟨k, hk, rfl⟩
        rcases (hlive m' _).mp hk with ⟨_, hk⟩ | hk
        · cases hk; exact Or.inl rfl
        · exact Or.inr ⟨k, hk, rfl⟩
    · rw [if_neg hms, hold]
      constructor
      · rintro ⟨k, hk, rfl⟩
        exact ⟨k, (hlive m' _).mpr (Or.inr hk), rfl⟩
      · rintro ⟨k, hk, rfl⟩
        rcases (hlive m' _).mp hk with ⟨hm, he⟩ | hl
        · cases he; exact absurd ⟨hm, rfl⟩ hms
        · exact ⟨k, hl, rfl⟩
  · exact h.opened

theorem notifierIds_remove (m m' : FeatureName) (session s : Socket) (id : String) :
    (σ.removeNotifier m session id).notifierIds m' s =
      if m' = m ∧ s = session then (σ.notifierIds m s).filter (fun i => decide (i ≠ id))
      else σ.notifierIds m' s := by
  by_cases hs : s = session
  · subst hs
    by_cases hm : m' = m
    · subst hm
      simp [System.removeNotifier, System.notifierIds, System.setNotifierIds, System.setNotifiers]
    · simp [System.removeNotifier, System.notifierIds, System.setNotifierIds,
        System.setNotifiers, hm, OMap.get_set_ne]
  · simp [System.removeNotifier, System.notifierIds, System.setNotifierIds, System.setNotifiers, hs]

theorem notifiers_remove (m m' : FeatureName) (session : Socket) (id : String) :
    (σ.removeNotifier m session id).notifiers m' =
      if m' = m then (σ.notifiers m).delete id else σ.notifiers m' := by
  by_cases hm : m' = m
  · subst hm; simp [System.removeNotifier, System.setNotifierIds, System.setNotifiers]
  · simp [System.removeNotifier, System.setNotifierIds, System.setNotifiers, hm]

theorem generator_remove (m : FeatureName) (session s : Socket) (id : String) :
    ((σ.removeNotifier m session id).sessions s).notifierIdGenerator =
      (σ.sessions s).notifierIdGenerator := by
  by_cases hs : s = session
  · subst hs; simp [System.removeNotifier, System.setNotifierIds, System.setNotifiers]
  · simp [System.removeNotifier, System.setNotifierIds, System.setNotifiers, hs]

theorem inv_remove (h : Inv notifierType σ l) (m : FeatureName) (session : Socket) (id : String)
    (hc : NoClash σ (.removeNotifier m session id)) :
    Inv notifierType (σ.step notifierType (.removeNotifier m session id))
      (l.step (.removeNotifier m session id)) := by
  have hlive : ∀ m' e, e ∈ (l.step (.removeNotifier m session id)).live m' ↔
      e ∈ l.live m' ∧ ¬ (m' = m ∧ e.1 = session ∧ Nat.repr e.2 = id) := by
    intro m' e
    by_cases hm : m' = m
    · subst hm
      simp only [Ledger.step, Function.update_self, List.mem_filter, decide_eq_true_eq, true_and]
    · simp [Ledger.step, hm]
  constructor
  · intro s
    show ((σ.removeNotifier m session id).sessions s).notifierIdGenerator = _
    rw [generator_remove, h.count]
    rfl
  · intro m' s k he
    exact h.bound m' s k ((hlive m' _).mp he).1
  · intro m'
    by_cases hm : m' = m
    · subst hm; simpa [Ledger.step] using (h.nodup m').filter _
    · simpa [Ledger.step, hm] using h.nodup m'
  · intro m' id' n
    show ((σ.removeNotifier m session id).notifiers m').get id' = some n ↔ _
    rw [notifiers_remove]
    by_cases hm : m' = m
    · subst hm
      rw [if_pos rfl, OMap.get_delete_eq_some, h.map]
      constructor
      · rintro ⟨hne, e, he, hn, hr⟩
        exact ⟨e, (hlive m' e).mpr ⟨he, fun hx => hne (by rw [hr, hx.2.2])⟩, hn, hr⟩
      · rintro ⟨e, he, hn, hr⟩
        obtain ⟨he, hx⟩ := (hlive m' e).mp he
        refine ⟨?_, e, he, hn, hr⟩
        intro hid
        -- An entry under the removed key is the session's own one.
        have hs := hc n ((h.map m' id n).mpr ⟨e, he, hn, by rw [← hid, hr]⟩)
        rw [hn] at hs
        exact hx ⟨rfl, hs, by rw [← hr, hid]⟩
    · rw [if_neg hm, h.map]
      simp [hlive, hm]
  · intro m' s hs i
    show i ∈ (σ.removeNotifier m session id).notifierIds m' s ↔ _
    have hold := h.ids m' s hs i
    rw [notifierIds_remove]
    by_cases hms : m' = m ∧ s = session
    · obtain ⟨rfl, rfl⟩ := hms
      rw [if_pos ⟨rfl, rfl⟩, List.mem_filter, hold]
      constructor
      · rintro ⟨⟨k, hk, rfl⟩, hne⟩
        exact ⟨k, (hlive m' _).mpr ⟨hk, fun hx => of_decide_eq_true hne hx.2.2⟩, rfl⟩
      · rintro ⟨k, hk, rfl⟩
        obtain ⟨hk, hx⟩ := (hlive m' _).mp hk
        exact ⟨⟨k, hk, rfl⟩, decide_eq_true (fun hr => hx ⟨rfl, rfl, hr⟩)⟩
    · rw [if_neg hms, hold]
      constructor
      · rintro ⟨k, hk, rfl⟩
        exact ⟨k, (hlive m' _).mpr ⟨hk, fun hx => hms ⟨hx.1, hx.2.1⟩⟩, rfl⟩
      · rintro ⟨k, hk, rfl⟩
        exact ⟨k, ((hlive m' _).mp hk).1, rfl⟩
  · exact h.opened

theorem inv_other (h : Inv notifierType σ l) (session : Socket) :
    Inv notifierType (σ.step notifierType (.otherCreateNotifier session))
      (l.step (.otherCreateNotifier session)) := by
  have hcount : ∀ s, (l.step (.otherCreateNotifier session)).count s =
      if s = session then l.count s + 1 else l.count s := by
    intro s
    by_cases hs : s = session
    · subst hs; simp [Ledger.step]
    · simp [Ledger.step, hs]
  constructor
  · intro s
    rw [hcount, ← h.count]
    by_cases hs : s = session
    · subst hs; simp [System.step, System.sessionCreateNotifier]
    · simp [System.step, System.sessionCreateNotifier, hs]
  · intro m s k he
    have := h.bound m s k he
    rw [hcount]
    split <;> omega
  · exact h.nodup
  · exact h.map
  · intro m s hs id
    refine Iff.trans ?_ (h.ids m s hs id)
    by_cases hse : s = session
    · subst hse; simp [System.step, System.sessionCreateNotifier, System.notifierIds]
    · simp [System.step, System.sessionCreateNotifier, System.notifierIds, hse]
  · exact h.opened

theorem inv_close (h : Inv notifierType σ l) (session : Socket) (he : session ∈ σ.opened) :
    Inv notifierType (σ.step notifierType (.close session)) (l.step (.close session)) := by
  have hopen := h.opened.2 session he
  have hlive : ∀ m e, e ∈ (l.step (.close session)).live m ↔ e ∈ l.live m ∧ e.1 ≠ session := by
    intro m e
    simp [Ledger.step, List.mem_filter]
  constructor
  · exact h.count
  · intro m s k hk
    exact h.bound m s k ((hlive m _).mp hk).1
  · intro m
    exact (h.nodup m).filter _
  · intro m id n
    show (List.foldl (fun map id => map.delete id) (σ.notifiers m) (σ.notifierIds m session)).get
      id = some n ↔ _
    rw [OMap.get_foldl_delete]
    by_cases hid : id ∈ σ.notifierIds m session
    · rw [if_pos hid]
      obtain ⟨k, hk, hr⟩ := (h.ids m session hopen id).mp hid
      have hown := (h.map m id _).mpr ⟨_, hk, rfl, hr⟩
      constructor
      · intro hn; cases hn
      · rintro ⟨e, hl, hn, hr'⟩
        -- The key holds one notifier, which is the closing session's.
        obtain ⟨hl, hs⟩ := (hlive m e).mp hl
        have hother := (h.map m id n).mpr ⟨e, hl, hn, hr'⟩
        rw [hown, Option.some.injEq] at hother
        rw [← hother] at hn
        exact absurd (congrArg SessionNotifier.session hn).symm hs
    · rw [if_neg hid, h.map]
      constructor
      · rintro ⟨e, hl, hn, hr⟩
        refine ⟨e, (hlive m e).mpr ⟨hl, ?_⟩, hn, hr⟩
        rintro rfl
        exact hid ((h.ids m e.1 hopen id).mpr ⟨e.2, hl, hr⟩)
      · rintro ⟨e, hl, hn, hr⟩
        exact ⟨e, ((hlive m e).mp hl).1, hn, hr⟩
  · intro m s hs id
    have hs' : s ≠ session ∧ s ∉ σ.closed := by
      simpa [System.step, System.closeSession] using hs
    show id ∈ σ.notifierIds m s ↔ _
    rw [h.ids m s hs'.2 id]
    simp [hlive, hs'.1]
  · refine ⟨h.opened.1.erase session, ?_⟩
    intro s hs
    obtain ⟨hne, hm⟩ := (h.opened.1.mem_erase_iff).mp hs
    simpa [System.step, System.closeSession, hne] using h.opened.2 s hm

theorem reaches_inv (h : Reaches notifierType NoClash σ l) : Inv notifierType σ l := by
  induction h with
  | init => exact inv_init
  | @step σ l e _ he hc ih =>
    cases e with
    | «open» session =>
      refine ⟨ih.count, ih.bound, ih.nodup, ih.map, ih.ids, ?_⟩
      refine ⟨List.nodup_cons.mpr ⟨he.1, ih.opened.1⟩, ?_⟩
      intro s hs
      rcases List.mem_cons.mp hs with rfl | hs
      · exact he.2
      · exact ih.opened.2 s hs
    | createNotifier m session => exact inv_create ih m session hc
    | removeNotifier m session id => exact inv_remove ih m session id hc
    | otherCreateNotifier session => exact inv_other ih session
    | close session => exact inv_close ih session he

theorem Inv.delivers (h : Inv notifierType σ l) : Delivers notifierType σ l := by
  intro m Data data
  have hv : (σ.notifiers m).values.Perm ((l.live m).map (Ledger.notifier notifierType m)) := by
    rw [List.perm_ext_iff_of_nodup]
    · intro n
      rw [OMap.mem_values, List.mem_map]
      constructor
      · rintro ⟨id, hid⟩
        obtain ⟨e, he, hn, _⟩ := (h.map m id n).mp hid
        exact ⟨e, he, hn.symm⟩
      · rintro ⟨e, he, hn⟩
        exact ⟨_, (h.map m _ n).mpr ⟨e, he, hn.symm, rfl⟩⟩
    · apply OMap.values_nodup (f := SessionNotifier.id)
      intro id n hid
      obtain ⟨e, _, hn, hr⟩ := (h.map m id n).mp hid
      rw [hn, hr]
      rfl
    · apply List.Nodup.map _ (h.nodup m)
      rintro ⟨s, k⟩ ⟨s', k'⟩ heq
      simp only [Ledger.notifier, SessionNotifier.mk.injEq, and_true] at heq
      rw [heq.1, Text.repr_inj heq.2]
  have := hv.map (fun n => n.notify data)
  rwa [List.map_map] at this

/-- In every run that never reuses a number still held by another session, every
state delivers a broadcast exactly once to each live notifier and to nobody else. -/
theorem notifyAll_reaches_live {notifierType : FeatureName → String} {σ : System} {l : Ledger}
    (h : Reaches notifierType NoClash σ l) : Delivers notifierType σ l := (reaches_inv h).delivers

/-- Two sessions whose numbers stay apart, because another service took one. -/
theorem notifyAll_reaches_two_sessions :
    ∃ σ l, Reaches (fun _ => "online/status") NoClash σ l ∧ l.live "status" = [(1, 2), (0, 1)] ∧
      Delivers (fun _ => "online/status") σ l := by
  have h : Reaches (fun _ => "online/status") NoClash _ _ :=
    ((((Reaches.init.step (e := .open 0) (by decide) trivial).step (e := .open 1) (by decide)
      trivial).step
      (e := .createNotifier "status" 0) (by decide) (by decide)).step
      (e := .otherCreateNotifier 1) (by decide) trivial).step
      (e := .createNotifier "status" 1) (by decide) (by decide)
  exact ⟨_, _, h, rfl, notifyAll_reaches_live h⟩

/-- Two sessions that each open their first notifier on one manager: both get
number 1, the second replaces the first in the map, and one message is lost. -/
theorem notifyAll_loses_first_session :
    ∃ σ l, Reaches (fun _ => "online/status") (fun _ _ => True) σ l ∧
      l.live "status" = [(1, 1), (0, 1)] ∧
      σ.notifyAll "status" () =
        [{ session := 1, notifierId := "1", notifierType := "online/status", data := () }] ∧
      ¬ Delivers (fun _ => "online/status") σ l := by
  have h : Reaches (fun _ => "online/status") (fun _ _ => True) _ _ :=
    (((Reaches.init.step (e := .open 0) (by decide) trivial).step (e := .open 1) (by decide)
      trivial).step
      (e := .createNotifier "status" 0) (by decide) trivial).step
      (e := .createNotifier "status" 1) (by decide) trivial
  refine ⟨_, _, h, rfl, by decide, ?_⟩
  intro hd
  have hl := (hd "status" Unit ()).length_eq
  exact absurd hl (by decide)

end

end MylifeHome.Studio.Sessions
