import MylifeHome.Lib.Mqtt
import MylifeHome.Lib.Run

/-!
# Remote procedure calls

`Rpc.call` of `mylife-home-common` on a client that is online. A call subscribes to
a reply topic of its own, publishes its request, and then waits for a message on
that topic; each of these steps goes on when a promise resolves. The calls of one
client share its message event and its set of subscriptions. Time is counted in
milliseconds.
-/
namespace MylifeHome.Bus.Rpc

open MylifeHome.Lib MylifeHome.Lib.Mqtt

/-- How the promise of `waitForMessage` ends. -/
inductive Ending where
  | reply (payload : Payload)
  | timeout
  deriving DecidableEq

/-- The promise that a call awaits. -/
inductive Phase where
  | subscribing
  | publishing
  | waiting (since : Nat)
  | closing (ending : Ending)
  | ended (ending : Ending)
  deriving DecidableEq

structure Call where
  topic : String
  timeout : Nat
  phase : Phase
  deriving DecidableEq

/-- The calls in the order of their start; `listeners` are the calls whose
`messageCb` is attached to the message event. -/
structure World where
  now : Nat := 0
  calls : List Call := []
  subscriptions : List String := []
  listeners : List Nat := []
  deriving DecidableEq

inductive Event where
  | call (topic : String) (timeout : Nat)
  | subscribed (i : Nat)
  | published (i : Nat)
  | message (topic : String) (payload : Payload)
  | timer (i : Nat)
  | unsubscribed (i : Nat)
  | pass (ms : Nat)
  deriving DecidableEq

namespace World

variable (w : World)

def setPhase (i : Nat) (phase : Phase) : World :=
  { w with calls := w.calls.modify i fun c => { c with phase := phase } }

/-- `onEnd` and, in the `finally` of the call, `terminate` up to its promise. -/
def finish (i : Nat) (topic : String) (ending : Ending) : World :=
  { w.setPhase i (.closing ending) with
    listeners := w.listeners.erase i
    subscriptions := w.subscriptions.filter fun t => decide (t ≠ topic) }

def messageCb (topic : String) (payload : Payload) (i : Nat) : World :=
  match w.calls[i]? with
  | some c => if c.topic ≠ topic then w else w.finish i c.topic (.reply payload)
  | none => w

/-- The phase that a call is in. -/
def phase (i : Nat) : Option Phase := w.calls[i]?.map Call.phase

def step : Event → World
  | .call topic timeout =>
    { w with
      calls := w.calls ++ [{ topic, timeout, phase := .subscribing }]
      subscriptions := w.subscriptions.insert topic }
  | .subscribed i => if w.phase i = some .subscribing then w.setPhase i .publishing else w
  | .published i =>
    if w.phase i = some .publishing then { w.setPhase i (.waiting w.now) with
      listeners := w.listeners ++ [i] } else w
  | .message topic payload => w.listeners.foldl (fun w i => w.messageCb topic payload i) w
  | .timer i =>
    match w.calls[i]? with
    | some { topic, phase := .waiting _, .. } => w.finish i topic .timeout
    | _ => w
  | .unsubscribed i =>
    match w.phase i with
    | some (.closing ending) => w.setPhase i (.ended ending)
    | _ => w
  | .pass ms => { w with now := w.now + ms }

end World

/-- Reply topics are distinct, and a timer runs out no earlier than it was set to. -/
def Enabled (w : World) : Event → Prop
  | .call topic _ => ∀ c ∈ w.calls, c.topic ≠ topic
  | .timer i =>
    match w.calls[i]? with
    | some { timeout, phase := .waiting since, .. } => since + timeout ≤ w.now
    | _ => True
  | _ => True

/-- No message on the reply topic of a call arrives while its publish is pending. -/
def Heard (w : World) : Event → Prop
  | .message topic _ => ∀ c ∈ w.calls, c.topic = topic → c.phase ≠ .publishing
  | _ => True

instance (w : World) (e : Event) : Decidable (Enabled w e) := by
  unfold Enabled; split
  · infer_instance
  · split <;> infer_instance
  · infer_instance

instance (w : World) (e : Event) : Decidable (Heard w e) := by
  unfold Heard; split <;> infer_instance

/-- The request was sent, and the time of the call has not passed. -/
def Awaits (now : Nat) (c : Call) : Prop :=
  c.phase = .publishing ∨ ∃ since, c.phase = .waiting since ∧ now < since + c.timeout

/-! ## What a step does -/

/-- The call holds its subscription. -/
def Phase.isOpen : Phase → Bool
  | .subscribing | .publishing | .waiting _ => true
  | .closing _ | .ended _ => false

structure Coherent (w : World) : Prop where
  distinct : ∀ (i j : Nat) (c d : Call), w.calls[i]? = some c → w.calls[j]? = some d →
    c.topic = d.topic → i = j
  once : w.listeners.Nodup
  listening : ∀ i : Nat, i ∈ w.listeners ↔ ∃ (c : Call) (since : Nat), w.calls[i]? = some c ∧
    c.phase = .waiting since
  subscribed : ∀ (i : Nat) (c : Call), w.calls[i]? = some c →
    (c.topic ∈ w.subscriptions ↔ c.phase.isOpen = true)

/-- Everything that a step can do. -/
inductive Moves (w : World) : Event → World → Prop where
  | idle (e : Event) : Moves w e w
  | call (topic : String) (timeout : Nat) :
    Moves w (.call topic timeout)
      { w with
        calls := w.calls ++ [{ topic, timeout, phase := .subscribing }]
        subscriptions := w.subscriptions.insert topic }
  | subscribed {i : Nat} {c : Call} (h : w.calls[i]? = some c) (hp : c.phase = .subscribing) :
    Moves w (.subscribed i) (w.setPhase i .publishing)
  | published {i : Nat} {c : Call} (h : w.calls[i]? = some c) (hp : c.phase = .publishing) :
    Moves w (.published i) { w.setPhase i (.waiting w.now) with listeners := w.listeners ++ [i] }
  | finish {e : Event} {i since : Nat} {c : Call} {ending : Ending} (h : w.calls[i]? = some c)
    (hp : c.phase = .waiting since) (he : ∀ p, ending = .reply p → e = .message c.topic p) :
    Moves w e (w.finish i c.topic ending)
  | unsubscribed {i : Nat} {c : Call} {ending : Ending} (h : w.calls[i]? = some c)
    (hp : c.phase = .closing ending) : Moves w (.unsubscribed i) (w.setPhase i (.ended ending))
  | pass (ms : Nat) : Moves w (.pass ms) { w with now := w.now + ms }

namespace World

variable {w : World} {i j : Nat} {c : Call} {topic : String} {payload : Payload}

theorem getElem?_setPhase (phase : Phase) : (w.setPhase i phase).calls[j]? =
    if i = j then w.calls[j]?.map (fun c => { c with phase := phase }) else w.calls[j]? := by
  rw [setPhase, List.getElem?_modify]
  split
  · rfl
  · exact congrFun Option.map_id _

/-- Each call of the new state is a call of the old one, the one at the index with
its new phase. -/
theorem calls_of_setPhase {phase : Phase} (h : (w.setPhase i phase).calls[j]? = some c) :
    ∃ d, w.calls[j]? = some d ∧ c.topic = d.topic ∧ c.timeout = d.timeout ∧
      c.phase = if i = j then phase else d.phase := by
  rw [getElem?_setPhase] at h
  split at h
  · next heq =>
    obtain ⟨d, hd, rfl⟩ := Option.map_eq_some_iff.mp h
    exact ⟨d, hd, rfl, rfl, by rw [if_pos heq]⟩
  · next hne => exact ⟨c, h, rfl, rfl, by rw [if_neg hne]⟩

theorem phase_eq_some {phase : Phase} (h : w.phase i = some phase) :
    ∃ c, w.calls[i]? = some c ∧ c.phase = phase := Option.map_eq_some_iff.mp h

theorem foldl_messageCb {l : List Nat} (h : ∀ i ∈ l, ∀ c, w.calls[i]? = some c → c.topic ≠ topic) :
    l.foldl (fun w i => w.messageCb topic payload i) w = w := by
  induction l with
  | nil => rfl
  | cons i l ih =>
    have hi : w.messageCb topic payload i = w := by
      unfold messageCb
      split
      · next c hc => rw [if_pos (h i List.mem_cons_self c hc)]
      · rfl
    rw [List.foldl_cons, hi]
    exact ih fun j hj => h j (List.mem_cons_of_mem i hj)

/-- Reply topics are distinct: the one call that listens to the topic ends, the
others stay as they are. -/
theorem message_finishes (hw : Coherent w) (hi : i ∈ w.listeners) (hc : w.calls[i]? = some c)
    (ht : c.topic = topic) :
    w.step (.message topic payload) = w.finish i c.topic (.reply payload) := by
  obtain ⟨l₁, l₂, hl⟩ := List.append_of_mem hi
  have honce := hw.once
  rw [hl] at honce
  have hother : ∀ j, j ≠ i → ∀ d, w.calls[j]? = some d → d.topic ≠ topic := fun j hj d hd hdt =>
    hj (hw.distinct j i d c hd hc (hdt.trans ht.symm))
  have hcb : w.messageCb topic payload i = w.finish i c.topic (.reply payload) := by
    unfold messageCb
    rw [hc]
    exact if_neg (not_not_intro ht)
  have hbefore : l₁.foldl (fun w i => w.messageCb topic payload i) w = w :=
    foldl_messageCb fun j hj => hother j fun hji =>
      (List.nodup_append.mp honce).2.2 j hj i List.mem_cons_self hji
  have hafter : l₂.foldl (fun w i => w.messageCb topic payload i)
    (w.finish i c.topic (.reply payload)) =
      w.finish i c.topic (.reply payload) := by
    refine foldl_messageCb fun j hj d hd => ?_
    obtain ⟨d', hd', hdt, -⟩ := calls_of_setPhase hd
    rw [hdt]
    refine hother j (fun hji => ?_) d' hd'
    exact (List.nodup_cons.mp honce.of_append_right).1 (hji ▸ hj)
  show w.listeners.foldl _ w = _
  rw [hl, List.foldl_append, hbefore, List.foldl_cons, hcb, hafter]

theorem moves (hw : Coherent w) (e : Event) : Moves w e (w.step e) := by
  cases e with
  | call topic timeout => exact .call topic timeout
  | subscribed i =>
    dsimp only [step]
    split
    · next h =>
      obtain ⟨c, hc, hp⟩ := phase_eq_some h
      exact .subscribed hc hp
    · exact .idle _
  | published i =>
    dsimp only [step]
    split
    · next h =>
      obtain ⟨c, hc, hp⟩ := phase_eq_some h
      exact .published hc hp
    · exact .idle _
  | message topic payload =>
    by_cases h : ∃ i ∈ w.listeners, ∃ c, w.calls[i]? = some c ∧ c.topic = topic
    · obtain ⟨i, hi, c, hc, ht⟩ := h
      rw [message_finishes hw hi hc ht]
      obtain ⟨c', since, hc', hp⟩ := (hw.listening i).mp hi
      obtain rfl : c = c' := Option.some.inj (hc.symm.trans hc')
      exact .finish hc hp fun p hp => by rw [Ending.reply.inj hp, ht]
    · have hidle : w.step (.message topic payload) = w :=
        foldl_messageCb fun i hi c hc ht => h ⟨i, hi, c, hc, ht⟩
      rw [hidle]
      exact .idle _
  | timer i =>
    dsimp only [step]
    split
    · next topic timeout since hc => exact .finish hc rfl nofun
    · exact .idle _
  | unsubscribed i =>
    dsimp only [step]
    split
    · next ending h =>
      obtain ⟨c, hc, hp⟩ := phase_eq_some h
      exact .unsubscribed hc hp
    · exact .idle _
  | pass ms => exact .pass ms

end World

namespace Coherent

variable {w : World} {i : Nat} {c : Call}

theorem init : Coherent {} where
  distinct := nofun
  once := .nil
  listening i := by simp
  subscribed := nofun

theorem call (hw : Coherent w) {topic : String} (timeout : Nat)
    (ht : ∀ c ∈ w.calls, c.topic ≠ topic) :
    Coherent (w.step (.call topic timeout)) := by
  -- the new call stands at the end of the list, the others where they were
  have hcase : ∀ (j : Nat) (d : Call), (w.step (.call topic timeout)).calls[j]? = some d →
      w.calls[j]? = some d ∨ j = w.calls.length ∧
        d = { topic, timeout, phase := .subscribing } := by
    intro j d hd
    rcases Nat.lt_trichotomy j w.calls.length with hj | hj | hj
    · exact .inl ((List.getElem?_append_left hj).symm.trans hd)
    · subst hj
      exact .inr ⟨rfl, by simpa [World.step] using hd.symm⟩
    · have hnone : (w.step (.call topic timeout)).calls[j]? = none := by
        simp [World.step]
        omega
      rw [hnone] at hd
      cases hd
  refine ⟨?_, hw.once, ?_, ?_⟩
  · intro j k d d' hd hd' heq
    rcases hcase j d hd with hd | ⟨hj, rfl⟩ <;> rcases hcase k d' hd' with hd' | ⟨hk, rfl⟩
    · exact hw.distinct j k d d' hd hd' heq
    · exact absurd heq (ht d (List.mem_of_getElem? hd))
    · exact absurd heq.symm (ht d' (List.mem_of_getElem? hd'))
    · rw [hj, hk]
  · intro j
    refine (hw.listening j).trans ⟨?_, ?_⟩
    · rintro ⟨d, since, hd, hp⟩
      exact ⟨d, since, (List.getElem?_append_left (List.getElem?_eq_some_iff.mp hd).1).trans hd, hp⟩
    · rintro ⟨d, since, hd, hp⟩
      rcases hcase j d hd with hd | ⟨-, rfl⟩
      · exact ⟨d, since, hd, hp⟩
      · cases hp
  · intro j d hd
    rcases hcase j d hd with hd | ⟨-, rfl⟩
    · rw [← hw.subscribed j d hd]
      show d.topic ∈ w.subscriptions.insert topic ↔ _
      rw [List.mem_insert_iff, or_iff_right (ht d (List.mem_of_getElem? hd))]
    · exact ⟨fun _ => rfl, fun _ => List.mem_insert_self⟩

/-- A call changes its phase. Its listener and its subscription have to follow. -/
theorem setPhase (hw : Coherent w) (hc : w.calls[i]? = some c) {phase : Phase}
    {listeners : List Nat} {subscriptions : List String} (honce : listeners.Nodup)
    (hl : ∀ j, j ∈ listeners ↔ if i = j then ∃ since, phase = .waiting since else j ∈ w.listeners)
    (hs : ∀ t, t ∈ subscriptions ↔ if c.topic = t then phase.isOpen = true
      else t ∈ w.subscriptions) :
    Coherent { w.setPhase i phase with listeners, subscriptions } := by
  refine ⟨?_, honce, ?_, ?_⟩
  · intro j k d d' hd hd' heq
    obtain ⟨e, he, hde, -⟩ := World.calls_of_setPhase hd
    obtain ⟨e', he', hde', -⟩ := World.calls_of_setPhase hd'
    exact hw.distinct j k e e' he he' (by rw [← hde, ← hde', heq])
  · intro j
    show j ∈ listeners ↔ ∃ c since, (w.setPhase i phase).calls[j]? = some c ∧
      c.phase = .waiting since
    rw [hl, World.getElem?_setPhase]
    split
    · next hij =>
      subst hij
      simp [hc]
    · exact hw.listening j
  · intro j d hd
    show d.topic ∈ subscriptions ↔ _
    obtain ⟨e, he, hde, -, hp⟩ := World.calls_of_setPhase hd
    rw [hs, hp, hde]
    by_cases hij : i = j
    · subst hij
      obtain rfl : c = e := Option.some.inj (hc.symm.trans he)
      rw [if_pos rfl, if_pos rfl]
    · rw [if_neg hij, if_neg fun h => hij (hw.distinct i j c e hc he h)]
      exact hw.subscribed j e he

theorem finish (hw : Coherent w) (hc : w.calls[i]? = some c) (ending : Ending) :
    Coherent (w.finish i c.topic ending) := by
  refine setPhase hw hc (hw.once.erase i) ?_ ?_
  · intro j
    rw [hw.once.mem_erase_iff]
    split
    · next hij => simp [hij]
    · next hij => simp [Ne.symm hij]
  · intro t
    split <;> simp_all [Phase.isOpen, eq_comm]

theorem step (hw : Coherent w) {e : Event} (he : Enabled w e) : Coherent (w.step e) := by
  have hopen (i : Nat) (c : Call) (phase : Phase) (hc : w.calls[i]? = some c)
      (hp : c.phase.isOpen = phase.isOpen) (t : String) :
      t ∈ w.subscriptions ↔ if c.topic = t then phase.isOpen = true else t ∈ w.subscriptions := by
    split
    · next ht => rw [← ht, hw.subscribed i c hc, hp]
    · rfl
  have hquiet (i : Nat) (c : Call) (phase : Phase) (hc : w.calls[i]? = some c)
      (hc' : ∀ since, c.phase ≠ .waiting since) (hp : ∀ since, phase ≠ .waiting since) (j : Nat) :
      j ∈ w.listeners ↔ if i = j then ∃ since, phase = .waiting since else j ∈ w.listeners := by
    split
    · next hij =>
      subst hij
      rw [hw.listening]
      simp [hc, hc', hp]
    · rfl
  have hm := World.moves hw e
  generalize w.step e = w' at hm
  cases hm with
  | idle => exact hw
  | call topic timeout => exact hw.call timeout he
  | @subscribed i c h hp =>
    exact setPhase hw h hw.once (hquiet i c _ h (by simp [hp]) (by simp))
      (hopen i c _ h (by rw [hp]; rfl))
  | @published i c h hp =>
    have hi : i ∉ w.listeners := by
      rw [hw.listening]
      rintro ⟨d, since, hd, hdp⟩
      obtain rfl : c = d := Option.some.inj (h.symm.trans hd)
      rw [hp] at hdp
      cases hdp
    refine setPhase hw h ?_ ?_ (hopen i c _ h (by rw [hp]; rfl))
    · exact List.nodup_append.mpr ⟨hw.once, List.nodup_singleton i,
        by simpa using fun a ha => ne_of_mem_of_not_mem ha hi⟩
    · intro j
      rw [List.mem_append, List.mem_singleton]
      split
      · next hij => simp [hij]
      · next hij => simp [Ne.symm hij]
  | finish h hp => exact hw.finish h _
  | @unsubscribed i c ending h hp =>
    exact setPhase hw h hw.once (hquiet i c _ h (by simp [hp]) (by simp))
      (hopen i c _ h (by rw [hp]; rfl))
  | pass ms => exact { hw with }

end Coherent

/-! ## How a call ends -/

/-- The promise of the call's `waitForMessage` has ended. -/
def Settled (w : World) (i : Nat) (topic : String) (ending : Ending) : Prop :=
  ∃ c, w.calls[i]? = some c ∧ c.topic = topic ∧
    (c.phase = .closing ending ∨ c.phase = .ended ending)

namespace Settled

variable {w : World} {i : Nat} {topic : String} {ending : Ending} {payload : Payload}

/-- A phase change elsewhere, or from closing to ended, is none of this call's ending. -/
theorem setPhase (hs : Settled w i topic ending) {j : Nat} {phase : Phase}
    (hj : i = j → phase = .closing ending ∨ phase = .ended ending) :
    Settled (w.setPhase j phase) i topic ending := by
  obtain ⟨c, hc, ht, hp⟩ := hs
  rw [Settled, World.getElem?_setPhase, hc]
  split
  · next hji => exact ⟨_, rfl, ht, hj hji.symm⟩
  · exact ⟨c, rfl, ht, hp⟩

theorem of_setPhase {j : Nat} {phase : Phase} (hs : Settled (w.setPhase j phase) i topic ending)
    (hj : i = j → phase ≠ .closing ending ∧ phase ≠ .ended ending) : Settled w i topic ending := by
  obtain ⟨c, hc, ht, hp⟩ := hs
  obtain ⟨d, hd, htd, -, hpd⟩ := World.calls_of_setPhase hc
  refine ⟨d, hd, htd.symm.trans ht, ?_⟩
  rw [hpd] at hp
  split at hp
  · next hji => exact absurd hp (not_or.mpr (hj hji.symm))
  · exact hp

/-- An ending is final. -/
theorem step (hw : Coherent w) (hs : Settled w i topic ending) (e : Event) :
    Settled (w.step e) i topic ending := by
  obtain ⟨c, hc, ht, hp⟩ := hs
  have hs : Settled w i topic ending := ⟨c, hc, ht, hp⟩
  -- the call that moves is another one, since the phase that it leaves differs
  have hother {j : Nat} {d : Call} (hd : w.calls[j]? = some d) (h : d.phase.isOpen = true) :
      i ≠ j := by
    rintro rfl
    obtain rfl : c = d := Option.some.inj (hc.symm.trans hd)
    rcases hp with hp | hp <;> simp [hp, Phase.isOpen] at h
  have hm := World.moves hw e
  generalize w.step e = w' at hm
  cases hm with
  | idle => exact hs
  | call t timeout => exact ⟨c,
    (List.getElem?_append_left (List.getElem?_eq_some_iff.mp hc).1).trans hc, ht, hp⟩
  | subscribed h hd => exact hs.setPhase fun hij => absurd hij (hother h (by rw [hd]; rfl))
  | published h hd => exact hs.setPhase fun hij => absurd hij (hother h (by rw [hd]; rfl))
  | finish h hd => exact hs.setPhase fun hij => absurd hij (hother h (by rw [hd]; rfl))
  | @unsubscribed j d ending' h hd =>
    refine hs.setPhase ?_
    rintro rfl
    obtain rfl : c = d := Option.some.inj (hc.symm.trans h)
    rcases hp with hp | hp
    · exact .inr (by rw [Phase.closing.inj (hd.symm.trans hp)])
    · cases hd.symm.trans hp
  | pass ms => exact hs

/-- Only a message on the topic of a call gives it a reply. -/
theorem of_step (hw : Coherent w) {e : Event} (hs : Settled (w.step e) i topic (.reply payload)) :
    Settled w i topic (.reply payload) ∨ e = .message topic payload := by
  have hm := World.moves hw e
  generalize w.step e = w' at hm hs
  cases hm with
  | idle => exact .inl hs
  | call t timeout =>
    obtain ⟨c, hc, ht, hp⟩ := hs
    rcases Nat.lt_or_ge i w.calls.length with hi | hi
    · exact .inl ⟨c, (List.getElem?_append_left hi).symm.trans hc, ht, hp⟩
    · rw [List.getElem?_append_right hi] at hc
      obtain rfl := List.mem_singleton.mp (List.mem_of_getElem? hc)
      exact absurd hp (by simp)
  | subscribed h hd => exact .inl (hs.of_setPhase fun _ => ⟨nofun, nofun⟩)
  | published h hd => exact .inl (of_setPhase hs fun _ => ⟨nofun, nofun⟩)
  | @finish _ j since d ending h hd he =>
    by_cases hij : i = j ∧ ending = .reply payload
    · obtain ⟨rfl, rfl⟩ := hij
      obtain ⟨c, hc, ht, -⟩ := hs
      obtain ⟨d', hd', htd, -⟩ := World.calls_of_setPhase hc
      obtain rfl : d = d' := Option.some.inj (h.symm.trans hd')
      exact .inr (by rw [he payload rfl, ← htd, ht])
    · exact .inl (of_setPhase hs fun h => ⟨fun hp => hij ⟨h, Phase.closing.inj hp⟩, nofun⟩)
  | @unsubscribed j d ending h hd =>
    by_cases hij : i = j ∧ ending = .reply payload
    · obtain ⟨rfl, rfl⟩ := hij
      obtain ⟨c, hc, ht, -⟩ := hs
      obtain ⟨d', hd', htd, -⟩ := World.calls_of_setPhase hc
      obtain rfl : d = d' := Option.some.inj (h.symm.trans hd')
      exact .inl ⟨d, h, htd.symm.trans ht, .inl hd⟩
    · exact .inl (of_setPhase hs fun h => ⟨nofun, fun hp => hij ⟨h, Phase.ended.inj hp⟩⟩)
  | pass ms => exact .inl hs

theorem run (hs : Settled w i topic ending) (hw : Coherent w) {es : List Event}
    (h : Along World.step Enabled w es) :
    Settled (es.foldl World.step w) i topic ending :=
  (h.invariant (P := fun w => Coherent w ∧ Settled w i topic ending) ⟨hw, hs⟩
    fun _ e hP he => ⟨hP.1.step he, hP.2.step hP.1 e⟩).2

theorem of_run (hw : Coherent w) {es : List Event} (h : Along World.step Enabled w es)
    (hs : Settled (es.foldl World.step w) i topic (.reply payload)) :
    Settled w i topic (.reply payload) ∨ .message topic payload ∈ es := by
  induction es generalizing w with
  | nil => exact .inl hs
  | cons e es ih =>
    rcases ih (hw.step h.1) h.2 hs with hs | hmem
    · rcases of_step hw hs with hs | rfl
      · exact .inl hs
      · exact .inr List.mem_cons_self
    · exact .inr (List.mem_cons_of_mem e hmem)

/-- The call goes on when its topic is unsubscribed. -/
theorem unsubscribed (hs : Settled w i topic ending) : (w.step (.unsubscribed i)).phase i =
    some (.ended ending) := by
  obtain ⟨c, hc, -, hp⟩ := hs
  have hphase : w.phase i = some c.phase := by rw [World.phase, hc, Option.map_some]
  rcases hp with hp | hp <;> rw [hp] at hphase
  · simp only [World.step, hphase]
    rw [World.phase, World.getElem?_setPhase, if_pos rfl, hc]
    rfl
  · simp only [World.step, hphase]

end Settled

/-- A message that arrives while the call waits is its reply. -/
theorem settled_of_message {w : World} (hw : Coherent w) {i since : Nat} {c : Call}
    (hc : w.calls[i]? = some c) (hp : c.phase = .waiting since) (payload : Payload) :
    Settled (w.step (.message c.topic payload)) i c.topic (.reply payload) := by
  rw [World.message_finishes hw ((hw.listening i).mpr ⟨c, since, hc, hp⟩) hc rfl]
  refine ⟨{ c with phase := .closing (.reply payload) }, ?_, rfl, .inl rfl⟩
  show (w.setPhase i _).calls[i]? = _
  rw [World.getElem?_setPhase, if_pos rfl, hc]
  rfl

/-! ## Requests and responses -/

/-- `J` are the JSON values; the error stands for its message. -/
structure Response (J : Type) where
  error : Option J
  output : Option J

/-- What the JSON functions do with the objects that services send. -/
structure ResponseCodec (J : Type) where
  write : Response J → Payload
  read : Payload → Option (Response J)
  read_write : ∀ r, read (write r) = some r

/-- `Service.handle`; the implementation returns a value or `undefined`, or throws an error with a
message. -/
def handle {J : Type} (implementation : J → Except J (Option J)) (input : J) : Response J :=
  match implementation input with
  | .ok output => { error := none, output }
  | .error message => { error := some message, output := none }

inductive Outcome (J : Type) where
  | returns (output : Option J)
  | rpcError (message : J)
  | syntaxError
  | timeout

/-- The end of `call`, once `terminate` is done. -/
def outcome {J : Type} (json : ResponseCodec J) : Ending → Outcome J
  | .timeout => .timeout
  | .reply payload =>
    match json.read payload with
    | none => .syntaxError
    | some { error := some message, .. } => .rpcError message
    | some { output, .. } => .returns output

theorem outcome_handle {J : Type} (json : ResponseCodec J)
    (implementation : J → Except J (Option J))
    (input : J) : outcome json (.reply (json.write (handle implementation input))) =
      match implementation input with
      | .ok output => .returns output
      | .error message => .rpcError message := by
  rw [outcome, json.read_write, handle]
  cases implementation input <;> rfl

/-- In a run where no reply comes while the publish of its call is pending: a reply
that arrives after the request was sent and in time ends its call, which goes on with it once its
topic is unsubscribed; a call has a reply only from a message on its own topic, that
no other call has; a call that has ended leaves neither subscription nor listener;
and the reply of a service gives the output, or the error, of its implementation. -/
theorem replies_are_delivered {J : Type} (json : ResponseCodec J) (es : List Event)
    (h : Along World.step (fun w e => Enabled w e ∧ Heard w e) {} es) :
    (∀ es₁ es₂ payload i c, es = es₁ ++ .message c.topic payload :: es₂ →
      (es₁.foldl World.step {}).calls[i]? = some c → Awaits (es₁.foldl World.step {}).now c →
      Settled (es.foldl World.step {}) i c.topic (.reply payload) ∧
        ((es.foldl World.step {}).step (.unsubscribed i)).phase i =
          some (.ended (.reply payload))) ∧
    (∀ i topic payload, Settled (es.foldl World.step {}) i topic (.reply payload) →
      .message topic payload ∈ es ∧
        ∀ j d, (es.foldl World.step {}).calls[j]? = some d → d.topic = topic → j = i) ∧
    (∀ i c ending, (es.foldl World.step {}).calls[i]? = some c → c.phase = .ended ending →
      c.topic ∉ (es.foldl World.step {}).subscriptions ∧ i ∉ (es.foldl World.step {}).listeners) ∧
    ∀ implementation input, outcome json (.reply (json.write (handle implementation input))) =
      match implementation input with
      | .ok output => .returns output
      | .error message => .rpcError message := by
  have henabled : Along World.step Enabled {} es := h.mono fun _ _ h => h.1
  have hw : Coherent (es.foldl World.step {}) :=
    henabled.invariant .init fun _ _ hw he => hw.step he
  refine ⟨?_, ?_, ?_, outcome_handle json⟩
  · intro es₁ es₂ payload i c hes hc ha
    subst hes
    obtain ⟨h₁, ⟨-, hheard⟩, -⟩ := Along.append.mp h
    obtain ⟨h₁', he, h₂⟩ := Along.append.mp henabled
    have hw₁ : Coherent (es₁.foldl World.step {}) := h₁'.invariant .init fun _ _ hw he => hw.step he
    have hsettled : Settled ((es₁ ++ .message c.topic payload :: es₂).foldl World.step {}) i c.topic
        (.reply payload) := by
      rcases ha with hp | ⟨since, hp, -⟩
      · exact absurd hp (hheard c (List.mem_of_getElem? hc) rfl)
      · rw [List.foldl_append]
        exact (settled_of_message hw₁ hc hp payload).run (hw₁.step he) h₂
    exact ⟨hsettled, hsettled.unsubscribed⟩
  · intro i topic payload hs
    refine ⟨?_, ?_⟩
    · rcases hs.of_run .init henabled with ⟨c, hc, -⟩ | hmem
      · cases hc
      · exact hmem
    · obtain ⟨c, hc, ht, -⟩ := hs
      exact fun j d hd hdt => hw.distinct j i d c hd hc (hdt.trans ht.symm)
  · intro i c ending hc hp
    refine ⟨fun hmem => ?_, fun hmem => ?_⟩
    · have hopen := (hw.subscribed i c hc).mp hmem
      rw [hp] at hopen
      cases hopen
    · obtain ⟨d, since, hd, hpd⟩ := (hw.listening i).mp hmem
      obtain rfl : c = d := Option.some.inj (hc.symm.trans hd)
      cases hp.symm.trans hpd

/-- The JSON text of a response, whose values are `true` and the text `no`. -/
def responseJson (r : Response Bool) : Payload :=
  let value (v : Bool) : String := if v then "true" else "\"no\""
  let error := r.error.toList.map fun v => "\"error\":\x7b\"message\":" ++ value v ++ "\x7d"
  let output := r.output.toList.map fun v => "\"output\":" ++ value v
  ("\x7b" ++ ",".intercalate (error ++ output) ++ "\x7d").toUTF8.data.toList

def switchResponses : ResponseCodec Bool where
  write := responseJson
  read payload :=
    ([none, some false, some true].flatMap fun error =>
      [none, some false, some true].map fun output => Response.mk error output).find? fun r =>
        decide (responseJson r = payload)
  read_write := by
    rintro ⟨_ | _ | _, _ | _ | _⟩ <;> rfl

/-- The implementation threw with the message `no`, and the other one returned `true`. -/
def refusal : Payload := responseJson { error := some false, output := none }

def success : Payload := responseJson { error := none, output := some true }

/-- Two calls at once; the replies come in the other order, the first one an error. -/
def twoCalls : List Event :=
  [.call "tpl/rpc/replies/A" 2000, .call "tpl/rpc/replies/B" 2000, .subscribed 1, .subscribed 0,
    .published 0, .published 1, .pass 1999, .message "tpl/rpc/replies/B" refusal,
      .message "tpl/rpc/replies/A" success,
    .unsubscribed 0]

theorem replies_are_delivered_twice :
    Along World.step (fun w e => Enabled w e ∧ Heard w e) {} twoCalls ∧
      ((twoCalls.foldl World.step {}).step (.unsubscribed 1)).phase 1 =
        some (.ended (.reply refusal)) ∧
      "tpl/rpc/replies/A" ∉ (twoCalls.foldl World.step {}).subscriptions ∧
      refusal = "\x7b\"error\":\x7b\"message\":\"no\"\x7d\x7d".toUTF8.data.toList ∧
      outcome switchResponses (.reply refusal) = .rpcError false := by
  have h : Along World.step (fun w e => Enabled w e ∧ Heard w e) {} twoCalls := by decide
  have hdelivered := replies_are_delivered switchResponses twoCalls h
  refine ⟨h, ?_, ?_, by decide +kernel, ?_⟩
  · exact (hdelivered.1 (twoCalls.take 7) (twoCalls.drop 8) refusal 1 ⟨"tpl/rpc/replies/B", 2000,
      .waiting 0⟩ rfl rfl
      (.inr ⟨0, rfl, by decide⟩)).2
  · exact (hdelivered.2.2.1 0 ⟨"tpl/rpc/replies/A", 2000, .ended (.reply success)⟩ (.reply success)
      rfl rfl).1
  · exact hdelivered.2.2.2 (fun _ => .error false) true

/-- The reply arrives before the broker's acknowledge of the request, and nobody listens:
the call ends with a timeout. -/
theorem early_reply_is_lost :
    let sent : List Event := [.call "tpl/rpc/replies/A" 2000, .subscribed 0]
    let rest : List Event := [.published 0, .pass 2000, .timer 0, .unsubscribed 0]
    let run := sent ++ .message "tpl/rpc/replies/A" success :: rest
    Along World.step Enabled {} run ∧
      (∃ c, (sent.foldl World.step {}).calls[0]? = some c ∧ c.topic = "tpl/rpc/replies/A" ∧
        Awaits (sent.foldl World.step {}).now c) ∧
      outcome switchResponses (.reply success) = .returns (some true) ∧
      (run.foldl World.step {}).phase 0 = some (.ended .timeout) :=
  ⟨by decide, ⟨⟨"tpl/rpc/replies/A", 2000, .publishing⟩, rfl, rfl, .inl rfl⟩,
    outcome_handle switchResponses (fun _ => .ok (some true)) true, by decide⟩

end MylifeHome.Bus.Rpc
