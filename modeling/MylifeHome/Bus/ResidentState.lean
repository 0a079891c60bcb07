import MylifeHome.Bus.Client

/-!
# Stale state on connection

What the connect handler does to the retained messages that an earlier run of the
instance has left. The filter `<instance>/#` that would make the broker send them
is only noted, because the client is not online before the handler ends: nothing
is received, and nothing but the online flag is cleared.
-/
namespace MylifeHome.Bus.World

open MylifeHome.Lib MylifeHome.Lib.Mqtt

variable (instanceName : String) (subscriptions : List String)
    (retained : OMap String (Message Tag))

/-- A connection of a client that has only noted subscriptions so far. -/
def connecting : World := { instanceName, subscriptions, broker := { retained } : World }.connect

/-- The events of a connection. The broker sends everything that a subscribe asks
for before the delay elapses. -/
def Waits (w : World) : Event → Prop
  | .process => True
  | .deliver => True
  | .elapse _ => w.outbox = [] ∧ w.inbox = []
  | _ => False

instance (w : World) (e : Event) : Decidable (Waits w e) :=
  match e with
  | .process | .deliver => instDecidableTrue
  | .elapse _ => inferInstanceAs (Decidable (_ ∧ _))
  | .connect | .close | .resubscribe _ | .publish .. | .subscribe _ | .unsubscribe _ | .remote .. =>
    instDecidableFalse

/-- The handler has reached `onlineChange(true)`. -/
def Announced (w : World) : Prop := w.handlers = [.announced]

/-- Only the online flag is left of the instance, and the rest is untouched. -/
def Wiped (w : World) : Prop :=
  (∀ t, w.broker.retained.has t = true → isUnder instanceName t = true →
    t = buildTopic instanceName ["online"]) ∧
    ∀ t, isUnder instanceName t = false → w.broker.retained.get t = retained.get t

/-- What a connection keeps up to `onlineChange(true)`. -/
structure Connecting (w : World) : Prop where
  name : w.instanceName = instanceName
  handler : w.handlers = [.clearing] ∨ w.handlers = [.sleeping] ∨ w.handlers = [.announcing] ∨
    w.handlers = [.announced]
  offline : w.handlers ≠ [.announced] → w.online = false
  filters : w.broker.filters = []
  inbox : w.inbox = []
  outbox : ∀ p ∈ w.outbox, ∃ payload waiter, p =
    (.publish { topic := buildTopic instanceName ["online"], payload, retain := true,
                tag := .handler }, waiter)
  kept : ∀ t, t ≠ buildTopic instanceName ["online"] → w.broker.retained.get t = retained.get t

variable {instanceName subscriptions retained} {w : World}

theorem connecting_connect :
    Connecting instanceName retained (connecting instanceName subscriptions retained) where
  name := rfl
  handler := Or.inl rfl
  offline _ := rfl
  filters := rfl
  inbox := rfl
  outbox _ hp := ⟨[], some 0, List.mem_singleton.mp hp⟩
  kept _ _ := rfl

namespace Connecting

theorem taken (h : Connecting instanceName retained w) {p : Packet Tag} {waiter : Option Nat}
    {rest : List (Packet Tag × Option Nat)} (hout : w.outbox = (p, waiter) :: rest) :
    Connecting instanceName retained (w.taken p rest) := by
  obtain ⟨payload, waiter', hp⟩ := h.outbox (p, waiter) (by rw [hout]; exact List.mem_cons_self)
  cases hp
  have hproc := process_publish_unsubscribed (b := w.broker)
    (m := { topic := buildTopic instanceName ["online"], payload, retain := true, tag := .handler })
      h.filters
  refine ⟨h.name, h.handler, h.offline, ?_, ?_,
    fun q hq => h.outbox q (by rw [hout]; exact List.mem_cons_of_mem _ hq), ?_⟩
  · exact filters_process.trans h.filters
  · show w.inbox ++ (w.broker.process _).2 = []
    rw [hproc, h.inbox]
    rfl
  · intro t ht
    show (w.broker.process _).1.retained.get t = retained.get t
    rw [hproc]
    exact (retained_keep_ne ht).trans (h.kept t ht)

theorem announce (h : Connecting instanceName retained w) (ho : w.online = false)
    (hh : w.handlers.length = 1) :
    Connecting instanceName retained (w.announce 0) := by
  obtain ⟨stage, hs⟩ := List.length_eq_one_iff.mp hh
  have hset : (w.announce 0).handlers = [.announcing] := by
    show w.handlers.set 0 _ = _
    rw [hs]
    rfl
  refine ⟨h.name, Or.inr (Or.inr (Or.inl hset)), fun _ => ho, h.filters, h.inbox,
    fun p hp => ?_, h.kept⟩
  rcases List.mem_append.mp hp with hp | hp
  · exact h.outbox p hp
  · rw [List.mem_singleton.mp hp]
    exact ⟨_, _, by rw [onlineTopic, h.name]⟩

theorem noted (h : Connecting instanceName retained w) (topics : List String) :
    Connecting instanceName retained { w with subscriptions := topics } :=
  { h with }

theorem resume (h : Connecting instanceName retained w) (k : Nat) :
    Connecting instanceName retained (w.resume k) := by
  cases k with
  | succ k =>
    rw [resume_idle (Or.inr (by rcases h.handler with hh | hh | hh | hh <;> rw [hh] <;> rfl))]
    exact h
  | zero =>
    rcases h.handler with hh | hh | hh | hh
    · have hoff := h.offline (by rw [hh]; decide)
      have hres : w.resume 0 = w.enterResident 0 := by rw [World.resume, hh]; rfl
      rw [hres, enterResident_offline hoff, hh]
      exact ⟨h.name, Or.inr (Or.inl rfl), fun _ => hoff, h.filters, h.inbox, h.outbox, h.kept⟩
    · have hres : w.resume 0 = w := by rw [World.resume, hh]; rfl
      rw [hres]
      exact h
    · have hres : w.resume 0 = w.goOnline 0 := by rw [World.resume, hh]; rfl
      have hset : (w.goOnline 0).handlers = [.announced] := by
        show w.handlers.set 0 _ = _
        rw [hh]
        rfl
      rw [hres]
      exact ⟨h.name, Or.inr (Or.inr (Or.inr hset)), fun hne => absurd hset hne, h.filters, h.inbox,
        h.outbox, h.kept⟩
    · have hres : w.resume 0 = w := by rw [World.resume, hh]; rfl
      rw [hres]
      exact h

theorem elapse (h : Connecting instanceName retained w) (k : Nat) :
    Connecting instanceName retained (w.elapse k) := by
  cases k with
  | succ k =>
    rw [elapse_idle (Or.inr (by rcases h.handler with hh | hh | hh | hh <;> rw [hh] <;> rfl))]
    exact h
  | zero =>
    have hsame : w.handlers ≠ [.sleeping] → w.elapse 0 = w := by
      intro hne
      rcases h.handler with hh | hh | hh | hh
      · rw [World.elapse, hh]; rfl
      · exact absurd hh hne
      · rw [World.elapse, hh]; rfl
      · rw [World.elapse, hh]; rfl
    by_cases hh : w.handlers = [.sleeping]
    · have hoff := h.offline (by rw [hh]; decide)
      have hel : w.elapse 0 = w.leaveResident 0 := by rw [World.elapse, hh]; rfl
      rw [hel, leaveResident_offline hoff]
      exact (h.noted _).announce hoff (by rw [hh]; rfl)
    · rw [hsame hh]
      exact h

theorem step (h : Connecting instanceName retained w) {e : Event} (hw : w.Waits e) :
    Connecting instanceName retained (w.step e) := by
  cases e with
  | process =>
    show Connecting instanceName retained w.process
    unfold World.process
    split
    · exact h
    · next p rest hout => exact h.taken hout
    · next p k rest hout => exact (h.taken hout).resume k
  | deliver =>
    have hd : w.deliver = w := by unfold World.deliver; rw [h.inbox]
    show Connecting instanceName retained w.deliver
    rw [hd]
    exact h
  | elapse k => exact h.elapse k
  | connect | close | resubscribe _ | publish _ _ _ | subscribe _ | unsubscribe _ | remote _ _ _ =>
    cases hw

end Connecting

theorem isUnder_buildTopic (name : String) (part : String) : isUnder name (buildTopic name [part]) =
    true := by
  have hl : (buildTopic name [part]).toList = (name ++ "/").toList ++ part.toList := by
    show (name ++ "/" ++ part).toList = _
    rw [String.toList_append]
  rw [isUnder, hl, List.isPrefixOf_iff_prefix]
  exact List.prefix_append _ _

/-- The handler reaches `onlineChange(true)`, and whenever it does, the state is wiped
exactly if there was nothing to wipe. -/
theorem resident_state_wiped_iff (instanceName : String) (subscriptions : List String)
    (retained : OMap String (Message Tag)) :
    (∃ es, Along World.step Waits (connecting instanceName subscriptions retained) es ∧
      Announced (es.foldl World.step (connecting instanceName subscriptions retained))) ∧
    ∀ es, Along World.step Waits (connecting instanceName subscriptions retained) es →
      Announced (es.foldl World.step (connecting instanceName subscriptions retained)) →
        (Wiped instanceName retained
          (es.foldl World.step (connecting instanceName subscriptions retained)) ↔
          ∀ t, retained.has t = true → isUnder instanceName t = true →
            t = buildTopic instanceName ["online"]) := by
  refine ⟨⟨[.process, .elapse 0, .process], ?_, ?_⟩, fun es h _ => ?_⟩
  · exact ⟨trivial, ⟨rfl, rfl⟩, trivial, trivial⟩
  · rfl
  · have hc : Connecting instanceName retained
        (es.foldl World.step (connecting instanceName subscriptions retained)) :=
      h.invariant connecting_connect (fun _ _ hc hw => hc.step hw)
    have hhas : ∀ t, t ≠ buildTopic instanceName ["online"] →
        (es.foldl World.step (connecting instanceName subscriptions retained)).broker.retained.has
          t = retained.has t :=
      fun t ht => by rw [OMap.has, OMap.has, hc.kept t ht]
    constructor
    · intro hw t ht hu
      by_contra hne
      exact hne (hw.1 t ((hhas t hne).trans ht) hu)
    · intro hstale
      refine ⟨fun t ht hu => ?_, fun t hu => hc.kept t ?_⟩
      · by_contra hne
        exact hne (hstale t ((hhas t hne).symm.trans ht) hu)
      · rintro rfl
        rw [isUnder_buildTopic] at hu
        cases hu

/-- With only the state of `hall` on the broker, `tester` leaves it as it is. -/
def neighbour : OMap String (Message Tag) :=
  (∅ : OMap String (Message Tag)).set "hall/online"
    { topic := "hall/online", payload := [1], retain := true, tag := .other }

theorem resident_state_wiped_neighbour :
    Wiped "tester" neighbour
      ([.process, .elapse 0, .process].foldl World.step (connecting "tester" [] neighbour)) := by
  have hrun := (resident_state_wiped_iff "tester" [] neighbour).2 [.process, .elapse 0,
    .process] (by decide +kernel) rfl
  refine hrun.mpr ?_
  intro t ht hu
  obtain ⟨m, hm⟩ := OMap.has_iff.mp ht
  rcases OMap.get_set_eq_some.mp hm with ⟨rfl, _⟩ | ⟨_, hm⟩
  · exact absurd hu (by decide)
  · cases hm

/-- A run of `tester` that crashed has left the metadata `garbage`. -/
def garbage : OMap String (Message Tag) :=
  OMap.ofList [("tester/metadata/garbage",
    { topic := "tester/metadata/garbage", payload := [116], retain := true, tag := .other })]

theorem garbage_survives :
    Announced ([.process, .elapse 0, .process].foldl World.step (connecting "tester" [] garbage)) ∧
      Along World.step Waits (connecting "tester" [] garbage) [.process, .elapse 0, .process] ∧
      ¬ Wiped "tester" garbage
        ([.process, .elapse 0, .process].foldl World.step (connecting "tester" [] garbage)) := by
  refine ⟨by unfold Announced; decide +kernel, by decide +kernel, fun h => ?_⟩
  exact absurd (h.1 "tester/metadata/garbage" (by decide +kernel) (by decide +kernel))
    (by decide +kernel)

end MylifeHome.Bus.World
