import MylifeHome.Lib.Run

/-!
# The controller of the lirc driver

Commands wait in a queue and are sent one after the other. Flags keep the queue from being
processed while a command is under way or a signal was received shortly before. One
controller is shared by all its users. An event comes some time after the one before it,
in nanoseconds.
-/
namespace MylifeHome.Plugins.Lirc

open MylifeHome.Lib

/-! ## The controller -/

structure SendCommand where
  remote : String
  button : String
  deriving DecidableEq

/-- The flags and the queue; a pending timeout is the time at which it is due. -/
structure Controller where
  connected : Bool := false
  sendQueue : List SendCommand := []
  sending : Bool := false
  receiving : Bool := false
  receiveTimeout : Option Nat := none
  closing : Bool := false

/-- A command that was passed to `sendOnce`, with the time, and with the time of the last signal
before it. -/
structure Sent where
  command : SendCommand
  time : Nat
  lastReceive : Option Nat

/-- What the lirc client may report. -/
inductive Reason where
  | ended
  | timeout
  | other (text : String)
  deriving DecidableEq

/-- The variables of the module, and of its surroundings the calls of `sendOnce` that are not
settled, the commands of the calls of `send`, those that were sent, and the errors that were
thrown. -/
structure State where
  controllerInstance : Option Controller := none
  refCount : Int := 0
  clock : Nat := 0
  outstanding : Nat := 0
  calls : List SendCommand := []
  sent : List Sent := []
  lastReceive : Option Nat := none
  thrown : List Reason := []

inductive Kind where
  | opens
  | closes
  | send (command : SendCommand)
  | connect
  | disconnect
  | error (reason : Reason)
  | receive (replies : List SendCommand)
  | receiveTimeout
  | settle

structure Event where
  elapsed : Nat
  kind : Kind

/-- 300 ms -/
def receiveDelay : Nat := 300000000

def Controller.blocked (c : Controller) : Bool :=
  !c.connected || c.closing || c.sending || c.receiving

namespace State

/-- A round of `processSendQueue`, up to its `await` -/
def processSendQueue (s : State) (c : Controller) : State :=
  match c.sendQueue with
  | [] => { s with controllerInstance := some c }
  | data :: rest =>
    if c.blocked then { s with controllerInstance := some c }
    else { s with
      controllerInstance := some { c with sending := true, sendQueue := rest }
      outstanding := s.outstanding + 1
      sent := s.sent ++ [⟨data, s.clock, s.lastReceive⟩] }

def send (s : State) (command : SendCommand) : State :=
  match s.controllerInstance with
  | none => s
  | some c => { s with calls := s.calls ++ [command] }.processSendQueue { c with
    sendQueue := c.sendQueue ++ [command] }

/-- The listeners of the signal may send commands before sending is blocked. -/
def onReceive (s : State) (replies : List SendCommand) : State :=
  let s := replies.foldl send { s with lastReceive := some s.clock }
  let wait (c : Controller) :=
    { c with receiving := true, receiveTimeout := some (s.clock + receiveDelay) }
  { s with controllerInstance := s.controllerInstance.map wait }

def changeOnline (s : State) (c : Controller) (value : Bool) : State :=
  if value then s.processSendQueue { c with connected := true }
  else
    let c :=
      { c with connected := false, sending := false, receiving := false, receiveTimeout := none }
    { s with controllerInstance := some c }

/-- `onError` is not bound to the controller: there is no `changeOnline` to be called. -/
def onError (s : State) (reason : Reason) : State :=
  match reason with
  | .ended | .timeout => { s with thrown := s.thrown ++ [reason] }
  | .other _ => s

/-- A call of `sendOnce` is settled, and its round of `processSendQueue` goes on. -/
def onSettle (s : State) (c : Controller) : State :=
  if s.outstanding = 0 then s
  else { s with outstanding := s.outstanding - 1 }.processSendQueue { c with sending := false }

def onReceiveTimeout (s : State) (c : Controller) : State :=
  match c.receiveTimeout with
  | none => s
  | some due =>
    if due ≤ s.clock then s.processSendQueue { c with receiving := false, receiveTimeout := none }
    else s

/-- `open` -/
def opens (s : State) : State :=
  { s with controllerInstance := some (s.controllerInstance.getD {}), refCount := s.refCount + 1 }

/-- `close` -/
def closes (s : State) : State :=
  let s := { s with refCount := s.refCount - 1 }
  if s.refCount = 0 then
    { s with controllerInstance := s.controllerInstance.map fun c => { c with
      closing := true, receiveTimeout := none } }
  else s

/-- A handler of the controller, if there is one. -/
def handle (s : State) (handler : Controller → State) : State :=
  match s.controllerInstance with
  | none => s
  | some c => handler c

def wait (s : State) (elapsed : Nat) : State := { s with clock := s.clock + elapsed }

def react (s : State) : Kind → State
  | .opens => s.opens
  | .closes => s.closes
  | .send command => s.send command
  | .connect => s.handle (s.changeOnline · true)
  | .disconnect => s.handle (s.changeOnline · false)
  | .error reason => s.handle fun _ => s.onError reason
  | .receive replies => s.handle fun _ => s.onReceive replies
  | .receiveTimeout => s.handle s.onReceiveTimeout
  | .settle => s.handle s.onSettle

def step (s : State) (e : Event) : State := (s.wait e.elapsed).react e.kind

/-! ## What sending has to be -/

structure Serial (s : State) : Prop where
  thrown : s.thrown = []
  single : s.outstanding ≤ 1
  -- the commands are sent in the order of the calls, each at most once
  order : s.sent.map Sent.command <+: s.calls
  spaced : ∀ x ∈ s.sent, ∀ r ∈ x.lastReceive, r + receiveDelay ≤ x.time
  opened : 0 < s.refCount → ∃ c, s.controllerInstance = some c ∧ c.closing = false

/-- What has to be kept from happening: the controller is opened again after it was closed; the
connection comes back while a command is under way, or shortly after a signal that was received
before it was lost; the client reports `end` or `timeout`; a listener of a signal sends a command
that could go out at once. -/
def CalmAt (s : State) : Kind → Prop
  | .opens => ∀ c ∈ s.controllerInstance, c.closing = false
  | .connect => ∀ c ∈ s.controllerInstance, c.connected = false →
      s.outstanding = 0 ∧ (c.receiving = true ∨ ∀ r ∈ s.lastReceive, r + receiveDelay ≤ s.clock)
  | .error reason => reason ≠ .ended ∧ reason ≠ .timeout
  | .receive replies => replies ≠ [] → ∀ c ∈ s.controllerInstance, c.blocked = true
  | _ => True

/-- The event happens at a time at which it does no harm. -/
def Calm (s : State) (e : Event) : Prop := (s.wait e.elapsed).CalmAt e.kind

/-! ## What each step keeps -/

structure Good (s : State) (c : Controller) : Prop where
  thrown : s.thrown = []
  single : s.outstanding ≤ 1
  sends : s.calls = s.sent.map Sent.command ++ c.sendQueue
  spaced : ∀ x ∈ s.sent, ∀ r ∈ x.lastReceive, r + receiveDelay ≤ x.time
  free : c.connected = true → c.sending = false → s.outstanding = 0
  quiet : c.connected = true → c.receiving = false → ∀ r ∈ s.lastReceive, r + receiveDelay ≤ s.clock
  timer : ∀ due ∈ c.receiveTimeout, ∀ r ∈ s.lastReceive, r + receiveDelay ≤ due
  closed : c.closing = true → s.refCount ≤ 0

/-- Before the first call of `open`. -/
structure Unused (s : State) : Prop where
  thrown : s.thrown = []
  outstanding : s.outstanding = 0
  calls : s.calls = []
  sent : s.sent = []
  refCount : s.refCount ≤ 0
  lastReceive : s.lastReceive = none

/-- The invariant of the module. -/
def Fine (s : State) : Prop :=
  match s.controllerInstance with
  | none => Unused s
  | some c => Good s c

variable {s : State} {c : Controller}

theorem Good.fine (h : Good s c) (hc : s.controllerInstance = some c) : Fine s := by
  rw [Fine, hc]
  exact h

theorem Good.processSendQueue (h : Good s c) : Fine (s.processSendQueue c) := by
  unfold State.processSendQueue
  split
  · exact { h with }
  · rename_i data rest hqueue
    split
    · exact { h with }
    · rename_i hfree
      simp only [Controller.blocked, Bool.or_eq_true, Bool.not_eq_true', not_or, Bool.not_eq_false,
        Bool.not_eq_true] at hfree
      obtain ⟨⟨⟨hconnected, hclosing⟩, hsending⟩, hreceiving⟩ := hfree
      have hzero := h.free hconnected hsending
      refine ⟨h.thrown, ?_, ?_, fun x hx r hr => ?_, ?_, h.quiet, h.timer, h.closed⟩
      · show s.outstanding + 1 ≤ 1
        omega
      · show s.calls = (s.sent ++ [_]).map Sent.command ++ rest
        rw [h.sends, hqueue]
        simp
      · rcases List.mem_append.mp hx with hx | hx
        · exact h.spaced x hx r hr
        · rw [List.mem_singleton.mp hx] at hr ⊢
          exact h.quiet hconnected hreceiving r hr
      · intro _ hfalse
        cases hfalse

theorem handle_some (hc : s.controllerInstance = some c) (handler : Controller → State) :
    s.handle handler = handler c := by
  rw [handle, hc]

theorem Good.wait (h : Good s c) (elapsed : Nat) : Good (s.wait elapsed) c :=
  { h with quiet := fun hconnected hreceiving r hr => Nat.le_add_right_of_le (h.quiet hconnected
    hreceiving r hr) }

theorem Good.send (h : Good s c) (command : SendCommand) :
    Good { s with calls := s.calls ++ [command] } { c with
      sendQueue := c.sendQueue ++ [command] } := by
  refine { h with sends := ?_ }
  show s.calls ++ [command] = s.sent.map Sent.command ++ (c.sendQueue ++ [command])
  rw [h.sends, List.append_assoc]

/-- While sending is blocked, commands are queued only. -/
theorem foldl_send {replies : List SendCommand} (hc : s.controllerInstance = some c)
    (hblocked : replies ≠ [] → c.blocked = true) :
    replies.foldl State.send s =
      { s with calls := s.calls ++
          replies, controllerInstance := some { c with sendQueue := c.sendQueue ++ replies } } := by
  induction replies generalizing s c with
  | nil => simp [← hc]
  | cons command replies ih =>
    have hblocked' := hblocked (by simp)
    have hsend : s.send command =
        { s with calls := s.calls ++ [command], controllerInstance := some { c with
          sendQueue := c.sendQueue ++ [command] } } := by
      rw [State.send, hc]
      show State.processSendQueue _ _ = _
      rw [State.processSendQueue]
      split
      · rfl
      · rw [if_pos (show ({ c with sendQueue := c.sendQueue ++ [command] } : Controller).blocked =
          true from hblocked')]
    have hrest := ih (s := s.send command) (c := { c with sendQueue := c.sendQueue ++ [command] })
      (by rw [hsend]) fun _ => hblocked'
    rw [List.foldl_cons, hrest, hsend]
    simp

theorem Good.receive (h : Good s c) (hc : s.controllerInstance = some c)
    {replies : List SendCommand}
    (hblocked : replies ≠ [] → c.blocked = true) : Fine (s.onReceive replies) := by
  have hfold := foldl_send (s := { s with lastReceive := some s.clock }) hc hblocked
  unfold State.onReceive
  rw [hfold]
  have hquiet : true = false → ∀ r ∈ some s.clock, r + receiveDelay ≤ s.clock :=
    fun hfalse => by cases hfalse
  refine ⟨h.thrown, h.single, ?_, h.spaced, h.free, fun _ => hquiet,
    fun due hdue r hr => ?_, h.closed⟩
  · show s.calls ++ replies = s.sent.map Sent.command ++ (c.sendQueue ++ replies)
    rw [h.sends, List.append_assoc]
  · cases hdue
    cases hr
    exact Nat.le_refl _

theorem Good.connect (h : Good s c)
    (hcalm : c.connected = false → s.outstanding = 0 ∧
      (c.receiving = true ∨ ∀ r ∈ s.lastReceive, r + receiveDelay ≤ s.clock)) :
    Good s { c with connected := true } := by
  cases hconnected : c.connected with
  | true => exact { h with
    free := fun _ => h.free hconnected, quiet := fun _ => h.quiet hconnected }
  | false =>
    obtain ⟨hzero, hquiet⟩ := hcalm hconnected
    refine { h with free := fun _ _ => hzero, quiet := fun _ hreceiving => ?_ }
    exact hquiet.resolve_left fun htrue => by
      rw [show c.receiving = false from hreceiving] at htrue; cases htrue

theorem Good.settle (h : Good s c) (hc : s.controllerInstance = some c) : Fine (s.onSettle c) := by
  unfold State.onSettle
  split
  · exact h.fine hc
  · have hsingle := h.single
    have hzero : s.outstanding - 1 = 0 := by omega
    have hsettled : Good { s with outstanding := s.outstanding - 1 } { c with sending := false } :=
      { h with single := by show s.outstanding - 1 ≤ 1; omega, free := fun _ _ => hzero }
    exact hsettled.processSendQueue

theorem Good.receiveTimeout (h : Good s c) (hc : s.controllerInstance = some c) :
    Fine (s.onReceiveTimeout c) := by
  unfold State.onReceiveTimeout
  split
  · exact h.fine hc
  · rename_i due hdue
    split
    · rename_i hle
      have hover : Good s { c with receiving := false, receiveTimeout := none } :=
        { h with
          quiet := fun _ _ r hr => Nat.le_trans (h.timer due hdue r hr) hle
          timer := fun due hnone => by cases hnone }
      exact hover.processSendQueue
    · exact h.fine hc

theorem Good.opens (h : Good s c) (hc : s.controllerInstance = some c) (hopen : c.closing = false) :
    Fine s.opens := by
  have hinstance : s.opens.controllerInstance = some c := by rw [State.opens, hc, Option.getD_some]
  have hclosed : c.closing = true → s.refCount + 1 ≤ 0 := fun hclosing => by
    rw [hopen] at hclosing
    cases hclosing
  exact Good.fine { h with closed := hclosed } hinstance

theorem Good.closes (h : Good s c) (hc : s.controllerInstance = some c) : Fine s.closes := by
  unfold State.closes
  by_cases hzero : s.refCount - 1 = 0
  · rw [if_pos hzero]
    have hgood : Good { s with refCount := s.refCount - 1 } { c with
        closing := true, receiveTimeout := none } :=
      { h with timer := by simp, closed := fun _ => Int.le_of_eq hzero }
    exact Good.fine { hgood with } (by rw [hc]; rfl)
  · rw [if_neg hzero]
    have hclosed : c.closing = true → s.refCount - 1 ≤ 0 := fun hclosing => by
      have hle := h.closed hclosing
      omega
    exact Good.fine { h with closed := hclosed } hc

theorem Good.disconnect (h : Good s c) : Fine (s.changeOnline c false) := by
  have hgood : Good s
      { c with connected := false, sending := false, receiving := false, receiveTimeout := none } :=
    { h with free := by simp, quiet := by simp, timer := by simp }
  exact Good.fine { hgood with } rfl

/-- The handlers of a controller. -/
theorem Good.react (h : Good s c) (hc : s.controllerInstance = some c) (kind : Kind)
    (hcalm : s.CalmAt kind) :
    Fine (s.react kind) := by
  cases kind with
  | opens => exact h.opens hc (hcalm c hc)
  | closes => exact h.closes hc
  | send command =>
    rw [State.react, State.send, hc]
    exact (h.send command).processSendQueue
  | connect =>
    rw [State.react, handle_some hc]
    exact (h.connect (hcalm c hc)).processSendQueue
  | disconnect =>
    rw [State.react, handle_some hc]
    exact h.disconnect
  | error reason =>
    rw [State.react, handle_some hc]
    cases reason with
    | ended => exact absurd rfl hcalm.1
    | timeout => exact absurd rfl hcalm.2
    | other text => exact h.fine hc
  | receive replies =>
    rw [State.react, handle_some hc]
    exact h.receive hc fun hne => hcalm hne c hc
  | receiveTimeout =>
    rw [State.react, handle_some hc]
    exact h.receiveTimeout hc
  | settle =>
    rw [State.react, handle_some hc]
    exact h.settle hc

theorem Unused.react (h : Unused s) (hc : s.controllerInstance = none) (kind : Kind) :
    Fine (s.react kind) := by
  have hfine : Fine s := by
    rw [Fine, hc]
    exact h
  cases kind with
  | opens =>
    have hgood : Good s.opens {} := by
      refine ⟨h.thrown, ?_, ?_, ?_, by simp, by simp, by simp, by simp⟩
      · exact Nat.le_trans (Nat.le_of_eq h.outstanding) (Nat.zero_le 1)
      · simp [State.opens, h.calls, h.sent]
      · simp [State.opens, h.sent]
    exact hgood.fine (by rw [State.opens, hc]; rfl)
  | closes =>
    have hle := h.refCount
    have hclosed : ¬ s.refCount - 1 = 0 := by omega
    have hstay : s.closes = { s with refCount := s.refCount - 1 } := if_neg hclosed
    rw [State.react, hstay, Fine, hc]
    exact { h with refCount := by show s.refCount - 1 ≤ 0; omega }
  | send command =>
    rw [State.react, State.send, hc]
    exact hfine
  | _ =>
    rw [State.react, handle, hc]
    exact hfine

/-- Each calm step keeps the invariant. -/
theorem Fine.step (h : Fine s) (e : Event) (hcalm : s.Calm e) : Fine (s.step e) := by
  cases hc : s.controllerInstance with
  | some c =>
    rw [Fine, hc] at h
    exact (Good.wait h e.elapsed).react hc e.kind hcalm
  | none =>
    rw [Fine, hc] at h
    exact Unused.react (s := s.wait e.elapsed) { h with } hc e.kind

theorem Fine.serial (h : Fine s) : Serial s := by
  cases hc : s.controllerInstance with
  | none =>
    rw [Fine, hc] at h
    have hzero := h.outstanding
    have hcount := h.refCount
    refine ⟨h.thrown, by omega, by simp [h.calls, h.sent], by simp [h.sent], fun hpos => by omega⟩
  | some c =>
    rw [Fine, hc] at h
    refine ⟨h.thrown, h.single, h.sends ▸ List.prefix_append _ _, h.spaced, fun hpos => ⟨c, hc, ?_⟩⟩
    cases hclosing : c.closing with
    | false => rfl
    | true =>
      have hle := h.closed hclosing
      omega

end State

/-! ## Every run -/

/-- In every run whose steps are all calm, sending is serial in every state. -/
theorem sending_serial (events : List Event) (h : Along State.step State.Calm {} events) :
    (events.foldl State.step {}).Serial := by
  have hstart : State.Fine {} := (⟨rfl, rfl, rfl, rfl, Int.le_refl 0, rfl⟩ : State.Unused {})
  exact (h.invariant hstart fun s e hs hcalm => hs.step e hcalm).serial

def on : SendCommand := ⟨"tv", "on"⟩

def off : SendCommand := ⟨"tv", "off"⟩

/-- A command that waits for another one and for the end of a signal. -/
theorem sending_serial_waits :
    (List.foldl State.step {} [⟨0, .opens⟩, ⟨5, .connect⟩, ⟨1, .send on⟩, ⟨2, .send off⟩,
    ⟨1, .receive []⟩, ⟨1, .settle⟩, ⟨receiveDelay, .receiveTimeout⟩, ⟨1, .settle⟩,
      ⟨9, .closes⟩]).Serial := by
  refine sending_serial _ ⟨?_, ?_, trivial, trivial, fun hne => absurd rfl hne, trivial, trivial,
    trivial, trivial, trivial⟩
  · intro c hc
    cases hc
  · intro c hc _
    cases hc
    exact ⟨rfl, .inr fun r hr => by cases hr⟩

/-- The handler of an error throws; two commands are under way after the connection was lost for a
moment; a command is sent right after a signal in the same way; a controller that is opened again is
closed. -/
theorem sending_not_serial :
    (List.foldl State.step {} [⟨0, .opens⟩, ⟨0, .error .ended⟩]).thrown = [.ended] ∧
    (List.foldl State.step {} [⟨0, .opens⟩, ⟨0, .connect⟩, ⟨1, .send on⟩, ⟨1, .send off⟩,
      ⟨1, .disconnect⟩, ⟨1, .connect⟩]).outstanding = 2 ∧
    (List.foldl State.step {} [⟨0, .opens⟩,
      ⟨0, .connect⟩, ⟨1, .receive []⟩, ⟨1, .disconnect⟩, ⟨1, .connect⟩,
      ⟨1, .send on⟩]).sent = [⟨on, 4, some 1⟩] ∧
    (let s := List.foldl State.step {} [⟨0, .opens⟩, ⟨0, .closes⟩, ⟨0, .opens⟩]
     s.refCount = 1 ∧ s.controllerInstance.map Controller.closing = some true) := by
  refine ⟨rfl, rfl, rfl, rfl, rfl⟩

end MylifeHome.Plugins.Lirc
