import MylifeHome.Lib.OMap
import MylifeHome.Lib.Run

/-!
# Running executions of the tahoma driver

`Client` starts and cancels executions of commands on devices and keeps which one runs on
which device. A call to the server and its reply are two events, so commands on one device
and the events that the server sends may come between them. The server is explicit: an
execution starts there before the reply arrives.
-/
namespace MylifeHome.Plugins.Tahoma

open MylifeHome.Lib OMap

/-! ## The maps -/

structure RunningExecutions where
  byDevice : OMap String String := ∅
  byExec : OMap String String := ∅

namespace RunningExecutions

def clear (_ : RunningExecutions) : RunningExecutions := {}

def getByDevice (r : RunningExecutions) (deviceURL : String) : Option String :=
  r.byDevice.get deviceURL

def set (r : RunningExecutions) (deviceURL execId : String) : RunningExecutions where
  byDevice := r.byDevice.set deviceURL execId
  byExec := r.byExec.set execId deviceURL

/-- A text that counts as true: one that is there and not empty. -/
def truthy (text : Option String) : Option String := text.filter (· ≠ "")

def removeByDevice (r : RunningExecutions) (deviceURL : String) : RunningExecutions :=
  match truthy (r.byDevice.get deviceURL) with
  | some execId => ⟨r.byDevice.delete deviceURL, r.byExec.delete execId⟩
  | none => r

def removeByExec (r : RunningExecutions) (execId : String) : RunningExecutions :=
  match truthy (r.byExec.get execId) with
  | some deviceURL => ⟨r.byDevice.delete deviceURL, r.byExec.delete execId⟩
  | none => r

end RunningExecutions

/-! ## The client and the server -/

/-- A call that is not answered: the cancellation of an execution, after which a command may follow,
or a command, with the execution once the server has started it. -/
inductive Call where
  | cancel (deviceURL execId : String) (thenExecute : Bool)
  | execute (deviceURL : String) (execId : Option String)
  deriving DecidableEq

/-- The client and the calls to the server. Besides, all executions that were ever started, and
those with their device that were started since the last logout and neither cancelled nor reported
as ended. -/
structure Client where
  online : Bool := false
  executions : RunningExecutions := {}
  calls : OMap Nat Call := ∅
  nextCall : Nat := 0
  started : List String := []
  live : List (String × String) := []

inductive Event where
  | execute (deviceURL : String)
  | interrupt (deviceURL : String)
  | cancelReply (id : Nat) (ok : Bool)
  | start (id : Nat) (execId : String)
  | executeReply (id : Nat) (ok : Bool)
  | ended (execId : String)
  | logout
  | login

namespace Client

def call (s : Client) (call : Call) : Client :=
  { s with calls := s.calls.set s.nextCall call, nextCall := s.nextCall + 1 }

def isExecuting (s : Client) (deviceURL : String) : Bool :=
  (RunningExecutions.truthy (s.executions.getByDevice deviceURL)).isSome

/-- `cancel`, and the command that follows if there is nothing to cancel -/
def cancel (s : Client) (deviceURL : String) (thenExecute : Bool) : Client :=
  match RunningExecutions.truthy (s.executions.getByDevice deviceURL) with
  | some oldExecId => s.call (.cancel deviceURL oldExecId thenExecute)
  | none => if thenExecute then s.call (.execute deviceURL none) else s

/-- An execution is over. -/
def forget (s : Client) (execId : String) : Client :=
  { s with live := s.live.filter (·.2 ≠ execId) }

/-- The call has its reply. -/
def answered (s : Client) (id : Nat) : Client := { s with calls := s.calls.delete id }

def onCancelReply (s : Client) (id : Nat) (ok : Bool) : Client :=
  match s.calls.get id with
  | some (.cancel deviceURL execId thenExecute) =>
    let s := s.answered id
    if ok then
      let s := { s.forget execId with executions := s.executions.removeByDevice deviceURL }
      if thenExecute then s.call (.execute deviceURL none) else s
    else s
  | _ => s

/-- The server starts an execution with a new id. -/
def onStart (s : Client) (id : Nat) (execId : String) : Client :=
  match s.calls.get id with
  | some (.execute deviceURL none) =>
    if execId ∈ s.started then s
    else { s with
      calls := s.calls.set id (.execute deviceURL (some execId))
      started := execId :: s.started
      live := (deviceURL, execId) :: s.live }
  | _ => s

/-- A call succeeds only once the execution is started. -/
def onExecuteReply (s : Client) (id : Nat) (ok : Bool) : Client :=
  match s.calls.get id with
  | some (.execute deviceURL (some execId)) =>
    if ok then { s.answered id with executions := s.executions.set deviceURL execId }
    else s.answered id
  | some (.execute _ none) => if ok then s else s.answered id
  | _ => s

def step (s : Client) : Event → Client
  | .execute deviceURL => if !s.online then s else s.cancel deviceURL true
  | .interrupt deviceURL => if !s.online then s else s.cancel deviceURL false
  | .cancelReply id ok => s.onCancelReply id ok
  | .start id execId => s.onStart id execId
  | .executeReply id ok => s.onExecuteReply id ok
  | .ended execId =>
    if execId ∈ s.started then { s.forget execId with
      executions := s.executions.removeByExec execId } else s
  | .logout => { s with online := false, executions := s.executions.clear, live := [] }
  | .login => { s with online := true }

/-! ## What the maps have to say -/

/-- The two maps are inverse of each other. -/
def Inverse (r : RunningExecutions) : Prop :=
  ∀ deviceURL execId, r.byDevice.get deviceURL = some execId ↔ r.byExec.get execId = some deviceURL

structure Accurate (s : Client) : Prop where
  inverse : Inverse s.executions
  executing : (∀ id, s.calls.get id = none) → ∀ deviceURL,
    s.isExecuting deviceURL = true ↔ ∃ execId, (deviceURL, execId) ∈ s.live

/-- What has to be kept from happening: when a command is answered, its execution is over or another
one is recorded for the device; a command that was started fails; and when a cancellation is
answered, another execution is recorded. -/
def Orderly (s : Client) : Event → Prop
  | .execute deviceURL => deviceURL ≠ ""
  | .start _ execId => execId ≠ ""
  | .executeReply id ok => ∀ deviceURL execId, s.calls.get id =
    some (.execute deviceURL (some execId)) →
      if ok then s.executions.getByDevice deviceURL = none ∧ (deviceURL, execId) ∈ s.live
      else (deviceURL, execId) ∉ s.live
  | .cancelReply id true => ∀ deviceURL execId thenExecute, s.calls.get id =
    some (.cancel deviceURL execId thenExecute) →
      ∀ other, s.executions.getByDevice deviceURL = some other → other = execId
  | _ => True

/-! ## What each step keeps -/

/-- The recorded executions are the live ones that have no pending call any more. -/
structure Consistent (s : Client) : Prop where
  inverse : Inverse s.executions
  recorded : ∀ d e, s.executions.byDevice.get d = some e → (d, e) ∈ s.live ∧ d ≠ "" ∧ e ≠ ""
  tracked : ∀ d e, (d, e) ∈ s.live → s.executions.byDevice.get d = some e ∨
    ∃ id, s.calls.get id = some (.execute d (some e))
  owner : ∀ d d' e, (d, e) ∈ s.live → (d', e) ∈ s.live → d = d'
  known : ∀ d e, (d, e) ∈ s.live → e ∈ s.started
  commands : ∀ id d e, s.calls.get id = some (.execute d e) → d ≠ ""
  pending : ∀ id d e, s.calls.get id = some (.execute d (some e)) → e ∈ s.started ∧ e ≠ "" ∧
    s.executions.byExec.get e = none
  distinct : ∀ id id' d d' e, s.calls.get id = some (.execute d (some e)) →
    s.calls.get id' = some (.execute d' (some e)) → id = id'
  cancels : ∀ id d e next, s.calls.get id = some (.cancel d e next) → d ≠ "" ∧ e ∈ s.started ∧
    ∀ d', (d', e) ∈ s.live → d' = d
  fresh : ∀ id c, s.calls.get id = some c → id < s.nextCall

variable {s : Client}

theorem truthy_of_ne {text : String} (h : text ≠ "") : RunningExecutions.truthy (some text) =
    some text := by
  simp [RunningExecutions.truthy, h]

/-- The executions of the devices are no empty texts. -/
theorem Consistent.truthy (h : Consistent s) (d : String) :
    RunningExecutions.truthy (s.executions.getByDevice d) = s.executions.byDevice.get d := by
  cases hget : s.executions.byDevice.get d with
  | none => rw [RunningExecutions.getByDevice, hget]; rfl
  | some e => rw [RunningExecutions.getByDevice, hget, truthy_of_ne (h.recorded d e hget).2.2]

/-- A new call that has not started anything. -/
theorem Consistent.call (h : Consistent s) {c : Call} (hnew : ∀ d e, c ≠ .execute d (some e))
    (hcommand : ∀ d e, c = .execute d e → d ≠ "")
    (hcancel : ∀ d e next, c = .cancel d e next → d ≠ "" ∧ e ∈ s.started ∧ ∀ d',
      (d', e) ∈ s.live → d' = d) :
    Consistent (s.call c) := by
  have hold : ∀ id c', (s.call c).calls.get id = some c' → c' = c ∨ s.calls.get id = some c' := by
    intro id c' hget
    obtain ⟨-, rfl⟩ | ⟨-, hold⟩ := get_set_eq_some.mp hget
    · exact .inl rfl
    · exact .inr hold
  have hstarted : ∀ id d e, (s.call c).calls.get id = some (.execute d (some e)) →
      s.calls.get id = some (.execute d (some e)) := by
    intro id d e hget
    exact (hold id _ hget).resolve_left fun heq => hnew d e heq.symm
  refine ⟨h.inverse, h.recorded, fun d e hlive => (h.tracked d e hlive).imp_right ?_, h.owner,
    h.known, fun id d e hget => ?_, fun id d e hget => h.pending id d e (hstarted id d e hget),
    fun id id' d d' e hget hget' =>
      h.distinct id id' d d' e (hstarted id d e hget) (hstarted id' d' e hget'),
    fun id d e next hget => ?_, fun id c' hget => ?_⟩
  · rintro ⟨id, hget⟩
    have hne : id ≠ s.nextCall := Nat.ne_of_lt (h.fresh id _ hget)
    exact ⟨id, (get_set_ne _ _ hne).trans hget⟩
  · rcases hold id _ hget with heq | hget
    · exact hcommand d e heq.symm
    · exact h.commands id d e hget
  · rcases hold id _ hget with heq | hget
    · exact hcancel d e next heq.symm
    · exact h.cancels id d e next hget
  · obtain ⟨rfl, -⟩ | ⟨-, hget⟩ := get_set_eq_some.mp hget
    · exact Nat.lt_succ_self _
    · exact Nat.lt_succ_of_lt (h.fresh id c' hget)

/-- A call is answered that has not started a live execution. -/
theorem Consistent.answered (h : Consistent s) {id : Nat} {c : Call}
    (hget : s.calls.get id = some c)
    (hover : ∀ d e, c = .execute d (some e) → (d, e) ∉ s.live) : Consistent (s.answered id) := by
  have hold : ∀ id' c', (s.answered id).calls.get id' = some c' → s.calls.get id' = some c' :=
    fun id' c' hget' =>
    (get_delete_eq_some.mp hget').2
  refine ⟨h.inverse, h.recorded, fun d e hlive => (h.tracked d e hlive).imp_right ?_, h.owner,
    h.known, fun id' d e hget' => h.commands id' d e (hold _ _ hget'), fun id' d e hget' =>
      h.pending id' d e (hold _ _ hget'),
    fun id₁ id₂ d d' e h₁ h₂ => h.distinct id₁ id₂ d d' e (hold _ _ h₁) (hold _ _ h₂),
    fun id' d e next hget' => h.cancels id' d e next (hold _ _ hget'), fun id' c' hget' =>
      h.fresh id' c' (hold _ _ hget')⟩
  rintro ⟨id', hget'⟩
  have hne : id' ≠ id := by
    rintro rfl
    exact hover d e (Option.some.inj (hget.symm.trans hget')) hlive
  exact ⟨id', (get_delete_ne _ hne).trans hget'⟩

/-- An execution is over that is recorded for the device. -/
theorem Consistent.remove (h : Consistent s) {d e : String}
    (hget : s.executions.byDevice.get d = some e) :
    Consistent { s.forget e with
      executions := ⟨s.executions.byDevice.delete d, s.executions.byExec.delete e⟩ } := by
  have hexec := (h.inverse d e).mp hget
  have hlive : ∀ d' e', (d', e') ∈ (s.forget e).live ↔ (d', e') ∈ s.live ∧ e' ≠ e := by
    intro d' e'
    simp [forget]
  refine ⟨fun d' e' => ?_, fun d' e' hget' => ?_, fun d' e' hlive' => ?_, fun d₁ d₂ e' h₁ h₂ => ?_,
    fun d' e' hlive' => ?_,
    h.commands, fun id d' e' hget' => ?_, h.distinct, fun id d' e' next hget' => ?_, h.fresh⟩
  · rw [get_delete_eq_some, get_delete_eq_some, ← h.inverse d' e']
    refine and_congr_left fun hget' => not_congr ⟨?_, ?_⟩
    · rintro rfl
      exact Option.some.inj (hget'.symm.trans hget)
    · rintro rfl
      exact Option.some.inj (((h.inverse d' e').mp hget').symm.trans hexec)
  · obtain ⟨hne, hold⟩ := get_delete_eq_some.mp hget'
    obtain ⟨hlive', hd, he⟩ := h.recorded d' e' hold
    refine ⟨(hlive d' e').mpr ⟨hlive', fun heq => hne ?_⟩, hd, he⟩
    subst heq
    exact Option.some.inj (((h.inverse d' e').mp hold).symm.trans hexec)
  · obtain ⟨hlive', hne⟩ := (hlive d' e').mp hlive'
    refine (h.tracked d' e' hlive').imp_left fun hget' => get_delete_eq_some.mpr ⟨?_, hget'⟩
    rintro rfl
    exact hne (Option.some.inj (hget'.symm.trans hget))
  · exact h.owner d₁ d₂ e' ((hlive d₁ e').mp h₁).1 ((hlive d₂ e').mp h₂).1
  · exact h.known d' e' ((hlive d' e').mp hlive').1
  · obtain ⟨hstarted, he, hnone⟩ := h.pending id d' e' hget'
    refine ⟨hstarted, he, ?_⟩
    rw [get_delete, hnone, ite_self]
  · obtain ⟨hd, hstarted, howner⟩ := h.cancels id d' e' next hget'
    exact ⟨hd, hstarted, fun d₁ h₁ => howner d₁ ((hlive d₁ e').mp h₁).1⟩

/-- An execution is over that is not recorded. -/
theorem Consistent.forget (h : Consistent s) {e : String}
    (hnone : s.executions.byExec.get e = none) : Consistent (s.forget e) := by
  have hlive : ∀ d' e', (d', e') ∈ (s.forget e).live ↔ (d', e') ∈ s.live ∧ e' ≠ e := by
    intro d' e'
    simp [Client.forget]
  refine ⟨h.inverse, fun d' e' hget => ?_,
    fun d' e' hlive' => h.tracked d' e' ((hlive d' e').mp hlive').1,
    fun d₁ d₂ e' h₁ h₂ => h.owner d₁ d₂ e' ((hlive d₁ e').mp h₁).1 ((hlive d₂ e').mp h₂).1,
    fun d' e' hlive' => h.known d' e' ((hlive d' e').mp hlive').1, h.commands, h.pending,
      h.distinct,
    fun id d' e' next hget => ?_, h.fresh⟩
  · obtain ⟨hlive', hd, he⟩ := h.recorded d' e' hget
    refine ⟨(hlive d' e').mpr ⟨hlive', ?_⟩, hd, he⟩
    rintro rfl
    rw [(h.inverse d' e').mp hget] at hnone
    cases hnone
  · obtain ⟨hd, hstarted, howner⟩ := h.cancels id d' e' next hget
    exact ⟨hd, hstarted, fun d₁ h₁ => howner d₁ ((hlive d₁ e').mp h₁).1⟩

/-- The server starts an execution. -/
theorem Consistent.start (h : Consistent s)
    (id : Nat) {execId : String} (hid : execId ≠ "") : Consistent (s.onStart id execId) := by
  unfold onStart
  split
  · rename_i d hget
    split
    · exact h
    · rename_i hnew
      have hunknown : ∀ d', (d', execId) ∉ s.live := fun d' hlive => hnew (h.known d' execId hlive)
      have hnone : s.executions.byExec.get execId = none := by
        cases hexec : s.executions.byExec.get execId with
        | none => rfl
        | some d' => exact absurd (h.recorded d' execId
          ((h.inverse d' execId).mpr hexec)).1 (hunknown d')
      have hcalls : ∀ id' c, (s.calls.set id (.execute d (some execId))).get id' = some c →
          id' = id ∧ c = .execute d (some execId) ∨ id' ≠ id ∧ s.calls.get id' = some c := by
        intro id' c hget'
        obtain ⟨rfl, rfl⟩ | hold := get_set_eq_some.mp hget'
        · exact .inl ⟨rfl, rfl⟩
        · exact .inr hold
      have hpending : ∀ id' d', s.calls.get id' ≠ some (.execute d' (some execId)) :=
        fun id' d' hget' =>
        hnew (h.pending id' d' execId hget').1
      refine ⟨h.inverse, fun d' e hget' => ?_, fun d' e hlive => ?_, fun d₁ d₂ e h₁ h₂ => ?_,
        fun d' e hlive => ?_,
        fun id' d' e hget' => ?_, fun id' d' e hget' => ?_, fun id₁ id₂ d₁ d₂ e h₁ h₂ =>
          ?_, fun id' d' e next hget' => ?_,
        fun id' c hget' => ?_⟩
      · obtain ⟨hlive, hne⟩ := h.recorded d' e hget'
        exact ⟨List.mem_cons_of_mem _ hlive, hne⟩
      · rcases List.mem_cons.mp hlive with heq | hlive
        · cases heq
          exact .inr ⟨id, get_set_self _ _ _⟩
        · refine (h.tracked d' e hlive).imp_right fun ⟨id', hget'⟩ => ⟨id', ?_⟩
          have hne : id' ≠ id := by
            rintro rfl
            rw [hget] at hget'
            cases hget'
          exact (get_set_ne _ _ hne).trans hget'
      · rcases List.mem_cons.mp h₁ with heq₁ | h₁ <;> rcases List.mem_cons.mp h₂ with heq₂ | h₂
        · cases heq₁
          cases heq₂
          rfl
        · cases heq₁
          exact absurd h₂ (hunknown d₂)
        · cases heq₂
          exact absurd h₁ (hunknown d₁)
        · exact h.owner d₁ d₂ e h₁ h₂
      · rcases List.mem_cons.mp hlive with heq | hlive
        · cases heq
          exact List.mem_cons_self
        · exact List.mem_cons_of_mem _ (h.known d' e hlive)
      · obtain ⟨rfl, heq⟩ | ⟨-, hold⟩ := hcalls id' _ hget'
        · cases heq
          exact h.commands id' d none hget
        · exact h.commands id' d' e hold
      · obtain ⟨rfl, heq⟩ | ⟨-, hold⟩ := hcalls id' _ hget'
        · cases heq
          exact ⟨List.mem_cons_self, hid, hnone⟩
        · obtain ⟨hstarted, hne⟩ := h.pending id' d' e hold
          exact ⟨List.mem_cons_of_mem _ hstarted, hne⟩
      · obtain ⟨hid₁, heq₁⟩ | ⟨-, hold₁⟩ := hcalls id₁ _ h₁ <;> obtain ⟨hid₂, heq₂⟩ | ⟨-, hold₂⟩ :=
          hcalls id₂ _ h₂
        · exact hid₁.trans hid₂.symm
        · cases heq₁
          exact absurd hold₂ (hpending id₂ d₂)
        · cases heq₂
          exact absurd hold₁ (hpending id₁ d₁)
        · exact h.distinct id₁ id₂ d₁ d₂ e hold₁ hold₂
      · obtain ⟨-, heq⟩ | ⟨-, hold⟩ := hcalls id' _ hget'
        · cases heq
        · obtain ⟨hd, hstarted, howner⟩ := h.cancels id' d' e next hold
          refine ⟨hd, List.mem_cons_of_mem _ hstarted, fun d₁ h₁ => ?_⟩
          rcases List.mem_cons.mp h₁ with heq | h₁
          · cases heq
            exact absurd hstarted hnew
          · exact howner d₁ h₁
      · obtain ⟨rfl, -⟩ | ⟨-, hold⟩ := hcalls id' c hget'
        · exact h.fresh id' _ hget
        · exact h.fresh id' c hold
  · exact h

/-- The reply to a command whose execution is live while none is recorded for the device. -/
theorem Consistent.record (h : Consistent s) {id : Nat} {d e : String}
    (hget : s.calls.get id = some (.execute d (some e)))
    (hfree : s.executions.byDevice.get d = none) (hlive : (d, e) ∈ s.live) :
    Consistent { s.answered id with executions := s.executions.set d e } := by
  obtain ⟨hstarted, he, hnone⟩ := h.pending id d e hget
  have hd := h.commands id d _ hget
  have hold : ∀ id' c, (s.calls.delete id).get id' = some c → id' ≠ id ∧ s.calls.get id' = some c :=
    fun id' c hget' =>
    get_delete_eq_some.mp hget'
  refine ⟨fun d' e' => ?_, fun d' e' hget' => ?_, fun d' e' hlive' => ?_, h.owner, h.known,
    fun id' d' e' hget' => h.commands id' d' e' (hold _ _ hget').2, fun id' d' e' hget' => ?_,
    fun id₁ id₂ d₁ d₂ e' h₁ h₂ => h.distinct id₁ id₂ d₁ d₂ e' (hold _ _ h₁).2 (hold _ _ h₂).2,
    fun id' d' e' next hget' => h.cancels id' d' e' next (hold _ _ hget').2, fun id' c hget' =>
      h.fresh id' c (hold _ _ hget').2⟩
  · rw [RunningExecutions.set, get_set_eq_some, get_set_eq_some, ← h.inverse d' e']
    constructor
    · rintro (⟨rfl, rfl⟩ | ⟨hne, hget'⟩)
      · exact .inl ⟨rfl, rfl⟩
      · refine .inr ⟨?_, hget'⟩
        rintro rfl
        rw [(h.inverse d' e').mp hget'] at hnone
        cases hnone
    · rintro (⟨rfl, rfl⟩ | ⟨hne, hget'⟩)
      · exact .inl ⟨rfl, rfl⟩
      · refine .inr ⟨?_, hget'⟩
        rintro rfl
        rw [hget'] at hfree
        cases hfree
  · obtain ⟨rfl, rfl⟩ | ⟨-, hget'⟩ := get_set_eq_some.mp hget'
    · exact ⟨hlive, hd, he⟩
    · exact h.recorded d' e' hget'
  · obtain hget' | ⟨id', hget'⟩ := h.tracked d' e' hlive'
    · refine .inl (get_set_eq_some.mpr (.inr ⟨?_, hget'⟩))
      rintro rfl
      rw [hget'] at hfree
      cases hfree
    · by_cases hid : id' = id
      · subst hid
        cases hget.symm.trans hget'
        exact .inl (get_set_self _ _ _)
      · exact .inr ⟨id', (get_delete_ne _ hid).trans hget'⟩
  · obtain ⟨hne, hcall⟩ := hold id' _ hget'
    obtain ⟨hstarted', he', hnone'⟩ := h.pending id' d' e' hcall
    refine ⟨hstarted', he', (get_set_ne _ _ ?_).trans hnone'⟩
    intro heq
    subst heq
    exact hne (h.distinct id' id d' d e' hcall hget)

theorem Consistent.cancel (h : Consistent s) {d : String} {next : Bool}
    (hd : next = true → d ≠ "") : Consistent (s.cancel d next) := by
  unfold Client.cancel
  rw [h.truthy d]
  cases hget : s.executions.byDevice.get d with
  | some e =>
    obtain ⟨hlive, hd', -⟩ := h.recorded d e hget
    refine h.call (fun _ _ heq => by cases heq) (fun _ _ heq => by cases heq) fun d' e' next'
      heq => ?_
    cases heq
    exact ⟨hd', h.known d e hlive, fun d' hlive' => h.owner d' d e hlive' hlive⟩
  | none =>
    cases next with
    | false => exact h
    | true =>
      refine h.call (fun _ _ heq => by cases heq) (fun d' _ heq => ?_) fun _ _ _ heq => by cases heq
      cases heq
      exact hd rfl

/-- The reply to a cancellation while no other execution is recorded for the device. -/
theorem Consistent.cancelReply (h : Consistent s) (id : Nat) (ok : Bool)
    (horderly : s.Orderly (.cancelReply id ok)) :
    Consistent (s.onCancelReply id ok) := by
  unfold onCancelReply
  split
  · rename_i d e next hget
    obtain ⟨hd, -, howner⟩ := h.cancels id d e next hget
    have hanswered := h.answered hget fun _ _ heq => by cases heq
    cases ok with
    | false => exact hanswered
    | true =>
      have hremoved : Consistent { (s.answered id).forget e with
          executions := s.executions.removeByDevice d } := by
        unfold RunningExecutions.removeByDevice
        have htruthy := h.truthy d
        rw [RunningExecutions.getByDevice] at htruthy
        rw [htruthy]
        cases hdevice : s.executions.byDevice.get d with
        | some other =>
          obtain rfl := horderly d e next hget other hdevice
          exact hanswered.remove hdevice
        | none =>
          refine hanswered.forget ?_
          cases hexec : s.executions.byExec.get e with
          | none => exact hexec
          | some d' =>
            have hdevice' := (h.inverse d' e).mpr hexec
            rw [howner d' (h.recorded d' e hdevice').1, hdevice] at hdevice'
            cases hdevice'
      cases next with
      | false => exact hremoved
      | true =>
        refine hremoved.call (fun _ _ heq => by cases heq) (fun d' _ heq => ?_) fun _ _ _ heq => by
          cases heq
        cases heq
        exact hd
  · exact h

theorem Consistent.executeReply (h : Consistent s) (id : Nat) (ok : Bool)
    (horderly : s.Orderly (.executeReply id ok)) :
    Consistent (s.onExecuteReply id ok) := by
  unfold onExecuteReply
  split
  · rename_i d e hget
    have hcond := horderly d e hget
    cases ok with
    | true => exact h.record hget hcond.1 hcond.2
    | false =>
      refine h.answered hget fun d' e' heq => ?_
      cases heq
      exact hcond
  · rename_i d hget
    cases ok with
    | true => exact h
    | false => exact h.answered hget fun _ _ heq => by cases heq
  · exact h

theorem Consistent.step (h : Consistent s) (e : Event) (horderly : s.Orderly e) :
    Consistent (s.step e) := by
  cases e with
  | execute d =>
    simp only [Client.step]
    split
    · exact h
    · exact h.cancel fun _ => horderly
  | interrupt d =>
    simp only [Client.step]
    split
    · exact h
    · exact h.cancel fun heq => by cases heq
  | cancelReply id ok => exact h.cancelReply id ok horderly
  | start id execId => exact h.start id horderly
  | executeReply id ok => exact h.executeReply id ok horderly
  | ended execId =>
    simp only [Client.step]
    split
    · unfold RunningExecutions.removeByExec
      cases hexec : s.executions.byExec.get execId with
      | none => exact h.forget hexec
      | some d =>
        have hdevice := (h.inverse d execId).mpr hexec
        rw [truthy_of_ne (h.recorded d execId hdevice).2.1]
        exact h.remove hdevice
    · exact h
  | logout =>
    refine ⟨fun d e => ?_, fun d e hget => ?_, ?_, ?_, ?_, h.commands, fun id d e hget => ?_,
      h.distinct, fun id d e next hget => ?_, h.fresh⟩
    · exact iff_of_false (fun hget => by cases hget) fun hget => by cases hget
    · cases hget
    · simp [Client.step]
    · simp [Client.step]
    · simp [Client.step]
    · obtain ⟨hstarted, he, -⟩ := h.pending id d e hget
      exact ⟨hstarted, he, rfl⟩
    · obtain ⟨hd, hstarted, -⟩ := h.cancels id d e next hget
      exact ⟨hd, hstarted, by simp [Client.step]⟩
  | login => exact { h with }

theorem Consistent.accurate (h : Consistent s) : Accurate s := by
  refine ⟨h.inverse, fun hnone d => ?_⟩
  rw [isExecuting, h.truthy d]
  constructor
  · intro hsome
    obtain ⟨e, hget⟩ := Option.isSome_iff_exists.mp hsome
    exact ⟨e, (h.recorded d e hget).1⟩
  · rintro ⟨e, hlive⟩
    obtain hget | ⟨id, hget⟩ := h.tracked d e hlive
    · rw [hget]
      rfl
    · rw [hnone id] at hget
      cases hget

end Client

/-! ## Every run -/

/-- In every run whose steps are all orderly, the maps are accurate in every state. -/
theorem executions_accurate (events : List Event) (h : Along Client.step Client.Orderly {} events) :
    (events.foldl Client.step {}).Accurate := by
  have hstart : Client.Consistent {} := by
    refine ⟨fun d e => ⟨?_, ?_⟩, ?_, ?_, ?_, ?_, ?_, ?_, ?_, ?_, ?_⟩
    all_goals intros; contradiction
  exact (h.invariant hstart fun s e hs horderly => hs.step e horderly).accurate

/-- A command that is replaced by another one, which ends. -/
theorem executions_accurate_replaced :
    (List.foldl Client.step {} [.login, .execute "io://1", .start 0 "a", .executeReply 0 true,
      .execute "io://1",
      .cancelReply 1 true, .start 2 "b", .executeReply 2 true, .ended "b"]).Accurate := by
  have hdevice : "io://1" ≠ "" := by decide
  have ha : "a" ≠ "" := by decide
  have hb : "b" ≠ "" := by decide
  refine executions_accurate _ ⟨trivial, hdevice, ha, ?_, hdevice, ?_, hb, ?_, trivial, trivial⟩
  · intro d e hget
    cases hget
    decide +kernel
  · intro d e next hget other hother
    cases hget
    cases hother
    rfl
  · intro d e hget
    cases hget
    decide +kernel

/-- Two commands on one device before the first reply: the maps are not inverse, and when the first
execution ends, the second one is forgotten although it runs. -/
theorem executions_overlap :
    let events : List Event :=
      [.login, .execute "io://1", .execute "io://1", .start 0 "a", .start 1 "b",
      .executeReply 0 true, .executeReply 1 true]
    let s := events.foldl Client.step {}
    s.executions.byDevice.get "io://1" = some "b" ∧ s.executions.byExec.get "a" = some "io://1" ∧
      (s.step (.ended "a")).calls.size = 0 ∧ (s.step (.ended "a")).isExecuting "io://1" = false ∧
      (s.step (.ended "a")).live = [("io://1", "b")] := by
  decide +kernel

end MylifeHome.Plugins.Tahoma
