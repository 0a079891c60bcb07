import MylifeHome.Lib.OMap
import MylifeHome.Lib.Run

/-!
# The zones of the absoluta driver

`Engine` fetches mails and publishes what they say about zones to `Store`. Fetches overlap,
each has its own batch of updates, and a batch is published when its fetch is complete. When
the connection is lost, the store sets all zones inactive, but the engine goes on after the
last message that it has seen.
-/
namespace MylifeHome.Plugins.Absoluta

open MylifeHome.Lib OMap

/-! ## The store -/

structure ZoneUpdate where
  zone : String
  active : Bool
  date : Int
  msgseq : Nat
  deriving DecidableEq

namespace Store

def isActive (values : OMap String Bool) (label : String) : Bool := (values.get label).getD false

def setActive (values : OMap String Bool) (label : String) (active : Bool) : OMap String Bool :=
  if isActive values label = active then values else values.set label active

/-- Going offline sets all active zones to false. -/
def clear (values : OMap String Bool) : OMap String Bool :=
  values.mapVal fun value => if value then false else value

end Store

/-! ## Batches of updates -/

namespace BatchUpdates

def isNewer (existing : Option ZoneUpdate) (update : ZoneUpdate) : Bool :=
  match existing with
  | none => true
  | some existing =>
    if existing.date < update.date then true
    else if existing.date > update.date then false
    -- the dates are equal, the higher sequence is the latest
    else existing.msgseq < update.msgseq

def add (updates : OMap String ZoneUpdate) (update : ZoneUpdate) : OMap String ZoneUpdate :=
  if isNewer (updates.get update.zone) update then updates.set update.zone update else updates

def publish (updates : OMap String ZoneUpdate) (values : OMap String Bool) : OMap String Bool :=
  updates.values.foldl (fun values update => Store.setActive values update.zone update.active)
    values

end BatchUpdates

/-! ## The engine -/

/-- `{ since }` or `n:*` -/
inductive Pattern where
  | since
  | range (first : Nat)
  deriving DecidableEq

/-- A fetch that is not complete, with all the updates that it has received. -/
structure Fetch where
  pattern : Pattern
  updates : OMap String ZoneUpdate := ∅
  received : List ZoneUpdate := []

/-- The engine with its store. Besides, all updates that were received so far, and whether a fetch
was complete since the last connection. -/
structure Engine where
  online : Bool := false
  values : OMap String Bool := ∅
  lastSeq : Option Nat := none
  interval : Bool := false
  fetches : OMap Nat Fetch := ∅
  nextFetch : Nat := 0
  fetched : List ZoneUpdate := []
  completed : Bool := false

/-- A row of a message. -/
structure Row where
  zone : String
  active : Bool
  date : Int
  deriving DecidableEq

structure Message where
  seq : Nat
  rows : List Row
  deriving DecidableEq

/-- What `parse` makes of a message. -/
def Message.updates (msg : Message) : List ZoneUpdate :=
  msg.rows.map fun row =>
    { zone := row.zone, active := row.active, date := row.date, msgseq := msg.seq }

inductive Event where
  | connected
  | disconnected
  | updated
  | interval
  | message (id : Nat) (msg : Message)
  | complete (id : Nat)
  | fail (id : Nat)

namespace Engine

def isActive (s : Engine) (zone : String) : Bool := Store.isActive s.values zone

def pattern (s : Engine) : Pattern :=
  match s.lastSeq with
  | none => .since
  | some lastSeq => .range (lastSeq + 1)

/-- `refresh` up to its first message. -/
def refresh (s : Engine) : Engine :=
  { s with interval := false, fetches :=
      s.fetches.set s.nextFetch { pattern := s.pattern }, nextFetch := s.nextFetch + 1 }

/-- A message of a fetch arrives. -/
def receive (s : Engine) (id : Nat) (msg : Message) : Engine :=
  match s.fetches.get id with
  | none => s
  | some fetch =>
    { s with
      lastSeq := some (max (s.lastSeq.getD 0) msg.seq)
      fetches := s.fetches.set id { fetch with
        updates := msg.updates.foldl BatchUpdates.add fetch.updates
        received := fetch.received ++ msg.updates }
      fetched := s.fetched ++ msg.updates }

/-- `refresh` after its loop: the interval is resumed if the store is online. -/
def finish (s : Engine) (id : Nat) : Engine :=
  { s with fetches := s.fetches.delete id, interval := s.online }

def step (s : Engine) : Event → Engine
  | .connected => { s with online := true, completed := false }.refresh
  | .disconnected =>
    { s with interval := false, online := false,
             values := if s.online then Store.clear s.values else s.values }
  | .updated => s.refresh
  | .interval => if s.interval then s.refresh else s
  | .message id msg => s.receive id msg
  | .complete id =>
    match s.fetches.get id with
    | none => s
    | some fetch => { s with
      values := BatchUpdates.publish fetch.updates s.values, completed := true }.finish id
  | .fail id =>
    match s.fetches.get id with
    | none => s
    | some _ => s.finish id

end Engine

/-! ## What the store has to show -/

def Older (u v : ZoneUpdate) : Prop := u.date < v.date ∨ u.date = v.date ∧ u.msgseq < v.msgseq

/-- An update of the zone with the greatest date and sequence. -/
def Latest (fetched : List ZoneUpdate) (zone : String) (u : ZoneUpdate) : Prop :=
  u ∈ fetched ∧ u.zone = zone ∧ ∀ v ∈ fetched, v.zone = zone → ¬ Older u v

namespace Engine

/-- The store shows the latest update of the zone, or nothing if there is none. -/
def Shows (s : Engine) (zone : String) : Prop :=
  (∃ u, Latest s.fetched zone u ∧ s.isActive zone = u.active) ∨ (∀ u ∈ s.fetched, u.zone ≠ zone) ∧
    s.isActive zone = false

def UpToDate (s : Engine) : Prop :=
  s.online = true → s.completed = true → (∀ id, s.fetches.get id = none) → ∀ zone, s.Shows zone

/-- A fetch that is not complete has an update of the zone. -/
def Awaited (s : Engine) (zone : String) : Prop := ∃ id fetch, s.fetches.get id = some fetch ∧
    ∃ u ∈ fetch.received, u.zone = zone

/-- What has to be kept from happening: the connection is lost while a zone is active, a batch is
published after a newer update came with another one, and a fetch fails with an update that the
store does not show. -/
def Steady (s : Engine) : Event → Prop
  | .disconnected => s.online = true → ∀ zone, s.isActive zone = true → s.Awaited zone
  | .complete id => ∀ fetch, s.fetches.get id = some fetch → ∀ zone u, fetch.updates.get zone =
    some u →
      ∀ v ∈ s.fetched, v ∉ fetch.received → v.zone = zone → ¬ Older u v
  | .fail id => ∀ fetch, s.fetches.get id = some fetch → ∀ u ∈ fetch.received, s.Shows u.zone ∨
      ∃ id' fetch', id' ≠ id ∧ s.fetches.get id' = some fetch' ∧
        ∃ v ∈ fetch'.received, v.zone = u.zone
  | _ => True

end Engine

/-! ## One batch -/

theorem isNewer_iff {u v : ZoneUpdate} : BatchUpdates.isNewer (some u) v = true ↔ Older u v := by
  unfold BatchUpdates.isNewer Older
  simp only
  split_ifs with h₁ h₂
  · exact iff_of_true rfl (.inl h₁)
  · refine iff_of_false (by simp) ?_
    omega
  · rw [decide_eq_true_iff]
    omega

theorem Older.trans {u v w : ZoneUpdate} (h : Older u v) (h' : Older v w) : Older u w := by
  unfold Older at *
  omega

/-- A batch has the latest update of each zone that it received one of. -/
theorem batch_latest (received : List ZoneUpdate) (zone : String) :
    match (received.foldl BatchUpdates.add ∅).get zone with
    | some u => Latest received zone u
    | none => ∀ u ∈ received, u.zone ≠ zone := by
  induction received using List.reverseRecOn with
  | nil => simp
  | append_singleton received update ih =>
    rw [List.foldl_append, List.foldl_cons, List.foldl_nil, BatchUpdates.add]
    generalize received.foldl BatchUpdates.add ∅ = updates at ih
    by_cases hzone : zone = update.zone
    · subst hzone
      cases hget : updates.get update.zone with
      | none =>
        rw [hget] at ih
        rw [if_pos (show BatchUpdates.isNewer none update = true from rfl), get_set_self]
        refine ⟨by simp, rfl, fun v hv hvzone => ?_⟩
        rcases List.mem_append.mp hv with hold | hnew
        · exact absurd hvzone (ih v hold)
        · rw [List.mem_singleton.mp hnew]
          unfold Older
          omega
      | some existing =>
        rw [hget] at ih
        obtain ⟨hmem, hexisting, hmax⟩ := ih
        by_cases hnewer : BatchUpdates.isNewer (some existing) update = true
        · rw [if_pos hnewer, get_set_self]
          refine ⟨by simp, rfl, fun v hv hvzone hold => ?_⟩
          rcases List.mem_append.mp hv with hv | hnew
          · exact hmax v hv hvzone ((isNewer_iff.mp hnewer).trans hold)
          · rw [List.mem_singleton.mp hnew] at hold
            unfold Older at hold
            omega
        · rw [if_neg hnewer, hget]
          refine ⟨List.mem_append_left _ hmem, hexisting, fun v hv hvzone => ?_⟩
          rcases List.mem_append.mp hv with hv | hnew
          · exact hmax v hv hvzone
          · rw [List.mem_singleton.mp hnew]
            exact fun hold => hnewer (isNewer_iff.mpr hold)
    · have hget : (if BatchUpdates.isNewer (updates.get update.zone) update then updates.set
        update.zone update else updates).get
          zone = updates.get zone := by
        split
        · exact get_set_ne _ _ hzone
        · rfl
      rw [hget]
      cases hold : updates.get zone with
      | none =>
        rw [hold] at ih
        intro u hu
        rcases List.mem_append.mp hu with hu | hnew
        · exact ih u hu
        · rw [List.mem_singleton.mp hnew]
          exact Ne.symm hzone
      | some existing =>
        rw [hold] at ih
        refine ⟨List.mem_append_left _ ih.1, ih.2.1, fun v hv hvzone => ?_⟩
        rcases List.mem_append.mp hv with hv | hnew
        · exact ih.2.2 v hv hvzone
        · rw [List.mem_singleton.mp hnew] at hvzone
          exact absurd hvzone.symm hzone

theorem isActive_setActive (values : OMap String Bool) (label zone : String) (active : Bool) :
    Store.isActive (Store.setActive values label active) zone = if zone = label then active
      else Store.isActive values zone := by
  unfold Store.setActive
  split
  · split
    · simp_all
    · rfl
  · rw [Store.isActive, get_set]
    split <;> rfl

theorem isActive_clear (values : OMap String Bool) (zone : String) :
    Store.isActive (Store.clear values) zone = false := by
  rw [Store.isActive, Store.clear, get_mapVal]
  cases values.get zone with
  | none => rfl
  | some value => cases value <;> rfl

/-- What the store shows after updates that say the same about the zone. -/
theorem isActive_foldl {zone : String} {active : Bool} {updates : List ZoneUpdate}
    (values : OMap String Bool) (hall : ∀ u ∈ updates, u.zone = zone → u.active = active)
    (h : Store.isActive values zone = active ∨ ∃ u ∈ updates, u.zone = zone) :
    Store.isActive (updates.foldl (fun values update =>
      Store.setActive values update.zone update.active) values) zone = active := by
  induction updates generalizing values with
  | nil => simpa using h
  | cons u updates ih =>
    refine ih _ (fun v hv => hall v (List.mem_cons_of_mem _ hv)) ?_
    rw [isActive_setActive]
    by_cases hzone : zone = u.zone
    · rw [if_pos hzone]
      exact .inl (hall u List.mem_cons_self hzone.symm)
    · rw [if_neg hzone]
      refine h.imp_right fun ⟨v, hv, hvzone⟩ => ?_
      rcases List.mem_cons.mp hv with rfl | hv
      · exact absurd hvzone.symm hzone
      · exact ⟨v, hv, hvzone⟩

/-! ## One event -/

namespace Engine

/-- Each zone is shown, or a fetch that is not complete has an update of it. -/
structure Tracked (s : Engine) : Prop where
  fresh : ∀ id fetch, s.fetches.get id = some fetch → id < s.nextFetch
  batch : ∀ id fetch, s.fetches.get id = some fetch →
    fetch.updates = fetch.received.foldl BatchUpdates.add ∅ ∧ ∀ u ∈ fetch.received, u ∈ s.fetched
  zones : ∀ zone, s.Shows zone ∨ s.Awaited zone

variable {s : Engine}

theorem Tracked.refresh (h : Tracked s) : Tracked s.refresh := by
  have hnew : ∀ id fetch, s.refresh.fetches.get id = some fetch →
      id = s.nextFetch ∧ fetch = { pattern := s.pattern } ∨ s.fetches.get id = some fetch := by
    intro id fetch hget
    obtain ⟨rfl, rfl⟩ | ⟨-, hold⟩ := get_set_eq_some.mp hget
    · exact .inl ⟨rfl, rfl⟩
    · exact .inr hold
  refine ⟨fun id fetch hget => ?_, fun id fetch hget => ?_, fun zone => (h.zones zone).imp_right ?_⟩
  · obtain ⟨rfl, -⟩ | hold := hnew id fetch hget
    · exact Nat.lt_succ_self _
    · exact Nat.lt_succ_of_lt (h.fresh id fetch hold)
  · obtain ⟨-, rfl⟩ | hold := hnew id fetch hget
    · exact ⟨rfl, by simp⟩
    · exact h.batch id fetch hold
  · rintro ⟨id, fetch, hget, hu⟩
    have hne : id ≠ s.nextFetch := Nat.ne_of_lt (h.fresh id fetch hget)
    exact ⟨id, fetch, (get_set_ne _ _ hne).trans hget, hu⟩

/-- Updates of other zones do not matter. -/
theorem shows_of_append {s' : Engine} {zone : String} {updates : List ZoneUpdate} (h : s.Shows zone)
    (hfetched : s'.fetched = s.fetched ++ updates) (hvalues : s'.values = s.values) (hother : ∀ u ∈
      updates, u.zone ≠ zone) :
    s'.Shows zone := by
  have hactive : s'.isActive zone = s.isActive zone := by rw [isActive, isActive, hvalues]
  rw [Shows, hfetched, hactive]
  refine h.imp ?_ ?_
  · rintro ⟨u, ⟨hu, hzone, hmax⟩, hshown⟩
    refine ⟨u, ⟨List.mem_append_left _ hu, hzone, fun v hv hvzone => ?_⟩, hshown⟩
    rcases List.mem_append.mp hv with hv | hnew
    · exact hmax v hv hvzone
    · exact absurd hvzone (hother v hnew)
  · rintro ⟨hnone, hshown⟩
    refine ⟨fun u hu => ?_, hshown⟩
    rcases List.mem_append.mp hu with hu | hnew
    · exact hnone u hu
    · exact hother u hnew

theorem Tracked.receive (h : Tracked s) (id : Nat) (msg : Message) :
    Tracked (s.receive id msg) := by
  unfold Engine.receive
  cases hget : s.fetches.get id with
  | none => exact h
  | some fetch =>
    obtain ⟨hbatch, hreceived⟩ := h.batch id fetch hget
    refine ⟨fun id' fetch' hget' => ?_, fun id' fetch' hget' => ?_, fun zone => ?_⟩
    · obtain ⟨rfl, -⟩ | ⟨-, hold⟩ := get_set_eq_some.mp hget'
      · exact h.fresh id' fetch hget
      · exact h.fresh id' fetch' hold
    · obtain ⟨rfl, rfl⟩ | ⟨-, hold⟩ := get_set_eq_some.mp hget'
      · refine ⟨by rw [List.foldl_append, ← hbatch], fun u hu => ?_⟩
        rcases List.mem_append.mp hu with hu | hnew
        · exact List.mem_append_left _ (hreceived u hu)
        · exact List.mem_append_right _ hnew
      · exact ⟨(h.batch id' fetch' hold).1,
          fun u hu => List.mem_append_left _ ((h.batch id' fetch' hold).2 u hu)⟩
    · by_cases hzone : ∃ u ∈ msg.updates, u.zone = zone
      · obtain ⟨u, hu, huzone⟩ := hzone
        exact .inr ⟨id, _, get_set_self _ _ _, u, List.mem_append_right _ hu, huzone⟩
      · simp only [not_exists, not_and] at hzone
        obtain hshows | ⟨id', fetch', hget', u, hu, huzone⟩ := h.zones zone
        · exact .inl (shows_of_append hshows rfl rfl hzone)
        · right
          by_cases hid : id' = id
          · subst hid
            obtain rfl : fetch = fetch' := Option.some.inj (hget.symm.trans hget')
            exact ⟨id', _, get_set_self _ _ _, u, List.mem_append_left _ hu, huzone⟩
          · exact ⟨id', fetch', (get_set_ne _ _ hid).trans hget', u, hu, huzone⟩

/-- A fetch ends; the zones of its updates have to be shown or awaited. -/
theorem Tracked.finish (h : Tracked s) {s' : Engine} {id : Nat} {fetch : Fetch}
    (hget : s.fetches.get id = some fetch) (hfetches : s'.fetches = s.fetches.delete id)
    (hnext : s'.nextFetch = s.nextFetch) (hfetched : s'.fetched = s.fetched)
    (hother : ∀ zone, (∀ u ∈ fetch.received, u.zone ≠ zone) → s'.isActive zone = s.isActive zone)
    (hown : ∀ u ∈ fetch.received, s'.Shows u.zone ∨ s'.Awaited u.zone) : Tracked s' := by
  have hold : ∀ id' fetch', s'.fetches.get id' = some fetch' → s.fetches.get id' = some fetch' := by
    intro id' fetch' hget'
    rw [hfetches] at hget'
    exact (get_delete_eq_some.mp hget').2
  refine ⟨fun id' fetch' hget' => ?_, fun id' fetch' hget' => ?_, fun zone => ?_⟩
  · rw [hnext]
    exact h.fresh id' fetch' (hold id' fetch' hget')
  · rw [hfetched]
    exact h.batch id' fetch' (hold id' fetch' hget')
  · by_cases hzone : ∃ u ∈ fetch.received, u.zone = zone
    · obtain ⟨u, hu, rfl⟩ := hzone
      exact hown u hu
    · simp only [not_exists, not_and] at hzone
      obtain hshows | ⟨id', fetch', hget', u, hu, huzone⟩ := h.zones zone
      · left
        rw [Shows, hfetched, hother zone hzone]
        exact hshows
      · right
        have hid : id' ≠ id := by
          rintro rfl
          obtain rfl : fetch = fetch' := Option.some.inj (hget.symm.trans hget')
          exact hzone u hu huzone
        exact ⟨id', fetch', by rw [hfetches, get_delete_ne _ hid, hget'], u, hu, huzone⟩

/-- A batch without a newer update elsewhere is published. -/
theorem Tracked.publish (h : Tracked s) {id : Nat} {fetch : Fetch}
    (hget : s.fetches.get id = some fetch)
    (hsteady : s.Steady (.complete id)) : Tracked (s.step (.complete id)) := by
  obtain ⟨hbatch, hreceived⟩ := h.batch id fetch hget
  have hlatest := batch_latest fetch.received
  rw [← hbatch] at hlatest
  have hkey : ∀ zone u, fetch.updates.get zone = some u → u.zone = zone := by
    intro zone u hu
    have hzone := hlatest zone
    rw [hu] at hzone
    exact hzone.2.1
  simp only [Engine.step, hget]
  refine h.finish hget rfl rfl rfl (fun zone hzone => ?_) fun u hu => .inl ?_
  · refine isActive_foldl _ (fun v hv hvzone => ?_) (.inl rfl)
    obtain ⟨zone', hv⟩ := mem_values.mp hv
    have hown := hlatest zone'
    rw [hv] at hown
    exact absurd hvzone (hzone v hown.1)
  · cases hown : fetch.updates.get u.zone with
    | none =>
      have hzone := hlatest u.zone
      rw [hown] at hzone
      exact absurd rfl (hzone u hu)
    | some v =>
      have hv := hlatest u.zone
      rw [hown] at hv
      obtain ⟨hmem, hvzone, hmax⟩ := hv
      refine .inl ⟨v, ⟨hreceived v hmem, hvzone, fun w hw hwzone => ?_⟩, ?_⟩
      · by_cases hwmem : w ∈ fetch.received
        · exact hmax w hwmem hwzone
        · exact hsteady fetch hget u.zone v hown w hw hwmem hwzone
      · refine isActive_foldl _ (fun w hw hwzone => ?_)
          (.inr ⟨v, mem_values.mpr ⟨u.zone, hown⟩, hvzone⟩)
        obtain ⟨zone', hw⟩ := mem_values.mp hw
        obtain rfl : zone' = u.zone := (hkey zone' w hw).symm.trans hwzone
        rw [Option.some.inj (hw.symm.trans hown)]

theorem Tracked.step (h : Tracked s) (e : Event) (hsteady : s.Steady e) : Tracked (s.step e) := by
  cases e with
  | connected =>
    have hconnected : Tracked { s with online := true, completed := false } := { h with }
    exact hconnected.refresh
  | disconnected =>
    refine ⟨h.fresh, h.batch, fun zone => ?_⟩
    by_cases hlost : s.online = true ∧ s.isActive zone = true
    · exact .inr (hsteady hlost.1 zone hlost.2)
    · have hactive : (s.step .disconnected).isActive zone = s.isActive zone := by
        simp only [Engine.step, isActive] at hlost ⊢
        split
        · rename_i honline
          rw [isActive_clear, eq_comm, ← Bool.not_eq_true]
          exact fun htrue => hlost ⟨honline, htrue⟩
        · rfl
      refine (h.zones zone).imp_left fun hshows => ?_
      rw [Shows, hactive]
      exact hshows
  | updated => exact h.refresh
  | interval =>
    simp only [Engine.step]
    split
    · exact h.refresh
    · exact h
  | message id msg => exact h.receive id msg
  | complete id =>
    cases hget : s.fetches.get id with
    | none =>
      simp only [Engine.step, hget]
      exact h
    | some fetch => exact h.publish hget hsteady
  | fail id =>
    cases hget : s.fetches.get id with
    | none =>
      simp only [Engine.step, hget]
      exact h
    | some fetch =>
      simp only [Engine.step, hget]
      refine h.finish hget rfl rfl rfl (fun _ _ => rfl) fun u hu =>
        (hsteady fetch hget u hu).imp_right ?_
      rintro ⟨id', fetch', hid, hget', v, hv, hvzone⟩
      exact ⟨id', fetch', (get_delete_ne _ hid).trans hget', v, hv, hvzone⟩

end Engine

/-! ## Every run -/

/-- In every run whose steps are all steady, the store is up to date in every state. -/
theorem zones_up_to_date (events : List Event) (h : Along Engine.step Engine.Steady {} events) :
    (events.foldl Engine.step {}).UpToDate := by
  have hstart : Engine.Tracked {} := by
    refine ⟨?_, ?_, fun zone => .inl (.inr ⟨by simp, rfl⟩)⟩
    · intro id fetch hget
      cases hget
    · intro id fetch hget
      cases hget
  have htracked := h.invariant hstart fun s e hs hsteady => hs.step e hsteady
  intro _ _ hnone zone
  obtain hshows | ⟨id, fetch, hget, -⟩ := htracked.zones zone
  · exact hshows
  · rw [hnone id] at hget
    cases hget

theorem steady_complete {s : Engine} {id : Nat}
    (h : ∀ fetch ∈ s.fetches.get id, ∀ e ∈ fetch.updates.entries,
    ∀ v ∈ s.fetched, v ∉ fetch.received → v.zone = e.1 →
      ¬ (e.2.date < v.date ∨ e.2.date = v.date ∧ e.2.msgseq < v.msgseq)) :
    s.Steady (.complete id) :=
  fun fetch hfetch zone u hu => h fetch hfetch (zone, u) (mem_entries.mpr hu)

theorem steady_disconnected {s : Engine} (h : ∀ value ∈ s.values.values, value = false) :
    s.Steady .disconnected := by
  intro _ zone hactive
  rw [Engine.isActive, Store.isActive] at hactive
  cases hget : s.values.get zone with
  | none => rw [hget] at hactive; cases hactive
  | some value =>
    rw [hget, h value (mem_values.mpr ⟨zone, hget⟩)] at hactive
    cases hactive

/-- Two fetches overlap, both zones are inactive when the connection is lost, and the next fetch
finds one active. -/
def steadyRun : List Event :=
  [.connected, .message 0 ⟨1, [⟨"Salon", true, 10⟩]⟩, .updated,
    .message 1 ⟨2, [⟨"Cuisine", true, 15⟩]⟩, .complete 0,
    .message 1 ⟨3, [⟨"Salon", false, 20⟩, ⟨"Cuisine", false, 25⟩]⟩, .complete 1, .disconnected,
      .connected,
    .message 2 ⟨4, [⟨"Salon", true, 30⟩]⟩, .complete 2]

theorem zones_up_to_date_closed :
    (steadyRun.foldl Engine.step {}).UpToDate ∧
      (steadyRun.foldl Engine.step {}).isActive "Salon" = true ∧
      (steadyRun.foldl Engine.step {}).isActive "Cuisine" = false := by
  refine ⟨zones_up_to_date _ ⟨trivial, trivial, trivial, trivial, steady_complete ?_, trivial,
    steady_complete ?_,
    steady_disconnected ?_, trivial, trivial, steady_complete ?_, trivial⟩, ?_, ?_⟩ <;>
      decide +kernel

/-- Two zones are active when the connection is lost and opened again. The next fetch asks for the
messages from the third one on and gets the last one, which tells about the second zone only: the
first one stays inactive. -/
theorem zone_lost_on_reconnect :
    let events : List Event :=
      [.connected, .message 0 ⟨1, [⟨"Salon", true, 10⟩]⟩, .message 0 ⟨2, [⟨"Cuisine", true, 20⟩]⟩,
      .complete 0, .disconnected, .connected, .message 1 ⟨2, [⟨"Cuisine", true, 20⟩]⟩, .complete 1]
    let s := events.foldl Engine.step {}
    (((events.take 6).foldl Engine.step {}).fetches.get 1).map Fetch.pattern = some (.range 3) ∧
      s.online = true ∧ s.completed = true ∧ s.fetches.size =
        0 ∧ s.isActive "Cuisine" = true ∧ s.isActive "Salon" = false ∧
      s.fetched.filter (·.zone = "Salon") = [⟨"Salon", true, 10, 1⟩] := by
  decide +kernel

end MylifeHome.Plugins.Absoluta
