import MylifeHome.Lib.Mqtt
import MylifeHome.Lib.Run

/-!
# The log stream of the bus

`PublishStream` of `bus/logger.ts`: a writable stream that publishes its chunks when the
client is online and keeps them in a queue when it is not. Each time the client gets
online a loop starts that empties the queue, one acknowledged publication after another.
The client logs the change, which writes to this very stream, before it tells its
listeners. The base class gives the next chunk to `_write` when the callback of the one
before was called.
-/
namespace MylifeHome.Bus.Logger

open MylifeHome.Lib MylifeHome.Lib.Mqtt

structure PublishStream where
  /-- `Client.online`. -/
  online : Bool
  offlineRetention : Nat
  offlineQueue : List Payload := []
  /-- The chunks that the base class keeps while one is being sent. -/
  buffered : List Payload := []
  /-- The direct publication of a chunk waits for its acknowledgement. -/
  sending : Bool := false
  /-- The loops of `onOnlineChange` that wait for the acknowledgement of a publication. -/
  loops : Nat := 0
  /-- The payloads given to `Client.publish`, in the order of the calls. -/
  published : List Payload := []
  /-- The chunks that were written so far. -/
  written : List Payload := []
  deriving DecidableEq

inductive Event where
  | write (chunk : Payload)
  /-- The publication of the chunk that is being sent is acknowledged. -/
  | sent
  /-- The publication of one of the loops is acknowledged. -/
  | drained
  /-- `Client.onlineChange`, with what is logged to this stream before its listener is called. -/
  | onlineChange (value : Bool) (lines : List Payload)
  deriving DecidableEq

namespace PublishStream

variable (s : PublishStream)

def size (queue : List Payload) : Nat := queue.foldl (fun prev current => prev + current.length) 0

def publish (chunk : Payload) : PublishStream := { s with published := s.published ++ [chunk] }

def enqueue (chunk : Payload) : PublishStream :=
  if size s.offlineQueue > s.offlineRetention then s
  else { s with offlineQueue := s.offlineQueue ++ [chunk] }

/-- `send` of the chunks that wait, each when the callback of the one before is called: at
once for a chunk that is queued. -/
def send : List Payload → PublishStream → PublishStream
  | [], s => { s with buffered := [], sending := false }
  | chunk :: rest, s =>
    if s.online then { s.publish chunk with buffered := rest, sending := true }
    else send rest (s.enqueue chunk)

/-- A turn of the loop of `onOnlineChange`, up to its await. -/
def drain : PublishStream :=
  match s.online, s.offlineQueue with
  | true, chunk :: rest => { s.publish chunk with offlineQueue := rest, loops := s.loops + 1 }
  | _, _ => s

/-- A chunk is written to the stream. -/
def write (chunk : Payload) : PublishStream :=
  let s := { s with written := s.written ++ [chunk] }
  if s.sending then { s with buffered := s.buffered ++ [chunk] } else send [chunk] s

/-- `Client.onlineChange`: the flag, what is logged, and then the listener of the stream. -/
def onlineChange (value : Bool) (lines : List Payload) : PublishStream :=
  if value = s.online then s
  else
    let s := { s with online := value }
    let s := lines.foldl write s
    if value then s.drain else s

def step : Event → PublishStream
  | .write chunk => s.write chunk
  | .sent => if s.sending then send s.buffered s else s
  | .drained => if s.loops = 0 then s else { s with loops := s.loops - 1 }.drain
  | .onlineChange value lines => s.onlineChange value lines

/-- The queue is not above the retention after the event. -/
def Fits (e : Event) : Prop := size (s.step e).offlineQueue ≤ s.offlineRetention

/-- A chunk that would be published directly finds the queue empty. -/
def Calm : Event → Prop
  | .write _ => s.online = true → s.sending = false → s.offlineQueue = []
  | .sent => s.online = true → s.sending = true → s.buffered ≠ [] → s.offlineQueue = []
  | .drained => True
  | .onlineChange value lines =>
    value = true → s.online = false → lines ≠ [] → s.sending = false → s.offlineQueue = []

instance : DecidablePred s.Fits := fun _ => inferInstanceAs (Decidable (_ ≤ _))

instance : DecidablePred s.Calm
  | .write _ => inferInstanceAs (Decidable (_ → _ → _))
  | .sent => inferInstanceAs (Decidable (_ → _ → _ → _))
  | .drained => isTrue trivial
  | .onlineChange _ _ => inferInstanceAs (Decidable (_ → _ → _ → _ → _))

end PublishStream

open PublishStream

/-- What was published is the beginning of what was written, and all of it once the client
is online and no acknowledgement is awaited. -/
structure InOrder (s : PublishStream) : Prop where
  begins : s.published <+: s.written
  complete : s.online = true → s.sending = false → s.loops = 0 → s.published = s.written

/-- Every chunk written so far is published, queued or buffered, in this order, and a
buffered one waits for the one that is being sent. -/
structure Kept (s : PublishStream) : Prop where
  order : s.published ++ s.offlineQueue ++ s.buffered = s.written
  served : s.buffered ≠ [] → s.sending = true

/-- While the client is online, a loop takes the chunks from the queue. -/
def Drains (s : PublishStream) : Prop := s.online = true → s.offlineQueue ≠ [] → 0 < s.loops

section Steps

variable {s : PublishStream}

theorem Kept.buffered_eq_nil (h : Kept s) (hsending : s.sending = false) : s.buffered = [] := by
  by_contra hb
  rw [h.served hb] at hsending
  cases hsending

theorem Kept.inOrder (h : Kept s) (hd : Drains s) : InOrder s where
  begins := ⟨s.offlineQueue ++ s.buffered, by rw [← List.append_assoc, h.order]⟩
  complete hon hs hl := by
    have hqueue : s.offlineQueue = [] := by
      by_contra hq
      have hloops := hd hon hq
      omega
    have horder := h.order
    rw [hqueue, h.buffered_eq_nil hs, List.append_nil, List.append_nil] at horder
    exact horder

theorem size_append (queue : List Payload) (chunk : Payload) :
    size (queue ++ [chunk]) = size queue + chunk.length := by
  rw [size, List.foldl_append]
  rfl

/-- The queue does not shrink while chunks are sent. -/
theorem size_le_send (rest : List Payload) (s : PublishStream) :
    size s.offlineQueue ≤ size (send rest s).offlineQueue := by
  induction rest generalizing s with
  | nil => exact Nat.le_refl _
  | cons chunk rest ih =>
    rw [send]
    split
    · exact Nat.le_refl _
    · refine Nat.le_trans ?_ (ih (s.enqueue chunk))
      unfold enqueue
      split
      · exact Nat.le_refl _
      · simp only [size_append]
        omega

theorem frame_enqueue (s : PublishStream) (chunk : Payload) :
    (s.enqueue chunk).online = s.online ∧ (s.enqueue chunk).offlineRetention = s.offlineRetention ∧
      (s.enqueue chunk).written = s.written ∧ (s.enqueue chunk).published = s.published := by
  unfold enqueue
  split <;> exact ⟨rfl, rfl, rfl, rfl⟩

theorem frame_send (rest : List Payload) (s : PublishStream) :
    (send rest s).online = s.online ∧ (send rest s).offlineRetention = s.offlineRetention ∧
      (send rest s).written = s.written ∧ s.published <+: (send rest s).published := by
  induction rest generalizing s with
  | nil => exact ⟨rfl, rfl, rfl, List.prefix_refl _⟩
  | cons chunk rest ih =>
    rw [send]
    split
    · exact ⟨rfl, rfl, rfl, List.prefix_append _ _⟩
    · obtain ⟨hon, hretention, hwritten, hpublished⟩ := frame_enqueue s chunk
      have hrest := ih (s.enqueue chunk)
      rwa [hon, hretention, hwritten, hpublished] at hrest

theorem frame_write (s : PublishStream) (chunk : Payload) :
    (s.write chunk).online = s.online ∧ (s.write chunk).offlineRetention = s.offlineRetention ∧
      (s.write chunk).written = s.written ++ [chunk] ∧
        s.published <+: (s.write chunk).published := by
  simp only [write]
  split
  · exact ⟨rfl, rfl, rfl, List.prefix_refl _⟩
  · exact frame_send [chunk] { s with written := s.written ++ [chunk] }

theorem frame_lines (lines : List Payload) (s : PublishStream) :
    (lines.foldl write s).written = s.written ++ lines ∧
      s.published <+: (lines.foldl write s).published := by
  induction lines generalizing s with
  | nil => exact ⟨(List.append_nil _).symm, List.prefix_refl _⟩
  | cons chunk lines ih =>
    obtain ⟨-, -, hwritten, hpublished⟩ := frame_write s chunk
    obtain ⟨ihwritten, ihpublished⟩ := ih (s.write chunk)
    refine ⟨?_, hpublished.trans ihpublished⟩
    rw [List.foldl_cons, ihwritten, hwritten, List.append_assoc]
    rfl

theorem size_le_lines (lines : List Payload) (s : PublishStream) :
    size s.offlineQueue ≤ size (lines.foldl write s).offlineQueue := by
  induction lines generalizing s with
  | nil => exact Nat.le_refl _
  | cons chunk lines ih =>
    refine Nat.le_trans ?_ (ih (s.write chunk))
    simp only [write]
    split
    · exact Nat.le_refl _
    · exact size_le_send [chunk] { s with written := s.written ++ [chunk] }

/-- After a chunk is written online, one is being sent. -/
theorem sending_write (hon : s.online = true) (chunk : Payload) :
    (s.write chunk).sending = true := by
  simp only [write]
  split
  · next hsending => exact hsending
  · simp [send, hon]

theorem kept_send {rest : List Payload} (horder : s.published ++ s.offlineQueue ++ rest = s.written)
    (hfits : s.online = false → size (send rest s).offlineQueue ≤ s.offlineRetention)
    (hcalm : s.online = true → rest ≠ [] → s.offlineQueue = []) : Kept (send rest s) := by
  induction rest generalizing s with
  | nil => exact ⟨horder, fun h => absurd rfl h⟩
  | cons chunk rest ih =>
    rw [send] at hfits ⊢
    split
    · next hon =>
      have hqueue := hcalm hon (List.cons_ne_nil _ _)
      refine ⟨?_, fun _ => rfl⟩
      show s.published ++ [chunk] ++ s.offlineQueue ++ rest = s.written
      rw [← horder]
      simp [hqueue]
    · next hon =>
      have hfits := hfits (Bool.eq_false_iff.mpr hon)
      rw [if_neg hon] at hfits
      have hsize : size s.offlineQueue ≤ s.offlineRetention := by
        by_contra hover
        have hdropped : s.enqueue chunk = s := if_pos (Nat.lt_of_not_le hover)
        rw [hdropped] at hfits
        exact hover (Nat.le_trans (size_le_send rest s) hfits)
      have hqueued : s.enqueue chunk = { s with offlineQueue := s.offlineQueue ++ [chunk] } :=
        if_neg (Nat.not_lt.mpr hsize)
      rw [hqueued] at hfits ⊢
      refine ih ?_ (fun _ => hfits) (fun h => absurd h hon)
      show s.published ++ (s.offlineQueue ++ [chunk]) ++ rest = s.written
      rw [← horder]
      simp

theorem kept_write (h : Kept s) {chunk : Payload}
    (hfits : s.online = false → size (s.write chunk).offlineQueue ≤ s.offlineRetention)
    (hcalm : s.online = true → s.sending = false → s.offlineQueue = []) : Kept (s.write chunk) := by
  unfold write at hfits ⊢
  dsimp only at hfits ⊢
  split
  · next hsending =>
    refine ⟨?_, fun _ => hsending⟩
    show s.published ++ s.offlineQueue ++ (s.buffered ++ [chunk]) = s.written ++ [chunk]
    rw [← h.order, List.append_assoc _ s.buffered]
  · next hsending =>
    have hidle : s.sending = false := Bool.eq_false_iff.mpr hsending
    rw [if_neg hsending] at hfits
    refine kept_send ?_ hfits fun hon _ => hcalm hon hidle
    show s.published ++ s.offlineQueue ++ [chunk] = s.written ++ [chunk]
    rw [← h.order, h.buffered_eq_nil hidle, List.append_nil]

theorem kept_lines {lines : List Payload} (h : Kept s)
    (hfits : s.online = false → size (lines.foldl write s).offlineQueue ≤ s.offlineRetention)
    (hcalm : s.online = true → lines ≠ [] → s.sending = false → s.offlineQueue = []) :
    Kept (lines.foldl write s) := by
  induction lines generalizing s with
  | nil => exact h
  | cons chunk lines ih =>
    obtain ⟨hon, hretention, -, -⟩ := frame_write s chunk
    have hwrite : Kept (s.write chunk) :=
      kept_write h (fun hoff => Nat.le_trans (size_le_lines lines _) (hfits hoff))
        fun hon => hcalm hon (List.cons_ne_nil _ _)
    refine ih hwrite (fun hoff => ?_) fun hon' _ hidle => ?_
    · rw [hretention]
      exact hfits (hon ▸ hoff)
    · -- A chunk is on its way after the first of the lines.
      rw [sending_write (hon ▸ hon')] at hidle
      cases hidle

theorem kept_drain (h : Kept s) : Kept s.drain := by
  unfold drain
  split
  · next chunk rest hon hq =>
    refine ⟨?_, h.served⟩
    show s.published ++ [chunk] ++ rest ++ s.buffered = s.written
    rw [← h.order, hq]
    simp
  · exact h

theorem drains_send (rest : List Payload) (h : Drains s) : Drains (send rest s) := by
  induction rest generalizing s with
  | nil => exact h
  | cons chunk rest ih =>
    rw [send]
    split
    · exact h
    · next hoff =>
      refine ih fun hon => absurd ?_ hoff
      rwa [(frame_enqueue s chunk).1] at hon

theorem drains_write (h : Drains s) (chunk : Payload) : Drains (s.write chunk) := by
  unfold write
  dsimp only
  split
  · exact h
  · exact drains_send _ h

theorem drains_lines (lines : List Payload) (h : Drains s) : Drains (lines.foldl write s) := by
  induction lines generalizing s with
  | nil => exact h
  | cons chunk lines ih => exact ih (drains_write h chunk)

theorem drains_drain (s : PublishStream) : Drains s.drain := by
  unfold drain
  split
  · exact fun _ _ => Nat.succ_pos _
  · next hne =>
    intro hon hq
    obtain ⟨chunk, rest, hqueue⟩ := List.exists_cons_of_ne_nil hq
    exact (hne chunk rest hon hqueue).elim

theorem drains_step (h : Drains s) (e : Event) : Drains (s.step e) := by
  cases e with
  | write chunk => exact drains_write h chunk
  | sent =>
    rw [step]
    split
    · exact drains_send _ h
    · exact h
  | drained =>
    rw [step]
    split
    · exact h
    · exact drains_drain _
  | onlineChange value lines =>
    simp only [step, onlineChange]
    split
    · exact h
    · split
      · exact drains_drain _
      · next hvalue => exact drains_lines lines fun hon _ => absurd hon hvalue

theorem kept_step (h : Kept s) {e : Event} (hfits : s.Fits e) (hcalm : s.Calm e) :
    Kept (s.step e) := by
  cases e with
  | write chunk => exact kept_write h (fun _ => hfits) hcalm
  | sent =>
    simp only [Fits, step] at hfits ⊢
    split
    · next hsending =>
      rw [if_pos hsending] at hfits
      exact kept_send h.order (fun _ => hfits) (fun hon => hcalm hon hsending)
    · exact h
  | drained =>
    rw [step]
    split
    · exact h
    · refine kept_drain ?_
      exact ⟨h.order, h.served⟩
  | onlineChange value lines =>
    simp only [Fits, step, onlineChange] at hfits ⊢
    split
    · exact h
    · next hchange =>
      rw [if_neg hchange] at hfits
      have hlines : Kept (lines.foldl write { s with online := value }) := by
        refine kept_lines ⟨h.order, h.served⟩ (fun hoff => ?_) fun hon => ?_
        · rw [if_neg (by simpa using hoff)] at hfits
          exact hfits
        · refine hcalm hon ?_
          rw [show value = true from hon] at hchange
          simpa using hchange
      split
      · exact kept_drain hlines
      · exact hlines

/-- A chunk that is published next is the one that was written next. -/
theorem head_of_begins {queue written : List Payload} {q chunk : Payload}
    (hbegins : s.published ++ [chunk] <+: written)
    (horder : s.published ++ q :: queue <+: written) : chunk = q := by
  obtain ⟨l, hl⟩ := hbegins
  obtain ⟨l', hl'⟩ := horder
  have heq : s.published ++ (chunk :: l) = s.published ++ (q :: (queue ++ l')) := by
    simpa using hl.trans hl'.symm
  exact (List.cons.inj (List.append_cancel_left heq)).1

/-- A chunk that is published directly over a queue is seen out of its order. -/
theorem overtakes (h : Kept s) (hsending : s.sending = false) {chunk : Payload}
    {rest : List Payload} (hdistinct : (s.written ++ chunk :: rest).Nodup)
    (hbegins : s.published ++ [chunk] <+: s.written ++ chunk :: rest) : s.offlineQueue = [] := by
  by_contra hqueue
  obtain ⟨q, queue, hqueue⟩ := List.exists_cons_of_ne_nil hqueue
  have horder : s.published ++ q :: queue = s.written := by
    rw [← h.order, h.buffered_eq_nil hsending, hqueue, List.append_nil]
  have hchunk := head_of_begins hbegins ⟨chunk :: rest, by rw [horder]⟩
  rw [← horder, hchunk] at hdistinct
  simp [List.nodup_append] at hdistinct

theorem published_write (hon : s.online = true) (hsending : s.sending = false) (chunk : Payload) :
    (s.write chunk).published = s.published ++ [chunk] := by
  simp [write, send, hon, hsending, publish]

theorem drain_published (s : PublishStream) : s.published <+: s.drain.published ∧
    s.drain.written = s.written := by
  unfold drain
  split
  · exact ⟨List.prefix_append _ _, rfl⟩
  · exact ⟨List.prefix_refl _, rfl⟩

theorem calm_of_begins {e : Event} (h : Kept s) (hdistinct : (s.step e).written.Nodup)
    (hbegins : (s.step e).published <+: (s.step e).written) : s.Calm e := by
  cases e with
  | write chunk =>
    intro hon hsending
    rw [step, (frame_write s chunk).2.2.1] at hdistinct hbegins
    rw [published_write hon hsending] at hbegins
    exact overtakes h hsending hdistinct hbegins
  | sent =>
    intro hon hsending hbuffered
    by_contra hqueue
    obtain ⟨q, queue, hqueue⟩ := List.exists_cons_of_ne_nil hqueue
    obtain ⟨chunk, rest, hbuffered⟩ := List.exists_cons_of_ne_nil hbuffered
    have horder : s.published ++ q :: queue ++ chunk :: rest = s.written := by
      rw [← h.order, hqueue, hbuffered]
    have hpublished : (s.step .sent).published = s.published ++ [chunk] ∧
        (s.step .sent).written = s.written := by
      simp [step, send, hsending, hon, publish, hbuffered]
    rw [hpublished.1, hpublished.2] at hbegins
    have hchunk := head_of_begins hbegins ⟨chunk :: rest, horder⟩
    rw [hpublished.2, ← horder, hchunk] at hdistinct
    simp [List.nodup_append] at hdistinct
  | drained => trivial
  | onlineChange value lines =>
    rintro rfl hoff hlines hsending
    obtain ⟨chunk, rest, rfl⟩ := List.exists_cons_of_ne_nil hlines
    have hstep : s.step (.onlineChange true (chunk :: rest)) =
        (rest.foldl write ({ s with online := true }.write chunk)).drain := by
      simp [step, onlineChange, hoff]
    obtain ⟨hfirst, hsame⟩ :=
      drain_published (rest.foldl write ({ s with online := true }.write chunk))
    obtain ⟨hwritten, hpublished⟩ := frame_lines rest ({ s with online := true }.write chunk)
    rw [published_write (s := { s with online := true }) rfl hsending] at hpublished
    rw [hstep, hsame, hwritten, (frame_write _ chunk).2.2.1, List.append_assoc] at hdistinct hbegins
    exact overtakes h hsending hdistinct ((hpublished.trans hfirst).trans hbegins)

end Steps

section Runs

variable {s : PublishStream} {es : List Event}

theorem kept_of_calm (h : Kept s ∧ Drains s) (hfits : Along step Fits s es)
    (hcalm : Along step Calm s es) :
    Kept (es.foldl step s) ∧ Drains (es.foldl step s) := by
  induction es generalizing s with
  | nil => exact h
  | cons e es ih => exact ih ⟨kept_step h.1 hfits.1 hcalm.1, drains_step h.2 e⟩ hfits.2 hcalm.2

/-- What was written stays written. -/
theorem written_step (s : PublishStream) (e : Event) : s.written <+: (s.step e).written := by
  cases e with
  | write chunk => exact ⟨[chunk], (frame_write s chunk).2.2.1.symm⟩
  | sent =>
    rw [step]
    split
    · exact (frame_send s.buffered s).2.2.1 ▸ List.prefix_refl _
    · exact List.prefix_refl _
  | drained =>
    rw [step]
    split
    · exact List.prefix_refl _
    · have hkept := (drain_published { s with loops := s.loops - 1 }).2
      exact ⟨[], (List.append_nil _).trans hkept.symm⟩
  | onlineChange value lines =>
    simp only [step, onlineChange]
    split
    · exact List.prefix_refl _
    · have hlines : s.written <+: (lines.foldl write { s with online := value }).written :=
        ⟨lines, (frame_lines lines { s with online := value }).1.symm⟩
      split
      · rwa [(drain_published _).2]
      · exact hlines

theorem written_run (es : List Event) (s : PublishStream) :
    s.written <+: (es.foldl step s).written := by
  induction es generalizing s with
  | nil => exact List.prefix_refl _
  | cons e es ih => exact (written_step s e).trans (ih (s.step e))

theorem calm_of_inOrder (h : Kept s) (hfits : Along step Fits s es)
    (hdistinct : (es.foldl step s).written.Nodup)
    (horder : ∀ es', es' <+: es → InOrder (es'.foldl step s)) : Along step Calm s es := by
  induction es generalizing s with
  | nil => trivial
  | cons e es ih =>
    have hstep : (s.step e).written.Nodup := hdistinct.sublist (written_run es (s.step e)).sublist
    have hcalm : s.Calm e := calm_of_begins h hstep (horder [e] ⟨es, rfl⟩).begins
    refine ⟨hcalm, ih (kept_step h hfits.1 hcalm) hfits.2 hdistinct fun es' hes' => ?_⟩
    exact horder (e :: es') (List.cons_prefix_cons.mpr ⟨rfl, hes'⟩)

end Runs

/-- Chunks leave in the order in which they were written when no chunk is published directly
over a queue, and for distinct chunks only then. -/
theorem chunks_leave_in_order (online : Bool) (offlineRetention : Nat) (es : List Event)
    (hfits : Along step Fits { online, offlineRetention } es) :
    (Along step Calm { online, offlineRetention } es → ∀ es', es' <+: es →
      InOrder (es'.foldl step { online, offlineRetention })) ∧
    ((es.foldl step { online, offlineRetention }).written.Nodup →
      (∀ es', es' <+: es → InOrder (es'.foldl step { online, offlineRetention })) →
      Along step Calm { online, offlineRetention } es) := by
  have hstart : Kept { online, offlineRetention } := ⟨rfl, fun h => absurd rfl h⟩
  refine ⟨fun hcalm es' hes' => ?_,
    fun hdistinct horder => calm_of_inOrder hstart hfits hdistinct horder⟩
  obtain ⟨rest, rfl⟩ := hes'
  obtain ⟨hkept, hdrains⟩ :=
    kept_of_calm ⟨hstart, fun _ hq => absurd rfl hq⟩ (Along.append.mp hfits).1
    (Along.append.mp hcalm).1
  exact hkept.inOrder hdrains

/-- Queued chunks go out before the next one is written. -/
def calmRun : List Event :=
  [.write [1], .onlineChange true [], .drained, .write [2], .sent, .onlineChange false [[3]],
    .onlineChange true [], .drained]

theorem chunks_leave_in_order_calmRun :
    (calmRun.foldl step { online := false, offlineRetention := 1024 }).published =
      [[1], [2], [3]] := by
  have h := ((chunks_leave_in_order false 1024 calmRun (by decide)).1 (by decide) calmRun
    (List.prefix_refl _)).complete
  exact h rfl rfl rfl

/-- The log line of the connection overtakes the chunk that is queued. Without it, a chunk
that is written before the first of two is acknowledged overtakes the second. -/
theorem new_chunk_overtakes_queue :
    let es : List Event := [.write [1], .onlineChange true [[2]]]
    let es' : List Event := [.write [1], .write [2], .onlineChange true [], .write [3], .drained]
    let s : PublishStream := { online := false, offlineRetention := 1024 }
    Along step Fits s es ∧ (es.foldl step s).written = [[1], [2]] ∧ (es.foldl step s).published =
      [[2], [1]] ∧
      Along step Fits s es' ∧ (es'.foldl step s).published = [[1], [3], [2]] := by
  decide

end MylifeHome.Bus.Logger
