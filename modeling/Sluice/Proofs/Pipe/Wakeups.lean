import Mathlib
import Sluice.Proofs.Pipe.Backpressure
/-!
# Wakeups between the ends of a byte pipe

A read or a flush that cannot finish parks its listener and waits for a notification; a poll
before the notification does nothing. So a suspended operation goes on only if every change
that can end its wait also notifies it. The read test ends a read on a writer fault, an
interrupt, the writer's completion, or a byte beyond the examined ones (`Reader.ready`). The
flush test ends a flush once the reader has completed, on an interrupt, with backpressure off,
or once the count of unconsumed bytes is below the pause threshold (before the flush has
paused) or at most the resume threshold (after) (`Writer.flushReady`).

Every change that can make a parked read ready notifies the reader's side: publishing,
completing the writer and interrupting the read. Nothing else touches what the read test reads
(`Pipe.KeepsReadWake`). The same holds of a parked flush and the changes that notify the writer's
side: consuming, completing the reader and interrupting the flush (`Pipe.KeepsFlushWake`). The gap
is in the flush test itself. A flush that has not paused parks when the count is at the pause
threshold or above, and from then on waits for the count to come down to the resume threshold.
A parked flush has therefore seen a count above the resume threshold, or at the pause threshold
or above (`Pipe.FlushWake`). When the resume threshold is below the pause threshold, both mean
the flush is not ready. Otherwise a flush can park at a count between the two thresholds,
ready at once, with nothing left to notify it.

`BytePipe.Session.Awake` collects both facts, and every command keeps it. Hence a suspended read
or flush that is ready with no notification pending is unreachable exactly when backpressure
is off or the resume threshold is below the pause threshold
(`no_lost_wakeup_iff_resume_below_pause`). Otherwise the first flush that reaches the pause
threshold parks ready (`flush_parks_ready_at_pause`, `flush_parked_at_shared_threshold`).
-/

namespace Sluice

/-! ## What ends a wait -/

namespace Reader

/-- What the read test ends a suspended read on: a writer fault, an interrupt, the writer's
completion, or a byte beyond the examined ones. -/
def ready (p : Pipe) (r : Reader) : Bool :=
  p.writerFault.isSome ||
    (p.readCancel || p.writerDone || decide (r.examined < (r.buffered ++ p.published).length))

theorem readCheck_pending_iff (p : Pipe) (r : Reader) :
    (readCheck p r).2.2 = .pending ↔ ready p r = false := by
  rcases readCheck_spec p r with ⟨e, fault, -, -, failed⟩ |
    ⟨fault, -, -, -, -, -, -, -, -, tested⟩
  · simp [failed, ready, fault]
  · -- no fault: the read test ends the read exactly on the rest
    have same : ready p r =
        (p.readCancel || p.writerDone || decide (r.examined < (r.buffered ++ p.published).length)) := by
      simp only [ready, fault, Option.isSome_none, Bool.false_or]
    rw [same]
    rcases tested with ⟨ends, -, offered⟩ | ⟨idle, -, parked⟩
    · rw [ends, offered]
      simp
    · rw [idle, parked]
      simp

end Reader

namespace Writer

/-- What the flush test ends a suspended flush on: the reader's completion, an interrupt,
backpressure off, or the count below the pause threshold before the flush paused and at most
the resume threshold after. -/
def flushReady (p : Pipe) (paused : Bool) : Bool :=
  p.readerDone || p.flushCancel || p.options.pauseWriterThreshold == 0 ||
    if paused then decide (p.unconsumed ≤ p.options.resumeWriterThreshold)
    else decide (p.unconsumed < p.options.pauseWriterThreshold)

theorem flushCheck_pending_iff (p : Pipe) (paused : Bool) :
    (flushCheck p paused).2.1 = .pending ↔ flushReady p paused = false := by
  unfold flushCheck flushReady
  dsimp only
  split_ifs <;> simp_all

end Writer

/-! ## Waits that cannot be missed -/

namespace Pipe

/-- A suspended read by `r` that cannot miss its wake: notified, or parked while not ready. -/
def ReadWake (p : Pipe) (r : Reader) : Prop :=
  p.readListener = .notified ∨ p.readListener = .parked ∧ Reader.ready p r = false

/-- A suspended flush as the flush test leaves it: notified, or parked on a pipe whose reader
is open, with no interrupt and backpressure on, while the count is above the resume threshold
or at the pause threshold or above. -/
def FlushWake (p : Pipe) : Prop :=
  p.flushListener = .notified ∨
    p.flushListener = .parked ∧ p.readerDone = false ∧ p.flushCancel = false ∧
      0 < p.options.pauseWriterThreshold ∧
      (p.options.resumeWriterThreshold < p.unconsumed ∨
        p.options.pauseWriterThreshold ≤ p.unconsumed)

/-- A change after which every suspended read that could not miss its wake still cannot. -/
def KeepsReadWake (p p' : Pipe) : Prop :=
  ∀ r, p.ReadWake r → p'.ReadWake r

/-- A change after which a suspended flush that could not miss its wake still cannot. -/
def KeepsFlushWake (p p' : Pipe) : Prop :=
  p.FlushWake → p'.FlushWake

@[simp] theorem notifyWrite_flushListener (p : Pipe) :
    p.notifyWrite.flushListener = p.flushListener.notify := by
  cases h : p.flushListener <;> simp [notifyWrite, h, Listener.notify]

theorem Listener.notify_ne_parked {l : Listener} (waiting : l = .notified ∨ l = .parked) :
    l.notify = .notified := by
  rcases waiting with rfl | rfl <;> rfl

namespace KeepsReadWake

theorem refl (p : Pipe) : p.KeepsReadWake p := fun _ => id

theorem trans {p q r : Pipe} (first : p.KeepsReadWake q) (second : q.KeepsReadWake r) : p.KeepsReadWake r :=
  fun x h => second x (first x h)

theorem of_fields {p p' : Pipe} (listener : p'.readListener = p.readListener)
    (fault : p'.writerFault = p.writerFault) (cancel : p'.readCancel = p.readCancel)
    (done : p'.writerDone = p.writerDone) (published : p'.published = p.published) :
    p.KeepsReadWake p' := by
  intro r h
  simpa [ReadWake, Reader.ready, listener, fault, cancel, done, published] using h

theorem notifyRead {p q : Pipe} (listener : q.readListener = p.readListener) :
    p.KeepsReadWake q.notifyRead := by
  intro r h
  left
  rw [notifyRead_readListener, listener]
  exact Listener.notify_ne_parked (h.imp_right And.left)

end KeepsReadWake

namespace KeepsFlushWake

theorem refl (p : Pipe) : p.KeepsFlushWake p := id

theorem trans {p q r : Pipe} (first : p.KeepsFlushWake q) (second : q.KeepsFlushWake r) :
    p.KeepsFlushWake r :=
  second ∘ first

theorem of_fields {p p' : Pipe} (listener : p'.flushListener = p.flushListener)
    (done : p'.readerDone = p.readerDone) (cancel : p'.flushCancel = p.flushCancel)
    (options : p'.options = p.options) (grows : p.unconsumed ≤ p'.unconsumed) :
    p.KeepsFlushWake p' := by
  rintro (notified | ⟨parked, open_, live, pos, above⟩)
  · left
    rw [listener, notified]
  · right
    rw [listener, done, cancel, options]
    refine ⟨parked, open_, live, pos, ?_⟩
    omega

theorem notifyWrite {p q : Pipe} (listener : q.flushListener = p.flushListener) :
    p.KeepsFlushWake q.notifyWrite := by
  intro h
  left
  rw [notifyWrite_flushListener, listener]
  exact Listener.notify_ne_parked (h.imp_right And.left)

end KeepsFlushWake

theorem cancelRead_keepsReadWake (p : Pipe) : p.KeepsReadWake p.cancelRead :=
  .notifyRead rfl

theorem cancelRead_keepsFlushWake (p : Pipe) : p.KeepsFlushWake p.cancelRead :=
  .of_fields (by simp [cancelRead]) (by simp [cancelRead]) (by simp [cancelRead]) (by simp)
    (by simp)

theorem cancelFlush_keepsReadWake (p : Pipe) : p.KeepsReadWake p.cancelFlush :=
  .of_fields (by simp [cancelFlush]) (by simp [cancelFlush]) (by simp [cancelFlush])
    (by simp [cancelFlush]) (by simp [cancelFlush])

theorem cancelFlush_keepsFlushWake (p : Pipe) : p.KeepsFlushWake p.cancelFlush :=
  .notifyWrite rfl

theorem dropFlush_keepsReadWake (p : Pipe) : p.KeepsReadWake p.dropFlush :=
  .of_fields rfl rfl rfl rfl rfl

theorem dropRead_keepsFlushWake (p : Pipe) : p.KeepsFlushWake p.dropRead :=
  .of_fields rfl rfl rfl rfl le_rfl

end Pipe

/-! ## The writer's side -/

namespace Writer

variable (p : Pipe) (w : Writer)

theorem publish_keepsReadWake : p.KeepsReadWake (publish p w).1 := by
  unfold publish
  dsimp only
  split_ifs
  · exact .refl p
  · exact .refl p
  · exact .notifyRead rfl

theorem flushCheck_keepsReadWake (paused : Bool) : p.KeepsReadWake (flushCheck p paused).1 := by
  obtain ⟨published, -, done, fault, -, listener, cancel⟩ := flushCheck_fields p paused
  exact .of_fields listener fault cancel done published

theorem flush_keepsReadWake : p.KeepsReadWake (flush p w).1 := by
  unfold flush
  split
  · exact .refl p
  · dsimp only
    split
    · exact publish_keepsReadWake p w
    · exact (publish_keepsReadWake p w).trans (flushCheck_keepsReadWake _ false)

theorem pollFlush_keepsReadWake (fw : FlushWait) : p.KeepsReadWake (pollFlush p fw).1 := by
  obtain ⟨published, -, done, fault, -, listener, cancel⟩ := pollFlush_fields p fw
  exact .of_fields listener fault cancel done published

theorem complete_keepsReadWake (fault : Option Fault) : p.KeepsReadWake (complete p w fault).1 := by
  unfold complete
  split
  · exact .refl p
  · exact (publish_keepsReadWake p w).trans (.notifyRead rfl)

theorem flushCheck_waits (paused : Bool) (pending : (flushCheck p paused).2.1 = .pending) :
    (flushCheck p paused).1.FlushWake ∧ (flushCheck p paused).2.2.paused = true := by
  unfold flushCheck at pending ⊢
  dsimp only at pending ⊢
  split_ifs at pending ⊢ with done cancel off fresh below above
  · -- it had not paused, and parks at the pause threshold or above
    exact ⟨.inr ⟨rfl, by simpa using done, by simpa using cancel, by dsimp only; omega,
      by dsimp only; omega⟩, rfl⟩
  · -- it had paused, and parks above the resume threshold
    exact ⟨.inr ⟨rfl, by simpa using done, by simpa using cancel, by dsimp only; omega,
      by dsimp only; omega⟩, rfl⟩

theorem flushCheck_waits_of_eq {paused : Bool} {q : Pipe} {fw : FlushWait}
    (tested : flushCheck p paused = (q, .pending, fw)) : q.FlushWake ∧ fw.paused = true := by
  have waits := flushCheck_waits p paused (by rw [tested])
  rwa [tested] at waits

theorem flush_waits (pending : (flush p w).2.2.1 = .pending) :
    (flush p w).1.FlushWake ∧ (flush p w).2.2.2.paused = true := by
  unfold flush at pending ⊢
  by_cases live : w.completed = true
  · simp [live] at pending
  · simp only [live] at pending ⊢
    generalize publish p w = q at pending ⊢
    obtain ⟨p₁, w₁, gone⟩ := q
    dsimp only at pending ⊢
    cases gone
    case true => cases pending
    case false =>
      -- the publication is done; the flush test parked it
      simp only [Bool.false_eq_true, if_false] at pending ⊢
      generalize tested : flushCheck p₁ false = c at pending ⊢
      obtain ⟨q, r, fw⟩ := c
      cases r with
      | ready v => cases pending
      | pending => exact flushCheck_waits_of_eq p₁ tested

theorem pollFlush_waits {fw : FlushWait} (h : p.FlushWake) (paused : fw.paused = true)
    (pending : (pollFlush p fw).2.1 = .pending) :
    (pollFlush p fw).1.FlushWake ∧ (pollFlush p fw).2.2.paused = true := by
  unfold pollFlush at pending ⊢
  by_cases notified : p.flushListener = .notified
  · -- notified: the flush test runs again
    simp only [notified, if_true] at pending ⊢
    generalize tested : flushCheck p fw.paused = c at pending ⊢
    obtain ⟨q, r, fw'⟩ := c
    cases r with
    | ready v => cases pending
    | pending => exact flushCheck_waits_of_eq p tested
  · simp only [notified, if_false]
    exact ⟨h, paused⟩

end Writer

/-! ## The reader's side -/

namespace Reader

variable (p : Pipe) (r : Reader)

theorem readCheck_keepsFlushWake : p.KeepsFlushWake (readCheck p r).1 := by
  unfold readCheck
  split
  · exact .of_fields rfl rfl rfl rfl le_rfl
  · dsimp only
    split_ifs <;> exact .of_fields rfl rfl rfl rfl le_rfl

theorem read_keepsFlushWake : p.KeepsFlushWake (read p r).1 := by
  unfold read
  split
  · exact .refl p
  · exact readCheck_keepsFlushWake p r

theorem pollRead_keepsFlushWake : p.KeepsFlushWake (pollRead p r).1 := by
  rcases pollRead_cases p r with tested | waiting
  · rw [tested]
    exact readCheck_keepsFlushWake p r
  · rw [waiting]
    exact .refl p

theorem advanceTo_keepsFlushWake (c e : Nat) : p.KeepsFlushWake (advanceTo p r c e).1 := by
  unfold advanceTo
  split_ifs
  · exact .refl p
  · exact .notifyWrite rfl
  · exact .refl p

theorem complete_keepsFlushWake : p.KeepsFlushWake (complete p r).1 := by
  unfold complete
  split
  · exact .refl p
  · exact .notifyWrite rfl

theorem readCheck_waits (pending : (readCheck p r).2.2 = .pending) :
    (readCheck p r).1.ReadWake (readCheck p r).2.1 := by
  rcases readCheck_spec p r with ⟨e, -, -, -, failed⟩ |
    ⟨-, moved, published, cancel, -, done, fault, -, -, ⟨-, -, offered⟩ | ⟨idle, parked, -⟩⟩
  · rw [failed] at pending
    cases pending
  · rw [offered] at pending
    cases pending
  · -- the published bytes moved into the buffer, which holds nothing beyond the examined bytes
    refine .inr ⟨parked, ?_⟩
    simp only [Bool.or_eq_false_iff, decide_eq_false_iff_not, List.length_append] at idle
    simp only [ready, moved, published, cancel, done, fault, idle.1.2, List.append_nil,
      List.length_append, Option.isSome_none, Bool.or_false, Bool.false_or, decide_eq_false_iff_not]
    exact idle.2

theorem read_waits (pending : (read p r).2.2 = .pending) : (read p r).1.ReadWake (read p r).2.1 := by
  unfold read at pending ⊢
  by_cases done : r.completed = true
  · simp [done] at pending
  · simp only [done] at pending ⊢
    exact readCheck_waits p r pending

theorem pollRead_waits (h : p.ReadWake r) (pending : (pollRead p r).2.2 = .pending) :
    (pollRead p r).1.ReadWake (pollRead p r).2.1 := by
  rcases pollRead_cases p r with tested | waiting
  · rw [tested] at pending ⊢
    exact readCheck_waits p r pending
  · rw [waiting]
    exact h

end Reader

/-! ## Sessions -/

namespace BytePipe.Session

/-- Every suspended operation of a session cannot miss its wake: a suspended read waits as
`Pipe.ReadWake` says, and a suspended flush has paused and waits as `Pipe.FlushWake` says. -/
structure Awake (s : Session) : Prop where
  read : ∀ r, s.reader = .reading r → s.pipe.ReadWake r
  flush : ∀ w fw, s.writer = .flushing w fw → fw.paused = true ∧ s.pipe.FlushWake

variable {s t : Session}

theorem afterFlush_flushing {α : Type} {w w' : Writer} {fw fw' : FlushWait} {p : Poll α}
    (h : afterFlush w fw p = .flushing w' fw') : p = .pending ∧ fw' = fw := by
  cases p with
  | pending =>
    simp only [afterFlush, WriterSlot.flushing.injEq] at h
    exact ⟨rfl, h.2.symm⟩
  | ready v => cases h

theorem afterRead_reading {α : Type} {r r' : Reader} {p : Poll α}
    (h : afterRead r p = .reading r') : p = .pending ∧ r' = r := by
  cases p with
  | pending =>
    simp only [afterRead, ReaderSlot.reading.injEq] at h
    exact ⟨rfl, h.symm⟩
  | ready v => cases h

theorem Awake.writer (h : s.Awake) (reader : t.reader = s.reader) (keeps : s.pipe.KeepsReadWake t.pipe)
    (flush : ∀ w fw, t.writer = .flushing w fw → fw.paused = true ∧ t.pipe.FlushWake) :
    t.Awake :=
  ⟨fun r reading => keeps r (h.read r (reader ▸ reading)), flush⟩

theorem Awake.reader (h : s.Awake) (writer : t.writer = s.writer) (keeps : s.pipe.KeepsFlushWake t.pipe)
    (read : ∀ r, t.reader = .reading r → t.pipe.ReadWake r) : t.Awake :=
  ⟨read, fun w fw flushing => (h.flush w fw (writer ▸ flushing)).imp_right keeps⟩

theorem not_flushing {x : WriterSlot} (idle : ∀ w fw, x ≠ .flushing w fw) :
    ∀ w fw, x = .flushing w fw → fw.paused = true ∧ t.pipe.FlushWake :=
  fun w fw flushing => absurd flushing (idle w fw)

theorem not_reading {x : ReaderSlot} (idle : ∀ r, x ≠ .reading r) :
    ∀ r, x = .reading r → t.pipe.ReadWake r :=
  fun r reading => absurd reading (idle r)

theorem Awake.idleWriter (h : s.Awake) (w : Writer) : { s with writer := .idle w }.Awake :=
  h.writer rfl (.refl _) (not_flushing (by simp))

theorem Awake.step (h : s.Awake) (c : Command) : (s.step c).1.Awake := by
  cases c
  -- the writer's side: the pipe changes as the writer may, and a new flush waits
  case completeWriter fault =>
    cases hw : s.writer
    case idle w =>
      simp only [Session.step, withWriter, hw]
      exact h.writer rfl (Writer.complete_keepsReadWake s.pipe w fault)
        (not_flushing (by simp))
    all_goals simpa [Session.step, withWriter, hw] using h
  case flush =>
    cases hw : s.writer
    case idle w =>
      simp only [Session.step, withWriter, hw]
      refine h.writer rfl (Writer.flush_keepsReadWake s.pipe w) fun w' fw flushing => ?_
      obtain ⟨pending, rfl⟩ := afterFlush_flushing flushing
      exact (Writer.flush_waits s.pipe w pending).symm
    all_goals simpa [Session.step, withWriter, hw] using h
  case pollFlush =>
    cases hw : s.writer
    case flushing w fw =>
      obtain ⟨paused, waits⟩ := h.flush w fw hw
      simp only [Session.step, hw]
      refine h.writer rfl (Writer.pollFlush_keepsReadWake s.pipe fw) fun w' fw' flushing => ?_
      obtain ⟨pending, rfl⟩ := afterFlush_flushing flushing
      exact (Writer.pollFlush_waits s.pipe waits paused pending).symm
    all_goals simpa [Session.step, hw] using h
  case dropWriter =>
    cases hw : s.writer
    case idle w =>
      simp only [Session.step, hw]
      exact h.writer rfl (Writer.complete_keepsReadWake s.pipe w none)
        (not_flushing (by simp))
    case flushing w fw =>
      simp only [Session.step, hw]
      exact h.writer rfl ((Pipe.dropFlush_keepsReadWake s.pipe).trans
        (Writer.complete_keepsReadWake _ w none)) (not_flushing (by simp))
    case gone => simpa [Session.step, hw] using h
  -- the reader's side: the pipe changes as the reader may, and a new read waits
  case read =>
    cases hr : s.reader
    case idle r =>
      simp only [Session.step, withReader, hr]
      refine h.reader rfl (Reader.read_keepsFlushWake s.pipe r) fun r' reading => ?_
      obtain ⟨pending, rfl⟩ := afterRead_reading reading
      exact Reader.read_waits s.pipe r pending
    all_goals simpa [Session.step, withReader, hr] using h
  case pollRead =>
    cases hr : s.reader
    case reading r =>
      simp only [Session.step, hr]
      refine h.reader rfl (Reader.pollRead_keepsFlushWake s.pipe r) fun r' reading => ?_
      obtain ⟨pending, rfl⟩ := afterRead_reading reading
      exact Reader.pollRead_waits s.pipe r (h.read r hr) pending
    all_goals simpa [Session.step, hr] using h
  case advanceTo c e =>
    cases hr : s.reader
    case idle r =>
      simp only [Session.step, withReader, hr]
      exact h.reader rfl (Reader.advanceTo_keepsFlushWake s.pipe r c e)
        (not_reading (by simp))
    all_goals simpa [Session.step, withReader, hr] using h
  case completeReader =>
    cases hr : s.reader
    case idle r =>
      simp only [Session.step, withReader, hr]
      exact h.reader rfl (Reader.complete_keepsFlushWake s.pipe r)
        (not_reading (by simp))
    all_goals simpa [Session.step, withReader, hr] using h
  case dropReader =>
    cases hr : s.reader
    case idle r =>
      simp only [Session.step, hr]
      exact h.reader rfl (Reader.complete_keepsFlushWake s.pipe r) (not_reading (by simp))
    case reading r =>
      simp only [Session.step, hr]
      exact h.reader rfl ((Pipe.dropRead_keepsFlushWake s.pipe).trans (Reader.complete_keepsFlushWake _ r))
        (not_reading (by simp))
    case gone => simpa [Session.step, hr] using h
  -- an interrupt notifies its own side and leaves the other alone
  case cancelRead =>
    exact ⟨fun r reading => Pipe.cancelRead_keepsReadWake s.pipe r (h.read r reading),
      fun w fw flushing => (h.flush w fw flushing).imp_right (Pipe.cancelRead_keepsFlushWake s.pipe)⟩
  case cancelFlush =>
    exact ⟨fun r reading => Pipe.cancelFlush_keepsReadWake s.pipe r (h.read r reading),
      fun w fw flushing => (h.flush w fw flushing).imp_right (Pipe.cancelFlush_keepsFlushWake s.pipe)⟩
  -- abandoning a wait forgets its registration and frees its end
  case abandonFlush =>
    cases hw : s.writer
    case flushing w fw =>
      simp only [Session.step, hw]
      exact h.writer rfl (Pipe.dropFlush_keepsReadWake s.pipe) (not_flushing (by simp))
    all_goals simpa [Session.step, hw] using h
  case abandonRead =>
    cases hr : s.reader
    case reading r =>
      simp only [Session.step, hr]
      exact h.reader rfl (Pipe.dropRead_keepsFlushWake s.pipe) (not_reading (by simp))
    all_goals simpa [Session.step, hr] using h
  -- the rest change only the writer's own state, or nothing
  case getMemory hint fill | advance n | write data =>
    cases hw : s.writer
    case idle w =>
      simp only [Session.step, withWriter, hw]
      exact h.idleWriter _
    all_goals simpa [Session.step, withWriter, hw] using h
  all_goals
    simp only [Session.step, withWriter, withReader]
    split <;> exact h

theorem Awake.run (h : s.Awake) (cmds : List Command) : (s.run cmds).Awake := by
  induction cmds generalizing s with
  | nil => exact h
  | cons c rest ih => exact ih (h.step c)

theorem awake_create (o : PipeOptions) : (create o).Awake :=
  ⟨fun r reading => (by cases reading), fun w fw flushing => (by cases flushing)⟩

theorem options_step (c : Command) : (s.step c).1.pipe.options = s.pipe.options := by
  cases c <;> simp only [Session.step, withWriter, withReader] <;> (try split) <;> first
    | exact (Reader.read_drains _ _).1
    | exact (Reader.pollRead_drains _ _).1
    | exact (Reader.advanceTo_drains _ _ _ _).1
    | exact (Reader.complete_drains _ _).1
    | simp

theorem options_run (o : PipeOptions) (cmds : List Command) :
    ((create o).run cmds).pipe.options = o := by
  suffices kept : ∀ s : Session, (s.run cmds).pipe.options = s.pipe.options from kept _
  induction cmds with
  | nil => exact fun _ => rfl
  | cons c rest ih => exact fun s => (ih _).trans (options_step c)

/-! ## Lost wakeups -/

/-- No suspended read or flush is ready with no notification pending. -/
def NoLostWakeup (s : Session) : Prop :=
  (∀ r, s.reader = .reading r → Reader.ready s.pipe r = true → s.pipe.readListener = .notified) ∧
    ∀ w fw, s.writer = .flushing w fw → Writer.flushReady s.pipe fw.paused = true →
      s.pipe.flushListener = .notified

theorem Awake.read_notified (h : s.Awake) {r : Reader} (reading : s.reader = .reading r)
    (ready : Reader.ready s.pipe r = true) : s.pipe.readListener = .notified := by
  rcases h.read r reading with notified | ⟨-, idle⟩
  · exact notified
  · rw [idle] at ready
    cases ready

/-- A suspended flush that is ready and has not been notified parked with backpressure on, at
a count between the pause threshold and the resume threshold. -/
theorem Awake.flush_unwoken (h : s.Awake) {w : Writer} {fw : FlushWait}
    (flushing : s.writer = .flushing w fw) (ready : Writer.flushReady s.pipe fw.paused = true)
    (unwoken : s.pipe.flushListener ≠ .notified) :
    0 < s.pipe.options.pauseWriterThreshold ∧
      s.pipe.options.pauseWriterThreshold ≤ s.pipe.unconsumed ∧
      s.pipe.unconsumed ≤ s.pipe.options.resumeWriterThreshold := by
  obtain ⟨paused, notified | ⟨-, open_, live, pos, above⟩⟩ := h.flush w fw flushing
  · exact absurd notified unwoken
  · -- a paused flush is ready only once the count is within the resume threshold
    have resumed : s.pipe.unconsumed ≤ s.pipe.options.resumeWriterThreshold := by
      simpa [Writer.flushReady, paused, open_, live, Nat.pos_iff_ne_zero.mp pos] using ready
    refine ⟨pos, ?_, resumed⟩
    omega

/-- With backpressure off, or the resume threshold below the pause threshold, no suspended
operation misses its wake. -/
theorem Awake.noLostWakeup (h : s.Awake)
    (options : s.pipe.options.pauseWriterThreshold = 0 ∨
      s.pipe.options.resumeWriterThreshold < s.pipe.options.pauseWriterThreshold) :
    s.NoLostWakeup := by
  refine ⟨fun r reading ready => h.read_notified reading ready, fun w fw flushing ready => ?_⟩
  by_contra unwoken
  obtain ⟨pos, paused, resumed⟩ := h.flush_unwoken flushing ready unwoken
  omega

/-- With `0 < pause ≤ resume`, a first flush of `pause` bytes parks a flush that is ready: it
had not paused and the count reached the pause threshold, and that count is within the resume
threshold already. -/
theorem flush_parks_ready_at_pause {o : PipeOptions} (pos : 0 < o.pauseWriterThreshold)
    (within : o.pauseWriterThreshold ≤ o.resumeWriterThreshold) :
    let s := (create o).run [.write (List.replicate o.pauseWriterThreshold 0), .flush]
    ∃ w, s.writer = .flushing w ⟨true⟩ ∧ Writer.flushReady s.pipe true = true ∧
      s.pipe.flushListener = .parked := by
  have staged : (List.replicate o.pauseWriterThreshold (0 : UInt8)).isEmpty = false := by
    simp [Nat.pos_iff_ne_zero.mp pos]
  simp [Session.run, Session.step, create, withWriter, Writer.write, Writer.flush, Writer.publish,
    staged, Pipe.create, Pipe.notifyRead, Writer.flushCheck, Nat.pos_iff_ne_zero.mp pos, afterFlush,
    Writer.flushReady, within]

end BytePipe.Session

open BytePipe.Session in
/-- A suspended read or flush of a byte pipe never misses its wake, in any run from a new pipe,
exactly when the pipe's options turn backpressure off or put the resume threshold below the
pause threshold: every change that can end a suspended read or flush notifies it, but with
`0 < pause ≤ resume` the flush test parks a flush at a count that already lets it go on. -/
theorem no_lost_wakeup_iff_resume_below_pause (o : PipeOptions) :
    (∀ cmds, ((create o).run cmds).NoLostWakeup) ↔
      o.pauseWriterThreshold = 0 ∨ o.resumeWriterThreshold < o.pauseWriterThreshold := by
  constructor
  · intro never
    by_contra window
    -- a pipe with `0 < pause ≤ resume` has a run that parks a ready flush
    have pos : 0 < o.pauseWriterThreshold := by omega
    obtain ⟨w, flushing, ready, parked⟩ := flush_parks_ready_at_pause pos (by omega)
    have notified := (never _).2 w ⟨true⟩ flushing ready
    rw [parked] at notified
    cases notified
  · intro options cmds
    apply ((awake_create o).run cmds).noLostWakeup
    rw [options_run o cmds]
    exact options

/-- With the pause and resume thresholds both at four bytes, flushing four bytes parks the flush
at a count of four, which the resume threshold already allows; nothing notifies it, and a poll
finds it still pending. -/
theorem flush_parked_at_shared_threshold :
    let s₀ := BytePipe.Session.create
      { receiveBufferSize := 4, pauseWriterThreshold := 4, resumeWriterThreshold := 4 }
    let s₁ := (s₀.step (.write [1, 2, 3, 4])).1
    let flushed := s₁.step .flush
    let polled := flushed.1.step .pollFlush
    flushed.2 = .pending ∧ polled.2 = .pending ∧ polled.1.writer = .flushing {} ⟨true⟩ ∧
      Writer.flushReady polled.1.pipe true = true ∧ polled.1.pipe.flushListener = .parked :=
  ⟨rfl, rfl, rfl, rfl, rfl⟩

end Sluice
