import Mathlib
import Sluice.Proofs.Pipe.Backlog
import Sluice.Proofs.Pipe.Producer
/-!
# Backpressure bounds the backlog

A producer loop writes a byte pipe, one receive of at most the receive buffer size per flush,
and the flush waits while the reader lags: a flush that never paused goes on below the pause
threshold, and one that paused goes on at the resume threshold or below. So whatever the reader
does, the pipe never holds more than what a flush leaves behind (`PipeOptions.flushedBacklog`)
plus one receive.

A `Feed` is such a producer loop together with a reader end driven by any commands of a byte
pipe session (reads, polls, advances of any size, completion, drops, interruptions of the
pending read or flush), and the loop's token, which may fire at any point. Turns interleave in
any order. `ProducerTask.Paced` is the producer's side of the bound; every producer move keeps
it (`ProducerTask.step_paced`), and the reader's commands only ever lower the backlog
(`BytePipe.Session.drains_of_gone`), so it holds after every run
(`backlog_within_pause_resume_and_buffer`).
-/

namespace Sluice

/-- The most bytes a flush that goes on leaves unconsumed: fewer than the pause threshold when
it never paused, at most the resume threshold when it did. -/
def PipeOptions.flushedBacklog (o : PipeOptions) : Nat :=
  max (o.pauseWriterThreshold - 1) o.resumeWriterThreshold

/-! ## Options stay, and what moves the counter -/

namespace Pipe

variable (p : Pipe)

@[simp] theorem notifyRead_options : p.notifyRead.options = p.options := by
  unfold notifyRead; split <;> rfl
@[simp] theorem notifyWrite_options : p.notifyWrite.options = p.options := by
  unfold notifyWrite; split <;> rfl
@[simp] theorem cancelRead_options : p.cancelRead.options = p.options := by
  simp [cancelRead]
@[simp] theorem cancelFlush_options : p.cancelFlush.options = p.options := by
  simp [cancelFlush]
@[simp] theorem dropFlush_options : p.dropFlush.options = p.options := rfl
@[simp] theorem dropRead_options : p.dropRead.options = p.options := rfl
@[simp] theorem cancelRead_unconsumed : p.cancelRead.unconsumed = p.unconsumed := by
  simp [cancelRead]
@[simp] theorem cancelFlush_unconsumed : p.cancelFlush.unconsumed = p.unconsumed := by
  simp [cancelFlush]
@[simp] theorem dropFlush_unconsumed : p.dropFlush.unconsumed = p.unconsumed := rfl
@[simp] theorem dropRead_unconsumed : p.dropRead.unconsumed = p.unconsumed := rfl

/-- A change of the pipe by the reader's side: the options stay and the backlog does not
grow. -/
def Drains (p p' : Pipe) : Prop :=
  p'.options = p.options ∧ p'.unconsumed ≤ p.unconsumed

theorem Drains.refl : p.Drains p := ⟨rfl, le_refl _⟩

theorem Drains.trans {p q r : Pipe} (first : p.Drains q) (second : q.Drains r) : p.Drains r :=
  ⟨second.1.trans first.1, second.2.trans first.2⟩

end Pipe

namespace Writer

variable (p : Pipe) (w : Writer)

@[simp] theorem publish_options : (publish p w).1.options = p.options := by
  unfold publish; dsimp only; split_ifs <;> simp

@[simp] theorem flushCheck_options (paused : Bool) : (flushCheck p paused).1.options = p.options := by
  unfold flushCheck; dsimp only; split_ifs <;> rfl

@[simp] theorem flush_options : (flush p w).1.options = p.options := by
  unfold flush; split
  · rfl
  · dsimp only; split <;> simp

@[simp] theorem pollFlush_options (fw : FlushWait) : (pollFlush p fw).1.options = p.options := by
  unfold pollFlush; split <;> simp

@[simp] theorem complete_options (fault : Option Fault) :
    (complete p w fault).1.options = p.options := by
  unfold complete; split <;> simp

theorem publish_unconsumed_le : (publish p w).1.unconsumed ≤ p.unconsumed + w.staged.length := by
  unfold publish; dsimp only; split_ifs <;> simp

theorem flush_unconsumed_le : (flush p w).1.unconsumed ≤ p.unconsumed + w.staged.length := by
  unfold flush
  split
  · simp
  · dsimp only
    have published := publish_unconsumed_le p w
    split
    · exact published
    · rw [(flushCheck_fields _ false).2.1]
      exact published

/-- A flush test lets a flush go on, neither interrupted nor finding the reader gone, only
with the backlog within what a flush leaves behind. -/
theorem flushCheck_settles (pos : 0 < p.options.pauseWriterThreshold) (paused : Bool)
    {v : FlushResult} (ready : (flushCheck p paused).2.1 = .ready v)
    (completed : v.isCompleted = false) (canceled : v.isCanceled = false) :
    p.unconsumed ≤ p.options.flushedBacklog := by
  unfold flushCheck at ready
  dsimp only at ready
  unfold PipeOptions.flushedBacklog
  split_ifs at ready with done cancel off fresh below resumed
  · -- the reader is gone
    cases ready
    cases completed
  · -- the flush was interrupted
    cases ready
    cases canceled
  · exact absurd off (Nat.pos_iff_ne_zero.mp pos)
  · -- it never paused, and the backlog is below the pause threshold
    omega
  · -- it paused, and the backlog is down to the resume threshold
    omega

theorem flush_settles (pos : 0 < p.options.pauseWriterThreshold) (live : w.completed = false)
    {v : FlushResult} (ready : (flush p w).2.2.1 = .ready (.ok v))
    (completed : v.isCompleted = false) (canceled : v.isCanceled = false) :
    (flush p w).1.unconsumed ≤ p.options.flushedBacklog := by
  unfold flush at ready ⊢
  rw [if_neg (by rw [live]; exact Bool.false_ne_true)] at ready ⊢
  have options := publish_options p w
  generalize publish p w = q at ready options ⊢
  obtain ⟨p₁, w₁, gone⟩ := q
  dsimp only at ready options ⊢
  cases gone
  case true =>
    -- the reader was gone: the flush reports it
    simp only [if_pos, Poll.ready.injEq, Except.ok.injEq] at ready
    rw [← ready] at completed
    cases completed
  case false =>
    simp only [Bool.false_eq_true, if_false] at ready ⊢
    generalize checked : flushCheck p₁ false = r at ready ⊢
    obtain ⟨p₂, poll, fw⟩ := r
    cases poll with
    | pending => cases ready
    | ready v' =>
      simp only [Poll.ready.injEq, Except.ok.injEq] at ready
      subst ready
      have settles := flushCheck_settles p₁ (options ▸ pos) false (by rw [checked]) completed
        canceled
      have same := (flushCheck_fields p₁ false).2.1
      rw [checked] at same
      rw [same, ← options]
      exact settles

theorem pollFlush_settles (pos : 0 < p.options.pauseWriterThreshold) (fw : FlushWait)
    {v : FlushResult} (ready : (pollFlush p fw).2.1 = .ready (.ok v))
    (completed : v.isCompleted = false) (canceled : v.isCanceled = false) :
    (pollFlush p fw).1.unconsumed ≤ p.options.flushedBacklog := by
  rw [(pollFlush_fields p fw).2.1]
  rw [pollFlush_eq] at ready
  split at ready
  · generalize checked : (flushCheck p fw.paused).2.1 = r at ready
    cases r with
    | pending => cases ready
    | ready v' =>
      simp only [Poll.ready.injEq, Except.ok.injEq] at ready
      subst ready
      exact flushCheck_settles p pos fw.paused checked completed canceled
  · cases ready

end Writer

namespace Reader

variable (p : Pipe) (r : Reader)

@[simp] theorem readCheck_options : (readCheck p r).1.options = p.options := by
  unfold readCheck; split
  · rfl
  · dsimp only; split_ifs <;> rfl

theorem readCheck_drains : p.Drains (readCheck p r).1 := by
  refine ⟨readCheck_options p r, ?_⟩
  rcases readCheck_spec p r with ⟨e, -, -, pipe, -⟩ | ⟨-, -, -, -, -, -, -, unconsumed, -⟩
  · rw [pipe]
  · rw [unconsumed]

theorem read_drains : p.Drains (read p r).1 := by
  unfold read
  split
  · exact .refl p
  · exact readCheck_drains p r

theorem pollRead_drains : p.Drains (pollRead p r).1 := by
  rcases pollRead_cases p r with tested | waiting
  · rw [tested]
    exact readCheck_drains p r
  · rw [waiting]
    exact .refl p

theorem advanceTo_drains (c e : Nat) : p.Drains (advanceTo p r c e).1 := by
  unfold advanceTo
  split_ifs
  · exact .refl p
  · exact ⟨by simp, by simp⟩
  · exact .refl p

theorem complete_drains : p.Drains (complete p r).1 := by
  unfold complete
  split
  · exact .refl p
  · exact ⟨by simp, by simp⟩

end Reader

/-! ## The reader's side -/

namespace BytePipe.Session

variable {s : Session}

/-- On a session that has no writer end of its own, every command keeps it so and only drains
the pipe. -/
theorem drains_of_gone (gone : s.writer = .gone) (c : Command) :
    (s.step c).1.writer = .gone ∧ s.pipe.Drains (s.step c).1.pipe := by
  cases c
  case read =>
    cases hr : s.reader
    case idle r => exact ⟨by simp [step, withReader, hr, gone], by
      simpa [step, withReader, hr] using Reader.read_drains s.pipe r⟩
    all_goals exact ⟨by simp [step, withReader, hr, gone], by
      simpa [step, withReader, hr] using .refl _⟩
  case pollRead =>
    cases hr : s.reader
    case reading r => exact ⟨by simp [step, hr, gone], by
      simpa [step, hr] using Reader.pollRead_drains s.pipe r⟩
    all_goals exact ⟨by simp [step, hr, gone], by simpa [step, hr] using .refl _⟩
  case advanceTo c e =>
    cases hr : s.reader
    case idle r => exact ⟨by simp [step, withReader, hr, gone], by
      simpa [step, withReader, hr] using Reader.advanceTo_drains s.pipe r c e⟩
    all_goals exact ⟨by simp [step, withReader, hr, gone], by
      simpa [step, withReader, hr] using .refl _⟩
  case completeReader =>
    cases hr : s.reader
    case idle r => exact ⟨by simp [step, withReader, hr, gone], by
      simpa [step, withReader, hr] using Reader.complete_drains s.pipe r⟩
    all_goals exact ⟨by simp [step, withReader, hr, gone], by
      simpa [step, withReader, hr] using .refl _⟩
  case dropReader =>
    cases hr : s.reader
    case idle r => exact ⟨by simp [step, hr, gone], by
      simpa [step, hr] using Reader.complete_drains s.pipe r⟩
    case reading r => exact ⟨by simp [step, hr, gone], by
      simpa [step, hr] using Pipe.Drains.trans (p := s.pipe) ⟨rfl, le_refl _⟩
        (Reader.complete_drains s.pipe.dropRead r)⟩
    case gone => exact ⟨by simp [step, hr, gone], by simpa [step, hr] using .refl _⟩
  case cancelRead => exact ⟨by simp [step, gone], ⟨by simp [step], by simp [step]⟩⟩
  case cancelFlush => exact ⟨by simp [step, gone], ⟨by simp [step], by simp [step]⟩⟩
  -- every other command needs the writer end, which the session does not have
  all_goals
    cases hr : s.reader <;>
      exact ⟨by simp [step, withWriter, withReader, gone, hr], by
        simpa [step, withWriter, withReader, gone, hr] using .refl _⟩

end BytePipe.Session

/-! ## The producer's side -/

namespace ProducerTask

def receptive (t : ProducerTask) : Bool :=
  match t.stage with
  | .top => true
  | .receiving _ => true
  | _ => false

/-- The producer loop between moves, against the options `o` of its pipe: its writer stages
nothing and is open while the loop runs, a receive holds a region of the receive buffer size,
and the backlog is within what a flush leaves behind plus one receive, and within what a flush
leaves behind while the loop is outside a flush. -/
structure Paced (o : PipeOptions) (p : Pipe) (t : ProducerTask) : Prop where
  options : p.options = o
  staged : t.writer.staged = []
  live : t.isEnded = false → t.writer.completed = false
  room : ∀ r, t.stage = .receiving r →
    ∃ g, t.writer.reserved = some g ∧ g.size = o.receiveBufferSize
  settled : t.receptive = true → p.unconsumed ≤ o.flushedBacklog
  bound : p.unconsumed ≤ o.flushedBacklog + o.receiveBufferSize

variable {o : PipeOptions} {p : Pipe} {c : Connection} {t : ProducerTask}

theorem Paced.drain (h : Paced o p t) {p' : Pipe} (drains : p.Drains p') : Paced o p' t where
  options := drains.1.trans h.options
  staged := h.staged
  live := h.live
  room := h.room
  settled receptive := drains.2.trans (h.settled receptive)
  bound := drains.2.trans h.bound

theorem finish_paced {r : Except Fault LoopExit} (options : p.options = o)
    (staged : t.writer.staged = []) (live : t.writer.completed = false)
    (bound : p.unconsumed ≤ o.flushedBacklog + o.receiveBufferSize) :
    Paced o (finish p c t r).1 (finish p c t r).2.2.1 := by
  rw [finish_eq p c t r staged live]
  refine ⟨by simpa using options, staged, ?_, ?_, ?_, by simpa using bound⟩
  · intro running
    simp [isEnded] at running
  · intro r' receiving
    cases receiving
  · intro receptive
    cases receptive

theorem crash_paced {text : String} (options : p.options = o) (staged : t.writer.staged = [])
    (live : t.writer.completed = false)
    (bound : p.unconsumed ≤ o.flushedBacklog + o.receiveBufferSize) :
    Paced o (crash p c t text).1 (crash p c t text).2.2.1 := by
  unfold crash
  dsimp only
  rw [Writer.complete_of_empty p t.writer staged live]
  refine ⟨by simpa using options, staged, ?_, ?_, ?_, by simpa using bound⟩
  · intro running
    simp [isEnded] at running
  · intro r' receiving
    cases receiving
  · intro receptive
    cases receptive

/-- After a flush poll the loop waits in the flush, ends, or goes back to its top; it goes back
only when the flush went on, which the flush test allows only within what a flush leaves
behind. -/
theorem flushed_paced {fw : FlushWait} {poll : Poll (Except Fault FlushResult)}
    (options : p.options = o) (staged : t.writer.staged = []) (live : t.writer.completed = false)
    (bound : p.unconsumed ≤ o.flushedBacklog + o.receiveBufferSize)
    (settles : ∀ v, poll = .ready (.ok v) → v.isCompleted = false → v.isCanceled = false →
      p.unconsumed ≤ o.flushedBacklog) :
    Paced o (flushed p c t fw poll).1 (flushed p c t fw poll).2.2.1 := by
  cases poll with
  | pending =>
    refine ⟨options, staged, fun _ => live, ?_, ?_, bound⟩
    · intro r receiving
      cases receiving
    · intro receptive
      cases receptive
  | ready v =>
    cases v with
    | error e => exact finish_paced options staged live bound
    | ok v =>
      dsimp only [flushed]
      split_ifs with completed canceled
      · exact finish_paced options staged live bound
      · exact finish_paced options staged live bound
      · -- the flush went on: back to the top with the backlog a finished flush leaves
        have settled := settles v rfl (by simpa using completed) (by simpa using canceled)
        refine ⟨options, staged, fun _ => live, ?_, fun _ => settled, bound⟩
        intro r receiving
        cases receiving

theorem received_paced (pos : 0 < o.pauseWriterThreshold) (options : p.options = o)
    (staged : t.writer.staged = []) (live : t.writer.completed = false) {g : Region}
    (held : t.writer.reserved = some g) (size : g.size = o.receiveBufferSize)
    (settled : p.unconsumed ≤ o.flushedBacklog) {bs : Bytes} (fits : bs.length ≤ g.size) :
    Paced o (received p c t bs).1 (received p c t bs).2.2.1 := by
  have bound : p.unconsumed ≤ o.flushedBacklog + o.receiveBufferSize := le_add_right settled
  unfold received
  dsimp only
  rw [Writer.advance_within t.writer held fits, staged, List.nil_append]
  dsimp only
  split_ifs with empty
  · exact finish_paced options (List.isEmpty_iff.mp empty) live bound
  · -- the flush publishes the received bytes, then its test decides how the loop goes on
    generalize committed : ({ t.writer with reserved := none, staged := bs } : Writer) = w
    have live' : w.completed = false := by rw [← committed]; exact live
    have grown : (w.flush p).1.unconsumed ≤ p.unconsumed + bs.length := by
      simpa [← committed] using Writer.flush_unconsumed_le p w
    rw [Writer.flush_writer p w live']
    refine flushed_paced (by simpa using options) rfl live' ?_ ?_
    · rw [size] at fits
      omega
    · intro v ready completed canceled
      rw [← options]
      exact Writer.flush_settles p w (options ▸ pos) live' ready completed canceled

theorem pollReceive_paced (pos : 0 < o.pauseWriterThreshold) (h : Paced o p t) {r : Receive}
    (at_ : t.stage = .receiving r) : Paced o (pollReceive p c t r).1 (pollReceive p c t r).2.2.1 := by
  obtain ⟨g, held, size⟩ := h.room r at_
  have live := h.live (by simp [isEnded, at_])
  have settled := h.settled (by simp [receptive, at_])
  cases r with
  | hanging => exact h
  | fresh | resumed =>
    unfold pollReceive
    dsimp only
    generalize (if _ = Receive.fresh then _ else c) = c₁
    rw [held]
    generalize pulled : c₁.pull ((some g).map Region.size |>.getD 0) = q
    obtain ⟨c₂, got⟩ := q
    cases got with
    | got bs =>
      obtain ⟨fits, -⟩ := Connection.pull_got pulled
      exact received_paced pos h.options h.staged live held size settled (by simpa using fits)
    | yielded =>
      refine ⟨h.options, h.staged, fun _ => live, ?_, fun _ => settled, h.bound⟩
      intro r' receiving
      exact ⟨g, held, size⟩
    | hangs =>
      refine ⟨h.options, h.staged, fun _ => live, ?_, fun _ => settled, h.bound⟩
      intro r' receiving
      exact ⟨g, held, size⟩
    | failed f => exact finish_paced h.options h.staged live h.bound
    | panicked => exact crash_paced h.options h.staged live h.bound

/-- Every move of the producer loop keeps the bound, whether or not its token has fired. -/
theorem step_paced (pos : 0 < o.pauseWriterThreshold) (h : Paced o p t) (cancelled : Bool) :
    Paced o (step cancelled p c t).1 (step cancelled p c t).2.2.1 := by
  unfold step
  split
  · exact h
  · -- a new turn: reserve a region of the receive buffer size
    rename_i top
    have live := h.live (by simp [isEnded, top])
    have settled := h.settled (by simp [receptive, top])
    simp only [Writer.getMemory, max_self]
    split
    · exact finish_paced h.options h.staged live h.bound
    · refine pollReceive_paced pos ?_ rfl
      refine ⟨h.options, h.staged, fun _ => live, ?_, fun _ => settled, h.bound⟩
      intro r receiving
      exact ⟨_, rfl, by rw [h.options]⟩
  · rename_i r at_
    have live := h.live (by simp [isEnded, at_])
    split
    · exact finish_paced h.options h.staged live h.bound
    · exact pollReceive_paced pos h at_
  · -- a flush in progress is interrupted by the token, or looks at the pipe again
    rename_i fw at_
    have live := h.live (by simp [isEnded, at_])
    split
    · exact finish_paced (by simpa using h.options) h.staged live (by simpa using h.bound)
    · dsimp only
      obtain ⟨-, same, -⟩ := Writer.pollFlush_fields p fw
      refine flushed_paced (by simpa using h.options) h.staged live (by rw [same]; exact h.bound) ?_
      intro v ready completed canceled
      rw [← h.options]
      exact Writer.pollFlush_settles p (h.options ▸ pos) fw ready completed canceled

end ProducerTask

/-! ## Feeds -/

/-- A producer loop writing a pipe whose reader end is driven by any commands. -/
structure Feed where
  pipe : Pipe
  reader : BytePipe.ReaderSlot := .idle {}
  -- the connection the producer receives from
  conn : Connection
  producer : ProducerTask := {}
  -- whether the loop's token has fired
  cancelled : Bool := false

namespace Feed

def start (o : PipeOptions) (conn : Connection) : Feed :=
  { pipe := Pipe.create o, conn }

/-- The reader's side of a feed as a byte pipe session: its writer end belongs to the producer
loop, so the session has none of its own. -/
def readerSide (f : Feed) : BytePipe.Session :=
  { pipe := f.pipe, writer := .gone, reader := f.reader }

/-- What happens next in a feed: a move of the producer loop, a command on the reader's side, or
the loop's token firing. -/
inductive Turn where
  | produce
  | command (c : BytePipe.Command)
  | cancel

def move (f : Feed) : Turn → Feed
  | .produce =>
      let (p, c, t, _) := ProducerTask.step f.cancelled f.pipe f.conn f.producer
      { f with pipe := p, conn := c, producer := t }
  | .command c =>
      let s := (f.readerSide.step c).1
      { f with pipe := s.pipe, reader := s.reader }
  | .cancel => { f with cancelled := true }

def run (f : Feed) : List Turn → Feed
  | [] => f
  | turn :: rest => (f.move turn).run rest

variable {o : PipeOptions} {f : Feed}

theorem Paced.move (pos : 0 < o.pauseWriterThreshold)
    (h : ProducerTask.Paced o f.pipe f.producer) (turn : Turn) :
    ProducerTask.Paced o (f.move turn).pipe (f.move turn).producer := by
  cases turn with
  | produce => exact ProducerTask.step_paced pos h f.cancelled
  | command c => exact h.drain (BytePipe.Session.drains_of_gone rfl c).2
  | cancel => exact h

theorem Paced.run (pos : 0 < o.pauseWriterThreshold)
    (h : ProducerTask.Paced o f.pipe f.producer) (turns : List Turn) :
    ProducerTask.Paced o (f.run turns).pipe (f.run turns).producer := by
  induction turns generalizing f with
  | nil => exact h
  | cons turn rest ih => exact ih (Paced.move pos h turn)

theorem paced_start (o : PipeOptions) (conn : Connection) :
    ProducerTask.Paced o (start o conn).pipe (start o conn).producer where
  options := rfl
  staged := rfl
  live _ := rfl
  room r receiving := by cases receiving
  settled _ := Nat.zero_le _
  bound := Nat.zero_le _

end Feed

/-- Take a byte pipe with a pause threshold above zero, written only by a producer loop from
any connection, with the reader end driven by any commands (reads, consumption of any part or
none, interruptions of the pending read or flush, completion, drop) and the loop's token
firing at any point, in any interleaving. After every run the pipe's unconsumed byte count is
at most `max (pause - 1) resume` plus the receive buffer size. -/
theorem backlog_within_pause_resume_and_buffer (o : PipeOptions)
    (pos : 0 < o.pauseWriterThreshold) (conn : Connection) (turns : List Feed.Turn) :
    ((Feed.start o conn).run turns).pipe.unconsumed ≤
      max (o.pauseWriterThreshold - 1) o.resumeWriterThreshold + o.receiveBufferSize :=
  (Feed.Paced.run pos (Feed.paced_start o conn) turns).bound

/-- A pipe that pauses at two bytes and resumes at one, fed eight bytes through a receive
buffer of four by a reader that reads once and consumes one byte: the backlog stays within
one plus four. -/
theorem backlog_of_slow_reader :
    0 < ({ receiveBufferSize := 4, pauseWriterThreshold := 2, resumeWriterThreshold := 1 } :
      PipeOptions).pauseWriterThreshold ∧
    ((Feed.start { receiveBufferSize := 4, pauseWriterThreshold := 2, resumeWriterThreshold := 1 }
        { chunks := [.data [1, 2, 3, 4, 5, 6, 7, 8]] }).run
      [.produce, .command .read, .command (.advanceTo 1 4), .produce, .produce]).pipe.unconsumed ≤
      max (2 - 1) 1 + 4 :=
  ⟨by decide, backlog_within_pause_resume_and_buffer _ (by decide) _ _⟩

end Sluice
