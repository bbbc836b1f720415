import Mathlib
import Sluice.Pipe.Session
import Sluice.Proofs.Pipe.Stream
/-!
# The backlog counter of a byte pipe

Beside its bytes, a byte pipe keeps a counter of the bytes published and not yet consumed
(`Pipe.unconsumed`). The backpressure test of a flush reads only this counter, and `advanceTo`
lowers it by the bytes it consumes, so the counter has to follow the bytes it stands for on
every path: the writer's publication, the reader's consumption, and both completions.

`Pipe.Tallies p buffered closed` says that it does, against a reader whose buffer is
`buffered` and whose completion flag is `closed`: the counter is the published bytes still in
the pipe plus the reader's buffer, both are empty once the reader has completed, and the pipe
knows whether it has. The writer's operations keep this against any reader
(`Pipe.KeepsTally`); each of the reader's operations keeps it against the reader it leaves
(`Reader.Fits`), which also has examined no more bytes than it holds.

Over a session of both ends the two parts make `Session.Tally`, which every command keeps
(`Session.Tally.step`). Hence, after any script, the counter that a flush compares with its
thresholds is exactly the published-but-unconsumed byte count, and the subtraction of an
accepted `advanceTo` is exact (`unconsumed_counts_published_and_buffered`).
-/

namespace Sluice

namespace Pipe

/-- How the pipe's counter stands against the reader's own state: its buffer `buffered` and
whether it has completed (`closed`). -/
structure Tallies (p : Pipe) (buffered : Bytes) (closed : Bool) : Prop where
  count : p.unconsumed = p.published.length + buffered.length
  empty : p.readerDone = true → p.published = [] ∧ buffered = []
  readerDone : p.readerDone = closed

/-- A change of the pipe that keeps its counter against any state of the reader. -/
def KeepsTally (p p' : Pipe) : Prop :=
  ∀ buffered closed, p.Tallies buffered closed → p'.Tallies buffered closed

namespace KeepsTally

theorem refl (p : Pipe) : p.KeepsTally p := fun _ _ => id

theorem trans {p q r : Pipe} (first : p.KeepsTally q) (second : q.KeepsTally r) :
    p.KeepsTally r :=
  fun buffered closed h => second buffered closed (first buffered closed h)

theorem of_fields {p p' : Pipe} (unconsumed : p'.unconsumed = p.unconsumed)
    (published : p'.published = p.published) (readerDone : p'.readerDone = p.readerDone) :
    p.KeepsTally p' := by
  intro buffered closed h
  refine ⟨?_, ?_, ?_⟩
  · rw [unconsumed, published]
    exact h.count
  · rw [readerDone, published]
    exact h.empty
  · rw [readerDone]
    exact h.readerDone

theorem notifyRead (p : Pipe) : p.KeepsTally p.notifyRead :=
  of_fields (by simp) (by simp) (by simp)

theorem notifyWrite (p : Pipe) : p.KeepsTally p.notifyWrite :=
  of_fields (by simp) (by simp) (by simp)

theorem cancelRead (p : Pipe) : p.KeepsTally p.cancelRead := by
  have marked : p.KeepsTally { p with readCancel := true } := of_fields rfl rfl rfl
  exact marked.trans (notifyRead _)

theorem cancelFlush (p : Pipe) : p.KeepsTally p.cancelFlush := by
  have marked : p.KeepsTally { p with flushCancel := true } := of_fields rfl rfl rfl
  exact marked.trans (notifyWrite _)

theorem dropFlush (p : Pipe) : p.KeepsTally p.dropFlush :=
  of_fields rfl rfl rfl

theorem dropRead (p : Pipe) : p.KeepsTally p.dropRead :=
  of_fields rfl rfl rfl

end KeepsTally

end Pipe

namespace Writer

variable (p : Pipe) (w : Writer)

/-- Publishing raises the counter by exactly the bytes it appends to the published ones, and
appends none once the reader has completed. -/
theorem publish_keepsTally : p.KeepsTally (publish p w).1 := by
  intro buffered closed h
  unfold publish
  dsimp only
  split_ifs with done
  · exact h
  · exact h
  · -- the reader is open: the staged bytes join both the published bytes and the counter
    refine Pipe.KeepsTally.notifyRead _ _ _ ⟨?_, ?_, h.readerDone⟩
    · simp only [List.length_append, h.count]
      omega
    · intro done'
      exact absurd done' done

theorem flushCheck_keepsTally (paused : Bool) : p.KeepsTally (flushCheck p paused).1 := by
  obtain ⟨published, unconsumed, -, -, readerDone, -, -⟩ := flushCheck_fields p paused
  exact .of_fields unconsumed published readerDone

theorem flush_keepsTally : p.KeepsTally (flush p w).1 := by
  unfold flush
  split
  · exact .refl p
  · dsimp only
    split
    · exact publish_keepsTally p w
    · exact (publish_keepsTally p w).trans (flushCheck_keepsTally _ false)

theorem pollFlush_keepsTally (fw : FlushWait) : p.KeepsTally (pollFlush p fw).1 := by
  obtain ⟨published, unconsumed, -, -, readerDone, -, -⟩ := pollFlush_fields p fw
  exact .of_fields unconsumed published readerDone

theorem complete_keepsTally (fault : Option Fault) : p.KeepsTally (complete p w fault).1 := by
  unfold complete
  split
  · exact .refl p
  · have published := publish_keepsTally p w
    generalize publish p w = q at published ⊢
    obtain ⟨p₁, w₁, gone⟩ := q
    have marked : p₁.KeepsTally { p₁ with writerDone := true, writerFault := fault } :=
      .of_fields rfl rfl rfl
    exact published.trans (marked.trans (.notifyRead _))

end Writer

namespace Reader

/-- A reader against the pipe's counter: the pipe tallies its buffer and completion, and it
has examined no more bytes than it holds. -/
structure Fits (r : Reader) (p : Pipe) : Prop where
  tallies : p.Tallies r.buffered r.completed
  examined : r.examined ≤ r.buffered.length

variable {p : Pipe} {r : Reader}

theorem Fits.closed (h : r.Fits p) (done : r.completed = true) : p.Tallies [] true := by
  have readerDone : p.readerDone = true := h.tallies.readerDone.trans done
  obtain ⟨published, buffered⟩ := h.tallies.empty readerDone
  exact ⟨by rw [h.tallies.count, buffered], fun _ => ⟨published, rfl⟩, readerDone⟩

/-- The read test moves the published bytes into the buffer: the counter stays, and what they
add to the buffer they take from the pipe. -/
theorem readCheck_fits (h : r.Fits p) : (readCheck p r).2.1.Fits (readCheck p r).1 := by
  rcases readCheck_spec p r with ⟨e, -, same, pipe, -⟩ |
      ⟨-, moved, published, -, readerDone, -, -, unconsumed, -, -⟩
  · rw [same, pipe]
    have kept : p.KeepsTally { p with readListener := .absent } := .of_fields rfl rfl rfl
    exact ⟨kept _ _ h.tallies, h.examined⟩
  · rw [moved]
    refine ⟨⟨?_, ?_, ?_⟩, ?_⟩
    · simp only [unconsumed, published, h.tallies.count, List.length_append, List.length_nil]
      omega
    · intro done
      obtain ⟨none₁, none₂⟩ := h.tallies.empty (readerDone ▸ done)
      exact ⟨published, by simp [none₁, none₂]⟩
    · exact readerDone.trans h.tallies.readerDone
    · simp only [List.length_append]
      exact le_add_right h.examined

theorem read_fits (h : r.Fits p) : (read p r).2.1.Fits (read p r).1 := by
  unfold read
  split
  · exact h
  · exact readCheck_fits h

theorem pollRead_fits (h : r.Fits p) : (pollRead p r).2.1.Fits (pollRead p r).1 := by
  rcases pollRead_cases p r with tested | waiting
  · rw [tested]
    exact readCheck_fits h
  · rw [waiting]
    exact h

theorem advanceTo_unconsumed {c e : Nat} (valid : c ≤ e ∧ e ≤ r.buffered.length) :
    (advanceTo p r c e).1.unconsumed = p.unconsumed - c := by
  have accepted : ¬ (c > e || e > r.buffered.length) = true := by simp; omega
  unfold advanceTo
  rw [if_neg accepted]
  by_cases some_ : c > 0
  · simp [some_]
  · simp [Nat.eq_zero_of_not_pos some_]

/-- An advance drops the consumed prefix from the buffer and its length from the counter; a
refused one changes nothing. -/
theorem advanceTo_fits (h : r.Fits p) (c e : Nat) :
    (advanceTo p r c e).2.1.Fits (advanceTo p r c e).1 := by
  by_cases valid : c ≤ e ∧ e ≤ r.buffered.length
  · obtain ⟨reader, -, published, readerDone, -, -, -, -⟩ := advanceTo_ok p r valid
    rw [reader]
    refine ⟨⟨?_, ?_, ?_⟩, ?_⟩
    · rw [advanceTo_unconsumed valid, published, h.tallies.count, List.length_drop]
      omega
    · intro done
      obtain ⟨none₁, none₂⟩ := h.tallies.empty (readerDone ▸ done)
      exact ⟨published.trans none₁, by simp [none₂]⟩
    · exact readerDone.trans h.tallies.readerDone
    · simp only [List.length_drop]
      omega
  · obtain ⟨pipe, same, -⟩ := advanceTo_error p r valid
    rw [pipe, same]
    exact h

/-- Completing the reader empties both the pipe and the buffer, and zeroes the counter. -/
theorem complete_fits (h : r.Fits p) : (complete p r).2.Fits (complete p r).1 := by
  unfold complete
  split
  · exact h
  · refine ⟨Pipe.KeepsTally.notifyWrite _ _ _ ⟨rfl, fun _ => ⟨rfl, rfl⟩, rfl⟩, le_refl 0⟩

end Reader

namespace BytePipe

namespace ReaderSlot

def buffered (slot : ReaderSlot) : Bytes :=
  (slot.held.map Reader.buffered).getD []

def closed (slot : ReaderSlot) : Bool :=
  (slot.held.map Reader.completed).getD true

end ReaderSlot

namespace Session

/-- The pipe's counter against the reader end, and a held reader examining no more bytes than
it holds. -/
structure Tally (s : Session) : Prop where
  tallies : s.pipe.Tallies s.reader.buffered s.reader.closed
  examined : ∀ r, s.reader.held = some r → r.examined ≤ r.buffered.length

variable {s t : Session}

theorem Tally.fits (h : s.Tally) {r : Reader} (held : s.reader.held = some r) : r.Fits s.pipe := by
  have tallies := h.tallies
  simp only [ReaderSlot.buffered, ReaderSlot.closed, held, Option.map_some,
    Option.getD_some] at tallies
  exact ⟨tallies, h.examined r held⟩

theorem tally_of_fits {r : Reader} (held : t.reader.held = some r) (h : r.Fits t.pipe) :
    t.Tally where
  tallies := by
    simp only [ReaderSlot.buffered, ReaderSlot.closed, held, Option.map_some, Option.getD_some]
    exact h.tallies
  examined r' held' := by
    rw [held, Option.some.injEq] at held'
    exact held' ▸ h.examined

theorem tally_of_gone (gone : t.reader = .gone) (h : t.pipe.Tallies [] true) : t.Tally where
  tallies := by simpa [ReaderSlot.buffered, ReaderSlot.closed, gone, ReaderSlot.held] using h
  examined r held := by simp [gone, ReaderSlot.held] at held

theorem Tally.writer (h : s.Tally) (reader : t.reader = s.reader)
    (keeps : s.pipe.KeepsTally t.pipe) : t.Tally where
  tallies := reader ▸ keeps _ _ h.tallies
  examined := reader ▸ h.examined

theorem Tally.same (h : s.Tally) (reader : t.reader = s.reader) (pipe : t.pipe = s.pipe) :
    t.Tally :=
  h.writer reader (pipe ▸ .refl _)

/-- Dropping the reader completes it, whatever it was doing; the pipe then tallies a reader that
holds nothing. -/
theorem Tally.dropped (h : s.Tally) {r : Reader} (held : s.reader.held = some r) {p : Pipe}
    (keeps : s.pipe.KeepsTally p) (gone : t.reader = .gone)
    (pipe : t.pipe = (r.complete p).1) : t.Tally := by
  have fits : (r.complete p).2.Fits (r.complete p).1 :=
    Reader.complete_fits ⟨keeps _ _ (h.fits held).tallies, (h.fits held).examined⟩
  exact tally_of_gone gone (pipe ▸ fits.closed (Reader.complete_completed p r))

/-- Every command keeps the tally: one of the writer's side by what its operation does to the
pipe, one of the reader's side by what its operation does to the reader. -/
theorem Tally.step (h : s.Tally) (c : Command) : (s.step c).1.Tally := by
  cases c
  -- the writer's side: the reader end stays, and the pipe changes as the writer may change it
  case completeWriter fault =>
    cases hw : s.writer
    case idle w =>
      exact h.writer (by simp [Session.step, withWriter, hw])
        (by simpa [Session.step, withWriter, hw] using Writer.complete_keepsTally s.pipe w fault)
    all_goals refine h.same ?_ ?_ <;> simp [Session.step, withWriter, hw]
  case flush =>
    cases hw : s.writer
    case idle w =>
      exact h.writer (by simp [Session.step, withWriter, hw])
        (by simpa [Session.step, withWriter, hw] using Writer.flush_keepsTally s.pipe w)
    all_goals refine h.same ?_ ?_ <;> simp [Session.step, withWriter, hw]
  case pollFlush =>
    cases hw : s.writer
    case flushing w fw =>
      exact h.writer (by simp [Session.step, hw])
        (by simpa [Session.step, hw] using Writer.pollFlush_keepsTally s.pipe fw)
    all_goals refine h.same ?_ ?_ <;> simp [Session.step, hw]
  case dropWriter =>
    cases hw : s.writer
    case idle w =>
      exact h.writer (by simp [Session.step, hw])
        (by simpa [Session.step, hw] using Writer.complete_keepsTally s.pipe w none)
    case flushing w fw =>
      exact h.writer (by simp [Session.step, hw])
        (by simpa [Session.step, hw] using
          (Pipe.KeepsTally.dropFlush s.pipe).trans (Writer.complete_keepsTally _ w none))
    case gone => refine h.same ?_ ?_ <;> simp [Session.step, hw]
  case cancelRead => exact h.writer rfl (.cancelRead s.pipe)
  case cancelFlush => exact h.writer rfl (.cancelFlush s.pipe)
  case abandonFlush =>
    cases hw : s.writer
    case flushing w fw =>
      exact h.writer (by simp [Session.step, hw])
        (by simpa [Session.step, hw] using Pipe.KeepsTally.dropFlush s.pipe)
    all_goals refine h.same ?_ ?_ <;> simp [Session.step, hw]
  -- the reader's side: the reader it leaves fits the pipe it leaves
  case read =>
    cases hr : s.reader
    case idle r =>
      have fits := Reader.read_fits (h.fits (r := r) (by simp [ReaderSlot.held, hr]))
      exact tally_of_fits (r := (r.read s.pipe).2.1) (by simp [Session.step, withReader, hr])
        (by simpa [Session.step, withReader, hr] using fits)
    all_goals refine h.same ?_ ?_ <;> simp [Session.step, withReader, hr]
  case pollRead =>
    cases hr : s.reader
    case reading r =>
      have fits := Reader.pollRead_fits (h.fits (r := r) (by simp [ReaderSlot.held, hr]))
      exact tally_of_fits (r := (Reader.pollRead s.pipe r).2.1) (by simp [Session.step, hr])
        (by simpa [Session.step, hr] using fits)
    all_goals refine h.same ?_ ?_ <;> simp [Session.step, hr]
  case advanceTo c e =>
    cases hr : s.reader
    case idle r =>
      have fits := Reader.advanceTo_fits (h.fits (r := r) (by simp [ReaderSlot.held, hr])) c e
      exact tally_of_fits (r := (r.advanceTo s.pipe c e).2.1)
        (by simp [Session.step, withReader, hr, ReaderSlot.held])
        (by simpa [Session.step, withReader, hr] using fits)
    all_goals refine h.same ?_ ?_ <;> simp [Session.step, withReader, hr]
  case completeReader =>
    cases hr : s.reader
    case idle r =>
      have fits := Reader.complete_fits (h.fits (r := r) (by simp [ReaderSlot.held, hr]))
      exact tally_of_fits (r := (r.complete s.pipe).2)
        (by simp [Session.step, withReader, hr, ReaderSlot.held])
        (by simpa [Session.step, withReader, hr] using fits)
    all_goals refine h.same ?_ ?_ <;> simp [Session.step, withReader, hr]
  case dropReader =>
    cases hr : s.reader
    case idle r =>
      exact h.dropped (r := r) (by simp [ReaderSlot.held, hr]) (.refl _)
        (by simp [Session.step, hr]) (by simp [Session.step, hr])
    case reading r =>
      exact h.dropped (r := r) (by simp [ReaderSlot.held, hr]) (.dropRead _)
        (by simp [Session.step, hr]) (by simp [Session.step, hr])
    case gone => refine h.same ?_ ?_ <;> simp [Session.step, hr]
  case abandonRead =>
    cases hr : s.reader
    case reading r =>
      -- the reader keeps its state, and the pipe forgets the read
      have fits := h.fits (r := r) (by simp [ReaderSlot.held, hr])
      exact tally_of_fits (r := r) (by simp [Session.step, hr, ReaderSlot.held])
        (by simpa [Session.step, hr] using
          (⟨Pipe.KeepsTally.dropRead _ _ _ fits.tallies, fits.examined⟩ : r.Fits s.pipe.dropRead))
    all_goals refine h.same ?_ ?_ <;> simp [Session.step, hr]
  -- the rest change only the writer's own state, or nothing
  all_goals
    cases hw : s.writer <;> cases hr : s.reader <;>
      refine h.same ?_ ?_ <;> simp [Session.step, withWriter, withReader, hw, hr]

theorem Tally.run (h : s.Tally) (cmds : List Command) : (s.run cmds).Tally := by
  induction cmds generalizing s with
  | nil => exact h
  | cons c rest ih => exact ih (h.step c)

theorem tally_create (o : PipeOptions) : (create o).Tally :=
  tally_of_fits (r := {}) rfl ⟨⟨rfl, fun _ => ⟨rfl, rfl⟩, rfl⟩, le_refl 0⟩

end Session

/-- For every script of commands on the two ends of a new byte pipe, with any options (writes,
reservations, flushes, completions of either end with or without a fault, drops, reads,
advances and interruptions, in any order), the pipe's count of unconsumed bytes is the
published bytes still in the pipe plus the reader's buffer, both empty once the reader has
completed (dropping it completes it); a held reader has examined no more than it holds. So an
accepted `advanceTo` lowers the counter by exactly the consumed bytes, and the counter that a
flush's backpressure test reads, after the flush has published what the writer staged, is the
published-but-unconsumed byte count. -/
theorem unconsumed_counts_published_and_buffered (o : PipeOptions) (cmds : List Command) :
    let s := (Session.create o).run cmds
    s.pipe.unconsumed = s.pipe.published.length + s.reader.buffered.length ∧
      (s.reader.closed = true →
        s.pipe.published = [] ∧ s.reader.buffered = [] ∧ s.pipe.unconsumed = 0) ∧
      (∀ r, s.reader.held = some r → r.examined ≤ r.buffered.length) ∧
      (∀ r c e, s.reader.held = some r → c ≤ e → e ≤ r.buffered.length →
        (Reader.advanceTo s.pipe r c e).1.unconsumed + c = s.pipe.unconsumed) ∧
      (∀ w, s.writer.held = some w →
        (Writer.publish s.pipe w).1.unconsumed =
          (Writer.publish s.pipe w).1.published.length + s.reader.buffered.length) := by
  intro s
  have h : s.Tally := (Session.tally_create o).run cmds
  refine ⟨h.tallies.count, ?_, h.examined, ?_, ?_⟩
  · intro closed
    obtain ⟨published, buffered⟩ := h.tallies.empty (h.tallies.readerDone.trans closed)
    refine ⟨published, buffered, ?_⟩
    rw [h.tallies.count, published, buffered]
    rfl
  · -- the consumed bytes sit in the buffer, which the counter includes
    intro r c e held ce within
    have fits := h.fits held
    rw [Reader.advanceTo_unconsumed ⟨ce, within⟩, fits.tallies.count]
    omega
  · intro w _
    exact (Writer.publish_keepsTally s.pipe w _ _ h.tallies).count

end BytePipe

end Sluice
