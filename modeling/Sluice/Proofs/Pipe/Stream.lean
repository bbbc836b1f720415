import Mathlib
import Sluice.Pipe.Session
import Sluice.Proofs.Pipe.Ops
/-!
# A byte pipe is a first-in-first-out byte stream

Whatever the two ends of a byte pipe do, in any order, the reader sees the bytes the writer
committed, in the order it committed them, without loss or repetition, as long as the reader
has not completed.

Three streams grow along a script of commands on the two ends, and this module gathers each
from the commands themselves:

* the committed stream: each write's data, and for each advance within the reservation, the
  first bytes of the region the last `getMemory` handed out (`Session.commits`);
* the published stream: what a flush or the completion of the writer hands to the pipe
  (`Session.publishes`);
* the consumed stream: the prefix of the reader's buffer that each accepted `advanceTo`
  frees (`Session.consumes`).

`Session.Ledger` ties them to the state: the consumed stream, then the reader's buffer, then
the published bytes not yet read, make up the published stream; behind it the writer keeps
the rest of the committed stream. Every command keeps the ledger (`Ledger.step`), so every
script does (`ledger_run`). A read offers the reader's buffer with the published bytes behind
it, which is then the published stream less its consumed prefix.

* `WriterSlot.held`, `ReaderSlot.held`, `Session.run`, `Session.ReaderOpen`, `Session.unread`.
* `Session.commits`, `Session.publishes`, `Session.consumes`, `Session.gather`.
* `Session.Ledger`, `Ledger.step`, `ledger_run`.
* `byte_pipe_delivers_committed_bytes_in_order`.
-/

namespace Sluice

namespace BytePipe

def WriterSlot.held : WriterSlot → Option Writer
  | .idle w => some w
  | .flushing w _ => some w
  | .gone => none

def ReaderSlot.held : ReaderSlot → Option Reader
  | .idle r => some r
  | .reading r => some r
  | .gone => none

namespace Session

@[simp] theorem afterFlush_held {α : Type} (w : Writer) (fw : FlushWait) (p : Poll α) :
    (afterFlush w fw p).held = some w := by
  cases p <;> rfl

@[simp] theorem afterRead_held {α : Type} (r : Reader) (p : Poll α) :
    (afterRead r p).held = some r := by
  cases p <;> rfl

def run (s : Session) : List Command → Session
  | [] => s
  | c :: cs => (s.step c).1.run cs

def ReaderOpen (s : Session) : Prop :=
  ∃ r, s.reader.held = some r ∧ r.completed = false

/-- The bytes on the reader's side: its buffer, then the published bytes it has not moved in. -/
def unread (s : Session) : Bytes :=
  (s.reader.held.map Reader.buffered).getD [] ++ s.pipe.published

/-- The bytes a command commits to the writer's stream: a write's data unless the writer has
completed, and for an advance within the reservation the first bytes of the region the last
`getMemory` handed out. -/
def commits (s : Session) : Command → Bytes
  | .write data =>
      match s.writer with
      | .idle w => if w.completed then [] else data
      | _ => []
  | .advance n =>
      match s.writer with
      | .idle w => w.advanced n
      | _ => []
  | _ => []

/-- What handing a writer's bytes to the pipe publishes: everything it committed and has not
published, unless it has completed or the reader has. -/
def handOver (s : Session) (w : Writer) : Bytes :=
  if w.completed || s.pipe.readerDone then [] else w.staged

/-- The bytes a command publishes: a flush, a completion of the writer, and the drop of the
writer, which completes it. -/
def publishes (s : Session) : Command → Bytes
  | .flush =>
      match s.writer with
      | .idle w => s.handOver w
      | _ => []
  | .completeWriter _ =>
      match s.writer with
      | .idle w => s.handOver w
      | _ => []
  | .dropWriter => (s.writer.held.map s.handOver).getD []
  | _ => []

/-- The bytes a command consumes: an accepted `advanceTo consumed examined` frees the first
`consumed` bytes of the reader's buffer. -/
def consumes (s : Session) : Command → Bytes
  | .advanceTo c e =>
      match s.reader with
      | .idle r => if c ≤ e ∧ e ≤ r.buffered.length then r.buffered.take c else []
      | _ => []
  | _ => []

def gather (f : Session → Command → Bytes) : Session → List Command → Bytes
  | _, [] => []
  | s, c :: cs => f s c ++ gather f (s.step c).1 cs

theorem run_append (s : Session) (cmds more : List Command) :
    s.run (cmds ++ more) = (s.run cmds).run more := by
  induction cmds generalizing s with
  | nil => rfl
  | cons c rest ih => exact ih (s.step c).1

/-- How a session's bytes stand against the consumed (`C`), published (`P`) and committed
(`K`) streams of the script that led to it. -/
structure Ledger (s : Session) (C P K : Bytes) : Prop where
  -- the consumed stream, then the reader's side, make up the published stream
  reader : C ++ s.unread = P
  -- behind the published stream the writer keeps the rest of the committed stream
  writer : ∀ w, s.writer.held = some w → P ++ w.staged = K
  -- the published stream is where the committed stream starts
  published_committed : P <+: K
  open_ : s.pipe.readerDone = false

section Sides

variable {s t : Session} {C P K : Bytes}

/-- A command on the writer's side leaves the reader's slot, lets the published bytes grow by
what it publishes (`X`), and keeps the committed stream (grown by `Y`) behind them. -/
theorem Ledger.writerSide {X Y : Bytes} (h : s.Ledger C P K) (reader : t.reader = s.reader)
    (published : t.pipe.published = s.pipe.published ++ X)
    (open_ : t.pipe.readerDone = false)
    (writer : ∀ w', t.writer.held = some w' → P ++ X ++ w'.staged = K ++ Y)
    (committed : P ++ X <+: K ++ Y) : t.Ledger C (P ++ X) (K ++ Y) where
  reader := by
    rw [← h.reader]
    simp [unread, reader, published]
  writer := writer
  published_committed := committed
  open_ := open_

/-- A command on the reader's side leaves the writer's slot and frees `Z` from the front of the
reader's side. -/
theorem Ledger.readerSide {Z : Bytes} (h : s.Ledger C P K) (writer : t.writer = s.writer)
    (unread : Z ++ t.unread = s.unread) (open_ : t.pipe.readerDone = false) :
    t.Ledger (C ++ Z) P K where
  reader := by rw [← h.reader, ← unread, List.append_assoc]
  writer := by rw [writer]; exact h.writer
  published_committed := h.published_committed
  open_ := open_

theorem Ledger.writerStill (h : s.Ledger C P K) (reader : t.reader = s.reader)
    (pipe : t.pipe.published = s.pipe.published) (open_ : t.pipe.readerDone = false)
    (staged : ∀ w', t.writer.held = some w' → ∃ w, s.writer.held = some w ∧ w'.staged = w.staged) :
    t.Ledger C P K := by
  have kept := h.writerSide (X := []) (Y := []) reader (by simpa using pipe) open_ ?_
    (by simpa using h.published_committed)
  · simpa using kept
  · intro w' held'
    obtain ⟨w, held, same⟩ := staged w' held'
    simpa [same] using h.writer w held

/-- A live writer handing its bytes over: the pipe publishes everything it staged and the writer
keeps nothing, so the published stream grows by `handOver` and the committed one stays. -/
theorem Ledger.handOver {w : Writer} (h : s.Ledger C P K) (held : s.writer.held = some w)
    (live : w.completed = false) (reader : t.reader = s.reader)
    (published : t.pipe.published = s.pipe.published ++ w.staged)
    (open_ : t.pipe.readerDone = false)
    (emptied : ∀ w', t.writer.held = some w' → w'.staged = []) :
    t.Ledger C (P ++ s.handOver w) K := by
  have kept := h.writerSide (Y := []) reader published open_
    (fun w' held' => by simp [emptied w' held', h.writer w held])
    (by simp [h.writer w held])
  simpa [Session.handOver, live, h.open_] using kept

end Sides

theorem readCheck_ledger {s : Session} {C P K : Bytes} {r : Reader} (h : s.Ledger C P K)
    (held : s.reader.held = some r) :
    ({ s with
        pipe := (Reader.readCheck s.pipe r).1
        reader := afterRead (Reader.readCheck s.pipe r).2.1 (Reader.readCheck s.pipe r).2.2 } :
      Session).Ledger C P K := by
  have kept := h.readerSide (Z := [])
    (t := { s with
      pipe := (Reader.readCheck s.pipe r).1
      reader := afterRead (Reader.readCheck s.pipe r).2.1 (Reader.readCheck s.pipe r).2.2 })
    rfl ?_ ?_
  · simpa using kept
  · rcases Reader.readCheck_spec s.pipe r with ⟨e, -, same, pipe, -⟩ |
        ⟨-, moved, published, -, -, -, -, -, -, -⟩
    · simp [unread, held, same, pipe]
    · simp [unread, held, moved, published]
  · rcases Reader.readCheck_spec s.pipe r with ⟨e, -, -, pipe, -⟩ | ⟨-, -, -, -, done, -⟩
    · rw [pipe]
      exact h.open_
    · rw [done]
      exact h.open_

/-- Every command keeps the ledger while the reader stays open, the three streams growing by
what the command consumes, publishes and commits. -/
theorem ledger_step {s : Session} {C P K : Bytes} {c : Command} (h : s.Ledger C P K)
    (open_ : (s.step c).1.ReaderOpen) :
    (s.step c).1.Ledger (C ++ s.consumes c) (P ++ s.publishes c) (K ++ s.commits c) := by
  obtain ⟨r', held', live'⟩ := open_
  cases c with
  | getMemory hint fill =>
    simp only [consumes, publishes, commits, List.append_nil]
    cases hw : s.writer with
    | idle w =>
      have e : (s.step (.getMemory hint fill)).1 =
          { s with writer := .idle (w.getMemory s.pipe hint fill).1 } := by
        simp [step, withWriter, hw]
      rw [e]
      refine h.writerStill rfl rfl h.open_ ?_
      intro w' held
      simp only [WriterSlot.held, Option.some.injEq] at held
      exact ⟨w, by simp [WriterSlot.held, hw], by rw [← held]; rfl⟩
    | flushing w fw => simpa [step, withWriter, hw] using h
    | gone => simpa [step, withWriter, hw] using h
  | advance n =>
    simp only [consumes, publishes, List.append_nil]
    cases hw : s.writer with
    | idle w =>
      have e : (s.step (.advance n)).1 = { s with writer := .idle (w.advance n).1 } := by
        simp [step, withWriter, hw]
      have committed : s.commits (.advance n) = w.advanced n := by simp [commits, hw]
      rw [e, committed]
      have kept := h.writerSide (X := []) (Y := w.advanced n)
        (t := { s with writer := .idle (w.advance n).1 }) rfl (by simp) h.open_ ?_ ?_
      · simpa using kept
      · intro w' held
        simp only [WriterSlot.held, Option.some.injEq] at held
        rw [← held, (Writer.advance_staged w n).1, List.append_nil, ← List.append_assoc,
          h.writer w (by simp [WriterSlot.held, hw])]
      · simpa using h.published_committed.trans (List.prefix_append K _)
    | flushing w fw => simpa [step, withWriter, hw, commits] using h
    | gone => simpa [step, withWriter, hw, commits] using h
  | write data =>
    simp only [consumes, publishes, List.append_nil]
    cases hw : s.writer with
    | idle w =>
      have e : (s.step (.write data)).1 = { s with writer := .idle (w.write data).1 } := by
        simp [step, withWriter, hw]
      have committed : s.commits (.write data) = if w.completed then [] else data := by
        simp [commits, hw]
      rw [e, committed]
      have kept := h.writerSide (X := []) (Y := if w.completed then [] else data)
        (t := { s with writer := .idle (w.write data).1 }) rfl (by simp) h.open_ ?_ ?_
      · simpa using kept
      · intro w' held
        simp only [WriterSlot.held, Option.some.injEq] at held
        rw [← held, (Writer.write_staged w data).1, List.append_nil, ← List.append_assoc,
          h.writer w (by simp [WriterSlot.held, hw])]
      · simpa using h.published_committed.trans (List.prefix_append K _)
    | flushing w fw => simpa [step, withWriter, hw, commits] using h
    | gone => simpa [step, withWriter, hw, commits] using h
  | unflushed =>
    have e : (s.step .unflushed).1 = s := by cases hw : s.writer <;> simp [step, withWriter, hw]
    simpa [e, consumes, publishes, commits] using h
  | writerCompleted =>
    have e : (s.step .writerCompleted).1 = s := by
      cases hw : s.writer <;> simp [step, withWriter, hw]
    simpa [e, consumes, publishes, commits] using h
  | options =>
    have e : (s.step .options).1 = s := by cases hw : s.writer <;> simp [step, withWriter, hw]
    simpa [e, consumes, publishes, commits] using h
  | completeWriter fault =>
    simp only [consumes, commits, List.append_nil]
    cases hw : s.writer with
    | idle w =>
      have e : (s.step (.completeWriter fault)).1 =
          { s with
            pipe := (w.complete s.pipe fault).1
            writer := .idle (w.complete s.pipe fault).2 } := by
        simp [step, withWriter, hw]
      have handed : s.publishes (.completeWriter fault) = s.handOver w := by
        simp [publishes, hw]
      rw [e, handed]
      cases done : w.completed
      · -- a live writer publishes everything it staged
        obtain ⟨writer, published, open_, -, -⟩ := Writer.complete_of_open s.pipe w h.open_ done fault
        refine h.handOver (by simp [WriterSlot.held, hw]) done rfl published open_ fun w' held => ?_
        simp only [WriterSlot.held, Option.some.injEq] at held
        rw [← held, writer]
      · -- a completed writer's completion changes nothing
        rw [Writer.complete_of_completed s.pipe w done fault]
        simpa [handOver, done, ← hw] using h
    | flushing w fw => simpa [step, withWriter, hw, publishes] using h
    | gone => simpa [step, withWriter, hw, publishes] using h
  | flush =>
    simp only [consumes, commits, List.append_nil]
    cases hw : s.writer with
    | idle w =>
      have handed : s.publishes .flush = s.handOver w := by simp [publishes, hw]
      rw [handed]
      cases done : w.completed
      · obtain ⟨writer, published, open_, -, -⟩ := Writer.flush_spec s.pipe w h.open_ done
        have e : (s.step .flush).1 =
            { s with
              pipe := (w.flush s.pipe).1
              writer := afterFlush (w.flush s.pipe).2.1 (w.flush s.pipe).2.2.2
                (w.flush s.pipe).2.2.1 } := by
          simp [step, withWriter, hw]
        rw [e]
        refine h.handOver (by simp [WriterSlot.held, hw]) done rfl published open_ fun w' held => ?_
        simp only [afterFlush_held, Option.some.injEq] at held
        rw [← held, writer]
      · -- a completed writer cannot flush
        have e : (s.step .flush).1 = s := by
          cases s
          simp_all [step, withWriter, Writer.flush_of_completed, afterFlush]
        simpa [e, handOver, done] using h
    | flushing w fw => simpa [step, withWriter, hw, publishes] using h
    | gone => simpa [step, withWriter, hw, publishes] using h
  | pollFlush =>
    simp only [consumes, publishes, commits, List.append_nil]
    cases hw : s.writer with
    | flushing w fw =>
      obtain ⟨published, -, -, -, open_, -, -⟩ := Writer.pollFlush_fields s.pipe fw
      have e : (s.step .pollFlush).1 =
          { s with
            pipe := (Writer.pollFlush s.pipe fw).1
            writer := afterFlush w (Writer.pollFlush s.pipe fw).2.2
              (Writer.pollFlush s.pipe fw).2.1 } := by
        simp [step, hw]
      rw [e]
      refine h.writerStill rfl published (open_.trans h.open_) ?_
      intro w' held
      simp only [afterFlush_held, Option.some.injEq] at held
      exact ⟨w, by simp [WriterSlot.held, hw], by rw [held]⟩
    | idle w => simpa [step, hw] using h
    | gone => simpa [step, hw] using h
  | dropWriter =>
    simp only [consumes, commits, List.append_nil]
    cases hw : s.writer with
    | idle w =>
      have handed : s.publishes .dropWriter = s.handOver w := by
        simp [publishes, hw, WriterSlot.held]
      have e : (s.step .dropWriter).1 =
          { s with pipe := (w.complete s.pipe none).1, writer := .gone } := by
        simp [step, hw]
      rw [handed, e]
      cases done : w.completed
      · obtain ⟨-, published, open_, -, -⟩ := Writer.complete_of_open s.pipe w h.open_ done none
        exact h.handOver (by simp [WriterSlot.held, hw]) done rfl published open_
          (by simp [WriterSlot.held])
      · rw [Writer.complete_of_completed s.pipe w done none]
        have kept := h.writerSide (X := []) (Y := []) (t := { s with writer := .gone }) rfl
          (by simp) h.open_ (by simp [WriterSlot.held]) (by simpa using h.published_committed)
        simpa [handOver, done] using kept
    | flushing w fw =>
      have handed : s.publishes .dropWriter = s.handOver w := by
        simp [publishes, hw, WriterSlot.held]
      have e : (s.step .dropWriter).1 =
          { s with pipe := (w.complete s.pipe.dropFlush none).1, writer := .gone } := by
        simp [step, hw]
      rw [handed, e]
      have dropped : s.pipe.dropFlush.readerDone = false := h.open_
      cases done : w.completed
      · obtain ⟨-, published, open_, -, -⟩ :=
          Writer.complete_of_open s.pipe.dropFlush w dropped done none
        exact h.handOver (by simp [WriterSlot.held, hw]) done rfl published open_
          (by simp [WriterSlot.held])
      · rw [Writer.complete_of_completed s.pipe.dropFlush w done none]
        have kept := h.writerSide (X := []) (Y := [])
          (t := { s with pipe := s.pipe.dropFlush, writer := .gone }) rfl
          (by simp [Pipe.dropFlush]) dropped (by simp [WriterSlot.held])
          (by simpa using h.published_committed)
        simpa [handOver, done] using kept
    | gone => simpa [step, hw, publishes, WriterSlot.held] using h
  | read =>
    simp only [consumes, publishes, commits, List.append_nil]
    cases hr : s.reader with
    | idle r =>
      have e : (s.step .read).1 =
          { s with
            pipe := (r.read s.pipe).1
            reader := afterRead (r.read s.pipe).2.1 (r.read s.pipe).2.2 } := by
        simp [step, withReader, hr]
      rw [e] at held' ⊢
      -- the reader is open after the read, so it was open before and the read is its test
      have live : r.completed = false := by
        simp only [afterRead_held, Option.some.injEq] at held'
        rw [← held', Reader.read_completed] at live'
        exact live'
      rw [Reader.read_of_open s.pipe r live]
      exact readCheck_ledger h (by simp [ReaderSlot.held, hr])
    | reading r => simpa [step, withReader, hr] using h
    | gone => simpa [step, withReader, hr] using h
  | pollRead =>
    simp only [consumes, publishes, commits, List.append_nil]
    cases hr : s.reader with
    | reading r =>
      have e : (s.step .pollRead).1 =
          { s with
            pipe := (Reader.pollRead s.pipe r).1
            reader := afterRead (Reader.pollRead s.pipe r).2.1
              (Reader.pollRead s.pipe r).2.2 } := by
        simp [step, hr]
      rw [e]
      rcases Reader.pollRead_cases s.pipe r with tested | waiting
      · rw [tested]
        exact readCheck_ledger h (by simp [ReaderSlot.held, hr])
      · -- not notified: the poll changes nothing
        rw [waiting]
        have same : { s with reader := ReaderSlot.reading r } = s := by
          cases s
          simp_all
        simpa [afterRead, same] using h
    | idle r => simpa [step, hr] using h
    | gone => simpa [step, hr] using h
  | advanceTo c e =>
    simp only [publishes, commits, List.append_nil]
    cases hr : s.reader with
    | idle r =>
      by_cases valid : c ≤ e ∧ e ≤ r.buffered.length
      · obtain ⟨reader, -, published, open_, -, -, -, -⟩ := Reader.advanceTo_ok s.pipe r valid
        have eq : (s.step (.advanceTo c e)).1 =
            { s with
              pipe := (r.advanceTo s.pipe c e).1
              reader := .idle (r.advanceTo s.pipe c e).2.1 } := by
          simp [step, withReader, hr]
        have consumed : s.consumes (.advanceTo c e) = r.buffered.take c := by
          simp [consumes, hr, valid]
        rw [eq, consumed]
        refine h.readerSide rfl ?_ (open_.trans h.open_)
        -- the consumed prefix, then what is left of the buffer, is the whole buffer
        simp only [unread, ReaderSlot.held, hr, reader, published, Option.map_some,
          Option.getD_some]
        rw [← List.append_assoc, List.take_append_drop]
      · obtain ⟨same, kept, -⟩ := Reader.advanceTo_error s.pipe r valid
        have eq : (s.step (.advanceTo c e)).1 = s := by
          cases s
          simp_all [step, withReader]
        have consumed : s.consumes (.advanceTo c e) = [] := by simp [consumes, hr, valid]
        simpa [eq, consumed] using h
    | reading r => simpa [step, withReader, hr, consumes] using h
    | gone => simpa [step, withReader, hr, consumes] using h
  | completeReader =>
    simp only [consumes, publishes, commits, List.append_nil]
    cases hr : s.reader with
    | idle r =>
      -- completing the reader closes it, which the hypothesis rules out
      have e : (s.step .completeReader).1.reader = .idle (r.complete s.pipe).2 := by
        simp [step, withReader, hr]
      rw [e] at held'
      simp only [ReaderSlot.held, Option.some.injEq] at held'
      rw [← held', Reader.complete_completed] at live'
      cases live'
    | reading r => simpa [step, withReader, hr] using h
    | gone => simpa [step, withReader, hr] using h
  | readerCompleted =>
    have e : (s.step .readerCompleted).1 = s := by
      cases hr : s.reader <;> simp [step, withReader, hr]
    simpa [e, consumes, publishes, commits] using h
  | dropReader =>
    simp only [consumes, publishes, commits, List.append_nil]
    cases hr : s.reader with
    | idle r =>
      have e : (s.step .dropReader).1.reader = .gone := by simp [step, hr]
      rw [e] at held'
      cases held'
    | reading r =>
      have e : (s.step .dropReader).1.reader = .gone := by simp [step, hr]
      rw [e] at held'
      cases held'
    | gone => simpa [step, hr] using h
  | cancelRead =>
    simp only [consumes, publishes, commits, List.append_nil]
    exact h.writerStill rfl (by simp [step, Pipe.cancelRead]) (by simpa [step, Pipe.cancelRead]
      using h.open_) (fun w' held => ⟨w', held, rfl⟩)
  | cancelFlush =>
    simp only [consumes, publishes, commits, List.append_nil]
    exact h.writerStill rfl (by simp [step, Pipe.cancelFlush]) (by simpa [step, Pipe.cancelFlush]
      using h.open_) (fun w' held => ⟨w', held, rfl⟩)
  | abandonFlush =>
    simp only [consumes, publishes, commits, List.append_nil]
    cases hw : s.writer with
    | flushing w fw =>
      -- the writer is free again with what it staged, and the pipe forgets the flush
      refine h.writerStill (by simp [step, hw]) (by simp [step, hw, Pipe.dropFlush])
        (by simpa [step, hw, Pipe.dropFlush] using h.open_) fun w' held => ?_
      simp only [step, hw, WriterSlot.held, Option.some.injEq] at held
      exact ⟨w, by simp [WriterSlot.held, hw], by rw [held]⟩
    | idle w => simpa [step, hw] using h
    | gone => simpa [step, hw] using h
  | abandonRead =>
    simp only [consumes, publishes, commits, List.append_nil]
    cases hr : s.reader with
    | reading r =>
      -- the reader keeps its buffer, and the pipe forgets the read
      have kept := h.readerSide (Z := []) (t := (s.step .abandonRead).1)
        (by simp [step, hr]) (by simp [step, hr, unread, ReaderSlot.held, Pipe.dropRead])
        (by simpa [step, hr, Pipe.dropRead] using h.open_)
      simpa using kept
    | idle r => simpa [step, hr] using h
    | gone => simpa [step, hr] using h


/-- Only the completion or the drop of the reader closes it, and nothing opens it again. -/
theorem readerOpen_of_step {s : Session} {c : Command} (open_ : (s.step c).1.ReaderOpen) :
    s.ReaderOpen := by
  obtain ⟨r', held', live'⟩ := open_
  -- a reader that is still there after the command has the completion flag it had before
  have kept : ∀ r, s.reader.held = some r → r'.completed = r.completed → s.ReaderOpen :=
    fun r held same => ⟨r, held, same ▸ live'⟩
  cases c
  case read =>
    cases hr : s.reader with
    | idle r =>
      simp only [step, withReader, hr, afterRead_held, Option.some.injEq] at held'
      exact kept r (by simp [ReaderSlot.held, hr]) (by rw [← held', Reader.read_completed])
    | _ => exact ⟨r', by simpa [step, withReader, hr] using held', live'⟩
  case pollRead =>
    cases hr : s.reader with
    | reading r =>
      simp only [step, hr, afterRead_held, Option.some.injEq] at held'
      exact kept r (by simp [ReaderSlot.held, hr]) (by rw [← held', Reader.pollRead_completed])
    | _ => exact ⟨r', by simpa [step, hr] using held', live'⟩
  case advanceTo c e =>
    cases hr : s.reader with
    | idle r =>
      simp only [step, withReader, hr, ReaderSlot.held, Option.some.injEq] at held'
      exact kept r (by simp [ReaderSlot.held, hr]) (by rw [← held', Reader.advanceTo_completed])
    | _ => exact ⟨r', by simpa [step, withReader, hr] using held', live'⟩
  case completeReader =>
    cases hr : s.reader with
    | idle r =>
      simp only [step, withReader, hr, ReaderSlot.held, Option.some.injEq] at held'
      rw [← held', Reader.complete_completed] at live'
      cases live'
    | _ => exact ⟨r', by simpa [step, withReader, hr] using held', live'⟩
  case dropReader =>
    cases hr : s.reader <;> simp [step, hr, ReaderSlot.held] at held'
  case abandonRead =>
    cases hr : s.reader with
    | reading r =>
      simp only [step, hr, ReaderSlot.held, Option.some.injEq] at held'
      exact kept r (by simp [ReaderSlot.held, hr]) (by rw [held'])
    | _ => exact ⟨r', by simpa [step, hr] using held', live'⟩
  all_goals
    refine ⟨r', ?_, live'⟩
    cases hw : s.writer <;> cases hr : s.reader <;>
      simpa [step, withWriter, withReader, hw, hr] using held'

theorem readerOpen_of_run {s : Session} {cmds : List Command} (open_ : (s.run cmds).ReaderOpen) :
    s.ReaderOpen := by
  induction cmds generalizing s with
  | nil => exact open_
  | cons c rest ih => exact readerOpen_of_step (ih open_)

theorem ledger_run {s : Session} {C P K : Bytes} (h : s.Ledger C P K) {cmds : List Command}
    (open_ : (s.run cmds).ReaderOpen) :
    (s.run cmds).Ledger (C ++ gather consumes s cmds) (P ++ gather publishes s cmds)
      (K ++ gather commits s cmds) := by
  induction cmds generalizing s C P K with
  | nil => simpa [run, gather] using h
  | cons c rest ih =>
    -- the reader is open after the first command, since it is open at the end
    have next := ledger_step h (readerOpen_of_run (s := (s.step c).1) open_)
    simpa [run, gather, List.append_assoc] using ih next open_

theorem ledger_create (o : PipeOptions) : (create o).Ledger [] [] [] where
  reader := rfl
  writer := by
    intro w held
    simp only [create, WriterSlot.held, Option.some.injEq] at held
    rw [← held]
    rfl
  published_committed := List.prefix_refl []
  open_ := rfl

@[simp] theorem settle_flushed_ne_read {p : Poll (Except Fault FlushResult)} {rr : ReadResult} :
    settle p Reply.flushed ≠ .done (.read rr) := by
  rcases p with _ | _ | _ <;> simp [settle, Outcome.ofPoll, Outcome.ofExcept, Outcome.map]

@[simp] theorem map_unit_ne_read {α : Type} {r : Except Fault α} {rr : ReadResult} :
    (Outcome.ofExcept r).map (fun _ => Reply.unit) ≠ .done (.read rr) := by
  rcases r with _ | _ <;> simp [Outcome.ofExcept, Outcome.map]

/-- A read that ends well offers everything on the reader's side of a pipe the reader is open
on; unless it was interrupted or the writer completed, it offers a byte not yet examined. -/
theorem readCheck_offer {p : Pipe} {r : Reader} {rr : ReadResult}
    (answered : settle (Reader.readCheck p r).2.2 Reply.read = .done (.read rr)) :
    rr.buffer = r.buffered ++ p.published ∧
      (rr.isCompleted = false → rr.isCanceled = false → r.examined < rr.buffer.length) := by
  cases result : (Reader.readCheck p r).2.2 with
  | pending => simp [result, settle, Outcome.ofPoll, Outcome.map] at answered
  | ready v =>
    cases v with
    | error e => simp [result, settle, Outcome.ofPoll, Outcome.ofExcept, Outcome.map] at answered
    | ok rr' =>
      simp only [result, settle, Outcome.ofPoll, Outcome.ofExcept, Outcome.map, Outcome.done.injEq,
        Reply.read.injEq] at answered
      subst answered
      obtain ⟨buffer, -, -, fresh⟩ := Reader.readCheck_ready_ok p r result
      exact ⟨buffer, fresh⟩

/-- Only a read or a poll of a pending read offers a buffer, and it offers the reader's side. -/
theorem step_read_offer {s : Session} {c : Command} {rr : ReadResult}
    (answered : (s.step c).2 = .done (.read rr)) :
    ∃ r, s.reader.held = some r ∧ rr.buffer = s.unread ∧
      (rr.isCompleted = false → rr.isCanceled = false → r.examined < rr.buffer.length) := by
  cases c
  case read =>
    cases hr : s.reader with
    | idle r =>
      simp only [step, withReader, hr] at answered
      cases done : r.completed
      · rw [Reader.read_of_open s.pipe r done] at answered
        obtain ⟨buffer, fresh⟩ := readCheck_offer answered
        exact ⟨r, by simp [ReaderSlot.held], by simp [buffer, unread, ReaderSlot.held, hr], fresh⟩
      · simp [Reader.read, done, settle, Outcome.ofPoll, Outcome.ofExcept, Outcome.map] at answered
    | reading r => simp [step, withReader, hr, busyEnd] at answered
    | gone => simp [step, withReader, hr, busyEnd] at answered
  case pollRead =>
    cases hr : s.reader with
    | reading r =>
      simp only [step, hr] at answered
      rcases Reader.pollRead_cases s.pipe r with tested | waiting
      · rw [tested] at answered
        obtain ⟨buffer, fresh⟩ := readCheck_offer answered
        exact ⟨r, by simp [ReaderSlot.held], by simp [buffer, unread, ReaderSlot.held, hr], fresh⟩
      · simp [waiting, settle, Outcome.ofPoll, Outcome.map] at answered
    | idle r => simp [step, hr] at answered
    | gone => simp [step, hr] at answered
  all_goals
    cases hw : s.writer <;> cases hr : s.reader <;>
      simp [step, withWriter, withReader, hw, hr, busyEnd] at answered

end Session

open Session in
/-- A byte pipe delivers the committed bytes in order. After any script of commands on its two
ends that leaves the reader open, let `C`, `P` and `K` be the consumed, published and committed
streams. The consumed stream, then the reader's buffer, then the published bytes not yet read,
are the published stream; the published stream is where the committed stream starts, and the
writer (while it is there) stages exactly the rest of it, which is what `unflushed` reports.
Any read that ends well at this point offers the published stream less its consumed prefix and,
unless it was interrupted or the writer completed, a byte the reader has not examined. -/
theorem byte_pipe_delivers_committed_bytes_in_order (o : PipeOptions) (cmds : List Command)
    (open_ : ((create o).run cmds).ReaderOpen) :
    let s := (create o).run cmds
    let C := gather consumes (create o) cmds
    let P := gather publishes (create o) cmds
    let K := gather commits (create o) cmds
    C ++ s.unread = P ∧ P <+: K ∧ (∀ w, s.writer.held = some w → P ++ w.staged = K) ∧
      (∀ w, s.writer = .idle w → (s.step .unflushed).2 = .done (.size (K.length - P.length))) ∧
      (∀ c rr, (s.step c).2 = .done (.read rr) →
        C ++ rr.buffer = P ∧
        (rr.isCompleted = false → rr.isCanceled = false →
          ∃ r, s.reader.held = some r ∧ r.examined < rr.buffer.length)) := by
  intro s C P K
  have h : s.Ledger C P K := by simpa using ledger_run (ledger_create o) open_
  refine ⟨h.reader, h.published_committed, h.writer, ?_, ?_⟩
  · -- the writer stages the committed bytes behind the published ones
    intro w idle
    have staged := h.writer w (by simp [WriterSlot.held, idle])
    have counted : K.length - P.length = w.unflushed := by
      rw [← staged, List.length_append, Writer.unflushed]
      omega
    simp [step, withWriter, idle, counted]
  · intro c rr answered
    obtain ⟨r, held, offered, fresh⟩ := step_read_offer answered
    exact ⟨by rw [offered]; exact h.reader, fun done canceled => ⟨r, held, fresh done canceled⟩⟩

open Session in
/-- Examined bytes are offered again: `he` is flushed, read and examined without being
consumed, so the next read waits; then `llo` is flushed. The reader is open there, so the law
holds: the waiting read, once polled, can only offer the whole published stream `hello`. -/
theorem byte_pipe_reoffers_examined_bytes :
    let o : PipeOptions :=
      { receiveBufferSize := 4, pauseWriterThreshold := 8, resumeWriterThreshold := 4 }
    let cmds := [Command.write [104, 101], .flush, .read, .advanceTo 0 2, .read,
      .write [108, 108, 111], .flush]
    let s := (create o).run cmds
    let C := gather consumes (create o) cmds
    let P := gather publishes (create o) cmds
    let K := gather commits (create o) cmds
    s.ReaderOpen ∧
      C ++ s.unread = P ∧ P <+: K ∧ (∀ w, s.writer.held = some w → P ++ w.staged = K) ∧
      (∀ w, s.writer = .idle w → (s.step .unflushed).2 = .done (.size (K.length - P.length))) ∧
      (∀ c rr, (s.step c).2 = .done (.read rr) →
        C ++ rr.buffer = P ∧
        (rr.isCompleted = false → rr.isCanceled = false →
          ∃ r, s.reader.held = some r ∧ r.examined < rr.buffer.length)) := by
  intro o cmds s C P K
  have open_ : s.ReaderOpen :=
    ⟨{ buffered := [104, 101], examined := 2 }, by decide +kernel, rfl⟩
  exact ⟨open_, byte_pipe_delivers_committed_bytes_in_order o cmds open_⟩

end BytePipe

end Sluice
