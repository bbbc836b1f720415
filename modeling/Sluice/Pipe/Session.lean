import Sluice.Pipe.Basic
/-!
# Byte pipe sessions

A session drives both ends of one byte pipe through a script. A flush that does not finish at
once keeps the writer until it does, and a read likewise keeps the reader; while an end is
kept by its operation, or after it has been dropped, the other commands on that end are a
misuse of the session. Dropping an end completes it, and also abandons its pending
operation; dropping an end that is already gone does nothing. A pending flush or read can also
be abandoned alone, as when its future is dropped: its registration goes and the end is free
again.

* `BytePipe.Command`, `BytePipe.Reply`, `BytePipe.Session`, `BytePipe.Session.step`.
-/

namespace Sluice

namespace BytePipe

/-- Where the writer end is: free for any command, kept by a suspended flush, or dropped. -/
inductive WriterSlot where
  | idle (w : Writer)
  | flushing (w : Writer) (fw : FlushWait)
  | gone
  deriving DecidableEq, Repr, Inhabited

/-- Where the reader end is: free for any command, kept by a suspended read, or dropped. -/
inductive ReaderSlot where
  | idle (r : Reader)
  | reading (r : Reader)
  | gone
  deriving DecidableEq, Repr, Inhabited

/-- A command of a byte pipe session. -/
inductive Command where
  | getMemory (hint : Nat) (fill : Bytes)
  | advance (n : Nat)
  | write (data : Bytes)
  | unflushed
  | writerCompleted
  | options
  | completeWriter (fault : Option Fault)
  | flush
  | pollFlush
  | dropWriter
  | read
  | pollRead
  | advanceTo (consumed examined : Nat)
  | completeReader
  | readerCompleted
  | dropReader
  | cancelRead
  | cancelFlush
  | abandonFlush
  | abandonRead
  deriving Repr

/-- The value a successful command answers. -/
inductive Reply where
  | unit
  | size (n : Nat)
  | flag (b : Bool)
  | options (o : PipeOptions)
  | flushed (r : FlushResult)
  | read (r : ReadResult)
  deriving DecidableEq, Repr

/-- A pipe and where its two ends are. -/
structure Session where
  pipe : Pipe
  writer : WriterSlot := .idle {}
  reader : ReaderSlot := .idle {}
  deriving DecidableEq, Repr, Inhabited

/-- The answer for a command on a kept or dropped end. -/
def busyEnd {α : Type} : Outcome α :=
  .misuse "end is busy or gone"

/-- A finished flush or read as a reply. -/
def settle {α : Type} (p : Poll (Except Fault α)) (f : α → Reply) : Outcome Reply :=
  (Outcome.ofPoll p).map f

namespace Session

def create (options : PipeOptions) : Session :=
  { pipe := Pipe.create options }

/-- Run a command that needs the idle writer. -/
def withWriter (s : Session) (f : Writer → Session × Outcome Reply) : Session × Outcome Reply :=
  match s.writer with
  | .idle w => f w
  | _ => (s, busyEnd)

/-- Run a command that needs the idle reader. -/
def withReader (s : Session) (f : Reader → Session × Outcome Reply) : Session × Outcome Reply :=
  match s.reader with
  | .idle r => f r
  | _ => (s, busyEnd)

/-- The writer slot after a flush poll: kept while pending, free once finished. -/
def afterFlush {α : Type} (w : Writer) (fw : FlushWait) : Poll α → WriterSlot
  | .pending => .flushing w fw
  | .ready _ => .idle w

def afterRead {α : Type} (r : Reader) : Poll α → ReaderSlot
  | .pending => .reading r
  | .ready _ => .idle r

/-- Run one command. -/
def step (s : Session) : Command → Session × Outcome Reply
  | .getMemory hint fill => s.withWriter fun w =>
      let (w, n) := w.getMemory s.pipe hint fill
      ({ s with writer := .idle w }, .done (.size n))
  | .advance n => s.withWriter fun w =>
      let (w, r) := w.advance n
      ({ s with writer := .idle w }, (Outcome.ofExcept r).map fun _ => .unit)
  | .write data => s.withWriter fun w =>
      let (w, r) := w.write data
      ({ s with writer := .idle w }, (Outcome.ofExcept r).map fun _ => .unit)
  | .unflushed => s.withWriter fun w => (s, .done (.size w.unflushed))
  | .writerCompleted => s.withWriter fun w => (s, .done (.flag w.completed))
  | .options => s.withWriter fun _ => (s, .done (.options s.pipe.options))
  | .completeWriter fault => s.withWriter fun w =>
      let (pipe, w) := w.complete s.pipe fault
      ({ s with pipe, writer := .idle w }, .done .unit)
  | .flush => s.withWriter fun w =>
      let (pipe, w, p, fw) := w.flush s.pipe
      ({ s with pipe, writer := afterFlush w fw p }, settle p .flushed)
  | .pollFlush =>
      match s.writer with
      | .flushing w fw =>
          let (pipe, p, fw) := Writer.pollFlush s.pipe fw
          ({ s with pipe, writer := afterFlush w fw p }, settle p .flushed)
      | _ => (s, .misuse "no flush in progress")
  | .dropWriter =>
      match s.writer with
      | .idle w =>
          let (pipe, _) := w.complete s.pipe none
          ({ s with pipe, writer := .gone }, .done .unit)
      | .flushing w _ =>
          let (pipe, _) := w.complete s.pipe.dropFlush none
          ({ s with pipe, writer := .gone }, .done .unit)
      | .gone => (s, .done .unit)
  | .read => s.withReader fun r =>
      let (pipe, r, p) := r.read s.pipe
      ({ s with pipe, reader := afterRead r p }, settle p .read)
  | .pollRead =>
      match s.reader with
      | .reading r =>
          let (pipe, r, p) := Reader.pollRead s.pipe r
          ({ s with pipe, reader := afterRead r p }, settle p .read)
      | _ => (s, .misuse "no read in progress")
  | .advanceTo c e => s.withReader fun r =>
      let (pipe, r, res) := r.advanceTo s.pipe c e
      ({ s with pipe, reader := .idle r }, (Outcome.ofExcept res).map fun _ => .unit)
  | .completeReader => s.withReader fun r =>
      let (pipe, r) := r.complete s.pipe
      ({ s with pipe, reader := .idle r }, .done .unit)
  | .readerCompleted => s.withReader fun r => (s, .done (.flag r.completed))
  | .dropReader =>
      match s.reader with
      | .idle r =>
          let (pipe, _) := r.complete s.pipe
          ({ s with pipe, reader := .gone }, .done .unit)
      | .reading r =>
          let (pipe, _) := r.complete s.pipe.dropRead
          ({ s with pipe, reader := .gone }, .done .unit)
      | .gone => (s, .done .unit)
  | .cancelRead => ({ s with pipe := s.pipe.cancelRead }, .done .unit)
  | .cancelFlush => ({ s with pipe := s.pipe.cancelFlush }, .done .unit)
  | .abandonFlush =>
      match s.writer with
      | .flushing w _ => ({ s with pipe := s.pipe.dropFlush, writer := .idle w }, .done .unit)
      | _ => (s, .misuse "no flush in progress")
  | .abandonRead =>
      match s.reader with
      | .reading r => ({ s with pipe := s.pipe.dropRead, reader := .idle r }, .done .unit)
      | _ => (s, .misuse "no read in progress")

end Session

end BytePipe

end Sluice
