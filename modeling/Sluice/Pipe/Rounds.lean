import Sluice.Pipe.Loops
/-!
# Running the loops in rounds

Runs a producer loop, and optionally a consumer loop, over one pipe on one token, the way a
single-threaded poller does. A round polls the producer once and then the consumer once.
Rounds repeat while something was woken during the round: a notification reaching a parked
operation, or a loop that suspended itself. When a round wakes nothing, no further poll can
move either loop, and the loops are settled.

Loops run as separate tasks outlive each other's panics: a panicking loop just ends. Loops
polled inline by one poller do not: the first panic unwinds through the poller, so nothing
is polled after it (`Loops.panicStops`).

A scripted run (`LoopRun`) polls inline and adds idle actions: when the loops settle while one is unfinished,
the next action is applied (cancel the token, interrupt the pending read, or interrupt the
pending flush) and rounds go on. With no action left the run stops, and unfinished loops
stay pending. Without a consumer loop the reader is left alone, dropped or completed before
the run, as the `ReaderMode` says.

* `Loops`, `Loops.round`, `Loops.settle`, `Loops.panicText`.
* `IdleAction`, `ReaderMode`, `LoopRun`, `LoopRun.create`, `LoopRun.run`.
-/

namespace Sluice

/-- Two loops over one pipe. -/
structure Loops where
  pipe : Pipe
  conn : Connection
  sink : Consumer
  producer : ProducerTask := {}
  consumer : Option ConsumerTask
  cancelled : Bool
  -- the most moves one poll of a loop may make
  moves : Nat
  -- whether the first panic stops both loops (loops polled inline by one poller)
  panicStops : Bool := false
  deriving Inhabited

/-- A bound on moves and rounds for a script: every move consumes a byte, a chunk, a
verdict or an action, or waits, so this many always suffice. -/
def moveBudget (chunks : List Chunk) (verdicts : List Verdict) (actions : Nat) : Nat :=
  let bytes := chunks.foldl (fun n c => match c with
    | .data bs => n + bs.length
    | .yield => n + 1) 0
  8 * (bytes + chunks.length + verdicts.length + actions + 8)

namespace Loops

/-- The panic text of the first loop that panicked, the producer looked at first. -/
def panicText (s : Loops) : Option String :=
  match s.producer.stage, s.consumer.map ConsumerTask.stage with
  | ProducerStage.ended (.panicked text), _ => some text
  | _, some (ConsumerStage.ended (.panicked text)) => some text
  | _, _ => none

/-- Whether no loop will be polled again: every loop has ended, or one panicked and a panic
stops both. -/
def finished (s : Loops) : Bool :=
  (s.producer.isEnded && (match s.consumer with
    | some t => t.isEnded
    | none => true)) ||
  (s.panicStops && s.panicText.isSome)

/-- One round: the producer once, then the consumer once. Answers whether anything was
woken. -/
def round (s : Loops) : Loops × Bool :=
  let w0 := s.pipe.wakes
  let (s, yielded) :=
    if s.producer.isEnded then (s, false)
    else
      let (p, c, t, y) := ProducerTask.poll s.cancelled s.moves s.pipe s.conn s.producer
      ({ s with pipe := p, conn := c, producer := t }, y)
  if s.finished then (s, false) else
  let s := match s.consumer with
    | some t =>
        if t.isEnded then s
        else
          let (p, k, t) := ConsumerTask.poll s.cancelled s.moves s.pipe s.sink t
          { s with pipe := p, sink := k, consumer := some t }
    | none => s
  (s, yielded || s.pipe.wakes != w0)

/-- Run rounds, at most `fuel` of them, until every loop has ended or a round wakes
nothing. -/
def settleFor : Nat → Loops → Loops
  | 0, s => s
  | fuel + 1, s =>
      if s.finished then s
      else
        let (s, woke) := s.round
        if woke then settleFor fuel s else s

def settle (s : Loops) : Loops :=
  settleFor (s.moves + 1) s

end Loops

/-- An action applied when the loops are idle. -/
inductive IdleAction where
  | cancel
  | cancelRead
  | cancelFlush
  deriving DecidableEq, Repr, Inhabited

/-- What happens to the reader end: a consumer loop reads it, it is kept and never read during
the run, it is dropped before the run, or it is completed before the run and kept. -/
inductive ReaderMode where
  | consumer
  | idle
  | dropped
  | completed
  deriving DecidableEq, Repr, Inhabited

/-- A scripted run of the loops. -/
structure LoopRun where
  loops : Loops
  -- the reader end when no consumer loop owns it
  reader : Reader
  actions : List IdleAction
  applied : List IdleAction := []
  deriving Inhabited

namespace LoopRun

def create (options : PipeOptions) (conn : Connection) (verdicts : List Verdict)
    (mode : ReaderMode) (actions : List IdleAction) (precancel : Bool) : LoopRun :=
  let p := Pipe.create options
  let loops : Loops :=
    { pipe := p, conn, sink := { verdicts }, consumer := none, cancelled := precancel,
      moves := moveBudget conn.chunks verdicts actions.length, panicStops := true }
  match mode with
  | .consumer => { loops := { loops with consumer := some {} }, reader := {}, actions }
  | .idle => { loops, reader := {}, actions }
  | .dropped | .completed =>
      let (p, r) := Reader.complete p {}
      { loops := { loops with pipe := p }, reader := r, actions }

def apply (s : LoopRun) : IdleAction → LoopRun
  | .cancel => { s with loops := { s.loops with cancelled := true } }
  | .cancelRead => { s with loops := { s.loops with pipe := s.loops.pipe.cancelRead } }
  | .cancelFlush => { s with loops := { s.loops with pipe := s.loops.pipe.cancelFlush } }

/-- Settle, then apply the next idle action while a loop is unfinished, at most `fuel`
times. -/
def drive : Nat → LoopRun → LoopRun
  | 0, s => s
  | fuel + 1, s =>
      let s := { s with loops := s.loops.settle }
      if s.loops.finished then s
      else
        match s.actions with
        | [] => s
        | a :: rest => drive fuel { (s.apply a) with actions := rest, applied := s.applied ++ [a] }

/-- Run the loops to the end or until they are idle with no action left. -/
def run (s : LoopRun) : LoopRun :=
  drive (s.actions.length + 1) s

def finalRead (s : LoopRun) : Poll (Except Fault ReadResult) :=
  (s.reader.read s.loops.pipe).2.2

end LoopRun

end Sluice
