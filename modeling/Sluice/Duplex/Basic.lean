import Sluice.Activity.Basic
import Sluice.Pipe.Queue
import Sluice.Text.Quote
/-!
# Duplex pipes

A duplex pipe is an activity whose start connects a connection and spawns the loops of a new
generation: a producer loop from the connection into a fresh byte pipe, and a consumer loop
over that pipe's reader when the duplex holds a consumer. Without a consumer the reader is
stored for one caller to take. Every generation has its own token, cancelled by the stop that
ends it. A stop cancels the token and the pending read, waits for both loops, records how
they exited, takes back the consumer, and drops a reader nobody took. Sending goes straight
to the connection while the pipe runs. Disposal stops the activity and then disposes the
connection, once.

The loops run as tasks on a single-threaded scheduler, polled from the generation's run
queue: after every call the queue is run for at most `settlePolls` polls
(`DuplexPipe.settle`), so a long exchange between the loops can outlast one call. A stop
cancels the token, which wakes both loops, and waits until each has had its poll. A task
that panics ends the loop; joining it reports an internal fault naming the task, and a
consumer lost that way makes every later start fail.

* `Home` — where the consumer object is.
* `Generation`, `DuplexCore`, `duplexHooks`, `DuplexPipe`.
* `DuplexPipe.start`, `DuplexPipe.stop`, `DuplexPipe.dispose`, `DuplexPipe.send`,
  `DuplexPipe.takeReader`, `DuplexPipe.settle`.
-/

namespace Sluice

/-- Where a duplex pipe's consumer is: absent when the pipe was built without one, held by the
pipe, lent to the consumer loop of the running generation, or lost by a loop that panicked. -/
inductive Home where
  | absent
  | held
  | lent
  | lost
  deriving DecidableEq, Repr, Inhabited

/-- The loops of one start. -/
structure Generation where
  -- the index of this generation's byte pipe
  pipe : Nat
  producer : ProducerTask
  -- the consumer loop, when the pipe held a consumer
  consumer : Option ConsumerTask
  producerTask : Nat
  consumerTask : Nat
  -- the loops woken and not yet polled, in the order they will be polled
  queue : List LoopTask
  deriving Inhabited

/-- The state behind a duplex pipe's hooks. -/
structure DuplexCore where
  -- the options of every byte pipe it makes
  options : PipeOptions
  conn : Connection
  -- the consumer, wherever it is; its offers are kept even when it is lost
  sink : Consumer
  home : Home
  -- every byte pipe made so far, by index
  pipes : List Pipe := []
  -- the reader of the running generation when no consumer loop took it
  stored : Option (Nat × Reader) := none
  running : Option Generation := none
  -- how the last generation's producer loop exited
  producerExit : Option LoopExit := none
  -- how the last generation's consumer loop exited
  consumerExit : Option LoopExit := none
  -- whether the live generation token is cancelled
  tokenCancelled : Bool := false
  -- whether the connection has been disposed
  released : Bool := false
  nextTask : Nat := 1
  -- the most moves one poll of a loop may make
  moves : Nat
  deriving Inhabited

def lostConsumerFault : Fault :=
  .invalidState "pipe consumer was lost by a failed consumer loop"

/-- The fault of joining a loop task that panicked. -/
def joinFault (which : String) (task : Nat) (text : String) : Fault :=
  .internal (which ++ " loop task failed: task " ++ toString task ++ " panicked with message " ++
    Text.quote text)

namespace DuplexCore

def pipeAt (w : DuplexCore) (i : Nat) : Pipe :=
  w.pipes.getD i (Pipe.create w.options)

def setPipe (w : DuplexCore) (i : Nat) (p : Pipe) : DuplexCore :=
  { w with pipes := w.pipes.set i p }

/-- Drop a reader: it completes on its own pipe. -/
def dropReader (w : DuplexCore) : Option (Nat × Reader) → DuplexCore
  | none => w
  | some (i, r) => w.setPipe i (r.complete (w.pipeAt i)).1

/-- The start hook: check the consumer, connect, and spawn a new generation. -/
def onStarting (w : DuplexCore) : DuplexCore × Except Fault Unit :=
  if w.home = .lost then (w, .error lostConsumerFault)
  else
    let (conn, r) := w.conn.connect
    let w := { w with conn }
    match r with
    | .error e => (w, .error e)
    | .ok () =>
        let g := w.pipes.length
        let w := { w with pipes := w.pipes ++ [Pipe.create w.options], tokenCancelled := false,
                          producerExit := none, consumerExit := none }
        let producerTask := w.nextTask
        if w.home = .held then
          let gen : Generation :=
            { pipe := g, producer := {}, consumer := some {}, producerTask,
              consumerTask := producerTask + 1, queue := [.producer, .consumer] }
          ({ w with home := .lent, running := some gen, nextTask := producerTask + 2 }, .ok ())
        else
          let gen : Generation :=
            { pipe := g, producer := {}, consumer := none, producerTask, consumerTask := 0,
              queue := [.producer] }
          let w := w.dropReader w.stored
          ({ w with stored := some (g, {}), running := some gen, nextTask := producerTask + 1 },
           .ok ())

/-- Run the running generation's queue for at most `budget` polls. Loops woken by calls
since the last run join the queue first, the producer before the consumer. -/
def runQueue (w : DuplexCore) (budget : Nat) : DuplexCore :=
  match w.running with
  | none => w
  | some gen =>
      let loops : Loops :=
        { pipe := w.pipeAt gen.pipe, conn := w.conn, sink := w.sink, producer := gen.producer,
          consumer := gen.consumer, cancelled := w.tokenCancelled, moves := w.moves }
      let (loops, queue) := loops.drain budget (loops.wake gen.queue [.producer, .consumer])
      { w.setPipe gen.pipe loops.pipe with
        conn := loops.conn, sink := loops.sink,
        running := some { gen with producer := loops.producer, consumer := loops.consumer,
                                   queue } }

def settle (w : DuplexCore) : DuplexCore :=
  w.runQueue settlePolls

def firstFault (acc : Option Fault) (e : Fault) : Option Fault :=
  match acc with
  | some a => some a
  | none => some e

/-- The stop hook: cancel the generation and its pending read, wait for its loops, record
their exits, take back the consumer and drop the untaken reader. -/
def onStopping (w : DuplexCore) : DuplexCore × Except Fault Unit :=
  match w.running with
  | none => (w, .ok ())
  | some gen =>
      let w := { w with tokenCancelled := true }
      let w := w.setPipe gen.pipe (w.pipeAt gen.pipe).cancelRead
      -- with the token cancelled, each loop ends at its next poll
      let w := w.runQueue 2
      let gen := w.running.getD gen
      let w := { w with running := none }
      let (w, err) := match gen.producer.stage with
        | .ended (.exited (.ok x)) => ({ w with producerExit := some x }, none)
        | .ended (.exited (.error e)) =>
            if e.isCancelled then ({ w with producerExit := some .cancelled }, none)
            else (w, some e)
        | .ended (.panicked text) => (w, some (joinFault "producer" gen.producerTask text))
        | _ => (w, none)
      let (w, err) := match gen.consumer with
        | none => (w, err)
        | some t =>
            match t.stage with
            | .ended (.exited (.ok x)) => ({ w with home := .held, consumerExit := some x }, err)
            | .ended (.exited (.error e)) =>
                if e.isCancelled then ({ w with home := .held, consumerExit := some .cancelled }, err)
                else ({ w with home := .held }, firstFault err e)
            | .ended (.panicked text) =>
                ({ w with home := .lost }, firstFault err (joinFault "consumer" gen.consumerTask text))
            | _ => (w, err)
      let w := { w.dropReader w.stored with stored := none }
      (w, match err with
        | some e => .error e
        | none => .ok ())

end DuplexCore

/-- The hooks of a duplex pipe. Both hooks finish at once; the running hook is their result. -/
def duplexHooks : Hooks DuplexCore (Except Fault Unit) where
  beginStart _ w := w.onStarting
  beginStop w := w.onStopping
  pollHook _ w h := (w, .ready h, h)

/-- A duplex pipe: its activity and the state behind its hooks. -/
structure DuplexPipe where
  activity : Activity := {}
  core : DuplexCore
  deriving Inhabited

def notRunningFault : Fault :=
  .invalidState "pipe is not running"

/-- The result of a lifecycle call that was driven to its end. -/
def Poll.result : Poll (Except Fault Unit) → Except Fault Unit
  | .ready r => r
  | .pending => .error (.internal "lifecycle call did not finish")

namespace DuplexPipe

/-- A duplex pipe over a connection, with or without a consumer. -/
def create (options : PipeOptions) (conn : Connection) (consumer : Option (List Verdict)) :
    DuplexPipe :=
  let verdicts := consumer.getD []
  { core := { options, conn, sink := { verdicts },
              home := if consumer.isSome then .held else .absent,
              moves := moveBudget conn.chunks verdicts 0 } }

/-- Run a lifecycle call to its end. -/
def transition (cs : Cancellations) (kind : Transition) (token : Option Token)
    (d : DuplexPipe) : DuplexPipe × Except Fault Unit :=
  let (activity, core, _, p) := Activity.begin duplexHooks cs kind token d.activity d.core
  ({ activity, core }, p.result)

def start (cs : Cancellations) (token : Option Token) (d : DuplexPipe) :
    DuplexPipe × Except Fault Unit :=
  transition cs .start token d

def stop (cs : Cancellations) (d : DuplexPipe) : DuplexPipe × Except Fault Unit :=
  transition cs .stop none d

/-- Dispose: stop for good, then dispose the connection unless that was done already. A
failure of the stop wins over a failure of the connection's disposal. -/
def dispose (cs : Cancellations) (d : DuplexPipe) : DuplexPipe × Except Fault Unit :=
  let (d, stopped) := transition cs .dispose none d
  let (d, released) :=
    if d.core.released then (d, .ok ())
    else
      let (conn, r) := d.core.conn.dispose
      ({ d with core := { d.core with conn, released := true } }, r)
  (d, match stopped with
    | .error e => .error e
    | .ok () => released)

def send (d : DuplexPipe) (data : Bytes) : DuplexPipe × Except Fault Unit :=
  if !d.activity.isRunning then (d, .error notRunningFault)
  else
    let (conn, r) := d.core.conn.send data
    ({ d with core := { d.core with conn } }, r)

def takeReader (d : DuplexPipe) : DuplexPipe × Option (Nat × Reader) :=
  ({ d with core := { d.core with stored := none } }, d.core.stored)

def settle (d : DuplexPipe) : DuplexPipe :=
  { d with core := d.core.settle }

end DuplexPipe

end Sluice
