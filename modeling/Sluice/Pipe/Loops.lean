import Sluice.Pipe.Script
/-!
# Producer and consumer loops

The producer loop moves bytes from a connection into a pipe's writer: reserve a region of
the receive buffer size, receive into it, commit what arrived, flush, and again. The consumer
loop moves bytes from the pipe's reader to a consumer: read, offer the buffer, advance by the
consumer's answer, and again. Both loops watch one cancellation token, and look at it before
every wait they are in, so a cancelled token ends a loop at its next poll with the exit
`cancelled`.

* The producer ends with `endOfStream` when a receive gives no bytes, `readerCompleted` when
  a flush finds the reader gone, `cancelled` on the token or an interrupted flush, or a fault.
* The consumer ends with `sourceCompleted` after the offer that saw the writer completed,
  `cancelled` on the token or an interrupted read, or a fault.
* A fault that is a cancellation counts as the exit `cancelled`. On the way out the producer
  completes the writer (with the fault, if any), and the consumer completes the reader.

Each loop is a state machine. `ProducerTask.step` and `ConsumerTask.step` make one move and
say whether the loop can go on at once (`moved`), waits (`blocked`), or suspended itself
but wants to be polled again (`yielded`). `ProducerTask.poll` and `ConsumerTask.poll` run
moves until the loop waits, as one poll of the loop does.

* `LoopExit`, `LoopEnd`, `Stride`.
* `ProducerStage`, `ProducerTask`, `ConsumerStage`, `ConsumerTask`.
-/

namespace Sluice

/-- Why a loop stopped normally. -/
inductive LoopExit where
  | endOfStream
  | readerCompleted
  | sourceCompleted
  | cancelled
  deriving DecidableEq, Repr, Inhabited

/-- How a loop ended: with an exit or a fault, or by a panic with its text. -/
inductive LoopEnd where
  | exited (result : Except Fault LoopExit)
  | panicked (text : String)
  deriving Inhabited

/-- What one move of a loop did: it moved and can move again at once, it waits for something
outside itself, or it suspended itself and asks to be polled again. -/
inductive Stride where
  | moved
  | blocked
  | yielded
  deriving DecidableEq, Repr, Inhabited

/-- A fault that is a cancellation becomes the exit `cancelled`. -/
def settleExit (r : Except Fault LoopExit) : Except Fault LoopExit :=
  match r with
  | .error e => if e.isCancelled then .ok .cancelled else .error e
  | ok => ok

/-- Where a receive call is: made and not yet polled, suspended by a yield (the next poll takes
the next chunk), or waiting for cancellation. -/
inductive Receive where
  | fresh
  | resumed
  | hanging
  deriving DecidableEq, Repr, Inhabited

inductive ProducerStage where
  | top
  | receiving (r : Receive)
  | flushing (fw : FlushWait)
  | ended (e : LoopEnd)
  deriving Inhabited

/-- The producer loop and the writer it owns. -/
structure ProducerTask where
  stage : ProducerStage := .top
  writer : Writer := {}
  deriving Inhabited

abbrev ProducerMove := Pipe × Connection × ProducerTask × Stride

namespace ProducerTask

/-- End the loop with a result: complete the writer, with the fault if there is one. -/
def finish (p : Pipe) (c : Connection) (t : ProducerTask) (r : Except Fault LoopExit) :
    ProducerMove :=
  let r := settleExit r
  let fault := match r with
    | .ok _ => none
    | .error e => some e
  let (p, w) := t.writer.complete p fault
  (p, c, { writer := w, stage := .ended (.exited r) }, .blocked)

/-- End the loop by a panic: the writer is dropped, which completes it. -/
def crash (p : Pipe) (c : Connection) (t : ProducerTask) (text : String) : ProducerMove :=
  let (p, w) := t.writer.complete p none
  (p, c, { writer := w, stage := .ended (.panicked text) }, .blocked)

/-- Act on a finished flush. -/
def flushed (p : Pipe) (c : Connection) (t : ProducerTask) (fw : FlushWait) :
    Poll (Except Fault FlushResult) → ProducerMove
  | .pending => (p, c, { t with stage := .flushing fw }, .blocked)
  | .ready (.error e) => finish p c t (.error e)
  | .ready (.ok r) =>
      if r.isCompleted then finish p c t (.ok .readerCompleted)
      else if r.isCanceled then finish p c t (.ok .cancelled)
      else (p, c, { t with stage := .top }, .moved)

/-- Commit received bytes, then end on end of stream or flush. -/
def received (p : Pipe) (c : Connection) (t : ProducerTask) (bs : Bytes) : ProducerMove :=
  let w := { t.writer with reserved := t.writer.reserved.map fun (r : Region) => { r with filled := bs } }
  let (w, res) := w.advance bs.length
  let t := { t with writer := w }
  match res with
  | .error e => finish p c t (.error e)
  | .ok () =>
      if bs.isEmpty then finish p c t (.ok .endOfStream)
      else
        let (p, w, poll, fw) := t.writer.flush p
        flushed p c { t with writer := w } fw poll

def pollReceive (p : Pipe) (c : Connection) (t : ProducerTask) (r : Receive) : ProducerMove :=
  match r with
  | .hanging => (p, c, t, .blocked)
  | _ =>
      let c := if r = .fresh then { c with receives := c.receives + 1 } else c
      let room := (t.writer.reserved.map Region.size).getD 0
      let (c, pulled) := c.pull room
      match pulled with
      | .got bs => received p c t bs
      | .yielded => (p, c, { t with stage := .receiving .resumed }, .yielded)
      | .hangs => (p, c, { t with stage := .receiving .hanging }, .blocked)
      | .failed f => finish p c t (.error f)
      | .panicked => crash p c t receivePanicText

/-- One move of the producer loop; `cancelled` tells whether its token is cancelled. -/
def step (cancelled : Bool) (p : Pipe) (c : Connection) (t : ProducerTask) : ProducerMove :=
  match t.stage with
  | .ended _ => (p, c, t, .blocked)
  | .top =>
      let (w, _) := t.writer.getMemory p p.options.receiveBufferSize []
      let t := { t with writer := w }
      if cancelled then finish p c t (.ok .cancelled)
      else pollReceive p c { t with stage := .receiving .fresh } .fresh
  | .receiving r =>
      if cancelled then finish p c t (.ok .cancelled) else pollReceive p c t r
  | .flushing fw =>
      if cancelled then finish p.dropFlush c t (.ok .cancelled)
      else
        let (p, poll, fw) := Writer.pollFlush p fw
        flushed p c t fw poll

/-- One poll of the producer loop: moves until it waits, at most `fuel` of them. Answers
whether the loop suspended itself asking to be polled again. -/
def poll (cancelled : Bool) : Nat → Pipe → Connection → ProducerTask →
    Pipe × Connection × ProducerTask × Bool
  | 0, p, c, t => (p, c, t, false)
  | fuel + 1, p, c, t =>
      let (p, c, t, s) := step cancelled p c t
      match s with
      | .moved => poll cancelled fuel p c t
      | .blocked => (p, c, t, false)
      | .yielded => (p, c, t, true)

def isEnded (t : ProducerTask) : Bool :=
  match t.stage with
  | .ended _ => true
  | _ => false

end ProducerTask

inductive ConsumerStage where
  | top
  | reading
  | ended (e : LoopEnd)
  deriving Inhabited

/-- The consumer loop and the reader it owns. -/
structure ConsumerTask where
  stage : ConsumerStage := .top
  reader : Reader := {}
  deriving Inhabited

abbrev ConsumerMove := Pipe × Consumer × ConsumerTask × Stride

namespace ConsumerTask

/-- End the loop with a result; the reader is completed either way. -/
def finish (p : Pipe) (k : Consumer) (t : ConsumerTask) (r : Except Fault LoopExit) :
    ConsumerMove :=
  let (p, rd) := t.reader.complete p
  (p, k, { reader := rd, stage := .ended (.exited (settleExit r)) }, .blocked)

/-- End the loop by a panic: the reader is dropped, which completes it. -/
def crash (p : Pipe) (k : Consumer) (t : ConsumerTask) (text : String) : ConsumerMove :=
  let (p, rd) := t.reader.complete p
  (p, k, { reader := rd, stage := .ended (.panicked text) }, .blocked)

/-- Act on a finished or suspended read. -/
def afterRead (p : Pipe) (k : Consumer) (t : ConsumerTask) :
    Poll (Except Fault ReadResult) → ConsumerMove
  | .pending => (p, k, { t with stage := .reading }, .blocked)
  | .ready (.error e) => finish p k t (.error e)
  | .ready (.ok rr) =>
      if rr.isCanceled then finish p k t (.ok .cancelled)
      else
        let (k, answer) := k.consume rr.buffer rr.isCompleted
        match answer with
        | .failed f => finish p k t (.error f)
        | .panicked text => crash p k t text
        | .position c e =>
            let (p, rd, res) := t.reader.advanceTo p c e
            let t := { t with reader := rd }
            match res with
            | .error f => finish p k t (.error f)
            | .ok () =>
                if rr.isCompleted then finish p k t (.ok .sourceCompleted)
                else (p, k, { t with stage := .top }, .moved)

/-- One move of the consumer loop; `cancelled` tells whether its token is cancelled. -/
def step (cancelled : Bool) (p : Pipe) (k : Consumer) (t : ConsumerTask) : ConsumerMove :=
  match t.stage with
  | .ended _ => (p, k, t, .blocked)
  | .top =>
      if cancelled then finish p k t (.ok .cancelled)
      else
        let (p, rd, poll) := t.reader.read p
        afterRead p k { t with reader := rd } poll
  | .reading =>
      if cancelled then finish p.dropRead k t (.ok .cancelled)
      else
        let (p, rd, poll) := Reader.pollRead p t.reader
        afterRead p k { t with reader := rd } poll

/-- One poll of the consumer loop: moves until it waits, at most `fuel` of them. -/
def poll (cancelled : Bool) : Nat → Pipe → Consumer → ConsumerTask →
    Pipe × Consumer × ConsumerTask
  | 0, p, k, t => (p, k, t)
  | fuel + 1, p, k, t =>
      let (p, k, t, s) := step cancelled p k t
      match s with
      | .moved => poll cancelled fuel p k t
      | _ => (p, k, t)

def isEnded (t : ConsumerTask) : Bool :=
  match t.stage with
  | .ended _ => true
  | _ => false

end ConsumerTask

end Sluice
