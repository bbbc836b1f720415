import Sluice.Config
import Sluice.Poll
/-!
# Byte pipes

A byte pipe joins one writer end to one reader end.

The writer stages bytes: it either writes them outright or reserves a region, fills it and
commits a prefix of it with `advance`. A flush publishes the staged bytes to the pipe. The
reader moves published bytes into its buffer when it reads, and frees them with
`advanceTo consumed examined`: the first `consumed` bytes leave the buffer, and the reader
will not be offered the buffer again until more than `examined` bytes are in it.

`unconsumed` counts the bytes published and not yet consumed. A flush that finds it at the
pause threshold or above waits until it drops to the resume threshold or below
(backpressure); a pause threshold of zero turns this off.

Waiting is explicit. A suspended read or flush is parked on a `Listener`. An operation that
can end the wait notifies the listener; only a notified listener lets the next poll of the
suspended operation look at the pipe again. A poll of an operation whose listener has not
been notified does nothing. `wakes` counts the notifications that reached a parked
listener, which is what a scheduler needs to know whether anything can move.

* `Pipe` — the state shared by both ends. `Writer`, `Reader` — the ends' own state.
* `Writer.getMemory`, `Writer.advance`, `Writer.write`, `Writer.flush`, `Writer.complete`.
* `Reader.read`, `Reader.advanceTo`, `Reader.complete`.
* `Pipe.cancelRead`, `Pipe.cancelFlush` — interrupt a pending read or flush.
-/

namespace Sluice

abbrev Bytes := List UInt8

/-- The registration of a suspended operation with the notifier it waits on: nobody waits, an
operation is parked, or it has been notified since it parked. -/
inductive Listener where
  | absent
  | parked
  | notified
  deriving DecidableEq, Repr, Inhabited

/-- The state shared by the two ends of a byte pipe. -/
structure Pipe where
  options : PipeOptions
  -- bytes published and not yet moved into the reader's buffer
  published : Bytes := []
  -- bytes published and not yet consumed by the reader
  unconsumed : Nat := 0
  writerDone : Bool := false
  writerFault : Option Fault := none
  readerDone : Bool := false
  -- a request to interrupt the pending or next read
  readCancel : Bool := false
  -- a request to interrupt the pending or next flush
  flushCancel : Bool := false
  readListener : Listener := .absent
  flushListener : Listener := .absent
  -- notifications that reached a parked listener so far
  wakes : Nat := 0
  deriving DecidableEq, Repr, Inhabited

structure FlushResult where
  -- the reader has completed; nothing written from now on will be read
  isCompleted : Bool := false
  isCanceled : Bool := false
  deriving DecidableEq, Repr, Inhabited

/-- The outcome of a read: the whole buffer, and whether the writer completed or the read was
interrupted. -/
structure ReadResult where
  buffer : Bytes
  isCompleted : Bool
  isCanceled : Bool
  deriving DecidableEq, Repr, Inhabited

/-- A reserved region: the bytes filled in at its start, and its length. The rest of the
region is zero. -/
structure Region where
  filled : Bytes
  size : Nat
  deriving DecidableEq, Repr, Inhabited

def Region.front (r : Region) (n : Nat) : Bytes :=
  (r.filled ++ List.replicate (r.size - r.filled.length) 0).take n

structure Writer where
  -- committed bytes not yet published
  staged : Bytes := []
  -- the region handed out by the last `getMemory`, until it is committed or dropped
  reserved : Option Region := none
  completed : Bool := false
  deriving DecidableEq, Repr, Inhabited

structure Reader where
  -- bytes moved out of the pipe and not yet consumed
  buffered : Bytes := []
  -- how many buffered bytes the reader has looked at
  examined : Nat := 0
  completed : Bool := false
  deriving DecidableEq, Repr, Inhabited

/-- A suspended flush: whether it has already seen the pause threshold reached. -/
structure FlushWait where
  -- the flush has paused and now waits for the resume threshold
  paused : Bool
  deriving DecidableEq, Repr, Inhabited

namespace Listener

/-- Deliver a notification: a parked listener becomes notified. -/
def notify : Listener → Listener
  | .parked => .notified
  | l => l

end Listener

namespace Pipe

def create (options : PipeOptions) : Pipe :=
  { options }

def notifyRead (p : Pipe) : Pipe :=
  if p.readListener = .parked then { p with readListener := .notified, wakes := p.wakes + 1 }
  else p

def notifyWrite (p : Pipe) : Pipe :=
  if p.flushListener = .parked then { p with flushListener := .notified, wakes := p.wakes + 1 }
  else p

/-- Interrupt the pending read, or the next one. -/
def cancelRead (p : Pipe) : Pipe :=
  notifyRead { p with readCancel := true }

/-- Interrupt the pending flush, or the next one. -/
def cancelFlush (p : Pipe) : Pipe :=
  notifyWrite { p with flushCancel := true }

end Pipe

def writerCompletedFault : Fault :=
  .invalidState "pipe writer already completed"

def readerCompletedFault : Fault :=
  .invalidState "pipe reader already completed"

namespace Writer

/-- Reserve a region of at least `hint` bytes and of at least the receive buffer size,
with `fill` copied to its start; the previous reservation is dropped. Answers the region's
length. -/
def getMemory (p : Pipe) (w : Writer) (hint : Nat) (fill : Bytes) : Writer × Nat :=
  let size := max hint p.options.receiveBufferSize
  ({ w with reserved := some { filled := fill.take size, size } }, size)

/-- Commit the first `n` bytes of the reserved region. The reservation is used up either way. -/
def advance (w : Writer) (n : Nat) : Writer × Except Fault Unit :=
  match w.reserved with
  | none => (w, .error (.invalidState "advance without a reserved region"))
  | some r =>
      if n > r.size then
        ({ w with reserved := none },
         .error (.invalidArgument ("advanced " ++ toString n ++ " bytes past a " ++
           toString r.size ++ " byte reservation")))
      else ({ w with reserved := none, staged := w.staged ++ r.front n }, .ok ())

/-- Commit bytes outright; the reservation is dropped. -/
def write (w : Writer) (data : Bytes) : Writer × Except Fault Unit :=
  if w.completed then (w, .error writerCompletedFault)
  else ({ w with reserved := none, staged := w.staged ++ data }, .ok ())

def unflushed (w : Writer) : Nat :=
  w.staged.length

/-- Publish the staged bytes. When the reader has completed they are discarded and the
answer is `true`. -/
def publish (p : Pipe) (w : Writer) : Pipe × Writer × Bool :=
  let w := { w with reserved := none }
  if p.readerDone then (p, { w with staged := [] }, true)
  else if w.staged.isEmpty then (p, w, false)
  else
    (Pipe.notifyRead { p with unconsumed := p.unconsumed + w.staged.length,
                              published := p.published ++ w.staged },
     { w with staged := [] }, false)

/-- The flush test, run when a flush starts and whenever it is notified: the reader is gone,
the flush was interrupted, backpressure is off or released, or the flush parks. -/
def flushCheck (p : Pipe) (paused : Bool) : Pipe × Poll FlushResult × FlushWait :=
  let o := p.options
  if p.readerDone then ({ p with flushListener := .absent }, .ready { isCompleted := true }, ⟨paused⟩)
  else if p.flushCancel then
    ({ p with flushCancel := false, flushListener := .absent }, .ready { isCanceled := true },
     ⟨paused⟩)
  else if o.pauseWriterThreshold = 0 then ({ p with flushListener := .absent }, .ready {}, ⟨paused⟩)
  else if !paused then
    if p.unconsumed < o.pauseWriterThreshold then
      ({ p with flushListener := .absent }, .ready {}, ⟨false⟩)
    else ({ p with flushListener := .parked }, .pending, ⟨true⟩)
  else if p.unconsumed ≤ o.resumeWriterThreshold then
    ({ p with flushListener := .absent }, .ready {}, ⟨true⟩)
  else ({ p with flushListener := .parked }, .pending, ⟨true⟩)

def flush (p : Pipe) (w : Writer) : Pipe × Writer × Poll (Except Fault FlushResult) × FlushWait :=
  if w.completed then (p, w, .ready (.error writerCompletedFault), ⟨false⟩)
  else
    let (p, w, gone) := publish p w
    if gone then (p, w, .ready (.ok { isCompleted := true }), ⟨false⟩)
    else
      let (p, r, fw) := flushCheck p false
      (p, w, match r with
        | .pending => .pending
        | .ready v => .ready (.ok v), fw)

def pollFlush (p : Pipe) (fw : FlushWait) : Pipe × Poll (Except Fault FlushResult) × FlushWait :=
  if p.flushListener = .notified then
    let (p, r, fw) := flushCheck p fw.paused
    (p, (match r with
      | .pending => .pending
      | .ready v => .ready (.ok v)), fw)
  else (p, .pending, fw)

/-- Complete the writer, with or without a fault: publish what is staged and tell the
reader. Completing twice changes nothing. -/
def complete (p : Pipe) (w : Writer) (fault : Option Fault) : Pipe × Writer :=
  if w.completed then (p, w)
  else
    let (p, w, _) := publish p w
    (Pipe.notifyRead { p with writerDone := true, writerFault := fault }, { w with completed := true })

end Writer

/-- Forget a suspended flush: its registration goes. -/
def Pipe.dropFlush (p : Pipe) : Pipe :=
  { p with flushListener := .absent }

/-- Forget a suspended read: its registration goes. -/
def Pipe.dropRead (p : Pipe) : Pipe :=
  { p with readListener := .absent }

namespace Reader

/-- The read test, run when a read starts and whenever it is notified: a writer fault wins;
otherwise published bytes move into the buffer and the read ends if it was interrupted, the
writer completed, or there are bytes beyond the examined ones. -/
def readCheck (p : Pipe) (r : Reader) : Pipe × Reader × Poll (Except Fault ReadResult) :=
  match p.writerFault with
  | some e => ({ p with readListener := .absent }, r, .ready (.error e))
  | none =>
      let r := { r with buffered := r.buffered ++ p.published }
      let canceled := p.readCancel
      let p := { p with published := [], readCancel := false }
      if canceled || p.writerDone || r.buffered.length > r.examined then
        ({ p with readListener := .absent }, r,
         .ready (.ok { buffer := r.buffered, isCompleted := p.writerDone, isCanceled := canceled }))
      else ({ p with readListener := .parked }, r, .pending)

def read (p : Pipe) (r : Reader) : Pipe × Reader × Poll (Except Fault ReadResult) :=
  if r.completed then (p, r, .ready (.error readerCompletedFault))
  else readCheck p r

def pollRead (p : Pipe) (r : Reader) : Pipe × Reader × Poll (Except Fault ReadResult) :=
  if p.readListener = .notified then readCheck p r else (p, r, .pending)

/-- The fault of an advance that consumes more than it examines, or examines more than is
buffered. -/
def invalidAdvance (consumed examined buffered : Nat) : Fault :=
  .invalidArgument ("invalid advance: consumed " ++ toString consumed ++ " examined " ++
    toString examined ++ " of " ++ toString buffered ++ " buffered bytes")

/-- Consume the first `consumed` buffered bytes and mark the first `examined` as looked at. -/
def advanceTo (p : Pipe) (r : Reader) (consumed examined : Nat) :
    Pipe × Reader × Except Fault Unit :=
  if consumed > examined || examined > r.buffered.length then
    (p, r, .error (invalidAdvance consumed examined r.buffered.length))
  else
    let r := { r with buffered := r.buffered.drop consumed, examined := examined - consumed }
    if consumed > 0 then
      (Pipe.notifyWrite { p with unconsumed := p.unconsumed - consumed }, r, .ok ())
    else (p, r, .ok ())

/-- Complete the reader: drop everything buffered or published and tell the writer.
Completing twice changes nothing. -/
def complete (p : Pipe) (r : Reader) : Pipe × Reader :=
  if r.completed then (p, r)
  else
    (Pipe.notifyWrite { p with readerDone := true, published := [], unconsumed := 0 },
     { buffered := [], examined := 0, completed := true })

end Reader

end Sluice
