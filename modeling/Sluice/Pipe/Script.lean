import Sluice.Pipe.Basic
/-!
# Scripted connections and consumers

The two loops of a pipe talk to a connection (the byte source and sink) and a consumer (the
reader's client). Here both follow scripts.

A scripted connection counts its calls. Each receive takes its chunks in order: a yield
suspends the receive once; a data chunk fills as much of the buffer as it can and leaves the
rest for the next receive; an empty chunk is an end of stream. When the chunks run out the
connection follows its ending: end of stream, hang until cancelled, fail, or panic. Connect,
send and dispose fail with their scripted faults, if any; sends record the bytes sent.

A scripted consumer records every buffer it is offered and answers with its next verdict;
when the verdicts run out it consumes everything.

* `Chunk`, `Ending`, `Connection`, `Connection.pull`.
* `Verdict`, `Offer`, `Consumer`, `Consumer.consume`.
-/

namespace Sluice

/-- One scripted receive result: bytes to hand out, or a yield that suspends the receive once. -/
inductive Chunk where
  | data (bytes : Bytes)
  | yield
  deriving DecidableEq, Repr, Inhabited

/-- What a scripted connection does once its chunks are used up: report the end of the stream,
wait until cancelled, fail with a fault, or panic. -/
inductive Ending where
  | eof
  | hang
  | fail (fault : Fault)
  | panic
  deriving DecidableEq, Repr, Inhabited

/-- A scripted connection and its call counts. `failConnect`, `failSend` and `failDispose` are
the fault of every call of their kind, if any. -/
structure Connection where
  chunks : List Chunk := []
  ending : Ending := .eof
  failConnect : Option Fault := none
  failSend : Option Fault := none
  failDispose : Option Fault := none
  connects : Nat := 0
  receives : Nat := 0
  sends : Nat := 0
  disposes : Nat := 0
  -- every byte sent, in order
  sent : Bytes := []
  deriving DecidableEq, Repr, Inhabited

/-- What taking the next chunk gave: bytes (none at the end of the stream), a yield, a hang until
cancelled, a fault, or a panic. -/
inductive Pulled where
  | got (bytes : Bytes)
  | yielded
  | hangs
  | failed (fault : Fault)
  | panicked
  deriving DecidableEq, Repr, Inhabited

def receivePanicText : String := "scripted receive panic"

def consumePanicText : String := "scripted consumer panic"

namespace Connection

/-- Take the next chunk for a buffer of `room` bytes. -/
def pull (c : Connection) (room : Nat) : Connection × Pulled :=
  match c.chunks with
  | .yield :: rest => ({ c with chunks := rest }, .yielded)
  | .data bs :: rest =>
      if bs.length ≤ room then ({ c with chunks := rest }, .got bs)
      else ({ c with chunks := .data (bs.drop room) :: rest }, .got (bs.take room))
  | [] =>
      match c.ending with
      | .eof => (c, .got [])
      | .hang => (c, .hangs)
      | .fail f => (c, .failed f)
      | .panic => (c, .panicked)

def connect (c : Connection) : Connection × Except Fault Unit :=
  ({ c with connects := c.connects + 1 }, match c.failConnect with
    | some f => .error f
    | none => .ok ())

def send (c : Connection) (data : Bytes) : Connection × Except Fault Unit :=
  match c.failSend with
  | some f => ({ c with sends := c.sends + 1 }, .error f)
  | none => ({ c with sends := c.sends + 1, sent := c.sent ++ data }, .ok ())

def dispose (c : Connection) : Connection × Except Fault Unit :=
  ({ c with disposes := c.disposes + 1 }, match c.failDispose with
    | some f => .error f
    | none => .ok ())

end Connection

/-- A scripted consumer's answer to one offer. -/
inductive Verdict where
  -- consume and examine everything
  | all
  -- consume nothing, examine everything
  | needMore
  | position (consumed examined : Nat)
  -- consume whole frames of `k` bytes, examine everything; frames of no bytes count as frames of
  -- one byte
  | frames (k : Nat)
  | fail (fault : Fault)
  | panic
  deriving DecidableEq, Repr, Inhabited

/-- A buffer offered to a consumer. -/
structure Offer where
  buffer : Bytes
  isCompleted : Bool
  deriving DecidableEq, Repr, Inhabited

/-- A scripted consumer: the verdicts still to give and the offers seen. -/
structure Consumer where
  verdicts : List Verdict := []
  offers : List Offer := []
  deriving DecidableEq, Repr, Inhabited

/-- What a consume call answered. -/
inductive Consumed where
  | position (consumed examined : Nat)
  | failed (fault : Fault)
  | panicked (text : String)
  deriving DecidableEq, Repr, Inhabited

/-- Record an offer and answer with the next verdict. -/
def Consumer.consume (k : Consumer) (buffer : Bytes) (isCompleted : Bool) :
    Consumer × Consumed :=
  let (v, rest) := match k.verdicts with
    | [] => (Verdict.all, [])
    | v :: vs => (v, vs)
  let k := { verdicts := rest, offers := k.offers ++ [{ buffer, isCompleted }] }
  let len := buffer.length
  (k, match v with
    | .all => .position len len
    | .needMore => .position 0 len
    | .position c e => .position c e
    | .frames n => .position (len / max n 1 * max n 1) len
    | .fail f => .failed f
    | .panic => .panicked consumePanicText)

end Sluice
