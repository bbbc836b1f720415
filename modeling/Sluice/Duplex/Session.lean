import Sluice.Duplex.Basic
/-!
# Duplex sessions

A session drives one duplex pipe through a script, letting its loop tasks run for one settle
after every command. It keeps at most one reader taken from the pipe; taking a new one
drops the old. A read on that reader that cannot finish once the tasks are settled answers
pending and is abandoned.

* `Duplex.Command`, `Duplex.Reply`, `Duplex.Session`, `Duplex.Session.step`.
-/

namespace Sluice

namespace Duplex

/-- A command of a duplex session. -/
inductive Command where
  | start (token : Option Token)
  | stop
  | dispose
  | send (data : Bytes)
  | cancel (token : Token)
  | takeReader
  | read
  | advanceTo (consumed examined : Nat)
  | completeReader
  | dropReader
  | offers
  | probe
  | handle
  | settle
  deriving Repr

/-- The value a successful command answers. -/
inductive Reply where
  | unit
  | flag (b : Bool)
  | number (n : Nat)
  | read (r : ReadResult)
  | offers (os : List Offer)
  | probe (c : Connection)
  deriving Repr

/-- A duplex pipe, the reader taken from it, and the cancelled tokens. -/
structure Session where
  pipe : DuplexPipe
  -- the reader taken from the pipe, with its byte pipe's index
  reader : Option (Nat × Reader) := none
  cancellations : Cancellations := {}
  -- the pipe's handle: one when made by a runtime, zero otherwise
  handle : Nat
  metered : Bool
  -- whether the pipe's gate reports to that gauge
  gated : Bool
  deriving Inhabited

namespace Session

/-- A session on a new duplex pipe. Made by a runtime unless `direct`; the runtime's settings
must pass their check. -/
def create (settings : Settings) (direct : Bool) (conn : Connection)
    (consumer : Option (List Verdict)) : Except Fault Session := do
  settings.check
  pure { pipe := DuplexPipe.create settings.pipe conn consumer,
         handle := if direct then 0 else 1, metered := settings.waiterMetrics,
         gated := settings.waiterMetrics && !direct }

def gauge (s : Session) : Option Int :=
  if s.metered then some (if s.gated then s.pipe.activity.gate.gaugeShare else 0) else none

def noReader {α : Type} : Outcome α :=
  .misuse "no reader"

def unitOf (r : Except Fault Unit) : Outcome Reply :=
  (Outcome.ofExcept r).map fun _ => .unit

/-- Run one command, before settling. -/
def act (s : Session) : Command → Session × Outcome Reply
  | .start token =>
      let (pipe, r) := s.pipe.start s.cancellations token
      ({ s with pipe }, unitOf r)
  | .stop =>
      let (pipe, r) := s.pipe.stop s.cancellations
      ({ s with pipe }, unitOf r)
  | .dispose =>
      let (pipe, r) := s.pipe.dispose s.cancellations
      ({ s with pipe }, unitOf r)
  | .send data =>
      let (pipe, r) := s.pipe.send data
      ({ s with pipe }, unitOf r)
  | .cancel t => ({ s with cancellations := s.cancellations.cancel t }, .done .unit)
  | .takeReader =>
      let (pipe, taken) := s.pipe.takeReader
      match taken with
      | none => ({ s with pipe }, .done (.flag false))
      | some r =>
          let core := pipe.core.dropReader s.reader
          ({ s with pipe := { pipe with core }, reader := some r }, .done (.flag true))
  | .read =>
      match s.reader with
      | none => (s, noReader)
      | some (i, r) =>
          let core := s.pipe.core
          let (p, r, poll) := r.read (core.pipeAt i)
          let p := match poll with
            | .pending => p.dropRead
            | .ready _ => p
          ({ s with pipe := { s.pipe with core := core.setPipe i p }, reader := some (i, r) },
           (Outcome.ofPoll poll).map .read)
  | .advanceTo c e =>
      match s.reader with
      | none => (s, noReader)
      | some (i, r) =>
          let core := s.pipe.core
          let (p, r, res) := r.advanceTo (core.pipeAt i) c e
          ({ s with pipe := { s.pipe with core := core.setPipe i p }, reader := some (i, r) },
           unitOf res)
  | .completeReader =>
      match s.reader with
      | none => (s, noReader)
      | some (i, r) =>
          let core := s.pipe.core
          let (p, r) := r.complete (core.pipeAt i)
          ({ s with pipe := { s.pipe with core := core.setPipe i p }, reader := some (i, r) },
           .done .unit)
  | .dropReader =>
      ({ s with pipe := { s.pipe with core := s.pipe.core.dropReader s.reader }, reader := none },
       .done .unit)
  | .offers => (s, .done (.offers s.pipe.core.sink.offers))
  | .probe => (s, .done (.probe s.pipe.core.conn))
  | .handle => (s, .done (.number s.handle))
  | .settle => (s, .done .unit)

/-- Run one command and then settle the loop tasks. -/
def step (s : Session) (c : Command) : Session × Outcome Reply :=
  let (s, o) := s.act c
  ({ s with pipe := s.pipe.settle }, o)

end Session

end Duplex

end Sluice
