import Sluice.Registry
import Sluice.Signal.Countdown
import Sluice.Signal.ManualReset
/-!
# Signal sessions

Sessions that drive a countdown or a manual-reset signal through a script. Waits are kept
under names; `wait` makes a wait and polls it once, `poll` polls it again, `drop` forgets it.
A poll of a wait that has already given its result answers `Outcome.finished`.

* `WaitBoard` — the named waits and the cancelled tokens, shared by both kinds of session.
* `Countdown.Command`, `Countdown.Session.step`.
* `ManualSignal.Command`, `ManualSignal.Session.step`.
-/

namespace Sluice

def unknownFuture {α : Type} (id : String) : Outcome α :=
  .misuse ("no future named " ++ id)

/-- Named waits on completions, and the cancelled tokens. -/
structure WaitBoard where
  waits : Registry SignalWait := {}
  cancellations : Cancellations := {}
  deriving Inhabited

namespace WaitBoard

/-- Make a wait on the live completion, keep it under `id`, and poll it once. -/
def begin (b : WaitBoard) (c : Completions) (live : Nat) (id : String)
    (token : Option Token) : WaitBoard × Outcome Unit :=
  let (p, w) := SignalWait.begin b.cancellations c live token
  ({ b with waits := b.waits.put id w }, .ofPoll p)

def poll (b : WaitBoard) (c : Completions) (id : String) : WaitBoard × Outcome Unit :=
  match b.waits.find? id with
  | none => (b, unknownFuture id)
  | some w =>
      let (p, w') := w.poll b.cancellations c
      ({ b with waits := b.waits.put id w' }, match p with
        | some p => .ofPoll p
        | none => .finished)

def drop (b : WaitBoard) (id : String) : WaitBoard × Outcome Unit :=
  match b.waits.find? id with
  | none => (b, unknownFuture id)
  | some _ => ({ b with waits := b.waits.remove id }, .done ())

def cancel (b : WaitBoard) (t : Token) : WaitBoard :=
  { b with cancellations := b.cancellations.cancel t }

end WaitBoard

/-- The value a successful signal command answers. -/
inductive SignalReply where
  | unit
  | flag (b : Bool)
  deriving DecidableEq, Repr

/-- A waiting command's outcome as a signal reply. -/
def SignalReply.ofUnit (o : Outcome Unit) : Outcome SignalReply :=
  o.map fun _ => .unit

namespace Countdown

/-- A command of a countdown session. -/
inductive Command where
  | addCount (n : Nat)
  | tryAddCount (n : Nat)
  | signal (n : Nat)
  | reset (n : Nat)
  | resetToInitial
  | wait (id : String) (token : Option Token)
  | poll (id : String)
  | drop (id : String)
  | cancel (token : Token)
  deriving Repr

/-- A countdown and its named waits. -/
structure Session where
  signal : Countdown
  board : WaitBoard := {}

/-- Run one command. -/
def Session.step (s : Session) : Command → Session × Outcome SignalReply
  | .addCount n =>
      match s.signal.addCount n with
      | .ok c => ({ s with signal := c }, .done .unit)
      | .error f => (s, .failed f)
  | .tryAddCount n =>
      match s.signal.tryAddCount n with
      | .ok (b, c) => ({ s with signal := c }, .done (.flag b))
      | .error f => (s, .failed f)
  | .signal n =>
      match s.signal.signal n with
      | .ok (b, c) => ({ s with signal := c }, .done (.flag b))
      | .error f => (s, .failed f)
  | .reset n => ({ s with signal := s.signal.reset n }, .done .unit)
  | .resetToInitial => ({ s with signal := s.signal.resetToInitial }, .done .unit)
  | .wait id token =>
      let (board, o) := s.board.begin s.signal.completions s.signal.live id token
      ({ s with board }, SignalReply.ofUnit o)
  | .poll id =>
      let (board, o) := s.board.poll s.signal.completions id
      ({ s with board }, SignalReply.ofUnit o)
  | .drop id =>
      let (board, o) := s.board.drop id
      ({ s with board }, SignalReply.ofUnit o)
  | .cancel t => ({ s with board := s.board.cancel t }, .done .unit)

end Countdown

namespace ManualSignal

/-- A command of a manual-reset session. -/
inductive Command where
  | set
  | reset
  | wait (id : String) (token : Option Token)
  | poll (id : String)
  | drop (id : String)
  | cancel (token : Token)
  deriving Repr

/-- A manual-reset signal and its named waits. -/
structure Session where
  signal : ManualSignal
  board : WaitBoard := {}

/-- Run one command. -/
def Session.step (s : Session) : Command → Session × Outcome SignalReply
  | .set => ({ s with signal := s.signal.set }, .done .unit)
  | .reset => ({ s with signal := s.signal.reset }, .done .unit)
  | .wait id token =>
      let (board, o) := s.board.begin s.signal.completions s.signal.live id token
      ({ s with board }, SignalReply.ofUnit o)
  | .poll id =>
      let (board, o) := s.board.poll s.signal.completions id
      ({ s with board }, SignalReply.ofUnit o)
  | .drop id =>
      let (board, o) := s.board.drop id
      ({ s with board }, SignalReply.ofUnit o)
  | .cancel t => ({ s with board := s.board.cancel t }, .done .unit)

end ManualSignal

end Sluice
