import Sluice.Registry
import Sluice.Semaphore.Wait
/-!
# Semaphore sessions

A session drives one semaphore through a script of commands: waits kept under names,
polls and drops of those handles, releases, resets, count queries and token cancellations.
Every command answers an `Outcome`, and after each one the session shows the waiter gauge
when the semaphore was made with one.

A `wait` under a name that is already in use makes the new wait first and only then drops
the old handle.

* `Semaphore.Command`, `Semaphore.Reply`, `Semaphore.Session`.
* `Semaphore.Session.step` — one command.
* `Semaphore.Session.gauge` — the gauge, when metered.
-/

namespace Sluice

namespace Semaphore

/-- A command of a semaphore session. -/
inductive Command where
  -- wait for one unit, keeping the handle under a name
  | wait (id : String) (token : Option Token)
  | poll (id : String)
  | isReady (id : String)
  | drop (id : String)
  | release (n : Nat)
  -- release units, answering whether the limit allowed it
  | tryRelease (n : Nat)
  -- set new counts if nobody waits
  | tryReset (initial limit : Nat)
  -- the count, after a purge
  | count
  -- the number of queued waiters, after a purge
  | waiters
  | limit
  | cancel (token : Token)
  deriving Repr

/-- The value a successful command answers. -/
inductive Reply where
  | unit
  -- whether a new wait was settled at once
  | admitted (ready : Bool)
  | flag (b : Bool)
  | count (c : Int64)
  | size (n : Nat)
  deriving DecidableEq, Repr

/-- A semaphore, its named handles and the cancelled tokens. -/
structure Session where
  sem : Semaphore
  -- whether the semaphore reports to a waiter gauge
  metered : Bool
  waits : Registry Wait := {}
  cancellations : Cancellations := {}

namespace Session

def create (initial limit : Nat) (metered : Bool) : Except Fault Session := do
  let sem ← Semaphore.create initial limit
  pure { sem, metered }

def gauge (s : Session) : Option Int :=
  if s.metered then some s.sem.gaugeShare else none

/-- The answer for a handle name that the session does not know. -/
def unknownWait {α : Type} : Outcome α :=
  .misuse "no such wait"

/-- Run one command. -/
def step (s : Session) : Command → Session × Outcome Reply
  | .wait id token =>
      let cs := s.cancellations
      let (sem, adm) := s.sem.acquire cs token
      let w := Wait.ofAdmission token adm
      let sem := match s.waits.find? id with
        | some old => old.drop cs sem
        | none => sem
      ({ s with sem, waits := s.waits.put id w }, .done (.admitted w.isReady))
  | .poll id =>
      match s.waits.find? id with
      | none => (s, unknownWait)
      | some w =>
          let (p, w', sem) := w.poll s.cancellations s.sem
          ({ s with sem, waits := s.waits.put id w' }, (Outcome.ofPoll p).map fun _ => .unit)
  | .isReady id =>
      match s.waits.find? id with
      | none => (s, unknownWait)
      | some w => (s, .done (.flag w.isReady))
  | .drop id =>
      match s.waits.find? id with
      | none => (s, unknownWait)
      | some w =>
          ({ s with sem := w.drop s.cancellations s.sem, waits := s.waits.remove id }, .done .unit)
  | .release n =>
      match s.sem.release s.cancellations n with
      | .ok sem => ({ s with sem }, .done .unit)
      | .error f => (s, .failed f)
  | .tryRelease n =>
      match s.sem.tryRelease s.cancellations n with
      | .ok (b, sem) => ({ s with sem }, .done (.flag b))
      | .error f => (s, .failed f)
  | .tryReset initial limit =>
      match s.sem.tryReset s.cancellations initial limit with
      | .ok (b, sem) => ({ s with sem }, .done (.flag b))
      | .error f => (s, .failed f)
  | .count =>
      let (c, sem) := s.sem.liveCount s.cancellations
      ({ s with sem }, .done (.count c))
  | .waiters =>
      let (n, sem) := s.sem.liveWaiters s.cancellations
      ({ s with sem }, .done (.size n))
  | .limit => (s, .done (.count s.sem.limit))
  | .cancel t => ({ s with cancellations := s.cancellations.cancel t }, .done .unit)

end Session

end Semaphore

end Sluice
