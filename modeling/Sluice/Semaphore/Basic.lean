import Sluice.Fault
import Sluice.Token
/-!
# Counting semaphores

A counting semaphore with a first-in-first-out queue of waiters, cancellable waits and a
capacity bound.

The count is signed. A non-negative count is the number of free units. While waiters queue,
the count goes below zero: each wait takes one unit whether or not one is free, so a count of
`-k` means that `k` units are owed to queued waiters. A release adds its units to the count
and, if the count was negative, hands units to the queue front in order.

A waiter whose token has been cancelled stays in the queue until someone notices: a release
that reaches it, a purge, or its own handle. Each such removal gives its unit back to the
count. A release passing over a cancelled waiter does not spend any of its budget on it.

The count is a 64-bit two's-complement integer, and the bound test `count + n > limit`
wraps exactly as such an integer does.

* `Semaphore` — count, limit, queue, the tickets granted but not yet collected, the next
  ticket, and `gaugeShare`: the net amount this semaphore has added to its waiter gauge.
* `Semaphore.create`, `Semaphore.acquire`, `Semaphore.release`, `Semaphore.tryRelease`,
  `Semaphore.purge`, `Semaphore.liveCount`, `Semaphore.liveWaiters`, `Semaphore.tryReset`.
-/

namespace Sluice

/-- The largest signed 64-bit value, `2 ^ 63 - 1`. -/
def int64Max : Nat := 9223372036854775807

/-- A queued waiter: its ticket and the token that may cancel it. -/
structure Waiter where
  ticket : Nat
  token : Option Token
  deriving DecidableEq, Repr, Inhabited

/-- The state of a counting semaphore. -/
structure Semaphore where
  -- free units, or minus the units owed to queued waiters
  count : Int64
  -- the largest count a release may reach
  limit : Int64
  -- waiters in arrival order
  queue : List Waiter
  -- tickets that were handed a unit their handle has not yet collected
  granted : List Nat
  nextTicket : Nat
  -- the net amount this semaphore has added to its waiter gauge
  gaugeShare : Int
  deriving DecidableEq, Repr, Inhabited

/-- Check a pair of counts: a limit of at least one, an initial count not above the limit,
and a limit that fits in a signed 64-bit integer, in that order. -/
def checkCounts (initial limit : Nat) : Except Fault (Int64 × Int64) :=
  if limit = 0 then .error (.invalidArgument "semaphore max count must be at least 1")
  else if initial > limit then
    .error (.invalidArgument ("semaphore initial count " ++ toString initial ++
      " exceeds max count " ++ toString limit))
  else if limit > int64Max then .error (.invalidArgument "semaphore max count too large")
  else .ok (Int64.ofNat initial, Int64.ofNat limit)

/-- Check a release count: at least one, and within a signed 64-bit integer. -/
def checkRelease (n : Nat) : Except Fault Unit :=
  if n = 0 then .error (.invalidArgument "release count must be at least 1")
  else if n > int64Max then .error (.invalidArgument "release count too large")
  else .ok ()

namespace Semaphore

def ofCounts (count limit : Int64) : Semaphore :=
  { count, limit, queue := [], granted := [], nextTicket := 0, gaugeShare := 0 }

def create (initial limit : Nat) : Except Fault Semaphore := do
  let (i, m) ← checkCounts initial limit
  pure (ofCounts i m)

/-- The one-unit semaphore that admits one holder at a time. -/
def singleSlot : Semaphore :=
  ofCounts 1 1

def isQueued (s : Semaphore) (ticket : Nat) : Bool :=
  s.queue.any fun w => w.ticket == ticket

/-- Whether a ticket holds an uncollected unit. -/
def isGranted (s : Semaphore) (ticket : Nat) : Bool :=
  s.granted.contains ticket

/-- Take a queued ticket out of the queue and give its unit back to the count. -/
def withdraw (s : Semaphore) (ticket : Nat) : Semaphore :=
  { s with queue := s.queue.filter (fun w => w.ticket != ticket), count := s.count + 1,
           gaugeShare := s.gaugeShare - 1 }

def collect (s : Semaphore) (ticket : Nat) : Semaphore :=
  { s with granted := s.granted.erase ticket }

/-- The outcome of asking for one unit: settled at once (a unit, or a cancellation), or queued
under a ticket. -/
inductive Admission where
  | settled (result : Except Fault Unit)
  | queued (ticket : Nat)

/-- Ask for one unit. A cancelled token refuses at once without touching the count;
otherwise the count drops by one, and the wait is queued if that made it negative. -/
def acquire (cs : Cancellations) (s : Semaphore) (token : Option Token) :
    Semaphore × Admission :=
  if cs.hits token then (s, .settled (.error .cancelled))
  else
    let c := s.count - 1
    if c ≥ 0 then ({ s with count := c }, .settled (.ok ()))
    else
      ({ s with count := c, queue := s.queue ++ [⟨s.nextTicket, token⟩],
                nextTicket := s.nextTicket + 1, gaugeShare := s.gaugeShare + 1 },
       .queued s.nextTicket)

/-- Serve the queue front with a budget of units. `queue` is the part of the queue not yet
looked at; the queue field of `s` is replaced by what is left when the budget or the queue
runs out. A cancelled waiter is dropped and its unit goes back to the count without using
the budget; a live waiter is granted a unit and uses one unit of budget. -/
def serve (cs : Cancellations) (s : Semaphore) : List Waiter → Nat → Semaphore
  | [], _ => { s with queue := [] }
  | w :: rest, 0 => { s with queue := w :: rest }
  | w :: rest, budget + 1 =>
      let s := { s with gaugeShare := s.gaugeShare - 1 }
      if cs.hits w.token then serve cs { s with count := s.count + 1 } rest (budget + 1)
      else serve cs { s with granted := s.granted ++ [w.ticket] } rest budget

/-- Add `n` units, refusing when the count would pass the limit. When the count was
negative, the queue is served with a budget of `n`. -/
def releaseUnits (cs : Cancellations) (s : Semaphore) (n : Nat) : Except Fault Semaphore :=
  let k := Int64.ofNat n
  if s.count + k > s.limit then .error (.capacityExceeded s.count k s.limit)
  else
    let s' := { s with count := s.count + k }
    if s.count ≥ 0 then .ok s' else .ok (serve cs s' s.queue n)

def release (cs : Cancellations) (s : Semaphore) (n : Nat) : Except Fault Semaphore := do
  checkRelease n
  releaseUnits cs s n

/-- Release `n` units, answering `false` instead of failing when the limit would be
passed. -/
def tryRelease (cs : Cancellations) (s : Semaphore) (n : Nat) :
    Except Fault (Bool × Semaphore) := do
  checkRelease n
  match releaseUnits cs s n with
  | .ok s' => pure (true, s')
  | .error _ => pure (false, s)

/-- Drop every queued waiter whose token is cancelled, giving each unit back. -/
def purge (cs : Cancellations) (s : Semaphore) : Semaphore :=
  let gone := s.queue.filter fun w => cs.hits w.token
  { s with queue := s.queue.filter (fun w => !cs.hits w.token),
           count := s.count + Int64.ofNat gone.length,
           gaugeShare := s.gaugeShare - gone.length }

def liveCount (cs : Cancellations) (s : Semaphore) : Int64 × Semaphore :=
  let s := s.purge cs
  (s.count, s)

def liveWaiters (cs : Cancellations) (s : Semaphore) : Nat × Semaphore :=
  let s := s.purge cs
  (s.queue.length, s)

/-- Set new counts when, after a purge, nobody is queued; answer whether that happened. -/
def tryReset (cs : Cancellations) (s : Semaphore) (initial limit : Nat) :
    Except Fault (Bool × Semaphore) := do
  let (i, m) ← checkCounts initial limit
  let s := s.purge cs
  if s.queue.isEmpty then pure (true, { s with count := i, limit := m }) else pure (false, s)

end Semaphore

end Sluice
