import Sluice.Poll
import Sluice.Semaphore.Basic
/-!
# Wait handles

A wait on a semaphore is a handle. It is either settled, holding its result until the first
poll takes it, or queued under a ticket.

Polling a queued handle looks at its token first: when the token is cancelled, the wait ends
now, with a cancellation if the ticket was still queued (its unit goes back) and with success
if a unit had already been granted. Otherwise a granted unit ends the wait with success and
an ungranted ticket keeps it pending. After a handle has given its result, a further poll is
an internal fault.

Dropping a queued handle withdraws its ticket, or hands a granted but uncollected unit back
through an ordinary one-unit release. Should that release be refused, because the limit was
lowered meanwhile, the unit is lost.

* `Wait` — the handle.
* `Wait.ofAdmission`, `Wait.poll`, `Wait.drop`, `Wait.isReady`.
-/

namespace Sluice

/-- A handle on a wait for one unit: settled, holding the result until a poll takes it, or
queued under a ticket and cancellable through the token. -/
inductive Wait where
  | ready (result : Option (Except Fault Unit))
  | queued (ticket : Nat) (token : Option Token)
  deriving Inhabited

namespace Wait

/-- The handle for an admission with the given token. -/
def ofAdmission (token : Option Token) : Semaphore.Admission → Wait
  | .settled r => .ready (some r)
  | .queued t => .queued t token

def isReady : Wait → Bool
  | .ready _ => true
  | .queued .. => false

def pollAfterCompletion : Fault :=
  .internal "semaphore wait polled after completion"

def poll (cs : Cancellations) (w : Wait) (s : Semaphore) :
    Poll (Except Fault Unit) × Wait × Semaphore :=
  match w with
  | .ready (some r) => (.ready r, .ready none, s)
  | .ready none => (.ready (.error pollAfterCompletion), .ready none, s)
  | .queued t token =>
      if cs.hits token then
        if s.isQueued t then (.ready (.error .cancelled), .ready none, s.withdraw t)
        else if s.isGranted t then (.ready (.ok ()), .ready none, s.collect t)
        else (.ready (.error .cancelled), .ready none, s)
      else if s.isGranted t then (.ready (.ok ()), .ready none, s.collect t)
      else if s.isQueued t then (.pending, w, s)
      else (.ready (.error .cancelled), .ready none, s)

def drop (cs : Cancellations) (w : Wait) (s : Semaphore) : Semaphore :=
  match w with
  | .ready _ => s
  | .queued t _ =>
      if s.isQueued t then s.withdraw t
      else if s.isGranted t then
        let s := s.collect t
        match s.releaseUnits cs 1 with
        | .ok s' => s'
        | .error _ => s
      else s

end Wait

end Sluice
