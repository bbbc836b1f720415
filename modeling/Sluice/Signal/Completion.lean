import Sluice.Poll
import Sluice.Token
/-!
# One-shot completions

A completion is a flag that goes from unset to set once and never back. Signals that can be
re-armed do so by starting a new completion rather than clearing the old one, so a wait that
has bound itself to a completion keeps watching that one: a later re-arm does not disturb it,
and later settings of the new completion do not reach it.

* `Completions` — every completion made so far, by index, with its flag.
* `SignalWait` — a wait bound to one completion, with an optional cancellation token.
* `SignalWait.begin` — the first poll: a cancelled token fails the wait before it binds;
  otherwise it binds to the live completion and finishes at once if that is set.
* `SignalWait.poll` — a later poll: a set completion wins over a cancelled token.
-/

namespace Sluice

/-- The completions made so far; completion `i` is set when `flags[i]` is `true`. -/
structure Completions where
  flags : List Bool := []
  deriving DecidableEq, Repr, Inhabited

namespace Completions

/-- Make a new completion, set or unset, and return its index. -/
def fresh (c : Completions) (set : Bool) : Completions × Nat :=
  ({ flags := c.flags ++ [set] }, c.flags.length)

def isSet (c : Completions) (i : Nat) : Bool :=
  c.flags.getD i false

def mark (c : Completions) (i : Nat) : Completions :=
  { flags := c.flags.set i true }

end Completions

/-- A wait on a completion: bound to one and cancellable through the token, or finished once it
has given its result. -/
inductive SignalWait where
  | bound (completion : Nat) (token : Option Token)
  | finished
  deriving DecidableEq, Repr, Inhabited

namespace SignalWait

/-- The first poll of a new wait on the live completion `live`. -/
def begin (cs : Cancellations) (c : Completions) (live : Nat) (token : Option Token) :
    Poll (Except Fault Unit) × SignalWait :=
  if cs.hits token then (.ready (.error .cancelled), .finished)
  else if c.isSet live then (.ready (.ok ()), .finished)
  else (.pending, .bound live token)

/-- A later poll; `none` when the wait had already finished. -/
def poll (cs : Cancellations) (c : Completions) :
    SignalWait → Option (Poll (Except Fault Unit)) × SignalWait
  | .finished => (none, .finished)
  | .bound i token =>
      if c.isSet i then (some (.ready (.ok ())), .finished)
      else if cs.hits token then (some (.ready (.error .cancelled)), .finished)
      else (some .pending, .bound i token)

end SignalWait

end Sluice
