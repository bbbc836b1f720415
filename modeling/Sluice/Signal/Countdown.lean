import Sluice.Fault
import Sluice.Text.Decimal
import Sluice.Signal.Completion
/-!
# Countdown signals

A countdown is set when its count reaches zero. Signalling lowers the count, adding raises
it while it is above zero, and a reset re-arms it with a new count and a new completion.

* `Countdown` — the initial and current counts, the completions, and the live one.
* `Countdown.addCount`, `Countdown.tryAddCount`, `Countdown.signal`, `Countdown.reset`,
  `Countdown.resetToInitial`, `Countdown.isSet`.

Steps of zero are refused first. Counts are 64-bit, so an addition past `2 ^ 64 - 1` is
refused. A signal answers `true` exactly when it brought the count to zero, and then sets
the live completion.
-/

namespace Sluice

/-- The state of a countdown signal. -/
structure Countdown where
  -- the count of the last reset, or of creation
  initial : Nat
  current : Nat
  completions : Completions
  -- the completion that new waits bind to
  live : Nat
  deriving DecidableEq, Repr, Inhabited

def checkStep (n : Nat) : Except Fault Unit :=
  if n = 0 then .error (.invalidArgument "countdown step must be at least 1") else .ok ()

namespace Countdown

/-- A countdown from `n`; it is set from the start when `n` is zero. -/
def create (n : Nat) : Countdown :=
  let (completions, live) := Completions.fresh {} (n == 0)
  { initial := n, current := n, completions, live }

def isSet (c : Countdown) : Bool :=
  c.current == 0

def addCount (c : Countdown) (n : Nat) : Except Fault Countdown := do
  checkStep n
  if c.current = 0 then throw (.invalidState "countdown already completed")
  if c.current + n > Text.wordMax then throw (.invalidArgument "countdown count would overflow")
  pure { c with current := c.current + n }

/-- Raise the count by `n`, answering `false` instead of failing when it is already zero. -/
def tryAddCount (c : Countdown) (n : Nat) : Except Fault (Bool × Countdown) :=
  match c.addCount n with
  | .ok c' => .ok (true, c')
  | .error (.invalidState _) => .ok (false, c)
  | .error e => .error e

/-- Lower the count by `n`; answer whether it reached zero. -/
def signal (c : Countdown) (n : Nat) : Except Fault (Bool × Countdown) := do
  checkStep n
  if n > c.current then throw (.invalidState "countdown signalled below zero")
  let next := c.current - n
  if next = 0 then pure (true, { c with current := 0, completions := c.completions.mark c.live })
  else pure (false, { c with current := next })

/-- Re-arm with count `n` and a new completion, set when `n` is zero. -/
def reset (c : Countdown) (n : Nat) : Countdown :=
  let (completions, live) := c.completions.fresh (n == 0)
  { initial := n, current := n, completions, live }

def resetToInitial (c : Countdown) : Countdown :=
  c.reset c.initial

end Countdown

end Sluice
