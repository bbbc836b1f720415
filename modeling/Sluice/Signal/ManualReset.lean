import Sluice.Signal.Completion
/-!
# Manual-reset signals

A manual-reset signal stays set until it is reset. Setting sets the live completion;
resetting a set signal starts a new, unset completion, so waits already released stay
released and new waits bind to the new completion. Resetting an unset signal does nothing.

* `ManualSignal` — the completions and the live one.
* `ManualSignal.create`, `ManualSignal.set`, `ManualSignal.reset`, `ManualSignal.isSet`.
-/

namespace Sluice

/-- The state of a manual-reset signal. -/
structure ManualSignal where
  completions : Completions
  -- the completion that `set` sets and new waits bind to
  live : Nat
  deriving DecidableEq, Repr, Inhabited

namespace ManualSignal

def create (initiallySet : Bool) : ManualSignal :=
  let (completions, live) := Completions.fresh {} initiallySet
  { completions, live }

def isSet (m : ManualSignal) : Bool :=
  m.completions.isSet m.live

def set (m : ManualSignal) : ManualSignal :=
  { m with completions := m.completions.mark m.live }

/-- Reset the signal: a set signal gets a new, unset completion. -/
def reset (m : ManualSignal) : ManualSignal :=
  if m.isSet then
    let (completions, live) := m.completions.fresh false
    { completions, live }
  else m

end ManualSignal

end Sluice
