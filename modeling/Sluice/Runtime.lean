import Sluice.Config
/-!
# Runtimes

A runtime bundles checked settings with the waiter gauge that its semaphores share, and
numbers the objects it makes.

* `Runtime` — settings, the optional gauge and the next handle.
* `Runtime.create` — check the settings first; the gauge exists exactly when the settings
  switch it on, and starts at zero.
* `Runtime.standard` — the runtime of the default settings, which is what an environment
  without any of the four variables gives.
* `version` — the library version.
-/

namespace Sluice

/-- The library version as major, minor and patch numbers. -/
def version : Nat × Nat × Nat := (0, 1, 0)

/-- A runtime: settings, the waiter gauge when metrics are on, and the next object handle. -/
structure Runtime where
  settings : Settings
  -- the number of queued semaphore waiters, when the gauge is on
  gauge : Option Int
  -- the handle the next object made by this runtime gets; runtime handles start at one
  nextHandle : Nat
  deriving DecidableEq, Repr

/-- A runtime for the given settings, once they pass their check. -/
def Runtime.create (s : Settings) : Except Fault Runtime := do
  s.check
  pure { settings := s, gauge := if s.waiterMetrics then some 0 else none, nextHandle := 1 }

/-- The settings read from an environment that sets none of the variables. -/
def Settings.ofBlankEnvironment : Except Fault Settings :=
  Settings.ofLookup fun _ => none

/-- The runtime of the default settings. -/
def Runtime.standard : Runtime :=
  { settings := {}, gauge := none, nextHandle := 1 }

end Sluice
