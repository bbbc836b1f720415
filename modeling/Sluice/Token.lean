/-!
# Cancellation tokens

A cancellation token is a one-way switch: once cancelled it stays cancelled. Tokens are
known by name, and which of them have been cancelled is a plain set, `Cancellations`, that
every operation which looks at tokens reads.

* `Token` — a token by name.
* `Cancellations` — the cancelled tokens; `cancel` adds one, `isCancelled` asks.
* `Cancellations.hits` — whether an optional token is present and cancelled.
-/

namespace Sluice

/-- A cancellation token, known by its name. -/
structure Token where
  name : String
  deriving DecidableEq, Repr, Inhabited

/-- The set of cancelled tokens. -/
structure Cancellations where
  fired : List Token := []
  deriving DecidableEq, Repr, Inhabited

namespace Cancellations

def isCancelled (cs : Cancellations) (t : Token) : Bool :=
  cs.fired.contains t

/-- Cancel a token; cancelling twice changes nothing. -/
def cancel (cs : Cancellations) (t : Token) : Cancellations :=
  if cs.fired.contains t then cs else { fired := t :: cs.fired }

/-- Whether an optional token is present and cancelled; no token is never cancelled. -/
def hits (cs : Cancellations) : Option Token → Bool
  | none => false
  | some t => cs.isCancelled t

end Cancellations

end Sluice
