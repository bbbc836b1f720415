import Sluice.Fault
/-!
# Polls and step outcomes

* `Poll` — the result of polling a suspended computation once: still pending, or ready
  with a value.
* `Outcome` — what one step of a session answers: a value, a fault, still pending, already
  finished on an earlier poll, or a misuse of the session itself (an unknown handle, a busy
  end), which is not a fault of the library.
-/

namespace Sluice

/-- The result of polling once. -/
inductive Poll (α : Type) where
  | pending
  | ready (value : α)
  deriving DecidableEq, Repr, Inhabited

/-- What a step of a session answers. -/
inductive Outcome (α : Type) where
  | done (value : α)
  -- the library reported a fault
  | failed (fault : Fault)
  | pending
  -- the polled computation had already finished on an earlier poll
  | finished
  -- the step itself was malformed for the session: the text says how
  | misuse (why : String)
  deriving Inhabited

/-- A result of the library as a step outcome. -/
def Outcome.ofExcept {α : Type} : Except Fault α → Outcome α
  | .ok a => .done a
  | .error f => .failed f

/-- A poll of a fallible computation as a step outcome. -/
def Outcome.ofPoll {α : Type} : Poll (Except Fault α) → Outcome α
  | .pending => .pending
  | .ready r => .ofExcept r

def Outcome.map {α β : Type} (f : α → β) : Outcome α → Outcome β
  | .done a => .done (f a)
  | .failed e => .failed e
  | .pending => .pending
  | .finished => .finished
  | .misuse why => .misuse why

end Sluice
