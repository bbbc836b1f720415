import Sluice.Fault
import Sluice.Poll
/-!
# Cancelable operation scopes

A scope runs one operation as a task, with a cancellation token of its own: a child of an
optional outer token, so cancelling either cancels the scope's token. The operation is made
synchronously first; if making it fails, there is no scope. Once the task ends, the scope
records exactly one outcome, in order (the value, then the status, then its done flag):

* success stores the output, to be taken at most once;
* a cancellation fault makes the scope cancelled;
* any other fault, or a panic of the task, makes it faulted (a panic as an internal fault).

`completion` waits for the done flag and answers by the outcome; `dispose` cancels the token
and waits for the done flag.

* `Status`, `Scope`, `TaskEnd.status`, `Scope.finish` (`storeOutput`, `record`, `signal`),
  `Scope.completion`, `Scope.takeOutput`.
-/

namespace Sluice

/-- The outcome a scope has recorded: none while the operation runs, a value, a cancellation,
or a fault for a failure or a panic. -/
inductive Status where
  | running
  | succeeded
  | cancelled
  | faulted (fault : Fault)
  deriving DecidableEq, Repr, Inhabited

/-- How the operation's task ended. -/
inductive TaskEnd where
  | returned (result : Except Fault Nat)
  | panicked
  deriving Inhabited

/-- The fault recorded for an operation that panicked. -/
def panickedFault : Fault :=
  .internal "scoped operation panicked or was aborted"

/-- The state of a scope. -/
structure Scope where
  status : Status := .running
  -- the operation's value, until taken
  output : Option Nat := none
  -- whether the outcome has been recorded
  done : Bool := false
  cancelRequested : Bool := false
  -- the outer token's state, when there is an outer token
  outer : Option Bool := none
  deriving DecidableEq, Repr, Inhabited

/-- The status an end of the task records: success for a value, a cancellation for a
cancellation fault, and a fault otherwise, a panic as `panickedFault`. -/
def TaskEnd.status : TaskEnd → Status
  | .returned (.ok _) => .succeeded
  | .returned (.error e) => if e.isCancelled then .cancelled else .faulted e
  | .panicked => .faulted panickedFault

namespace Scope

/-- Whether the scope's token is cancelled: its own cancellation or the outer token's. -/
def tokenCancelled (s : Scope) : Bool :=
  s.cancelRequested || s.outer == some true

/-- Store the value of a task that returned one. -/
def storeOutput (s : Scope) : TaskEnd → Scope
  | .returned (.ok v) => { s with output := some v }
  | _ => s

def record (s : Scope) (status : Status) : Scope :=
  { s with status }

def signal (s : Scope) : Scope :=
  { s with done := true }

/-- Record how the task ended, in three steps: store its value, then record its status, then
set the done flag. -/
def finish (s : Scope) (e : TaskEnd) : Scope :=
  ((s.storeOutput e).record e.status).signal

def isCompleted (s : Scope) : Bool :=
  s.status != .running

def isCanceled (s : Scope) : Bool :=
  s.status == .cancelled

def fault (s : Scope) : Option Fault :=
  match s.status with
  | .faulted e => some e
  | _ => none

/-- Completion, once the done flag is set: by the recorded outcome. -/
def completion (s : Scope) : Poll (Except Fault Unit) :=
  if !s.done then .pending
  else
    match s.status with
    | .succeeded => .ready (.ok ())
    | .cancelled => .ready (.error .cancelled)
    | .faulted e => .ready (.error e)
    | .running => .ready (.error (.internal "scope signalled before completion"))

/-- Take the output; it is there at most once. -/
def takeOutput (s : Scope) : Scope × Option Nat :=
  ({ s with output := none }, s.output)

def cancel (s : Scope) : Scope :=
  { s with cancelRequested := true }

/-- Cancel the outer token, if there is one. -/
def cancelOuter (s : Scope) : Scope :=
  { s with outer := s.outer.map fun _ => true }

end Scope

end Sluice
