import Sluice.Scope.Basic
/-!
# Scope sessions

A session starts a scope on a scripted operation and drives it with a script. After every
command the operation's task runs until it waits or ends. `completion` and `dispose` wait
for the task: if it cannot end once it waits, they answer pending. Cancelling the outer
token of a scope started without one is refused.

A scripted operation yields a number of times, then follows its mode: return its value,
fail with its fault, panic, wait for the scope's token and then fail with a cancellation
(`cooperative`) or return the value (`cancelThenValue`), wait for the script's gate and
return the value (`gate`), or return the value on the gate and a cancellation on the token,
whichever comes first, the token when both are there (`gateOrCancel`), or wait for the gate
and then fail with its fault (`gateThenFail`) or panic (`gateThenPanic`). A mode the script
does not know fails with an internal fault once the yields are done.

* `Mode`, `Operation`, `Operation.poll`.
* `ScopeRun.Command`, `ScopeRun.Reply`, `ScopeRun.Session`, `ScopeRun.Session.start`,
  `ScopeRun.Session.step`.
-/

namespace Sluice

/-- What a scripted operation does after its yields. -/
inductive Mode where
  | value
  | fail
  | panic
  | cooperative
  | cancelThenValue
  | gate
  | gateOrCancel
  | gateThenFail
  | gateThenPanic
  -- a mode the script does not know: the operation fails with an internal fault
  | unrecognised
  deriving DecidableEq, Repr, Inhabited

/-- A scripted operation. -/
structure Operation where
  mode : Mode := .value
  value : Nat := 0
  -- how many times it yields first
  yields : Nat := 0
  -- the fault it fails with in modes `fail` and `gateThenFail`
  fail : Fault := .internal ""
  -- the fault that making it fails with, if any
  syncFail : Option Fault := none
  deriving DecidableEq, Repr, Inhabited

/-- What one poll of the operation did: it yielded and asks to be polled again, it waits for the
gate or the token, or it ended. -/
inductive OperationStep where
  | yielded
  | waiting
  | ended (e : TaskEnd)
  deriving Inhabited

namespace Operation

/-- Poll the operation, given the token and gate states; answers the operation with one
yield fewer when it yielded. -/
def poll (op : Operation) (cancelled gateOpen : Bool) : Operation × OperationStep :=
  match op.yields with
  | n + 1 => ({ op with yields := n }, .yielded)
  | 0 =>
      (op, match op.mode with
        | .value => .ended (.returned (.ok op.value))
        | .fail => .ended (.returned (.error op.fail))
        | .panic => .ended .panicked
        | .cooperative => if cancelled then .ended (.returned (.error .cancelled)) else .waiting
        | .cancelThenValue => if cancelled then .ended (.returned (.ok op.value)) else .waiting
        | .gate => if gateOpen then .ended (.returned (.ok op.value)) else .waiting
        | .gateOrCancel =>
            if cancelled then .ended (.returned (.error .cancelled))
            else if gateOpen then .ended (.returned (.ok op.value))
            else .waiting
        | .gateThenFail => if gateOpen then .ended (.returned (.error op.fail)) else .waiting
        | .gateThenPanic => if gateOpen then .ended .panicked else .waiting
        | .unrecognised => .ended (.returned (.error (.internal "unknown scripted mode"))))

end Operation

namespace ScopeRun

/-- A command of a scope session. -/
inductive Command where
  | settle
  | cancel
  | cancelOuter
  | openGate
  | completion
  | dispose
  | takeOutput
  deriving DecidableEq, Repr

/-- The value a successful command answers. -/
inductive Reply where
  | unit
  | output (v : Option Nat)
  deriving DecidableEq, Repr

/-- A scope, its operation's task and the script's gate. -/
structure Session where
  scope : Scope
  -- the operation, while its task runs
  task : Option Operation
  gateOpen : Bool := false
  deriving DecidableEq, Repr, Inhabited

namespace Session

/-- Start a scope on an operation, with an outer token (and its state) or none. Making the
operation may fail, and then there is no scope. -/
def start (op : Operation) (outer : Option Bool) : Except Fault Session :=
  match op.syncFail with
  | some f => .error f
  | none => .ok { scope := { outer }, task := some op }

/-- Run the task until it waits or ends, at most `fuel` polls. -/
def runFor : Nat → Session → Session
  | 0, s => s
  | fuel + 1, s =>
      match s.task with
      | none => s
      | some op =>
          let (op, st) := op.poll s.scope.tokenCancelled s.gateOpen
          match st with
          | .yielded => runFor fuel { s with task := some op }
          | .waiting => { s with task := some op }
          | .ended e => { s with task := none, scope := s.scope.finish e }

/-- Run the task until it waits or ends. -/
def settle (s : Session) : Session :=
  runFor ((s.task.map Operation.yields).getD 0 + 2) s

/-- Run one command, before settling. -/
def act (s : Session) : Command → Session × Outcome Reply
  | .settle => (s, .done .unit)
  | .cancel => ({ s with scope := s.scope.cancel }, .done .unit)
  | .cancelOuter =>
      if s.scope.outer.isSome then ({ s with scope := s.scope.cancelOuter }, .done .unit)
      else (s, .misuse "no external token")
  | .openGate => ({ s with gateOpen := true }, .done .unit)
  | .completion =>
      let s := s.settle
      (s, (Outcome.ofPoll s.scope.completion).map fun _ => .unit)
  | .dispose =>
      let s := { s with scope := s.scope.cancel }.settle
      (s, if s.scope.done then .done .unit else .pending)
  | .takeOutput =>
      let (scope, v) := s.scope.takeOutput
      ({ s with scope }, .done (.output v))

/-- Run one command and then let the task run. -/
def step (s : Session) (c : Command) : Session × Outcome Reply :=
  let (s, o) := s.act c
  (s.settle, o)

end Session

end ScopeRun

end Sluice
