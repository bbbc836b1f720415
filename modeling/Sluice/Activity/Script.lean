import Sluice.Registry
import Sluice.Activity.Basic
/-!
# Scripted activities

Hooks that follow a script, for exercising the lifecycle: each start or stop hook counts
itself, takes the next plan of its list (an exhausted list means an empty plan), and then
follows it. A plan may hold the hook until a gate of the script is open, checked again at
every poll; a start hook may also watch its call's token and give up with a cancellation
while it holds, and a cancelled token wins over an open gate. Then the hook fails with the
plan's fault, or succeeds.

The session keeps lifecycle calls under names: `start`, `stop` and `dispose` make a call and
poll it once, after dropping any call of the same name; `poll` polls it again, `drop`
abandons it.

* `Plan`, `Script`, `ScriptHook`, `scriptHooks`.
* `Activity.Command`, `Activity.Reply`, `Activity.Session`, `Activity.Session.step`.
-/

namespace Sluice

/-- What one scripted hook does. -/
structure Plan where
  -- wait for the script's gate to open
  hold : Bool := false
  -- while holding, give up when the start token is cancelled
  watchCancel : Bool := false
  fail : Option Fault := none
  deriving DecidableEq, Repr, Inhabited

/-- The world of scripted hooks: the plans still to come, the hook counts and the gate. -/
structure Script where
  startPlans : List Plan := []
  stopPlans : List Plan := []
  starts : Nat := 0
  stops : Nat := 0
  -- whether the gate that holding hooks wait for is open
  gateOpen : Bool := false
  deriving DecidableEq, Repr, Inhabited

/-- A running scripted hook: its plan and the token it may watch. -/
structure ScriptHook where
  plan : Plan
  -- the start call's token; none for a stop hook
  token : Option Token
  deriving DecidableEq, Repr, Inhabited

/-- The first plan of a list and the rest; an empty list gives the empty plan. -/
def nextPlan : List Plan → Plan × List Plan
  | [] => ({}, [])
  | p :: ps => (p, ps)

def ScriptHook.poll (cs : Cancellations) (w : Script) (h : ScriptHook) :
    Poll (Except Fault Unit) :=
  if h.plan.hold && h.plan.watchCancel && cs.hits h.token then .ready (.error .cancelled)
  else if h.plan.hold && !w.gateOpen then .pending
  else
    match h.plan.fail with
    | some f => .ready (.error f)
    | none => .ready (.ok ())

def scriptHooks : Hooks Script ScriptHook where
  beginStart token w :=
    let (plan, rest) := nextPlan w.startPlans
    ({ w with starts := w.starts + 1, startPlans := rest }, { plan, token })
  beginStop w :=
    let (plan, rest) := nextPlan w.stopPlans
    ({ w with stops := w.stops + 1, stopPlans := rest }, { plan, token := none })
  pollHook cs w h := (w, h.poll cs w, h)

namespace Activity

/-- A command of an activity session. -/
inductive Command where
  | start (id : String) (token : Option Token)
  | stop (id : String)
  | dispose (id : String)
  | poll (id : String)
  | drop (id : String)
  | openGate
  | closeGate
  | cancel (token : Token)
  | handle
  | isRunning
  deriving Repr

/-- The value a successful command answers. -/
inductive Reply where
  | unit
  | flag (b : Bool)
  | number (n : Nat)
  deriving DecidableEq, Repr

/-- A scripted activity, its named calls and the cancelled tokens. -/
structure Session where
  activity : Activity := {}
  script : Script
  calls : Registry (Call ScriptHook) := {}
  cancellations : Cancellations := {}
  -- whether the gate reports to a waiter gauge
  metered : Bool
  -- the activity's handle: one when made by a runtime, zero otherwise
  handle : Nat

namespace Session

/-- A session on a new activity, made by a runtime when `metered`. -/
def create (startPlans stopPlans : List Plan) (metered : Bool) : Session :=
  { script := { startPlans, stopPlans }, metered, handle := if metered then 1 else 0 }

def gauge (s : Session) : Option Int :=
  if s.metered then some s.activity.gate.gaugeShare else none

/-- Store a call step's results, with the call under `id`, and answer what its poll saw. -/
def record (s : Session) (id : String) (r : CallStep Script ScriptHook) :
    Session × Outcome Reply :=
  let (activity, script, call, p) := r
  ({ s with activity, script, calls := s.calls.put id call },
   (Outcome.ofPoll p).map fun _ => .unit)

/-- Drop any call of that name, then make a call, poll it once, and keep it under `id`. -/
def launch (s : Session) (id : String) (kind : Transition) (token : Option Token) :
    Session × Outcome Reply :=
  let cs := s.cancellations
  let activity := match s.calls.find? id with
    | some old => Activity.drop cs old s.activity
    | none => s.activity
  s.record id (Activity.begin scriptHooks cs kind token activity s.script)

/-- Run one command. -/
def step (s : Session) : Command → Session × Outcome Reply
  | .start id token => s.launch id .start token
  | .stop id => s.launch id .stop none
  | .dispose id => s.launch id .dispose none
  | .poll id =>
      match s.calls.find? id with
      | none => (s, unknownCall id)
      | some c =>
          match Activity.poll scriptHooks s.cancellations c s.activity s.script with
          | none => (s, .finished)
          | some r => s.record id r
  | .drop id =>
      match s.calls.find? id with
      | none => (s, unknownCall id)
      | some c =>
          ({ s with activity := Activity.drop s.cancellations c s.activity,
                    calls := s.calls.remove id }, .done .unit)
  | .openGate => ({ s with script := { s.script with gateOpen := true } }, .done .unit)
  | .closeGate => ({ s with script := { s.script with gateOpen := false } }, .done .unit)
  | .cancel t => ({ s with cancellations := s.cancellations.cancel t }, .done .unit)
  | .handle => (s, .done (.number s.handle))
  | .isRunning => (s, .done (.flag s.activity.isRunning))
where
  unknownCall (id : String) : Outcome Reply := .misuse ("no future named " ++ id)

end Session

end Activity

end Sluice
