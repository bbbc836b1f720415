import Sluice.Semaphore.Wait
/-!
# Activities

An activity is something that can be started, stopped and disposed of, where starting and
stopping run hooks that may take time. A one-unit semaphore, the gate, admits one
transition at a time; a transition holds the gate's unit (its slot) from admission until it
ends.

The phases are `stopped`, `starting`, `started`, `stopping` and `disposed`. Giving up the
slot puts a transitional phase (`starting`, `stopping`) back to `stopped` and returns the
unit to the gate, so an abandoned transition never leaves the activity half-way.

* `start` — refuses a disposed activity; a started activity needs nothing. Otherwise it is
  admitted through the gate with the caller's token, checks both again, enters `starting`,
  and runs the start hook: success makes the activity `started`, a failure gives up the slot.
* `stop` — refuses a disposed activity; anything but `started` needs nothing. Otherwise it is
  admitted, checks again, enters `stopping`, runs the stop hook, and ends `stopped` whatever
  the hook answered.
* `dispose` — the first call marks the activity disposed at once, is admitted, stops it as
  `stop` would and ends in `disposed`; later calls succeed at once.

Hooks are a parameter: `Hooks W H` says how to begin a start or stop hook on a world `W`,
giving a running hook of type `H`, and how to poll a running hook.

* `Phase`, `Activity`, `Hooks`, `Transition`, `Call`.
* `Activity.begin`, `Activity.poll`, `Activity.drop`.
-/

namespace Sluice

/-- The lifecycle phase of an activity. -/
inductive Phase where
  | stopped
  | starting
  | started
  | stopping
  | disposed
  deriving DecidableEq, Repr, Inhabited

/-- The state of an activity: its phase, whether disposal has begun, and its gate. -/
structure Activity where
  phase : Phase := .stopped
  -- whether a dispose call has begun
  disposed : Bool := false
  -- the one-unit gate that admits one transition at a time
  gate : Semaphore := Semaphore.singleSlot
  deriving DecidableEq, Repr, Inhabited

/-- How an activity's hooks act on a world `W`; `H` is a running hook. -/
structure Hooks (W H : Type) where
  -- begin the start hook, given the start call's token
  beginStart : Option Token → W → W × H
  beginStop : W → W × H
  pollHook : Cancellations → W → H → W × Poll (Except Fault Unit) × H

inductive Transition where
  | start
  | stop
  | dispose
  deriving DecidableEq, Repr, Inhabited

/-- A lifecycle call in flight: waiting for the gate, holding the slot while a hook runs, or
finished with its result given. -/
inductive Call (H : Type) where
  | admitting (kind : Transition) (token : Option Token) (wait : Wait)
  | running (kind : Transition) (hook : H)
  | finished
  deriving Inhabited

def disposedFault : Fault :=
  .disposed "activity"

/-- The result of a call step: the activity, the world, the call, and what the poll saw. -/
abbrev CallStep (W H : Type) := Activity × W × Call H × Poll (Except Fault Unit)

namespace Activity

variable {W H : Type} (hooks : Hooks W H) (cs : Cancellations)

def isRunning (a : Activity) : Bool :=
  a.phase == .started

/-- Give up the slot: a transitional phase falls back to `stopped`, and the gate gets its
unit back. -/
def leave (a : Activity) : Activity :=
  let phase := match a.phase with
    | .starting => .stopped
    | .stopping => .stopped
    | p => p
  let gate := match a.gate.release cs 1 with
    | .ok g => g
    | .error _ => a.gate
  { a with phase, gate }

/-- End a call while holding the slot: give the slot up and report `r`. -/
def finishWith (a : Activity) (w : W) (r : Except Fault Unit) : CallStep W H :=
  (leave cs a, w, .finished, .ready r)

/-- A hook has ended with `r`. -/
def complete (kind : Transition) (a : Activity) (w : W) (r : Except Fault Unit) :
    CallStep W H :=
  match kind, r with
  | .start, .ok () => finishWith cs { a with phase := .started } w (.ok ())
  | .start, .error e => finishWith cs a w (.error e)
  | .stop, r => finishWith cs { a with phase := .stopped } w r
  | .dispose, r => finishWith cs { a with phase := .disposed } w r

def runHook (kind : Transition) (a : Activity) (w : W) (h : H) : CallStep W H :=
  let (w, p, h) := hooks.pollHook cs w h
  match p with
  | .pending => (a, w, .running kind h, .pending)
  | .ready r => complete cs kind a w r

/-- Act once the slot is held. -/
def admitted (kind : Transition) (token : Option Token) (a : Activity) (w : W) :
    CallStep W H :=
  match kind with
  | .start =>
      if a.disposed then finishWith cs a w (.error disposedFault)
      else if a.isRunning then finishWith cs a w (.ok ())
      else
        let (w, h) := hooks.beginStart token w
        runHook hooks cs .start { a with phase := .starting } w h
  | .stop =>
      if !a.isRunning then finishWith cs a w (.ok ())
      else
        let (w, h) := hooks.beginStop w
        runHook hooks cs .stop { a with phase := .stopping } w h
  | .dispose =>
      if !a.isRunning then complete cs .dispose a w (.ok ())
      else
        let (w, h) := hooks.beginStop w
        runHook hooks cs .dispose { a with phase := .stopping } w h

def pollGate (kind : Transition) (token : Option Token) (a : Activity) (w : W) (wait : Wait) :
    CallStep W H :=
  let (p, wait, gate) := wait.poll cs a.gate
  let a := { a with gate }
  match p with
  | .pending => (a, w, .admitting kind token wait, .pending)
  | .ready (.error e) => (a, w, .finished, .ready (.error e))
  | .ready (.ok ()) => admitted hooks cs kind token a w

/-- Ask the gate for the slot and poll the wait once. -/
def enter (kind : Transition) (token : Option Token) (a : Activity) (w : W) :
    CallStep W H :=
  let (gate, adm) := a.gate.acquire cs token
  pollGate hooks cs kind token { a with gate } w (Wait.ofAdmission token adm)

/-- Make a call and poll it once. The token is the start call's; stop and dispose calls
pass none. -/
def begin (kind : Transition) (token : Option Token) (a : Activity) (w : W) :
    CallStep W H :=
  match kind with
  | .start =>
      if a.disposed then (a, w, .finished, .ready (.error disposedFault))
      else if a.isRunning then (a, w, .finished, .ready (.ok ()))
      else enter hooks cs .start token a w
  | .stop =>
      if a.disposed then (a, w, .finished, .ready (.error disposedFault))
      else if !a.isRunning then (a, w, .finished, .ready (.ok ()))
      else enter hooks cs .stop none a w
  | .dispose =>
      if a.disposed then (a, w, .finished, .ready (.ok ()))
      else enter hooks cs .dispose none { a with disposed := true } w

/-- Poll a call again; `none` when it had already finished. -/
def poll (c : Call H) (a : Activity) (w : W) : Option (CallStep W H) :=
  match c with
  | .admitting kind token wait => some (pollGate hooks cs kind token a w wait)
  | .running kind h => some (runHook hooks cs kind a w h)
  | .finished => none

/-- Drop a call: a gate wait is withdrawn, a running hook is abandoned and its slot given
up. -/
def drop (c : Call H) (a : Activity) : Activity :=
  match c with
  | .admitting _ _ wait => { a with gate := wait.drop cs a.gate }
  | .running _ _ => leave cs a
  | .finished => a

end Activity

end Sluice
