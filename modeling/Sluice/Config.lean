import Sluice.Fault
import Sluice.Poll
import Sluice.Text.Blank
import Sluice.Text.Decimal
import Sluice.Text.Quote
/-!
# Settings

The tunable numbers of a byte pipe and of a runtime, their consistency check, and how they
are read from environment variables.

* `PipeOptions` — the receive buffer size and the two backpressure thresholds.
* `PipeOptions.check` — a buffer of at least one byte, and a resume threshold not above the
  pause threshold.
* `Settings` — pipe options plus the switch for the waiter gauge.
* `Settings.ofLookup` — read the four variables in a fixed order; the first malformed one
  fails; the consistency check runs last.
* `Settings.ofEntries` — set up an environment from name and value pairs, then read it; a
  pair that no process environment can hold is refused first.

A flag value is trimmed of blank characters and must then be one of six exact tokens. A size
value is trimmed and must then follow `Sluice.Text.readDecimal`. Error texts quote the value
as it was given, before trimming.
-/

namespace Sluice

/-- The sizes that govern a byte pipe: how many bytes the writer reserves for a receive,
how many unread bytes make a flush wait, and how few let it go on. -/
structure PipeOptions where
  receiveBufferSize : Nat := 4096
  -- unread bytes at which a flush starts to wait; zero turns waiting off
  pauseWriterThreshold : Nat := 65536
  -- unread bytes at or below which a waiting flush goes on
  resumeWriterThreshold : Nat := 32768
  deriving DecidableEq, Repr, Inhabited

/-- The consistency check of pipe options. -/
def PipeOptions.check (o : PipeOptions) : Except Fault Unit :=
  if o.receiveBufferSize = 0 then
    .error (.invalidConfig "receive_buffer_size must be at least 1")
  else if o.resumeWriterThreshold > o.pauseWriterThreshold then
    .error (.invalidConfig ("resume_writer_threshold (" ++ toString o.resumeWriterThreshold ++
      ") exceeds pause_writer_threshold (" ++ toString o.pauseWriterThreshold ++ ")"))
  else .ok ()

/-- The settings of a runtime. -/
structure Settings where
  -- whether semaphores made by the runtime count their queued waiters on a shared gauge
  waiterMetrics : Bool := false
  pipe : PipeOptions := {}
  deriving DecidableEq, Repr, Inhabited

/-- The consistency check of settings: that of their pipe options. -/
def Settings.check (s : Settings) : Except Fault Unit :=
  s.pipe.check

/-- The six flag tokens: exactly `True`, `true`, `1` and `False`, `false`, `0`. -/
def parseFlag : String → Option Bool
  | "True" => some true
  | "true" => some true
  | "1" => some true
  | "False" => some false
  | "false" => some false
  | "0" => some false
  | _ => none

def metricsVar : String := "CONDUIT_ASYNC_WAITER_METRICS"

def receiveBufferVar : String := "CONDUIT_RECEIVE_BUFFER_SIZE"

def pauseVar : String := "CONDUIT_PAUSE_WRITER_THRESHOLD"

def resumeVar : String := "CONDUIT_RESUME_WRITER_THRESHOLD"

def readFlagVar (key raw : String) : Except Fault Bool :=
  match parseFlag (Text.trimBlank raw) with
  | some b => .ok b
  | none => .error (.invalidConfig (key ++ " expects a boolean, got " ++ Text.quote raw))

def readSizeVar (key raw : String) : Except Fault Nat :=
  match Text.readDecimal (Text.trimBlank raw) with
  | .ok n => .ok n
  | .error e =>
      .error (.invalidConfig (key ++ " expects a non-negative integer, got " ++ Text.quote raw ++
        ": " ++ e.message))

/-- Read an optional variable, keeping `dflt` when it is unset. -/
def readVar {α : Type} (lookup : String → Option String) (key : String) (dflt : α)
    (read : String → String → Except Fault α) : Except Fault α :=
  match lookup key with
  | some raw => read key raw
  | none => .ok dflt

/-- Settings from a variable lookup: the four variables in order, then the check. -/
def Settings.ofLookup (lookup : String → Option String) : Except Fault Settings := do
  let d : Settings := {}
  let metrics ← readVar lookup metricsVar d.waiterMetrics readFlagVar
  let size ← readVar lookup receiveBufferVar d.pipe.receiveBufferSize readSizeVar
  let pause ← readVar lookup pauseVar d.pipe.pauseWriterThreshold readSizeVar
  let resume ← readVar lookup resumeVar d.pipe.resumeWriterThreshold readSizeVar
  let s : Settings :=
    { waiterMetrics := metrics
      pipe := { receiveBufferSize := size, pauseWriterThreshold := pause,
                resumeWriterThreshold := resume } }
  s.check
  pure s

/-- Settings from an environment given as name and value pairs. -/
def Settings.ofEnvironment (env : List (String × String)) : Except Fault Settings :=
  Settings.ofLookup fun key => List.lookup key env

/-- Whether a process environment can hold a variable: the name is not empty and holds
neither `=` nor NUL, and the value holds no NUL. -/
def canHoldVariable (name value : String) : Bool :=
  !name.isEmpty && !name.contains '=' && !name.contains (Char.ofNat 0) &&
    !value.contains (Char.ofNat 0)

/-- Settings from an environment set up from name and value pairs. The environment is set
up before anything is read, so a pair it cannot hold is refused whatever the variables say. -/
def Settings.ofEntries (env : List (String × String)) : Outcome Settings :=
  if env.all fun (name, value) => canHoldVariable name value then
    .ofExcept (Settings.ofEnvironment env)
  else .misuse "env entry cannot be set"

end Sluice
