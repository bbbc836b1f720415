/-!
# Faults

Every fallible operation of the library reports a `Fault`. A fault has a kind (its
constructor) and a one-line rendering, `Fault.message`, which is the text a user sees.

* `IoKind` — the classification of an operating-system I/O failure that matters here:
  whether it means that the peer or the transport closed the connection.
* `Fault` — the library's error type.
* `Fault.ofIo` — the one way an I/O failure enters the library: the three
  "connection is gone" kinds become `Fault.connectionClosed`, the others keep their text.
* `Fault.isCancelled`, `Fault.kindName`, `Fault.message`.
-/

namespace Sluice

/-- The classification of an I/O failure. The three named kinds mean that the other end of
the connection is gone; every other kind is kept under its own name. -/
inductive IoKind where
  | connectionReset
  -- a write hit a pipe or socket whose reading end is closed
  | brokenPipe
  | unexpectedEof
  | other (name : String)
  deriving DecidableEq, Repr, Inhabited

/-- The error type of every fallible operation. -/
inductive Fault where
  | invalidArgument (detail : String)
  -- a release would lift a count above its maximum
  | capacityExceeded (current requested limit : Int64)
  | invalidState (detail : String)
  -- the object, named by the detail, has been disposed
  | disposed (what : String)
  | cancelled
  -- an I/O failure that does not mean the connection is gone
  | io (detail : String)
  -- the peer or the transport closed the connection
  | connectionClosed
  | invalidConfig (detail : String)
  -- a broken internal expectation, such as polling a finished wait again
  | internal (detail : String)
  deriving DecidableEq, Repr, Inhabited

namespace Fault

/-- The fault that an I/O failure of the given kind and text becomes. -/
def ofIo : IoKind → String → Fault
  | .connectionReset, _ => .connectionClosed
  | .brokenPipe, _ => .connectionClosed
  | .unexpectedEof, _ => .connectionClosed
  | .other _, detail => .io detail

def isCancelled : Fault → Bool
  | .cancelled => true
  | _ => false

def kindName : Fault → String
  | .invalidArgument _ => "InvalidArgument"
  | .capacityExceeded .. => "CapacityExceeded"
  | .invalidState _ => "InvalidState"
  | .disposed _ => "Disposed"
  | .cancelled => "Cancelled"
  | .io _ => "Io"
  | .connectionClosed => "ConnectionClosed"
  | .invalidConfig _ => "InvalidConfig"
  | .internal _ => "Internal"

/-- The user-facing rendering of a fault. -/
def message : Fault → String
  | .invalidArgument s => "Invalid argument provided: " ++ s
  | .capacityExceeded c r m =>
      "Capacity exceeded: current count " ++ toString c.toInt ++ " + " ++ toString r.toInt ++
        " would exceed maximum " ++ toString m.toInt
  | .invalidState s => "Operation is invalid for the current state: " ++ s
  | .disposed s => "Object has been disposed: " ++ s
  | .cancelled => "Operation was cancelled"
  | .io s => "I/O error: " ++ s
  | .connectionClosed => "Connection closed by peer or transport"
  | .invalidConfig s => "Invalid configuration: " ++ s
  | .internal s => "Internal library error: " ++ s

end Fault

end Sluice
