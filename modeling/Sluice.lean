import Sluice.Fault
import Sluice.Text.Blank
import Sluice.Text.Decimal
import Sluice.Text.Printable
import Sluice.Text.GraphemeExtend
import Sluice.Text.Quote
import Sluice.Config
import Sluice.Runtime
import Sluice.Token
import Sluice.Poll
import Sluice.Registry
import Sluice.Semaphore.Basic
import Sluice.Semaphore.Wait
import Sluice.Semaphore.Session
import Sluice.Signal.Completion
import Sluice.Signal.Countdown
import Sluice.Signal.ManualReset
import Sluice.Signal.Session
import Sluice.Activity.Basic
import Sluice.Activity.Script
import Sluice.Pipe.Basic
import Sluice.Pipe.Session
import Sluice.Pipe.Script
import Sluice.Pipe.Loops
import Sluice.Pipe.Rounds
import Sluice.Pipe.Queue
import Sluice.Duplex.Basic
import Sluice.Duplex.Session
import Sluice.Scope.Basic
import Sluice.Scope.Session
import Sluice.Proofs.Registry
import Sluice.Proofs.Semaphore.Moves
import Sluice.Proofs.Semaphore.Runs
import Sluice.Proofs.Semaphore.Balance
import Sluice.Proofs.Semaphore.Fifo
import Sluice.Proofs.Semaphore.Handles
import Sluice.Proofs.Semaphore.Conservation
import Sluice.Proofs.Semaphore.Race
import Sluice.Proofs.Semaphore.Reservations
import Sluice.Proofs.Semaphore.Capacity
import Sluice.Proofs.Semaphore.LazyPurge
import Sluice.Proofs.Pipe.Ops
import Sluice.Proofs.Pipe.Stream
import Sluice.Proofs.Pipe.Producer
import Sluice.Proofs.Pipe.Consumer
import Sluice.Proofs.Pipe.Delivery
import Sluice.Proofs.Pipe.Backlog
import Sluice.Proofs.Pipe.Backpressure
import Sluice.Proofs.Activity.Gate
import Sluice.Proofs.Activity.Lifecycle
import Sluice.Proofs.Activity.Calls
import Sluice.Proofs.Activity.Crowd
import Sluice.Proofs.Duplex.Join
import Sluice.Proofs.Duplex.Hooks
import Sluice.Proofs.Duplex.Generations
import Sluice.Proofs.Activity.Disposal
import Sluice.Proofs.Duplex.Custody
import Sluice.Proofs.Pipe.Wakeups
import Sluice.Proofs.Signal.History
import Sluice.Proofs.Signal.Contention
import Sluice.Proofs.Semaphore.Gauge
import Sluice.Proofs.Semaphore.Overflow
import Sluice.Proofs.Runtime.Gauge
import Sluice.Proofs.Signal.Waits
import Sluice.Proofs.Signal.Rearm
import Sluice.Proofs.Text.Decimal
import Sluice.Proofs.Settings.Environment
import Sluice.Proofs.Scope.Outcome
