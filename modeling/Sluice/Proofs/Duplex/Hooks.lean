import Mathlib
import Sluice.Duplex.Session
import Sluice.Proofs.Duplex.Join
import Sluice.Proofs.Pipe.Producer
/-!
# The start and stop hooks of a duplex pipe

A duplex pipe admits one lifecycle call at a time through a one-unit gate. When each call
runs to its end before the next begins, the gate is free at every call: the call is admitted
at once and gives the unit back as it ends. A start or stop then comes down to the pipe's
hooks (`DuplexPipe.start_of_hook`, `DuplexPipe.stop_of_hook`,
`DuplexPipe.dispose_transition_of_hook`).

The start hook refuses when the consumer was lost or the connect fails, and otherwise spawns
one generation (`DuplexCore.Spawned`): one more connect, a fresh byte pipe, a producer loop,
and a consumer loop when the pipe held its consumer or else a stored fresh reader, all under
an uncancelled token. The loops only receive from the connection, so running them connects
nothing (`DuplexCore.runQueue_connects`) and the generation stays the one the start spawned
(`DuplexCore.Spawned.runQueue`).

The stop hook of a running generation cancels its token and its pending read, lets every loop
end (`DuplexCore.runQueue_cancelled`), records how each ended, drops the stored reader
(`DuplexCore.Joined`), and answers the first fault, the producer's before the consumer's
(`Generation.stopResult`). All of it holds for a generation in order with its core
(`DuplexCore.Fits`), which every run of the queue keeps (`DuplexCore.Fits.runQueue`).
-/

namespace Sluice

/-! ## A free gate -/

namespace Semaphore

variable {cs : Cancellations}

theorem acquire_singleSlot {token : Option Token} (live : cs.hits token = false) :
    singleSlot.acquire cs token = ({ singleSlot with count := 0 }, .settled (.ok ())) := by
  simp only [acquire, live, Bool.false_eq_true, if_false]
  rfl

@[simp]
theorem release_taken_slot : release cs { singleSlot with count := 0 } 1 = .ok singleSlot := by
  simp [release, releaseUnits, checkRelease, singleSlot, ofCounts, bind, Except.bind, int64Max]

end Semaphore

namespace Activity

variable {W H : Type} {hooks : Hooks W H} {cs : Cancellations} {a : Activity}

theorem enter_free {kind : Transition} {token : Option Token} {w : W}
    (gate : a.gate = Semaphore.singleSlot) (live : cs.hits token = false) :
    enter hooks cs kind token a w =
      admitted hooks cs kind token { a with gate := { Semaphore.singleSlot with count := 0 } } w := by
  simp only [enter, gate, Semaphore.acquire_singleSlot live, Wait.ofAdmission, pollGate, Wait.poll]

@[simp]
theorem leave_taken_slot :
    (leave cs { a with gate := { Semaphore.singleSlot with count := 0 } }).gate = Semaphore.singleSlot := by
  simp [leave]

end Activity

/-! ## Lifecycle calls at a free gate -/

namespace DuplexPipe

variable {cs : Cancellations} {d : DuplexPipe}

section FreeGate

variable (gate : d.activity.gate = Semaphore.singleSlot)
include gate

theorem start_of_cancelled {token : Option Token} (hit : cs.hits token = true)
    (phase : d.activity.phase = .stopped) (undisposed : d.activity.disposed = false) :
    d.start cs token = (d, .error .cancelled) := by
  obtain ⟨⟨phase₀, disposed₀, gate₀⟩, core⟩ := d
  simp only at gate phase undisposed
  subst gate phase undisposed
  simp [start, transition, Activity.begin, Activity.enter, Activity.isRunning, hit,
    Semaphore.acquire, Activity.pollGate, Wait.ofAdmission, Wait.poll, Poll.result]

theorem start_of_hook {token : Option Token} {w : DuplexCore} {r : Except Fault Unit}
    (live : cs.hits token = false) (phase : d.activity.phase = .stopped)
    (undisposed : d.activity.disposed = false) (hook : d.core.onStarting = (w, r)) :
    d.start cs token =
      ({ activity := { d.activity with phase := if r.isOk then .started else .stopped },
         core := w }, r) := by
  obtain ⟨⟨phase₀, disposed₀, gate₀⟩, core⟩ := d
  simp only at gate phase undisposed hook
  subst gate phase undisposed
  simp only [start, transition, Activity.begin, Activity.isRunning,
    Activity.enter_free (a := {}) rfl live]
  -- the phase the hook's answer leads to is decided by its two constructors
  rcases r with e | ⟨⟩ <;>
    simp [Activity.admitted, Activity.isRunning, duplexHooks, Activity.runHook, hook,
      Activity.complete, Activity.finishWith, Activity.leave, Poll.result, Except.isOk,
      Except.toBool]

theorem stop_of_hook {w : DuplexCore} {r : Except Fault Unit}
    (phase : d.activity.phase = .started) (undisposed : d.activity.disposed = false)
    (hook : d.core.onStopping = (w, r)) :
    d.stop cs = ({ activity := { d.activity with phase := .stopped }, core := w }, r) := by
  obtain ⟨⟨phase₀, disposed₀, gate₀⟩, core⟩ := d
  simp only at gate phase undisposed hook
  subst gate phase undisposed
  simp [stop, transition, Activity.begin, Activity.isRunning,
    Activity.enter_free (a := { phase := .started }) rfl (show cs.hits none = false from rfl),
    Activity.admitted, duplexHooks, Activity.runHook, hook, Activity.complete,
    Activity.finishWith, Activity.leave, Poll.result]

theorem dispose_transition_of_hook {w : DuplexCore} {r : Except Fault Unit}
    (phase : d.activity.phase = .started) (undisposed : d.activity.disposed = false)
    (hook : d.core.onStopping = (w, r)) :
    transition cs .dispose none d =
      ({ activity := { d.activity with phase := .disposed, disposed := true }, core := w }, r) := by
  obtain ⟨⟨phase₀, disposed₀, gate₀⟩, core⟩ := d
  simp only at gate phase undisposed hook
  subst gate phase undisposed
  simp [transition, Activity.begin, Activity.isRunning,
    Activity.enter_free (a := { phase := .started, disposed := true }) rfl (show cs.hits none = false from rfl),
    Activity.admitted, duplexHooks, Activity.runHook, hook, Activity.complete,
    Activity.finishWith, Activity.leave, Poll.result]

theorem dispose_transition_of_stopped (phase : d.activity.phase = .stopped)
    (undisposed : d.activity.disposed = false) :
    transition cs .dispose none d =
      ({ activity := { d.activity with phase := .disposed, disposed := true }, core := d.core },
       .ok ()) := by
  obtain ⟨⟨phase₀, disposed₀, gate₀⟩, core⟩ := d
  simp only at gate phase undisposed
  subst gate phase undisposed
  simp [transition, Activity.begin, Activity.isRunning,
    Activity.enter_free (a := { disposed := true }) rfl (show cs.hits none = false from rfl),
    Activity.admitted, Activity.complete, Activity.finishWith, Activity.leave, Poll.result]

end FreeGate

theorem start_of_started {token : Option Token} (phase : d.activity.phase = .started)
    (undisposed : d.activity.disposed = false) : d.start cs token = (d, .ok ()) := by
  simp [start, transition, Activity.begin, Activity.isRunning, phase, undisposed, Poll.result]

theorem start_of_disposed {token : Option Token} (disposed : d.activity.disposed = true) :
    d.start cs token = (d, .error disposedFault) := by
  simp [start, transition, Activity.begin, disposed, Poll.result]

theorem stop_of_idle (phase : d.activity.phase ≠ .started) :
    d.stop cs = (d, if d.activity.disposed then .error disposedFault else .ok ()) := by
  cases disposed : d.activity.disposed <;>
    simp [stop, transition, Activity.begin, Activity.isRunning, phase, disposed, Poll.result]

theorem dispose_transition_of_disposed (disposed : d.activity.disposed = true) :
    transition cs .dispose none d = (d, .ok ()) := by
  simp [transition, Activity.begin, disposed, Poll.result]

end DuplexPipe

/-! ## The loops only receive from the connection -/

theorem Connection.pull_connects (c : Connection) (room : Nat) :
    (c.pull room).1.connects = c.connects := by
  unfold Connection.pull
  split
  · rfl
  · split <;> rfl
  · split <;> rfl

namespace ProducerTask

variable {p : Pipe} {c : Connection} {t : ProducerTask}

theorem pollReceive_connects (r : Receive) : (pollReceive p c t r).2.1.connects = c.connects := by
  unfold pollReceive
  split
  · rfl
  · dsimp only
    generalize pulled : Connection.pull _ _ = q
    obtain ⟨c', got⟩ := q
    have same : c'.connects = c.connects := by
      rw [← congrArg (·.1.connects) pulled, Connection.pull_connects]
      split <;> rfl
    cases got <;> simp [received_conn, same]

theorem step_connects (cancelled : Bool) : (step cancelled p c t).2.1.connects = c.connects := by
  unfold step
  repeat' split
  all_goals simp [pollReceive_connects, flushed_conn]

theorem poll_connects (cancelled : Bool) (fuel : Nat) :
    (poll cancelled fuel p c t).2.1.connects = c.connects := by
  induction fuel generalizing p c t with
  | zero => rfl
  | succ fuel ih =>
    simp only [poll]
    generalize moved : step cancelled p c t = m
    obtain ⟨p', c', t', stride⟩ := m
    have same : c'.connects = c.connects := by
      have stepped := step_connects (p := p) (c := c) (t := t) cancelled
      rwa [moved] at stepped
    cases stride <;> simp [ih, same]

end ProducerTask

namespace Loops

variable {s : Loops}

theorem pollTask_connects (t : LoopTask) : (s.pollTask t).conn.connects = s.conn.connects := by
  cases t with
  | producer =>
    simp only [pollTask]
    split
    · rfl
    · exact ProducerTask.poll_connects _ _
  | consumer =>
    simp only [pollTask]
    split
    · rfl
    · split <;> rfl

theorem drain_connects (b : Nat) (q : List LoopTask) :
    (s.drain b q).1.conn.connects = s.conn.connects := by
  induction b generalizing s q with
  | zero => rfl
  | succ b ih =>
    cases q with
    | nil => rfl
    | cons t rest => exact (ih _).trans (pollTask_connects t)

end Loops

namespace DuplexCore

variable {w : DuplexCore} (b : Nat)

@[simp] theorem runQueue_connects : (w.runQueue b).conn.connects = w.conn.connects := by
  unfold runQueue
  split
  · rfl
  · exact Loops.drain_connects _ _

@[simp] theorem runQueue_nextTask : (w.runQueue b).nextTask = w.nextTask := by
  unfold runQueue; split <;> rfl

end DuplexCore

/-! ## A generation in order with its core -/

/-- A running generation in order with its core: its run queue holds live loops only, each
once; its byte pipe is the last one made; a stored reader is the fresh reader of that pipe;
and no exit has been recorded since it started. -/
structure DuplexCore.Fits (w : DuplexCore) (gen : Generation) : Prop where
  queue : LoopTask.Queue gen.producer gen.consumer gen.queue
  pipe : gen.pipe + 1 = w.pipes.length
  stored : w.stored = none ∨ w.stored = some (gen.pipe, {})
  exits : w.producerExit = none ∧ w.consumerExit = none

namespace DuplexCore

variable {w : DuplexCore}

section DropFrame

variable (o : Option (Nat × Reader))

@[simp] theorem dropReader_running : (w.dropReader o).running = w.running := by
  rcases o with _ | ⟨i, r⟩ <;> rfl
@[simp] theorem dropReader_tokenCancelled : (w.dropReader o).tokenCancelled = w.tokenCancelled := by
  rcases o with _ | ⟨i, r⟩ <;> rfl
@[simp] theorem dropReader_producerExit : (w.dropReader o).producerExit = w.producerExit := by
  rcases o with _ | ⟨i, r⟩ <;> rfl
@[simp] theorem dropReader_consumerExit : (w.dropReader o).consumerExit = w.consumerExit := by
  rcases o with _ | ⟨i, r⟩ <;> rfl
@[simp] theorem dropReader_stored : (w.dropReader o).stored = w.stored := by
  rcases o with _ | ⟨i, r⟩ <;> rfl
@[simp] theorem dropReader_moves : (w.dropReader o).moves = w.moves := by
  rcases o with _ | ⟨i, r⟩ <;> rfl
@[simp] theorem dropReader_pipes_length : (w.dropReader o).pipes.length = w.pipes.length := by
  rcases o with _ | ⟨i, r⟩ <;> simp [dropReader]

end DropFrame

theorem Fits.setPipe {gen : Generation} (fits : w.Fits gen) (i : Nat) (p : Pipe) :
    (w.setPipe i p).Fits gen :=
  ⟨fits.queue, by simpa using fits.pipe, fits.stored, fits.exits⟩

theorem Fits.dropReader {gen : Generation} (fits : w.Fits gen) (o : Option (Nat × Reader)) :
    (w.dropReader o).Fits gen := by
  rcases o with _ | ⟨i, r⟩
  · exact fits
  · exact fits.setPipe _ _

theorem Fits.runQueue {gen : Generation} (h : w.running = some gen) (fits : w.Fits gen) (b : Nat) :
    ∃ gen', (w.runQueue b).running = some gen' ∧ gen'.pipe = gen.pipe ∧ (w.runQueue b).Fits gen' := by
  obtain ⟨gen', ran, pipe, queue⟩ := runQueue_queue h fits.queue b
  exact ⟨gen', ran, pipe, queue, by simpa [pipe] using fits.pipe, by simpa [pipe] using fits.stored,
    by simpa using fits.exits⟩

end DuplexCore

/-! ## The start hook -/

/-- What a start that connected leaves on the core it began on: the connection was connected once
more, and one generation of loops runs on a fresh byte pipe under an uncancelled token with no
exits recorded yet. It has a producer loop, and a consumer loop exactly when the core held the
consumer; the task numbers used are the next free ones, one per loop. Without a consumer loop
a fresh reader of the new pipe is stored for a caller to take. -/
structure DuplexCore.Spawned (w w' : DuplexCore) : Prop where
  connects : w'.conn.connects = w.conn.connects + 1
  pipes : w'.pipes.length = w.pipes.length + 1
  token : w'.tokenCancelled = false
  exits : w'.producerExit = none ∧ w'.consumerExit = none
  loops : ∃ gen, w'.running = some gen ∧ gen.pipe = w.pipes.length ∧
    gen.producerTask = w.nextTask ∧ gen.consumer.isSome = (w.home == .held) ∧
    if w.home = .held then
      gen.consumerTask = w.nextTask + 1 ∧ w'.nextTask = w.nextTask + 2 ∧ w'.stored = none
    else w'.nextTask = w.nextTask + 1 ∧ w'.stored = some (gen.pipe, {})

namespace DuplexCore

variable {w : DuplexCore}

theorem onStarting_of_lost (lost : w.home = .lost) : w.onStarting = (w, .error lostConsumerFault) := by
  simp [onStarting, lost]

theorem onStarting_of_failConnect {f : Fault} (kept : w.home ≠ .lost)
    (fails : w.conn.failConnect = some f) :
    w.onStarting = ({ w with conn := w.conn.connect.1 }, .error f) := by
  simp [onStarting, kept, Connection.connect, fails]

theorem onStarting_spawns (kept : w.home ≠ .lost) (connects : w.conn.failConnect = none)
    (idle : w.stored = none) : Spawned w w.onStarting.1 ∧ w.onStarting.2 = .ok () := by
  by_cases held : w.home = .held
  · simp only [onStarting, held, reduceCtorEq, if_true, if_false, Connection.connect, connects]
    exact ⟨⟨rfl, by simp, rfl, ⟨rfl, rfl⟩, _, rfl, rfl, rfl, by simp [held], by simp [held, idle]⟩,
      trivial⟩
  · simp only [onStarting, kept, held, if_false, Connection.connect, connects, idle, dropReader]
    exact ⟨⟨rfl, by simp, rfl, ⟨rfl, rfl⟩, _, rfl, rfl, rfl, by simp [held], by simp [held]⟩,
      trivial⟩

theorem onStarting_fits (kept : w.home ≠ .lost) (connects : w.conn.failConnect = none)
    (idle : w.stored = none) : ∃ gen, w.onStarting.1.running = some gen ∧ w.onStarting.1.Fits gen := by
  by_cases held : w.home = .held
  · simp only [onStarting, held, reduceCtorEq, if_true, if_false, Connection.connect, connects]
    refine ⟨_, rfl, ⟨by simp, fun t _ => ?_⟩, by simp, by simp [idle], rfl, rfl⟩
    cases t <;> rfl
  · simp only [onStarting, kept, held, if_false, Connection.connect, connects, idle, dropReader]
    refine ⟨_, rfl, ⟨by simp, fun t mem => ?_⟩, by simp, by simp, rfl, rfl⟩
    simp only [List.mem_singleton] at mem
    subst mem
    rfl

theorem Spawned.runQueue {w' : DuplexCore} (h : Spawned w w') (b : Nat) :
    Spawned w (w'.runQueue b) := by
  obtain ⟨connects, pipes, token, exits, gen, run, pipe, producerTask, consumer, rest⟩ := h
  have ran := (runQueue_of_running run b).1
  refine ⟨by simpa using connects, by simpa using pipes, by simpa using token,
    by simpa using exits, _, ran, pipe, producerTask, ?_, by simpa using rest⟩
  simpa [Loops.drain_consumer_isSome, loopsOf] using consumer

end DuplexCore

/-! ## The stop hook -/

@[simp]
theorem Pipe.cancelRead_readCancel (p : Pipe) : p.cancelRead.readCancel = true := by
  unfold Pipe.cancelRead Pipe.notifyRead
  split <;> rfl

theorem Reader.complete_readerDone (p : Pipe) {r : Reader} (live : r.completed = false) :
    (r.complete p).1.readerDone = true := by
  unfold Reader.complete Pipe.notifyWrite
  simp only [live, Bool.false_eq_true, if_false]
  split <;> rfl

/-- The exit a stop records for a loop that ended so: its own exit when it ended cleanly,
`cancelled` when it failed by the cancellation, and none when it faulted. -/
def LoopEnd.recorded : LoopEnd → Option LoopExit
  | .exited (.ok x) => some x
  | .exited (.error e) => if e.isCancelled then some .cancelled else none
  | .panicked _ => none

/-- The fault a stop reports for a loop that ended so, the loop named by `which` and its task
number: the loop's own fault, or a join fault for a panic. -/
def LoopEnd.fault (which : String) (task : Nat) : LoopEnd → Option Fault
  | .exited (.ok _) => none
  | .exited (.error e) => if e.isCancelled then none else some e
  | .panicked text => some (joinFault which task text)

/-- The first fault among the loops of a generation as a stop joins them, the producer's
before the consumer's. -/
def Generation.stopFault (gen : Generation) : Option Fault :=
  (gen.producer.joinedEnd.fault "producer" gen.producerTask).or
    (gen.consumer.bind fun t => t.joinedEnd.fault "consumer" gen.consumerTask)

def Generation.stopResult (gen : Generation) : Except Fault Unit :=
  match gen.stopFault with
  | some e => .error e
  | none => .ok ()

/-- What a stop leaves of the generation `gen` that ran on the core `w`: no generation runs,
the token and the pending read of the generation's pipe are cancelled, each loop's exit is
recorded from the end the stop joined it at, and the stored reader is gone, dropped on its
pipe. No byte pipe is made, and the loops' budget of moves is kept. -/
structure DuplexCore.Joined (gen : Generation) (w w' : DuplexCore) : Prop where
  running : w'.running = none
  token : w'.tokenCancelled = true
  readCancel : (w'.pipeAt gen.pipe).readCancel = true
  producerExit : w'.producerExit = gen.producer.joinedEnd.recorded
  consumerExit : w'.consumerExit = gen.consumer.bind fun t => t.joinedEnd.recorded
  stored : w'.stored = none
  dropped : w.stored = some (gen.pipe, {}) → (w'.pipeAt gen.pipe).readerDone = true
  pipes : w'.pipes.length = w.pipes.length
  moves : w'.moves = w.moves

namespace DuplexCore

variable {w : DuplexCore}

/-- The last act of a stop: the stored reader dropped and the store emptied, on a core `y` that
no generation runs on any more, with its token cancelled and its exits recorded. -/
theorem joined_of_drop {gen : Generation} {y : DuplexCore} (fits : w.Fits gen)
    (inRange : gen.pipe < y.pipes.length) (running : y.running = none)
    (token : y.tokenCancelled = true) (readCancel : (y.pipeAt gen.pipe).readCancel = true)
    {o : Option (Nat × Reader)} (stored : o = w.stored)
    (producerExit : y.producerExit = gen.producer.joinedEnd.recorded)
    (consumerExit : y.consumerExit = gen.consumer.bind fun t => t.joinedEnd.recorded)
    (pipes : y.pipes.length = w.pipes.length) (moves : y.moves = w.moves) :
    Joined gen w { y.dropReader o with stored := none } := by
  rcases fits.stored with idle | held
  · rw [stored, idle]
    exact ⟨running, token, readCancel, producerExit, consumerExit, rfl, by simp [idle], pipes, moves⟩
  · have onPipe : (y.dropReader o).pipeAt gen.pipe = (Reader.complete (y.pipeAt gen.pipe) {}).1 := by
      rw [stored, held]
      exact pipeAt_setPipe_self _ inRange
    refine ⟨by simpa using running, by simpa using token, ?_, by simpa using producerExit,
      by simpa using consumerExit, rfl, fun _ => ?_, by simpa using pipes, by simpa using moves⟩
    · change ((y.dropReader o).pipeAt gen.pipe).readCancel = true
      rw [onPipe, Reader.complete_readCancel, readCancel]
    · change ((y.dropReader o).pipeAt gen.pipe).readerDone = true
      rw [onPipe]
      exact Reader.complete_readerDone _ rfl

/-! The stop hook records the producer it joined and then the consumer, each from the stage it
was found at. Taken apart as two functions, the hook is their composition
(`onStopping_eq`), and each records what `LoopEnd.recorded` and `LoopEnd.fault` say of a loop
that ended. -/

/-- How a stop records the producer loop it joined, found at `stage`: the core with its exit,
and the fault it reports. -/
def recordProducer (w : DuplexCore) (task : Nat) (stage : ProducerStage) :
    DuplexCore × Option Fault :=
  match stage with
  | .ended (.exited (.ok x)) => ({ w with producerExit := some x }, none)
  | .ended (.exited (.error e)) =>
      if e.isCancelled then ({ w with producerExit := some .cancelled }, none)
      else (w, some e)
  | .ended (.panicked text) => (w, some (joinFault "producer" task text))
  | _ => (w, none)

/-- How a stop records the consumer loop it joined, if there is one, after the producer's
fault `err`: the core with the consumer taken back and its exit, and the first fault. -/
def recordConsumer (w : DuplexCore) (task : Nat) (err : Option Fault) :
    Option ConsumerTask → DuplexCore × Option Fault
  | none => (w, err)
  | some t =>
      match t.stage with
      | .ended (.exited (.ok x)) => ({ w with home := .held, consumerExit := some x }, err)
      | .ended (.exited (.error e)) =>
          if e.isCancelled then ({ w with home := .held, consumerExit := some .cancelled }, err)
          else ({ w with home := .held }, firstFault err e)
      | .ended (.panicked text) =>
          ({ w with home := .lost }, firstFault err (joinFault "consumer" task text))
      | _ => (w, err)

/-- The stop hook of a running generation: cancel, run the queue twice, record the producer,
then the consumer, and drop the stored reader. -/
theorem onStopping_eq {gen : Generation} (h : w.running = some gen) :
    w.onStopping =
      let w₃ := (({ w with tokenCancelled := true } : DuplexCore).setPipe gen.pipe
        (w.pipeAt gen.pipe).cancelRead).runQueue 2
      let gen' := w₃.running.getD gen
      let p := recordProducer { w₃ with running := none } gen'.producerTask gen'.producer.stage
      let c := recordConsumer p.1 gen'.consumerTask p.2 gen'.consumer
      ({ c.1.dropReader c.1.stored with stored := none },
        match c.2 with
        | some e => .error e
        | none => .ok ()) := by
  simp only [onStopping, h]
  rfl

/-- A producer that ended is recorded as `LoopEnd.recorded` and `LoopEnd.fault` say, on a core
with no producer exit yet. -/
theorem recordProducer_ended (task : Nat) (e : LoopEnd) (none_ : w.producerExit = none) :
    recordProducer w task (.ended e) =
      ({ w with producerExit := e.recorded }, e.fault "producer" task) := by
  rcases e with (e | x) | text
  · by_cases cancelled : e.isCancelled <;>
      simp [recordProducer, LoopEnd.recorded, LoopEnd.fault, cancelled, ← none_]
  · rfl
  · simp [recordProducer, LoopEnd.recorded, LoopEnd.fault, ← none_]

theorem firstFault_eq_or (acc : Option Fault) (e : Fault) : firstFault acc e = acc.or (some e) := by
  cases acc <;> rfl

/-- A consumer that ended is recorded the same way, its fault after the producer's; the consumer
goes back home unless it panicked. -/
theorem recordConsumer_ended (task : Nat) (err : Option Fault) {t : ConsumerTask} {e : LoopEnd}
    (stage : t.stage = .ended e) (none_ : w.consumerExit = none) :
    ∃ home, recordConsumer w task err (some t) =
      ({ w with home, consumerExit := e.recorded }, err.or (e.fault "consumer" task)) := by
  rcases e with (e | x) | text
  · by_cases cancelled : e.isCancelled
    · exact ⟨.held, by simp [recordConsumer, stage, LoopEnd.recorded, LoopEnd.fault, cancelled]⟩
    · exact ⟨.held, by simp [recordConsumer, stage, LoopEnd.recorded, LoopEnd.fault, cancelled,
        firstFault_eq_or, ← none_]⟩
  · exact ⟨.held, by simp [recordConsumer, stage, LoopEnd.recorded, LoopEnd.fault]⟩
  · exact ⟨.lost, by simp [recordConsumer, stage, LoopEnd.recorded, LoopEnd.fault,
      firstFault_eq_or, ← none_]⟩

/-- The stop hook of a running generation joins it: see `Joined`. It answers the generation's
first fault. -/
theorem onStopping_joins {gen : Generation} (h : w.running = some gen) (fits : w.Fits gen)
    (m : 1 ≤ w.moves) : Joined gen w w.onStopping.1 ∧ w.onStopping.2 = gen.stopResult := by
  rw [onStopping_eq h]
  -- the core the stop hands to the loops, with the token and the pending read cancelled
  set w₁ := ({ w with tokenCancelled := true } : DuplexCore).setPipe gen.pipe
    (w.pipeAt gen.pipe).cancelRead with hw₁
  have inRange : gen.pipe < w.pipes.length := by have := fits.pipe; omega
  obtain ⟨gen', ran, -, producerTask, consumerTask, producerEnd, consumerEnd, kept⟩ :=
    runQueue_cancelled (w := w₁) h rfl m fits.queue (by simpa [w₁] using inRange)
  -- what the two polls keep of that core
  have cancelled₃ : ((w₁.runQueue 2).pipeAt gen.pipe).readCancel = true := by
    rw [kept, hw₁, pipeAt_setPipe_self _ (by simpa using inRange)]
    simp
  have exits₃ : (w₁.runQueue 2).producerExit = none ∧ (w₁.runQueue 2).consumerExit = none := by
    simpa [w₁, setPipe] using fits.exits
  simp only [ran, Option.getD_some, producerEnd]
  set w₃ := w₁.runQueue 2 with hw₃
  rw [recordProducer_ended (w := { w₃ with running := none }) _ _ exits₃.1]
  -- the producer is recorded; the consumer, if there is one, ended as the stop found it
  obtain ⟨y, fault, recorded, isFault, consumerExit, shape⟩ :
      ∃ y fault,
        recordConsumer { w₃ with running := none, producerExit := gen.producer.joinedEnd.recorded }
          gen'.consumerTask (gen.producer.joinedEnd.fault "producer" gen'.producerTask)
          gen'.consumer = (y, fault) ∧
        fault = gen.stopFault ∧ y.consumerExit = (gen.consumer.bind fun t => t.joinedEnd.recorded) ∧
        y = { w₃ with running := none, producerExit := gen.producer.joinedEnd.recorded,
                      consumerExit := y.consumerExit, home := y.home } := by
    cases hc : gen.consumer with
    | none =>
      have none' : gen'.consumer = none := by simpa [hc] using consumerEnd
      rw [none']
      exact ⟨_, _, rfl, by simp [Generation.stopFault, hc, producerTask],
        by simpa [hc] using exits₃.2, rfl⟩
    | some t =>
      obtain ⟨t', some', stage⟩ : ∃ t', gen'.consumer = some t' ∧ t'.stage = .ended t.joinedEnd := by
        cases hc' : gen'.consumer <;> simp_all
      obtain ⟨home, eq⟩ := recordConsumer_ended gen'.consumerTask
        (gen.producer.joinedEnd.fault "producer" gen'.producerTask) stage
        (w := { w₃ with running := none, producerExit := gen.producer.joinedEnd.recorded })
        exits₃.2
      rw [some', eq]
      exact ⟨_, _, rfl, by simp [Generation.stopFault, hc, producerTask, consumerTask],
        by simp, rfl⟩
  rw [recorded]
  refine ⟨?_, by rw [isFault]; rfl⟩
  rw [shape]
  exact joined_of_drop fits (by simpa [w₃, w₁] using inRange) rfl (by simp [w₃, w₁, setPipe])
    (by simpa [pipeAt] using cancelled₃) (by simp [w₃, w₁, setPipe]) rfl consumerExit
    (by simp [w₃, w₁]) (by simp [w₃, w₁, setPipe])

end DuplexCore

end Sluice
