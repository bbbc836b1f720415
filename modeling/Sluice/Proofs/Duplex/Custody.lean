import Mathlib
import Sluice.Proofs.Duplex.Generations
/-!
# Custody of a duplex pipe's consumer

A duplex pipe built with a consumer lends it to the consumer loop of every generation it
spawns, and takes it back when a stop joins that loop. The consumer comes back unless the loop
panicked with it (`LoopEnd.custody`); then the pipe has lost it for good.

Between calls the consumer's home agrees with the loops that run (`DuplexCore.Placed`): a
consumer held by the pipe, or lost, goes with no generation running, and a consumer lent goes
with a running generation that has a consumer loop. A pipe without a consumer spawns no
consumer loop. Every command keeps that, and moves the consumer only out to the consumer loop
of a generation a start spawns, or back from the loop a stop or a disposal joins
(`Duplex.Session.custody_step`).

Over every run of a session on a pipe built with a consumer
(`consumer_stays_with_pipe_until_its_loop_panics`, with `Duplex.Session.Custody`):

* the consumer is held or lent as above at every point between commands;
* it is lost only by a stop or a disposal that joins a consumer loop that panicked, and that
  call fails with the generation's first fault: the producer loop's own fault when it failed
  too, and otherwise the internal fault naming the consumer task;
* once lost it stays lost, and every start fails before it connects, leaving the pipe not
  started: with `Disposed` once the pipe is disposed, with `Cancelled` when the start's token
  has fired, and only otherwise with the lost consumer's `InvalidState`.

The last two points are where a run can depart from "the stop returns `Internal` and every later
start fails with `InvalidState`" (`lost_consumer_faults_of_failed_producer`).
-/

namespace Sluice

/-- Where a stop leaves the consumer of a consumer loop it joined at this end: back in the
pipe, unless the loop panicked with it. -/
def LoopEnd.custody : LoopEnd → Home
  | .exited _ => .held
  | .panicked _ => .lost

namespace DuplexCore

/-- Where a core's consumer is, and whether a generation runs (`some`) and has a consumer loop
(`some true`). -/
def custody (w : DuplexCore) : Home × Option Bool :=
  (w.home, w.running.map fun gen => gen.consumer.isSome)

/-- The custodies possible between calls: the consumer is held by the pipe, or lost, while no
generation runs, and lent while a generation with a consumer loop runs; a pipe without a
consumer runs no consumer loop. -/
def Placed : Home × Option Bool → Prop
  | (.absent, loop) => loop ≠ some true
  | (.held, loop) => loop = none
  | (.lent, loop) => loop = some true
  | (.lost, loop) => loop = none

variable {w : DuplexCore}

theorem placed_of_idle (placed : Placed w.custody) (idle : w.running = none) :
    w.home ≠ .lent := by
  intro lent
  simp [Placed, custody, lent, idle] at placed

section Frame

variable (b : Nat) (o : Option (Nat × Reader))

@[simp] theorem home_dropReader : (w.dropReader o).home = w.home := by
  rcases o with _ | ⟨i, r⟩ <;> rfl

@[simp] theorem custody_dropReader : (w.dropReader o).custody = w.custody := by
  simp [custody]

@[simp] theorem custody_setPipe (i : Nat) (p : Pipe) : (w.setPipe i p).custody = w.custody := rfl

@[simp] theorem custody_runQueue : (w.runQueue b).custody = w.custody := by
  cases hr : w.running with
  | none => rw [runQueue_of_idle hr]
  | some gen =>
    simp only [custody, (runQueue_of_running hr b).1, runQueue_home, hr, Option.map_some]
    rw [Loops.drain_consumer_isSome]
    rfl

end Frame

/-! ## The hooks -/

theorem onStarting_home (kept : w.home ≠ .lost) (connects : w.conn.failConnect = none) :
    w.onStarting.1.home = if w.home = .held then .lent else w.home := by
  by_cases held : w.home = .held <;>
    simp [onStarting, held, kept, Connection.connect, connects]

/-- A start hook on a core at rest keeps the consumer where it is, or lends it to the consumer
loop of the generation it spawns. -/
theorem onStarting_custody (placed : Placed w.custody) (idle : w.running = none)
    (stored : w.stored = none) :
    Placed w.onStarting.1.custody ∧
      (w.onStarting.1.home = w.home ∨ w.home = .held ∧ w.onStarting.1.home = .lent) := by
  rcases onStarting_cases stored with ⟨-, hook⟩ | ⟨f, -, -, hook⟩ | ⟨kept, connects, spawned, -⟩
  · rw [hook]
    exact ⟨placed, .inl rfl⟩
  · rw [hook]
    exact ⟨placed, .inl rfl⟩
  · -- the new generation has a consumer loop exactly when the pipe held the consumer
    obtain ⟨gen, run, -, -, consumer, -⟩ := spawned.loops
    have home := onStarting_home kept connects
    have loop : w.onStarting.1.custody.2 = some (w.home == .held) := by
      simp [custody, run, consumer]
    cases hw : w.home with
    | absent =>
      rw [hw] at home loop
      refine ⟨?_, .inl (by rw [home]; rfl)⟩
      simp only [custody] at loop
      simp [Placed, custody, home, loop]
    | held =>
      rw [hw] at home loop
      refine ⟨?_, .inr ⟨rfl, by rw [home]; rfl⟩⟩
      simp only [custody] at loop
      simp [Placed, custody, home, loop]
    | lent => exact absurd hw (placed_of_idle placed idle)
    | lost => exact absurd hw kept

theorem recordProducer_home (task : Nat) (stage : ProducerStage) :
    (recordProducer w task stage).1.home = w.home := by
  unfold recordProducer
  split
  · rfl
  · split <;> rfl
  · rfl
  · rfl

theorem recordConsumer_home (task : Nat) (err : Option Fault) {t : ConsumerTask} {e : LoopEnd}
    (stage : t.stage = .ended e) : (recordConsumer w task err (some t)).1.home = e.custody := by
  rcases e with (e | x) | text
  · by_cases cancelled : e.isCancelled <;>
      simp [recordConsumer, stage, LoopEnd.custody, cancelled]
  · simp [recordConsumer, stage, LoopEnd.custody]
  · simp [recordConsumer, stage, LoopEnd.custody]

theorem onStopping_home {gen : Generation} (h : w.running = some gen) (fits : w.Fits gen)
    (m : 1 ≤ w.moves) :
    w.onStopping.1.home = (gen.consumer.map fun t => t.joinedEnd.custody).getD w.home := by
  rw [onStopping_eq h]
  have inRange : gen.pipe < w.pipes.length := by have := fits.pipe; omega
  obtain ⟨gen', ran, -, -, -, -, consumerEnd, -⟩ :=
    runQueue_cancelled (w := ({ w with tokenCancelled := true } : DuplexCore).setPipe gen.pipe
      (w.pipeAt gen.pipe).cancelRead) h rfl m fits.queue (by simpa using inRange)
  simp only [ran, Option.getD_some, home_dropReader]
  -- the producer's record keeps the home; the consumer's, if any, sets it
  cases hc : gen.consumer with
  | none =>
    have none' : gen'.consumer = none := by simpa [hc] using consumerEnd
    simp [none', recordConsumer, recordProducer_home, setPipe]
  | some t =>
    obtain ⟨t', some', stage⟩ : ∃ t', gen'.consumer = some t' ∧ t'.stage = .ended t.joinedEnd := by
      cases hc' : gen'.consumer <;> simp_all
    rw [some', recordConsumer_home _ _ stage]
    rfl

/-- A stop hook on a generation in order with its core leaves the consumer placed: back in the
pipe or lost, with no generation running. -/
theorem onStopping_custody {gen : Generation} (h : w.running = some gen) (fits : w.Fits gen)
    (m : 1 ≤ w.moves) (placed : Placed w.custody) : Placed w.onStopping.1.custody := by
  have stopped := (onStopping_joins h fits m).1.running
  have home := onStopping_home h fits m
  cases hc : gen.consumer with
  | none =>
    -- a generation without a consumer loop ran, so the pipe has no consumer
    have absent : w.home = .absent := by
      cases hw : w.home <;> simp_all [Placed, custody]
    simp [Placed, custody, stopped, home, hc, absent]
  | some t =>
    cases e : t.joinedEnd <;> simp [Placed, custody, stopped, home, hc, e, LoopEnd.custody]

end DuplexCore

/-! ## Lifecycle calls on a pipe at rest -/

namespace DuplexPipe

variable {d : DuplexPipe}

theorem Sound.start_cases (h : d.Sound) (cs : Cancellations) (token : Option Token) :
    (d.start cs token).1 = d ∨
      d.activity.phase = .stopped ∧ (d.start cs token).1.core = d.core.onStarting.1 := by
  rcases h.resting with rest | rest | rest
  · have gate := h.resting.gate
    have phase : d.activity.phase = .stopped := by rw [rest]
    have undisposed := h.resting.undisposed (by simp [phase])
    cases hit : cs.hits token
    · right
      rw [start_of_hook gate hit phase undisposed
        (show d.core.onStarting = (d.core.onStarting.1, d.core.onStarting.2) from rfl)]
      exact ⟨phase, rfl⟩
    · left
      rw [start_of_cancelled gate hit phase undisposed]
  · left
    rw [start_of_started (by rw [rest]) (by rw [rest])]
  · left
    rw [start_of_disposed (by rw [rest])]

theorem Sound.stop_cases (h : d.Sound) (cs : Cancellations) :
    (d.stop cs).1 = d ∨
      d.activity.phase = .started ∧ (d.stop cs).1.core = d.core.onStopping.1 := by
  by_cases started : d.activity.phase = .started
  · right
    have undisposed := h.resting.undisposed (by simp [started])
    rw [stop_of_hook h.resting.gate started undisposed
      (show d.core.onStopping = (d.core.onStopping.1, d.core.onStopping.2) from rfl)]
    exact ⟨started, rfl⟩
  · left
    rw [stop_of_idle started]

/-- A disposal of a sound pipe keeps the consumer's custody, or runs the stop hook on a started
pipe; disposing the connection touches neither. -/
theorem Sound.dispose_cases (h : d.Sound) (cs : Cancellations) :
    (d.dispose cs).1.core.custody = d.core.custody ∨
      d.activity.phase = .started ∧ (d.dispose cs).1.core.custody = d.core.onStopping.1.custody := by
  have released : (d.dispose cs).1.core.custody = (transition cs .dispose none d).1.core.custody := by
    simp only [DuplexPipe.dispose]
    split_ifs <;> rfl
  rw [released]
  rcases h.resting with rest | rest | rest
  · left
    rw [dispose_transition_of_stopped h.resting.gate (by simp [rest]) (by simp [rest])]
  · right
    have started : d.activity.phase = .started := by rw [rest]
    rw [dispose_transition_of_hook h.resting.gate started (h.resting.undisposed (by simp [started]))
      (show d.core.onStopping = (d.core.onStopping.1, d.core.onStopping.2) from rfl)]
    exact ⟨started, rfl⟩
  · left
    rw [dispose_transition_of_disposed (by simp [rest])]

end DuplexPipe

/-! ## Runs of a session -/

namespace Duplex.Session

open DuplexCore

variable {s : Session}

@[simp] theorem custody_settle (d : DuplexPipe) : d.settle.core.custody = d.core.custody := by
  simp [DuplexPipe.settle, DuplexCore.settle]

/-- A stop hook run by a call on a started sound pipe: the consumer is placed, and it comes
back from the consumer loop joined, if the generation had one. -/
theorem custody_of_stopping (h : s.pipe.Sound) (started : s.pipe.activity.phase = .started)
    (placed : Placed s.pipe.core.custody) {w : DuplexCore}
    (custody : w.custody = s.pipe.core.onStopping.1.custody) :
    Placed w.custody ∧ (w.home = s.pipe.core.home ∨
      ∃ gen t, s.pipe.core.running = some gen ∧ gen.consumer = some t ∧ w.home = t.joinedEnd.custody) := by
  obtain ⟨gen, run⟩ := h.running_of_started started
  have fits := h.fits gen run
  have home : w.home = s.pipe.core.onStopping.1.home := congrArg Prod.fst custody
  rw [custody]
  refine ⟨onStopping_custody run fits h.moves placed, ?_⟩
  rw [home, onStopping_home run fits h.moves]
  cases hc : gen.consumer with
  | none => exact .inl rfl
  | some t => exact .inr ⟨gen, t, run, hc, rfl⟩

/-- Every command, with the settle after it, keeps the consumer placed. It leaves the consumer
where it was, lends it to the consumer loop of a generation a start spawned, or takes it back
from the consumer loop a stop or a disposal joined. -/
theorem custody_step (h : s.pipe.Sound) (placed : Placed s.pipe.core.custody) (c : Command) :
    Placed (s.step c).1.pipe.core.custody ∧
      ((s.step c).1.pipe.core.home = s.pipe.core.home ∨
        s.pipe.core.home = .held ∧ (s.step c).1.pipe.core.home = .lent ∨
        (c = .stop ∨ c = .dispose) ∧ ∃ gen t, s.pipe.core.running = some gen ∧
          gen.consumer = some t ∧ (s.step c).1.pipe.core.home = t.joinedEnd.custody) := by
  -- the settle after the command keeps the custody the command left
  have settled : (s.step c).1.pipe.core.custody = (s.act c).1.pipe.core.custody :=
    custody_settle _
  have home : (s.step c).1.pipe.core.home = (s.act c).1.pipe.core.home := congrArg Prod.fst settled
  rw [settled, home]
  -- a command other than a lifecycle call keeps the custody as it was
  have kept : (s.act c).1.pipe.core.custody = s.pipe.core.custody →
      Placed (s.act c).1.pipe.core.custody ∧ (s.act c).1.pipe.core.home = s.pipe.core.home :=
    fun same => ⟨same ▸ placed, congrArg Prod.fst same⟩
  cases c with
  | start token =>
    rcases h.start_cases s.cancellations token with same | ⟨phase, core⟩
    · exact (kept (by simp [act, same])).imp_right .inl
    · have idle := h.running_of_phase (by simp [phase])
      obtain ⟨placed', moved⟩ := onStarting_custody placed idle (h.idle idle)
      have core' : (s.act (.start token)).1.pipe.core = s.pipe.core.onStarting.1 := core
      rw [core']
      exact ⟨placed', moved.imp_right .inl⟩
  | stop =>
    rcases h.stop_cases s.cancellations with same | ⟨started, core⟩
    · exact (kept (by simp [act, same])).imp_right .inl
    · obtain ⟨placed', moved⟩ := custody_of_stopping h started placed (congrArg custody core)
      exact ⟨placed', moved.imp_right fun back => .inr ⟨.inl rfl, back⟩⟩
  | dispose =>
    rcases h.dispose_cases s.cancellations with same | ⟨started, custody⟩
    · exact (kept same).imp_right .inl
    · obtain ⟨placed', moved⟩ := custody_of_stopping h started placed custody
      exact ⟨placed', moved.imp_right fun back => .inr ⟨.inr rfl, back⟩⟩
  | send data =>
    refine (kept ?_).imp_right .inl
    simp only [act, DuplexPipe.send]
    split_ifs <;> rfl
  | takeReader =>
    refine (kept ?_).imp_right .inl
    simp only [act, DuplexPipe.takeReader]
    split <;> simp [custody]
  | read | advanceTo _ _ | completeReader =>
    -- the reader's commands touch only the pipe of the running generation
    refine (kept ?_).imp_right .inl
    simp only [act]
    split <;> simp
  | dropReader => exact (kept (by simp [act])).imp_right .inl
  | cancel _ | offers | probe | handle | settle => exact (kept rfl).imp_right .inl

/-! ## The consumer along a run -/

/-- The consumer of a session's pipe at one point of its run: it is placed; the next command
loses it only if it is a stop or a disposal that joins a consumer loop that panicked, and that
command then fails with the generation's first fault; and once lost, it stays lost and every
start is refused before it connects, leaving the pipe not started. -/
structure Custody (s : Session) : Prop where
  placed : Placed s.pipe.core.custody
  lostByPanic : s.pipe.core.home ≠ .lost → ∀ c, (s.step c).1.pipe.core.home = .lost →
    (c = .stop ∨ c = .dispose) ∧ ∃ gen t text, s.pipe.core.running = some gen ∧
      gen.consumer = some t ∧ t.joinedEnd = .panicked text ∧
      (s.step c).2 = .failed ((gen.producer.joinedEnd.fault "producer" gen.producerTask).getD
        (joinFault "consumer" gen.consumerTask text))
  staysLost : s.pipe.core.home = .lost → ∀ c, (s.step c).1.pipe.core.home = .lost
  refusesStart : s.pipe.core.home = .lost → ∀ token,
    (s.step (.start token)).2 = .failed (if s.pipe.activity.disposed then disposedFault
      else if s.cancellations.hits token then .cancelled else lostConsumerFault) ∧
    (s.step (.start token)).1.pipe.core.conn.connects = s.pipe.core.conn.connects ∧
    (s.step (.start token)).1.pipe.activity.phase ≠ .started

theorem LoopEnd.custody_eq_lost {e : LoopEnd} (lost : e.custody = .lost) :
    ∃ text, e = .panicked text := by
  cases e with
  | exited r => cases lost
  | panicked text => exact ⟨text, rfl⟩

theorem LoopEnd.custody_ne_absent (e : LoopEnd) : e.custody ≠ .absent := by
  cases e <;> simp [LoopEnd.custody]

theorem stopFault_of_panicked {gen : Generation} {t : ConsumerTask} {text : String}
    (hc : gen.consumer = some t) (panicked : t.joinedEnd = .panicked text) :
    gen.stopFault = some ((gen.producer.joinedEnd.fault "producer" gen.producerTask).getD
      (joinFault "consumer" gen.consumerTask text)) := by
  simp only [Generation.stopFault, hc, Option.bind_some, panicked]
  cases gen.producer.joinedEnd.fault "producer" gen.producerTask <;> rfl

theorem start_of_lost (h : s.pipe.Sound) (lost : s.pipe.core.home = .lost)
    (idle : s.pipe.core.running = none) (token : Option Token) :
    s.pipe.start s.cancellations token = (s.pipe, .error (if s.pipe.activity.disposed then
      disposedFault else if s.cancellations.hits token then .cancelled else lostConsumerFault)) := by
  have notStarted : s.pipe.activity.phase ≠ .started := fun started => by
    simpa [idle] using h.running.mpr started
  rcases h.resting with rest | rest | rest
  · have phase : s.pipe.activity.phase = .stopped := by rw [rest]
    have undisposed := h.resting.undisposed (by simp [phase])
    cases hit : s.cancellations.hits token
    · -- the start hook refuses at once: no connect, and the pipe stays stopped
      rw [DuplexPipe.start_of_hook h.resting.gate hit phase undisposed
        (DuplexCore.onStarting_of_lost lost)]
      have rested : ({ phase := s.pipe.activity.phase, gate := s.pipe.activity.gate } : Activity) =
          s.pipe.activity := by
        rw [rest]
      simp only [Except.isOk, Except.toBool, Bool.false_eq_true, if_false, undisposed]
      rw [← phase, rested]
    · rw [DuplexPipe.start_of_cancelled h.resting.gate hit phase undisposed]
      simp [undisposed]
  · exact absurd (by rw [rest]) notStarted
  · have disposed : s.pipe.activity.disposed = true := by rw [rest]
    rw [DuplexPipe.start_of_disposed disposed]
    simp [disposed]

theorem custody_of_sound (h : s.pipe.Sound) (placed : Placed s.pipe.core.custody) :
    s.Custody where
  placed := placed
  lostByPanic kept c lost := by
    obtain ⟨-, moved⟩ := custody_step h placed c
    rcases moved with same | ⟨-, lent⟩ | ⟨which, gen, t, run, hc, back⟩
    · exact absurd (same ▸ lost) kept
    · rw [lent] at lost
      cases lost
    · obtain ⟨text, panicked⟩ := LoopEnd.custody_eq_lost (back ▸ lost)
      have fault := stopFault_of_panicked hc panicked
      refine ⟨which, gen, t, text, run, hc, panicked, ?_⟩
      -- the stop or the disposal answers the generation's first fault
      have joins := joins_of_sound h run
      rcases which with rfl | rfl
      · rw [joins.1.2, Generation.stopResult, fault]
        rfl
      · exact joins.2.2 _ fault
  staysLost lost c := by
    obtain ⟨-, moved⟩ := custody_step h placed c
    rcases moved with same | ⟨held, -⟩ | ⟨-, gen, t, run, -, -⟩
    · rw [same, lost]
    · rw [lost] at held
      cases held
    · -- a lost consumer goes with no generation running
      simp [Placed, custody, lost, run] at placed
  refusesStart lost token := by
    have idle : s.pipe.core.running = none := by
      cases hr : s.pipe.core.running <;> simp_all [Placed, custody]
    have refused := start_of_lost h lost idle token
    rw [step_start, refused]
    refine ⟨rfl, by simp [DuplexPipe.settle, DuplexCore.settle], fun started => ?_⟩
    simpa [DuplexPipe.settle, idle] using h.running.mpr started

/-- Every run keeps the consumer placed, and a pipe that had a consumer keeps having one,
held, lent or lost. -/
theorem custody_run (h : s.pipe.Sound) (placed : Placed s.pipe.core.custody)
    (present : s.pipe.core.home ≠ .absent) (cmds : List Command) :
    (s.run cmds).pipe.core.home ≠ .absent ∧ (s.run cmds).Custody := by
  induction cmds generalizing s with
  | nil => exact ⟨present, custody_of_sound h placed⟩
  | cons c cmds ih =>
    obtain ⟨placed', moved⟩ := custody_step h placed c
    have present' : (s.step c).1.pipe.core.home ≠ .absent := by
      rcases moved with same | ⟨-, lent⟩ | ⟨-, gen, t, -, -, back⟩
      · rw [same]
        exact present
      · rw [lent]
        decide
      · rw [back]
        exact LoopEnd.custody_ne_absent _
    exact ih (follows_step h c).sound placed' present'

end Duplex.Session

open Duplex.Session in
/-- A duplex pipe built with a consumer keeps it at every point of every run: held by the pipe
while no generation runs, or lent to the consumer loop of the running one. It loses the
consumer only when a stop or a disposal joins a consumer loop that panicked, and that call
fails with the generation's first fault: the producer loop's own when it failed too, the
consumer's join fault otherwise. From then on the consumer stays lost and every start fails
before it connects, leaving the pipe not started: `Disposed` on a disposed pipe, `Cancelled`
when the start's token has fired, and the lost consumer's `InvalidState` otherwise. -/
theorem consumer_stays_with_pipe_until_its_loop_panics {o : PipeOptions} {conn : Connection}
    {verdicts : List Verdict} {s₀ : Duplex.Session}
    (fresh : s₀.pipe = DuplexPipe.create o conn (some verdicts)) (cmds : List Duplex.Command) :
    (s₀.run cmds).pipe.core.home ≠ .absent ∧ (s₀.run cmds).Custody := by
  have sound : s₀.pipe.Sound := by
    rw [fresh]
    exact DuplexPipe.sound_create _ _ _
  -- a new pipe holds its consumer, and no generation runs
  have held : s₀.pipe.core.home = .held := by simp [fresh, DuplexPipe.create]
  have placed : DuplexCore.Placed s₀.pipe.core.custody := by
    simp [DuplexCore.Placed, DuplexCore.custody, fresh, DuplexPipe.create]
  exact custody_run sound placed (by rw [held]; decide) cmds

/-- A pipe whose connection hands out a byte, yields and then fails, with a consumer that
panics at its first offer: started, stopped and started again, with a one-byte receive buffer
that pauses the writer at its first unread byte. -/
theorem custody_of_pipe_with_panicking_consumer :
    let conn : Connection := { chunks := [.data [0], .yield], ending := .fail .connectionClosed }
    let o : PipeOptions :=
      { receiveBufferSize := 1, pauseWriterThreshold := 1, resumeWriterThreshold := 0 }
    let s₀ : Duplex.Session := { pipe := DuplexPipe.create o conn (some [.panic]), handle := 0,
                                 metered := false, gated := false }
    let cmds := [Duplex.Command.start none, .stop, .start none]
    s₀.pipe = DuplexPipe.create o conn (some [.panic]) ∧
      (s₀.run cmds).pipe.core.home ≠ .absent ∧ (s₀.run cmds).Custody := by
  intro conn o s₀ cmds
  exact ⟨rfl, consumer_stays_with_pipe_until_its_loop_panics rfl cmds⟩

/-- When the producer loop fails as well, the stop that loses the consumer answers the
producer's fault, not the internal join fault; after it, a start whose token has fired is
`Cancelled`, and a start on the disposed pipe is `Disposed`. Only a start with a live token on
the pipe not yet disposed answers the lost consumer's `InvalidState`. -/
theorem lost_consumer_faults_of_failed_producer :
    let conn : Connection := { chunks := [.data [0], .yield], ending := .fail .connectionClosed }
    let s₀ : Duplex.Session := { pipe := DuplexPipe.create {} conn (some [.panic]), handle := 0,
                                 metered := false, gated := false }
    let s₁ := (s₀.step (.start none)).1
    let stopped := s₁.step .stop
    let s₃ := (stopped.1.step (.cancel ⟨"k"⟩)).1
    let cancelledStart := s₃.step (.start (some ⟨"k"⟩))
    let liveStart := cancelledStart.1.step (.start none)
    let s₆ := (liveStart.1.step .dispose).1
    let disposedStart := s₆.step (.start none)
    Duplex.Session.create {} true conn (some [.panic]) = .ok s₀ ∧
      stopped.1.pipe.core.home = .lost ∧ stopped.2 = .failed .connectionClosed ∧
      cancelledStart.2 = .failed .cancelled ∧ liveStart.2 = .failed lostConsumerFault ∧
      disposedStart.2 = .failed disposedFault :=
  ⟨rfl, rfl, rfl, rfl, rfl, rfl⟩

end Sluice
