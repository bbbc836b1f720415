import Mathlib
import Sluice.Proofs.Duplex.Hooks
/-!
# Generations of a duplex pipe

Each start of a duplex pipe that connects spawns one generation of loops, and the next stop or
disposal ends it. This module proves it over every run of a session on a new pipe, where each
command runs to its end and the loops then run for one settle
(`Duplex.Session.start_spawns_one_generation_and_stop_joins_it`):

* while the pipe is not started, no generation runs and no reader is stored, and a start
  succeeds exactly when the pipe is stopped, its token has not fired, the consumer is not lost
  and the connect succeeds; then it spawns one generation (`DuplexCore.Spawned`), and
  otherwise it leaves none (`Duplex.Session.Starts`);
* a start on a started pipe does what a settle does;
* a running generation is the latest start's, and a stop or disposal joins it
  (`DuplexCore.Joined`), answering its first fault;
* the readers handed out of the store come from ever later byte pipes, so none is handed out
  twice (`Duplex.Session.handedOut`).

Everything rests on one invariant of the pipe between commands (`DuplexPipe.Sound`): the
activity rests with its gate free, a generation runs exactly when the pipe is started and is
then in order with its core, and nothing is stored while no generation runs. A command keeps
it, makes no byte pipe go and stores no reader but a fresh one (`DuplexPipe.Follows`). The
generation token is a flag of the core: every loop of the running generation reads it, and a
start clears it only once every earlier loop has been joined.
-/

namespace Sluice

/-! ## The invariant between commands -/

namespace DuplexCore

variable {w : DuplexCore}

/-- The three ends of a start hook on a core with nothing stored: the consumer was lost, the
connect failed, or one generation was spawned. -/
theorem onStarting_cases (idle : w.stored = none) :
    (w.home = .lost ∧ w.onStarting = (w, .error lostConsumerFault)) ∨
    (∃ f, w.home ≠ .lost ∧ w.conn.failConnect = some f ∧
      w.onStarting = ({ w with conn := w.conn.connect.1 }, .error f)) ∨
    (w.home ≠ .lost ∧ w.conn.failConnect = none ∧ Spawned w w.onStarting.1 ∧
      w.onStarting.2 = .ok () ∧ ∃ gen, w.onStarting.1.running = some gen ∧ w.onStarting.1.Fits gen ∧
      w.onStarting.1.moves = w.moves) := by
  by_cases lost : w.home = .lost
  · exact .inl ⟨lost, onStarting_of_lost lost⟩
  · cases connects : w.conn.failConnect with
    | some f => exact .inr (.inl ⟨f, lost, rfl, onStarting_of_failConnect lost connects⟩)
    | none =>
      obtain ⟨spawned, ok⟩ := onStarting_spawns lost connects idle
      obtain ⟨gen, run, fits⟩ := onStarting_fits lost connects idle
      refine .inr (.inr ⟨lost, rfl, spawned, ok, gen, run, fits, ?_⟩)
      by_cases held : w.home = .held <;>
        simp [onStarting, lost, held, Connection.connect, connects, idle, dropReader]

end DuplexCore

namespace DuplexPipe

/-- The activity of a duplex pipe between calls: at rest, stopped, started or disposed, with
its gate free. -/
def Resting (a : Activity) : Prop :=
  a = { phase := .stopped } ∨ a = { phase := .started } ∨ a = { phase := .disposed, disposed := true }

theorem Resting.gate {a : Activity} (rest : Resting a) : a.gate = Semaphore.singleSlot := by
  rcases rest with rfl | rfl | rfl <;> rfl

theorem Resting.undisposed {a : Activity} (rest : Resting a) (phase : a.phase ≠ .disposed) :
    a.disposed = false := by
  rcases rest with rfl | rfl | rfl <;> simp_all

/-- A duplex pipe as calls that run to their end leave it: the activity rests; a generation
runs exactly when the pipe is started, and then in order with its core; nothing is stored while
no generation runs; and a poll of a loop may move it. -/
structure Sound (d : DuplexPipe) : Prop where
  resting : Resting d.activity
  running : d.core.running.isSome = true ↔ d.activity.phase = .started
  fits : ∀ gen, d.core.running = some gen → d.core.Fits gen
  idle : d.core.running = none → d.core.stored = none
  moves : 1 ≤ d.core.moves

/-- What a call or a settle may leave of the pipe `d`: a sound pipe with every byte pipe of `d`,
that stores no reader but the one `d` stored or the fresh reader of the byte pipe made next. -/
structure Follows (d d' : DuplexPipe) : Prop where
  sound : d'.Sound
  pipes : d.core.pipes.length ≤ d'.core.pipes.length
  stored : d'.core.stored = none ∨ d'.core.stored = d.core.stored ∨
    d'.core.stored = some (d.core.pipes.length, {})

variable {d : DuplexPipe} {cs : Cancellations}

theorem Sound.running_of_phase (h : d.Sound) (phase : d.activity.phase ≠ .started) :
    d.core.running = none := by
  have := h.running
  cases hr : d.core.running <;> simp_all

theorem Sound.running_of_started (h : d.Sound) (phase : d.activity.phase = .started) :
    ∃ gen, d.core.running = some gen :=
  Option.isSome_iff_exists.mp (h.running.mpr phase)

theorem Sound.follows (h : d.Sound) : d.Follows d :=
  ⟨h, le_rfl, .inr (.inl rfl)⟩

theorem Follows.settle {d' : DuplexPipe} (next : d.Follows d') : d.Follows d'.settle := by
  refine ⟨?_, by simpa [DuplexPipe.settle, DuplexCore.settle] using next.pipes,
    by simpa [DuplexPipe.settle, DuplexCore.settle] using next.stored⟩
  have h := next.sound
  cases hr : d'.core.running with
  | none =>
    -- with no generation there is nothing for the loops to run
    have same : d'.core.settle = d'.core := DuplexCore.runQueue_of_idle hr _
    have : d'.settle = d' := by simp [DuplexPipe.settle, same]
    rwa [this]
  | some gen =>
    -- the run keeps the generation in order with its core, under another name
    obtain ⟨gen', ran, -, fits⟩ := (h.fits gen hr).runQueue hr settlePolls
    refine ⟨h.resting, ?_, fun g found => ?_, fun gone => ?_,
      by simpa [DuplexPipe.settle, DuplexCore.settle] using h.moves⟩
    · have := h.running
      simp_all [DuplexPipe.settle, DuplexCore.settle]
    · simp only [DuplexPipe.settle, DuplexCore.settle, ran, Option.some.injEq] at found
      subst found
      exact fits
    · simp [DuplexPipe.settle, DuplexCore.settle, ran] at gone

/-- A core changed by a command that neither starts nor stops: the generation that runs, if
any, stays in order with it. -/
theorem Sound.withCore (h : d.Sound) {w : DuplexCore} (running : w.running = d.core.running)
    (fits : ∀ gen, d.core.Fits gen → w.Fits gen) (idle : w.running = none → w.stored = none)
    (moves : w.moves = d.core.moves) (pipes : d.core.pipes.length ≤ w.pipes.length)
    (stored : w.stored = none ∨ w.stored = d.core.stored) : d.Follows { d with core := w } :=
  ⟨⟨h.resting, by simpa [running] using h.running,
    fun gen found => fits gen (h.fits gen (running ▸ found)), idle, moves ▸ h.moves⟩,
    pipes, stored.imp_right .inl⟩

theorem Sound.start (h : d.Sound) (token : Option Token) : d.Follows (d.start cs token).1 := by
  rcases h.resting with rest | rest | rest
  · have gate := h.resting.gate
    have phase : d.activity.phase = .stopped := by rw [rest]
    have undisposed := h.resting.undisposed (by simp [phase])
    have stopped := h.running_of_phase (by simp [phase])
    have idle := h.idle stopped
    cases hit : cs.hits token
    · rcases DuplexCore.onStarting_cases idle with ⟨-, hook⟩ | ⟨f, -, -, hook⟩ |
        ⟨-, -, spawned, ok, gen, run, fits, moves⟩
      case inl | inr.inl =>
        -- a refused start leaves the pipe stopped, with the core as the hook left it
        rw [start_of_hook gate hit phase undisposed hook]
        refine ⟨⟨by simp [Except.isOk, Except.toBool, rest, Resting], ?_, ?_, ?_, h.moves⟩, le_rfl,
          .inr (.inl rfl)⟩ <;> simp [Except.isOk, Except.toBool, stopped, idle]
      case inr.inr =>
        rw [start_of_hook gate hit phase undisposed
          (show d.core.onStarting = (d.core.onStarting.1, .ok ()) from Prod.ext rfl ok)]
        obtain ⟨-, grown, -, -, gen', run', pipe, -, -, stores⟩ := spawned
        refine ⟨⟨by simp [Except.isOk, Except.toBool, rest, Resting],
          by simp [run, Except.isOk, Except.toBool], ?_, by simp [run],
          by simpa [moves] using h.moves⟩, by simp [grown], ?_⟩
        · intro g found
          simp only [run, Option.some.injEq] at found
          exact found ▸ fits
        · -- a spawn stores nothing, or the fresh reader of the pipe it made
          split_ifs at stores with held
          · exact .inl stores.2.2
          · exact .inr (.inr (by rw [stores.2, pipe]))
    · rw [start_of_cancelled gate hit phase undisposed]
      exact h.follows
  · rw [start_of_started (by rw [rest]) (by rw [rest])]
    exact h.follows
  · rw [start_of_disposed (by rw [rest])]
    exact h.follows

/-- What the stop hook leaves of a started pipe whose activity then rests at `a`: the
generation that ran is joined, and nothing runs or is stored. -/
theorem Sound.ofStopping (h : d.Sound) (started : d.activity.phase = .started) {a : Activity}
    (resting : Resting a) (phase : a.phase ≠ .started) :
    d.Follows { activity := a, core := d.core.onStopping.1 } := by
  obtain ⟨gen, run⟩ := h.running_of_started started
  have joined := (DuplexCore.onStopping_joins run (h.fits gen run) h.moves).1
  exact ⟨⟨resting, by simp [joined.running, phase], by simp [joined.running],
    fun _ => joined.stored, by simpa [joined.moves] using h.moves⟩, by simp [joined.pipes],
    .inl joined.stored⟩

theorem Sound.stop (h : d.Sound) : d.Follows (d.stop cs).1 := by
  rcases h.resting with rest | rest | rest
  · rw [stop_of_idle (by simp [rest])]
    exact h.follows
  · rw [stop_of_hook (by simp [rest]) (by simp [rest]) (by simp [rest]) (Prod.ext rfl rfl)]
    exact h.ofStopping (by simp [rest]) (by simp [rest, Resting]) (by simp)
  · rw [stop_of_idle (by simp [rest])]
    exact h.follows

theorem Sound.transition_dispose (h : d.Sound) : d.Follows (transition cs .dispose none d).1 := by
  rcases h.resting with rest | rest | rest
  · rw [dispose_transition_of_stopped (by simp [rest]) (by simp [rest]) (by simp [rest])]
    have stopped := h.running_of_phase (by simp [rest])
    exact ⟨⟨by simp [rest, Resting], by simp [stopped], by simp [stopped],
      fun _ => h.idle stopped, h.moves⟩, le_rfl, .inr (.inl rfl)⟩
  · rw [dispose_transition_of_hook (by simp [rest]) (by simp [rest]) (by simp [rest])
      (Prod.ext rfl rfl)]
    exact h.ofStopping (by simp [rest]) (by simp [rest, Resting]) (by simp)
  · rw [dispose_transition_of_disposed (by simp [rest])]
    exact h.follows

theorem Sound.release (h : d.Sound) (c : Connection) :
    { d with core := { d.core with conn := c, released := true } }.Sound :=
  (h.withCore (w := { d.core with conn := c, released := true }) rfl
    (fun _ f => ⟨f.queue, f.pipe, f.stored, f.exits⟩) h.idle rfl le_rfl (.inr rfl)).sound

theorem Sound.dispose (h : d.Sound) : d.Follows (d.dispose cs).1 := by
  have stopped : d.Follows (transition cs .dispose none d).1 := h.transition_dispose
  simp only [DuplexPipe.dispose]
  split_ifs
  · exact stopped
  · -- disposing the connection touches neither the generation nor the store
    exact ⟨stopped.sound.release _, stopped.pipes, stopped.stored⟩

theorem Sound.withConn (h : d.Sound) (c : Connection) :
    d.Follows { d with core := { d.core with conn := c } } :=
  h.withCore rfl (fun _ f => ⟨f.queue, f.pipe, f.stored, f.exits⟩) h.idle rfl le_rfl (.inr rfl)

theorem Sound.setPipe (h : d.Sound) (i : Nat) (p : Pipe) :
    d.Follows { d with core := d.core.setPipe i p } :=
  h.withCore rfl (fun _ f => f.setPipe i p) (fun gone => h.idle gone) rfl (by simp) (.inr rfl)

theorem Follows.dropReader {d' : DuplexPipe} (next : d.Follows d') (o : Option (Nat × Reader)) :
    d.Follows { d' with core := d'.core.dropReader o } := by
  have h := next.sound
  obtain ⟨sound, -, stored⟩ := h.withCore (by simp) (fun _ f => f.dropReader o)
    (fun gone => by simpa using h.idle (by simpa using gone)) (by simp) (by simp) (.inr (by simp))
  refine ⟨sound, by simpa using next.pipes, ?_⟩
  simpa using next.stored

theorem sound_create (options : PipeOptions) (conn : Connection) (consumer : Option (List Verdict)) :
    (create options conn consumer).Sound :=
  ⟨.inl rfl, by simp [create], by simp [create], fun _ => rfl, by simp [create, moveBudget]; omega⟩

end DuplexPipe

namespace DuplexCore

variable {gen : Generation} {w w' : DuplexCore}

theorem Joined.settle (joined : Joined gen w w') (a : Activity) :
    Joined gen w ({ activity := a, core := w' } : DuplexPipe).settle.core := by
  have idle : w'.runQueue settlePolls = w' := runQueue_of_idle joined.running _
  simpa [DuplexPipe.settle, DuplexCore.settle, idle] using joined

theorem Joined.release (joined : Joined gen w w') (c : Connection) :
    Joined gen w { w' with conn := c, released := true } :=
  ⟨joined.running, joined.token, joined.readCancel, joined.producerExit, joined.consumerExit,
    joined.stored, joined.dropped, joined.pipes, joined.moves⟩

end DuplexCore

/-! ## Runs of a session -/

namespace Duplex.Session

variable {s : Session}

def run (s : Session) : List Command → Session
  | [] => s
  | c :: cmds => (s.step c).1.run cmds

theorem follows_act (h : s.pipe.Sound) (c : Command) : s.pipe.Follows (s.act c).1.pipe := by
  cases c with
  | start token => exact h.start token
  | stop => exact h.stop
  | dispose => exact h.dispose
  | send data =>
    simp only [act, DuplexPipe.send]
    split_ifs
    · exact h.follows
    · exact h.withConn _
  | cancel t => exact h.follows
  | takeReader =>
    have cleared : s.pipe.Follows { s.pipe with core := { s.pipe.core with stored := none } } :=
      h.withCore rfl (fun _ f => ⟨f.queue, f.pipe, .inl rfl, f.exits⟩) (fun _ => rfl) rfl le_rfl
        (.inl rfl)
    simp only [act, DuplexPipe.takeReader]
    split
    · exact cleared
    · exact cleared.dropReader _
  | read =>
    simp only [act]
    split
    · exact h.follows
    · exact h.setPipe _ _
  | advanceTo consumed examined =>
    simp only [act]
    split
    · exact h.follows
    · exact h.setPipe _ _
  | completeReader =>
    simp only [act]
    split
    · exact h.follows
    · exact h.setPipe _ _
  | dropReader => exact h.follows.dropReader _
  | offers => exact h.follows
  | probe => exact h.follows
  | handle => exact h.follows
  | settle => exact h.follows

/-- Every command, with the settle after it, keeps the pipe sound; it makes no byte pipe go, and
stores no reader but the one stored before or the fresh reader of the pipe it made. -/
theorem follows_step (h : s.pipe.Sound) (c : Command) : s.pipe.Follows (s.step c).1.pipe :=
  (follows_act h c).settle

theorem sound_run (h : s.pipe.Sound) (cmds : List Command) : (s.run cmds).pipe.Sound := by
  induction cmds generalizing s with
  | nil => exact h
  | cons c cmds ih => exact ih (follows_step h c).sound

/-! ## Readers handed out -/

/-- The byte pipe of the reader a command hands out of the pipe's store, if it does. -/
def handsOut (s : Session) : Command → Option Nat
  | .takeReader => s.pipe.core.stored.map Prod.fst
  | _ => none

/-- The byte pipes of the readers handed out of the store along a run, in order. -/
def handedOut (s : Session) : List Command → List Nat
  | [] => []
  | c :: cmds => (s.handsOut c).toList ++ (s.step c).1.handedOut cmds

/-- No reader of a byte pipe before index `b` is left to hand out: there are at least `b` pipes,
and a stored reader belongs to pipe `b` or a later one. -/
structure Untaken (b : Nat) (s : Session) : Prop where
  pipes : b ≤ s.pipe.core.pipes.length
  stored : ∀ i r, s.pipe.core.stored = some (i, r) → b ≤ i

theorem stored_latest (h : s.pipe.Sound) {i : Nat} {r : Reader}
    (stored : s.pipe.core.stored = some (i, r)) : i + 1 = s.pipe.core.pipes.length := by
  cases hr : s.pipe.core.running with
  | none => simp [h.idle hr] at stored
  | some gen =>
    have fits := h.fits gen hr
    rcases fits.stored with idle | held
    · simp [idle] at stored
    · rw [held] at stored
      cases stored
      exact fits.pipe

theorem Untaken.step {b : Nat} (untaken : s.Untaken b) (h : s.pipe.Sound) (c : Command) :
    (s.step c).1.Untaken b := by
  have next := follows_step h c
  refine ⟨untaken.pipes.trans next.pipes, fun i r stored => ?_⟩
  -- what is stored now was stored before, or is the reader of the pipe made now, past `b`
  rcases next.stored with gone | same | fresh
  · simp [gone] at stored
  · exact untaken.stored i r (same ▸ stored)
  · rw [fresh] at stored
    cases stored
    exact untaken.pipes

theorem stored_takeReader : (s.step .takeReader).1.pipe.core.stored = none := by
  simp only [step, act, DuplexPipe.takeReader]
  split <;> simp [DuplexPipe.settle, DuplexCore.settle]

theorem Untaken.handsOut {i : Nat} (h : s.pipe.Sound) {c : Command} (out : s.handsOut c = some i) :
    (s.step c).1.Untaken (i + 1) := by
  -- only taking the reader hands one out
  cases c <;> try cases out
  obtain ⟨⟨i', r⟩, stored, rfl⟩ := Option.map_eq_some_iff.mp out
  refine ⟨?_, fun j r' stored' => ?_⟩
  · rw [stored_latest h stored]
    exact (follows_step h .takeReader).pipes
  · simp [stored_takeReader] at stored'

/-- The readers handed out of the store along a run come from ever later byte pipes, so no
reader is handed out twice. -/
theorem handedOut_increasing {b : Nat} (h : s.pipe.Sound) (untaken : s.Untaken b)
    (cmds : List Command) :
    (∀ j ∈ s.handedOut cmds, b ≤ j) ∧ (s.handedOut cmds).Pairwise (· < ·) := by
  -- the induction carries the bound `b` below which nothing is left to hand out
  induction cmds generalizing s b with
  | nil => simp [handedOut]
  | cons c cmds ih =>
    have next := (follows_step h c).sound
    cases out : s.handsOut c with
    | none =>
      simpa [handedOut, out] using ih next (untaken.step h c)
    | some i =>
      obtain ⟨⟨i', r⟩, stored, rfl⟩ : ∃ x, s.pipe.core.stored = some x ∧ x.1 = i := by
        cases c <;> try cases out
        exact Option.map_eq_some_iff.mp out
      have first : b ≤ i' := untaken.stored i' r stored
      obtain ⟨later, rest⟩ := ih next (Untaken.handsOut h out)
      refine ⟨?_, ?_⟩
      · simp only [handedOut, out, Option.toList_some, List.cons_append, List.nil_append,
          List.mem_cons]
        rintro j (rfl | mem)
        · exact first
        · exact first.trans (Nat.le_of_succ_le (later j mem))
      · simp only [handedOut, out, Option.toList_some, List.cons_append, List.nil_append,
          List.pairwise_cons]
        exact ⟨fun j mem => later j mem, rest⟩

/-! ## Starts and stops at every point of a run -/

/-- What a start with the token `token` does from `s` on a pipe that is not started, the loops
run afterwards: it succeeds exactly when the pipe is stopped, the token has not fired, the
consumer is not lost and the connect succeeds, and then spawns one generation; otherwise it
leaves no generation running and no reader stored. -/
structure Starts (s : Session) (token : Option Token) : Prop where
  done_iff : (s.step (.start token)).2 = .done .unit ↔
    s.pipe.activity.phase = .stopped ∧ s.cancellations.hits token = false ∧
      s.pipe.core.home ≠ .lost ∧ s.pipe.core.conn.failConnect = none
  spawned : (s.step (.start token)).2 = .done .unit →
    DuplexCore.Spawned s.pipe.core (s.step (.start token)).1.pipe.core
  refused : (s.step (.start token)).2 ≠ .done .unit →
    (s.step (.start token)).1.pipe.core.running = none ∧
      (s.step (.start token)).1.pipe.core.stored = none

/-- The generations of a session's pipe at one point of its run. While the pipe is not started
no generation runs and no reader is stored, and a start behaves as `Starts` says; a start on a
started pipe only lets the loops run; a running generation is the latest start's, on the last
byte pipe made; and a stop or a disposal joins it, answering its first fault. -/
structure Generations (s : Session) : Prop where
  idle : s.pipe.activity.phase ≠ .started → s.pipe.core.running = none ∧ s.pipe.core.stored = none
  start : s.pipe.activity.phase ≠ .started → ∀ token, s.Starts token
  restart : s.pipe.activity.phase = .started → ∀ token, s.step (.start token) = s.step .settle
  latest : ∀ gen, s.pipe.core.running = some gen → gen.pipe + 1 = s.pipe.core.pipes.length
  stop : ∀ gen, s.pipe.core.running = some gen →
    DuplexCore.Joined gen s.pipe.core (s.step .stop).1.pipe.core ∧
      (s.step .stop).2 = unitOf gen.stopResult
  dispose : ∀ gen, s.pipe.core.running = some gen →
    DuplexCore.Joined gen s.pipe.core (s.step .dispose).1.pipe.core ∧
      ∀ e, gen.stopFault = some e → (s.step .dispose).2 = .failed e

theorem unitOf_eq_done {r : Except Fault Unit} : unitOf r = .done .unit ↔ r = .ok () := by
  rcases r with e | ⟨⟩ <;> simp [unitOf, Outcome.ofExcept, Outcome.map]

theorem step_start (token : Option Token) :
    s.step (.start token) = ({ s with pipe := (s.pipe.start s.cancellations token).1.settle },
      unitOf (s.pipe.start s.cancellations token).2) := rfl

theorem step_stop : s.step .stop =
    ({ s with pipe := (s.pipe.stop s.cancellations).1.settle }, unitOf (s.pipe.stop s.cancellations).2) :=
  rfl

theorem step_dispose : s.step .dispose =
    ({ s with pipe := (s.pipe.dispose s.cancellations).1.settle },
      unitOf (s.pipe.dispose s.cancellations).2) := rfl

theorem Starts.of_start {token : Option Token} {d : DuplexPipe} {r : Except Fault Unit}
    (start : s.pipe.start s.cancellations token = (d, r))
    (done_iff : r = .ok () ↔ s.pipe.activity.phase = .stopped ∧ s.cancellations.hits token = false ∧
      s.pipe.core.home ≠ .lost ∧ s.pipe.core.conn.failConnect = none)
    (spawned : r = .ok () → DuplexCore.Spawned s.pipe.core d.core)
    (refused : r ≠ .ok () → d.core.running = none ∧ d.core.stored = none) : s.Starts token := by
  have step := step_start (s := s) token
  rw [start] at step
  refine ⟨?_, fun ok => ?_, fun notOk => ?_⟩ <;> rw [step] at *
  · exact unitOf_eq_done.trans done_iff
  · exact (spawned (unitOf_eq_done.mp ok)).runQueue _
  obtain ⟨stopped, idle⟩ := refused (mt unitOf_eq_done.mpr notOk)
  simpa [DuplexPipe.settle, DuplexCore.settle, DuplexCore.runQueue_of_idle stopped] using
    And.intro stopped idle

theorem starts_of_sound (h : s.pipe.Sound) (phase : s.pipe.activity.phase ≠ .started)
    (token : Option Token) : s.Starts token := by
  have stopped := h.running_of_phase phase
  have idle := h.idle stopped
  rcases h.resting with rest | rest | rest
  · have gate := h.resting.gate
    have atStop : s.pipe.activity.phase = .stopped := by rw [rest]
    have undisposed := h.resting.undisposed (by simp [atStop])
    cases hit : s.cancellations.hits token
    · rcases DuplexCore.onStarting_cases idle with ⟨refused, hook⟩ | ⟨f, -, refused, hook⟩ |
        ⟨kept, connects, spawned, ok, -⟩
      case inl | inr.inl =>
        -- the consumer is lost, or the connect fails
        exact Starts.of_start (DuplexPipe.start_of_hook gate hit atStop undisposed hook)
          (by simp [refused]) (by simp) (fun _ => ⟨stopped, idle⟩)
      case inr.inr =>
        exact Starts.of_start (DuplexPipe.start_of_hook gate hit atStop undisposed
          (show s.pipe.core.onStarting = (s.pipe.core.onStarting.1, .ok ()) from Prod.ext rfl ok))
          (by simp [atStop, hit, kept, connects]) (fun _ => spawned) (by simp)
    · exact Starts.of_start (DuplexPipe.start_of_cancelled gate hit atStop undisposed)
        (by simp [hit]) (by simp) (fun _ => ⟨stopped, idle⟩)
  · exact absurd (by rw [rest]) phase
  · exact Starts.of_start (DuplexPipe.start_of_disposed (by rw [rest])) (by simp [rest])
      (by simp) (fun _ => ⟨stopped, idle⟩)

theorem joins_of_sound (h : s.pipe.Sound) {gen : Generation} (run : s.pipe.core.running = some gen) :
    (DuplexCore.Joined gen s.pipe.core (s.step .stop).1.pipe.core ∧
      (s.step .stop).2 = unitOf gen.stopResult) ∧
    (DuplexCore.Joined gen s.pipe.core (s.step .dispose).1.pipe.core ∧
      ∀ e, gen.stopFault = some e → (s.step .dispose).2 = .failed e) := by
  have started : s.pipe.activity.phase = .started := h.running.mp (by simp [run])
  have undisposed := h.resting.undisposed (by simp [started])
  have gate := h.resting.gate
  obtain ⟨joined, answer⟩ := DuplexCore.onStopping_joins run (h.fits gen run) h.moves
  have hook : s.pipe.core.onStopping = (s.pipe.core.onStopping.1, s.pipe.core.onStopping.2) := rfl
  refine ⟨⟨?_, ?_⟩, ?_, fun e fault => ?_⟩
  · rw [step_stop, DuplexPipe.stop_of_hook gate started undisposed hook]
    exact joined.settle _
  · rw [step_stop, DuplexPipe.stop_of_hook gate started undisposed hook, answer]
  · rw [step_dispose]
    simp only [DuplexPipe.dispose, DuplexPipe.dispose_transition_of_hook gate started undisposed hook]
    -- a disposal also releases the connection, unless it was released before
    split_ifs
    · exact joined.settle _
    · exact (joined.release _).settle _
  · rw [step_dispose]
    simp only [DuplexPipe.dispose, DuplexPipe.dispose_transition_of_hook gate started undisposed hook,
      answer, Generation.stopResult, fault]
    rfl

theorem generations_of_sound (h : s.pipe.Sound) : s.Generations where
  idle phase := ⟨h.running_of_phase phase, h.idle (h.running_of_phase phase)⟩
  start phase token := starts_of_sound h phase token
  restart phase token := by
    rw [step_start, DuplexPipe.start_of_started phase (h.resting.undisposed (by simp [phase]))]
    rfl
  latest gen run := (h.fits gen run).pipe
  stop _ run := (joins_of_sound h run).1
  dispose _ run := (joins_of_sound h run).2

/-- Every start of a duplex pipe that connects spawns one generation of loops, and the next
stop or disposal joins it, at every point of every run of a session on a new pipe, whatever its
options; and the readers the starts store are handed out from ever later byte pipes, none twice. -/
theorem start_spawns_one_generation_and_stop_joins_it {o : PipeOptions} {conn : Connection}
    {consumer : Option (List Verdict)} {s₀ : Session}
    (fresh : s₀.pipe = DuplexPipe.create o conn consumer) (cmds : List Command) :
    (s₀.run cmds).Generations ∧ (s₀.handedOut cmds).Pairwise (· < ·) := by
  have sound : s₀.pipe.Sound := by
    rw [fresh]
    exact DuplexPipe.sound_create _ _ _
  have untaken : s₀.Untaken 0 := ⟨Nat.zero_le _, fun _ _ _ => Nat.zero_le _⟩
  exact ⟨generations_of_sound (sound_run sound cmds), (handedOut_increasing sound untaken cmds).2⟩

/-- A pipe started, stopped and started again, on options that the settings check refuses: no
receive buffer, and a resume threshold above the pause threshold. -/
theorem generations_of_restarted_pipe :
    let o : PipeOptions :=
      { receiveBufferSize := 0, pauseWriterThreshold := 1, resumeWriterThreshold := 2 }
    let s₀ : Session := { pipe := DuplexPipe.create o {} none, handle := 0, metered := false,
                          gated := false }
    let cmds := [Command.start none, .takeReader, .stop, .start none, .takeReader]
    s₀.pipe = DuplexPipe.create o {} none ∧
      (s₀.run cmds).Generations ∧ (s₀.handedOut cmds).Pairwise (· < ·) := by
  intro o s₀ cmds
  exact ⟨rfl, start_spawns_one_generation_and_stop_joins_it rfl cmds⟩

end Duplex.Session

end Sluice
