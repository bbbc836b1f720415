import Mathlib
import Sluice.Proofs.Activity.Gate
import Sluice.Proofs.Activity.Lifecycle
/-!
# Lifecycle calls follow the lifecycle

Hooks are a parameter of the activity, so any hooks can be made to keep a log of what
happens to them: `Hooks.logged` appends an event to a log carried along with the world each
time a hook is invoked and each time one returns, and tags a running hook with which hook it
is. The activity's calls run unchanged on such hooks.

`Activity.Fit a log n` says that the activity is in line with the log: the log follows the
lifecycle to the activity's phase (or to `stopped`, for a disposed activity), the gate's unit
is held by the hook in progress and by `n` calls admitted without a hook yet, and disposal has
begun when the activity is disposed. Every function a call runs keeps it: an admitted call
either finishes at once and gives the slot up, or begins the hook of its kind from the phase
the lifecycle allows; a running hook either stays pending or ends, and its call gives the
slot up; a call still at the gate only moves the gate's unit as a wait does.

`Activity.Stepped` collects what one step of a call leaves. `Activity.Fit.begin` gives it for a
new call, `Activity.Fit.pollGate` and `Activity.Fit.runHook` for a poll at the gate and of a
running hook, and `Activity.Fit.drop` says what dropping a call keeps.
-/

namespace Sluice

variable {W H : Type}

/-- The events a poll of hook `k` adds to the log: its return, once it is ready. -/
def HookEvent.ofPoll (k : Hook) : Poll (Except Fault Unit) → List HookEvent
  | .pending => []
  | .ready r => [.returned k r]

/-- Hooks that keep a log of what happens to them: each invocation and each return is appended
to the log carried with the world, and a running hook carries which hook it is. -/
def Hooks.logged (hooks : Hooks W H) : Hooks (W × List HookEvent) (H × Hook) where
  beginStart token w :=
    (((hooks.beginStart token w.1).1, w.2 ++ [.began .start]),
      ((hooks.beginStart token w.1).2, .start))
  beginStop w :=
    (((hooks.beginStop w.1).1, w.2 ++ [.began .stop]), ((hooks.beginStop w.1).2, .stop))
  pollHook cs w h :=
    ((((hooks.pollHook cs w.1 h.1).1, w.2 ++ HookEvent.ofPoll h.2 (hooks.pollHook cs w.1 h.1).2.1),
      (hooks.pollHook cs w.1 h.1).2.1, ((hooks.pollHook cs w.1 h.1).2.2, h.2)))

namespace Call

def kind? {H : Type} : Call H → Option Transition
  | .admitting kind _ _ => some kind
  | .running kind _ => some kind
  | .finished => none

def hook? : Call (H × Hook) → Option Hook
  | .running _ (_, k) => some k
  | _ => none

/-- A call as the activity's functions leave it: waiting with a queued ticket, or running the
hook of its kind. -/
def Sound : Call (H × Hook) → Prop
  | .admitting _ _ wait => wait.isReady = false
  | .running kind (_, k) => k = kind.hook
  | .finished => True

/-- The hook a dropped call gives up: a running call drops its hook. -/
def dropped : Call (H × Hook) → List HookEvent
  | .running _ (_, k) => [.dropped k]
  | _ => []

end Call

namespace Activity

open HookEvent

/-- An activity in line with the log of its hooks, with `admitted` calls that hold the slot
and have not begun a hook: the log follows the lifecycle to the activity's phase, or to
`stopped` when the activity is disposed; the gate's unit is held by the hook in progress and
the admitted calls; and a disposed activity has begun its disposal. -/
structure Fit (a : Activity) (log : List HookEvent) (admitted : Nat) : Prop where
  lifecycle : replay log = some a.phase ∨ a.phase = .disposed ∧ replay log = some .stopped
  slot : a.gate.Slot ((inProgress log).toList.length + admitted)
  disposal : a.phase = .disposed → a.disposed = true

variable {hooks : Hooks W H} {cs : Cancellations} {a : Activity} {log : List HookEvent}
  {n : Nat}

theorem Fit.inProgress_eq (h : Fit a log n) : inProgress log = a.phase.running := by
  rcases h.lifecycle with r | ⟨d, r⟩
  · exact inProgress_of_replay r
  · rw [inProgress_of_replay r, d]
    rfl

theorem Fit.replay_eq (h : Fit a log n) (live : a.phase ≠ .disposed) :
    replay log = some a.phase := by
  rcases h.lifecycle with r | ⟨d, -⟩
  · exact r
  · exact absurd d live

theorem Fit.idle (h : Fit a log 1) : inProgress log = none := by
  have := h.slot.held_le_one
  cases hk : inProgress log with
  | none => rfl
  | some k => simp [hk] at this

theorem Fit.withGate {g : Semaphore} (h : Fit a log n) (slot : g.Slot ((inProgress log).toList.length + n)) :
    Fit { a with gate := g } log n :=
  ⟨h.lifecycle, slot, h.disposal⟩

theorem Fit.leave (cs : Cancellations) (h : Fit a log 1) :
    Fit (leave cs a) log 0 ∧ (leave cs a).phase = a.phase ∧
      (leave cs a).gate.nextTicket = a.gate.nextTicket := by
  have idle := h.idle
  have rest : a.phase.running = none := h.inProgress_eq ▸ idle
  have same : (Activity.leave cs a).phase = a.phase :=
    leave_phase_of_idle (fun p => by simp [p, Phase.running] at rest)
      (fun p => by simp [p, Phase.running] at rest)
  have held := h.slot
  rw [idle] at held
  obtain ⟨g, gate, slot, next⟩ := leave_of_slot cs held
  refine ⟨⟨?_, ?_, ?_⟩, same, gate ▸ next⟩
  · rw [same]
    exact h.lifecycle
  · rw [gate, idle]
    exact slot
  · rw [same]
    exact h.disposal

/-- The slot given up, the call having set phase `p`: the activity is in line with a log whose
lifecycle rests where the activity does. -/
theorem settle (cs : Cancellations) (p : Phase) (log' : List HookEvent) (held : a.gate.Slot 1)
    (rest : inProgress log' = none)
    (replay' : replay log' = some (Activity.leave cs { a with phase := p }).phase ∨
      (Activity.leave cs { a with phase := p }).phase = .disposed ∧ replay log' = some .stopped)
    (disposed' : (Activity.leave cs { a with phase := p }).phase = .disposed → a.disposed = true) :
    Fit (Activity.leave cs { a with phase := p }) log' 0 ∧
      (Activity.leave cs { a with phase := p }).gate.nextTicket = a.gate.nextTicket := by
  obtain ⟨g, gate, slot, next⟩ := leave_of_slot cs (a := { a with phase := p }) held
  refine ⟨⟨replay', ?_, disposed'⟩, gate ▸ next⟩
  rw [gate, rest]
  exact slot

theorem Fit.held {k : Hook} (h : Fit a log 0) (running : inProgress log = some k) :
    a.gate.Slot 1 := by
  have slot := h.slot
  rwa [running] at slot

/-- A hook that ended with `r`: its call finishes and answers `r`, the activity is in line with
the log that records the end, and a start hook that returned `Ok` leaves the activity
started. -/
theorem Fit.complete (cs : Cancellations) {U V : Type} {kind : Transition} (h : Fit a log 0)
    (running : inProgress log = some kind.hook) (disposing : kind = .dispose → a.disposed = true)
    (w : U) (r : Except Fault Unit) :
    Fit (complete cs kind a w r : CallStep U V).1 (log ++ [.returned kind.hook r]) 0 ∧
      (complete cs kind a w r : CallStep U V).2 = (w, .finished, .ready r) ∧
      (complete cs kind a w r : CallStep U V).1.disposed = a.disposed ∧
      (complete cs kind a w r : CallStep U V).1.gate.nextTicket = a.gate.nextTicket ∧
      (kind = .start → r = .ok () → (complete cs kind a w r : CallStep U V).1.phase = .started) := by
  have busy : a.phase.running = some kind.hook := h.inProgress_eq ▸ running
  -- the phase runs a hook, so the activity is not disposed and the lifecycle is where it is
  have replayed := h.replay_eq (fun d => by simp [d, Phase.running] at busy)
  cases kind with
  | start =>
    have starting : a.phase = .starting := by
      cases p : a.phase <;> simp_all [Phase.running, Transition.hook]
    cases r with
    | ok u =>
      have settled := settle cs .started (log ++ [.returned .start (.ok u)]) (h.held running)
        (by simp) (by
          left
          rw [leave_phase_of_idle (by simp) (by simp), replay_concat, replayed, starting]
          rfl) (by simp [leave_phase_of_idle])
      exact ⟨settled.1, rfl, rfl, settled.2, fun _ _ => leave_phase_of_idle (by simp) (by simp)⟩
    | error e =>
      have settled := settle cs a.phase (log ++ [.returned .start (.error e)]) (h.held running)
        (by simp) (by
          left
          rw [leave_phase_of_busy (.inl starting), replay_concat, replayed, starting]
          rfl) (by rw [leave_phase_of_busy (.inl starting)]; simp)
      exact ⟨settled.1, rfl, rfl, settled.2, fun _ failed => by cases failed⟩
  | stop =>
    have stopping : a.phase = .stopping := by
      cases p : a.phase <;> simp_all [Phase.running, Transition.hook]
    have settled := settle cs .stopped (log ++ [.returned .stop r]) (h.held running)
      (by simp) (by
        left
        rw [leave_phase_of_idle (by simp) (by simp), replay_concat, replayed, stopping]
        rfl) (by simp [leave_phase_of_idle])
    exact ⟨settled.1, rfl, rfl, settled.2, fun no => by cases no⟩
  | dispose =>
    have stopping : a.phase = .stopping := by
      cases p : a.phase <;> simp_all [Phase.running, Transition.hook]
    have settled := settle cs .disposed (log ++ [.returned .stop r]) (h.held running)
      (by simp) (by
        right
        refine ⟨leave_phase_of_idle (by simp) (by simp), ?_⟩
        rw [replay_concat, replayed, stopping]
        rfl) (fun _ => disposing rfl)
    exact ⟨settled.1, rfl, rfl, settled.2, fun no => by cases no⟩

/-- What one step of a call of kind `kind` leaves, from the activity `a` and the log `log`. -/
structure Stepped (kind : Transition) (a : Activity) (log : List HookEvent)
    (s : CallStep (W × List HookEvent) (H × Hook)) : Prop where
  fit : Fit s.1 s.2.1.2 0
  grows : ∃ new, s.2.1.2 = log ++ new
  -- every hook begun by the step is the call's own, begun while no hook was in progress: the start
  -- hook from a stopped activity not being disposed, the stop hook from a started one
  began : ∀ new, s.2.1.2 = log ++ new → ∀ k, .began k ∈ new → k = kind.hook ∧
    inProgress log = none ∧ (kind = .start → a.phase = .stopped ∧ a.disposed = false) ∧
    (kind ≠ .start → a.phase = .started)
  sound : s.2.2.1.Sound
  ownKind : s.2.2.1.kind? = none ∨ s.2.2.1.kind? = some kind
  disposal : a.disposed = true → s.1.disposed = true
  started : kind = .start → s.2.2.2 = .ready (.ok ()) → s.1.phase = .started
  stays : a.phase = .disposed → s.1.phase = .disposed

theorem Stepped.ofGate {kind : Transition} {g : Semaphore} {s : CallStep (W × List HookEvent) (H × Hook)}
    (st : Stepped kind { a with gate := g } log s) : Stepped kind a log s :=
  ⟨st.fit, st.grows, st.began, st.sound, st.ownKind, st.disposal, st.started, st.stays⟩

theorem Stepped.finished {kind : Transition} {a' : Activity} {w : W} {r : Except Fault Unit}
    (fit : Fit a' log 0) (disposal : a.disposed = true → a'.disposed = true)
    (started : kind = .start → r = .ok () → a'.phase = .started)
    (stays : a.phase = .disposed → a'.phase = .disposed) :
    Stepped kind a log ((a', (w, log), .finished, .ready r) : CallStep (W × List HookEvent) (H × Hook)) := by
  refine ⟨fit, ⟨[], by simp⟩, fun new same k mem => ?_, trivial, .inl rfl, disposal, ?_, stays⟩
  · exact absurd mem (not_began_of_eq same k)
  · intro start answered
    exact started start (by cases answered; rfl)

theorem Stepped.pending {kind : Transition} {w : W} {x : Call (H × Hook)} (fit : Fit a log 0)
    (sound : x.Sound) (own : x.kind? = some kind) :
    Stepped kind a log ((a, (w, log), x, .pending) : CallStep (W × List HookEvent) (H × Hook)) :=
  ⟨fit, ⟨[], by simp⟩, fun new same k mem => absurd mem (not_began_of_eq same k), sound,
    .inr own, id, (fun _ no => by cases no), id⟩

/-- The hook of a call, begun from `a` after the log `log`, carries the call's step: what the
hook's run leaves is what the call's step leaves. -/
theorem Stepped.ofBegun {kind : Transition} {a' : Activity} {s : CallStep (W × List HookEvent) (H × Hook)}
    (st : Stepped kind a' (log ++ [.began kind.hook]) s) (idle : inProgress log = none)
    (origin : (kind = .start → a.phase = .stopped ∧ a.disposed = false) ∧
      (kind ≠ .start → a.phase = .started))
    (disposal : a'.disposed = a.disposed) : Stepped kind a log s := by
  obtain ⟨new, grown⟩ := st.grows
  refine ⟨st.fit, ⟨.began kind.hook :: new, by simp [grown]⟩, fun new' same k mem => ?_,
    st.sound, st.ownKind, fun d => st.disposal (disposal ▸ d), st.started, fun d => ?_⟩
  · -- the step's first event is the hook's beginning; a later one would find it in progress
    have split : new' = .began kind.hook :: new := by
      rw [grown, List.append_assoc, List.singleton_append] at same
      exact (List.append_cancel_left same).symm
    rw [split] at mem
    rcases List.mem_cons.mp mem with first | later
    · rw [HookEvent.began.injEq] at first
      exact ⟨first, idle, origin⟩
    · have busy := (st.began new grown k later).2.1
      rw [inProgress_began] at busy
      cases busy
  -- a hook begins only from `stopped` or `started`
  by_cases start : kind = .start
  · rw [(origin.1 start).1] at d
    cases d
  · rw [origin.2 start] at d
    cases d

/-- One poll of a running hook: it stays pending and nothing changes, or it ends and its call
finishes. Either way the call runs a hook exactly while the log has one in progress. -/
theorem Fit.runHook (hooks : Hooks W H) (cs : Cancellations) (kind : Transition)
    (h : Fit a log 0) (running : inProgress log = some kind.hook)
    (disposing : kind = .dispose → a.disposed = true) (w : W) (x : H) :
    Stepped kind a log (runHook hooks.logged cs kind a (w, log) (x, kind.hook)) ∧
      (runHook hooks.logged cs kind a (w, log) (x, kind.hook)).2.2.1.hook? =
        inProgress (runHook hooks.logged cs kind a (w, log) (x, kind.hook)).2.1.2 ∧
      (runHook hooks.logged cs kind a (w, log) (x, kind.hook)).1.gate.nextTicket =
        a.gate.nextTicket := by
  unfold Activity.runHook
  simp only [Hooks.logged]
  generalize hooks.pollHook cs w x = q
  obtain ⟨w', p, x'⟩ := q
  cases p with
  | pending =>
    have quiet : HookEvent.ofPoll kind.hook .pending = [] := rfl
    rw [quiet, List.append_nil]
    dsimp only
    refine ⟨Stepped.pending h rfl rfl, ?_, rfl⟩
    rw [running]
    rfl
  | ready r =>
    have ended : HookEvent.ofPoll kind.hook (.ready r) = [.returned kind.hook r] := rfl
    rw [ended]
    dsimp only
    obtain ⟨fit, rest, disposal, next, started⟩ :=
      h.complete cs (V := H × Hook) running disposing
        (w', log ++ [.returned kind.hook r]) r
    generalize Activity.complete cs kind a (w', log ++ [.returned kind.hook r]) r = s
      at fit rest disposal next started ⊢
    obtain ⟨a', world, call, answer⟩ := s
    simp only [Prod.mk.injEq] at rest
    obtain ⟨rfl, rfl, rfl⟩ := rest
    -- a running hook means a transitional phase, never a disposed one
    have busy : a.phase.running = some kind.hook := h.inProgress_eq ▸ running
    refine ⟨⟨fit, ⟨_, rfl⟩, fun new same k mem =>
      absurd mem (not_began_of_append (fun j no => by simp at no) same k), trivial, .inl rfl,
      fun d => disposal ▸ d, fun start answered => started start (by cases answered; rfl),
      fun d => by simp [d, Phase.running] at busy⟩, by simp [Call.hook?], next⟩

/-- An admitted call acts with the slot held and no hook in progress: it finishes at once and
gives the slot up, or begins the hook of its kind, from `stopped` for a start and from
`started` otherwise, and runs it once. -/
theorem Fit.admitted (hooks : Hooks W H) (cs : Cancellations) (kind : Transition)
    (h : Fit a log 1)
    (disposing : kind = .dispose → a.disposed = true) (token : Option Token) (w : W) :
    Stepped kind a log (admitted hooks.logged cs kind token a (w, log)) ∧
      (admitted hooks.logged cs kind token a (w, log)).2.2.1.hook? =
        inProgress (admitted hooks.logged cs kind token a (w, log)).2.1.2 ∧
      (admitted hooks.logged cs kind token a (w, log)).1.gate.nextTicket = a.gate.nextTicket := by
  have idle := h.idle
  have rest : a.phase.running = none := h.inProgress_eq ▸ idle
  have held : a.gate.Slot 1 := by simpa [idle] using h.slot
  obtain ⟨left, kept, next⟩ := h.leave cs
  -- a call that finishes at once gives the slot up and answers `r`
  have finish : ∀ r : Except Fault Unit, (kind = .start → r = .ok () → a.phase = .started) →
      Stepped kind a log ((Activity.leave cs a, (w, log), .finished, .ready r) :
        CallStep (W × List HookEvent) (H × Hook)) ∧
        (Call.finished : Call (H × Hook)).hook? = inProgress log ∧
        (Activity.leave cs a).gate.nextTicket = a.gate.nextTicket :=
    fun r started => ⟨Stepped.finished left id (fun s ok => kept ▸ started s ok)
      (fun d => kept.trans d), by rw [idle]; rfl, next⟩
  -- a hook begun from the lifecycle's phase `q` runs from `q'`, with the slot still held
  have begin : ∀ {q' : Phase} {k : Hook}, replay (log ++ [.began k]) = some q' →
      Fit { a with phase := q' } (log ++ [.began k]) 0 := fun {q' k} replayed =>
    ⟨.inl replayed, by simpa using held, fun d => absurd d (replay_ne_disposed replayed)⟩
  -- from the phase it rests in, the lifecycle lets the hook begin
  have beganFrom : ∀ {q : Phase} (k : Hook), a.phase = q → q ≠ .disposed →
      replay (log ++ [.began k]) = q.next (.began k) := by
    intro q k resting live
    rw [replay_concat, h.replay_eq (resting ▸ live), resting]
    rfl
  cases kind with
  | start =>
    unfold Activity.admitted
    dsimp only
    by_cases d : a.disposed = true
    · rw [if_pos d]
      exact finish _ (fun _ no => by cases no)
    by_cases run : a.isRunning = true
    · rw [if_neg d, if_pos run]
      exact finish _ (fun _ _ => by simpa [isRunning] using run)
    rw [if_neg d, if_neg run]
    -- neither disposed nor started, with no hook running: the activity is stopped
    have disposal := h.disposal
    have stopped : a.phase = .stopped := by
      cases p : a.phase <;> simp_all [Phase.running, isRunning]
    have replayed : replay (log ++ [.began .start]) = some .starting :=
      beganFrom .start stopped (by decide)
    simp only [Hooks.logged]
    obtain ⟨stepped, hooked, ticket⟩ := (begin replayed).runHook hooks cs .start
      inProgress_began (fun no => by cases no) (hooks.beginStart token w).1
      (hooks.beginStart token w).2
    exact ⟨stepped.ofBegun idle ⟨fun _ => ⟨stopped, by simpa using d⟩, fun no => absurd rfl no⟩
      rfl, hooked, ticket⟩
  | stop =>
    unfold Activity.admitted
    dsimp only
    by_cases run : a.isRunning = true
    · have busy : ¬ (!a.isRunning) = true := by simp [run]
      rw [if_neg busy]
      have started : a.phase = .started := by simpa [isRunning] using run
      have replayed : replay (log ++ [.began .stop]) = some .stopping :=
        beganFrom .stop started (by decide)
      simp only [Hooks.logged]
      obtain ⟨stepped, hooked, ticket⟩ := (begin replayed).runHook hooks cs .stop
        inProgress_began (fun no => by cases no) (hooks.beginStop w).1
        (hooks.beginStop w).2
      exact ⟨stepped.ofBegun idle ⟨(fun no => by cases no), fun _ => started⟩ rfl, hooked, ticket⟩
    · have quiet : (!a.isRunning) = true := by simpa using run
      rw [if_pos quiet]
      exact finish _ (fun no => by cases no)
  | dispose =>
    unfold Activity.admitted
    dsimp only
    by_cases run : a.isRunning = true
    · have busy : ¬ (!a.isRunning) = true := by simp [run]
      rw [if_neg busy]
      have started : a.phase = .started := by simpa [isRunning] using run
      have replayed : replay (log ++ [.began .stop]) = some .stopping :=
        beganFrom .stop started (by decide)
      simp only [Hooks.logged]
      obtain ⟨stepped, hooked, ticket⟩ := (begin replayed).runHook hooks cs .dispose
        inProgress_began (fun _ => disposing rfl) (hooks.beginStop w).1
        (hooks.beginStop w).2
      exact ⟨stepped.ofBegun idle ⟨(fun no => by cases no), fun _ => started⟩ rfl, hooked, ticket⟩
    · have quiet : (!a.isRunning) = true := by simpa using run
      rw [if_pos quiet]
      -- disposed without a hook: the lifecycle rests in `stopped`
      have stoppedLog : replay log = some .stopped := by
        rcases h.lifecycle with r | ⟨-, r⟩
        · have := replay_ne_disposed r
          cases p : a.phase <;> simp_all [Phase.running, isRunning]
        · exact r
      have settled := settle cs .disposed log (a := a) held idle
        (.inr ⟨leave_phase_of_idle (by simp) (by simp), stoppedLog⟩) (fun _ => disposing rfl)
      have completed : (Activity.complete cs .dispose a (w, log) (.ok ()) :
          CallStep (W × List HookEvent) (H × Hook)) =
          (Activity.leave cs { a with phase := .disposed }, (w, log), .finished, .ready (.ok ())) :=
        rfl
      rw [completed]
      exact ⟨Stepped.finished settled.1 (fun _ => disposing rfl) (fun no => by cases no)
        (fun _ => leave_phase_of_idle (by simp) (by simp)), by rw [idle]; rfl, settled.2⟩

/-- How a call still at the gate hands the hook on: it leaves the hook in progress as it was
and runs none, or no hook was in progress and it runs the one now in progress, if any. -/
def Waited (log : List HookEvent) (s : CallStep (W × List HookEvent) (H × Hook)) : Prop :=
  s.2.2.1.hook? = none ∧ inProgress s.2.1.2 = inProgress log ∨
    inProgress log = none ∧ s.2.2.1.hook? = inProgress s.2.1.2

/-- One poll of a call at the gate: it stays queued, gives up, or collects the unit and acts as
an admitted call. -/
theorem Fit.pollGate (hooks : Hooks W H) (cs : Cancellations) (kind : Transition)
    (h : Fit a log 0)
    (disposing : kind = .dispose → a.disposed = true) (token : Option Token) (w : W) (t : Nat)
    (tok : Option Token) :
    Stepped kind a log (pollGate hooks.logged cs kind token a (w, log) (.queued t tok)) ∧
      Waited log (pollGate hooks.logged cs kind token a (w, log) (.queued t tok)) ∧
      (pollGate hooks.logged cs kind token a (w, log) (.queued t tok)).1.gate.nextTicket =
        a.gate.nextTicket := by
  have polled := h.slot.poll cs t tok
  have next := Semaphore.nextTicket_poll cs a.gate t tok
  unfold Activity.pollGate
  generalize (Wait.queued t tok).poll cs a.gate = q at polled next ⊢
  obtain ⟨p, wait, g⟩ := q
  dsimp only at polled next ⊢
  rcases polled with ⟨rfl, slot⟩ | ⟨⟨e, rfl⟩, slot⟩ | ⟨rfl, rfl, rfl⟩
  · -- the unit was spare, so no hook was in progress, and the call is admitted
    have admittedFit : Fit { a with gate := g } log 1 := ⟨h.lifecycle, by simpa using slot, h.disposal⟩
    obtain ⟨stepped, hooked, ticket⟩ := admittedFit.admitted hooks cs kind disposing token w
    exact ⟨stepped.ofGate, .inr ⟨admittedFit.idle, hooked⟩, ticket.trans next⟩
  · exact ⟨Stepped.finished (h.withGate (by simpa using slot)) id (fun _ no => by cases no) id,
      .inl ⟨rfl, rfl⟩, next⟩
  · exact ⟨Stepped.pending (h.withGate h.slot) rfl rfl, .inl ⟨rfl, rfl⟩, rfl⟩

/-- A call asks the gate for the slot and polls its wait once: a fired token gives up at once, a
spare unit admits the call, and otherwise the call queues. -/
theorem Fit.enter (hooks : Hooks W H) (cs : Cancellations) (kind : Transition)
    (h : Fit a log 0)
    (disposing : kind = .dispose → a.disposed = true) (token : Option Token) (w : W)
    (few : a.gate.nextTicket < 2 ^ 63) :
    Stepped kind a log (enter hooks.logged cs kind token a (w, log)) ∧
      Waited log (enter hooks.logged cs kind token a (w, log)) ∧
      (enter hooks.logged cs kind token a (w, log)).1.gate.nextTicket ≤ a.gate.nextTicket + 1 := by
  unfold Activity.enter
  by_cases hit : cs.hits token = true
  · -- the token has fired: the wait is refused before anything is taken
    have refused : a.gate.acquire cs token = (a.gate, .settled (.error .cancelled)) := by
      simp [Semaphore.acquire, hit]
    rw [refused]
    exact ⟨Stepped.finished (h.withGate h.slot) id (fun _ no => by cases no) id, .inl ⟨rfl, rfl⟩,
      Nat.le_succ _⟩
  have live : cs.hits token = false := by simpa using hit
  have grown : (a.gate.acquire cs token).1.nextTicket ≤ a.gate.nextTicket + 1 := by
    rcases (Semaphore.acquire_spec cs a.gate token).2.2 with ⟨-, same⟩ | ⟨-, more⟩
    · omega
    · omega
  rcases h.slot.acquire live few with ⟨taken, slot⟩ | ⟨queued, slot, -, -⟩
  · -- a spare unit: the call is admitted at once
    rcases acquired : a.gate.acquire cs token with ⟨g, adm⟩
    rw [acquired] at taken slot grown
    dsimp only at taken slot grown
    subst taken
    have admittedFit : Fit { a with gate := g } log 1 :=
      ⟨h.lifecycle, by simpa using slot, h.disposal⟩
    obtain ⟨stepped, hooked, ticket⟩ :=
      admittedFit.admitted hooks cs kind disposing token w
    exact ⟨stepped.ofGate, .inr ⟨admittedFit.idle, hooked⟩, ticket ▸ grown⟩
  · -- no spare unit: the call queues, and its first poll finds the ticket queued
    rcases acquired : a.gate.acquire cs token with ⟨g, adm⟩
    rw [acquired] at queued slot grown
    dsimp only at queued slot grown
    subst queued
    obtain ⟨stepped, waited, ticket⟩ := (h.withGate (g := g) (by simpa using slot)).pollGate
      hooks cs kind disposing token w a.gate.nextTicket token
    exact ⟨stepped.ofGate, waited, ticket ▸ grown⟩

/-- Making a call and polling it once: a call refused by the disposal or with nothing to do
finishes at once; a dispose marks the activity disposed first; the rest enter the gate. -/
theorem Fit.begin (hooks : Hooks W H) (cs : Cancellations) (kind : Transition)
    (h : Fit a log 0) (token : Option Token) (w : W)
    (few : a.gate.nextTicket < 2 ^ 63) :
    Stepped kind a log (begin hooks.logged cs kind token a (w, log)) ∧
      Waited log (begin hooks.logged cs kind token a (w, log)) ∧
      (begin hooks.logged cs kind token a (w, log)).1.gate.nextTicket ≤ a.gate.nextTicket + 1 ∧
      (kind = .dispose → (begin hooks.logged cs kind token a (w, log)).1.disposed = true) := by
  -- a call that finishes at once leaves everything as it was
  have unchanged : ∀ r : Except Fault Unit, (kind = .start → r = .ok () → a.phase = .started) →
      (kind = .dispose → a.disposed = true) →
      Stepped kind a log ((a, (w, log), .finished, .ready r) :
        CallStep (W × List HookEvent) (H × Hook)) ∧
        Waited log ((a, (w, log), .finished, .ready r) : CallStep (W × List HookEvent) (H × Hook)) ∧
        a.gate.nextTicket ≤ a.gate.nextTicket + 1 ∧ (kind = .dispose → a.disposed = true) :=
    fun r started disposing =>
      ⟨Stepped.finished h id started id, .inl ⟨rfl, rfl⟩, Nat.le_succ _, disposing⟩
  cases kind with
  | start =>
    unfold Activity.begin
    dsimp only
    by_cases d : a.disposed = true
    · rw [if_pos d]
      exact unchanged _ (fun _ no => by cases no) (fun no => by cases no)
    by_cases run : a.isRunning = true
    · rw [if_neg d, if_pos run]
      have started : a.phase = .started := by simpa [isRunning] using run
      exact unchanged _ (fun _ _ => started) (fun no => by cases no)
    rw [if_neg d, if_neg run]
    obtain ⟨stepped, waited, ticket⟩ :=
      h.enter hooks cs .start (fun no => by cases no) token w few
    exact ⟨stepped, waited, ticket, fun no => by cases no⟩
  | stop =>
    unfold Activity.begin
    dsimp only
    by_cases d : a.disposed = true
    · rw [if_pos d]
      exact unchanged _ (fun no => by cases no) (fun no => by cases no)
    rw [if_neg d]
    by_cases run : a.isRunning = true
    · have busy : ¬ (!a.isRunning) = true := by simp [run]
      rw [if_neg busy]
      obtain ⟨stepped, waited, ticket⟩ :=
        h.enter hooks cs .stop (fun no => by cases no) none w few
      exact ⟨stepped, waited, ticket, fun no => by cases no⟩
    · have quiet : (!a.isRunning) = true := by simpa using run
      rw [if_pos quiet]
      exact unchanged _ (fun no => by cases no) (fun no => by cases no)
  | dispose =>
    unfold Activity.begin
    dsimp only
    by_cases d : a.disposed = true
    · rw [if_pos d]
      exact unchanged _ (fun no => by cases no) (fun _ => d)
    rw [if_neg d]
    -- the activity is marked disposed before the call takes the gate
    have marked : Fit { a with disposed := true } log 0 :=
      ⟨h.lifecycle, h.slot, fun _ => rfl⟩
    obtain ⟨stepped, waited, ticket⟩ := marked.enter hooks cs .dispose
      (fun _ => rfl) none w few
    refine ⟨⟨stepped.fit, stepped.grows, fun new same k mem => ?_, stepped.sound,
      stepped.ownKind, fun _ => stepped.disposal rfl, (fun no => by cases no), stepped.stays⟩,
      waited, ticket, fun _ => stepped.disposal rfl⟩
    obtain ⟨own, idle, -, origin⟩ := stepped.began new same k mem
    exact ⟨own, idle, (fun no => by cases no), origin⟩

/-- Dropping a call: a wait gives its unit back, and a running hook is abandoned, its call giving
the slot up and the log recording the drop. -/
theorem Fit.drop (cs : Cancellations) (h : Fit a log 0) (x : Call (H × Hook)) (sound : x.Sound)
    (runner : ∀ k, x.hook? = some k → inProgress log = some k) :
    Fit (drop cs x a) (log ++ x.dropped) 0 ∧ (drop cs x a).disposed = a.disposed ∧
      (drop cs x a).gate.nextTicket = a.gate.nextTicket ∧
      (x.hook? = none ∧ x.dropped = [] ∨ inProgress (log ++ x.dropped) = none) ∧
      (a.phase = .disposed → (drop cs x a).phase = .disposed) := by
  cases x with
  | admitting kind token wait =>
    have withdrawn : Activity.drop (H := H × Hook) cs (.admitting kind token wait) a =
        { a with gate := wait.drop cs a.gate } := rfl
    have quiet : Call.dropped (H := H) (.admitting kind token wait) = [] := rfl
    rw [withdrawn, quiet, List.append_nil]
    exact ⟨h.withGate h.slot.drop, rfl, Semaphore.nextTicket_drop, .inl ⟨rfl, rfl⟩, id⟩
  | running kind hook =>
    obtain ⟨y, k⟩ := hook
    have running := runner k rfl
    have busy : a.phase.running = some k := h.inProgress_eq ▸ running
    have replayed := h.replay_eq (fun d => by simp [d, Phase.running] at busy)
    have transitional : a.phase = .starting ∨ a.phase = .stopping := by
      cases p : a.phase <;> simp_all [Phase.running]
    obtain ⟨g, gate, slot, next⟩ := leave_of_slot cs (h.held running)
    have abandoned : Activity.drop cs (.running kind (y, k)) a = Activity.leave cs a := rfl
    have recorded : Call.dropped (.running kind (y, k)) = [.dropped k] := rfl
    rw [abandoned, recorded]
    refine ⟨⟨.inl ?_, ?_, ?_⟩, rfl, gate ▸ next, .inr inProgress_dropped, fun d => ?_⟩
    · -- the hook's phase falls back to `stopped`, where the lifecycle goes on a drop
      rw [leave_phase_of_busy transitional, replay_concat, replayed]
      rcases transitional with p | p <;> rw [p] at busy ⊢ <;> cases k <;>
        simp_all [Phase.running, Phase.next]
    · rw [gate, inProgress_dropped]
      exact slot
    · rw [leave_phase_of_busy transitional]
      exact fun no => by cases no
    · rcases transitional with p | p <;> rw [p] at d <;> cases d
  | finished =>
    have kept : Activity.drop (H := H × Hook) cs .finished a = a := rfl
    have quiet : Call.dropped (H := H) .finished = [] := rfl
    rw [kept, quiet, List.append_nil]
    exact ⟨h, rfl, rfl, .inl ⟨rfl, rfl⟩, id⟩

end Activity

end Sluice
