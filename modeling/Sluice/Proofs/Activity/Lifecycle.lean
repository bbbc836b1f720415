import Mathlib
import Sluice.Activity.Basic
/-!
# The lifecycle of an activity's hooks

An activity has two hooks, one run by a start and one run by a stop or a dispose. What
happens to them is a log of events: a hook begins, returns with a result, or is dropped
together with the call that ran it.

The lifecycle is a machine on phases that reads such a log from `stopped`. The start hook may
begin from `stopped`; it leads to `started` when it returns `Ok`, and back to `stopped` when it
fails or is dropped. The stop hook may begin from `started`, and however it ends the machine is
`stopped` again. No other event is allowed. `HookEvent.replay` runs the machine over a log.

A log the machine accepts has the shape the lifecycle promises. Its hooks never overlap
(`HookEvent.Serial`), successful starts and stop invocations alternate, beginning with a
start (`HookEvent.Alternates`), and the phase the machine reaches says what the log ends with:
`starting` or `stopping` exactly while that hook is in progress, `started` exactly when no
hook is in progress and the last one to end was a start that returned `Ok`.

* `Hook`, `HookEvent`, `Transition.hook`.
* `HookEvent.inProgress`, `HookEvent.lastEnded`, `HookEvent.Serial`, `HookEvent.Alternates`.
* `Phase.next`, `HookEvent.replay`, `Phase.next_cases`.
* `inProgress_of_replay`, `started_iff_of_replay`, `serial_of_replay`, `alternates_of_replay`.
-/

namespace Sluice

inductive Hook where
  | start
  | stop
  deriving DecidableEq, Repr

/-- The hook a transition runs: a start runs the start hook, a stop or a dispose the stop
hook. -/
def Transition.hook : Transition → Hook
  | .start => .start
  | .stop => .stop
  | .dispose => .stop

/-- An event in the life of a hook: it was invoked, it returned its result, or the call running it
was dropped, and the hook with it. -/
inductive HookEvent where
  | began (hook : Hook)
  | returned (hook : Hook) (result : Except Fault Unit)
  | dropped (hook : Hook)

namespace HookEvent

def ended : HookEvent → Option Hook
  | .began _ => none
  | .returned k _ => some k
  | .dropped k => some k

/-- The events that must alternate: a start hook returning `Ok`, and a stop hook being
invoked. -/
def mark : HookEvent → Option Hook
  | .returned .start (.ok ()) => some .start
  | .began .stop => some .stop
  | _ => none

/-- The hook in progress at the end of a log: the hook of its last event, when that event
began it. In a log whose hooks never overlap this is the one hook begun and not ended. -/
def inProgress (log : List HookEvent) : Option Hook :=
  match log.getLast? with
  | some (.began k) => some k
  | _ => none

/-- The last event of a log that ended a hook, by returning or by being dropped. -/
def lastEnded (log : List HookEvent) : Option HookEvent :=
  (log.filter fun e => e.ended.isSome).getLast?

/-- Hooks that never overlap: each hook that begins ends, returning or dropped, before the
next one begins; only the last one may still be in progress. -/
def Serial : List HookEvent → Prop
  | [] => True
  | [.began _] => True
  | .began k :: e :: rest => e.ended = some k ∧ Serial rest
  | _ => False

/-- Successful starts and stop invocations alternate, beginning with a successful start. -/
def Alternates (log : List HookEvent) : Prop :=
  (log.filterMap mark).IsChain (· ≠ ·) ∧ (log.filterMap mark).head? ≠ some .stop

variable {log : List HookEvent} {k : Hook}

@[simp]
theorem inProgress_nil : inProgress [] = none := rfl

@[simp]
theorem inProgress_began : inProgress (log ++ [.began k]) = some k := by
  simp [inProgress]

@[simp]
theorem inProgress_returned {r : Except Fault Unit} :
    inProgress (log ++ [.returned k r]) = none := by
  simp [inProgress]

@[simp]
theorem inProgress_dropped : inProgress (log ++ [.dropped k]) = none := by
  simp [inProgress]

@[simp]
theorem lastEnded_nil : lastEnded [] = none := rfl

@[simp]
theorem lastEnded_began : lastEnded (log ++ [.began k]) = lastEnded log := by
  simp [lastEnded, ended]

@[simp]
theorem lastEnded_returned {r : Except Fault Unit} :
    lastEnded (log ++ [.returned k r]) = some (.returned k r) := by
  simp [lastEnded, ended]

@[simp]
theorem lastEnded_dropped : lastEnded (log ++ [.dropped k]) = some (.dropped k) := by
  simp [lastEnded, ended]

theorem not_began_of_append {added new : List HookEvent} (quiet : ∀ j, .began j ∉ added)
    (same : log ++ added = log ++ new) (k : Hook) : .began k ∉ new := by
  rw [← List.append_cancel_left same]
  exact quiet k

theorem not_began_of_eq {new : List HookEvent} (same : log = log ++ new) (k : Hook) :
    .began k ∉ new :=
  not_began_of_append (fun _ no => by cases no) ((List.append_nil log).trans same) k

end HookEvent

/-- The lifecycle as a machine on phases: the phase after an event, or none when the lifecycle
does not allow the event there. -/
def Phase.next : Phase → HookEvent → Option Phase
  | .stopped, .began .start => some .starting
  | .starting, .returned .start (.ok ()) => some .started
  | .starting, .returned .start (.error _) => some .stopped
  | .starting, .dropped .start => some .stopped
  | .started, .began .stop => some .stopping
  | .stopping, .returned .stop _ => some .stopped
  | .stopping, .dropped .stop => some .stopped
  | _, _ => none

def Phase.running : Phase → Option Hook
  | .starting => some .start
  | .stopping => some .stop
  | _ => none

/-- The mark the lifecycle allows next: a stop invocation once started, a successful start
otherwise. -/
def Phase.nextMark : Phase → Hook
  | .started => .stop
  | _ => .start

/-- The phase a log leads the lifecycle to from `stopped`; none when the log breaks it. -/
def HookEvent.replay (log : List HookEvent) : Option Phase :=
  log.foldlM Phase.next .stopped

open HookEvent

theorem Phase.next_cases {q q' : Phase} {e : HookEvent} (h : q.next e = some q') :
    (q = .stopped ∧ e = .began .start ∧ q' = .starting) ∨
      (q = .starting ∧ e = .returned .start (.ok ()) ∧ q' = .started) ∨
      (q = .starting ∧ (∃ f, e = .returned .start (.error f)) ∧ q' = .stopped) ∨
      (q = .starting ∧ e = .dropped .start ∧ q' = .stopped) ∨
      (q = .started ∧ e = .began .stop ∧ q' = .stopping) ∨
      (q = .stopping ∧ (∃ r, e = .returned .stop r) ∧ q' = .stopped) ∨
      (q = .stopping ∧ e = .dropped .stop ∧ q' = .stopped) := by
  cases q <;> rcases e with k | ⟨k, r⟩ | k <;> cases k <;> (try cases r) <;>
    simp_all [Phase.next]

@[simp]
theorem replay_nil : replay [] = some .stopped := rfl

theorem replay_concat (log : List HookEvent) (e : HookEvent) :
    replay (log ++ [e]) = (replay log).bind (Phase.next · e) := by
  simp [replay, List.foldlM_append]

/-- A log the lifecycle accepts is empty, leaving it `stopped`, or ends with an event the
lifecycle allowed from some phase. -/
theorem replay_cases {log : List HookEvent} {q : Phase} (h : replay log = some q) :
    log = [] ∧ q = .stopped ∨ ∃ init e, ∃ q₀ : Phase, log = init ++ [e] ∧ q₀.next e = some q := by
  rcases List.eq_nil_or_concat' log with rfl | ⟨init, e, rfl⟩
  · rw [replay_nil, Option.some.injEq] at h
    exact .inl ⟨rfl, h.symm⟩
  · rw [replay_concat, Option.bind_eq_some_iff] at h
    obtain ⟨q₀, -, step⟩ := h
    exact .inr ⟨init, e, q₀, rfl, step⟩

theorem inProgress_of_replay {log : List HookEvent} {q : Phase} (h : replay log = some q) :
    inProgress log = q.running := by
  rcases replay_cases h with ⟨rfl, rfl⟩ | ⟨init, e, q₀, rfl, step⟩
  · rfl
  · rcases Phase.next_cases step with
      ⟨-, rfl, rfl⟩ | ⟨-, rfl, rfl⟩ | ⟨-, ⟨f, rfl⟩, rfl⟩ | ⟨-, rfl, rfl⟩ | ⟨-, rfl, rfl⟩ |
      ⟨-, ⟨r, rfl⟩, rfl⟩ | ⟨-, rfl, rfl⟩ <;> simp [Phase.running]

/-- The lifecycle is `started` exactly when no hook is in progress and the last hook to end
was a start that returned `Ok`. -/
theorem started_iff_of_replay {log : List HookEvent} {q : Phase} (h : replay log = some q) :
    q = .started ↔ inProgress log = none ∧ lastEnded log = some (.returned .start (.ok ())) := by
  rcases replay_cases h with ⟨rfl, rfl⟩ | ⟨init, e, q₀, rfl, step⟩
  · simp
  · rcases Phase.next_cases step with
      ⟨-, rfl, rfl⟩ | ⟨-, rfl, rfl⟩ | ⟨-, ⟨f, rfl⟩, rfl⟩ | ⟨-, rfl, rfl⟩ | ⟨-, rfl, rfl⟩ |
      ⟨-, ⟨r, rfl⟩, rfl⟩ | ⟨-, rfl, rfl⟩ <;> simp

/-- The lifecycle never reaches `disposed`: disposal is no hook event. -/
theorem replay_ne_disposed {log : List HookEvent} {q : Phase} (h : replay log = some q) :
    q ≠ .disposed := by
  rcases replay_cases h with ⟨-, rfl⟩ | ⟨init, e, q₀, -, step⟩
  · simp
  · rcases Phase.next_cases step with
      ⟨-, -, rfl⟩ | ⟨-, -, rfl⟩ | ⟨-, -, rfl⟩ | ⟨-, -, rfl⟩ | ⟨-, -, rfl⟩ | ⟨-, -, rfl⟩ |
      ⟨-, -, rfl⟩ <;> simp

theorem Phase.next_of_idle {q q' : Phase} {e : HookEvent} (idle : q.running = none)
    (h : q.next e = some q') : ∃ k, e = .began k ∧ q'.running = some k := by
  rcases Phase.next_cases h with
    ⟨-, rfl, rfl⟩ | ⟨rfl, -, -⟩ | ⟨rfl, -, -⟩ | ⟨rfl, -, -⟩ | ⟨-, rfl, rfl⟩ | ⟨rfl, -, -⟩ |
    ⟨rfl, -, -⟩ <;> simp_all [Phase.running]

theorem Phase.next_of_running {q q' : Phase} {e : HookEvent} {k : Hook}
    (busy : q.running = some k) (h : q.next e = some q') : e.ended = some k ∧ q'.running = none := by
  rcases Phase.next_cases h with
    ⟨rfl, -, -⟩ | ⟨rfl, rfl, rfl⟩ | ⟨rfl, ⟨f, rfl⟩, rfl⟩ | ⟨rfl, rfl, rfl⟩ | ⟨rfl, -, -⟩ |
    ⟨rfl, ⟨r, rfl⟩, rfl⟩ | ⟨rfl, rfl, rfl⟩ <;> simp_all [Phase.running, ended]

/-- From a phase running no hook, an accepted log has hooks that never overlap: a hook can
only begin from a phase at rest, and it must end before the machine rests again. -/
theorem serial_of_run : ∀ {log : List HookEvent} {q₀ q : Phase}, q₀.running = none →
    log.foldlM Phase.next q₀ = some q → Serial log
  | [], _, _, _, _ => trivial
  | [e], q₀, q, idle, run => by
    simp only [List.foldlM_cons, List.foldlM_nil, bind_pure] at run
    obtain ⟨k, rfl, -⟩ := Phase.next_of_idle idle run
    trivial
  | e :: e' :: rest, q₀, q, idle, run => by
    rw [List.foldlM_cons] at run
    obtain ⟨q₁, step, run₁⟩ := Option.bind_eq_some_iff.mp run
    rw [List.foldlM_cons] at run₁
    obtain ⟨q₂, step', run₂⟩ := Option.bind_eq_some_iff.mp run₁
    -- the first event begins a hook; the second must end it, and the machine rests again
    obtain ⟨k, rfl, busy⟩ := Phase.next_of_idle idle step
    obtain ⟨ends, idle₂⟩ := Phase.next_of_running busy step'
    exact ⟨ends, serial_of_run idle₂ run₂⟩

/-- What one allowed transition does to the marks: an event that is no mark keeps the mark
expected next, and a mark is the one expected and makes the other one expected. -/
theorem Phase.next_mark {q q' : Phase} {e : HookEvent} (h : q.next e = some q') :
    (e.mark = none → q'.nextMark = q.nextMark) ∧
      (∀ m, e.mark = some m → m = q.nextMark ∧ q'.nextMark ≠ m) := by
  rcases Phase.next_cases h with
    ⟨rfl, rfl, rfl⟩ | ⟨rfl, rfl, rfl⟩ | ⟨rfl, ⟨f, rfl⟩, rfl⟩ | ⟨rfl, rfl, rfl⟩ | ⟨rfl, rfl, rfl⟩ |
    ⟨rfl, ⟨r, rfl⟩, rfl⟩ | ⟨rfl, rfl, rfl⟩
  all_goals first
    | (cases r <;> simp [mark, nextMark])
    | simp [mark, nextMark]

theorem marks_of_run : ∀ {log : List HookEvent} {q₀ q : Phase},
    log.foldlM Phase.next q₀ = some q →
      (log.filterMap mark).IsChain (· ≠ ·) ∧ ∀ m ∈ (log.filterMap mark).head?, m = q₀.nextMark
  | [], _, _, _ => by simp
  | e :: rest, q₀, q, run => by
    rw [List.foldlM_cons] at run
    obtain ⟨q₁, step, run₁⟩ := Option.bind_eq_some_iff.mp run
    obtain ⟨chain, first⟩ := marks_of_run run₁
    obtain ⟨unmarked, marked⟩ := Phase.next_mark step
    rw [List.filterMap_cons]
    cases hm : e.mark with
    | none =>
      rw [unmarked hm] at first
      exact ⟨chain, first⟩
    | some m =>
      obtain ⟨expected, flips⟩ := marked m hm
      refine ⟨List.isChain_cons.mpr ⟨fun m' hm' => ?_, chain⟩, by simpa using expected⟩
      rw [first m' hm']
      exact flips.symm

theorem serial_of_replay {log : List HookEvent} {q : Phase} (h : replay log = some q) :
    Serial log :=
  serial_of_run rfl h

theorem alternates_of_replay {log : List HookEvent} {q : Phase} (h : replay log = some q) :
    Alternates log := by
  obtain ⟨chain, first⟩ := marks_of_run h
  refine ⟨chain, fun stops => ?_⟩
  simpa [Phase.nextMark] using first .stop stops

end Sluice
