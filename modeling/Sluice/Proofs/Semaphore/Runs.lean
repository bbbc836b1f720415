import Mathlib
import Sluice.Proofs.Registry
import Sluice.Proofs.Semaphore.Moves
/-!
# Runs of a semaphore session

A session is driven by a script of commands, and the statements about semaphores quantify
over every script. This module fixes what a run is and which runs count.

The count of a semaphore is a signed 64-bit integer and its arithmetic wraps. Runs in which it
wraps do not follow the intended design (a checked build stops there), so every statement is
made about the runs whose commands *fit*: a wait whose token has not fired lowers the count
without passing its least value, and every release, the one-unit hand-back of a dropped
handle included, keeps `count + n` within the greatest value. `Session.Reachable` collects the
sessions such runs reach from a freshly made semaphore.

`step_moves` then says once what a command can do to the semaphore: it is a chain of the
primitive moves of `Semaphore.Move`, made under the session's cancellations.

* `Wait.DropFits`, `Session.Fits`, `Session.Safe` — the commands whose arithmetic stays in range.
* `Session.run`, `Session.Reachable`, `Reachable.run`, `run_append`, `safe_append`.
* `Session.handles` — the handles a session keeps, whatever their names.
* `Session.step_moves`.
-/

namespace Sluice

/-- Dropping this handle keeps the count in range: a handle whose unit was granted and not yet
collected hands it back by a one-unit release, and `count + 1` must stay in range. -/
def Wait.DropFits (w : Wait) (s : Semaphore) : Prop :=
  match w with
  | .queued t _ => s.isQueued t = false → s.isGranted t = true → s.count.toInt + 1 ≤ int64Max
  | .ready _ => True

namespace Semaphore

theorem acquire_of_hits {cs : Cancellations} {s : Semaphore} {token : Option Token}
    (hit : cs.hits token = true) : s.acquire cs token = (s, .settled (.error .cancelled)) := by
  simp [acquire, hit]

theorem acquire_moves {cs : Cancellations} {s : Semaphore} {token : Option Token}
    (fits : cs.hits token = false → -2 ^ 63 < s.count.toInt) :
    Moves cs s (s.acquire cs token).1 := by
  cases hit : cs.hits token
  · exact .single (.acquire hit (fits hit))
  · rw [acquire_of_hits hit]

end Semaphore

theorem Wait.drop_moves {cs : Cancellations} {w : Wait} {s : Semaphore} (fits : w.DropFits s) :
    Semaphore.Moves cs s (w.drop cs s) := by
  cases w with
  | ready r => exact .refl
  | queued t token =>
    simp only [Wait.drop]
    by_cases queued : s.isQueued t
    · simp only [queued, if_true]
      exact .single (.withdraw queued)
    · by_cases granted : s.isGranted t
      · have collected : Semaphore.Move cs s (s.collect t) := .collect granted
        have room : (s.collect t).count.toInt + 1 ≤ int64Max :=
          fits (Bool.eq_false_iff.mpr queued) granted
        simp only [queued, granted, Bool.false_eq_true, if_false, if_true]
        cases back : (s.collect t).releaseUnits cs 1 with
        | error f => exact .single collected
        | ok s' =>
          exact .tail (.single collected)
            (.release back Nat.one_pos (by unfold int64Max; omega) (by simpa using room))
      · simp only [queued, granted, Bool.false_eq_true, if_false]
        exact .refl

theorem Wait.poll_moves (cs : Cancellations) (w : Wait) (s : Semaphore) :
    Semaphore.Moves cs s (w.poll cs s).2.2 := by
  cases w with
  | ready r => cases r <;> exact .refl
  | queued t token =>
    simp only [Wait.poll]
    by_cases queued : s.isQueued t <;> by_cases granted : s.isGranted t <;>
      by_cases hit : cs.hits token <;>
      simp only [queued, granted, hit, if_true, if_false, Bool.false_eq_true] <;>
      first
        | exact .refl
        | exact .single (.withdraw queued)
        | exact .single (.collect granted)

namespace Semaphore

namespace Session

def handles (s : Session) : List Wait :=
  s.waits.values

def run (s : Session) : List Command → Session
  | [] => s
  | c :: cs => (s.step c).1.run cs

/-- The count arithmetic of a command stays in the signed 64-bit range: the decrement of a
wait whose token has not fired, and the sum `count + n` of every release, the hand-back of a
dropped handle (also of one replaced by a new wait under its name) included. -/
def Fits (s : Session) : Command → Prop
  | .wait id token =>
      (s.cancellations.hits token = false → -2 ^ 63 < s.sem.count.toInt) ∧
        ∀ old, s.waits.find? id = some old →
          old.DropFits (s.sem.acquire s.cancellations token).1
  | .drop id => ∀ w, s.waits.find? id = some w → w.DropFits s.sem
  | .release n => checkRelease n = .ok () → s.sem.count.toInt + n ≤ int64Max
  | .tryRelease n => checkRelease n = .ok () → s.sem.count.toInt + n ≤ int64Max
  | _ => True

def Safe (s : Session) : List Command → Prop
  | [] => True
  | c :: cs => s.Fits c ∧ (s.step c).1.Safe cs

/-- The sessions reachable from a freshly made semaphore by commands that fit. -/
inductive Reachable : Session → Prop
  | create {initial limit : Nat} {metered : Bool} {s : Session}
      (made : Session.create initial limit metered = .ok s) : Reachable s
  | step {s : Session} {c : Command} (reached : Reachable s) (fits : s.Fits c) :
      Reachable (s.step c).1

theorem run_append (s : Session) (cmds more : List Command) :
    s.run (cmds ++ more) = (s.run cmds).run more := by
  induction cmds generalizing s with
  | nil => rfl
  | cons c rest ih => exact ih (s.step c).1

theorem safe_append {s : Session} {cmds more : List Command} :
    s.Safe (cmds ++ more) ↔ s.Safe cmds ∧ (s.run cmds).Safe more := by
  induction cmds generalizing s with
  | nil => simp [Safe, run]
  | cons c rest ih => simp [Safe, run, ih, and_assoc]

theorem Reachable.run {s : Session} (reached : s.Reachable) {cmds : List Command}
    (safe : s.Safe cmds) : (s.run cmds).Reachable := by
  induction cmds generalizing s with
  | nil => exact reached
  | cons c rest ih => exact ih (reached.step safe.1) safe.2

/-- A freshly made session holds the checked counts, no handle and no cancelled token. -/
theorem create_ok {initial limit : Nat} {metered : Bool} {s : Session}
    (made : Session.create initial limit metered = .ok s) :
    ∃ i m, checkCounts initial limit = .ok (i, m) ∧
      s = { sem := ofCounts i m, metered, waits := {}, cancellations := {} } := by
  unfold Session.create Semaphore.create at made
  cases checked : checkCounts initial limit with
  | error f => simp [checked, bind, Except.bind] at made
  | ok counts =>
    obtain ⟨i, m⟩ := counts
    simp only [checked, bind, Except.bind, pure, Except.pure, Except.ok.injEq] at made
    exact ⟨i, m, rfl, made.symm⟩

theorem step_poll_of_find? {s : Session} {id : String} {w : Wait}
    (found : s.waits.find? id = some w) :
    s.step (.poll id) =
      ({ s with sem := (w.poll s.cancellations s.sem).2.2,
                waits := s.waits.put id (w.poll s.cancellations s.sem).2.1 },
        (Outcome.ofPoll (w.poll s.cancellations s.sem).1).map fun _ => .unit) := by
  simp only [step, found]

/-- A release of `n` units fails and changes nothing, or passes its checks and the capacity
test and changes only the semaphore. -/
theorem step_release_cases (s : Session) (n : Nat) :
    (∃ f, s.step (.release n) = (s, .failed f)) ∨
      ∃ s', checkRelease n = .ok () ∧ s.sem.releaseUnits s.cancellations n = .ok s' ∧
        s.step (.release n) = ({ s with sem := s' }, .done .unit) := by
  cases checked : checkRelease n with
  | error f => exact .inl ⟨f, by simp [step, release, checked, bind, Except.bind]⟩
  | ok u =>
    cases released : s.sem.releaseUnits s.cancellations n with
    | error f => exact .inl ⟨f, by simp [step, release, checked, released, bind, Except.bind]⟩
    | ok s' =>
      refine .inr ⟨s', rfl, rfl, ?_⟩
      simp [step, release, checked, released, bind, Except.bind]

/-- A try-release of `n` units fails, or answers false when the capacity test refuses it, and
changes nothing either way; or it passes, answers true and changes only the semaphore. -/
theorem step_tryRelease_cases (s : Session) (n : Nat) :
    (∃ f, s.step (.tryRelease n) = (s, .failed f)) ∨
      s.step (.tryRelease n) = (s, .done (.flag false)) ∨
      ∃ s', checkRelease n = .ok () ∧ s.sem.releaseUnits s.cancellations n = .ok s' ∧
        s.step (.tryRelease n) = ({ s with sem := s' }, .done (.flag true)) := by
  cases checked : checkRelease n with
  | error f => exact .inl ⟨f, by simp [step, tryRelease, checked, bind, Except.bind]⟩
  | ok u =>
    cases released : s.sem.releaseUnits s.cancellations n with
    | error f =>
      refine .inr (.inl ?_)
      simp [step, tryRelease, checked, released, bind, Except.bind, pure, Except.pure]
    | ok s' =>
      refine .inr (.inr ⟨s', rfl, rfl, ?_⟩)
      simp [step, tryRelease, checked, released, bind, Except.bind, pure, Except.pure]

theorem step_moves {s : Session} {c : Command} (fits : s.Fits c) :
    Moves s.cancellations s.sem (s.step c).1.sem := by
  cases c with
  | wait id token =>
    simp only [step]
    have taken := acquire_moves (s := s.sem) fits.1
    cases found : s.waits.find? id with
    | none => exact taken
    | some old => exact taken.trans (Wait.drop_moves (fits.2 old found))
  | poll id =>
    simp only [step]
    cases found : s.waits.find? id with
    | none => exact .refl
    | some w => exact Wait.poll_moves _ w s.sem
  | isReady id =>
    simp only [step]
    cases s.waits.find? id <;> exact .refl
  | drop id =>
    simp only [step]
    cases found : s.waits.find? id with
    | none => exact .refl
    | some w => exact Wait.drop_moves (fits w found)
  | release n =>
    rcases step_release_cases s n with ⟨f, failed⟩ | ⟨s', checked, released, passed⟩
    · rw [failed]
    · have ⟨pos, small⟩ := checkRelease_ok checked
      rw [passed]
      exact .single (.release released pos small (fits checked))
  | tryRelease n =>
    rcases step_tryRelease_cases s n with ⟨f, same⟩ | same | ⟨s', checked, released, passed⟩
    · rw [same]
    · rw [same]
    · have ⟨pos, small⟩ := checkRelease_ok checked
      rw [passed]
      exact .single (.release released pos small (fits checked))
  | tryReset initial limit =>
    simp only [step, tryReset]
    cases checked : checkCounts initial limit with
    | error f => exact .refl
    | ok counts =>
      obtain ⟨i, m⟩ := counts
      obtain ⟨hi, hm, le, -, -⟩ := checkCounts_ok checked
      have purged : Moves s.cancellations s.sem (s.sem.purge s.cancellations) := .single .purge
      by_cases empty : (s.sem.purge s.cancellations).queue = []
      · simp only [bind, Except.bind, pure, Except.pure]
        rw [if_pos (by simp [empty])]
        exact purged.tail (.reset empty (by omega) (by omega))
      · simp only [bind, Except.bind, pure, Except.pure, List.isEmpty_iff, empty, if_false]
        exact purged
  | count => exact .single .purge
  | waiters => exact .single .purge
  | limit => exact .refl
  | cancel t => exact .refl

end Session

end Semaphore

end Sluice
