import Mathlib
import Sluice.Proofs.Semaphore.Balance
/-!
# The count against the limit

A release refuses to lift the count above the limit: it tests `count + n ≤ limit` before it
adds anything. The test is made once, on the count as it stands, and the queue is served
afterwards. Serving walks the queue front, and every waiter whose token fired is dropped there
and gives its unit back to the count. Those units are not part of the test.

So the bound is not kept by every release. From a count of `-k` with `k` waiters queued, a
release of `n` units passes whenever `n ≤ limit + k`, and leaves the count at `-k + n + d`,
where `d` counts the cancelled waiters it dropped. With every queued waiter cancelled that is
`n`, which the test let through above the limit. What every release does keep is
`count ≤ max limit n`: with a negative count the dropped units only repay what the queue owed.

Every other move keeps `count ≤ limit`: a wait lowers the count, a withdrawal and a purge only
give back units the queue owed, a reset sets counts checked against each other. Hence the bound
holds throughout every run whose releases and try-releases never ask for more units than the
limit in force, the one-unit hand-back of a dropped handle included.

* `Semaphore.Capped` — the count within the limit, and a positive limit.
* `release_count_le_max` — what any passing release keeps.
* `Session.step_capped`, `Session.capped_run`.
* `count_within_limit_when_releases_within` — the bound over every such run.
* `tryRelease_past_cancelled_waiters_exceeds_limit` — a run that breaks the bound.
-/

namespace Sluice

namespace Semaphore

/-- The count is within the limit, and the limit is positive. -/
structure Capped (s : Semaphore) : Prop where
  count_le : s.count.toInt ≤ s.limit.toInt
  limit_pos : 0 < s.limit.toInt

section Moves

variable {cs : Cancellations} {s : Semaphore}

theorem acquire_count_le {token : Option Token}
    (room : cs.hits token = false → -2 ^ 63 < s.count.toInt) :
    (s.acquire cs token).1.count.toInt ≤ s.count.toInt := by
  cases hit : cs.hits token
  · have lowered : (s.count - 1).toInt = s.count.toInt - 1 := toInt_sub_one_exact (room hit)
    unfold acquire
    by_cases fast : 0 ≤ s.count - 1
    · simp only [hit, Bool.false_eq_true, if_false, ge_iff_le, fast, if_true]
      omega
    · simp only [hit, Bool.false_eq_true, if_false, ge_iff_le, fast]
      omega
  · rw [acquire_of_hits hit]

theorem Capped.acquire {token : Option Token} (cap : s.Capped)
    (room : cs.hits token = false → -2 ^ 63 < s.count.toInt) : (s.acquire cs token).1.Capped := by
  have lower := acquire_count_le room
  have same := (acquire_spec cs s token).2.1
  exact ⟨by rw [same]; exact lower.trans cap.count_le, by rw [same]; exact cap.limit_pos⟩

theorem Capped.withdraw {t : Nat} (cap : s.Capped) (h : s.WellFormed)
    (queued : s.isQueued t = true) : (s.withdraw t).Capped := by
  obtain ⟨shorter, raised⟩ := withdraw_spec h queued
  have balanced := h.balanced
  -- a queued waiter means the count owes a unit, so giving it back leaves the count at most 0
  have owed : s.count.toInt ≤ -1 := by omega
  refine ⟨?_, cap.limit_pos⟩
  change (s.withdraw t).count.toInt ≤ s.limit.toInt
  have := cap.limit_pos
  omega

theorem Capped.collect (cap : s.Capped) (t : Nat) : (s.collect t).Capped :=
  ⟨cap.count_le, cap.limit_pos⟩

theorem Capped.purge (cap : s.Capped) (h : s.WellFormed) : (s.purge cs).Capped := by
  obtain ⟨shorter, raised⟩ := purge_spec h cs
  have balanced := h.balanced
  have count_le := cap.count_le
  have limit_pos := cap.limit_pos
  -- the purged waiters were queued, so their units repay at most what the count owed
  refine ⟨?_, limit_pos⟩
  change (s.purge cs).count.toInt ≤ s.limit.toInt
  omega

/-- A release that passed its test leaves the count at most the larger of the limit and the
units released. The test covers a count that was not negative; from a negative count the units
of the cancelled waiters dropped only repay what the queue owed. -/
theorem release_count_le_max {s' : Semaphore} {n : Nat} (h : s.WellFormed)
    (ok : s.releaseUnits cs n = .ok s') (small : n ≤ int64Max)
    (fits : s.count.toInt + n ≤ int64Max) :
    s'.count.toInt ≤ max s.limit.toInt n ∧ s'.limit = s.limit := by
  obtain ⟨passed, -⟩ := releaseUnits_ok ok
  obtain ⟨taken, split, -, -, count, -, limit, -⟩ := release_spec h ok small fits
  have balanced := h.balanced
  have least := Int64.le_toInt s.count
  unfold int64Max at small fits
  -- the capacity test, read on exact integers
  have tested : s.count.toInt + n ≤ s.limit.toInt := by
    rw [Int64.lt_iff_toInt_lt, toInt_add_ofNat_exact (by omega) (by omega)] at passed
    omega
  have whole : s.queue.length = taken.length + s'.queue.length := by
    rw [split, List.length_append]
  have cancelled : taken.countP (fun w => cs.hits w.token) ≤ taken.length :=
    List.countP_le_length
  refine ⟨?_, limit⟩
  rw [count]
  by_cases nonneg : 0 ≤ s.count.toInt
  · -- nobody was queued, so nothing was dropped and the test is the bound
    have none : taken.length = 0 := by omega
    have dropped : taken.countP (fun w => cs.hits w.token) = 0 := by omega
    rw [dropped]
    omega
  · -- the dropped waiters were among the `-count` queued ones
    omega

theorem Capped.release {s' : Semaphore} {n : Nat} (cap : s.Capped) (h : s.WellFormed)
    (ok : s.releaseUnits cs n = .ok s') (small : n ≤ int64Max)
    (fits : s.count.toInt + n ≤ int64Max) (within : (n : Int) ≤ s.limit.toInt) : s'.Capped := by
  obtain ⟨bound, limit⟩ := release_count_le_max h ok small fits
  rw [max_eq_left within] at bound
  exact ⟨by rw [limit]; exact bound, by rw [limit]; exact cap.limit_pos⟩

end Moves

theorem Wait.drop_capped {cs : Cancellations} {w : Wait} {s : Semaphore} (cap : s.Capped)
    (h : s.WellFormed) (fits : w.DropFits s) : (w.drop cs s).Capped := by
  cases w with
  | ready r => exact cap
  | queued t token =>
    simp only [Wait.drop]
    by_cases queued : s.isQueued t
    · simp only [queued, if_true]
      exact cap.withdraw h queued
    · by_cases granted : s.isGranted t
      · -- the unit goes back by a one-unit release, which a positive limit always allows
        have room : (s.collect t).count.toInt + 1 ≤ int64Max :=
          fits (Bool.eq_false_iff.mpr queued) granted
        simp only [queued, granted, Bool.false_eq_true, if_false, if_true]
        cases back : (s.collect t).releaseUnits cs 1 with
        | error f => exact cap.collect t
        | ok s' =>
          have one : ((1 : Nat) : Int) ≤ (s.collect t).limit.toInt := by
            have := cap.limit_pos
            change (1 : Int) ≤ s.limit.toInt
            omega
          exact (cap.collect t).release (h.collect t) back (by unfold int64Max; omega)
            (by simpa using room) one
      · simp only [queued, granted, Bool.false_eq_true, if_false]
        exact cap

theorem Wait.poll_capped {cs : Cancellations} (w : Wait) {s : Semaphore} (cap : s.Capped)
    (h : s.WellFormed) : (w.poll cs s).2.2.Capped := by
  cases w with
  | ready r => cases r <;> exact cap
  | queued t token =>
    simp only [Wait.poll]
    by_cases queued : s.isQueued t <;> by_cases granted : s.isGranted t <;>
      by_cases hit : cs.hits token <;>
      simp only [queued, granted, hit, if_true, if_false, Bool.false_eq_true] <;>
      first
        | exact cap
        | exact cap.withdraw h queued
        | exact cap.collect t

theorem Capped.ofCounts {i m : Int64} (le : i.toInt ≤ m.toInt) (pos : 0 < m.toInt) :
    (ofCounts i m).Capped :=
  ⟨le, pos⟩

def Command.units : Command → Nat
  | .release n => n
  | .tryRelease n => n
  | _ => 0

namespace Session

/-- Every release and try-release of a script asks for at most the limit the semaphore has
when the command runs. -/
def Within (s : Session) : List Command → Prop
  | [] => True
  | c :: cs => (c.units : Int) ≤ s.sem.limit.toInt ∧ (s.step c).1.Within cs

/-- One command keeps the count within the limit, provided that a release asks for no more
than the limit. -/
theorem step_capped {s : Session} {c : Command} (h : s.sem.WellFormed) (cap : s.sem.Capped)
    (fits : s.Fits c) (within : (c.units : Int) ≤ s.sem.limit.toInt) :
    (s.step c).1.sem.Capped := by
  cases c with
  | wait id token =>
    simp only [step]
    have taken : (s.sem.acquire s.cancellations token).1.Capped := cap.acquire fits.1
    have formed := (acquire_moves (s := s.sem) fits.1).wellFormed h
    cases found : s.waits.find? id with
    | none => exact taken
    | some old => exact Wait.drop_capped taken formed (fits.2 old found)
  | poll id =>
    simp only [step]
    cases found : s.waits.find? id with
    | none => exact cap
    | some w => exact Wait.poll_capped w cap h
  | isReady id =>
    simp only [step]
    cases s.waits.find? id <;> exact cap
  | drop id =>
    simp only [step]
    cases found : s.waits.find? id with
    | none => exact cap
    | some w => exact Wait.drop_capped cap h (fits w found)
  | release n =>
    rcases step_release_cases s n with ⟨f, failed⟩ | ⟨s', checked, released, passed⟩
    · rw [failed]
      exact cap
    · obtain ⟨-, small⟩ := checkRelease_ok checked
      rw [passed]
      exact cap.release h released small (fits checked) within
  | tryRelease n =>
    rcases step_tryRelease_cases s n with ⟨f, same⟩ | same | ⟨s', checked, released, passed⟩
    · rw [same]
      exact cap
    · rw [same]
      exact cap
    · obtain ⟨-, small⟩ := checkRelease_ok checked
      rw [passed]
      exact cap.release h released small (fits checked) within
  | tryReset initial limit =>
    simp only [step, tryReset]
    cases checked : checkCounts initial limit with
    | error f => exact cap
    | ok counts =>
      obtain ⟨i, m⟩ := counts
      obtain ⟨hi, hm, le, pos, -⟩ := checkCounts_ok checked
      have purged : (s.sem.purge s.cancellations).Capped := cap.purge h
      by_cases empty : (s.sem.purge s.cancellations).queue = []
      · -- the new counts were checked against each other
        simp only [bind, Except.bind, pure, Except.pure]
        rw [if_pos (by simp [empty])]
        exact ⟨by simp only; omega, by simp only; omega⟩
      · simp only [bind, Except.bind, pure, Except.pure, List.isEmpty_iff, empty, if_false]
        exact purged
  | count => exact cap.purge h
  | waiters => exact cap.purge h
  | limit => exact cap
  | cancel t => exact cap

theorem capped_run {s : Session} (reached : s.Reachable) (cap : s.sem.Capped)
    {cmds : List Command} (safe : s.Safe cmds) (within : s.Within cmds) :
    (s.run cmds).sem.Capped := by
  induction cmds generalizing s with
  | nil => exact cap
  | cons c rest ih =>
    -- the step keeps the bound, and the rest of the run starts from a reachable state
    have next : (s.step c).1.sem.Capped :=
      step_capped reached.wellFormed cap safe.1 within.1
    exact ih (reached.step safe.1) next safe.2 within.2

end Session

/-- In every run from a freshly made semaphore whose commands fit, and in which no release or
try-release asks for more units than the limit in force, the count never exceeds the limit,
and the count a `count` command reports (after its purge) is within the limit the `limit`
command reports. -/
theorem count_within_limit_when_releases_within {initial limit : Nat} {metered : Bool}
    {s₀ : Session} (made : Session.create initial limit metered = .ok s₀) {cmds : List Command}
    (safe : s₀.Safe cmds) (within : s₀.Within cmds) :
    (s₀.run cmds).sem.count.toInt ≤ (s₀.run cmds).sem.limit.toInt ∧
      ((s₀.run cmds).step .count).2 =
        .done (.count ((s₀.run cmds).sem.purge (s₀.run cmds).cancellations).count) ∧
      ((s₀.run cmds).step .limit).2 = .done (.count (s₀.run cmds).sem.limit) ∧
      ((s₀.run cmds).sem.purge (s₀.run cmds).cancellations).count.toInt ≤
        (s₀.run cmds).sem.limit.toInt := by
  have reached : s₀.Reachable := .create made
  have start : s₀.sem.Capped := by
    obtain ⟨i, m, checked, rfl⟩ := Session.create_ok made
    obtain ⟨hi, hm, le, pos, -⟩ := checkCounts_ok checked
    exact Capped.ofCounts (by omega) (by omega)
  have cap := Session.capped_run reached start safe within
  have purged : ((s₀.run cmds).sem.purge (s₀.run cmds).cancellations).Capped :=
    cap.purge (reached.run safe).wellFormed
  exact ⟨cap.count_le, rfl, rfl, purged.count_le⟩

/-- Two waits on a semaphore with no free unit out of two, the first one's token cancelled, and
a release of both units: the release drops the cancelled waiter, grants the other one, and the
count stays within the limit. -/
theorem count_within_limit_past_cancelled_waiter :
    let s₀ : Session := { sem := ofCounts 0 2, metered := false }
    let cmds := [Command.wait "a" (some ⟨"k"⟩), .wait "b" none, .cancel ⟨"k"⟩, .release 2]
    Session.create 0 2 false = .ok s₀ ∧ s₀.Safe cmds ∧ s₀.Within cmds ∧
      (s₀.run cmds).sem.count.toInt ≤ (s₀.run cmds).sem.limit.toInt ∧
      ((s₀.run cmds).step .count).2 =
        .done (.count ((s₀.run cmds).sem.purge (s₀.run cmds).cancellations).count) ∧
      ((s₀.run cmds).step .limit).2 = .done (.count (s₀.run cmds).sem.limit) ∧
      ((s₀.run cmds).sem.purge (s₀.run cmds).cancellations).count.toInt ≤
        (s₀.run cmds).sem.limit.toInt := by
  intro s₀ cmds
  have made : Session.create 0 2 false = .ok s₀ := rfl
  have safe : s₀.Safe cmds := by
    simp [s₀, cmds, Session.Safe, Session.Fits, Session.step, Registry.find?, Registry.put,
      Registry.putEntry, acquire, ofCounts, Cancellations.hits, Cancellations.isCancelled,
      Cancellations.cancel, Wait.ofAdmission, List.lookup, checkRelease, int64Max]
  have within : s₀.Within cmds := by
    simp [s₀, cmds, Session.Within, Command.units, Session.step, Registry.find?, Registry.put,
      Registry.putEntry, acquire, ofCounts, Cancellations.hits, Cancellations.isCancelled,
      Cancellations.cancel, Wait.ofAdmission, List.lookup]
  exact ⟨made, safe, within, count_within_limit_when_releases_within made safe within⟩

/-- A semaphore with no free unit out of one, two waits under one token, the token cancelled,
then a try-release of two units. The test sees `-2 + 2 ≤ 1` and lets it pass; serving the queue
drops both cancelled waiters and gives their units back, so the count ends at `2`, above the
limit `1`, and a `count` command reports `2`. -/
theorem tryRelease_past_cancelled_waiters_exceeds_limit :
    let s₀ : Session := { sem := ofCounts 0 1, metered := false }
    let pre := [Command.wait "a" (some ⟨"k"⟩), .wait "b" (some ⟨"k"⟩), .cancel ⟨"k"⟩]
    Session.create 0 1 false = .ok s₀ ∧ s₀.Safe (pre ++ [.tryRelease 2]) ∧
      ((s₀.run pre).step (.tryRelease 2)).2 = .done (.flag true) ∧
      (s₀.run (pre ++ [.tryRelease 2])).sem.count.toInt = 2 ∧
      (s₀.run (pre ++ [.tryRelease 2])).sem.limit.toInt = 1 ∧
      ((s₀.run (pre ++ [.tryRelease 2])).step .count).2 = .done (.count 2) := by
  intro s₀ pre
  have safe : s₀.Safe (pre ++ [.tryRelease 2]) := by
    simp [s₀, pre, Session.Safe, Session.Fits, Session.step, Registry.find?, Registry.put,
      Registry.putEntry, acquire, ofCounts, Cancellations.hits, Cancellations.isCancelled,
      Cancellations.cancel, Wait.ofAdmission, List.lookup, checkRelease, int64Max]
  have passed : ((s₀.run pre).step (.tryRelease 2)).2 = .done (.flag true) := by
    simp [s₀, pre, Session.run, Session.step, Registry.find?, Registry.put, Registry.putEntry,
      acquire, ofCounts, Cancellations.hits, Cancellations.isCancelled, Cancellations.cancel,
      Wait.ofAdmission, List.lookup, checkRelease, int64Max, tryRelease, releaseUnits, bind,
      Except.bind, pure, Except.pure]
  -- after the release nothing is queued, so the purge of a `count` command changes nothing
  have count : (s₀.run (pre ++ [.tryRelease 2])).sem.count = 2 := by decide +kernel
  have purged : (s₀.run (pre ++ [.tryRelease 2])).sem.purge
      (s₀.run (pre ++ [.tryRelease 2])).cancellations = (s₀.run (pre ++ [.tryRelease 2])).sem := by
    decide +kernel
  refine ⟨rfl, safe, passed, by rw [count]; rfl, by decide +kernel, ?_⟩
  simp only [Session.step, liveCount, purged, count]

end Semaphore

end Sluice
