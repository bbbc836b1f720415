import Mathlib
import Sluice.Proofs.Semaphore.Capacity
/-!
# The capacity test and the 64-bit range

A release asks whether `count + n > limit`, and it computes `count + n` as a signed 64-bit sum
that wraps. The release count is checked to lie in `1 ..= 2 ^ 63 - 1`, and the count of a
well-formed semaphore lies anywhere from minus the queue length up to whatever releases have
left, so the true sum leaves the range exactly when the count is positive and `n` is close to
`2 ^ 63`. It then wraps once, to a negative value, which is never above the limit.

Hence the test is the true comparison exactly when the true sum stays in range. When it does,
a release is refused exactly when the true sum passes the limit, and one that goes through keeps
the queue and the count in step. When it does not, the release always goes through, without
serving anyone since the queue was empty, and leaves a negative count over an empty queue: the
count no longer says how many waiters are queued. This is the one-unit hand-back of a dropped
handle too, at a count of `2 ^ 63 - 1`, since all three paths make the same test.

* `toInt_add_ofNat_wrap` — a sum past the range, wrapped once.
* `releaseUnits_refused_iff` — when the test refuses.
* `releaseUnits_wellFormed_iff` — when a release that goes through keeps the invariant.
* `release_test_exact_iff_sum_in_range` — the two, and the bound a release keeps.
-/

namespace Sluice

/-- A sum of a 64-bit integer and a number below `2 ^ 63` that passes the greatest value wraps
around once. -/
theorem toInt_add_ofNat_wrap {a : Int64} {n : Nat} (hi : 2 ^ 63 ≤ a.toInt + n)
    (small : n < 2 ^ 63) : (a + Int64.ofNat n).toInt = a.toInt + n - 2 ^ 64 := by
  have below := Int64.toInt_lt a
  rw [Int64.toInt_add, Int64.toInt_ofNat', Int64.size, Int.add_bmod_bmod,
    ← Int.sub_bmod_right]
  exact Int.bmod_eq_of_le (by norm_num; omega) (by norm_num; omega)

namespace Semaphore

variable {cs : Cancellations} {s : Semaphore} {n : Nat}

/-- The sum the capacity test compares: the true sum when it stays in range, and the true sum
less `2 ^ 64` when it does not. -/
theorem toInt_tested_sum (small : n ≤ int64Max) :
    (s.count + Int64.ofNat n).toInt =
      if s.count.toInt + n ≤ int64Max then s.count.toInt + n else s.count.toInt + n - 2 ^ 64 := by
  have least := Int64.le_toInt s.count
  unfold int64Max at small ⊢
  split
  · exact toInt_add_ofNat_exact (by omega) (by omega)
  · exact toInt_add_ofNat_wrap (by omega) (by omega)

/-- The capacity test refuses a release exactly when the true sum stays in range and passes
the limit. A sum out of range wraps below zero, under the limit, and passes the test. -/
theorem releaseUnits_refused_iff (h : s.WellFormed) (small : n ≤ int64Max) :
    (∃ f, s.releaseUnits cs n = .error f) ↔
      s.count.toInt + n ≤ int64Max ∧ s.limit.toInt < s.count.toInt + n := by
  have tested := toInt_tested_sum (s := s) small
  have limit := h.limit_nonneg
  have below := Int64.toInt_lt s.count
  have refused_iff : (∃ f, s.releaseUnits cs n = .error f) ↔ s.limit < s.count + Int64.ofNat n := by
    constructor
    · rintro ⟨f, refused⟩
      exact releaseUnits_error refused
    · intro exceeds
      exact ⟨.capacityExceeded s.count (Int64.ofNat n) s.limit, by simp [releaseUnits, exceeds]⟩
  rw [refused_iff, Int64.lt_iff_toInt_lt]
  by_cases fits : s.count.toInt + n ≤ int64Max
  · rw [tested, if_pos fits]
    omega
  · rw [tested, if_neg fits]
    unfold int64Max at small fits ⊢
    omega

/-- A release that goes through keeps the queue and the count in step exactly when the true sum
stays in range. Past the range the count was positive, so nobody was queued and nobody is
served, and the wrapped count is negative over an empty queue. -/
theorem releaseUnits_wellFormed_iff {s' : Semaphore} (h : s.WellFormed)
    (ok : s.releaseUnits cs n = .ok s') (small : n ≤ int64Max) :
    s'.WellFormed ↔ s.count.toInt + n ≤ int64Max := by
  constructor
  · intro kept
    by_contra wraps
    have tested := toInt_tested_sum (s := s) small
    rw [if_neg wraps] at tested
    have balanced := h.balanced
    have below := Int64.toInt_lt s.count
    unfold int64Max at small wraps
    -- a positive count: nobody is queued, and the release only adds its units
    have above : 0 < s.count.toInt := by omega
    have positive : 0 ≤ s.count := by
      rw [Int64.le_iff_toInt_le, Int64.toInt_zero]
      exact above.le
    have empty : s.queue.length = 0 := by omega
    obtain ⟨-, rfl⟩ := releaseUnits_ok ok
    rw [if_pos positive] at kept
    have broken := kept.balanced
    simp only [empty, Nat.cast_zero, tested] at broken
    omega
  · intro fits
    exact h.release ok small fits

/-- The capacity test of every release, try-release and hand-back of a well-formed semaphore,
for every count it accepts: it refuses exactly when the true sum `count + n` stays within the
signed 64-bit range and passes the limit; a release that goes through keeps the queue length
equal to what the count owes exactly when that sum stays in range; and one whose sum stays in
range leaves the count at most the larger of the limit and `n`. -/
theorem release_test_exact_iff_sum_in_range (h : s.WellFormed) (valid : checkRelease n = .ok ()) :
    ((∃ f, s.releaseUnits cs n = .error f) ↔
        s.count.toInt + n ≤ int64Max ∧ s.limit.toInt < s.count.toInt + n) ∧
      ∀ s', s.releaseUnits cs n = .ok s' →
        (s'.WellFormed ↔ s.count.toInt + n ≤ int64Max) ∧
        (s.count.toInt + n ≤ int64Max → s'.count.toInt ≤ max s.limit.toInt n) := by
  have small := (checkRelease_ok valid).2
  refine ⟨releaseUnits_refused_iff h small, fun s' ok => ⟨releaseUnits_wellFormed_iff h ok small,
    fun fits => (release_count_le_max h ok small fits).1⟩⟩

/-- A semaphore holding its one unit out of one, and the largest release it accepts: the true
sum passes the limit, the 64-bit sum does not. -/
theorem release_test_of_one_unit_and_largest_release :
    let s := ofCounts 1 1
    s.WellFormed ∧ checkRelease int64Max = .ok () ∧
      ((∃ f, s.releaseUnits {} int64Max = .error f) ↔
          s.count.toInt + int64Max ≤ int64Max ∧ s.limit.toInt < s.count.toInt + int64Max) ∧
      ∀ s', s.releaseUnits {} int64Max = .ok s' →
        (s'.WellFormed ↔ s.count.toInt + int64Max ≤ int64Max) ∧
        (s.count.toInt + int64Max ≤ int64Max → s'.count.toInt ≤ max s.limit.toInt int64Max) := by
  intro s
  have h : s.WellFormed := wellFormed_ofCounts (by decide) (by decide)
  have valid : checkRelease int64Max = .ok () := rfl
  exact ⟨h, valid, release_test_exact_iff_sum_in_range h valid⟩

/-- A semaphore holding its one unit out of one, then a try-release of `2 ^ 63 - 1` units. The
true sum `2 ^ 63` passes the limit, but the 64-bit sum wraps to `-2 ^ 63`, under it: the
try-release answers true, and the count a `count` command then reports is `-2 ^ 63` with
nobody queued. -/
theorem tryRelease_of_wrapping_sum_passes :
    Session.create 1 1 false = .ok { sem := ofCounts 1 1, metered := false } ∧
      (({ sem := ofCounts 1 1, metered := false } : Session).step (.tryRelease int64Max)).2 =
        .done (.flag true) ∧
      ((({ sem := ofCounts 1 1, metered := false } : Session).step (.tryRelease int64Max)).1.step
        .count).2 = .done (.count (-9223372036854775808)) ∧
      (({ sem := ofCounts 1 1, metered := false } : Session).step
        (.tryRelease int64Max)).1.sem.queue = [] := by
  refine ⟨rfl, ?_, ?_, by decide +kernel⟩
  · simp [Session.step, tryRelease, releaseUnits, checkRelease, int64Max, ofCounts, bind,
      Except.bind, pure, Except.pure]
  · simp [Session.step, tryRelease, releaseUnits, checkRelease, int64Max, ofCounts, bind,
      Except.bind, pure, Except.pure, liveCount, purge]

end Semaphore

end Sluice
