import Mathlib
import Sluice.Semaphore.Session
/-!
# The moves of a semaphore

Every command on a semaphore changes its state through a few primitive moves: a wait takes a
unit, a queued ticket is withdrawn, a granted unit is collected, a release passes the capacity
test, the waiters whose token fired are purged, and a semaphore with an empty queue gets new
counts. This module states each move once, with the guard under which a command makes it, so
that every invariant of the semaphore is proved move by move.

The one loop is a release's service of the queue front. `serve_spec` gives it in closed form:
the queue splits into a served part and the rest; the live waiters of the served part are the
first `n` live waiters of the queue, granted in queue order; every cancelled waiter of the
served part gives its unit back; and while waiters remain, the whole budget was spent.

The count is a signed 64-bit integer. A move changes it exactly, as an integer, whenever the
true result stays in range; the three `toInt_*_exact` lemmas are all that the proofs use of
that arithmetic.

* `Waiter.live` — the waiter's token has not fired.
* `toInt_add_exact`, `toInt_add_ofNat_exact`, `toInt_sub_one_exact`.
* `serve_spec`, `releaseUnits_ok`, `releaseUnits_error`, `checkCounts_ok`, `checkRelease_ok`.
* `Semaphore.Move`, `Semaphore.Moves` — one primitive move, and a chain of them.
-/

namespace Sluice

theorem toInt_add_exact {a b : Int64} (lo : -2 ^ 63 ≤ a.toInt + b.toInt)
    (hi : a.toInt + b.toInt < 2 ^ 63) : (a + b).toInt = a.toInt + b.toInt := by
  rw [Int64.toInt_add]
  exact Int.bmod_eq_of_le (by norm_num; omega) (by norm_num; omega)

/-- Adding a natural number to a 64-bit integer is exact when the true sum is in range, even
when the number alone does not fit. -/
theorem toInt_add_ofNat_exact {a : Int64} {n : Nat} (lo : -2 ^ 63 ≤ a.toInt + n)
    (hi : a.toInt + n < 2 ^ 63) : (a + Int64.ofNat n).toInt = a.toInt + n := by
  rw [Int64.toInt_add, Int64.toInt_ofNat', Int64.size, Int.add_bmod_bmod]
  exact Int.bmod_eq_of_le (by norm_num; omega) (by norm_num; omega)

theorem toInt_sub_one_exact {a : Int64} (h : -2 ^ 63 < a.toInt) :
    (a - 1).toInt = a.toInt - 1 := by
  rw [Int64.toInt_sub, Int64.toInt_one]
  exact Int.bmod_eq_of_le (by norm_num; omega) (by have := Int64.toInt_lt a; norm_num; omega)

theorem toInt_ofNat_of_le {n : Nat} (h : n ≤ int64Max) : (Int64.ofNat n).toInt = n := by
  apply Int64.toInt_ofNat_of_lt
  unfold int64Max at h
  omega

def Waiter.live (cs : Cancellations) (w : Waiter) : Bool :=
  !cs.hits w.token

theorem length_eq_live_add_hits (cs : Cancellations) (ws : List Waiter) :
    ws.length = (ws.filter (Waiter.live cs)).length + ws.countP (fun w => cs.hits w.token) := by
  rw [List.length_eq_length_filter_add (Waiter.live cs), List.countP_eq_length_filter]
  simp [Waiter.live]

/-- Accepted counts: the initial count and the limit are exact, and `initial ≤ limit`,
`0 < limit ≤ int64Max`. -/
theorem checkCounts_ok {initial limit : Nat} {i m : Int64}
    (h : checkCounts initial limit = .ok (i, m)) :
    i.toInt = initial ∧ m.toInt = limit ∧ initial ≤ limit ∧ 0 < limit ∧ limit ≤ int64Max := by
  unfold checkCounts at h
  by_cases zero : limit = 0
  · simp [zero] at h
  by_cases above : initial > limit
  · simp [zero, above] at h
  by_cases large : limit > int64Max
  · simp [zero, above, large] at h
  simp only [zero, above, large, if_false] at h
  cases h
  refine ⟨toInt_ofNat_of_le (by omega), toInt_ofNat_of_le (by omega), by omega, by omega,
    by omega⟩

theorem checkRelease_ok {n : Nat} (h : checkRelease n = .ok ()) : 0 < n ∧ n ≤ int64Max := by
  unfold checkRelease at h
  by_cases zero : n = 0
  · simp [zero] at h
  by_cases large : n > int64Max
  · simp [zero, large] at h
  omega

namespace Semaphore

@[simp]
theorem isQueued_iff {s : Semaphore} {t : Nat} :
    s.isQueued t = true ↔ ∃ w ∈ s.queue, w.ticket = t := by
  simp [isQueued]

@[simp]
theorem isGranted_iff {s : Semaphore} {t : Nat} : s.isGranted t = true ↔ t ∈ s.granted := by
  simp [isGranted]

/-- The service of the queue front in closed form: the queue is `taken ++ rest`; the live
waiters of `taken` are the first `b` live waiters of the queue, and they are granted in order;
each cancelled waiter of `taken` returns its unit; when waiters remain, the budget is spent. -/
theorem serve_spec (cs : Cancellations) (s : Semaphore) (q : List Waiter) (b : Nat) :
    ∃ taken rest, q = taken ++ rest ∧
      taken.filter (Waiter.live cs) = (q.filter (Waiter.live cs)).take b ∧
      (rest ≠ [] → (taken.filter (Waiter.live cs)).length = b) ∧
      serve cs s q b = { s with
        queue := rest
        count := s.count + Int64.ofNat (taken.countP (fun w => cs.hits w.token))
        granted := s.granted ++ (taken.filter (Waiter.live cs)).map Waiter.ticket
        gaugeShare := s.gaugeShare - taken.length } := by
  fun_induction serve cs s q b with
  | case1 s b =>
    refine ⟨[], [], rfl, by simp, by simp, ?_⟩
    simp
  | case2 s w rest =>
    refine ⟨[], w :: rest, rfl, by simp, by simp, ?_⟩
    simp
  | case3 s w rest b s1 hit ih =>
    -- a cancelled waiter: its unit goes back and the budget is kept
    obtain ⟨taken, rest', hq, hf, hlen, heq⟩ := ih
    refine ⟨w :: taken, rest', by simp [hq], ?_, ?_, ?_⟩
    · simp [Waiter.live, hit, hf]
    · intro hne
      simpa [Waiter.live, hit] using hlen hne
    · rw [heq]
      simp only [s1, List.countP_cons, hit, if_true, Int64.ofNat_add, List.length_cons,
        List.filter_cons, Waiter.live, Bool.not_true, Bool.false_eq_true, if_false]
      congr 1
      · grind
      · push_cast
        ring
  | case4 s w rest b s1 hit ih =>
    -- a live waiter: granted, one unit of budget spent
    obtain ⟨taken, rest', hq, hf, hlen, heq⟩ := ih
    refine ⟨w :: taken, rest', by simp [hq], ?_, ?_, ?_⟩
    · simp [Waiter.live, hit, hf]
    · intro hne
      simpa [Waiter.live, hit] using hlen hne
    · rw [heq]
      simp [s1, hit, Waiter.live]
      omega

/-- A release that passes the capacity test adds its units, and serves the queue when the
count was negative. -/
theorem releaseUnits_ok {cs : Cancellations} {s s' : Semaphore} {n : Nat}
    (h : s.releaseUnits cs n = .ok s') :
    ¬ s.limit < s.count + Int64.ofNat n ∧
      s' = if 0 ≤ s.count then { s with count := s.count + Int64.ofNat n }
        else serve cs { s with count := s.count + Int64.ofNat n } s.queue n := by
  unfold releaseUnits at h
  by_cases exceeds : s.limit < s.count + Int64.ofNat n
  · simp [exceeds] at h
  refine ⟨exceeds, ?_⟩
  by_cases nonneg : 0 ≤ s.count
  · simp only [gt_iff_lt, exceeds, if_false, ge_iff_le, nonneg, if_true, Except.ok.injEq] at h
    simp [nonneg, h]
  · simp only [gt_iff_lt, exceeds, if_false, ge_iff_le, nonneg, Except.ok.injEq] at h
    simp [nonneg, h]

theorem releaseUnits_error {cs : Cancellations} {s : Semaphore} {n : Nat} {f : Fault}
    (h : s.releaseUnits cs n = .error f) : s.limit < s.count + Int64.ofNat n := by
  unfold releaseUnits at h
  by_contra exceeds
  by_cases nonneg : 0 ≤ s.count <;> simp [exceeds, nonneg] at h

/-- A wait leaves the grants and the limit, and either leaves the queue, or queues a waiter
under the next ticket. -/
theorem acquire_spec (cs : Cancellations) (s : Semaphore) (token : Option Token) :
    (s.acquire cs token).1.granted = s.granted ∧ (s.acquire cs token).1.limit = s.limit ∧
      (((s.acquire cs token).1.queue = s.queue ∧
          (s.acquire cs token).1.nextTicket = s.nextTicket) ∨
        ((s.acquire cs token).1.queue = s.queue ++ [⟨s.nextTicket, token⟩] ∧
          (s.acquire cs token).1.nextTicket = s.nextTicket + 1)) := by
  unfold acquire
  by_cases hit : cs.hits token
  · simp [hit]
  by_cases fast : 0 ≤ s.count - 1
  · simp [hit, fast]
  · simp [hit, fast]

/-- One primitive change of a semaphore's state under the cancellations `cs`, with the guard
under which a command makes it and its count arithmetic in range. -/
inductive Move (cs : Cancellations) : Semaphore → Semaphore → Prop
  -- a wait whose token has not fired takes a unit, at once or by queueing
  | acquire {s : Semaphore} {token : Option Token} (live : cs.hits token = false)
      (room : -2 ^ 63 < s.count.toInt) : Move cs s (s.acquire cs token).1
  -- a queued ticket leaves the queue and its unit returns to the count
  | withdraw {s : Semaphore} {t : Nat} (queued : s.isQueued t = true) :
      Move cs s (s.withdraw t)
  | collect {s : Semaphore} {t : Nat} (granted : s.isGranted t = true) :
      Move cs s (s.collect t)
  -- a release of `n` units that passed the capacity test
  | release {s s' : Semaphore} {n : Nat} (ok : s.releaseUnits cs n = .ok s') (pos : 0 < n)
      (small : n ≤ int64Max) (fits : s.count.toInt + n ≤ int64Max) : Move cs s s'
  | purge {s : Semaphore} : Move cs s (s.purge cs)
  -- new counts, set while nobody is queued
  | reset {s : Semaphore} {i m : Int64} (empty : s.queue = []) (nonneg : 0 ≤ i.toInt)
      (le : i.toInt ≤ m.toInt) : Move cs s { s with count := i, limit := m }

abbrev Moves (cs : Cancellations) : Semaphore → Semaphore → Prop :=
  Relation.ReflTransGen (Move cs)

end Semaphore

end Sluice
