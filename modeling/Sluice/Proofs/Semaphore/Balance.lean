import Mathlib
import Sluice.Proofs.Semaphore.Runs
/-!
# The queue and the count agree

A semaphore keeps its waiters in a queue and its units in a signed count, and the design ties
the two together: a count of `-k` means that exactly `k` waiters are queued, and a count that
is not negative means that nobody is. The queue also keeps call order: tickets increase from
head to tail.

This holds in every reachable state, counting the waiters whose token fired but that nobody
has purged yet, because every primitive move keeps it: a wait that queues lowers the count as
it adds a waiter; a withdrawal, a purge and a release that skips a cancelled waiter raise it as
they take one away; a release that grants takes a waiter away with one unit of its budget; a
reset is only made on an empty queue.

`Semaphore.WellFormed` bundles the statement with the facts about granted tickets needed to
keep it through a release: granted tickets are distinct, issued, and below every queued one.

* `Semaphore.WellFormed` — the invariant; one lemma per move (`WellFormed.acquire`, ...).
* `Semaphore.Move.wellFormed`, `Semaphore.Moves.wellFormed`, `Session.Reachable.wellFormed`.
* `queue_length_eq_max_neg_count` — in every reachable state the queue holds
  `max 0 (-count)` waiters and its tickets increase.
-/

namespace Sluice

namespace Semaphore

/-- The invariant of a semaphore's state. -/
structure WellFormed (s : Semaphore) : Prop where
  sorted : (s.queue.map Waiter.ticket).Pairwise (· < ·)
  queued_lt : ∀ w ∈ s.queue, w.ticket < s.nextTicket
  -- the queue holds exactly the units the count owes
  balanced : (s.queue.length : Int) = max 0 (-s.count.toInt)
  granted_nodup : s.granted.Nodup
  granted_lt : ∀ t ∈ s.granted, t < s.nextTicket
  -- a granted ticket is older than every ticket still queued
  granted_before : ∀ t ∈ s.granted, ∀ w ∈ s.queue, t < w.ticket
  limit_nonneg : 0 ≤ s.limit.toInt

theorem length_filter_ticket_ne_of_nodup {q : List Waiter} {t : Nat}
    (distinct : (q.map Waiter.ticket).Nodup) (queued : q.any (fun w => w.ticket == t) = true) :
    (q.filter fun w => w.ticket != t).length + 1 = q.length := by
  induction q with
  | nil => simp at queued
  | cons w rest ih =>
    rw [List.map_cons, List.nodup_cons] at distinct
    by_cases here : w.ticket = t
    · -- the ticket occurs only at the head
      have kept : rest.filter (fun w => w.ticket != t) = rest := by
        refine List.filter_eq_self.mpr fun v hv => ?_
        have other : v.ticket ≠ t := by
          rintro same
          exact distinct.1 (here ▸ same ▸ List.mem_map_of_mem hv)
        simpa using other
      simp [here, kept]
    · have inRest : rest.any (fun w => w.ticket == t) = true := by simpa [here] using queued
      simp [here, ih distinct.2 inRest]

theorem WellFormed.acquire {cs : Cancellations} {s : Semaphore} {token : Option Token}
    (h : s.WellFormed) (live : cs.hits token = false) (room : -2 ^ 63 < s.count.toInt) :
    (s.acquire cs token).1.WellFormed := by
  have lowered : (s.count - 1).toInt = s.count.toInt - 1 := toInt_sub_one_exact room
  have balanced := h.balanced
  by_cases fast : 0 ≤ s.count - 1
  · -- a free unit: the count stays non-negative, so the queue is and stays empty
    have nonneg : 0 ≤ (s.count - 1).toInt := by simpa [Int64.le_iff_toInt_le] using fast
    simp only [Semaphore.acquire, live, Bool.false_eq_true, if_false, ge_iff_le, fast, if_true]
    exact { h with balanced := by simp only; omega }
  · -- no free unit: the waiter joins the queue under the next ticket
    have neg : (s.count - 1).toInt < 0 := by simpa [Int64.le_iff_toInt_le] using fast
    simp only [Semaphore.acquire, live, Bool.false_eq_true, if_false, ge_iff_le, fast]
    refine ⟨?_, ?_, ?_, h.granted_nodup, ?_, ?_, h.limit_nonneg⟩
    · rw [List.map_append, List.pairwise_append]
      refine ⟨h.sorted, by simp, ?_⟩
      intro a ha b hb
      obtain ⟨w, hw, rfl⟩ := List.mem_map.mp ha
      simp only [List.map_cons, List.map_nil, List.mem_singleton] at hb
      exact hb ▸ h.queued_lt w hw
    · intro w hw
      rcases List.mem_append.mp hw with old | new
      · exact Nat.lt_succ_of_lt (h.queued_lt w old)
      · simp only [List.mem_singleton] at new
        simp [new]
    · simp only [List.length_append, List.length_singleton]
      push_cast
      omega
    · intro t ht
      exact Nat.lt_succ_of_lt (h.granted_lt t ht)
    · intro t ht w hw
      rcases List.mem_append.mp hw with old | new
      · exact h.granted_before t ht w old
      · simp only [List.mem_singleton] at new
        simpa [new] using h.granted_lt t ht

/-- Withdrawing a queued ticket shortens the queue by one and gives its unit back, exactly. -/
theorem withdraw_spec {s : Semaphore} {t : Nat} (h : s.WellFormed)
    (queued : s.isQueued t = true) :
    (s.withdraw t).queue.length + 1 = s.queue.length ∧
      (s.withdraw t).count.toInt = s.count.toInt + 1 := by
  have shorter := length_filter_ticket_ne_of_nodup (h.sorted.imp Nat.ne_of_lt) queued
  have balanced := h.balanced
  -- a queued waiter means a negative count, so giving its unit back is exact
  have neg : s.count.toInt ≤ -1 := by omega
  have := Int64.le_toInt s.count
  refine ⟨shorter, ?_⟩
  change (s.count + 1).toInt = _
  rw [toInt_add_exact] <;> simp only [Int64.toInt_one] <;> omega

theorem WellFormed.withdraw {s : Semaphore} {t : Nat} (h : s.WellFormed)
    (queued : s.isQueued t = true) : (s.withdraw t).WellFormed := by
  rcases withdraw_spec h queued with ⟨shorter, raised⟩
  have balanced := h.balanced
  have sub : (s.queue.filter fun w => w.ticket != t) ⊆ s.queue := List.filter_sublist.subset
  refine ⟨?_, fun w hw => h.queued_lt w (sub hw), ?_, h.granted_nodup, h.granted_lt,
    fun g hg w hw => h.granted_before g hg w (sub hw), h.limit_nonneg⟩
  · exact h.sorted.sublist (List.filter_sublist.map _)
  · rw [raised]
    omega

theorem WellFormed.collect {s : Semaphore} (h : s.WellFormed) (t : Nat) :
    (s.collect t).WellFormed where
  sorted := h.sorted
  queued_lt := h.queued_lt
  balanced := h.balanced
  granted_nodup := h.granted_nodup.erase t
  granted_lt := fun g hg => h.granted_lt g (List.mem_of_mem_erase hg)
  granted_before := fun g hg => h.granted_before g (List.mem_of_mem_erase hg)
  limit_nonneg := h.limit_nonneg

/-- A release that passed its test, in closed form for a well-formed semaphore: a prefix of
the queue is served, its live waiters are the first `n` live waiters and are granted in order,
and the count gains the units released and one for each cancelled waiter served. -/
theorem release_spec {cs : Cancellations} {s s' : Semaphore} {n : Nat} (h : s.WellFormed)
    (ok : s.releaseUnits cs n = .ok s') (small : n ≤ int64Max)
    (fits : s.count.toInt + n ≤ int64Max) :
    ∃ taken, s.queue = taken ++ s'.queue ∧
      taken.filter (Waiter.live cs) = (s.queue.filter (Waiter.live cs)).take n ∧
      (s'.queue ≠ [] → (taken.filter (Waiter.live cs)).length = n) ∧
      s'.count.toInt = s.count.toInt + n + taken.countP (fun w => cs.hits w.token) ∧
      s'.granted = s.granted ++ (taken.filter (Waiter.live cs)).map Waiter.ticket ∧
      s'.limit = s.limit ∧ s'.nextTicket = s.nextTicket := by
  obtain ⟨-, rfl⟩ := releaseUnits_ok ok
  have balanced := h.balanced
  have least := Int64.le_toInt s.count
  unfold int64Max at small fits
  have added : (s.count + Int64.ofNat n).toInt = s.count.toInt + n :=
    toInt_add_ofNat_exact (by omega) (by omega)
  by_cases nonneg : 0 ≤ s.count
  · -- nobody is queued: the units only raise the count
    have : 0 ≤ s.count.toInt := by simpa [Int64.le_iff_toInt_le] using nonneg
    have empty : s.queue = [] := List.eq_nil_of_length_eq_zero (by omega)
    simp only [nonneg, if_true]
    exact ⟨[], by simp, by simp [empty], by simp [empty], by simp [added], by simp, by simp,
      by simp⟩
  have neg : s.count.toInt < 0 := by simpa [Int64.le_iff_toInt_le] using nonneg
  simp only [nonneg, if_false]
  obtain ⟨taken, rest, split, front, spent, served⟩ :=
    serve_spec cs { s with count := s.count + Int64.ofNat n } s.queue n
  rw [served]
  refine ⟨taken, split, front, spent, ?_, rfl, rfl, rfl⟩
  -- the cancelled waiters served were owed by the count, so giving their units back is exact
  have whole : s.queue.length = taken.length + rest.length := by rw [split, List.length_append]
  have cancelled : taken.countP (fun w => cs.hits w.token) ≤ taken.length := List.countP_le_length
  change (s.count + Int64.ofNat n + Int64.ofNat (taken.countP _)).toInt = _
  rw [toInt_add_ofNat_exact, added] <;> rw [added] <;> omega

theorem WellFormed.release {cs : Cancellations} {s s' : Semaphore} {n : Nat} (h : s.WellFormed)
    (ok : s.releaseUnits cs n = .ok s') (small : n ≤ int64Max)
    (fits : s.count.toInt + n ≤ int64Max) : s'.WellFormed := by
  obtain ⟨taken, split, front, spent, count, granted, limit, next⟩ := release_spec h ok small fits
  have balanced := h.balanced
  have sortedParts := h.sorted
  rw [split, List.map_append, List.pairwise_append] at sortedParts
  have inQueue : ∀ w ∈ taken, w ∈ s.queue := fun w hw => split ▸ List.mem_append_left _ hw
  have restInQueue : ∀ w ∈ s'.queue, w ∈ s.queue :=
    fun w hw => split ▸ List.mem_append_right taken hw
  -- the served part splits into its live waiters and its cancelled ones
  have parts := length_eq_live_add_hits cs taken
  have whole : s.queue.length = taken.length + s'.queue.length := by
    rw [split, List.length_append]
  refine ⟨sortedParts.2.1, fun w hw => next ▸ h.queued_lt w (restInQueue w hw), ?_, ?_, ?_, ?_,
    limit ▸ h.limit_nonneg⟩
  · -- the queue that is left is what the count still owes
    rw [count]
    by_cases left : s'.queue = []
    · have fewer : (taken.filter (Waiter.live cs)).length ≤ n := by
        rw [front, List.length_take]
        exact Nat.min_le_left _ _
      simp only [left, List.length_nil, Nat.cast_zero] at whole ⊢
      omega
    · have all := spent left
      have waiting : 0 < s'.queue.length := List.length_pos_of_ne_nil left
      have owed : s.count.toInt + n + taken.countP (fun w => cs.hits w.token) =
          -s'.queue.length := by
        omega
      rw [owed, neg_neg, max_eq_right (by omega)]
  · -- new grants are distinct queued tickets, all younger than the old grants
    rw [granted, List.nodup_append]
    refine ⟨h.granted_nodup, (sortedParts.1.sublist (List.filter_sublist.map _)).nodup, ?_⟩
    intro g hg g' hg' same
    obtain ⟨w, hw, rfl⟩ := List.mem_map.mp hg'
    have := h.granted_before g hg w (inQueue w (List.mem_filter.mp hw).1)
    omega
  · intro g hg
    rw [granted] at hg
    rw [next]
    rcases List.mem_append.mp hg with old | new
    · exact h.granted_lt g old
    · obtain ⟨w, hw, rfl⟩ := List.mem_map.mp new
      exact h.queued_lt w (inQueue w (List.mem_filter.mp hw).1)
  · intro g hg w hw
    rw [granted] at hg
    rcases List.mem_append.mp hg with old | new
    · exact h.granted_before g old w (restInQueue w hw)
    · obtain ⟨v, hv, rfl⟩ := List.mem_map.mp new
      exact sortedParts.2.2 v.ticket (List.mem_map_of_mem (List.mem_filter.mp hv).1) w.ticket
        (List.mem_map_of_mem hw)

/-- A purge takes the waiters whose token fired out of the queue and gives their units back,
exactly. -/
theorem purge_spec {s : Semaphore} (h : s.WellFormed) (cs : Cancellations) :
    (s.purge cs).queue.length + (s.queue.filter fun w => cs.hits w.token).length =
        s.queue.length ∧
      (s.purge cs).count.toInt =
        s.count.toInt + (s.queue.filter fun w => cs.hits w.token).length := by
  have balanced := h.balanced
  have least := Int64.le_toInt s.count
  have parts := List.length_eq_length_filter_add (l := s.queue) (fun w => cs.hits w.token)
  refine ⟨by simp only [Semaphore.purge]; omega, ?_⟩
  -- the purged waiters were part of what the count owed, so returning them is exact
  exact toInt_add_ofNat_exact (by omega) (by have := Int64.toInt_lt s.count; omega)

theorem WellFormed.purge {s : Semaphore} (h : s.WellFormed) (cs : Cancellations) :
    (s.purge cs).WellFormed := by
  rcases purge_spec h cs with ⟨shorter, raised⟩
  have balanced := h.balanced
  have sub : (s.queue.filter fun w => !cs.hits w.token) ⊆ s.queue := List.filter_sublist.subset
  refine ⟨h.sorted.sublist (List.filter_sublist.map _), fun w hw => h.queued_lt w (sub hw), ?_,
    h.granted_nodup, h.granted_lt, fun g hg w hw => h.granted_before g hg w (sub hw),
    h.limit_nonneg⟩
  rw [raised]
  omega

theorem WellFormed.reset {s : Semaphore} {i m : Int64} (h : s.WellFormed)
    (empty : s.queue = []) (nonneg : 0 ≤ i.toInt) (le : i.toInt ≤ m.toInt) :
    ({ s with count := i, limit := m } : Semaphore).WellFormed :=
  { h with
    balanced := by simp only [empty, List.length_nil, Nat.cast_zero]; omega
    limit_nonneg := by simp only; omega }

theorem Move.wellFormed {cs : Cancellations} {s s' : Semaphore} (move : Move cs s s')
    (h : s.WellFormed) : s'.WellFormed := by
  cases move with
  | acquire live room => exact h.acquire live room
  | withdraw queued => exact h.withdraw queued
  | collect _ => exact h.collect _
  | release ok _ small fits => exact h.release ok small fits
  | purge => exact h.purge cs
  | reset empty nonneg le => exact h.reset empty nonneg le

theorem Moves.wellFormed {cs : Cancellations} {s s' : Semaphore} (moves : Moves cs s s')
    (h : s.WellFormed) : s'.WellFormed := by
  induction moves with
  | refl => exact h
  | tail _ move ih => exact move.wellFormed ih

theorem wellFormed_ofCounts {i m : Int64} (nonneg : 0 ≤ i.toInt) (le : i.toInt ≤ m.toInt) :
    (ofCounts i m).WellFormed where
  sorted := by simp [ofCounts]
  queued_lt := by simp [ofCounts]
  balanced := by simp only [ofCounts, List.length_nil, Nat.cast_zero]; omega
  granted_nodup := by simp [ofCounts]
  granted_lt := by simp [ofCounts]
  granted_before := by simp [ofCounts]
  limit_nonneg := by simp only [ofCounts]; omega

namespace Session

theorem Reachable.wellFormed {s : Session} (reached : s.Reachable) : s.sem.WellFormed := by
  induction reached with
  | create made =>
    obtain ⟨i, m, checked, rfl⟩ := create_ok made
    rcases checkCounts_ok checked with ⟨hi, hm, le, -, -⟩
    exact wellFormed_ofCounts (by omega) (by omega)
  | step _ fits ih => exact (step_moves fits).wellFormed ih

end Session

/-- In every reachable state of a semaphore the queue holds `max 0 (-count)` waiters, those
whose token fired but that nobody purged yet included, and the queued tickets increase from
head to tail. -/
theorem queue_length_eq_max_neg_count {s : Session} (reached : s.Reachable) :
    (s.sem.queue.length : Int) = max 0 (-s.sem.count.toInt) ∧
      (s.sem.queue.map Waiter.ticket).Pairwise (· < ·) :=
  ⟨reached.wellFormed.balanced, reached.wellFormed.sorted⟩

/-- Two waits on a semaphore made with no free unit: both queue, in call order, and the count
owes two units. -/
theorem queue_length_after_two_waits :
    let s := (Session.mk (ofCounts 0 1) false {} {}).run
      [.wait "a" none, .wait "b" (some ⟨"t"⟩)]
    s.Reachable ∧ (s.sem.queue.length : Int) = max 0 (-s.sem.count.toInt) ∧
      (s.sem.queue.map Waiter.ticket).Pairwise (· < ·) := by
  intro s
  have reached : s.Reachable := by
    refine Session.Reachable.run (@Session.Reachable.create 0 1 false _ rfl) ?_
    simp [Session.Safe, Session.Fits, Session.step, Registry.find?, Registry.put,
      Registry.putEntry, acquire, ofCounts, Cancellations.hits, Cancellations.isCancelled,
      Wait.ofAdmission, List.lookup]
  exact ⟨reached, queue_length_eq_max_neg_count reached⟩

end Semaphore

end Sluice
