import Mathlib
import Sluice.Proofs.Semaphore.Capacity
import Sluice.Proofs.Semaphore.Handles
/-!
# Cancelled waiters leave no trace

A waiter whose token fires is not taken out of the queue then. It stays queued, still owing
its unit, until something looks at it: a purge (made by the `count`, `waiters` and `tryReset`
commands), a release whose service reaches it, or a poll or a drop of its own handle. An
eager semaphore would drop every such waiter the moment its token fires and give its unit back
at once.

`Session.eager` is what an eager semaphore holds in place of a session: the same handles and
cancellations, with the semaphore purged. `Session.stepEager` runs a command on an eager
semaphore: a cancellation purges at once, every other command is the ordinary one.

Every operation commutes with a purge: a wait (`acquire_purge`), a withdrawal, a collection, a
release, a try-release, a reset, the two counting queries, and the poll and the drop of a
handle. So one command from the eager view of a session answers as the command from the
session itself and leads to the eager view of where it leads (`Session.stepEager_eager`), and a
run does the same, command by command (`Session.replies_eager`).

A release is the one operation that needs a hypothesis. It tests `count + n ≤ limit` on the
count as it stands, and the units still owed to cancelled waiters are not part of that count.
When `n` is at most the limit the difference never shows: a queue that holds cancelled waiters
has a negative count, their units lift it at most to zero, and both tests pass. A release of
more units than the limit past a cancelled waiter passes on the lazy semaphore and is refused
by the eager one (`release_past_cancelled_waiter_differs_from_eager`).

* `Semaphore.purge_purge`, `Semaphore.purge_serve` — the purge against itself and against
  serving the queue.
* `Semaphore.acquire_purge`, `Semaphore.releaseUnits_purge`, `Wait.poll_purge`,
  `Wait.drop_purge` and the others — each operation commutes with a purge.
* `Session.eager`, `Session.stepEager`, `Session.replies`.
* `lazy_purge_unobservable_when_releases_within` — the two semaphores agree on every such run.
-/
namespace Sluice

namespace Semaphore

section Purge

variable {cs : Cancellations} {s : Semaphore}

theorem purge_eq_self (clear : ∀ w ∈ s.queue, cs.hits w.token = false) : s.purge cs = s := by
  have kept : s.queue.filter (fun w => !cs.hits w.token) = s.queue :=
    List.filter_eq_self.mpr (by simpa using clear)
  have gone : s.queue.filter (fun w => cs.hits w.token) = [] :=
    List.filter_eq_nil_iff.mpr (by simpa using clear)
  simp [purge, kept, gone]

theorem length_hits_add_length_hits_live {cs' : Cancellations}
    (more : ∀ token, cs.hits token = true → cs'.hits token = true) (q : List Waiter) :
    (q.filter fun w => cs.hits w.token).length +
        ((q.filter fun w => !cs.hits w.token).filter fun w => cs'.hits w.token).length =
      (q.filter fun w => cs'.hits w.token).length := by
  induction q with
  | nil => rfl
  | cons w rest ih =>
    cases hit : cs.hits w.token
    · cases hit' : cs'.hits w.token <;>
        simp only [List.filter_cons, hit, hit', Bool.not_false, if_true, Bool.false_eq_true,
          if_false, List.length_cons] <;> omega
    · simp only [List.filter_cons, hit, more _ hit, Bool.not_true, if_true, Bool.false_eq_true,
        if_false, List.length_cons]
      omega

/-- Purging twice, the second time with more tokens fired, is purging once with all of them. -/
theorem purge_purge {cs' : Cancellations}
    (more : ∀ token, cs.hits token = true → cs'.hits token = true) :
    (s.purge cs).purge cs' = s.purge cs' := by
  have kept : ((s.queue.filter fun w => !cs.hits w.token).filter fun w => !cs'.hits w.token) =
      s.queue.filter fun w => !cs'.hits w.token := by
    rw [List.filter_filter]
    refine List.filter_congr fun w _ => ?_
    cases hit : cs.hits w.token
    · simp
    · simp [more _ hit]
  have counted := length_hits_add_length_hits_live more s.queue
  simp only [purge, kept, ← counted, Int64.ofNat_add, Semaphore.mk.injEq, true_and]
  constructor
  · grind
  · push_cast
    ring

theorem serve_zero (q : List Waiter) : serve cs s q 0 = { s with queue := q } := by
  cases q <;> rfl

theorem serve_queue (q' q : List Waiter) (b : Nat) :
    serve cs { s with queue := q' } q b = serve cs s q b := by
  induction q generalizing s b with
  | nil => rfl
  | cons w rest ih =>
    cases b with
    | zero => rfl
    | succ b =>
      simp only [serve]
      split
      · exact ih (s := { s with count := s.count + 1, gaugeShare := s.gaugeShare - 1 }) ..
      · exact ih
          (s := { s with granted := s.granted ++ [w.ticket], gaugeShare := s.gaugeShare - 1 }) ..

theorem serve_congr {s' : Semaphore} (same : { s with queue := [] } = { s' with queue := [] })
    (q : List Waiter) (b : Nat) : serve cs s q b = serve cs s' q b := by
  rw [← serve_queue (s := s) [] q b, same, serve_queue]

/-- Purging after serving is serving the live waiters alone, with the units of the cancelled
ones given back first. Serving passes over a cancelled waiter without spending budget on it,
so the purge may as well have dropped it beforehand. -/
theorem purge_serve (q : List Waiter) (b : Nat) :
    (serve cs s q b).purge cs =
      serve cs { s with
          count := s.count + Int64.ofNat (q.filter fun w => cs.hits w.token).length,
          gaugeShare := s.gaugeShare - (q.filter fun w => cs.hits w.token).length }
        (q.filter fun w => !cs.hits w.token) b := by
  induction q generalizing s b with
  | nil => simp [serve, purge]
  | cons w rest ih =>
    cases b with
    | zero =>
      rw [serve_zero, serve_zero]
      rfl
    | succ b =>
      cases hit : cs.hits w.token
      · -- a live waiter is granted in both, and the purge of the rest follows
        simp only [serve, hit, ih, List.filter_cons, Bool.not_false, if_true, Bool.false_eq_true,
          if_false]
        congr 1
        simp only [Semaphore.mk.injEq, true_and]
        omega
      · -- a cancelled waiter gives its unit back on either side
        simp only [serve, hit, ih, List.filter_cons, Bool.not_true, if_true, Bool.false_eq_true,
          if_false, List.length_cons]
        congr 1
        simp only [Semaphore.mk.injEq, true_and, Int64.ofNat_add]
        constructor
        · grind
        · push_cast
          ring

theorem collect_purge (t : Nat) : (s.collect t).purge cs = (s.purge cs).collect t := rfl

@[simp]
theorem purge_granted : (s.purge cs).granted = s.granted := rfl

@[simp]
theorem purge_limit : (s.purge cs).limit = s.limit := rfl

theorem purge_clear : ∀ w ∈ (s.purge cs).queue, cs.hits w.token = false :=
  fun w hw => by simpa [purge] using (List.mem_filter.mp hw).2

theorem purge_idem : (s.purge cs).purge cs = s.purge cs :=
  purge_eq_self purge_clear

theorem isQueued_purge {t : Nat} :
    (s.purge cs).isQueued t = true ↔
      ∃ w ∈ s.queue, w.ticket = t ∧ cs.hits w.token = false := by
  simp only [isQueued_iff, purge, List.mem_filter, Bool.not_eq_eq_eq_not, Bool.not_true]
  constructor
  · rintro ⟨w, ⟨hw, live⟩, rfl⟩
    exact ⟨w, hw, rfl, live⟩
  · rintro ⟨w, hw, rfl, live⟩
    exact ⟨w, ⟨hw, live⟩, rfl⟩

theorem WellFormed.eq_of_ticket_eq (h : s.WellFormed) {v w : Waiter} (hv : v ∈ s.queue)
    (hw : w ∈ s.queue) (same : w.ticket = v.ticket) : w = v :=
  List.inj_on_of_nodup_map h.sorted.nodup hw hv same

theorem WellFormed.not_queued_of_granted (h : s.WellFormed) {t : Nat}
    (granted : s.isGranted t = true) : s.isQueued t = false := by
  rw [Bool.eq_false_iff]
  intro queued
  obtain ⟨w, hw, rfl⟩ := isQueued_iff.mp queued
  exact lt_irrefl _ (h.granted_before _ (isGranted_iff.mp granted) w hw)

theorem isQueued_purge_of_not {t : Nat} (queued : s.isQueued t = false) :
    (s.purge cs).isQueued t = false := by
  rw [Bool.eq_false_iff]
  intro still
  obtain ⟨w, hw, rfl, -⟩ := isQueued_purge.mp still
  exact absurd (isQueued_iff.mpr ⟨w, hw, rfl⟩) (by simp [queued])

theorem WellFormed.filter_ticket_ne (h : s.WellFormed) {v : Waiter} (hv : v ∈ s.queue) :
    ∃ front back, s.queue = front ++ v :: back ∧
      s.queue.filter (fun w => w.ticket != v.ticket) = front ++ back := by
  obtain ⟨front, back, split⟩ := List.append_of_mem hv
  have others : ∀ w ∈ front ++ back, w.ticket ≠ v.ticket := by
    intro w hw same
    -- a second waiter with the ticket would be `v` itself, queued twice
    have queued : w ∈ s.queue := by
      rw [split]
      rcases List.mem_append.mp hw with inFront | inBack <;> simp [*]
    obtain rfl := h.eq_of_ticket_eq hv queued same
    have distinct : s.queue.Nodup := h.sorted.nodup.of_map _
    rw [split, List.nodup_append, List.nodup_cons] at distinct
    rcases List.mem_append.mp hw with inFront | inBack
    · exact distinct.2.2 _ inFront _ (List.mem_cons_self ..) rfl
    · exact distinct.2.1.1 inBack
  have keep : ∀ l : List Waiter, (∀ w ∈ l, w.ticket ≠ v.ticket) →
      l.filter (fun w => w.ticket != v.ticket) = l :=
    fun l none => List.filter_eq_self.mpr fun w hw => by simpa using none w hw
  refine ⟨front, back, split, ?_⟩
  rw [split, List.filter_append, List.filter_cons, bne_self_eq_false, if_neg Bool.false_ne_true,
    keep front fun w hw => others w (List.mem_append_left _ hw),
    keep back fun w hw => others w (List.mem_append_right _ hw)]

theorem purge_withdraw_of_hit (h : s.WellFormed) {v : Waiter} (hv : v ∈ s.queue)
    (hit : cs.hits v.token = true) : (s.withdraw v.ticket).purge cs = s.purge cs := by
  obtain ⟨front, back, split, rest⟩ := h.filter_ticket_ne hv
  simp only [withdraw, purge]
  rw [rest, split]
  simp only [List.filter_append, List.filter_cons, hit, Bool.not_true, Bool.false_eq_true,
    if_false, if_true, List.length_append, List.length_cons, Semaphore.mk.injEq, true_and,
    Int64.ofNat_add]
  constructor
  · grind
  · push_cast
    ring

theorem purge_withdraw_of_live (h : s.WellFormed) {v : Waiter} (hv : v ∈ s.queue)
    (live : cs.hits v.token = false) :
    (s.withdraw v.ticket).purge cs = (s.purge cs).withdraw v.ticket := by
  obtain ⟨front, back, split, rest⟩ := h.filter_ticket_ne hv
  have swapped : ((s.queue.filter fun w => !cs.hits w.token).filter
      fun w => w.ticket != v.ticket) = (front ++ back).filter fun w => !cs.hits w.token := by
    rw [← rest, List.filter_filter, List.filter_filter]
    exact List.filter_congr fun w _ => Bool.and_comm ..
  simp only [withdraw, purge, swapped]
  rw [rest, split]
  simp only [List.filter_append, List.filter_cons, live, Bool.false_eq_true, if_false,
    List.length_append, Semaphore.mk.injEq, true_and, Int64.ofNat_add]
  constructor
  · grind
  · omega

/-- A wait on a purged semaphore is the wait followed by the purge: a purge only drops cancelled
waiters, which a new wait never looks at. -/
theorem acquire_purge (h : s.WellFormed) {token : Option Token}
    (room : cs.hits token = false → -2 ^ 63 < s.count.toInt) :
    (s.purge cs).acquire cs token = ((s.acquire cs token).1.purge cs, (s.acquire cs token).2) := by
  cases hit : cs.hits token
  · have above := room hit
    have lowered : (s.count - 1).toInt = s.count.toInt - 1 := toInt_sub_one_exact above
    obtain ⟨shorter, raised⟩ := purge_spec h cs
    have balanced := h.balanced
    by_cases fast : 0 ≤ s.count - 1
    · -- a free unit: nothing is queued, so neither purge drops anything
      have nonneg : 0 ≤ (s.count - 1).toInt := by simpa [Int64.le_iff_toInt_le] using fast
      have empty : s.queue = [] := List.eq_nil_of_length_eq_zero (by omega)
      rw [purge_eq_self (by simp [empty])]
      simp only [acquire, hit, Bool.false_eq_true, if_false, ge_iff_le, fast, if_true]
      rw [purge_eq_self (by simp [empty])]
    · -- no free unit: the count stays at most zero after the purge too, and both queue the wait
      have neg : (s.count - 1).toInt < 0 := by simpa [Int64.le_iff_toInt_le] using fast
      have slow : ¬ 0 ≤ (s.purge cs).count - 1 := by
        rw [Int64.le_iff_toInt_le, toInt_sub_one_exact (by omega)]
        simp only [Int64.toInt_zero]
        omega
      simp only [acquire, hit, Bool.false_eq_true, if_false, ge_iff_le, fast, slow]
      simp only [purge, List.filter_append, List.filter_cons, hit, Bool.not_false, if_true,
        Bool.false_eq_true, if_false, List.filter_nil, List.append_nil, Prod.mk.injEq,
        Semaphore.mk.injEq, true_and, and_true]
      constructor
      · grind
      · omega
  · simp [acquire, hit]

/-- Releasing at most the limit commutes with a purge, a refusal included. A queue that holds
cancelled waiters has a negative count, and their units take it at most to zero, so with
`n ≤ limit` both tests pass; with none of them queued the purge changes nothing. -/
theorem releaseUnits_purge {n : Nat} (h : s.WellFormed) (small : n ≤ int64Max)
    (fits : s.count.toInt + n ≤ int64Max) (within : (n : Int) ≤ s.limit.toInt) :
    (s.purge cs).releaseUnits cs n = (s.releaseUnits cs n).map (·.purge cs) := by
  by_cases clear : ∀ w ∈ s.queue, cs.hits w.token = false
  · -- nothing to purge, before the release or after it: serving only shortens the queue
    rw [purge_eq_self clear]
    cases released : s.releaseUnits cs n with
    | error f => rfl
    | ok s' =>
      obtain ⟨taken, split, -⟩ := release_spec h released small fits
      rw [Except.map, purge_eq_self fun w hw => clear w (split ▸ List.mem_append_right _ hw)]
  · -- cancelled waiters are queued: the count is negative and their units keep it at most 0
    obtain ⟨v, hv, hit⟩ : ∃ v ∈ s.queue, cs.hits v.token = true := by simpa using clear
    obtain ⟨shorter, raised⟩ := purge_spec h cs
    have balanced := h.balanced
    have least := Int64.le_toInt s.count
    have some : 0 < (s.queue.filter fun w => cs.hits w.token).length :=
      List.length_pos_of_mem (List.mem_filter.mpr ⟨hv, hit⟩)
    unfold int64Max at small fits
    have lazySum : (s.count + Int64.ofNat n).toInt = s.count.toInt + n :=
      toInt_add_ofNat_exact (by omega) (by omega)
    have eagerSum : ((s.purge cs).count + Int64.ofNat n).toInt =
        s.count.toInt + (s.queue.filter fun w => cs.hits w.token).length + n := by
      rw [toInt_add_ofNat_exact (by omega) (by omega), raised]
    have lazyPass : ¬ s.limit < s.count + Int64.ofNat n := by
      rw [Int64.lt_iff_toInt_lt, lazySum]
      omega
    have eagerPass : ¬ (s.purge cs).limit < (s.purge cs).count + Int64.ofNat n := by
      rw [Int64.lt_iff_toInt_lt, eagerSum]
      change ¬ s.limit.toInt < _
      omega
    have negative : ¬ 0 ≤ s.count := by
      rw [Int64.le_iff_toInt_le, Int64.toInt_zero]
      omega
    simp only [releaseUnits, lazyPass, eagerPass, negative, if_false, ge_iff_le, Except.map,
      purge_serve]
    have formed := (h.purge cs).balanced
    by_cases drained : 0 ≤ (s.purge cs).count
    · -- every queued waiter was cancelled: the purged queue is empty
      have empty : (s.queue.filter fun w => !cs.hits w.token) = [] := by
        rw [Int64.le_iff_toInt_le, Int64.toInt_zero] at drained
        have none : (s.purge cs).queue.length = 0 := by omega
        exact List.eq_nil_of_length_eq_zero none
      simp only [drained, if_true, empty]
      rw [serve]
      simp only [purge, Except.ok.injEq, Semaphore.mk.injEq, empty, and_true]
      grind
    · simp only [drained, if_false]
      congr 1
      apply serve_congr
      simp only [purge, Semaphore.mk.injEq, and_true]
      grind

theorem release_purge {n : Nat} (h : s.WellFormed)
    (fits : checkRelease n = .ok () → s.count.toInt + n ≤ int64Max)
    (within : (n : Int) ≤ s.limit.toInt) :
    (s.purge cs).release cs n = (s.release cs n).map (·.purge cs) := by
  cases checked : checkRelease n with
  | error f => simp [release, checked, bind, Except.bind, Except.map]
  | ok u =>
    obtain ⟨-, small⟩ := checkRelease_ok checked
    simp only [release, checked, bind, Except.bind]
    exact releaseUnits_purge h small (fits checked) within

theorem tryRelease_purge {n : Nat} (h : s.WellFormed)
    (fits : checkRelease n = .ok () → s.count.toInt + n ≤ int64Max)
    (within : (n : Int) ≤ s.limit.toInt) :
    (s.purge cs).tryRelease cs n = (s.tryRelease cs n).map fun r => (r.1, r.2.purge cs) := by
  cases checked : checkRelease n with
  | error f => simp [tryRelease, checked, bind, Except.bind, Except.map]
  | ok u =>
    obtain ⟨-, small⟩ := checkRelease_ok checked
    simp only [tryRelease, checked, bind, Except.bind,
      releaseUnits_purge h small (fits checked) within]
    cases s.releaseUnits cs n <;> rfl

/-- A reset purges first, so a purge before it changes nothing; what it leaves has nothing
more to purge. -/
theorem tryReset_purge (initial limit : Nat) :
    (s.purge cs).tryReset cs initial limit =
      (s.tryReset cs initial limit).map fun r => (r.1, r.2.purge cs) := by
  cases checked : checkCounts initial limit with
  | error f => simp [tryReset, checked, bind, Except.bind, Except.map]
  | ok counts =>
    obtain ⟨i, m⟩ := counts
    have reset : ({ s.purge cs with count := i, limit := m } : Semaphore).purge cs =
        { s.purge cs with count := i, limit := m } := purge_eq_self purge_clear
    simp only [tryReset, checked, purge_idem, bind, Except.bind, pure, Except.pure]
    split
    · simp only [Except.map, reset]
    · simp only [Except.map, purge_idem]

theorem liveCount_purge :
    (s.purge cs).liveCount cs = ((s.liveCount cs).1, (s.liveCount cs).2.purge cs) := by
  simp [liveCount, purge_idem]

theorem liveWaiters_purge :
    (s.purge cs).liveWaiters cs = ((s.liveWaiters cs).1, (s.liveWaiters cs).2.purge cs) := by
  simp [liveWaiters, purge_idem]

end Purge

end Semaphore

section Handles

variable {cs : Cancellations} {s : Semaphore}

open Semaphore

/-- Polling a handle commutes with a purge. The handle holds its waiter's own token, so a
waiter the purge dropped is one whose handle sees its token fired and reports the
cancellation, withdrawing the waiter itself. -/
theorem Wait.poll_purge (w : Wait) (h : s.WellFormed)
    (tokens : ∀ t token, w = .queued t token →
      ∀ v ∈ s.queue, v.ticket = t → v.token = token) :
    w.poll cs (s.purge cs) = ((w.poll cs s).1, (w.poll cs s).2.1, (w.poll cs s).2.2.purge cs) := by
  cases w with
  | ready r => cases r <;> rfl
  | queued t token =>
    simp only [Wait.poll]
    by_cases queued : s.isQueued t
    · obtain ⟨v, hv, rfl⟩ := isQueued_iff.mp queued
      have own : v.token = token := tokens _ _ rfl v hv rfl
      have ungranted : v.ticket ∉ s.granted := fun granted => by
        simp [h.not_queued_of_granted (isGranted_iff.mpr granted)] at queued
      cases hit : cs.hits token
      · -- a live waiter stays queued through the purge
        have still : (s.purge cs).isQueued v.ticket = true :=
          isQueued_purge.mpr ⟨v, hv, rfl, own ▸ hit⟩
        simp [still, queued, ungranted]
      · -- the purge dropped the waiter; the handle withdraws it itself
        have gone : (s.purge cs).isQueued v.ticket = false := by
          rw [Bool.eq_false_iff]
          intro still
          obtain ⟨w, hw, same, live⟩ := isQueued_purge.mp still
          rw [h.eq_of_ticket_eq hv hw same, own, hit] at live
          exact Bool.noConfusion live
        have unchanged : (s.withdraw v.ticket).purge cs = s.purge cs :=
          purge_withdraw_of_hit h hv (own ▸ hit)
        simp [gone, queued, ungranted, unchanged]
    · have gone : (s.purge cs).isQueued t = false :=
        isQueued_purge_of_not (Bool.eq_false_iff.mpr queued)
      by_cases granted : t ∈ s.granted <;> cases hit : cs.hits token <;>
        simp [queued, gone, granted, collect_purge]

/-- Dropping a handle commutes with a purge. A granted unit goes back by a one-unit release,
which commutes with the purge because the limit is at least one. -/
theorem Wait.drop_purge (w : Wait) (h : s.WellFormed) (cap : s.Capped) (fits : w.DropFits s) :
    w.drop cs (s.purge cs) = (w.drop cs s).purge cs := by
  cases w with
  | ready r => rfl
  | queued t token =>
    simp only [Wait.drop]
    by_cases queued : s.isQueued t
    · obtain ⟨v, hv, rfl⟩ := isQueued_iff.mp queued
      have ungranted : v.ticket ∉ s.granted := fun granted => by
        simp [h.not_queued_of_granted (isGranted_iff.mpr granted)] at queued
      cases hit : cs.hits v.token
      · have still : (s.purge cs).isQueued v.ticket = true :=
          isQueued_purge.mpr ⟨v, hv, rfl, hit⟩
        simp [still, queued, purge_withdraw_of_live h hv hit]
      · have gone : (s.purge cs).isQueued v.ticket = false := by
          rw [Bool.eq_false_iff]
          intro still
          obtain ⟨w, hw, same, live⟩ := isQueued_purge.mp still
          rw [h.eq_of_ticket_eq hv hw same, hit] at live
          exact Bool.noConfusion live
        simp [gone, queued, ungranted, purge_withdraw_of_hit h hv hit]
    · have gone : (s.purge cs).isQueued t = false :=
        isQueued_purge_of_not (Bool.eq_false_iff.mpr queued)
      have sameGrant : (s.purge cs).isGranted t = s.isGranted t := rfl
      by_cases granted : s.isGranted t
      · -- the unit goes back through a release of one, within the limit
        have room : (s.collect t).count.toInt + 1 ≤ int64Max :=
          fits (Bool.eq_false_iff.mpr queued) granted
        have one : ((1 : Nat) : Int) ≤ (s.collect t).limit.toInt := by
          have := cap.limit_pos
          change (1 : Int) ≤ s.limit.toInt
          omega
        have back : ((s.collect t).purge cs).releaseUnits cs 1 =
            ((s.collect t).releaseUnits cs 1).map (·.purge cs) :=
          releaseUnits_purge (h.collect t) (by unfold int64Max; omega) (by simpa using room) one
        simp only [gone, queued, sameGrant, granted, Bool.false_eq_true, if_false, if_true,
          ← collect_purge, back]
        cases (s.collect t).releaseUnits cs 1 <;> rfl
      · simp [gone, queued, sameGrant, granted]

end Handles

namespace Semaphore

namespace Session

/-- The session an eager semaphore would hold: the same handles and cancellations, with every
queued waiter whose token has fired already gone and its unit back in the count. -/
def eager (s : Session) : Session :=
  { s with sem := s.sem.purge s.cancellations }

/-- One command on an eager semaphore: cancelling a token drops the queued waiters it cancels
at once and gives their units back; every other command is the ordinary one. -/
def stepEager (s : Session) : Command → Session × Outcome Reply
  | .cancel t =>
      let cs := s.cancellations.cancel t
      ({ s with cancellations := cs, sem := s.sem.purge cs }, .done .unit)
  | c => s.step c

def replies (next : Session → Command → Session × Outcome Reply) (s : Session) :
    List Command → List (Outcome Reply)
  | [] => []
  | c :: rest => (next s c).2 :: replies next (next s c).1 rest

theorem length_replies (next : Session → Command → Session × Outcome Reply) (s : Session)
    (cmds : List Command) : (replies next s cmds).length = cmds.length := by
  induction cmds generalizing s with
  | nil => rfl
  | cons c rest ih => simp [replies, ih]

theorem replies_append (s : Session) (cmds more : List Command) :
    replies step s (cmds ++ more) = replies step s cmds ++ replies step (s.run cmds) more := by
  induction cmds generalizing s with
  | nil => rfl
  | cons c rest ih => simp [replies, run, ih]

theorem within_append {s : Session} {cmds more : List Command} :
    s.Within (cmds ++ more) ↔ s.Within cmds ∧ (s.run cmds).Within more := by
  induction cmds generalizing s with
  | nil => simp [Within, run]
  | cons c rest ih => simp [Within, run, ih, and_assoc]

theorem eager_of_create {initial limit : Nat} {metered : Bool} {s : Session}
    (made : Session.create initial limit metered = .ok s) : s.eager = s ∧ s.sem.Capped := by
  obtain ⟨i, m, checked, rfl⟩ := create_ok made
  obtain ⟨hi, hm, le, pos, -⟩ := checkCounts_ok checked
  exact ⟨by simp [eager, purge_eq_self, ofCounts], Capped.ofCounts (by omega) (by omega)⟩

theorem eager_step_of_observes {s : Session} {q : Command}
    (observes : q = .count ∨ q = .waiters) :
    (s.step q).1.eager = s.eager := by
  rcases observes with rfl | rfl <;> simp [step, eager, liveCount, liveWaiters, purge_idem]

/-- One command from the eager view of a session answers as the command from the session
itself, and leads to the eager view of where that leads. -/
theorem stepEager_eager {s : Session} {c : Command} (h : s.Coherent) (cap : s.sem.Capped)
    (fits : s.Fits c) (within : (c.units : Int) ≤ s.sem.limit.toInt) :
    s.eager.stepEager c = ((s.step c).1.eager, (s.step c).2) := by
  have wf := h.wellFormed
  cases c with
  | wait id token =>
    have taken := cap.acquire fits.1
    have formed := (acquire_moves (s := s.sem) fits.1).wellFormed wf
    simp only [stepEager, eager, step, acquire_purge wf fits.1]
    cases found : s.waits.find? id with
    | none => simp
    | some old => simp [Wait.drop_purge old formed taken (fits.2 old found)]
  | poll id =>
    cases found : s.waits.find? id with
    | none => simp [stepEager, eager, step, found]
    | some w =>
      -- the handle holds the token of its queued waiter
      have tokens : ∀ t token, w = .queued t token → ∀ v ∈ s.sem.queue, v.ticket = t →
          v.token = token := by
        rintro t token rfl v hv rfl
        exact h.tracks.token_eq (h.tracks.queued_held v hv) (Registry.mem_values_of_find? found)
      simp [stepEager, eager, step, found, Wait.poll_purge w wf tokens]
  | isReady id =>
    cases found : s.waits.find? id <;> simp [stepEager, eager, step, found]
  | drop id =>
    cases found : s.waits.find? id with
    | none => simp [stepEager, eager, step, found]
    | some w => simp [stepEager, eager, step, found, Wait.drop_purge w wf cap (fits w found)]
  | release n =>
    simp only [stepEager, eager, step, release_purge wf fits within]
    cases s.sem.release s.cancellations n <;> rfl
  | tryRelease n =>
    simp only [stepEager, eager, step, tryRelease_purge wf fits within]
    cases s.sem.tryRelease s.cancellations n <;> rfl
  | tryReset initial limit =>
    simp only [stepEager, eager, step, tryReset_purge]
    cases s.sem.tryReset s.cancellations initial limit <;> rfl
  | count => simp [stepEager, eager, step, liveCount_purge]
  | waiters => simp [stepEager, eager, step, liveWaiters_purge]
  | limit => simp [stepEager, eager, step]
  | cancel k =>
    have more : ∀ token, s.cancellations.hits token = true →
        (s.cancellations.cancel k).hits token = true :=
      fun _ hit => Cancellations.hits_cancel k hit
    simp [stepEager, eager, step, purge_purge more]

theorem replies_eager {s : Session} (reached : s.Reachable) (cap : s.sem.Capped)
    {cmds : List Command} (safe : s.Safe cmds) (within : s.Within cmds) :
    replies stepEager s.eager cmds = replies step s cmds := by
  induction cmds generalizing s with
  | nil => rfl
  | cons c rest ih =>
    -- the step is matched, and the rest of the run starts from a reachable, capped session
    have next := stepEager_eager reached.coherent cap safe.1 within.1
    have capped := step_capped reached.wellFormed cap safe.1 within.1
    simp only [replies, next, ih (reached.step safe.1) capped safe.2 within.2]

end Session

open Session

/-- Lazy removal of cancelled waiters cannot be told from eager removal on a semaphore made
fresh, in every run whose commands fit and whose releases ask for no more units than the limit
in force: every command answers as it would on a semaphore that drops a waiter the moment its
token fires. So a `count` or a `waiters` command, which purges, put anywhere into such a run
changes no other reply. -/
theorem lazy_purge_unobservable_when_releases_within {initial limit : Nat} {metered : Bool}
    {s₀ : Session} (made : Session.create initial limit metered = .ok s₀) :
    (∀ cmds, s₀.Safe cmds → s₀.Within cmds →
      replies step s₀ cmds = replies stepEager s₀ cmds) ∧
    (∀ pre post q, (q = .count ∨ q = .waiters) →
      s₀.Safe (pre ++ post) → s₀.Within (pre ++ post) →
      s₀.Safe (pre ++ q :: post) → s₀.Within (pre ++ q :: post) →
      (replies step s₀ (pre ++ q :: post)).eraseIdx pre.length =
        replies step s₀ (pre ++ post)) := by
  obtain ⟨fresh, start⟩ := eager_of_create made
  have reached : s₀.Reachable := .create made
  refine ⟨fun cmds safe within => ?_, fun pre post q observes safe within safe' within' => ?_⟩
  · rw [← replies_eager reached start safe within, fresh]
  · obtain ⟨safePre, safePost⟩ := safe_append.mp safe
    obtain ⟨-, safeRest⟩ := safe_append.mp safe'
    obtain ⟨-, withinPost⟩ := within_append.mp within
    obtain ⟨-, withinRest⟩ := within_append.mp within'
    -- the run up to the insertion point is shared by both scripts
    have midway := reached.run safePre
    have capped := capped_run reached start safePre (within_append.mp within).1
    have observed := eager_step_of_observes (s := s₀.run pre) observes
    have after :
        replies step ((s₀.run pre).step q).1 post = replies step (s₀.run pre) post := by
      rw [← replies_eager (midway.step safeRest.1)
          (step_capped midway.wellFormed capped safeRest.1 withinRest.1) safeRest.2 withinRest.2,
        observed, replies_eager midway capped safePost withinPost]
    rw [replies_append, replies_append, replies, after,
      List.eraseIdx_append_of_length_le (by rw [length_replies]), length_replies,
      Nat.sub_self, List.eraseIdx_cons_zero]

/-- Two waits on a semaphore with no free unit out of two, the first one's token cancelled, a
release of both units and a count, with a `waiters` command put in after the cancellation. -/
theorem lazy_purge_unobservable_past_cancelled_waiter :
    let s₀ : Session := { sem := ofCounts 0 2, metered := false }
    let pre := [Command.wait "a" (some ⟨"k"⟩), .wait "b" none, .cancel ⟨"k"⟩]
    let post := [Command.release 2, .count]
    Session.create 0 2 false = .ok s₀ ∧
      s₀.Safe (pre ++ post) ∧ s₀.Within (pre ++ post) ∧
      s₀.Safe (pre ++ .waiters :: post) ∧ s₀.Within (pre ++ .waiters :: post) ∧
      replies step s₀ (pre ++ post) = replies stepEager s₀ (pre ++ post) ∧
      (replies step s₀ (pre ++ .waiters :: post)).eraseIdx pre.length =
        replies step s₀ (pre ++ post) := by
  intro s₀ pre post
  have made : Session.create 0 2 false = .ok s₀ := rfl
  have safe : s₀.Safe (pre ++ post) := by
    simp [s₀, pre, post, Session.Safe, Session.Fits, Session.step, Registry.find?, Registry.put,
      Registry.putEntry, acquire, ofCounts, Cancellations.hits, Cancellations.isCancelled,
      Cancellations.cancel, Wait.ofAdmission, List.lookup, checkRelease, int64Max]
  have within : s₀.Within (pre ++ post) := by
    simp [s₀, pre, post, Session.Within, Command.units, Session.step, Registry.find?,
      Registry.put, Registry.putEntry, acquire, ofCounts, Cancellations.hits,
      Cancellations.isCancelled, Cancellations.cancel, Wait.ofAdmission, List.lookup, release,
      releaseUnits, checkRelease, int64Max, serve, bind, Except.bind]
  have safe' : s₀.Safe (pre ++ .waiters :: post) := by
    simp [s₀, pre, post, Session.Safe, Session.Fits, Session.step, Registry.find?, Registry.put,
      Registry.putEntry, acquire, ofCounts, Cancellations.hits, Cancellations.isCancelled,
      Cancellations.cancel, Wait.ofAdmission, List.lookup, checkRelease, int64Max, liveWaiters,
      purge]
  have within' : s₀.Within (pre ++ .waiters :: post) := by
    simp [s₀, pre, post, Session.Within, Command.units, Session.step, Registry.find?,
      Registry.put, Registry.putEntry, acquire, ofCounts, Cancellations.hits,
      Cancellations.isCancelled, Cancellations.cancel, Wait.ofAdmission, List.lookup, liveWaiters,
      purge, release, releaseUnits, checkRelease, int64Max, serve, bind, Except.bind]
  exact ⟨made, safe, within, safe', within',
    (lazy_purge_unobservable_when_releases_within made).1 _ safe within,
    (lazy_purge_unobservable_when_releases_within made).2 _ _ _ (.inr rfl) safe within safe'
      within'⟩

/-- One waiter queued on a semaphore with no free unit out of one, its token cancelled, then a
release of two units and a count. The lazy semaphore tests `-1 + 2 ≤ 1` and lets the release
through; serving the queue drops the cancelled waiter, and the count ends at `2`. The eager one
dropped the waiter at the cancellation, tests `0 + 2 ≤ 1` and refuses. -/
theorem release_past_cancelled_waiter_differs_from_eager :
    let s₀ : Session := { sem := ofCounts 0 1, metered := false }
    let cmds := [Command.wait "a" (some ⟨"k"⟩), .cancel ⟨"k"⟩, .release 2, .count]
    Session.create 0 1 false = .ok s₀ ∧ s₀.Safe cmds ∧
      replies step s₀ cmds =
        [.done (.admitted false), .done .unit, .done .unit, .done (.count 2)] ∧
      replies stepEager s₀ cmds =
        [.done (.admitted false), .done .unit, .failed (.capacityExceeded 0 2 1),
          .done (.count 0)] := by
  intro s₀ cmds
  have safe : s₀.Safe cmds := by
    simp [s₀, cmds, Session.Safe, Session.Fits, Session.step, Registry.find?, Registry.put,
      Registry.putEntry, acquire, ofCounts, Cancellations.hits, Cancellations.isCancelled,
      Cancellations.cancel, Wait.ofAdmission, List.lookup, checkRelease, int64Max]
  have lazy : replies step s₀ cmds =
      [.done (.admitted false), .done .unit, .done .unit, .done (.count 2)] := by
    simp only [s₀, cmds, replies]
    rfl
  have eager : replies stepEager s₀ cmds =
      [.done (.admitted false), .done .unit, .failed (.capacityExceeded 0 2 1),
        .done (.count 0)] := by
    simp only [s₀, cmds, replies]
    rfl
  exact ⟨rfl, safe, lazy, eager⟩

end Semaphore

end Sluice
