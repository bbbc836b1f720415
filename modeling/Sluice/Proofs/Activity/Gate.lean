import Mathlib
import Sluice.Activity.Basic
import Sluice.Proofs.Semaphore.Balance
/-!
# The activity's gate keeps its one unit

An activity's gate is a semaphore made with one unit and a limit of one. Whatever the calls do
to it, that unit is always in exactly one place: free at the count, granted to a queued ticket
and not yet collected, or held by the one transition that was admitted. `Semaphore.Slot s n`
says this of a gate with `n` holders; since the units the gate keeps are never negative, there
is at most one holder.

Each primitive the calls use keeps the unit: a wait takes it at once or queues without taking
it, a poll of a queued wait collects a grant or leaves the unit where it was, dropping a wait
gives back what it had, and a holder's release always passes the capacity test and returns
the unit, so the release made when a transition gives up its slot never fails.

* `Semaphore.spare` — the units no holder has.
* `Semaphore.Slot`, with `Slot.release`, `Slot.acquire`, `Slot.poll`, `Slot.drop`.
* `Activity.leave_of_slot` — giving up the slot returns the unit.
-/

namespace Sluice

namespace Semaphore

/-- The units of a semaphore that no holder has: free at the count, or granted to a queued
ticket and not collected yet. A negative count is owed to queued waiters, not spare. -/
def spare (s : Semaphore) : Int :=
  max s.count.toInt 0 + s.granted.length

/-- A gate of one unit with `held` holders: well formed, with limit one, and its unit either
spare or held. -/
structure Slot (s : Semaphore) (held : Nat) : Prop where
  wellFormed : s.WellFormed
  limit : s.limit.toInt = 1
  units : s.spare + held = 1

variable {cs : Cancellations} {s : Semaphore} {n : Nat}

theorem spare_nonneg (s : Semaphore) : 0 ≤ s.spare := by
  unfold spare
  omega

theorem Slot.held_le_one (h : Slot s n) : n ≤ 1 := by
  have units := h.units
  have := spare_nonneg s
  omega

theorem Slot.count_nonpos (h : Slot s 1) : s.count.toInt ≤ 0 ∧ s.granted = [] := by
  have units := h.units
  unfold spare at units
  refine ⟨by omega, List.eq_nil_of_length_eq_zero (by omega)⟩

/-- The queue is no longer than the tickets issued, so a count owed to the queue stays above
the least 64-bit value while fewer than `2 ^ 63` tickets have been issued. -/
theorem WellFormed.count_room (h : s.WellFormed) (few : s.nextTicket < 2 ^ 63) :
    -2 ^ 63 < s.count.toInt := by
  have sorted : (s.queue.map Waiter.ticket).Nodup := h.sorted.imp Nat.ne_of_lt
  have within : (s.queue.map Waiter.ticket).toFinset ⊆ Finset.range s.nextTicket := by
    intro t ht
    obtain ⟨w, hw, rfl⟩ := List.mem_map.mp (List.mem_toFinset.mp ht)
    exact Finset.mem_range.mpr (h.queued_lt w hw)
  have short : s.queue.length ≤ s.nextTicket := by
    have := Finset.card_le_card within
    rwa [List.toFinset_card_of_nodup sorted, List.length_map, Finset.card_range] at this
  have balanced := h.balanced
  omega

/-- A holder's release passes the capacity test, and the unit becomes spare again: free, or
granted to the first live waiter. -/
theorem Slot.release (cs : Cancellations) (h : Slot s 1) :
    ∃ g, s.releaseUnits cs 1 = .ok g ∧ Slot g 0 ∧ g.nextTicket = s.nextTicket := by
  obtain ⟨nonpos, noGrant⟩ := h.count_nonpos
  have least := Int64.le_toInt s.count
  have raised : (s.count + Int64.ofNat 1).toInt = s.count.toInt + 1 :=
    toInt_add_ofNat_exact (by omega) (by omega)
  have passes : ¬ s.limit < s.count + Int64.ofNat 1 := by
    rw [Int64.lt_iff_toInt_lt, raised, h.limit]
    omega
  cases released : s.releaseUnits cs 1 with
  | error f => exact absurd (releaseUnits_error released) passes
  | ok g =>
    have small : (1 : Nat) ≤ int64Max := by unfold int64Max; omega
    have fits : s.count.toInt + (1 : Nat) ≤ int64Max := by unfold int64Max; omega
    obtain ⟨taken, split, front, spent, count, granted, limit, next⟩ :=
      release_spec h.wellFormed released small fits
    have wf := h.wellFormed.release released small fits
    refine ⟨g, rfl, ⟨wf, by rw [limit, h.limit], ?_⟩, next⟩
    -- the served prefix is its live waiters, at most one, and its cancelled ones
    have parts := length_eq_live_add_hits cs taken
    have live : (taken.filter (Waiter.live cs)).length ≤ 1 := by
      rw [front, List.length_take]
      exact Nat.min_le_left _ _
    have whole : s.queue.length = taken.length + g.queue.length := by
      rw [split, List.length_append]
    have owed := h.wellFormed.balanced
    have left := wf.balanced
    have grantedLength : g.granted.length = (taken.filter (Waiter.live cs)).length := by
      rw [granted, noGrant, List.nil_append, List.length_map]
    unfold spare
    rw [grantedLength, count]
    by_cases empty : g.queue = []
    · rw [empty, List.length_nil] at whole
      omega
    · have one := spent empty
      have waiting := List.length_pos_of_ne_nil empty
      omega

theorem Slot.release_passes (cs : Cancellations) (h : Slot s 1) :
    ∃ g, s.release cs 1 = .ok g ∧ Slot g 0 ∧ g.nextTicket = s.nextTicket := by
  obtain ⟨g, released, slot, next⟩ := h.release cs
  refine ⟨g, ?_, slot, next⟩
  rw [Semaphore.release, released]
  rfl

/-- A wait whose token has not fired takes the spare unit at once, or queues a fresh ticket
that is neither granted nor taken from the spare units. -/
theorem Slot.acquire {token : Option Token} (h : Slot s n) (live : cs.hits token = false)
    (few : s.nextTicket < 2 ^ 63) :
    ((s.acquire cs token).2 = .settled (.ok ()) ∧ Slot (s.acquire cs token).1 (n + 1)) ∨
      ((s.acquire cs token).2 = .queued s.nextTicket ∧ Slot (s.acquire cs token).1 n ∧
        (s.acquire cs token).1.isQueued s.nextTicket = true ∧
        (s.acquire cs token).1.isGranted s.nextTicket = false) := by
  have room := h.wellFormed.count_room few
  have lowered : (s.count - 1).toInt = s.count.toInt - 1 := toInt_sub_one_exact room
  have wf := h.wellFormed.acquire live room
  have units := h.units
  unfold spare at units
  by_cases fast : 0 ≤ s.count - 1
  · -- a free unit: the wait takes it
    have free : 0 ≤ s.count.toInt - 1 := by
      rw [← lowered]
      simpa [Int64.le_iff_toInt_le] using fast
    simp only [Semaphore.acquire, live, Bool.false_eq_true, if_false, ge_iff_le, fast,
      if_true] at wf ⊢
    refine .inl ⟨by simp, wf, h.limit, ?_⟩
    unfold spare
    simp only [lowered]
    omega
  · -- no free unit: the waiter queues under the next ticket, which no grant can name
    have owed : s.count.toInt - 1 < 0 := by
      rw [← lowered]
      simpa [Int64.le_iff_toInt_le] using fast
    simp only [Semaphore.acquire, live, Bool.false_eq_true, if_false, ge_iff_le, fast] at wf ⊢
    refine .inr ⟨by simp, ⟨wf, h.limit, ?_⟩, by simp [isQueued], ?_⟩
    · unfold spare
      simp only [lowered]
      omega
    · simp only [isGranted, List.contains_eq_mem, decide_eq_false_iff_not]
      exact fun mem => Nat.lt_irrefl _ (h.wellFormed.granted_lt _ mem)

theorem Slot.withdraw {t : Nat} (h : Slot s n) (queued : s.isQueued t = true) :
    Slot (s.withdraw t) n := by
  obtain ⟨-, raised⟩ := withdraw_spec h.wellFormed queued
  have owed : s.count.toInt ≤ -1 := by
    have balanced := h.wellFormed.balanced
    obtain ⟨w, hw, -⟩ := isQueued_iff.mp queued
    have := List.length_pos_of_mem hw
    omega
  refine ⟨h.wellFormed.withdraw queued, h.limit, ?_⟩
  have units := h.units
  unfold spare at units ⊢
  rw [raised]
  exact (by simp only [Semaphore.withdraw]; omega)

theorem Slot.collect {t : Nat} (h : Slot s n) (granted : s.isGranted t = true) :
    Slot (s.collect t) (n + 1) := by
  have mem : t ∈ s.granted := isGranted_iff.mp granted
  refine ⟨h.wellFormed.collect t, h.limit, ?_⟩
  have units := h.units
  have shorter := List.length_erase_of_mem mem
  have := List.length_pos_of_mem mem
  unfold spare at units ⊢
  simp only [Semaphore.collect, shorter]
  omega

/-- Polling a queued wait either collects its grant, making the caller a holder, or leaves
the unit where it was: the wait stays pending and nothing changes, or it fails. -/
theorem Slot.poll (cs : Cancellations) (t : Nat) (token : Option Token) (h : Slot s n) :
    let r := (Wait.queued t token).poll cs s
    (r.1 = .ready (.ok ()) ∧ Slot r.2.2 (n + 1)) ∨
      ((∃ e, r.1 = .ready (.error e)) ∧ Slot r.2.2 n) ∨
      (r.1 = .pending ∧ r.2.1 = .queued t token ∧ r.2.2 = s) := by
  intro r
  simp only [r, Wait.poll]
  by_cases hit : cs.hits token
  · by_cases queued : s.isQueued t
    · simp only [hit, queued, if_true]
      exact .inr (.inl ⟨by simp, h.withdraw queued⟩)
    by_cases granted : s.isGranted t
    · simp only [hit, queued, granted, Bool.false_eq_true, if_false, if_true]
      exact .inl ⟨by simp, h.collect granted⟩
    · simp only [hit, queued, granted, Bool.false_eq_true, if_false, if_true]
      exact .inr (.inl ⟨by simp, h⟩)
  · by_cases granted : s.isGranted t
    · simp only [hit, granted, Bool.false_eq_true, if_false, if_true]
      exact .inl ⟨by simp, h.collect granted⟩
    by_cases queued : s.isQueued t
    · simp only [hit, queued, granted, Bool.false_eq_true, if_false, if_true]
      exact .inr (.inr ⟨by simp, by simp, by simp⟩)
    · simp only [hit, queued, granted, Bool.false_eq_true, if_false]
      exact .inr (.inl ⟨by simp, h⟩)

/-- Dropping a wait gives back what it had: a queued ticket is withdrawn, and a grant not yet
collected is collected and released again, a release that cannot fail. -/
theorem Slot.drop {w : Wait} (h : Slot s n) : Slot (w.drop cs s) n := by
  cases w with
  | ready r => exact h
  | queued t token =>
    simp only [Wait.drop]
    by_cases queued : s.isQueued t
    · simp only [queued, if_true]
      exact h.withdraw queued
    by_cases granted : s.isGranted t
    · -- the grant is the spare unit, so there was no holder and the collector is the only one
      have collected := h.collect granted
      have alone : n = 0 := by
        have := collected.held_le_one
        omega
      subst alone
      obtain ⟨g, released, back, -⟩ := collected.release cs
      simp only [queued, granted, Bool.false_eq_true, if_false, if_true, released]
      exact back
    · simp only [queued, granted, Bool.false_eq_true, if_false]
      exact h

theorem nextTicket_poll (cs : Cancellations) (s : Semaphore) (t : Nat) (token : Option Token) :
    ((Wait.queued t token).poll cs s).2.2.nextTicket = s.nextTicket := by
  simp only [Wait.poll]
  split_ifs <;> rfl

theorem nextTicket_drop {w : Wait} : (w.drop cs s).nextTicket = s.nextTicket := by
  cases w with
  | ready r => rfl
  | queued t token =>
    simp only [Wait.drop]
    split_ifs
    · rfl
    · split
      · rename_i g released
        obtain ⟨-, rfl⟩ := releaseUnits_ok released
        split
        · rfl
        · obtain ⟨taken, rest, -, -, -, served⟩ := serve_spec cs
            { s.collect t with count := (s.collect t).count + Int64.ofNat 1 } (s.collect t).queue 1
          rw [served]
          rfl
      · rfl
    · rfl

end Semaphore

namespace Activity

variable {cs : Cancellations} {a : Activity}

/-- Giving up the slot returns the unit: the holder's release passes, and the gate is left
with its unit spare. -/
theorem leave_of_slot (cs : Cancellations) (h : a.gate.Slot 1) :
    ∃ g, (leave cs a).gate = g ∧ g.Slot 0 ∧ g.nextTicket = a.gate.nextTicket := by
  obtain ⟨g, checked, slot, next⟩ := h.release_passes cs
  refine ⟨g, ?_, slot, next⟩
  simp only [leave, checked]

@[simp]
theorem leave_disposed : (leave cs a).disposed = a.disposed := rfl

theorem leave_phase_of_busy (busy : a.phase = .starting ∨ a.phase = .stopping) :
    (leave cs a).phase = .stopped := by
  rcases busy with p | p <;> simp only [leave, p]

theorem leave_phase_of_idle (notStarting : a.phase ≠ .starting)
    (notStopping : a.phase ≠ .stopping) : (leave cs a).phase = a.phase := by
  cases p : a.phase <;> simp_all [leave]

end Activity

end Sluice
