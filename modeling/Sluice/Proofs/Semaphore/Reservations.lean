import Mathlib
import Sluice.Proofs.Semaphore.Conservation
import Sluice.Proofs.Semaphore.Race
/-!
# Where a reservation goes

A wait that finds no free unit takes one all the same: the count goes below zero and the
waiter is queued, owed the unit it reserved. The reservation ends in one of two ways. A release
grants the waiter a unit out of its budget, and the count does not move for it. Or the waiter
leaves the queue without a grant (its own handle withdraws it, a release passes over it, a
purge takes it) and the unit it reserved goes back to the count.

`Semaphore.restored s s'` lists the waiters that left the queue between two states without a
grant. Every operation changes the count by the units it brings in, less the unit a wait
reserves, plus one for each waiter it restores; so does every command but a reset, which sets
new counts (`Session.step_count`).

For one ticket, a ticket leaves the queue once and never comes back, so its reservation is
given back at most once: at the command that takes it out of the queue, unless that command
grants it. For a wait queued with a token this completes the race of the cancellation against
a grant (`cancel_and_grant_have_one_winner`): whichever the handle answers, its reservation
went back once if the answer is a cancellation and never if it is success.

* `Semaphore.restored`; the count law of each operation: `count_withdraw`, `count_purge`,
  `count_release`, `count_acquire`, and `restored_of_kept` for those that keep the queue.
* `Wait.handsBack`, `Wait.drop_count`, `Wait.poll_count`.
* `Session.reserved`, `Session.handedBack`, `Session.step_count`.
* `Session.restoring`, `Session.total_restoring_spared`, `Session.restoring_poll`.
* `OneWinner`, `cancel_and_grant_have_one_winner`.
-/

namespace Sluice

namespace Semaphore

/-- The waiters of `s` that are, in `s'`, neither queued nor granted: they left the queue
without a grant. -/
def restored (s s' : Semaphore) : List Waiter :=
  s.queue.filter fun w => !s'.isQueued w.ticket && !s'.isGranted w.ticket

variable {cs : Cancellations} {s : Semaphore}

theorem mem_restored {s' : Semaphore} {w : Waiter} :
    w ∈ restored s s' ↔
      w ∈ s.queue ∧ s'.isQueued w.ticket = false ∧ s'.isGranted w.ticket = false := by
  simp [restored]

theorem restored_of_kept {s' : Semaphore} (kept : ∀ w ∈ s.queue, s'.isQueued w.ticket = true) :
    restored s s' = [] :=
  List.filter_eq_nil_iff.mpr fun w hw => by simp [kept w hw]

theorem restored_self : restored s s = [] :=
  restored_of_kept fun w hw => isQueued_iff.mpr ⟨w, hw, rfl⟩

theorem ticket_mem_filter_iff {q : List Waiter} (distinct : (q.map Waiter.ticket).Nodup)
    (p : Waiter → Bool) {w : Waiter} (hw : w ∈ q) :
    (∃ v ∈ q.filter p, v.ticket = w.ticket) ↔ p w = true := by
  constructor
  · rintro ⟨v, hv, same⟩
    rcases List.mem_filter.mp hv with ⟨queued, kept⟩
    rwa [List.inj_on_of_nodup_map distinct queued hw same] at kept
  · intro kept
    exact ⟨w, List.mem_filter.mpr ⟨hw, kept⟩, rfl⟩

theorem WellFormed.distinct (h : s.WellFormed) : (s.queue.map Waiter.ticket).Nodup :=
  h.sorted.imp Nat.ne_of_lt

theorem WellFormed.ungranted (h : s.WellFormed) {w : Waiter} (hw : w ∈ s.queue) :
    s.isGranted w.ticket = false :=
  Bool.eq_false_iff.mpr fun g => by
    have := h.granted_before _ (isGranted_iff.mp g) w hw
    omega

theorem restored_append_kept {s₁ s' : Semaphore} {w : Waiter} (queue : s₁.queue = s.queue ++ [w])
    (kept : s'.isQueued w.ticket = true ∨ s'.isGranted w.ticket = true) :
    restored s₁ s' = restored s s' := by
  unfold restored
  rw [queue, List.filter_append]
  rcases kept with kept | kept <;> simp [kept]

section Operations

variable (h : s.WellFormed)
include h

theorem restored_withdraw (t : Nat) :
    restored s (s.withdraw t) = s.queue.filter fun w => w.ticket == t := by
  refine List.filter_congr fun w hw => ?_
  have stays : (s.withdraw t).isQueued w.ticket = (w.ticket != t) := by
    rw [Bool.eq_iff_iff, isQueued_iff]
    exact ticket_mem_filter_iff h.distinct _ hw
  have ungranted : (s.withdraw t).isGranted w.ticket = false := h.ungranted hw
  rw [stays, ungranted]
  simp [bne]

/-- Withdrawing a queued ticket restores its waiter and nobody else. -/
theorem count_withdraw {t : Nat} (queued : s.isQueued t = true) :
    (s.withdraw t).count.toInt = s.count.toInt + (restored s (s.withdraw t)).length := by
  rcases withdraw_spec h queued with ⟨shorter, raised⟩
  have parts := List.length_eq_length_filter_add (l := s.queue) (fun w => w.ticket == t)
  have others : (s.queue.filter fun w => !(w.ticket == t)).length =
      (s.withdraw t).queue.length := rfl
  rw [raised, restored_withdraw h]
  omega

theorem restored_purge : restored s (s.purge cs) = s.queue.filter fun w => cs.hits w.token := by
  refine List.filter_congr fun w hw => ?_
  have stays : (s.purge cs).isQueued w.ticket = !cs.hits w.token := by
    rw [Bool.eq_iff_iff, isQueued_iff]
    exact ticket_mem_filter_iff h.distinct _ hw
  have ungranted : (s.purge cs).isGranted w.ticket = false := h.ungranted hw
  rw [stays, ungranted]
  simp

/-- A purge restores exactly the waiters whose token fired. -/
theorem count_purge :
    (s.purge cs).count.toInt = s.count.toInt + (restored s (s.purge cs)).length := by
  rw [(purge_spec h cs).2, restored_purge h]

/-- A release restores the cancelled waiters it passes over, on top of its own units. -/
theorem count_release {s' : Semaphore} {n : Nat} (ok : s.releaseUnits cs n = .ok s')
    (small : n ≤ int64Max) (fits : s.count.toInt + n ≤ int64Max) :
    s'.count.toInt = s.count.toInt + n + (restored s s').length := by
  obtain ⟨taken, split, -, -, count, granted, -, -⟩ := release_spec h ok small fits
  have distinct := h.distinct
  rw [split, List.map_append] at distinct
  -- the waiters left in the queue stay; a served one is granted exactly when it is live
  have rest : ∀ w ∈ s'.queue, s'.isQueued w.ticket = true :=
    fun w hw => isQueued_iff.mpr ⟨w, hw, rfl⟩
  have served : ∀ w ∈ taken,
      (!s'.isQueued w.ticket && !s'.isGranted w.ticket) = cs.hits w.token := by
    intro w hw
    have gone : s'.isQueued w.ticket = false := Bool.eq_false_iff.mpr fun queued => by
      obtain ⟨v, hv, same⟩ := isQueued_iff.mp queued
      exact (List.nodup_append.mp distinct).2.2 _ (List.mem_map_of_mem hw) _
        (List.mem_map_of_mem hv) same.symm
    have old : s.isGranted w.ticket = false := h.ungranted (split ▸ List.mem_append_left _ hw)
    have fresh := ticket_mem_filter_iff (List.nodup_append.mp distinct).1 (Waiter.live cs) hw
    have grantedNow : s'.isGranted w.ticket = Waiter.live cs w := by
      rw [Bool.eq_iff_iff, isGranted_iff, granted, List.mem_append, List.mem_map, ← fresh]
      constructor
      · rintro (g | ⟨v, hv, same⟩)
        · rw [isGranted_iff.mpr g] at old
          cases old
        · exact ⟨v, hv, same⟩
      · rintro ⟨v, hv, same⟩
        exact .inr ⟨v, hv, same⟩
    rw [gone, grantedNow]
    simp [Waiter.live]
  have filtered : restored s s' = taken.filter fun w => cs.hits w.token := by
    have left : s'.queue.filter (fun w => !s'.isQueued w.ticket && !s'.isGranted w.ticket) = [] :=
      List.filter_eq_nil_iff.mpr fun w hw => by simp [rest w hw]
    unfold restored
    rw [split, List.filter_append, List.filter_congr served, left, List.append_nil]
  rw [count, filtered, ← List.countP_eq_length_filter]

end Operations

/-- A wait reserves one unit, unless its token has already fired, and restores nobody. -/
theorem count_acquire {token : Option Token}
    (room : cs.hits token = false → -2 ^ 63 < s.count.toInt) :
    (s.acquire cs token).1.count.toInt + (!cs.hits token).toNat = s.count.toInt ∧
      restored s (s.acquire cs token).1 = [] := by
  refine ⟨?_, restored_of_kept fun w hw => isQueued_iff.mpr ⟨w, ?_, rfl⟩⟩
  · unfold acquire
    by_cases hit : cs.hits token
    · simp [hit]
    have lowered := toInt_sub_one_exact (room (Bool.eq_false_iff.mpr hit))
    by_cases fast : 0 ≤ s.count - 1 <;> simp [hit, fast, lowered]
  · rcases (acquire_spec cs s token).2.2 with ⟨same, -⟩ | ⟨more, -⟩
    · rwa [same]
    · rw [more]
      exact List.mem_append_left _ hw

theorem restored_collect (t : Nat) : restored s (s.collect t) = [] :=
  restored_of_kept fun w hw => isQueued_iff.mpr ⟨w, hw, rfl⟩

end Semaphore

/-- The unit a dropped handle hands back: a grant its ticket has not collected goes back
through a one-unit release, when the limit lets it. -/
def Wait.handsBack (cs : Cancellations) (w : Wait) (s : Semaphore) : Nat :=
  match w with
  | .queued t _ =>
      if !s.isQueued t && s.isGranted t then
        match (s.collect t).releaseUnits cs 1 with
        | .ok _ => 1
        | .error _ => 0
      else 0
  | .ready _ => 0

open Semaphore in
/-- Dropping a handle changes the count by the unit it hands back and one for each waiter it
restores: its own, when still queued, or those a hand-back passes over. -/
theorem Wait.drop_count (cs : Cancellations) {s : Semaphore} {w : Wait} (h : s.WellFormed)
    (fits : w.DropFits s) :
    (w.drop cs s).count.toInt =
      s.count.toInt + w.handsBack cs s + (restored s (w.drop cs s)).length := by
  cases w with
  | ready r => simp [Wait.drop, Wait.handsBack, restored_self]
  | queued t token =>
    by_cases queued : s.isQueued t
    · simp only [Wait.drop, Wait.handsBack, queued, if_true, Bool.not_true, Bool.false_and,
        Bool.false_eq_true, if_false, Nat.cast_zero, add_zero]
      exact count_withdraw h queued
    by_cases granted : s.isGranted t
    · have room : (s.collect t).count.toInt + 1 ≤ int64Max :=
        fits (Bool.eq_false_iff.mpr queued) granted
      simp only [Wait.drop, Wait.handsBack, queued, granted, Bool.false_eq_true, if_false,
        if_true, Bool.not_false, Bool.and_self]
      cases back : (s.collect t).releaseUnits cs 1 with
      | error f =>
        rw [restored_collect]
        simp [collect]
      | ok s' =>
        -- collecting leaves the queue, so the release restores what the whole drop restores
        have law := count_release (h.collect t) back (by unfold int64Max; omega) room
        simp only [Nat.cast_one]
        exact law
    · simp [Wait.drop, Wait.handsBack, queued, granted, restored_self]

open Semaphore in
theorem Wait.poll_count (cs : Cancellations) {s : Semaphore} (w : Wait) (h : s.WellFormed) :
    (w.poll cs s).2.2.count.toInt = s.count.toInt + (restored s (w.poll cs s).2.2).length := by
  -- a poll withdraws a queued ticket, collects a grant, or leaves the semaphore alone
  have collected (t : Nat) :
      (s.collect t).count.toInt = s.count.toInt + (restored s (s.collect t)).length := by
    rw [restored_collect]
    simp [collect]
  cases w with
  | ready r => cases r <;> simp [Wait.poll, restored_self]
  | queued t token =>
    simp only [Wait.poll]
    by_cases hit : cs.hits token
    · by_cases queued : s.isQueued t
      · simpa [hit, queued] using count_withdraw h queued
      · by_cases granted : s.isGranted t
        · simpa [hit, queued, granted] using collected t
        · simp [hit, queued, granted, restored_self]
    · by_cases granted : s.isGranted t
      · simpa [hit, granted] using collected t
      · by_cases queued : s.isQueued t <;> simp [hit, queued, granted, restored_self]

namespace Semaphore.Session

/-- The unit a command reserves: one for a wait whose token has not fired. -/
def reserved (s : Session) : Command → Nat
  | .wait _ token => (!s.cancellations.hits token).toNat
  | _ => 0

/-- The unit a command hands back by dropping a handle, or replacing it with a new wait, whose
ticket holds a grant not yet collected. -/
def handedBack (s : Session) : Command → Nat
  | .wait id token =>
      match s.waits.find? id with
      | some old => old.handsBack s.cancellations (s.sem.acquire s.cancellations token).1
      | none => 0
  | .drop id =>
      match s.waits.find? id with
      | some w => w.handsBack s.cancellations s.sem
      | none => 0
  | _ => 0

/-- A new wait's waiter is still queued or granted once the old handle of its name is
dropped: that drop withdraws another ticket or serves the queue, and the new waiter's token
has not fired. -/
theorem acquire_kept_by_drop {s : Session} (h : s.Coherent) {id : String} {token : Option Token}
    {old : Wait} (found : s.waits.find? id = some old)
    (queue : (s.sem.acquire s.cancellations token).1.queue =
      s.sem.queue ++ [⟨s.sem.nextTicket, token⟩]) :
    (old.drop s.cancellations (s.sem.acquire s.cancellations token).1).isQueued
        s.sem.nextTicket = true ∨
      (old.drop s.cancellations (s.sem.acquire s.cancellations token).1).isGranted
        s.sem.nextTicket = true := by
  have live : s.cancellations.hits token = false := by
    by_contra hit
    rw [acquire_of_hits (Bool.not_eq_false _ ▸ hit)] at queue
    simpa using congrArg List.length queue
  -- the old handle's ticket was issued before the new one
  have other : old.ticket? ≠ some s.sem.nextTicket := by
    cases old with
    | ready r => simp [Wait.ticket?]
    | queued u tok =>
      have := h.tracks.tickets_lt u tok (Registry.mem_values_of_find? found)
      simp only [Wait.ticket?, ne_eq, Option.some.injEq]
      omega
  have tokenOf : ∀ v ∈ (s.sem.acquire s.cancellations token).1.queue,
      v.ticket = s.sem.nextTicket → v.token = token := by
    intro v hv same
    rw [queue] at hv
    rcases List.mem_append.mp hv with old | new
    · have := h.wellFormed.queued_lt v old
      omega
    · rw [List.mem_singleton.mp new]
  have keeps := @Wait.drop_keeps s.cancellations _ _ _ old other tokenOf
  have notGranted : s.sem.nextTicket ∉ (s.sem.acquire s.cancellations token).1.granted := by
    rw [(acquire_spec _ _ _).1]
    exact fun g => absurd (h.wellFormed.granted_lt _ g) (lt_irrefl _)
  rcases keeps.queued ⟨_, queue ▸ List.mem_append_right _ (List.mem_singleton_self _), rfl⟩
      notGranted with ⟨queued, -⟩ | ⟨granted, -⟩ | ⟨-, -, fired⟩
  · exact .inl (isQueued_iff.mpr queued)
  · exact .inr (isGranted_iff.mpr granted)
  · rw [live] at fired
    cases fired

/-- The count law of a command other than a reset: the count after it, with the unit it
reserves, is the count before it, with the units it released or handed back and one for each
waiter it restored. -/
theorem step_count {s : Session} {c : Command} (h : s.Coherent) (fits : s.Fits c)
    (keeps : ∀ i m, c ≠ .tryReset i m) :
    (s.step c).1.sem.count.toInt + s.reserved c =
      s.sem.count.toInt + s.released c + s.handedBack c +
        (restored s.sem (s.step c).1.sem).length := by
  cases c with
  | wait id token =>
    obtain ⟨lowered, none⟩ := count_acquire (s := s.sem) fits.1
    cases found : s.waits.find? id with
    | none =>
      simp only [Session.step, found, reserved, released, handedBack, none, List.length_nil]
      push_cast
      omega
    | some old =>
      have wf := (acquire_moves fits.1).wellFormed h.wellFormed
      have dropped := Wait.drop_count s.cancellations wf (fits.2 old found)
      -- the new waiter, if queued, is not among those the drop restores
      have same : restored (s.sem.acquire s.cancellations token).1
          (old.drop s.cancellations (s.sem.acquire s.cancellations token).1) =
          restored s.sem (old.drop s.cancellations (s.sem.acquire s.cancellations token).1) := by
        rcases (acquire_spec s.cancellations s.sem token).2.2 with ⟨queue, -⟩ | ⟨queue, -⟩
        · unfold restored
          rw [queue]
        · exact restored_append_kept queue (acquire_kept_by_drop h found queue)
      simp only [Session.step, found, reserved, released, handedBack]
      rw [← same]
      push_cast
      omega
  | poll id =>
    cases found : s.waits.find? id with
    | none => simp [Session.step, found, reserved, released, handedBack, restored_self]
    | some w =>
      rw [step_poll_of_find? found]
      have law := Wait.poll_count s.cancellations w h.wellFormed
      simp only [reserved, released, handedBack, Nat.cast_zero, add_zero]
      exact law
  | isReady id =>
    cases found : s.waits.find? id <;>
      simp [Session.step, found, reserved, released, handedBack, restored_self]
  | drop id =>
    cases found : s.waits.find? id with
    | none => simp [Session.step, found, reserved, released, handedBack, restored_self]
    | some w =>
      have law := Wait.drop_count s.cancellations h.wellFormed (fits w found)
      simp only [Session.step, found, reserved, released, handedBack, Nat.cast_zero, add_zero]
      exact law
  | release n =>
    rcases step_release_cases s n with ⟨f, failed⟩ | ⟨s', checked, ok, passed⟩
    · simp [reserved, released, handedBack, failed, restored_self]
    · have law := count_release h.wellFormed ok (checkRelease_ok checked).2 (fits checked)
      simp only [reserved, released, handedBack, passed, Nat.cast_zero, add_zero]
      exact law
  | tryRelease n =>
    rcases step_tryRelease_cases s n with ⟨f, same⟩ | same | ⟨s', checked, ok, passed⟩
    · simp [reserved, released, handedBack, same, restored_self]
    · simp [reserved, released, handedBack, same, restored_self]
    · have law := count_release h.wellFormed ok (checkRelease_ok checked).2 (fits checked)
      simp only [reserved, released, handedBack, passed, Nat.cast_zero, add_zero]
      exact law
  | tryReset initial limit => exact absurd rfl (keeps initial limit)
  | count =>
    simp only [Session.step, liveCount, reserved, released, handedBack, Nat.cast_zero, add_zero]
    exact count_purge h.wellFormed
  | waiters =>
    simp only [Session.step, liveWaiters, reserved, released, handedBack, Nat.cast_zero,
      add_zero]
    exact count_purge h.wellFormed
  | limit => simp [Session.step, reserved, released, handedBack, restored_self]
  | cancel k => simp [Session.step, reserved, released, handedBack, restored_self]

/-! ## The reservation of one ticket -/

/-- One when the command gave the reservation of ticket `t` back, zero otherwise. -/
def restoring (t : Nat) (s : Session) (c : Command) : Nat :=
  if t ∈ (restored s.sem (s.step c).1.sem).map Waiter.ticket then 1 else 0

/-- A command gives the reservation of `t` back when `t` was queued before it and is neither
queued nor granted after it. -/
theorem restoring_eq {t : Nat} {s : Session} {c : Command} :
    restoring t s c =
      if (∃ w ∈ s.sem.queue, w.ticket = t) ∧ (∀ w ∈ (s.step c).1.sem.queue, w.ticket ≠ t) ∧
        t ∉ (s.step c).1.sem.granted then 1 else 0 := by
  have iff : t ∈ (restored s.sem (s.step c).1.sem).map Waiter.ticket ↔
      (∃ w ∈ s.sem.queue, w.ticket = t) ∧ (∀ w ∈ (s.step c).1.sem.queue, w.ticket ≠ t) ∧
        t ∉ (s.step c).1.sem.granted := by
    simp only [List.mem_map, mem_restored, Bool.eq_false_iff, ne_eq, isQueued_iff,
      isGranted_iff]
    constructor
    · rintro ⟨w, ⟨hw, out, notGranted⟩, rfl⟩
      exact ⟨⟨w, hw, rfl⟩, fun v hv same => out ⟨v, hv, same⟩, notGranted⟩
    · rintro ⟨⟨w, hw, rfl⟩, out, notGranted⟩
      refine ⟨w, ⟨hw, ?_, notGranted⟩, rfl⟩
      rintro ⟨v, hv, same⟩
      exact out v hv same
  simp only [restoring, iff]

variable {s : Session} {id : String} {t : Nat} {token : Option Token}

/-- Over a run that spares the handle of ticket `t`, a grant of `t` stays, and so does `t`
being out of the queue without a grant. -/
theorem keeps_run (reached : s.Reachable) (found : s.waits.find? id = some (.queued t token))
    {cmds : List Command} (safe : s.Safe cmds) (spares : ∀ c ∈ cmds, Spares id c) :
    (t ∈ s.sem.granted → t ∈ (s.run cmds).sem.granted) ∧
      ((∀ w ∈ s.sem.queue, w.ticket ≠ t) → t ∉ s.sem.granted →
        (∀ w ∈ (s.run cmds).sem.queue, w.ticket ≠ t) ∧ t ∉ (s.run cmds).sem.granted) := by
  induction cmds generalizing s with
  | nil => exact ⟨fun g => g, fun out notGranted => ⟨out, notGranted⟩⟩
  | cons c rest ih =>
    have keeps := step_keeps reached.coherent safe.1 found (spares c List.mem_cons_self)
    obtain ⟨granted, out⟩ := ih (reached.step safe.1) ((find?_step (spares c List.mem_cons_self)).trans found)
      safe.2 fun c' mem => spares c' (List.mem_cons_of_mem _ mem)
    refine ⟨fun g => granted (keeps.granted g), fun gone notGranted => ?_⟩
    obtain ⟨gone', notGranted'⟩ := keeps.out gone notGranted
    exact out gone' notGranted'

theorem total_restoring_of_dequeued (d : Dequeued t s.sem) {cmds : List Command}
    (safe : s.Safe cmds) : total (restoring t) s cmds = 0 := by
  induction cmds generalizing s with
  | nil => rfl
  | cons c rest ih =>
    have none : restoring t s c = 0 := by
      rw [restoring_eq, if_neg]
      rintro ⟨⟨w, hw, same⟩, -⟩
      exact d.gone w hw same
    simp only [total, none, ih (d.step safe.1) safe.2]

/-- Over a run that spares the handle of ticket `t`, the reservation of `t` is given back once
if `t` went from the queue to neither the queue nor the grants, and never otherwise. -/
theorem total_restoring_spared (reached : s.Reachable)
    (found : s.waits.find? id = some (.queued t token)) {cmds : List Command}
    (safe : s.Safe cmds) (spares : ∀ c ∈ cmds, Spares id c) :
    total (restoring t) s cmds =
      if (∃ w ∈ s.sem.queue, w.ticket = t) ∧ (∀ w ∈ (s.run cmds).sem.queue, w.ticket ≠ t) ∧
        t ∉ (s.run cmds).sem.granted then 1 else 0 := by
  induction cmds generalizing s with
  | nil =>
    rw [if_neg]
    · rfl
    rintro ⟨⟨w, hw, same⟩, out, -⟩
    exact out w hw same
  | cons c rest ih =>
    have h := reached.coherent
    have spared := spares c List.mem_cons_self
    have found' := (find?_step spared).trans found
    have reached' := reached.step safe.1
    have ih' := ih reached' found' safe.2 fun c' mem => spares c' (List.mem_cons_of_mem _ mem)
    have issued := h.tracks.tickets_lt t token (Registry.mem_values_of_find? found)
    simp only [total]
    rw [ih', restoring_eq]
    -- split on where `t` is before the command and just after it
    by_cases queued : ∃ w ∈ s.sem.queue, w.ticket = t
    · by_cases queued' : ∃ w ∈ (s.step c).1.sem.queue, w.ticket = t
      · -- still queued: this command gives nothing back
        rw [if_neg (show ¬ (_ ∧ (∀ w ∈ (s.step c).1.sem.queue, w.ticket ≠ t) ∧ _) from
          fun hc => by obtain ⟨w, hw, same⟩ := queued'; exact hc.2.1 w hw same)]
        simp only [queued, queued', true_and, zero_add]
        rfl
      · have out' : ∀ w ∈ (s.step c).1.sem.queue, w.ticket ≠ t :=
          fun w hw same => queued' ⟨w, hw, same⟩
        obtain ⟨granted, stays⟩ := keeps_run reached' found' safe.2
          fun c' mem => spares c' (List.mem_cons_of_mem _ mem)
        rw [if_neg (show ¬ ((∃ w ∈ (s.step c).1.sem.queue, w.ticket = t) ∧ _) from
          fun hc => queued' hc.1)]
        by_cases g : t ∈ (s.step c).1.sem.granted
        · -- granted by this command: its reservation is never given back
          have kept : ¬ ((∃ w ∈ s.sem.queue, w.ticket = t) ∧
              (∀ w ∈ (s.run (c :: rest)).sem.queue, w.ticket ≠ t) ∧
              t ∉ (s.run (c :: rest)).sem.granted) := fun hc => hc.2.2 (granted g)
          rw [if_neg (show ¬ (_ ∧ _ ∧ t ∉ (s.step c).1.sem.granted) from fun hc => hc.2.2 g),
            if_neg kept]
        · rw [if_pos ⟨queued, out', g⟩, if_pos ⟨queued, stays out' g⟩]
    · have d' : Dequeued t (s.step c).1.sem :=
        Dequeued.step ⟨issued, fun w hw same => queued ⟨w, hw, same⟩⟩ safe.1
      rw [if_neg (show ¬ ((∃ w ∈ (s.step c).1.sem.queue, w.ticket = t) ∧ _) from
          fun hc => by obtain ⟨w, hw, same⟩ := hc.1; exact d'.gone w hw same),
        if_neg (show ¬ ((∃ w ∈ s.sem.queue, w.ticket = t) ∧ _) from fun hc => queued hc.1),
        if_neg (show ¬ ((∃ w ∈ s.sem.queue, w.ticket = t) ∧ _) from fun hc => queued hc.1)]

theorem dequeued_poll (h : s.Coherent) (found : s.waits.find? id = some (.queued t token))
    (decided : (s.verdict t token).isSome) : Dequeued t (s.step (.poll id)).1.sem := by
  have issued := h.tracks.tickets_lt t token (Registry.mem_values_of_find? found)
  rw [step_poll_of_find? found]
  simp only [verdict] at decided
  -- a ticket is never both queued and granted
  have apart : s.sem.isQueued t = true → s.sem.isGranted t = true → False := fun queued granted => by
    obtain ⟨w, hw, same⟩ := isQueued_iff.mp queued
    rw [← same, h.wellFormed.ungranted hw] at granted
    cases granted
  simp only [Wait.poll]
  by_cases hit : s.cancellations.hits token <;> by_cases queued : s.sem.isQueued t <;>
    by_cases granted : s.sem.isGranted t <;>
    simp only [hit, queued, granted, Bool.false_eq_true, if_true, if_false, Bool.not_true,
      Bool.not_false, Bool.and_true, Bool.and_false, Option.isSome_none] at decided ⊢
  all_goals first
    | exact ⟨issued, fun w hw same => by simp [withdraw, same] at hw⟩
    | exact ⟨issued, fun w hw same => queued (isQueued_iff.mpr ⟨w, hw, same⟩)⟩
    | exact (apart queued granted).elim

/-- A poll that answers a queued handle's verdict gives its reservation back exactly when the
ticket was still queued: its token fired, and the poll withdraws it. -/
theorem restoring_poll (h : s.Coherent) (found : s.waits.find? id = some (.queued t token))
    (decided : (s.verdict t token).isSome) :
    restoring t s (.poll id) = if ∃ w ∈ s.sem.queue, w.ticket = t then 1 else 0 := by
  rw [restoring_eq]
  by_cases queued : ∃ w ∈ s.sem.queue, w.ticket = t
  · obtain ⟨w, hw, same⟩ := queued
    have notGranted : s.sem.isGranted t = false := same ▸ h.wellFormed.ungranted hw
    -- a decided verdict on a queued ticket means its token fired
    have hit : s.cancellations.hits token = true := by
      by_contra live
      simp [verdict, notGranted, isQueued_iff.mpr ⟨w, hw, same⟩, live] at decided
    have polled : (s.step (.poll id)).1.sem = s.sem.withdraw t := by
      rw [step_poll_of_find? found]
      simp [Wait.poll, hit, isQueued_iff.mpr ⟨w, hw, same⟩]
    have out : ∀ v ∈ (s.sem.withdraw t).queue, v.ticket ≠ t := fun v hv same' => by
      simp [withdraw, same'] at hv
    have ungranted : t ∉ (s.sem.withdraw t).granted := fun g => by
      have granted : s.sem.isGranted t = true := isGranted_iff.mpr g
      rw [granted] at notGranted
      cases notGranted
    rw [polled, if_pos ⟨⟨w, hw, same⟩, out, ungranted⟩, if_pos ⟨w, hw, same⟩]
  · rw [if_neg queued, if_neg fun c => queued c.1]

/-- Over a run that spares the handle of a queued ticket `t` up to the poll that answers its
verdict `r`, and anything after that poll, the reservation of `t` goes back once when `r` is a
cancellation and never when it is a grant. -/
theorem total_restoring_answered (reached : s.Reachable)
    (found : s.waits.find? id = some (.queued t token)) (queued : ∃ w ∈ s.sem.queue, w.ticket = t)
    {cmds more : List Command} {r : Except Fault Unit} (safe : s.Safe (cmds ++ .poll id :: more))
    (spares : ∀ c ∈ cmds, Spares id c) (decided : (s.run cmds).verdict t token = some r) :
    total (restoring t) s (cmds ++ .poll id :: more) = if r = .ok () then 0 else 1 := by
  rcases safe_append.mp safe with ⟨safeCmds, safePoll⟩
  obtain ⟨found₁, -, -⟩ := verdict_run reached found safeCmds spares
  have h₁ := (reached.run safeCmds).coherent
  have isSome : ((s.run cmds).verdict t token).isSome := by rw [decided]; rfl
  -- the run up to the answering poll, the poll, and what follows it
  rw [total_append]
  simp only [total]
  rw [total_restoring_spared reached found safeCmds spares, restoring_poll h₁ found₁ isSome,
    total_restoring_of_dequeued (dequeued_poll h₁ found₁ isSome) safePoll.2]
  rcases @verdict_cases (s.run cmds) t token with open_ | ok | cancelled
  · rw [open_] at decided
    cases decided
  · -- granted: the ticket left the queue for the grants, and nothing was restored
    rw [ok] at decided
    cases decided
    have granted := verdict_ok.mp ok
    have notQueued : ¬ ∃ w ∈ (s.run cmds).sem.queue, w.ticket = t := by
      rintro ⟨w, hw, same⟩
      have := h₁.wellFormed.ungranted hw
      rw [same, isGranted_iff.mpr granted] at this
      cases this
    simp [notQueued, granted]
  · rw [cancelled] at decided
    cases decided
    obtain ⟨notGranted, -⟩ := verdict_cancelled.mp cancelled
    -- restored before the poll if already out of the queue, else by the poll itself
    by_cases queued₁ : ∃ w ∈ (s.run cmds).sem.queue, w.ticket = t
    · have stays : ¬ ∀ w ∈ (s.run cmds).sem.queue, w.ticket ≠ t :=
        fun out => by obtain ⟨w, hw, same⟩ := queued₁; exact out w hw same
      simp [queued₁, stays]
    · simp [queued, queued₁, notGranted]

end Semaphore.Session

namespace Semaphore

/-- What a wait queued under ticket `t` with token `k`, its handle kept under the name `id`,
comes to over every run from `s`, whoever notices the cancellation first.

Polling the handle answers its verdict: pending, changing nothing, while there is none, and
then the handle is settled and every later poll is an internal fault. Over a run that spares the
handle a verdict once reached is kept, and an open one is reached by a single command: a grant
made while `k` is live, or the cancellation of `k`. Once `k` fired without a grant, `t` is never
granted, and once out of the queue it never returns. Every command but a reset changes the
count by the units it releases or hands back, less the unit a wait reserves, plus one for each
waiter it restores; and the reservation of `t` is restored exactly once when the handle answers
a cancellation, and never when it answers success. -/
structure OneWinner (s : Session) (id : String) (t : Nat) (k : Token) : Prop where
  answers : (s.step (.poll id)).2 = Session.answer (s.verdict t (some k))
  pendingWhileOpen : s.verdict t (some k) = none → s.step (.poll id) = (s, .pending)
  settles : (s.step (.poll id)).1.waits.find? id =
    some (if (s.verdict t (some k)).isSome then .ready none else .queued t (some k))
  settledFaults : ∀ cmds, (s.verdict t (some k)).isSome →
    (∀ c ∈ cmds, Session.Spares id c ∨ c = .poll id) →
    (((s.step (.poll id)).1.run cmds).step (.poll id)).2 = .failed Wait.pollAfterCompletion
  decidedOnce : ∀ cmds, s.Safe cmds → (∀ c ∈ cmds, Session.Spares id c) →
    (s.run cmds).waits.find? id = some (.queued t (some k)) ∧
    (∀ r, s.verdict t (some k) = some r → (s.run cmds).verdict t (some k) = some r) ∧
    (s.verdict t (some k) = none → ∀ r, (s.run cmds).verdict t (some k) = some r →
      ∃ pre c post, cmds = pre ++ c :: post ∧ (s.run pre).verdict t (some k) = none ∧
        ((s.run pre).step c).1.verdict t (some k) = some r ∧
        (r = .ok () ∧ ((s.run pre).step c).1.cancellations.hits (some k) = false ∨
          r = .error .cancelled ∧ c = .cancel k))
  neverGrantedOnceFired : s.cancellations.hits (some k) = true → t ∉ s.sem.granted →
    ∀ cmds, s.Safe cmds → t ∉ (s.run cmds).sem.granted
  neverRequeued : (∀ w ∈ s.sem.queue, w.ticket ≠ t) →
    ∀ cmds, s.Safe cmds → ∀ w ∈ (s.run cmds).sem.queue, w.ticket ≠ t
  countLaw : ∀ cmds c, s.Safe (cmds ++ [c]) → (∀ i m, c ≠ .tryReset i m) →
    ((s.run cmds).step c).1.sem.count.toInt + (s.run cmds).reserved c =
      (s.run cmds).sem.count.toInt + (s.run cmds).released c + (s.run cmds).handedBack c +
        (restored (s.run cmds).sem ((s.run cmds).step c).1.sem).length
  restoredOnce : (∃ w ∈ s.sem.queue, w.ticket = t) →
    ∀ cmds more r, s.Safe (cmds ++ .poll id :: more) → (∀ c ∈ cmds, Session.Spares id c) →
      (s.run cmds).verdict t (some k) = some r →
      Session.total (Session.restoring t) s (cmds ++ .poll id :: more) =
        if r = .ok () then 0 else 1

/-- A queued wait with a token has one outcome, whoever notices the cancellation first, and
its reservation goes back to the count once if that outcome is a cancellation, never if it is
success. -/
theorem cancel_and_grant_have_one_winner {s : Session} (reached : s.Reachable) {id : String}
    {t : Nat} {k : Token} (found : s.waits.find? id = some (.queued t (some k))) :
    OneWinner s id t k := by
  have h := reached.coherent
  have mem := Registry.mem_values_of_find? found
  have issued := h.tracks.tickets_lt t (some k) mem
  rcases Session.step_poll_verdict h found with ⟨answered, settled⟩
  refine ⟨answered, Session.step_poll_open found, settled, ?_, ?_, ?_, ?_, ?_, ?_⟩
  · -- the settled handle stays under its name, and polling it again is a fault
    intro cmds decided allowed
    rw [if_pos decided] at settled
    rw [Session.step_poll_of_find? (Session.settled_run settled allowed)]
    rfl
  · -- the deciding cancellation is of the token `k` itself
    intro cmds safe spares
    rcases Session.verdict_run reached found safe spares with ⟨foundRun, kept, decidedRun⟩
    refine ⟨foundRun, kept, fun open_ r decided => ?_⟩
    rcases decidedRun open_ r decided with ⟨pre, c, post, split, before, after, how⟩
    refine ⟨pre, c, post, split, before, after, ?_⟩
    rcases how with granted | ⟨cancelled, k', same, cancel⟩
    · exact .inl granted
    · cases same
      exact .inr ⟨cancelled, cancel⟩
  · -- every queued waiter under the ticket carries the fired token
    intro fired notGranted cmds safe
    have retired : Retired s.cancellations t s.sem :=
      ⟨issued, notGranted, fun w hw same => by rw [h.tracks.tokenOf mem w hw same]; exact fired⟩
    exact (retired.run safe).ungranted
  · intro gone cmds safe
    exact (Dequeued.run ⟨issued, gone⟩ safe).gone
  · intro cmds c safe keeps
    rcases Session.safe_append.mp safe with ⟨before, last⟩
    exact Session.step_count (reached.run before).coherent last.1 keeps
  · intro queued cmds more r safe spares decided
    exact Session.total_restoring_answered reached found queued safe spares decided

/-- A wait with a token, queued on a semaphore with no units, has one outcome. -/
theorem one_winner_for_queued_wait :
    let s := (Session.mk (ofCounts 0 1) false {} {}).run [.wait "a" (some ⟨"t"⟩)]
    s.Reachable ∧ s.waits.find? "a" = some (.queued 0 (some ⟨"t"⟩)) ∧ OneWinner s "a" 0 ⟨"t"⟩ := by
  intro s
  have reached : s.Reachable := by
    refine Session.Reachable.run (@Session.Reachable.create 0 1 false _ rfl) ?_
    simp [Session.Safe, Session.Fits, Registry.find?, acquire, ofCounts, Cancellations.hits,
      Cancellations.isCancelled, List.lookup]
  have found : s.waits.find? "a" = some (.queued 0 (some ⟨"t"⟩)) := rfl
  exact ⟨reached, found, cancel_and_grant_have_one_winner reached found⟩

end Semaphore

end Sluice
