import Mathlib
import Sluice.Proofs.Semaphore.Balance
/-!
# The waiter gauge counts the queue

A semaphore made with a waiter gauge adjusts it as its queue changes: one up for each waiter
it queues, and one down for each entry that leaves the queue, whether the entry leaves with a
grant, by a withdrawal, as a cancelled waiter a release passes over, or in a purge. Each path
computes its own adjustment, and `gaugeShare` is their sum: the net amount the semaphore has
added to its gauge. `Semaphore.Gauged` says that this sum is the number of queued entries,
cancelled entries that nobody has purged yet included.

No arithmetic bound is needed. The share and the queue move together whatever happens to the
count, wrapped or not. What is needed is that a withdrawal takes exactly one entry out, and
that holds because queued tickets are distinct: each is issued once, from `nextTicket`.

* `Semaphore.Gauged`, with one lemma per operation (`Gauged.acquire`, `Gauged.withdraw`, ...)
  and `Move.gauged` for the primitive moves.
* `Wait.poll_gauged`, `Wait.drop_gauged`: polling or dropping any handle.
* `Session.gauged_step`, `Session.gauged_run`, `Session.gauge_eq_queue_length`.
-/

namespace Sluice

namespace Semaphore

/-- The semaphore's share of its waiter gauge is its queue. The share counts the queued
entries, and the queued tickets are distinct tickets that have already been issued. -/
structure Gauged (s : Semaphore) : Prop where
  distinct : (s.queue.map Waiter.ticket).Nodup
  issued : ∀ w ∈ s.queue, w.ticket < s.nextTicket
  share : s.gaugeShare = s.queue.length

variable {cs : Cancellations} {s : Semaphore}

theorem Gauged.ofCounts (i m : Int64) : (ofCounts i m).Gauged where
  distinct := by simp [Semaphore.ofCounts]
  issued := by simp [Semaphore.ofCounts]
  share := by simp [Semaphore.ofCounts]

theorem Gauged.setCount (h : s.Gauged) (c : Int64) : ({ s with count := c } : Semaphore).Gauged :=
  ⟨h.distinct, h.issued, h.share⟩

theorem Gauged.acquire (h : s.Gauged) (token : Option Token) : (s.acquire cs token).1.Gauged := by
  unfold Semaphore.acquire
  by_cases hit : cs.hits token
  · simpa [hit] using h
  by_cases fast : 0 ≤ s.count - 1
  · simpa [hit, fast] using h.setCount (s.count - 1)
  -- queued under the next ticket, which no queued waiter holds, and counted once
  simp only [hit, Bool.false_eq_true, if_false, ge_iff_le, fast]
  refine ⟨?_, ?_, ?_⟩
  · rw [List.map_append, List.nodup_append]
    refine ⟨h.distinct, by simp, ?_⟩
    intro a ha b hb same
    obtain ⟨w, hw, rfl⟩ := List.mem_map.mp ha
    simp only [List.map_cons, List.map_nil, List.mem_singleton] at hb
    have := h.issued w hw
    omega
  · intro w hw
    rcases List.mem_append.mp hw with old | new
    · exact Nat.lt_succ_of_lt (h.issued w old)
    · simp only [List.mem_singleton] at new
      simp [new]
  · simp [h.share]

theorem Gauged.withdraw (h : s.Gauged) {t : Nat} (queued : s.isQueued t = true) :
    (s.withdraw t).Gauged where
  distinct := h.distinct.sublist (List.filter_sublist.map _)
  issued := fun w hw => h.issued w (List.mem_of_mem_filter hw)
  share := by
    have shorter := length_filter_ticket_ne_of_nodup h.distinct queued
    simp only [Semaphore.withdraw, h.share]
    omega

theorem Gauged.collect (h : s.Gauged) (t : Nat) : (s.collect t).Gauged :=
  ⟨h.distinct, h.issued, h.share⟩

/-- Serving the queue front takes each served entry off the gauge: the share falls by the
length of the served part, which is what leaves the queue. -/
theorem Gauged.serve (h : s.Gauged) (b : Nat) : (serve cs s s.queue b).Gauged := by
  obtain ⟨taken, rest, split, -, -, served⟩ := serve_spec cs s s.queue b
  rw [served]
  have whole : s.queue.length = taken.length + rest.length := by rw [split, List.length_append]
  have distinct := h.distinct
  rw [split, List.map_append, List.nodup_append] at distinct
  refine ⟨distinct.2.1, fun w hw => h.issued w (split ▸ List.mem_append_right taken hw), ?_⟩
  simp only [h.share]
  omega

theorem Gauged.releaseUnits (h : s.Gauged) {n : Nat} {s' : Semaphore}
    (ok : s.releaseUnits cs n = .ok s') : s'.Gauged := by
  obtain ⟨-, rfl⟩ := releaseUnits_ok ok
  have counted := h.setCount (s.count + Int64.ofNat n)
  split
  · exact counted
  · exact counted.serve n

theorem Gauged.purge (h : s.Gauged) (cs : Cancellations) : (s.purge cs).Gauged where
  distinct := h.distinct.sublist (List.filter_sublist.map _)
  issued := fun w hw => h.issued w (List.mem_of_mem_filter hw)
  share := by
    have parts := List.length_eq_length_filter_add (l := s.queue) (fun w => cs.hits w.token)
    simp only [Semaphore.purge, h.share]
    omega

theorem Move.gauged {s' : Semaphore} (move : Move cs s s') (h : s.Gauged) : s'.Gauged := by
  cases move with
  | acquire _ _ => exact h.acquire _
  | withdraw queued => exact h.withdraw queued
  | collect _ => exact h.collect _
  | release ok _ _ _ => exact h.releaseUnits ok
  | purge => exact h.purge cs
  | reset _ _ _ => exact ⟨h.distinct, h.issued, h.share⟩

theorem Moves.gauged {s' : Semaphore} (moves : Moves cs s s') (h : s.Gauged) : s'.Gauged := by
  induction moves with
  | refl => exact h
  | tail _ move ih => exact move.gauged ih

theorem Gauged.release (h : s.Gauged) {n : Nat} {s' : Semaphore}
    (ok : s.release cs n = .ok s') : s'.Gauged := by
  unfold Semaphore.release at ok
  cases checked : checkRelease n with
  | error f => simp [checked, bind, Except.bind] at ok
  | ok u =>
    simp only [checked, bind, Except.bind] at ok
    exact h.releaseUnits ok

theorem Gauged.tryReset (h : s.Gauged) {initial limit : Nat} {b : Bool} {s' : Semaphore}
    (ok : s.tryReset cs initial limit = .ok (b, s')) : s'.Gauged := by
  unfold Semaphore.tryReset at ok
  cases checked : checkCounts initial limit with
  | error f => simp [checked, bind, Except.bind] at ok
  | ok counts =>
    obtain ⟨i, m⟩ := counts
    have purged := h.purge cs
    simp only [checked, bind, Except.bind, pure, Except.pure] at ok
    split at ok
    · cases ok
      exact ⟨purged.distinct, purged.issued, purged.share⟩
    · cases ok
      exact purged

end Semaphore

namespace Wait

variable {cs : Cancellations} {s : Semaphore}

theorem poll_gauged (w : Wait) (h : s.Gauged) : (w.poll cs s).2.2.Gauged :=
  (poll_moves cs w s).gauged h

/-- Dropping any handle keeps the share equal to the queue: a queued ticket is withdrawn, and
a granted unit handed back by a release that serves the queue as any release does. -/
theorem drop_gauged (w : Wait) (h : s.Gauged) : (w.drop cs s).Gauged := by
  cases w with
  | ready r => exact h
  | queued t token =>
    simp only [Wait.drop]
    by_cases queued : s.isQueued t
    · simpa [queued] using h.withdraw queued
    by_cases granted : s.isGranted t
    · have collected := h.collect t
      simp only [queued, granted, Bool.false_eq_true, if_false, if_true]
      cases back : (s.collect t).releaseUnits cs 1 with
      | error f => exact collected
      | ok s' => exact collected.releaseUnits back
    · simpa [queued, granted] using h

end Wait

namespace Semaphore

namespace Session

theorem gauged_step {s : Session} (h : s.sem.Gauged) (c : Command) : (s.step c).1.sem.Gauged := by
  cases c with
  | wait id token =>
    -- the new wait is made first, then the old handle of that name is dropped
    have taken : (s.sem.acquire s.cancellations token).1.Gauged := h.acquire token
    simp only [step]
    cases s.waits.find? id with
    | none => exact taken
    | some old => exact old.drop_gauged taken
  | poll id =>
    simp only [step]
    cases s.waits.find? id with
    | none => exact h
    | some w => exact w.poll_gauged h
  | isReady id =>
    simp only [step]
    cases s.waits.find? id <;> exact h
  | drop id =>
    simp only [step]
    cases s.waits.find? id with
    | none => exact h
    | some w => exact w.drop_gauged h
  | release n =>
    rcases step_release_cases s n with ⟨f, failed⟩ | ⟨s', -, released, passed⟩
    · rw [failed]
      exact h
    · rw [passed]
      exact h.releaseUnits released
  | tryRelease n =>
    rcases step_tryRelease_cases s n with ⟨f, same⟩ | same | ⟨s', -, released, passed⟩
    · rw [same]
      exact h
    · rw [same]
      exact h
    · rw [passed]
      exact h.releaseUnits released
  | tryReset initial limit =>
    simp only [step]
    cases reset : s.sem.tryReset s.cancellations initial limit with
    | error f => exact h
    | ok r => exact h.tryReset reset
  | count => exact h.purge _
  | waiters => exact h.purge _
  | limit => exact h
  | cancel t => exact h

theorem gauged_run {s : Session} (h : s.sem.Gauged) (cmds : List Command) :
    (s.run cmds).sem.Gauged := by
  induction cmds generalizing s with
  | nil => exact h
  | cons c rest ih => exact ih (gauged_step h c)

/-- A metered session shows the number of queued entries as its gauge. -/
theorem gauge_eq_queue_length {s : Session} (h : s.sem.Gauged) :
    s.gauge = if s.metered then some (s.sem.queue.length : Int) else none := by
  simp [gauge, h.share]

end Session

end Semaphore

end Sluice
