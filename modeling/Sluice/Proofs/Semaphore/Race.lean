import Mathlib
import Sluice.Proofs.Semaphore.Handles
/-!
# A cancellable wait has one outcome

A wait queued with a token can end in two ways: a release (or the hand-back of a dropped handle)
grants its ticket a unit, or its token fires. Several parties may notice the token first: a
poll of the handle, a release that skips the waiter, a purge. Whoever notices, the outcome is
the one that happened first.

`Session.verdict` names that outcome from the state alone: success once the ticket holds a
grant, a cancellation once the ticket is queued no more or its token fired, nothing while it is
queued with a live token. Polling the handle answers the verdict (pending while there is none)
and settles the handle, whose later polls are internal faults. Every other command keeps a
verdict once reached; an open verdict turns into success only through a grant made while the
token is live, and into a cancellation only when the token itself is cancelled. A ticket whose
token fired is never granted afterwards, and a ticket out of the queue never returns to it.

* `Semaphore.Keeps` — what a move may do to one ticket; one lemma per move.
* `Semaphore.Retired` — a ticket out of the queue, not granted, or not grantable.
* `Session.verdict`, `Session.answer`, `Session.step_poll_verdict`, `Session.verdict_step`,
  `Session.verdict_run`.
-/

namespace Sluice

namespace Semaphore

/-- From `s` to `s'`, the ticket `t`, whose waiter carries `token`, keeps what it has come to:
a grant stays, a ticket out of the queue without a grant stays out, and a queued ticket stays
queued, or is granted while its token is live, or leaves without a grant once its token fired. -/
structure Keeps (cs : Cancellations) (t : Nat) (token : Option Token) (s s' : Semaphore) :
    Prop where
  granted : t ∈ s.granted → t ∈ s'.granted
  out : (∀ w ∈ s.queue, w.ticket ≠ t) → t ∉ s.granted →
    (∀ w ∈ s'.queue, w.ticket ≠ t) ∧ t ∉ s'.granted
  queued : (∃ w ∈ s.queue, w.ticket = t) → t ∉ s.granted →
    ((∃ w ∈ s'.queue, w.ticket = t) ∧ t ∉ s'.granted) ∨
      (t ∈ s'.granted ∧ cs.hits token = false) ∨
      ((∀ w ∈ s'.queue, w.ticket ≠ t) ∧ t ∉ s'.granted ∧ cs.hits token = true)

variable {cs : Cancellations} {t : Nat} {token : Option Token} {s : Semaphore}

theorem Keeps.refl : Keeps cs t token s s :=
  ⟨id, fun out notGranted => ⟨out, notGranted⟩,
    fun queued notGranted => .inl ⟨queued, notGranted⟩⟩

theorem Keeps.trans {s₁ s₂ : Semaphore} (first : Keeps cs t token s s₁)
    (second : Keeps cs t token s₁ s₂) : Keeps cs t token s s₂ where
  granted g := second.granted (first.granted g)
  out gone notGranted :=
    let ⟨gone₁, notGranted₁⟩ := first.out gone notGranted
    second.out gone₁ notGranted₁
  queued q notGranted := by
    rcases first.queued q notGranted with ⟨q₁, notGranted₁⟩ | ⟨g₁, live⟩ |
        ⟨gone₁, notGranted₁, fired⟩
    · exact second.queued q₁ notGranted₁
    · exact .inr (.inl ⟨second.granted g₁, live⟩)
    · rcases second.out gone₁ notGranted₁ with ⟨gone₂, notGranted₂⟩
      exact .inr (.inr ⟨gone₂, notGranted₂, fired⟩)

theorem Keeps.of_eq {s' : Semaphore} (queue : s'.queue = s.queue)
    (granted : s'.granted = s.granted) : Keeps cs t token s s' where
  granted g := by rwa [granted]
  out gone notGranted := ⟨by rwa [queue], by rwa [granted]⟩
  queued q notGranted := .inl ⟨by rwa [queue], by rwa [granted]⟩

theorem keeps_acquire {other : Option Token} (issued : t < s.nextTicket) :
    Keeps cs t token s (s.acquire cs other).1 := by
  unfold Semaphore.acquire
  by_cases hit : cs.hits other
  · simp only [hit, if_true]
    exact .refl
  by_cases fast : 0 ≤ s.count - 1
  · simp only [hit, Bool.false_eq_true, if_false, ge_iff_le, fast, if_true]
    exact .of_eq rfl rfl
  simp only [hit, Bool.false_eq_true, if_false, ge_iff_le, fast]
  -- the new waiter's ticket is the next one, above `t`
  have kept : ∀ w ∈ s.queue ++ [⟨s.nextTicket, other⟩], w.ticket = t → w ∈ s.queue := by
    intro w hw same
    rcases List.mem_append.mp hw with old | new
    · exact old
    · simp only [List.mem_singleton] at new
      subst new
      dsimp only at same
      omega
  refine ⟨id, fun gone notGranted =>
      ⟨fun w hw same => gone w (kept w hw same) same, notGranted⟩,
    fun ⟨w, hw, same⟩ notGranted =>
      .inl ⟨⟨w, List.mem_append_left _ hw, same⟩, notGranted⟩⟩

theorem keeps_withdraw {other : Nat} (ne : other ≠ t) :
    Keeps cs t token s (s.withdraw other) where
  granted g := g
  out gone notGranted := ⟨fun w hw => gone w (List.mem_filter.mp hw).1, notGranted⟩
  queued := fun ⟨w, hw, same⟩ notGranted =>
    .inl ⟨⟨w, List.mem_filter.mpr ⟨hw, by simp [same, ne.symm]⟩, same⟩, notGranted⟩

theorem keeps_collect {other : Nat} (ne : other ≠ t) : Keeps cs t token s (s.collect other) where
  granted g := (List.mem_erase_of_ne ne.symm).mpr g
  out gone notGranted := ⟨gone, fun g => notGranted (List.mem_of_mem_erase g)⟩
  queued q notGranted := .inl ⟨q, fun g => notGranted (List.mem_of_mem_erase g)⟩

section Carried

-- every queued waiter with ticket `t` carries the token `token`
variable (tokenOf : ∀ w ∈ s.queue, w.ticket = t → w.token = token)
include tokenOf

theorem keeps_release {s' : Semaphore} {n : Nat} (ok : s.releaseUnits cs n = .ok s') :
    Keeps cs t token s s' := by
  rcases releaseUnits_ok ok with ⟨-, rfl⟩
  split
  · exact .of_eq rfl rfl
  rcases serve_spec cs { s with count := s.count + Int64.ofNat n } s.queue n with
    ⟨taken, rest, split, -, -, served⟩
  rw [served]
  have inQueue : ∀ w ∈ taken, w ∈ s.queue := fun w hw =>
    split ▸ List.mem_append_left rest hw
  refine ⟨fun g => List.mem_append_left _ g, ?_, ?_⟩
  · intro gone notGranted
    refine ⟨fun w hw => gone w (split ▸ List.mem_append_right taken hw), fun g => ?_⟩
    -- new grants come from the queue
    rcases List.mem_append.mp g with old | new
    · exact notGranted old
    · rcases List.mem_map.mp new with ⟨w, hw, same⟩
      exact gone w (inQueue w (List.mem_filter.mp hw).1) same
  · rintro ⟨w, hw, same⟩ notGranted
    by_cases granted : t ∈ s.granted ++ (taken.filter (Waiter.live cs)).map Waiter.ticket
    · -- a live waiter with ticket `t` was granted, and its token is `token`
      refine .inr (.inl ⟨granted, ?_⟩)
      rcases List.mem_append.mp granted with old | new
      · exact absurd old notGranted
      · rcases List.mem_map.mp new with ⟨v, hv, vt⟩
        rcases List.mem_filter.mp hv with ⟨vTaken, vLive⟩
        rw [← tokenOf v (inQueue v vTaken) vt]
        simpa [Waiter.live] using vLive
    by_cases left : ∃ v ∈ rest, v.ticket = t
    · exact .inl ⟨left, granted⟩
    -- every waiter with ticket `t` was served and none was granted, so they were cancelled
    refine .inr (.inr ⟨fun v hv same => left ⟨v, hv, same⟩, granted, ?_⟩)
    have served : w ∈ taken := by
      rcases List.mem_append.mp (split ▸ hw) with front | back
      · exact front
      · exact absurd ⟨w, back, same⟩ left
    by_contra live
    apply granted
    refine List.mem_append_right _
      (List.mem_map.mpr ⟨w, List.mem_filter.mpr ⟨served, ?_⟩, same⟩)
    simpa [Waiter.live, tokenOf w hw same] using live

theorem keeps_purge : Keeps cs t token s (s.purge cs) where
  granted g := g
  out gone notGranted := ⟨fun w hw => gone w (List.mem_filter.mp hw).1, notGranted⟩
  queued := by
    rintro ⟨w, hw, same⟩ notGranted
    by_cases fired : cs.hits token
    · -- the purge takes every waiter with ticket `t`
      refine .inr (.inr ⟨fun v hv vt => ?_, notGranted, fired⟩)
      rcases List.mem_filter.mp hv with ⟨queued, live⟩
      simp [tokenOf v queued vt, fired] at live
    · have kept : w ∈ s.queue.filter (fun w => !cs.hits w.token) :=
        List.mem_filter.mpr ⟨hw, by simpa [tokenOf w hw same] using fired⟩
      exact .inl ⟨⟨w, kept, same⟩, notGranted⟩

end Carried

end Semaphore

/-- Dropping another handle keeps ticket `t`: its own ticket is withdrawn, or its grant is
collected and handed back through a release. -/
theorem Wait.drop_keeps {cs : Cancellations} {t : Nat} {token : Option Token} {s : Semaphore}
    (w : Wait) (other : w.ticket? ≠ some t)
    (tokenOf : ∀ v ∈ s.queue, v.ticket = t → v.token = token) :
    Semaphore.Keeps cs t token s (w.drop cs s) := by
  cases w with
  | ready r => exact .refl
  | queued u token' =>
    have ne : u ≠ t := fun same => other (by simp [Wait.ticket?, same])
    simp only [Wait.drop]
    split
    · exact Semaphore.keeps_withdraw ne
    split
    · have collected : Semaphore.Keeps cs t token s (s.collect u) := Semaphore.keeps_collect ne
      cases back : (s.collect u).releaseUnits cs 1 with
      | error f => exact collected
      | ok s' => exact collected.trans (Semaphore.keeps_release (s := s.collect u) tokenOf back)
    · exact .refl

theorem Wait.poll_keeps {cs : Cancellations} {t : Nat} {token : Option Token} {s : Semaphore}
    (w : Wait) (other : w.ticket? ≠ some t) :
    Semaphore.Keeps cs t token s (w.poll cs s).2.2 := by
  cases w with
  | ready r => cases r <;> exact .refl
  | queued u token' =>
    have ne : u ≠ t := fun same => other (by simp [Wait.ticket?, same])
    simp only [Wait.poll]
    repeat' split
    all_goals first
      | exact .refl
      | exact Semaphore.keeps_withdraw ne
      | exact Semaphore.keeps_collect ne

namespace Semaphore

/-- Ticket `t` was issued and can no longer be granted: it holds no grant, and every queued
waiter under it has a token that fired. -/
structure Retired (cs : Cancellations) (t : Nat) (s : Semaphore) : Prop where
  issued : t < s.nextTicket
  ungranted : t ∉ s.granted
  fired : ∀ w ∈ s.queue, w.ticket = t → cs.hits w.token = true

/-- Ticket `t` was issued and is out of the queue. -/
structure Dequeued (t : Nat) (s : Semaphore) : Prop where
  issued : t < s.nextTicket
  gone : ∀ w ∈ s.queue, w.ticket ≠ t

variable {cs : Cancellations} {t : Nat} {s s' : Semaphore}

/-- A move keeps or drops each queued waiter and adds at most one, under the next ticket;
tickets are never taken back. -/
theorem Move.queue_from (move : Move cs s s') :
    s.nextTicket ≤ s'.nextTicket ∧
      ∀ w ∈ s'.queue, w ∈ s.queue ∨ w.ticket = s.nextTicket := by
  cases move with
  | @acquire token live room =>
    rcases acquire_spec cs s token with ⟨-, -, ⟨queue, next⟩ | ⟨queue, next⟩⟩
    · exact ⟨next.ge, fun w hw => .inl (queue ▸ hw)⟩
    · refine ⟨by omega, fun w hw => ?_⟩
      rw [queue] at hw
      rcases List.mem_append.mp hw with old | new
      · exact .inl old
      · simp only [List.mem_singleton] at new
        exact .inr (by rw [new])
  | withdraw queued => exact ⟨le_rfl, fun w hw => .inl (List.mem_filter.mp hw).1⟩
  | collect granted => exact ⟨le_rfl, fun w hw => .inl hw⟩
  | release ok pos small fits =>
    rcases releaseUnits_ok ok with ⟨-, rfl⟩
    split
    · exact ⟨le_rfl, fun w hw => .inl hw⟩
    rcases serve_spec cs { s with count := s.count + Int64.ofNat _ } s.queue _ with
      ⟨taken, rest, split, -, -, served⟩
    rw [served]
    exact ⟨le_rfl, fun w hw => .inl (split ▸ List.mem_append_right taken hw)⟩
  | purge => exact ⟨le_rfl, fun w hw => .inl (List.mem_filter.mp hw).1⟩
  | reset empty nonneg le => exact ⟨le_rfl, fun w hw => .inl hw⟩

theorem Move.granted_from (move : Move cs s s') {t : Nat} (g : t ∈ s'.granted) :
    t ∈ s.granted ∨ ∃ w ∈ s.queue, w.ticket = t ∧ cs.hits w.token = false := by
  cases move with
  | @acquire token live room => exact .inl ((acquire_spec cs s token).1 ▸ g)
  | withdraw queued => exact .inl g
  | collect granted => exact .inl (List.mem_of_mem_erase g)
  | release ok pos small fits =>
    rcases releaseUnits_ok ok with ⟨-, rfl⟩
    split at g
    · exact .inl g
    rcases serve_spec cs { s with count := s.count + Int64.ofNat _ } s.queue _ with
      ⟨taken, rest, split, -, -, served⟩
    rw [served] at g
    -- the release grants the live waiters of the served front
    rcases List.mem_append.mp g with old | new
    · exact .inl old
    · rcases List.mem_map.mp new with ⟨w, hw, same⟩
      rcases List.mem_filter.mp hw with ⟨taken', live⟩
      refine .inr ⟨w, split ▸ List.mem_append_left rest taken', same, ?_⟩
      simpa [Waiter.live] using live
  | purge => exact .inl g
  | reset empty nonneg le => exact .inl g

theorem Retired.move (r : Retired cs t s) (move : Move cs s s') : Retired cs t s' := by
  rcases move.queue_from with ⟨next, from_⟩
  have issued := r.issued
  -- a waiter under `t` in the new queue was queued before: the new one is above `t`
  have old : ∀ w ∈ s'.queue, w.ticket = t → w ∈ s.queue := fun w hw same =>
    (from_ w hw).resolve_right (by omega)
  refine ⟨by omega, fun g => ?_, fun w hw same => r.fired w (old w hw same) same⟩
  rcases move.granted_from g with g | ⟨w, hw, same, live⟩
  · exact r.ungranted g
  · rw [r.fired w hw same] at live
    cases live

theorem Dequeued.move (d : Dequeued t s) (move : Move cs s s') : Dequeued t s' := by
  rcases move.queue_from with ⟨next, from_⟩
  have issued := d.issued
  refine ⟨by omega, fun w hw same => ?_⟩
  rcases from_ w hw with old | new
  · exact d.gone w old same
  · omega

theorem Retired.moves (r : Retired cs t s) (moves : Moves cs s s') : Retired cs t s' := by
  induction moves with
  | refl => exact r
  | tail _ move ih => exact ih.move move

theorem Dequeued.moves (d : Dequeued t s) (moves : Moves cs s s') : Dequeued t s' := by
  induction moves with
  | refl => exact d
  | tail _ move ih => exact ih.move move

theorem Retired.weaken {cs' : Cancellations} (r : Retired cs t s)
    (more : ∀ token, cs.hits token = true → cs'.hits token = true) : Retired cs' t s :=
  ⟨r.issued, r.ungranted, fun w hw same => more _ (r.fired w hw same)⟩

end Semaphore

theorem Cancellations.hits_cancel_iff {cs : Cancellations} {token : Option Token} {k : Token} :
    (cs.cancel k).hits token = true ↔ cs.hits token = true ∨ token = some k := by
  cases token with
  | none => simp [Cancellations.hits]
  | some t =>
    simp only [Cancellations.hits, Cancellations.isCancelled, Cancellations.cancel,
      Option.some.injEq]
    split
    · -- `k` had fired already
      constructor
      · exact .inl
      · rintro (fired | rfl) <;> assumption
    · simp [or_comm]

namespace Semaphore

namespace Session

theorem step_cancellations {s : Session} {c : Command} (other : ∀ k, c ≠ .cancel k) :
    (s.step c).1.cancellations = s.cancellations := by
  cases c
  case cancel k => exact absurd rfl (other k)
  all_goals
    simp only [Session.step]
    repeat' split
    all_goals rfl

theorem hits_step {s : Session} {c : Command} {token : Option Token} :
    (s.step c).1.cancellations.hits token = true ↔
      s.cancellations.hits token = true ∨ ∃ k, token = some k ∧ c = .cancel k := by
  by_cases cancel : ∃ k, c = .cancel k
  · rcases cancel with ⟨k, rfl⟩
    simp only [Session.step, Cancellations.hits_cancel_iff, Command.cancel.injEq]
    constructor
    · rintro (fired | rfl)
      · exact .inl fired
      · exact .inr ⟨k, rfl, rfl⟩
    · rintro (fired | ⟨k', rfl, rfl⟩)
      · exact .inl fired
      · exact .inr rfl
  · rw [step_cancellations (fun k same => cancel ⟨k, same⟩)]
    constructor
    · exact .inl
    · rintro (fired | ⟨k, -, same⟩)
      · exact fired
      · exact absurd ⟨k, same⟩ cancel

end Session

theorem Retired.step {s : Session} {c : Command} {t : Nat}
    (r : Retired s.cancellations t s.sem) (fits : s.Fits c) :
    Retired (s.step c).1.cancellations t (s.step c).1.sem :=
  (r.moves (Session.step_moves fits)).weaken fun _ fired => Session.hits_step.mpr (.inl fired)

theorem Dequeued.step {s : Session} {c : Command} {t : Nat} (d : Dequeued t s.sem)
    (fits : s.Fits c) : Dequeued t (s.step c).1.sem :=
  d.moves (Session.step_moves fits)

theorem Retired.run {s : Session} {t : Nat} (r : Retired s.cancellations t s.sem)
    {cmds : List Command} (safe : s.Safe cmds) :
    Retired (s.run cmds).cancellations t (s.run cmds).sem := by
  induction cmds generalizing s with
  | nil => exact r
  | cons c rest ih => exact ih (r.step safe.1) safe.2

theorem Dequeued.run {s : Session} {t : Nat} (d : Dequeued t s.sem) {cmds : List Command}
    (safe : s.Safe cmds) : Dequeued t (s.run cmds).sem := by
  induction cmds generalizing s with
  | nil => exact d
  | cons c rest ih => exact ih (d.step safe.1) safe.2

end Semaphore

namespace Semaphore

section Held

variable {cs : Cancellations} {s : Semaphore} {hs : List Wait} {t : Nat} {token : Option Token}

theorem Tracks.tokenOf (h : Tracks cs s hs) (mem : Wait.queued t token ∈ hs) :
    ∀ w ∈ s.queue, w.ticket = t → w.token = token := by
  intro w hw same
  have held := h.queued_held w hw
  rw [same] at held
  exact h.token_eq held mem

theorem Tracks.ticket_ne {w : Wait} (h : Tracks cs s (w :: hs)) (mem : Wait.queued t token ∈ hs) :
    w.ticket? ≠ some t := by
  intro same
  have nodup := h.tickets_nodup
  rw [List.filterMap_cons, same, List.nodup_cons] at nodup
  exact nodup.1 (List.mem_filterMap.mpr ⟨_, mem, rfl⟩)

end Held

namespace Session

/-- The command leaves the handle named `id` alone: it waits, polls or drops under other names
only. -/
def Spares (id : String) : Command → Prop
  | .wait name _ => name ≠ id
  | .poll name => name ≠ id
  | .drop name => name ≠ id
  | _ => True

theorem Coherent.ticket_ne {s : Session} (h : s.Coherent) {id name : String} {t : Nat}
    {token : Option Token} {w : Wait} (found : s.waits.find? id = some (.queued t token))
    (other : s.waits.find? name = some w) (ne : name ≠ id) : w.ticket? ≠ some t := by
  -- the other handle heads a permutation of the handles, with the handle of `id` behind it
  rcases Registry.values_remove h.distinct other with ⟨rest, before, after⟩
  have kept : Wait.queued t token ∈ rest := by
    rw [← after]
    exact Registry.mem_values_of_find? (by rw [Registry.find?_remove_ne _ ne]; exact found)
  exact (h.tracks.perm before).ticket_ne kept

theorem find?_step {s : Session} {c : Command} {id : String} (spares : Spares id c) :
    (s.step c).1.waits.find? id = s.waits.find? id := by
  cases c with
  | wait name token =>
    simp only [Session.step]
    exact Registry.find?_put_ne _ _ spares
  | poll name =>
    simp only [Session.step]
    cases s.waits.find? name with
    | none => rfl
    | some w => exact Registry.find?_put_ne _ _ spares
  | drop name =>
    simp only [Session.step]
    cases s.waits.find? name with
    | none => rfl
    | some w => exact Registry.find?_remove_ne _ spares
  | _ =>
    simp only [Session.step]
    repeat' split
    all_goals rfl

/-- A command that leaves the handle of ticket `t` alone keeps what the ticket has come to. -/
theorem step_keeps {s : Session} {c : Command} {id : String} {t : Nat} {token : Option Token}
    (h : s.Coherent) (fits : s.Fits c) (found : s.waits.find? id = some (.queued t token))
    (spares : Spares id c) : Keeps s.cancellations t token s.sem (s.step c).1.sem := by
  have mem := Registry.mem_values_of_find? found
  have tokenOf := h.tracks.tokenOf mem
  cases c with
  | wait name other =>
    -- the new waiter takes the next ticket; the old handle of that name is another one
    have acquired : Keeps s.cancellations t token s.sem (s.sem.acquire s.cancellations other).1 :=
      keeps_acquire (h.tracks.tickets_lt t token mem)
    have made := h.tracks.acquire other
    simp only [Session.step]
    cases old : s.waits.find? name with
    | none => exact acquired
    | some w =>
      exact acquired.trans (w.drop_keeps (h.ticket_ne found old spares)
        (made.tokenOf (List.mem_cons_of_mem _ mem)))
  | poll name =>
    simp only [Session.step]
    cases other : s.waits.find? name with
    | none => exact .refl
    | some w => exact w.poll_keeps (h.ticket_ne found other spares)
  | isReady name =>
    simp only [Session.step]
    cases s.waits.find? name <;> exact .refl
  | drop name =>
    simp only [Session.step]
    cases other : s.waits.find? name with
    | none => exact .refl
    | some w => exact w.drop_keeps (h.ticket_ne found other spares) tokenOf
  | release n =>
    rcases step_release_cases s n with ⟨f, failed⟩ | ⟨s', -, released, passed⟩
    · rw [failed]
      exact .refl
    · rw [passed]
      exact keeps_release tokenOf released
  | tryRelease n =>
    rcases step_tryRelease_cases s n with ⟨f, same⟩ | same | ⟨s', -, released, passed⟩
    · rw [same]
      exact .refl
    · rw [same]
      exact .refl
    · rw [passed]
      exact keeps_release tokenOf released
  | tryReset initial limit =>
    have purged : Keeps s.cancellations t token s.sem (s.sem.purge s.cancellations) :=
      keeps_purge tokenOf
    simp only [Session.step, tryReset]
    cases checkCounts initial limit with
    | error f => exact .refl
    | ok counts =>
      obtain ⟨i, m⟩ := counts
      by_cases empty : (s.sem.purge s.cancellations).queue = []
      · simp only [bind, Except.bind, pure, Except.pure]
        rw [if_pos (by simp [empty])]
        exact purged.trans (.of_eq rfl rfl)
      · simp only [bind, Except.bind, pure, Except.pure, List.isEmpty_iff, empty, if_false]
        exact purged
  | count => exact keeps_purge tokenOf
  | waiters => exact keeps_purge tokenOf
  | limit => exact .refl
  | cancel k => exact .refl

end Session

end Semaphore

namespace Semaphore.Session

/-- What a queued wait has come to: success once its ticket holds a grant; a cancellation once
its ticket is queued no more, or its token fired first; nothing yet while it is queued with a
live token. -/
def verdict (s : Session) (t : Nat) (token : Option Token) : Option (Except Fault Unit) :=
  if s.sem.isGranted t then some (.ok ())
  else if s.sem.isQueued t && !s.cancellations.hits token then none
  else some (.error .cancelled)

def answer : Option (Except Fault Unit) → Outcome Reply
  | none => .pending
  | some r => (Outcome.ofExcept r).map fun _ => .unit

section Verdict

variable {s : Session} {t : Nat} {token : Option Token}

theorem verdict_ok : s.verdict t token = some (.ok ()) ↔ t ∈ s.sem.granted := by
  unfold verdict
  by_cases hit : s.cancellations.hits token <;> split_ifs <;> simp_all

theorem verdict_none : s.verdict t token = none ↔
    t ∉ s.sem.granted ∧ (∃ w ∈ s.sem.queue, w.ticket = t) ∧
      s.cancellations.hits token = false := by
  unfold verdict
  by_cases hit : s.cancellations.hits token <;> split_ifs <;> simp_all

theorem verdict_cancelled : s.verdict t token = some (.error .cancelled) ↔
    t ∉ s.sem.granted ∧
      ((∀ w ∈ s.sem.queue, w.ticket ≠ t) ∨ s.cancellations.hits token = true) := by
  unfold verdict
  by_cases hit : s.cancellations.hits token <;> split_ifs <;> simp_all

theorem verdict_cases : s.verdict t token = none ∨ s.verdict t token = some (.ok ()) ∨
    s.verdict t token = some (.error .cancelled) := by
  unfold verdict
  split
  · exact .inr (.inl rfl)
  split
  · exact .inl rfl
  · exact .inr (.inr rfl)

/-- A ticket that keeps what it has come to, under cancellations that only grow, keeps its
verdict once reached. -/
theorem verdict_kept {s' : Session} (keeps : Keeps s.cancellations t token s.sem s'.sem)
    (stays : s.cancellations.hits token = true → s'.cancellations.hits token = true) :
    ∀ r, s.verdict t token = some r → s'.verdict t token = some r := by
  intro r decided
  rcases @verdict_cases s t token with open_ | ok | cancelled
  · rw [open_] at decided
    cases decided
  · rw [ok] at decided
    cases decided
    exact verdict_ok.mpr (keeps.granted (verdict_ok.mp ok))
  · rw [cancelled] at decided
    cases decided
    rcases verdict_cancelled.mp cancelled with ⟨notGranted, gone | fired⟩
    · rcases keeps.out gone notGranted with ⟨gone', notGranted'⟩
      exact verdict_cancelled.mpr ⟨notGranted', .inl gone'⟩
    -- the token fired: the ticket stays queued with it, or leaves without a grant
    by_cases queued : ∃ w ∈ s.sem.queue, w.ticket = t
    · rcases keeps.queued queued notGranted with ⟨-, notGranted'⟩ | ⟨-, live⟩ |
          ⟨gone', notGranted', -⟩
      · exact verdict_cancelled.mpr ⟨notGranted', .inr (stays fired)⟩
      · rw [fired] at live
        cases live
      · exact verdict_cancelled.mpr ⟨notGranted', .inl gone'⟩
    · rcases keeps.out (fun w hw same => queued ⟨w, hw, same⟩) notGranted with
        ⟨gone', notGranted'⟩
      exact verdict_cancelled.mpr ⟨notGranted', .inl gone'⟩

end Verdict

/-- One command that leaves the handle alone keeps it, keeps a verdict once reached, turns an
open verdict into success only by a grant made while the token is live, and into a
cancellation only by cancelling the token. -/
theorem verdict_step {s : Session} {c : Command} {id : String} {t : Nat} {token : Option Token}
    (h : s.Coherent) (fits : s.Fits c) (found : s.waits.find? id = some (.queued t token))
    (spares : Spares id c) :
    (s.step c).1.waits.find? id = some (.queued t token) ∧
      (∀ r, s.verdict t token = some r → (s.step c).1.verdict t token = some r) ∧
      (s.verdict t token = none → (s.step c).1.verdict t token = some (.ok ()) →
        (s.step c).1.cancellations.hits token = false) ∧
      (s.verdict t token = none → (s.step c).1.verdict t token = some (.error .cancelled) →
        ∃ k, token = some k ∧ c = .cancel k) := by
  have keeps := step_keeps h fits found spares
  have stays : s.cancellations.hits token = true → (s.step c).1.cancellations.hits token = true :=
    fun fired => hits_step.mpr (.inl fired)
  refine ⟨(find?_step spares).trans found, verdict_kept keeps stays, ?_, ?_⟩
  · intro open_ ok
    rcases verdict_none.mp open_ with ⟨notGranted, queued, live⟩
    by_contra fired
    rcases hits_step.mp (Bool.not_eq_false _ ▸ fired) with fired' | ⟨k, -, rfl⟩
    · rw [live] at fired'
      cases fired'
    · -- a cancellation leaves the semaphore as it was, so nothing was granted
      have granted := verdict_ok.mp ok
      exact notGranted granted
  · intro open_ cancelled
    rcases verdict_none.mp open_ with ⟨notGranted, queued, live⟩
    rcases keeps.queued queued notGranted with ⟨queued', notGranted'⟩ | ⟨granted', -⟩ |
        ⟨-, -, fired⟩
    · -- still queued: the verdict changed because the token fired in this step
      rcases verdict_cancelled.mp cancelled with ⟨-, gone | fired'⟩
      · rcases queued' with ⟨w, hw, same⟩
        exact absurd same (gone w hw)
      · rcases hits_step.mp fired' with fired | cancel
        · rw [live] at fired
          cases fired
        · exact cancel
    · exact absurd granted' (verdict_cancelled.mp cancelled).1
    · rw [live] at fired
      cases fired

/-- Polling the handle answers its verdict, pending while there is none, and settles the
handle once there is one. -/
theorem step_poll_verdict {s : Session} {id : String} {t : Nat} {token : Option Token}
    (h : s.Coherent) (found : s.waits.find? id = some (.queued t token)) :
    (s.step (.poll id)).2 = answer (s.verdict t token) ∧
      (s.step (.poll id)).1.waits.find? id =
        some (if (s.verdict t token).isSome then .ready none else .queued t token) := by
  -- a ticket is never both granted and queued
  have apart : s.sem.isGranted t = true → s.sem.isQueued t = false := by
    intro granted
    rw [Bool.eq_false_iff]
    intro queued
    rcases isQueued_iff.mp queued with ⟨w, hw, same⟩
    have := h.wellFormed.granted_before t (isGranted_iff.mp granted) w hw
    omega
  rw [step_poll_of_find? found]
  simp only [Registry.find?_put_self, verdict, Wait.poll]
  by_cases granted : s.sem.isGranted t
  · have queued := apart granted
    by_cases hit : s.cancellations.hits token <;>
      simp [hit, queued, granted, answer, Outcome.ofPoll, Outcome.ofExcept, Outcome.map]
  · by_cases hit : s.cancellations.hits token <;> by_cases queued : s.sem.isQueued t <;>
      simp [hit, queued, granted, answer, Outcome.ofPoll, Outcome.ofExcept, Outcome.map]

theorem step_poll_open {s : Session} {id : String} {t : Nat} {token : Option Token}
    (found : s.waits.find? id = some (.queued t token)) (open_ : s.verdict t token = none) :
    s.step (.poll id) = (s, .pending) := by
  rcases verdict_none.mp open_ with ⟨notGranted, queued, live⟩
  have granted : s.sem.isGranted t = false :=
    Bool.eq_false_iff.mpr fun g => notGranted (isGranted_iff.mp g)
  have polled : (Wait.queued t token).poll s.cancellations s.sem =
      (.pending, .queued t token, s.sem) := by
    simp [Wait.poll, live, granted, isQueued_iff.mpr queued]
  rw [step_poll_of_find? found, polled]
  simp [Registry.put_of_find? found, Outcome.ofPoll, Outcome.map]

theorem settled_run {s : Session} {id : String} (found : s.waits.find? id = some (.ready none))
    {cmds : List Command} (allowed : ∀ c ∈ cmds, Spares id c ∨ c = .poll id) :
    (s.run cmds).waits.find? id = some (.ready none) := by
  induction cmds generalizing s with
  | nil => exact found
  | cons c rest ih =>
    apply ih _ fun c' mem => allowed c' (List.mem_cons_of_mem _ mem)
    rcases allowed c List.mem_cons_self with spares | rfl
    · exact (find?_step spares).trans found
    · rw [step_poll_of_find? found]
      exact Registry.find?_put_self _ _ _

/-- Over a run that leaves the handle alone, a verdict once reached is kept, and an open one is
reached by a single command: a grant made while the token is live, or the token's
cancellation. -/
theorem verdict_run {s : Session} (reached : s.Reachable) {id : String} {t : Nat}
    {token : Option Token} (found : s.waits.find? id = some (.queued t token))
    {cmds : List Command} (safe : s.Safe cmds) (spares : ∀ c ∈ cmds, Spares id c) :
    (s.run cmds).waits.find? id = some (.queued t token) ∧
      (∀ r, s.verdict t token = some r → (s.run cmds).verdict t token = some r) ∧
      (s.verdict t token = none → ∀ r, (s.run cmds).verdict t token = some r →
        ∃ pre c post, cmds = pre ++ c :: post ∧ (s.run pre).verdict t token = none ∧
          ((s.run pre).step c).1.verdict t token = some r ∧
          (r = .ok () ∧ ((s.run pre).step c).1.cancellations.hits token = false ∨
            r = .error .cancelled ∧ ∃ k, token = some k ∧ c = .cancel k)) := by
  induction cmds generalizing s with
  | nil =>
    refine ⟨found, fun r decided => decided, fun open_ r decided => ?_⟩
    change s.verdict t token = some r at decided
    rw [open_] at decided
    cases decided
  | cons c rest ih =>
    rcases verdict_step reached.coherent safe.1 found (spares c List.mem_cons_self) with
      ⟨found', kept, granted, cancelled⟩
    rcases ih (reached.step safe.1) found' safe.2
        (fun c' mem => spares c' (List.mem_cons_of_mem _ mem)) with
      ⟨foundRun, keptRun, decidedRun⟩
    refine ⟨foundRun, fun r decided => keptRun r (kept r decided), fun open_ r decided => ?_⟩
    -- either `c` settles the verdict, or it is still open and a later command settles it
    rcases @verdict_cases (s.step c).1 t token with open' | ok | cancel
    · rcases decidedRun open' r decided with ⟨pre, c', post, split, before, after, how⟩
      exact ⟨c :: pre, c', post, by rw [split]; rfl, before, after, how⟩
    · have settled : some (Except.ok ()) = some r := (keptRun _ ok).symm.trans decided
      cases settled
      exact ⟨[], c, rest, rfl, open_, ok, .inl ⟨rfl, granted open_ ok⟩⟩
    · have settled : some (Except.error Fault.cancelled) = some r :=
        (keptRun _ cancel).symm.trans decided
      cases settled
      exact ⟨[], c, rest, rfl, open_, cancel, .inr ⟨rfl, cancelled open_ cancel⟩⟩

end Session

end Semaphore

end Sluice
