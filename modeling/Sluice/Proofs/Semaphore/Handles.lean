import Mathlib
import Sluice.Proofs.Semaphore.Balance
/-!
# Handles and the semaphore agree

A session keeps its handles under names; the semaphore keeps the queued waiters and the
tickets granted but not collected. Both describe the same waits. Every queued waiter and every
granted ticket has its handle, no two handles share a ticket, and a handle whose ticket is
neither queued nor granted belongs to a wait whose token has fired: a release skipped its
waiter or a purge removed it, and the handle has not looked yet.

`Semaphore.Tracks` says this of a list of handles. The moves a session makes on its own
(releases, purges, resets, cancellations) keep it with the same handles; a wait, a poll and a
drop keep it as they change one handle together with the semaphore. `Session.Coherent` adds
the registry's distinct names and `Semaphore.WellFormed`, and holds in every reachable session.

* `Wait.ticket?` — the ticket of a queued handle.
* `Semaphore.Tracks`, with `Tracks.release`, `Tracks.purge`, `Tracks.acquire`, `Tracks.retire`,
  `Tracks.drop`, `Tracks.poll`.
* `Session.Coherent`, `Session.Reachable.coherent`.
-/

namespace Sluice

def Wait.ticket? : Wait → Option Nat
  | .ready _ => none
  | .queued t _ => some t

theorem Cancellations.hits_cancel {cs : Cancellations} {token : Option Token} (k : Token)
    (hit : cs.hits token = true) : (cs.cancel k).hits token = true := by
  cases token with
  | none => simp [Cancellations.hits] at hit
  | some t =>
    have fired : t ∈ cs.fired := by
      simpa [Cancellations.hits, Cancellations.isCancelled] using hit
    simp only [Cancellations.hits, Cancellations.isCancelled, Cancellations.cancel]
    split <;> simp [fired]

theorem eq_of_ticket?_eq {hs : List Wait} (nodup : (hs.filterMap Wait.ticket?).Nodup)
    {a b : Wait} (ha : a ∈ hs) (hb : b ∈ hs) {t : Nat} (ta : a.ticket? = some t)
    (tb : b.ticket? = some t) : a = b := by
  induction hs with
  | nil => simp at ha
  | cons x rest ih =>
    have inRest : ∀ c ∈ rest, c.ticket? = some t → t ∈ rest.filterMap Wait.ticket? :=
      fun c hc tc => List.mem_filterMap.mpr ⟨c, hc, tc⟩
    rcases List.mem_cons.mp ha with rfl | ha' <;> rcases List.mem_cons.mp hb with rfl | hb'
    · rfl
    · -- the head holds ticket `t`, so no later handle does
      rw [List.filterMap_cons, ta, List.nodup_cons] at nodup
      exact absurd (inRest b hb' tb) nodup.1
    · rw [List.filterMap_cons, tb, List.nodup_cons] at nodup
      exact absurd (inRest a ha' ta) nodup.1
    · exact ih (nodup.sublist ((List.sublist_cons_self x rest).filterMap _)) ha' hb'

namespace Semaphore

/-- The handles `hs` describe the waits of `s` under the cancellations `cs`. -/
structure Tracks (cs : Cancellations) (s : Semaphore) (hs : List Wait) : Prop where
  -- no two handles share a ticket, and every ticket was issued
  tickets_nodup : (hs.filterMap Wait.ticket?).Nodup
  tickets_lt : ∀ t token, Wait.queued t token ∈ hs → t < s.nextTicket
  -- a queued waiter has its handle, with the waiter's own token; so has a granted ticket
  queued_held : ∀ w ∈ s.queue, Wait.queued w.ticket w.token ∈ hs
  granted_held : ∀ t ∈ s.granted, ∃ token, Wait.queued t token ∈ hs
  -- a ticket that left the queue without a grant belongs to a token that fired
  withdrawn_fired : ∀ t token, Wait.queued t token ∈ hs → (∀ w ∈ s.queue, w.ticket ≠ t) →
    t ∉ s.granted → cs.hits token = true

variable {cs : Cancellations} {s : Semaphore} {hs : List Wait}

/-- The handle of a ticket is unique, so its token is the one the queue holds. -/
theorem Tracks.token_eq (h : Tracks cs s hs) {t : Nat} {a b : Option Token}
    (ha : Wait.queued t a ∈ hs) (hb : Wait.queued t b ∈ hs) : a = b :=
  (Wait.queued.inj (eq_of_ticket?_eq h.tickets_nodup ha hb rfl rfl)).2

theorem Tracks.of_eq {s' : Semaphore} (h : Tracks cs s hs) (queue : s'.queue = s.queue)
    (granted : s'.granted = s.granted) (next : s'.nextTicket = s.nextTicket) :
    Tracks cs s' hs where
  tickets_nodup := h.tickets_nodup
  tickets_lt := by rw [next]; exact h.tickets_lt
  queued_held := by rw [queue]; exact h.queued_held
  granted_held := by rw [granted]; exact h.granted_held
  withdrawn_fired := by rw [queue, granted]; exact h.withdrawn_fired

theorem Tracks.perm {hs' : List Wait} (h : Tracks cs s hs) (p : hs.Perm hs') :
    Tracks cs s hs' where
  tickets_nodup := (p.filterMap Wait.ticket?).nodup_iff.mp h.tickets_nodup
  tickets_lt t token mem := h.tickets_lt t token (p.mem_iff.mpr mem)
  queued_held w hw := p.mem_iff.mp (h.queued_held w hw)
  granted_held t ht := (h.granted_held t ht).imp fun _ mem => p.mem_iff.mp mem
  withdrawn_fired t token mem := h.withdrawn_fired t token (p.mem_iff.mpr mem)

theorem Tracks.cancel (h : Tracks cs s hs) (k : Token) : Tracks (cs.cancel k) s hs :=
  { h with
    withdrawn_fired := fun t token mem gone notGranted =>
      Cancellations.hits_cancel k (h.withdrawn_fired t token mem gone notGranted) }

theorem Tracks.cons_ready (h : Tracks cs s hs) (r : Option (Except Fault Unit)) :
    Tracks cs s (.ready r :: hs) where
  tickets_nodup := h.tickets_nodup
  tickets_lt t token mem := h.tickets_lt t token (by simpa using mem)
  queued_held w hw := List.mem_cons_of_mem _ (h.queued_held w hw)
  granted_held t ht := (h.granted_held t ht).imp fun _ mem => List.mem_cons_of_mem _ mem
  withdrawn_fired t token mem := h.withdrawn_fired t token (by simpa using mem)

theorem Tracks.of_cons_ready {r : Option (Except Fault Unit)} (h : Tracks cs s (.ready r :: hs)) :
    Tracks cs s hs where
  tickets_nodup := h.tickets_nodup
  tickets_lt t token mem := h.tickets_lt t token (List.mem_cons_of_mem _ mem)
  queued_held w hw := by simpa using h.queued_held w hw
  granted_held t ht := by simpa using h.granted_held t ht
  withdrawn_fired t token mem := h.withdrawn_fired t token (List.mem_cons_of_mem _ mem)

theorem Tracks.purge (h : Tracks cs s hs) : Tracks cs (s.purge cs) hs where
  tickets_nodup := h.tickets_nodup
  tickets_lt := h.tickets_lt
  queued_held w hw := h.queued_held w (List.mem_filter.mp hw).1
  granted_held := h.granted_held
  withdrawn_fired t token mem gone notGranted := by
    by_cases queued : ∃ w ∈ s.queue, w.ticket = t
    · -- the purge took its waiter, whose token is the handle's
      rcases queued with ⟨w, hw, rfl⟩
      have fired : cs.hits w.token = true := by
        by_contra live
        exact gone w (List.mem_filter.mpr ⟨hw, by simpa using live⟩) rfl
      rwa [h.token_eq mem (h.queued_held w hw)]
    · exact h.withdrawn_fired t token mem (fun w hw same => queued ⟨w, hw, same⟩) notGranted

theorem Tracks.release {s' : Semaphore} {n : Nat} (h : Tracks cs s hs)
    (ok : s.releaseUnits cs n = .ok s') : Tracks cs s' hs := by
  rcases releaseUnits_ok ok with ⟨-, rfl⟩
  split
  · exact h.of_eq rfl rfl rfl
  rcases serve_spec cs { s with count := s.count + Int64.ofNat n } s.queue n with
    ⟨taken, rest, split, -, -, served⟩
  rw [served]
  have inQueue : ∀ w ∈ taken, w ∈ s.queue := fun w hw => split ▸ List.mem_append_left rest hw
  refine ⟨h.tickets_nodup, h.tickets_lt, ?_, ?_, ?_⟩
  · intro w hw
    exact h.queued_held w (split ▸ List.mem_append_right taken hw)
  · intro t ht
    rcases List.mem_append.mp ht with old | new
    · exact h.granted_held t old
    · rcases List.mem_map.mp new with ⟨w, hw, rfl⟩
      exact ⟨w.token, h.queued_held w (inQueue w (List.mem_filter.mp hw).1)⟩
  · intro t token mem gone notGranted
    simp only [List.mem_append, not_or] at notGranted
    by_cases queued : ∃ w ∈ s.queue, w.ticket = t
    · -- its waiter was served without a grant, so the release skipped it as cancelled
      rcases queued with ⟨w, hw, rfl⟩
      have served : w ∈ taken := by
        rcases List.mem_append.mp (split ▸ hw) with front | back
        · exact front
        · exact absurd rfl (gone w back)
      have fired : cs.hits w.token = true := by
        by_contra live
        exact notGranted.2 (List.mem_map_of_mem (List.mem_filter.mpr
          ⟨served, by simpa [Waiter.live] using live⟩))
      rwa [h.token_eq mem (h.queued_held w hw)]
    · exact h.withdrawn_fired t token mem (fun w hw same => queued ⟨w, hw, same⟩) notGranted.1

/-- A wait adds its handle: a settled one, or a queued one under the fresh ticket. -/
theorem Tracks.acquire (h : Tracks cs s hs) (token : Option Token) :
    Tracks cs (s.acquire cs token).1 (Wait.ofAdmission token (s.acquire cs token).2 :: hs) := by
  unfold Semaphore.acquire
  by_cases hit : cs.hits token
  · simp only [hit, if_true]
    exact h.cons_ready _
  by_cases fast : 0 ≤ s.count - 1
  · simp only [hit, Bool.false_eq_true, if_false, ge_iff_le, fast, if_true]
    exact (h.cons_ready _).of_eq rfl rfl rfl
  simp only [hit, Bool.false_eq_true, if_false, ge_iff_le, fast]
  -- the new ticket is above every ticket issued so far
  have fresh : ∀ a, Wait.queued s.nextTicket a ∉ hs := fun a mem =>
    Nat.lt_irrefl _ (h.tickets_lt _ a mem)
  refine ⟨?_, ?_, ?_, ?_, ?_⟩
  · simp only [Wait.ofAdmission, List.filterMap_cons, Wait.ticket?, List.nodup_cons]
    refine ⟨fun mem => ?_, h.tickets_nodup⟩
    rcases List.mem_filterMap.mp mem with ⟨w, hw, tw⟩
    cases w with
    | ready r => simp [Wait.ticket?] at tw
    | queued t a =>
      simp only [Wait.ticket?, Option.some.injEq] at tw
      exact fresh a (tw ▸ hw)
  · intro t a mem
    rcases List.mem_cons.mp mem with new | old
    · simp only [Wait.ofAdmission, Wait.queued.injEq] at new
      simp [new.1]
    · exact Nat.lt_succ_of_lt (h.tickets_lt t a old)
  · intro w hw
    rcases List.mem_append.mp hw with old | new
    · exact List.mem_cons_of_mem _ (h.queued_held w old)
    · simp only [List.mem_singleton] at new
      simp [new, Wait.ofAdmission]
  · intro t ht
    exact (h.granted_held t ht).imp fun _ mem => List.mem_cons_of_mem _ mem
  · intro t a mem gone notGranted
    rcases List.mem_cons.mp mem with new | old
    · -- the new handle's ticket is queued
      simp only [Wait.ofAdmission, Wait.queued.injEq] at new
      exact absurd (new.1 ▸ rfl) (gone ⟨s.nextTicket, token⟩ (by simp))
    · exact h.withdrawn_fired t a old (fun w hw => gone w (List.mem_append_left _ hw)) notGranted

section Retire

variable {t : Nat} {token : Option Token}

/-- A handle leaves with its ticket: when the semaphore keeps every waiter and grant it had
except those of ticket `t`, the other handles still describe it. -/
theorem Tracks.retire {s' : Semaphore} (h : Tracks cs s (.queued t token :: hs))
    (next : s'.nextTicket = s.nextTicket) (queue : ∀ w ∈ s'.queue, w ∈ s.queue ∧ w.ticket ≠ t)
    (granted : ∀ g ∈ s'.granted, g ∈ s.granted ∧ g ≠ t)
    (keepsQueued : ∀ w ∈ s.queue, w.ticket ≠ t → w ∈ s'.queue)
    (keepsGranted : ∀ g ∈ s.granted, g ≠ t → g ∈ s'.granted) : Tracks cs s' hs := by
  have nodup := h.tickets_nodup
  simp only [List.filterMap_cons, Wait.ticket?, List.nodup_cons] at nodup
  -- every other handle has another ticket
  have other : ∀ u a, Wait.queued u a ∈ hs → u ≠ t := fun u a mem same =>
    nodup.1 (List.mem_filterMap.mpr ⟨_, mem, by simp [Wait.ticket?, same]⟩)
  refine ⟨nodup.2, fun u a mem => next ▸ h.tickets_lt u a (List.mem_cons_of_mem _ mem), ?_, ?_, ?_⟩
  · intro w hw
    rcases queue w hw with ⟨inQueue, ne⟩
    simpa [ne] using h.queued_held w inQueue
  · intro g hg
    rcases granted g hg with ⟨inGranted, ne⟩
    simpa [ne] using h.granted_held g inGranted
  · intro u a mem gone notGranted
    have ne := other u a mem
    exact h.withdrawn_fired u a (List.mem_cons_of_mem _ mem)
      (fun w hw same => gone w (keepsQueued w hw (same ▸ ne)) same)
      (fun hg => notGranted (keepsGranted u hg ne))

theorem Tracks.withdraw_handle (h : Tracks cs s (.queued t token :: hs)) (wf : s.WellFormed)
    (queued : s.isQueued t = true) : Tracks cs (s.withdraw t) hs := by
  rcases isQueued_iff.mp queued with ⟨v, hv, rfl⟩
  refine h.retire rfl ?_ ?_ ?_ ?_
  · intro w hw
    rcases List.mem_filter.mp hw with ⟨inQueue, ne⟩
    exact ⟨inQueue, by simpa using ne⟩
  · -- a queued ticket is younger than every grant
    intro g hg
    exact ⟨hg, Nat.ne_of_lt (wf.granted_before g hg v hv)⟩
  · intro w hw ne
    exact List.mem_filter.mpr ⟨hw, by simpa using ne⟩
  · intro g hg _
    exact hg

theorem Tracks.collect_handle (h : Tracks cs s (.queued t token :: hs)) (wf : s.WellFormed)
    (granted : s.isGranted t = true) : Tracks cs (s.collect t) hs := by
  have ht : t ∈ s.granted := isGranted_iff.mp granted
  refine h.retire rfl ?_ ?_ ?_ ?_
  · -- a granted ticket is older than every queued one
    intro w hw
    exact ⟨hw, Nat.ne_of_gt (wf.granted_before t ht w hw)⟩
  · intro g hg
    rcases (wf.granted_nodup.mem_erase_iff).mp hg with ⟨ne, inGranted⟩
    exact ⟨inGranted, ne⟩
  · intro w hw _
    exact hw
  · intro g hg ne
    exact (List.mem_erase_of_ne ne).mpr hg

theorem Tracks.forget_handle (h : Tracks cs s (.queued t token :: hs))
    (absent : ∀ w ∈ s.queue, w.ticket ≠ t) (ungranted : t ∉ s.granted) : Tracks cs s hs := by
  refine h.retire rfl (fun w hw => ⟨hw, absent w hw⟩) (fun g hg => ⟨hg, ?_⟩)
    (fun w hw _ => hw) (fun g hg _ => hg)
  rintro rfl
  exact ungranted hg

end Retire

/-- Dropping a handle withdraws its ticket, or collects its granted unit and hands it back;
the other handles still describe the semaphore. -/
theorem Tracks.drop {w : Wait} (h : Tracks cs s (w :: hs)) (wf : s.WellFormed) :
    Tracks cs (w.drop cs s) hs := by
  cases w with
  | ready r => exact h.of_cons_ready
  | queued t token =>
    simp only [Wait.drop]
    by_cases queued : s.isQueued t
    · simp only [queued, if_true]
      exact h.withdraw_handle wf queued
    by_cases granted : s.isGranted t
    · have collected := h.collect_handle wf granted
      simp only [queued, granted, Bool.false_eq_true, if_false, if_true]
      cases back : (s.collect t).releaseUnits cs 1 with
      | error f => exact collected
      | ok s' => exact collected.release back
    · simp only [queued, granted, Bool.false_eq_true, if_false]
      exact h.forget_handle (by simpa using queued) (by simpa using granted)

/-- Polling a handle replaces it by what the poll leaves: a settled handle, or itself while
pending. -/
theorem Tracks.poll {w : Wait} (h : Tracks cs s (w :: hs)) (wf : s.WellFormed) :
    Tracks cs (w.poll cs s).2.2 ((w.poll cs s).2.1 :: hs) := by
  cases w with
  | ready r => cases r <;> exact h.of_cons_ready.cons_ready _
  | queued t token =>
    simp only [Wait.poll]
    by_cases hit : cs.hits token
    · by_cases queued : s.isQueued t
      · simp only [hit, queued, if_true]
        exact (h.withdraw_handle wf queued).cons_ready _
      by_cases granted : s.isGranted t
      · simp only [hit, queued, granted, Bool.false_eq_true, if_false, if_true]
        exact (h.collect_handle wf granted).cons_ready _
      · simp only [hit, queued, granted, Bool.false_eq_true, if_false, if_true]
        exact (h.forget_handle (by simpa using queued) (by simpa using granted)).cons_ready _
    · by_cases granted : s.isGranted t
      · simp only [hit, granted, Bool.false_eq_true, if_false, if_true]
        exact (h.collect_handle wf granted).cons_ready _
      by_cases queued : s.isQueued t
      · simp only [hit, queued, granted, Bool.false_eq_true, if_false, if_true]
        exact h
      · simp only [hit, queued, granted, Bool.false_eq_true, if_false]
        exact (h.forget_handle (by simpa using queued) (by simpa using granted)).cons_ready _

namespace Session

/-- The invariant of a session: its names are distinct, its semaphore is well formed, and its
handles describe the semaphore's waits. -/
structure Coherent (s : Session) : Prop where
  distinct : s.waits.Distinct
  wellFormed : s.sem.WellFormed
  tracks : Tracks s.cancellations s.sem s.handles

theorem step_distinct {s : Session} (c : Command) (d : s.waits.Distinct) :
    (s.step c).1.waits.Distinct := by
  cases c <;> simp only [Session.step] <;> (repeat' split) <;>
    first | exact d | exact d.put _ _ | exact d.remove _

theorem Coherent.ofCounts {i m : Int64} (metered : Bool) (nonneg : 0 ≤ i.toInt)
    (le : i.toInt ≤ m.toInt) : Coherent { sem := Semaphore.ofCounts i m, metered } where
  distinct := by simp [Registry.Distinct]
  wellFormed := wellFormed_ofCounts nonneg le
  tracks := ⟨by simp [handles, Registry.values], by simp [handles, Registry.values],
    by simp [Semaphore.ofCounts], by simp [Semaphore.ofCounts], by simp [handles, Registry.values]⟩

theorem Coherent.step {s : Session} {c : Command} (h : s.Coherent) (fits : s.Fits c) :
    (s.step c).1.Coherent := by
  have wf := (step_moves fits).wellFormed h.wellFormed
  have tracks := h.tracks
  cases c with
  | wait id token =>
    -- the new handle is made first, and then the old one of that name is dropped
    have made := tracks.acquire token
    have wf1 := (acquire_moves (s := s.sem) fits.1).wellFormed h.wellFormed
    refine ⟨h.distinct.put _ _, wf, ?_⟩
    simp only [Session.step, handles]
    cases found : s.waits.find? id with
    | none =>
      rw [Registry.values_put_none found]
      exact made.perm (List.perm_append_singleton _ _).symm
    | some old =>
      rcases Registry.values_put (a := Wait.ofAdmission token (s.sem.acquire s.cancellations
        token).2) found with ⟨rest, before, after⟩
      have both := (made.perm (before.cons _)).perm (List.Perm.swap _ _ _)
      exact (both.drop wf1).perm after.symm
  | poll id =>
    cases found : s.waits.find? id with
    | none =>
      simp only [Session.step, found]
      exact h
    | some w =>
      rcases Registry.values_put (a := (w.poll s.cancellations s.sem).2.1) found with
        ⟨rest, before, after⟩
      refine ⟨?_, wf, ?_⟩
      · simp only [Session.step, found]
        exact h.distinct.put _ _
      · simp only [Session.step, found, handles]
        exact ((tracks.perm before).poll h.wellFormed).perm after.symm
  | isReady id =>
    simp only [Session.step]
    cases s.waits.find? id <;> exact h
  | drop id =>
    cases found : s.waits.find? id with
    | none =>
      simp only [Session.step, found]
      exact h
    | some w =>
      rcases Registry.values_remove h.distinct found with ⟨rest, before, after⟩
      refine ⟨?_, wf, ?_⟩
      · simp only [Session.step, found]
        exact h.distinct.remove _
      · simp only [Session.step, found, handles, after]
        exact (tracks.perm before).drop h.wellFormed
  | release n =>
    refine ⟨step_distinct _ h.distinct, wf, ?_⟩
    rcases step_release_cases s n with ⟨f, failed⟩ | ⟨s', -, released, passed⟩
    · rw [failed]
      exact tracks
    · rw [passed]
      exact tracks.release released
  | tryRelease n =>
    refine ⟨step_distinct _ h.distinct, wf, ?_⟩
    rcases step_tryRelease_cases s n with ⟨f, same⟩ | same | ⟨s', -, released, passed⟩
    · rw [same]
      exact tracks
    · rw [same]
      exact tracks
    · rw [passed]
      exact tracks.release released
  | tryReset initial limit =>
    refine ⟨step_distinct _ h.distinct, wf, ?_⟩
    simp only [Session.step, tryReset, handles]
    cases checkCounts initial limit with
    | error f => exact tracks
    | ok counts =>
      obtain ⟨i, m⟩ := counts
      by_cases empty : (s.sem.purge s.cancellations).queue = []
      · simp only [bind, Except.bind, pure, Except.pure]
        rw [if_pos (by simp [empty])]
        exact tracks.purge.of_eq rfl rfl rfl
      · simp only [bind, Except.bind, pure, Except.pure, List.isEmpty_iff, empty, if_false]
        exact tracks.purge
  | count => exact ⟨h.distinct, wf, tracks.purge⟩
  | waiters => exact ⟨h.distinct, wf, tracks.purge⟩
  | limit => exact h
  | cancel k => exact ⟨h.distinct, wf, tracks.cancel k⟩

theorem Reachable.coherent {s : Session} (reached : s.Reachable) : s.Coherent := by
  induction reached with
  | create made =>
    rcases create_ok made with ⟨i, m, checked, rfl⟩
    rcases checkCounts_ok checked with ⟨hi, hm, le, -, -⟩
    exact Coherent.ofCounts _ (by omega) (by omega)
  | step _ fits ih => exact ih.step fits

end Session

end Semaphore

end Sluice
