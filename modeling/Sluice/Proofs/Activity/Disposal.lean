import Mathlib
import Sluice.Proofs.Activity.Crowd
import Sluice.Proofs.Semaphore.Handles
import Sluice.Activity.Script
/-!
# Disposal of an activity

A dispose call marks the activity disposed before it asks the gate for the slot, and every
later dispose call sees the mark and returns at once. So only the first dispose call can bring
the activity to `disposed`: once admitted, it stops the activity if it is started and ends in
`disposed`, whatever the stop hook answers.

That call cannot fail at the gate. It waits with no token, and the waits of the calls at the
gate describe the gate's tickets (`Semaphore.Tracks`): a ticket leaves the queue without a
grant only when its token fires. Hence, along any turns that never drop a dispose call still in
flight, an activity marked disposed is `disposed` or has a dispose call in flight
(`Crowd.Disposal`), and once no dispose call is in flight it is `disposed`, with the stop hook
invoked after its last successful start (`disposed_once_no_dispose_in_flight`).

Dropping the first dispose call before it is done leaves the mark without the disposal: a
later dispose call returns at once while the activity is `stopped`, when the dropped call was
running the stop hook (`dispose_returns_while_stopped`), or even `started`, when it was waiting
at the gate behind a start.

* `Call.wait?`, `Call.Tokenless`, `Semaphore.KeepsTracks`.
* `Activity.Past`, `Activity.Disposes`, with one lemma per activity function.
* `Crowd.dropsDispose`, `Crowd.KeepsDisposals`, `Crowd.Disposal`, `Crowd.Disposal.move`.
-/

namespace Sluice

namespace Call

variable {H : Type}

def wait? : Call H → Option Wait
  | .admitting _ _ w => some w
  | _ => none

/-- A dispose call at the gate waits with no token. -/
def Tokenless : Call H → Prop
  | .admitting .dispose _ (.queued _ tok) => tok = none
  | _ => True

theorem tokenless_of_wait {x : Call H} (none_ : x.wait? = none) : x.Tokenless := by
  cases x with
  | admitting kind token w => cases none_
  | running => trivial
  | finished => trivial

end Call

namespace Semaphore

variable {cs : Cancellations}

/-- A change of a semaphore after which any handles that described it still do. -/
def KeepsTracks (cs : Cancellations) (g g' : Semaphore) : Prop :=
  ∀ hs, Tracks cs g hs → Tracks cs g' hs

theorem KeepsTracks.refl (g : Semaphore) : KeepsTracks cs g g := fun _ => id

theorem release_one (g : Semaphore) : g.release cs 1 = g.releaseUnits cs 1 := by
  simp [release, checkRelease, int64Max, bind, Except.bind]

theorem acquire_untokened (g : Semaphore) :
    (g.acquire cs none).2 = .settled (.ok ()) ∨ ∃ t, (g.acquire cs none).2 = .queued t := by
  unfold acquire
  simp only [Cancellations.hits, Bool.false_eq_true, if_false]
  split
  · exact .inl rfl
  · exact .inr ⟨_, rfl⟩

end Semaphore

namespace Wait

variable {cs : Cancellations} {g : Semaphore} {w : Wait}

theorem poll_pending (pending : (w.poll cs g).1 = .pending) :
    (w.poll cs g).2.1 = w ∧ (w.poll cs g).2.2 = g ∧ ∃ t tok, w = .queued t tok := by
  cases w with
  | ready r => cases r <;> simp [poll] at pending
  | queued t tok =>
    -- only a ticket that is neither fired, granted nor withdrawn stays pending
    simp only [poll] at pending ⊢
    split_ifs at pending ⊢
    exact ⟨rfl, rfl, t, tok, rfl⟩

theorem poll_settles {r : Except Fault Unit} (ended : (w.poll cs g).1 = .ready r) :
    ∃ r', (w.poll cs g).2.1 = .ready r' := by
  cases w with
  | ready r₀ => cases r₀ <;> exact ⟨_, rfl⟩
  | queued t tok =>
    simp only [poll] at ended ⊢
    split_ifs at ended ⊢ <;> simp_all

end Wait

namespace Activity

variable {W H : Type} (hooks : Hooks W H) (cs : Cancellations) {a : Activity}

theorem leave_keepsTracks : Semaphore.KeepsTracks cs a.gate (leave cs a).gate := by
  intro hs h
  cases released : a.gate.release cs 1 with
  | error e => simpa [leave, released] using h
  | ok g =>
    rw [Semaphore.release_one] at released
    simpa [leave, Semaphore.release_one, released] using h.release released

/-- What a call's step leaves once the call is past the gate: the gate as it was or with the
slot given back, a call that no longer waits, and the mark of disposal as it was. -/
structure Past (a : Activity) (s : CallStep W H) : Prop where
  gate : Semaphore.KeepsTracks cs a.gate s.1.gate
  wait : s.2.2.1.wait? = none
  marked : s.1.disposed = a.disposed

theorem Past.ofPhase {q : Phase} {s : CallStep W H} (h : Past cs { a with phase := q } s) :
    Past cs a s :=
  ⟨h.gate, h.wait, h.marked⟩

/-- A step of a dispose call that leaves it in flight or the activity disposed. -/
def Disposes (s : CallStep W H) : Prop :=
  s.2.2.1.kind? = some .dispose ∨ s.1.phase = .disposed

theorem finishWith_past (w : W) (r : Except Fault Unit) :
    Past cs a (finishWith cs a w r : CallStep W H) :=
  ⟨leave_keepsTracks cs, rfl, rfl⟩

theorem complete_past (kind : Transition) (w : W) (r : Except Fault Unit) :
    Past cs a (complete cs kind a w r : CallStep W H) := by
  cases kind <;> rcases r with e | ⟨⟩ <;> exact ⟨leave_keepsTracks cs, rfl, rfl⟩

theorem complete_disposes (w : W) (r : Except Fault Unit) :
    Disposes (complete cs .dispose a w r : CallStep W H) :=
  .inr rfl

theorem runHook_past (kind : Transition) (w : W) (h : H) :
    Past cs a (runHook hooks cs kind a w h) := by
  unfold runHook
  generalize hooks.pollHook cs w h = q
  obtain ⟨w', p, h'⟩ := q
  cases p with
  | pending => exact ⟨.refl _, rfl, rfl⟩
  | ready r => exact complete_past cs kind w' r

theorem runHook_disposes (w : W) (h : H) : Disposes (runHook hooks cs .dispose a w h) := by
  unfold runHook
  generalize hooks.pollHook cs w h = q
  obtain ⟨w', p, h'⟩ := q
  cases p with
  | pending => exact .inl rfl
  | ready r => exact complete_disposes cs w' r

theorem admitted_past (kind : Transition) (token : Option Token) (w : W) :
    Past cs a (admitted hooks cs kind token a w) := by
  cases kind with
  | start =>
    unfold admitted
    dsimp only
    split_ifs
    · exact finishWith_past cs w _
    · exact finishWith_past cs w _
    · exact (runHook_past hooks cs .start _ _).ofPhase
  | stop =>
    unfold admitted
    dsimp only
    split_ifs
    · exact finishWith_past cs w _
    · exact (runHook_past hooks cs .stop _ _).ofPhase
  | dispose =>
    unfold admitted
    dsimp only
    split_ifs
    · exact complete_past cs .dispose w _
    · exact (runHook_past hooks cs .dispose _ _).ofPhase

theorem admitted_disposes (token : Option Token) (w : W) :
    Disposes (admitted hooks cs .dispose token a w) := by
  unfold admitted
  dsimp only
  split_ifs
  · exact complete_disposes cs w _
  · exact runHook_disposes hooks cs _ _

/-- One poll of a call at the gate, from handles that describe the gate with the call's wait
first: the call's wait, if it still waits, and the other handles describe the gate it leaves.
A call still waiting keeps the wait it had, which is queued. -/
theorem pollGate_tracks (kind : Transition) (token : Option Token) {wait : Wait} {hs : List Wait}
    (wf : a.gate.WellFormed) (h : Semaphore.Tracks cs a.gate (wait :: hs)) (w : W) :
    Semaphore.Tracks cs (pollGate hooks cs kind token a w wait).1.gate
        ((pollGate hooks cs kind token a w wait).2.2.1.wait?.toList ++ hs) ∧
      (pollGate hooks cs kind token a w wait).1.disposed = a.disposed ∧
      ((pollGate hooks cs kind token a w wait).2.2.1.wait? = none ∨
        (pollGate hooks cs kind token a w wait).2.2.1 = .admitting kind token wait ∧
          ∃ t tok, wait = .queued t tok) := by
  have polled := h.poll wf
  have pending := @Wait.poll_pending cs a.gate wait
  have settles := fun r => @Wait.poll_settles cs a.gate wait r
  unfold pollGate
  generalize wait.poll cs a.gate = q at polled pending settles ⊢
  obtain ⟨p, wait', g⟩ := q
  dsimp only at polled pending settles ⊢
  cases p with
  | pending =>
    obtain ⟨rfl, rfl, queued⟩ := pending rfl
    exact ⟨polled, rfl, .inr ⟨rfl, queued⟩⟩
  | ready r =>
    -- the poll settled the wait, so the call is past the gate
    obtain ⟨r', rfl⟩ := settles r rfl
    have rest : Semaphore.Tracks cs g hs := polled.of_cons_ready
    rcases r with e | ⟨⟩
    · exact ⟨rest, rfl, .inl rfl⟩
    · have past := admitted_past hooks cs (a := { a with gate := g }) kind token w
      refine ⟨?_, past.marked, .inl past.wait⟩
      rw [past.wait]
      exact past.gate _ rest

/-- A dispose call waiting with no token is never refused by the gate: its ticket is still
queued or granted, so the poll leaves it waiting or admits it. -/
theorem pollGate_disposes {token : Option Token} {t : Nat} {hs : List Wait}
    (h : Semaphore.Tracks cs a.gate (.queued t none :: hs)) (w : W) :
    Disposes (pollGate hooks cs .dispose token a w (.queued t none)) := by
  -- a ticket leaves the queue without a grant only when its token fires, and there is none
  have held : a.gate.isGranted t = true ∨ a.gate.isQueued t = true := by
    by_contra gone
    simp only [not_or, Bool.not_eq_true] at gone
    have fired := h.withdrawn_fired t none List.mem_cons_self
      (fun v hv same => by
        have queued : a.gate.isQueued t = true := Semaphore.isQueued_iff.mpr ⟨v, hv, same⟩
        rw [gone.2] at queued
        cases queued)
      (fun mem => by
        have granted : a.gate.isGranted t = true := Semaphore.isGranted_iff.mpr mem
        rw [gone.1] at granted
        cases granted)
    cases fired
  unfold pollGate
  by_cases granted : a.gate.isGranted t = true
  · simp only [Wait.poll, Cancellations.hits, granted, Bool.false_eq_true, if_false, if_true]
    exact admitted_disposes hooks cs _ _
  · have queued : a.gate.isQueued t = true := held.resolve_left granted
    simp only [Wait.poll, Cancellations.hits, granted, queued, Bool.false_eq_true, if_false,
      if_true]
    exact .inl rfl

/-- A call that asks the gate for the slot and polls its wait once: its wait, if it still
waits, joins the handles that describe the gate, under the call's own token. -/
theorem enter_tracks (kind : Transition) (token : Option Token) {hs : List Wait}
    (wf : a.gate.WellFormed) (few : a.gate.nextTicket < 2 ^ 63)
    (h : Semaphore.Tracks cs a.gate hs) (w : W) :
    Semaphore.Tracks cs (enter hooks cs kind token a w).1.gate
        ((enter hooks cs kind token a w).2.2.1.wait?.toList ++ hs) ∧
      (enter hooks cs kind token a w).1.disposed = a.disposed ∧
      ((enter hooks cs kind token a w).2.2.1.wait? = none ∨
        ∃ t, (enter hooks cs kind token a w).2.2.1 = .admitting kind token (.queued t token)) := by
  have acquired := h.acquire token
  have wf' : (a.gate.acquire cs token).1.WellFormed := by
    cases hit : cs.hits token
    · exact wf.acquire hit (wf.count_room few)
    · simpa [Semaphore.acquire, hit] using wf
  unfold enter
  generalize a.gate.acquire cs token = q at acquired wf' ⊢
  obtain ⟨g, adm⟩ := q
  obtain ⟨tracked, marked, waits⟩ :=
    pollGate_tracks hooks cs kind token (a := { a with gate := g }) wf'
      acquired w
  refine ⟨tracked, marked, ?_⟩
  rcases waits with none' | ⟨same, t, tok, queued⟩
  · exact .inl none'
  · -- a wait still pending was queued by the admission, under the call's token
    cases adm with
    | settled r => cases queued
    | queued t' =>
      simp only [Wait.ofAdmission, Wait.queued.injEq] at queued
      obtain ⟨rfl, rfl⟩ := queued
      exact .inr ⟨t', same⟩

theorem enter_disposes {hs : List Wait} (h : Semaphore.Tracks cs a.gate hs) (w : W) :
    Disposes (enter hooks cs .dispose none a w) := by
  have acquired := h.acquire none
  have untokened := @Semaphore.acquire_untokened cs a.gate
  unfold enter
  generalize a.gate.acquire cs none = q at acquired untokened ⊢
  obtain ⟨g, adm⟩ := q
  dsimp only at acquired untokened ⊢
  rcases untokened with rfl | ⟨t, rfl⟩
  · exact admitted_disposes hooks cs (a := { a with gate := g }) none w
  · exact pollGate_disposes hooks cs (a := { a with gate := g }) acquired w

/-- Making a call and polling it once: its wait, if it waits, joins the handles that describe
the gate; a dispose call waits with no token; and only a first dispose call marks the activity
disposed. -/
theorem begin_tracks (kind : Transition) (token : Option Token) {hs : List Wait}
    (wf : a.gate.WellFormed) (few : a.gate.nextTicket < 2 ^ 63)
    (h : Semaphore.Tracks cs a.gate hs) (w : W) :
    Semaphore.Tracks cs (begin hooks cs kind token a w).1.gate
        ((begin hooks cs kind token a w).2.2.1.wait?.toList ++ hs) ∧
      (begin hooks cs kind token a w).2.2.1.Tokenless ∧
      ((begin hooks cs kind token a w).1.disposed = a.disposed ∨
        kind = .dispose ∧ a.disposed = false) := by
  -- the call enters with the token `tok`, which is none for a dispose call
  have entered : ∀ (b : Activity) (tok : Option Token), b.gate = a.gate →
      (kind = .dispose → tok = none) →
      Semaphore.Tracks cs (enter hooks cs kind tok b w).1.gate
          ((enter hooks cs kind tok b w).2.2.1.wait?.toList ++ hs) ∧
        (enter hooks cs kind tok b w).2.2.1.Tokenless ∧
        (enter hooks cs kind tok b w).1.disposed = b.disposed := by
    intro b tok gate untokened
    obtain ⟨tracked, marked, waits⟩ := enter_tracks hooks cs kind tok (a := b)
      (gate ▸ wf) (gate ▸ few) (gate ▸ h) w
    refine ⟨tracked, ?_, marked⟩
    rcases waits with none' | ⟨t, same⟩
    · exact Call.tokenless_of_wait none'
    · rw [same]
      cases kind with
      | dispose => exact untokened rfl
      | start => trivial
      | stop => trivial
  cases kind with
  | start =>
    unfold begin
    dsimp only
    split_ifs
    · exact ⟨h, trivial, .inl rfl⟩
    · exact ⟨h, trivial, .inl rfl⟩
    · obtain ⟨tracked, tokenless, marked⟩ := entered a token rfl (fun no => by cases no)
      exact ⟨tracked, tokenless, .inl marked⟩
  | stop =>
    unfold begin
    dsimp only
    split_ifs
    · exact ⟨h, trivial, .inl rfl⟩
    · exact ⟨h, trivial, .inl rfl⟩
    · obtain ⟨tracked, tokenless, marked⟩ := entered a none rfl (fun _ => rfl)
      exact ⟨tracked, tokenless, .inl marked⟩
  | dispose =>
    unfold begin
    dsimp only
    split_ifs with marked
    · exact ⟨h, trivial, .inl rfl⟩
    · obtain ⟨tracked, tokenless, -⟩ := entered { a with disposed := true } none rfl
        (fun _ => rfl)
      exact ⟨tracked, tokenless, .inr ⟨rfl, by simpa using marked⟩⟩

theorem begin_disposes (token : Option Token) (fresh : a.disposed = false) {hs : List Wait}
    (h : Semaphore.Tracks cs a.gate hs) (w : W) :
    Disposes (begin hooks cs .dispose token a w) := by
  unfold begin
  dsimp only
  rw [if_neg (by simp [fresh])]
  exact enter_disposes hooks cs (a := { a with disposed := true }) h w

/-- Dropping a call: a wait is withdrawn or hands its unit back, a running call gives its slot
back; the other handles still describe the gate, and the mark of disposal stays. -/
theorem drop_tracks (x : Call H) {hs : List Wait} (wf : a.gate.WellFormed)
    (h : Semaphore.Tracks cs a.gate (x.wait?.toList ++ hs)) :
    Semaphore.Tracks cs (drop cs x a).gate hs ∧ (drop cs x a).disposed = a.disposed := by
  cases x with
  | admitting kind token wait => exact ⟨h.drop wf, rfl⟩
  | running kind hook => exact ⟨leave_keepsTracks cs _ h, rfl⟩
  | finished => exact ⟨h, rfl⟩

end Activity

namespace Crowd

variable {W H : Type} (hooks : Hooks W H) {c : Crowd W H}

def dropsDispose (c : Crowd W H) : Order → Bool
  | .drop i => c.calls[i]?.bind Call.kind? == some .dispose
  | _ => false

def KeepsDisposals : Crowd W H → List Order → Prop
  | _, [] => True
  | c, o :: os => c.dropsDispose o = false ∧ KeepsDisposals (c.move hooks o).1 os

/-- The calls at the gate against the gate, and the disposal owed: the waits of the calls
describe the gate's tickets, a dispose call waits with no token, and an activity marked
disposed is `disposed` or has a dispose call in flight. -/
structure Disposal (c : Crowd W H) : Prop where
  tracks : Semaphore.Tracks c.cancellations c.activity.gate (c.calls.filterMap Call.wait?)
  tokenless : ∀ x ∈ c.calls, x.Tokenless
  owed : c.activity.disposed = true →
    c.activity.phase = .disposed ∨ ∃ x ∈ c.calls, x.kind? = some .dispose

theorem waits_set {i : Nat} {x : Call (H × Hook)} (found : c.calls[i]? = some x)
    (y : Call (H × Hook)) :
    ∃ rest, (c.calls.filterMap Call.wait?).Perm (x.wait?.toList ++ rest) ∧
      ((c.calls.set i y).filterMap Call.wait?).Perm (y.wait?.toList ++ rest) := by
  obtain ⟨front, back, before, after⟩ := filterMap_set_split Call.wait? found y
  refine ⟨front ++ back, ?_, ?_⟩
  · rw [before, List.append_assoc]
    exact List.perm_append_comm_assoc _ _ _
  · rw [after, List.append_assoc]
    exact List.perm_append_comm_assoc _ _ _

theorem mem_set_of_ne {α : Type} {l : List α} {i : Nat} {x z : α} (found : l[i]? = some x)
    (mem : z ∈ l) (other : z ≠ x) (y : α) : z ∈ l.set i y := by
  obtain ⟨j, at_j⟩ := List.mem_iff_getElem?.mp mem
  have apart : i ≠ j := by
    rintro rfl
    rw [found, Option.some.injEq] at at_j
    exact other at_j.symm
  exact List.mem_iff_getElem?.mpr ⟨j, by rw [List.getElem?_set_ne apart]; exact at_j⟩

theorem Disposal.owed_set (d : c.Disposal) {i : Nat} {x : Call (H × Hook)}
    (found : c.calls[i]? = some x) (notDispose : x.kind? ≠ some .dispose) (y : Call (H × Hook))
    {a : Activity} (marked : a.disposed = c.activity.disposed)
    (stays : c.activity.phase = .disposed → a.phase = .disposed) :
    a.disposed = true → a.phase = .disposed ∨ ∃ z ∈ c.calls.set i y, z.kind? = some .dispose := by
  intro disposed
  rcases d.owed (marked ▸ disposed) with phase | ⟨z, mem, isDispose⟩
  · exact .inl (stays phase)
  · refine .inr ⟨z, mem_set_of_ne found mem (fun same => notDispose (same ▸ isDispose)) y,
      isDispose⟩

theorem Disposal.tokenless_set (d : c.Disposal) {i : Nat} {y : Call (H × Hook)}
    (tokenless : y.Tokenless) : ∀ z ∈ c.calls.set i y, z.Tokenless := by
  intro z mem
  rcases List.mem_or_eq_of_mem_set mem with old | rfl
  · exact d.tokenless z old
  · exact tokenless

/-- A turn that polls the `i`-th call, `x`, of kind `kind`, leaving the step `s`: the gate and
the other calls' waits as a poll leaves them, and a dispose call admitted or still waiting. -/
theorem Disposal.polled (d : c.Disposal) {i : Nat} {x : Call (H × Hook)}
    (found : c.calls[i]? = some x) {kind : Transition} (kindOf : x.kind? = some kind)
    {s : CallStep (W × List HookEvent) (H × Hook)} {rest : List Wait}
    (before : (c.calls.filterMap Call.wait?).Perm (x.wait?.toList ++ rest))
    (after : ((c.calls.set i s.2.2.1).filterMap Call.wait?).Perm (s.2.2.1.wait?.toList ++ rest))
    (tracked : Semaphore.Tracks c.cancellations c.activity.gate (x.wait?.toList ++ rest) →
      Semaphore.Tracks c.cancellations s.1.gate (s.2.2.1.wait?.toList ++ rest))
    (tokenless : s.2.2.1.Tokenless) (marked : s.1.disposed = c.activity.disposed)
    (disposes : kind = .dispose → Activity.Disposes s)
    (stays : c.activity.phase = .disposed → s.1.phase = .disposed) :
    (c.keep s (c.calls.set i s.2.2.1)).Disposal := by
  refine ⟨(tracked (d.tracks.perm before)).perm after.symm, d.tokenless_set tokenless, ?_⟩
  show s.1.disposed = true → s.1.phase = .disposed ∨ ∃ z ∈ c.calls.set i s.2.2.1, z.kind? = some .dispose
  by_cases isDispose : kind = .dispose
  · -- the dispose call polled is admitted or waits on
    intro _
    rcases disposes isDispose with inFlight | phase
    · exact .inr ⟨s.2.2.1, List.mem_set (List.getElem?_eq_some_iff.mp found).1 _, inFlight⟩
    · exact .inl phase
  · exact d.owed_set found (by rw [kindOf]; simpa using isDispose) _ marked stays

/-- A new call keeps the disposal owed: a dispose call that marks the activity is itself in
flight, and it waits with no token. -/
theorem Disposal.begin (h : c.Sound) (d : c.Disposal) (few : c.activity.gate.nextTicket < 2 ^ 63)
    (kind : Transition) (token : Option Token) : (c.move hooks (.call kind token)).1.Disposal := by
  have wf := h.fit.slot.wellFormed
  have stays : c.activity.phase = .disposed → (Activity.begin hooks.logged c.cancellations kind
      token c.activity (c.world, c.log)).1.phase = .disposed :=
    (h.move hooks few (.call kind token)).stays
  obtain ⟨tracked, tokenless, marked⟩ := Activity.begin_tracks hooks.logged c.cancellations
    kind token wf few d.tracks (c.world, c.log)
  have disposes : kind = .dispose → c.activity.disposed = false →
      Activity.Disposes (Activity.begin hooks.logged c.cancellations kind token c.activity
        (c.world, c.log)) := by
    rintro rfl fresh
    exact Activity.begin_disposes hooks.logged c.cancellations token fresh d.tracks _
  show Disposal (c.keep _ (c.calls ++ [_]))
  generalize Activity.begin hooks.logged c.cancellations kind token c.activity (c.world, c.log) = s
    at tracked tokenless marked disposes stays ⊢
  have waits : (c.calls ++ [s.2.2.1]).filterMap Call.wait? =
      c.calls.filterMap Call.wait? ++ s.2.2.1.wait?.toList := by
    rw [List.filterMap_append]
    cases s.2.2.1 <;> rfl
  refine ⟨?_, fun z mem => ?_, fun disposed => ?_⟩
  · show Semaphore.Tracks c.cancellations s.1.gate ((c.calls ++ [s.2.2.1]).filterMap Call.wait?)
    rw [waits]
    exact tracked.perm List.perm_append_comm
  · rcases List.mem_append.mp mem with old | new
    · exact d.tokenless z old
    · rw [List.mem_singleton.mp new]
      exact tokenless
  · show s.1.phase = .disposed ∨ ∃ z ∈ c.calls ++ [s.2.2.1], z.kind? = some .dispose
    rcases marked with same | ⟨rfl, fresh⟩
    · rcases d.owed (same ▸ disposed) with phase | ⟨z, mem, isDispose⟩
      · exact .inl (stays phase)
      · exact .inr ⟨z, List.mem_append_left _ mem, isDispose⟩
    · rcases disposes rfl fresh with inFlight | phase
      · exact .inr ⟨s.2.2.1, List.mem_append_right _ (List.mem_singleton_self _), inFlight⟩
      · exact .inl phase

/-- A poll keeps the disposal owed: a dispose call waits with no token, so the gate cannot
refuse it, and once admitted it ends in `disposed`. -/
theorem Disposal.poll (h : c.Sound) (d : c.Disposal) (few : c.activity.gate.nextTicket < 2 ^ 63)
    (i : Nat) : (c.move hooks (.poll i)).1.Disposal := by
  have wf := h.fit.slot.wellFormed
  have stays := (h.move hooks few (.poll i)).stays
  cases found : c.calls[i]? with
  | none => simpa only [Crowd.move, found] using d
  | some x =>
    have mem : x ∈ c.calls := List.mem_of_getElem? found
    simp only [Crowd.move, found] at stays ⊢
    cases x with
    | admitting kind token wait =>
      have queued : wait.isReady = false := h.calls _ mem
      obtain ⟨rest, before, after⟩ := waits_set found
        (Activity.pollGate hooks.logged c.cancellations kind token c.activity (c.world, c.log)
          wait).2.2.1
      have step := fun (held : Semaphore.Tracks c.cancellations c.activity.gate (wait :: rest)) =>
        Activity.pollGate_tracks hooks.logged c.cancellations kind token wf
          held (c.world, c.log)
      refine d.polled found rfl before after (fun held => (step held).1) ?_
        (step (d.tracks.perm before)).2.1 (fun isDispose => ?_) stays
      · -- the call waits on with the wait it had, or is past the gate
        rcases (step (d.tracks.perm before)).2.2 with none' | ⟨same, -⟩
        · exact Call.tokenless_of_wait none'
        · rw [same]
          exact d.tokenless _ mem
      · -- a dispose call waits with no token, so the gate cannot refuse it
        subst isDispose
        cases wait with
        | ready r => cases queued
        | queued t tok =>
          have untokened : tok = none := d.tokenless _ mem
          subst untokened
          exact Activity.pollGate_disposes hooks.logged c.cancellations (d.tracks.perm before) _
    | running kind hook =>
      obtain ⟨rest, before, after⟩ := waits_set found
        (Activity.runHook hooks.logged c.cancellations kind c.activity (c.world, c.log)
          hook).2.2.1
      have past := Activity.runHook_past hooks.logged c.cancellations (a := c.activity) kind
        (c.world, c.log) hook
      refine d.polled found rfl before after (fun held => ?_) (Call.tokenless_of_wait past.wait)
        past.marked (fun isDispose => ?_) stays
      · rw [past.wait]
        exact past.gate _ held
      · subst isDispose
        exact Activity.runHook_disposes hooks.logged c.cancellations _ _
    | finished => exact d

/-- Every turn that drops no dispose call in flight keeps the disposal owed, while fewer than
`2 ^ 63` tickets have been issued. -/
theorem Disposal.move (h : c.Sound) (d : c.Disposal) (few : c.activity.gate.nextTicket < 2 ^ 63)
    (o : Order) (keeps : c.dropsDispose o = false) : (c.move hooks o).1.Disposal := by
  cases o with
  | call kind token => exact d.begin hooks h few kind token
  | poll i => exact d.poll hooks h few i
  | drop i =>
    have wf := h.fit.slot.wellFormed
    have stays := (h.move hooks few (.drop i)).stays
    cases found : c.calls[i]? with
    | none => simpa only [Crowd.move, found] using d
    | some x =>
      simp only [Crowd.move, found] at stays ⊢
      have notDispose : x.kind? ≠ some .dispose := by
        simpa [dropsDispose, found] using keeps
      obtain ⟨rest, before, after⟩ := waits_set found .finished
      obtain ⟨tracked, marked⟩ := Activity.drop_tracks c.cancellations x wf
        (d.tracks.perm before)
      exact ⟨tracked.perm after.symm, d.tokenless_set trivial,
        d.owed_set found notDispose _ marked stays⟩
  | cancel k => exact ⟨d.tracks.cancel k, d.tokenless, d.owed⟩

theorem Disposal.run (os : List Order) : ∀ {c : Crowd W H}, c.Sound → c.Disposal →
    c.activity.gate.nextTicket + os.length < 2 ^ 63 → c.KeepsDisposals hooks os →
      (c.run hooks os).Disposal := by
  induction os with
  | nil => exact fun _ d _ _ => d
  | cons o os ih =>
    intro c h d few kept
    simp only [List.length_cons] at few
    -- one turn, then the rest from where it left the crowd
    have moved := h.move hooks (by omega) o
    have tickets := moved.tickets
    exact ih moved.sound (d.move hooks h (by omega) o kept.1) (by omega) kept.2

theorem disposal_start (world : W) : (start world : Crowd W H).Disposal := by
  refine ⟨⟨List.nodup_nil, fun _ _ no => (by cases no), fun w queued => ?_, fun t granted => ?_,
    fun _ _ no => (by cases no)⟩, fun _ no => (by cases no), fun no => (by cases no)⟩
  · simp [start, Semaphore.singleSlot, Semaphore.ofCounts] at queued
  · simp [start, Semaphore.singleSlot, Semaphore.ofCounts] at granted

end Crowd

/-! ## A disposal that is not abandoned -/

/-- The last mark of a log the lifecycle accepts is never the one it expects next: at rest in
`stopped`, the last successful start has had its stop invoked. -/
theorem last_mark_ne_next {log : List HookEvent} {q : Phase} (h : HookEvent.replay log = some q) :
    (log.filterMap HookEvent.mark).getLast? ≠ some q.nextMark := by
  induction log using List.reverseRecOn generalizing q with
  | nil => simp
  | append_singleton init e ih =>
    rw [replay_concat, Option.bind_eq_some_iff] at h
    obtain ⟨q₀, replayed, step⟩ := h
    obtain ⟨unmarked, marked⟩ := Phase.next_mark step
    rw [List.filterMap_append]
    cases hm : e.mark with
    | none =>
      -- an event that is no mark leaves the last mark and the mark expected next
      simpa [List.filterMap_cons, hm, unmarked hm] using ih replayed
    | some m =>
      -- the event is the last mark, and the phase it leads to expects the other one
      simpa [List.filterMap_cons, hm] using (marked m hm).2.symm

/-- An activity marked disposed, with no dispose call in flight, is disposed, and the stop hook
has been invoked after its last successful start, as long as no dispose call was dropped before
it finished and fewer than `2 ^ 63` tickets can be issued. -/
theorem disposed_once_no_dispose_in_flight {W H : Type} (hooks : Hooks W H) (world : W)
    (orders : List Crowd.Order) (few : orders.length < 2 ^ 63)
    (kept : (Crowd.start world : Crowd W H).KeepsDisposals hooks orders) :
    let c := (Crowd.start world : Crowd W H).run hooks orders
    c.activity.disposed = true → (∀ x ∈ c.calls, x.kind? ≠ some .dispose) →
      c.activity.phase = .disposed ∧ (c.log.filterMap HookEvent.mark).getLast? ≠ some .start := by
  intro c disposed idle
  have fresh : (Crowd.start world : Crowd W H).activity.gate.nextTicket = 0 := rfl
  have room : (Crowd.start world : Crowd W H).activity.gate.nextTicket + orders.length < 2 ^ 63 := by
    rw [fresh, Nat.zero_add]
    exact few
  have sound := ((Crowd.sound_start world).run hooks orders room).1
  have owed := ((Crowd.disposal_start world).run hooks orders (Crowd.sound_start world) room
    kept).owed disposed
  -- with no dispose call left to owe it, the disposal has happened
  have phase : c.activity.phase = .disposed := by
    rcases owed with phase | ⟨x, mem, isDispose⟩
    · exact phase
    · exact absurd isDispose (idle x mem)
  refine ⟨phase, ?_⟩
  rcases sound.fit.lifecycle with replayed | ⟨-, replayed⟩
  · exact absurd phase (replay_ne_disposed replayed)
  · exact last_mark_ne_next replayed

/-- A start, then a dispose, on scripted hooks that end at once. -/
theorem disposed_after_start_and_dispose :
    let c := (Crowd.start ({} : Script)).run scriptHooks [.call .start none, .call .dispose none]
    c.activity.phase = .disposed ∧ (c.log.filterMap HookEvent.mark).getLast? ≠ some .start :=
  disposed_once_no_dispose_in_flight scriptHooks {} [.call .start none, .call .dispose none]
    (by decide) ⟨rfl, rfl, trivial⟩ rfl (by decide)

/-- A dispose call dropped while its stop hook runs leaves the activity marked disposed but
`stopped`; the next dispose call sees the mark and returns at once, with no dispose call left
in flight. -/
theorem dispose_returns_while_stopped :
    let s₀ := Activity.Session.create [] [{ hold := true }] false
    let s₁ := (s₀.step (.start "a" none)).1
    let s₂ := (s₁.step (.dispose "b")).1
    let s₃ := (s₂.step (.drop "b")).1
    let r := s₃.step (.dispose "c")
    r.2 = .done .unit ∧ (∀ e ∈ r.1.calls.entries, e.2.kind? ≠ some .dispose) ∧
      r.1.activity.disposed = true ∧ r.1.activity.phase = .stopped :=
  ⟨rfl, by decide, rfl, rfl⟩

end Sluice
