import Mathlib
import Sluice.Proofs.Activity.Calls
import Sluice.Activity.Script
/-!
# Any number of lifecycle calls on one activity

A crowd is one activity with any number of lifecycle calls on it. At each turn a caller makes
a start, stop or dispose call and polls it once, polls or drops any call made before, or
cancels a token; the hooks are any hooks, logged (`Hooks.logged`), so that the crowd carries
the log of every hook invoked, returned or dropped.

`Crowd.Sound` is the invariant: the activity is in line with the log (`Activity.Fit`), the
calls running a hook are exactly the hook the log has in progress, every call is as the
activity's functions leave it, and a dispose still in flight has marked the activity disposed.
`Crowd.Sound.move` keeps it over any turn, citing the lemma of the function the turn runs,
and `Crowd.Sound.run` over any list of turns.

`lifecycle_of_any_calls` reads the lifecycle off it: the one-unit gate admits one call at a
time and always takes its unit back; hooks never overlap and each begins from the phase the
lifecycle allows; the phase is `starting` or `stopping` exactly while that hook is in
progress, `started` exactly when no hook is in progress and the last to end was a start that
returned `Ok`, and `disposed` for good; a start that answers `Ok` leaves the activity started,
and successful starts and stop invocations alternate.

A hook in progress does not count as ended: while a stop hook runs after a successful start,
the last hook to end is that start, yet the activity is `stopping`
(`stopping_after_successful_start`).
-/

namespace Sluice

/-- One activity with lifecycle calls on it: the hooks' world and log, the calls made so far in
the order they were made, and the cancelled tokens. -/
structure Crowd (W H : Type) where
  activity : Activity := {}
  world : W
  log : List HookEvent := []
  calls : List (Call (H × Hook)) := []
  cancellations : Cancellations := {}

namespace Crowd

/-- What a caller does at a turn: make a call and poll it once, poll or drop the call made at a
position, or cancel a token. -/
inductive Order where
  | call (kind : Transition) (token : Option Token)
  | poll (i : Nat)
  | drop (i : Nat)
  | cancel (token : Token)

variable {W H : Type} (hooks : Hooks W H)

def start (world : W) : Crowd W H :=
  { world }

def keep (c : Crowd W H) (s : CallStep (W × List HookEvent) (H × Hook))
    (calls : List (Call (H × Hook))) : Crowd W H :=
  { c with activity := s.1, world := s.2.1.1, log := s.2.1.2, calls }

/-- Carry out one turn; a call or a poll also gives what the call's poll saw. -/
def move (c : Crowd W H) : Order → Crowd W H × Option (Poll (Except Fault Unit))
  | .call kind token =>
      let s := Activity.begin hooks.logged c.cancellations kind token c.activity (c.world, c.log)
      (c.keep s (c.calls ++ [s.2.2.1]), some s.2.2.2)
  | .poll i =>
      match c.calls[i]? with
      | none => (c, none)
      | some x =>
          match Activity.poll hooks.logged c.cancellations x c.activity (c.world, c.log) with
          | none => (c, none)
          | some s => (c.keep s (c.calls.set i s.2.2.1), some s.2.2.2)
  | .drop i =>
      match c.calls[i]? with
      | none => (c, none)
      | some x =>
          ({ c with activity := Activity.drop c.cancellations x c.activity,
                    log := c.log ++ x.dropped, calls := c.calls.set i .finished }, none)
  | .cancel k => ({ c with cancellations := c.cancellations.cancel k }, none)

def run (c : Crowd W H) : List Order → Crowd W H
  | [] => c
  | o :: os => (c.move hooks o).1.run os

def callKind (c : Crowd W H) : Order → Option Transition
  | .call kind _ => some kind
  | .poll i => c.calls[i]?.bind Call.kind?
  | _ => none

open HookEvent

/-- The invariant of a crowd: the activity is in line with the log, the calls running a hook
are exactly the hook in progress, every call is as the activity's functions leave it, and a
dispose in flight has marked the activity disposed. -/
structure Sound (c : Crowd W H) : Prop where
  fit : c.activity.Fit c.log 0
  runners : c.calls.filterMap Call.hook? = (inProgress c.log).toList
  calls : ∀ x ∈ c.calls, x.Sound
  disposing : ∀ x ∈ c.calls, x.kind? = some .dispose → c.activity.disposed = true

theorem filterMap_set_split {α β : Type} (f : α → Option β) {l : List α} {i : Nat} {x : α}
    (found : l[i]? = some x) (y : α) :
    ∃ front back, l.filterMap f = front ++ (f x).toList ++ back ∧
      (l.set i y).filterMap f = front ++ (f y).toList ++ back := by
  obtain ⟨lt, rfl⟩ := List.getElem?_eq_some_iff.mp found
  have cons : ∀ (z : α) (rest : List α),
      (z :: rest).filterMap f = (f z).toList ++ rest.filterMap f := by
    intro z rest
    rcases hz : f z with _ | b
    · simp [List.filterMap_cons_none hz]
    · simp [List.filterMap_cons_some hz]
  refine ⟨(l.take i).filterMap f, (l.drop (i + 1)).filterMap f, ?_, ?_⟩
  · conv_lhs => rw [← List.take_append_drop i l, ← List.getElem_cons_drop lt]
    rw [List.filterMap_append, cons, List.append_assoc]
  · rw [List.set_eq_take_append_cons_drop, if_pos lt, List.filterMap_append, cons,
      List.append_assoc]

variable {c : Crowd W H}

theorem Sound.runner (h : c.Sound) {x : Call (H × Hook)} (mem : x ∈ c.calls) {k : Hook}
    (running : x.hook? = some k) : inProgress c.log = some k := by
  have listed : k ∈ c.calls.filterMap Call.hook? := List.mem_filterMap.mpr ⟨x, mem, running⟩
  rw [h.runners] at listed
  exact Option.mem_toList.mp listed

/-- The hook a call is running, as a list, is in the list of all running hooks; a call in the
middle of others running a hook leaves none to the others. -/
theorem runners_alone {front back : List Hook} {k : Hook} {o : Option Hook}
    (whole : o.toList = front ++ (some k).toList ++ back) : front = [] ∧ back = [] := by
  have := congrArg List.length whole
  cases o with
  | none => simp at this
  | some k' =>
    simp only [List.length_append, Option.toList_some, List.length_singleton] at this
    exact ⟨List.eq_nil_of_length_eq_zero (by omega), List.eq_nil_of_length_eq_zero (by omega)⟩

/-- What one turn leaves: the invariant, at most one ticket more, a hook begun only as the
lifecycle allows, a start answering `Ok` only once started, and disposal kept. -/
structure Moved (c : Crowd W H) (o : Order) (m : Crowd W H × Option (Poll (Except Fault Unit))) :
    Prop where
  sound : m.1.Sound
  tickets : m.1.activity.gate.nextTicket ≤ c.activity.gate.nextTicket + 1
  began : ∀ new, m.1.log = c.log ++ new → ∀ k, .began k ∈ new → inProgress c.log = none ∧
    (k = .start → c.activity.phase = .stopped ∧ c.activity.disposed = false) ∧
    (k = .stop → c.activity.phase = .started)
  started : c.callKind o = some .start → m.2 = some (.ready (.ok ())) →
    m.1.activity.phase = .started
  stays : c.activity.phase = .disposed → m.1.activity.phase = .disposed

theorem Sound.still (h : c.Sound) (o : Order) : Moved c o (c, none) :=
  ⟨h, Nat.le_succ _, fun new same k mem => absurd mem (not_began_of_eq same k),
    (fun _ no => by cases no), id⟩

theorem began_of_stepped {kind : Transition} {s : CallStep (W × List HookEvent) (H × Hook)}
    (st : Activity.Stepped kind c.activity c.log s) (new : List HookEvent)
    (same : s.2.1.2 = c.log ++ new) (k : Hook) (mem : .began k ∈ new) : inProgress c.log = none ∧
      (k = .start → c.activity.phase = .stopped ∧ c.activity.disposed = false) ∧
      (k = .stop → c.activity.phase = .started) := by
  obtain ⟨own, idle, starting, other⟩ := st.began new same k mem
  refine ⟨idle, fun isStart => starting ?_, fun isStop => other ?_⟩
  · cases kind <;> simp_all [Transition.hook]
  · intro isStartCall
    rw [isStartCall] at own
    rw [isStop] at own
    cases own

/-- Replacing the `i`-th call, `x`, by `y`: with neither running a hook, the running hooks stay
the hook in progress; with no other call able to run one, they are `y`'s. -/
theorem Sound.runners_set (h : c.Sound) {i : Nat} {x : Call (H × Hook)}
    (found : c.calls[i]? = some x) (y : Call (H × Hook)) :
    (x.hook? = none → y.hook? = none →
      (c.calls.set i y).filterMap Call.hook? = (inProgress c.log).toList) ∧
    ((x.hook? = none → inProgress c.log = none) →
      (c.calls.set i y).filterMap Call.hook? = y.hook?.toList) := by
  obtain ⟨front, back, before, after⟩ := filterMap_set_split Call.hook? found y
  rw [h.runners] at before
  rw [after]
  refine ⟨fun waiting none' => ?_, fun rested => ?_⟩
  · rw [none', before, waiting]
  · -- the call replaced was the only one that could run a hook
    cases hx : x.hook? with
    | none =>
      rw [hx, rested hx, Option.toList_none, List.append_nil] at before
      obtain ⟨rfl, rfl⟩ := List.append_eq_nil_iff.mp before.symm
      simp
    | some k =>
      rw [hx] at before
      obtain ⟨rfl, rfl⟩ := runners_alone before
      simp

theorem disposed_of_own {kind : Transition} {s : CallStep (W × List HookEvent) (H × Hook)}
    (st : Activity.Stepped kind c.activity c.log s) (marked : kind = .dispose → s.1.disposed = true)
    (isDispose : s.2.2.1.kind? = some .dispose) : s.1.disposed = true := by
  rcases st.ownKind with none' | same
  · rw [none'] at isDispose
    cases isDispose
  · rw [same] at isDispose
    cases isDispose
    exact marked rfl

theorem hooks_singleton (x : Call (H × Hook)) : [x].filterMap Call.hook? = x.hook?.toList := by
  cases x <;> rfl

theorem Sound.polled (h : c.Sound) {i : Nat} {x : Call (H × Hook)} (found : c.calls[i]? = some x)
    {kind : Transition} (kindOf : x.kind? = some kind)
    {s : CallStep (W × List HookEvent) (H × Hook)} (st : Activity.Stepped kind c.activity c.log s)
    (handover : x.hook? = none ∧ s.2.2.1.hook? = none ∧ inProgress s.2.1.2 = inProgress c.log ∨
      (x.hook? = none → inProgress c.log = none) ∧ s.2.2.1.hook? = inProgress s.2.1.2)
    (ticket : s.1.gate.nextTicket ≤ c.activity.gate.nextTicket + 1) :
    Moved c (.poll i) (c.keep s (c.calls.set i s.2.2.1), some s.2.2.2) := by
  have mem : x ∈ c.calls := List.mem_of_getElem? found
  refine ⟨⟨st.fit, ?_, fun y hy => ?_, fun y hy isDispose => ?_⟩, ticket,
    fun new same k mem => began_of_stepped st new same k mem, fun isStart answered => ?_,
    st.stays⟩
  · -- the hooks of the other calls are untouched
    show (c.calls.set i s.2.2.1).filterMap Call.hook? = (inProgress s.2.1.2).toList
    rcases handover with ⟨waiting, none', same⟩ | ⟨rested, hooked⟩
    · rw [(h.runners_set found _).1 waiting none', same]
    · rw [(h.runners_set found _).2 rested, hooked]
  · rcases List.mem_or_eq_of_mem_set hy with old | rfl
    · exact h.calls y old
    · exact st.sound
  · rcases List.mem_or_eq_of_mem_set hy with old | rfl
    · exact st.disposal (h.disposing y old isDispose)
    · exact disposed_of_own st (fun own => st.disposal (h.disposing x mem (own ▸ kindOf)))
        isDispose
  · simp only [callKind, found, Option.bind_some, kindOf, Option.some.injEq] at isStart
    subst isStart
    exact st.started rfl (Option.some.inj answered)

/-- Every turn keeps the invariant, while fewer than `2 ^ 63` tickets have been issued. -/
theorem Sound.move (h : c.Sound) (few : c.activity.gate.nextTicket < 2 ^ 63) (o : Order) :
    Moved c o (c.move hooks o) := by
  cases o with
  | call kind token =>
    obtain ⟨stepped, waited, ticket, disposes⟩ := h.fit.begin hooks
      c.cancellations kind token c.world few
    show Moved c _ (c.keep _ (c.calls ++ [_]), some _)
    generalize Activity.begin hooks.logged c.cancellations kind token c.activity (c.world, c.log) = s
      at stepped waited ticket disposes ⊢
    refine ⟨⟨stepped.fit, ?_, fun y hy => ?_, fun y hy isDispose => ?_⟩, ticket,
      fun new same k mem => began_of_stepped stepped new same k mem, fun isStart answered => ?_,
      stepped.stays⟩
    · -- the new call runs the hook in progress, or none and leaves it as it was
      show (c.calls ++ [s.2.2.1]).filterMap Call.hook? = (inProgress s.2.1.2).toList
      rw [List.filterMap_append, h.runners, hooks_singleton]
      rcases waited with ⟨none', same⟩ | ⟨rested, hooked⟩
      · rw [same, none', Option.toList_none, List.append_nil]
      · rw [rested, hooked, Option.toList_none, List.nil_append]
    · rcases List.mem_append.mp hy with old | new
      · exact h.calls y old
      · rw [List.mem_singleton.mp new]
        exact stepped.sound
    · rcases List.mem_append.mp hy with old | new
      · exact stepped.disposal (h.disposing y old isDispose)
      · rw [List.mem_singleton.mp new] at isDispose
        exact disposed_of_own stepped disposes isDispose
    · simp only [callKind, Option.some.injEq] at isStart
      subst isStart
      exact stepped.started rfl (Option.some.inj answered)
  | poll i =>
    show Moved c _ (match c.calls[i]? with
      | none => (c, none)
      | some x => match Activity.poll hooks.logged c.cancellations x c.activity (c.world, c.log) with
        | none => (c, none)
        | some s => (c.keep s (c.calls.set i s.2.2.1), some s.2.2.2))
    cases found : c.calls[i]? with
    | none => exact h.still _
    | some x =>
      have mem : x ∈ c.calls := List.mem_of_getElem? found
      cases x with
      | admitting kind token wait =>
        cases wait with
        | ready r => exact absurd (h.calls _ mem) (by simp [Call.Sound, Wait.isReady])
        | queued t tok =>
          obtain ⟨stepped, waited, ticket⟩ := h.fit.pollGate hooks
            c.cancellations kind
            (fun isDispose => h.disposing _ mem (by rw [isDispose]; rfl)) token c.world t tok
          refine h.polled found rfl stepped ?_ (ticket ▸ Nat.le_succ _)
          rcases waited with ⟨none', same⟩ | ⟨rested, hooked⟩
          · exact .inl ⟨rfl, none', same⟩
          · exact .inr ⟨fun _ => rested, hooked⟩
      | running kind hook =>
        obtain ⟨y, k⟩ := hook
        have tagged : k = kind.hook := h.calls _ mem
        subst tagged
        obtain ⟨stepped, hooked, ticket⟩ := h.fit.runHook hooks
          c.cancellations kind (h.runner mem rfl)
          (fun isDispose => h.disposing _ mem (by rw [isDispose]; rfl)) c.world y
        exact h.polled found rfl stepped (.inr ⟨(fun no => by cases no), hooked⟩)
          (ticket ▸ Nat.le_succ _)
      | finished => exact h.still _
  | drop i =>
    show Moved c _ (match c.calls[i]? with
      | none => (c, none)
      | some x =>
        ({ c with activity := Activity.drop c.cancellations x c.activity,
                  log := c.log ++ x.dropped, calls := c.calls.set i .finished }, none))
    cases found : c.calls[i]? with
    | none => exact h.still _
    | some x =>
      have mem : x ∈ c.calls := List.mem_of_getElem? found
      obtain ⟨fit, disposal, next, handed, stays⟩ :=
        h.fit.drop c.cancellations x (h.calls x mem) (fun k => h.runner mem)
      refine ⟨⟨fit, ?_, fun y hy => ?_, fun y hy isDispose => ?_⟩, next ▸ Nat.le_succ _,
        fun new same k mem => ?_, (fun _ no => by cases no), stays⟩
      · -- the dropped call runs no hook any more
        show (c.calls.set i .finished).filterMap Call.hook? =
          (inProgress (c.log ++ x.dropped)).toList
        cases hx : x.hook? with
        | none =>
          have quiet : x.dropped = [] := by
            cases x with
            | running kind hook => simp [Call.hook?] at hx
            | admitting => rfl
            | finished => rfl
          rw [(h.runners_set found _).1 hx rfl, quiet, List.append_nil]
        | some k =>
          rcases handed with ⟨none', -⟩ | rested
          · rw [hx] at none'
            cases none'
          · rw [(h.runners_set found _).2 (fun no => by rw [hx] at no; cases no), rested]
            rfl
      · rcases List.mem_or_eq_of_mem_set hy with old | rfl
        · exact h.calls y old
        · trivial
      · rcases List.mem_or_eq_of_mem_set hy with old | rfl
        · rw [disposal]
          exact h.disposing y old isDispose
        · cases isDispose
      · -- a drop adds no beginning
        have quiet : ∀ j, .began j ∉ x.dropped := by
          cases x <;> simp [Call.dropped]
        exact absurd mem (not_began_of_append quiet same k)
  | cancel token =>
    show Moved c _ ({ c with cancellations := c.cancellations.cancel token }, none)
    exact ⟨⟨h.fit, h.runners, h.calls, h.disposing⟩, Nat.le_succ _,
      fun new same k mem => absurd mem (not_began_of_eq same k), (fun _ no => by cases no), id⟩

/-- A crowd's turns keep the invariant while fewer than `2 ^ 63` tickets can be issued, and
issue at most one ticket each. -/
theorem Sound.run (os : List Order) : ∀ {c : Crowd W H}, c.Sound →
    c.activity.gate.nextTicket + os.length < 2 ^ 63 →
      (c.run hooks os).Sound ∧
        (c.run hooks os).activity.gate.nextTicket ≤ c.activity.gate.nextTicket + os.length := by
  induction os with
  | nil => exact fun h _ => ⟨h, Nat.le_refl _⟩
  | cons o os ih =>
    intro c h few
    simp only [List.length_cons] at few
    -- one turn, then the rest from where it left the crowd
    have moved := h.move hooks (by omega) o
    have tickets := moved.tickets
    obtain ⟨sound, later⟩ := ih moved.sound (by omega)
    refine ⟨sound, ?_⟩
    show ((c.move hooks o).1.run hooks os).activity.gate.nextTicket ≤
      c.activity.gate.nextTicket + (os.length + 1)
    omega

theorem sound_start (world : W) : (start world : Crowd W H).Sound where
  fit := ⟨.inl rfl, ⟨Semaphore.wellFormed_ofCounts (by decide) (by decide),
    show (1 : Int64).toInt = 1 by decide,
    show Semaphore.singleSlot.spare + ((0 + 0 : Nat) : Int) = 1 by decide⟩,
    fun no => by cases no⟩
  runners := rfl
  calls := fun _ no => by cases no
  disposing := fun _ no => by cases no

/-! ## What the invariant says -/

/-- The gate's unit is spare exactly when no call runs a hook. -/
theorem Sound.units (h : c.Sound) :
    c.activity.gate.spare + (c.calls.filterMap Call.hook?).length = 1 := by
  rw [h.runners]
  simpa using h.fit.slot.units

/-- At most one call is admitted at a time: the one running a hook, or the one whose ticket the
gate has granted. -/
theorem Sound.admits_one (h : c.Sound) :
    (c.calls.filterMap Call.hook?).length + c.activity.gate.granted.length ≤ 1 := by
  have units := h.units
  have granted : (c.activity.gate.granted.length : Int) ≤ c.activity.gate.spare :=
    le_add_of_nonneg_left (le_max_right _ _)
  omega

theorem Sound.release_passes (h : c.Sound) (busy : c.calls.filterMap Call.hook? ≠ []) :
    ∃ g, c.activity.gate.release c.cancellations 1 = .ok g := by
  rw [h.runners] at busy
  cases running : inProgress c.log with
  | none =>
    rw [running] at busy
    exact absurd rfl busy
  | some k =>
    obtain ⟨g, checked, -⟩ := (h.fit.held running).release_passes c.cancellations
    exact ⟨g, checked⟩

/-- The phase is `starting`, resp. `stopping`, exactly while a start, resp. stop, hook is in
progress. -/
theorem Sound.busy_iff (h : c.Sound) :
    (c.activity.phase = .starting ↔ inProgress c.log = some .start) ∧
      (c.activity.phase = .stopping ↔ inProgress c.log = some .stop) := by
  rw [h.fit.inProgress_eq]
  cases c.activity.phase <;> simp [Phase.running]

/-- The phase is `started` exactly when no hook is in progress, the last hook to end was a start
that returned `Ok`, and the activity is not disposed. -/
theorem Sound.started_iff (h : c.Sound) :
    c.activity.phase = .started ↔ inProgress c.log = none ∧
      lastEnded c.log = some (.returned .start (.ok ())) ∧ c.activity.phase ≠ .disposed := by
  rcases h.fit.lifecycle with replayed | ⟨disposed, -⟩
  · rw [← and_assoc, ← started_iff_of_replay replayed]
    exact ⟨fun started => ⟨started, replay_ne_disposed replayed⟩, And.left⟩
  · rw [disposed]
    simp

theorem Sound.replays (h : c.Sound) : ∃ q, replay c.log = some q := by
  rcases h.fit.lifecycle with replayed | ⟨-, replayed⟩
  · exact ⟨_, replayed⟩
  · exact ⟨_, replayed⟩

end Crowd

open HookEvent Crowd

/-- The lifecycle of one activity under any calls: start, stop and dispose calls made, polled
and dropped in any order, tokens cancelled at any point, and hooks that succeed, fail or stay
pending as they like. After any turns, and for any next turn:

* the one-unit gate admits one call at a time, the unit is spare exactly when no call runs a
  hook, and the release that gives it back passes;
* hooks never overlap: the calls running a hook are the hook in progress, the log never begins a
  hook before the last has ended, and a turn begins a start hook only from `stopped` and not
  disposed, a stop hook only from `started`, with no hook in progress;
* the phase is `starting` or `stopping` exactly while that hook is in progress, `started`
  exactly when no hook is in progress, the last hook to end (returned or dropped) was a start
  that returned `Ok` and the activity is not disposed, and `disposed` for good;
* a start call that answers `Ok` leaves the activity started, and successful starts and stop
  invocations alternate, beginning with a start. -/
theorem lifecycle_of_any_calls {W H : Type} (hooks : Hooks W H) (world : W)
    (orders : List Order) (few : orders.length < 2 ^ 63) (next : Order) :
    let c := (start world).run hooks orders
    let c' := c.move hooks next
    ((c.calls.filterMap Call.hook?).length + c.activity.gate.granted.length ≤ 1 ∧
      c.activity.gate.spare + (c.calls.filterMap Call.hook?).length = 1 ∧
      (c.calls.filterMap Call.hook? ≠ [] →
        ∃ g, c.activity.gate.release c.cancellations 1 = .ok g)) ∧
    (c.calls.filterMap Call.hook? = (inProgress c.log).toList ∧ Serial c.log ∧
      ∀ new, c'.1.log = c.log ++ new → ∀ k, .began k ∈ new → inProgress c.log = none ∧
        (k = .start → c.activity.phase = .stopped ∧ c.activity.disposed = false) ∧
        (k = .stop → c.activity.phase = .started)) ∧
    ((c.activity.phase = .starting ↔ inProgress c.log = some .start) ∧
      (c.activity.phase = .stopping ↔ inProgress c.log = some .stop) ∧
      (c.activity.phase = .started ↔ inProgress c.log = none ∧
        lastEnded c.log = some (.returned .start (.ok ())) ∧ c.activity.phase ≠ .disposed) ∧
      (c.activity.phase = .disposed → c'.1.activity.phase = .disposed)) ∧
    ((c.callKind next = some .start → c'.2 = some (.ready (.ok ())) →
        c'.1.activity.phase = .started) ∧
      Alternates c.log) := by
  intro c c'
  -- the invariant after the turns, with room for one more ticket
  have fresh : (start world : Crowd W H).activity.gate.nextTicket = 0 := rfl
  obtain ⟨sound, tickets⟩ :=
    (sound_start world : (start world : Crowd W H).Sound).run hooks orders
      (by rw [fresh, Nat.zero_add]; exact few)
  have room : ((start world).run hooks orders).activity.gate.nextTicket < 2 ^ 63 := by
    rw [fresh] at tickets
    omega
  have moved : Moved c next c' := sound.move hooks room next
  obtain ⟨q, replayed⟩ := sound.replays
  exact ⟨⟨sound.admits_one, sound.units, sound.release_passes⟩,
    ⟨sound.runners, serial_of_replay replayed, moved.began⟩,
    ⟨sound.busy_iff.1, sound.busy_iff.2, sound.started_iff, moved.stays⟩,
    ⟨moved.started, alternates_of_replay replayed⟩⟩

/-- A hook in progress has not ended: while the stop hook that follows a successful start is
pending, the last hook to end is that start and the activity is not disposed, yet it is
`stopping`, not `started`. -/
theorem stopping_after_successful_start :
    let c := (start ({ stopPlans := [{ hold := true }] } : Script)).run scriptHooks
      [.call .start none, .call .stop none]
    lastEnded c.log = some (.returned .start (.ok ())) ∧ c.activity.phase ≠ .disposed ∧
      c.activity.phase = .stopping :=
  ⟨rfl, by decide, by decide⟩

/-- A start, then a stop whose hook stays pending, on scripted hooks. -/
theorem lifecycle_of_start_then_held_stop :
    [Order.call .start none, .call .stop none].length < 2 ^ 63 ∧
      let c := (start ({ stopPlans := [{ hold := true }] } : Script)).run scriptHooks
        [.call .start none, .call .stop none]
      Serial c.log ∧ Alternates c.log :=
  ⟨by decide, (lifecycle_of_any_calls scriptHooks { stopPlans := [{ hold := true }] }
    [.call .start none, .call .stop none] (by decide) (.poll 1)).2.1.2.1,
    (lifecycle_of_any_calls scriptHooks { stopPlans := [{ hold := true }] }
    [.call .start none, .call .stop none] (by decide) (.poll 1)).2.2.2.2⟩

end Sluice
