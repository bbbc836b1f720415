import Mathlib
import Sluice.Proofs.Semaphore.Race
import Sluice.Proofs.Signal.Waits
/-!
# A reset strands the waits of an unfinished countdown

A countdown keeps its waits on completions, as a manual-reset signal does, but a reset always
makes a new completion live, whether the old one was set or not. A wait binds at its first poll
to the completion that is live then. If the count reaches zero before any reset, the signal that
takes it there sets that completion, and the wait finishes with success at its next poll. If a
reset comes first, the wait is left on a completion that nothing sets any more: it stays pending
at every later poll, also once the count reaches zero under the new completion, by a signal or
by a reset to zero. Only its token can end it then.

`Countdown.Armed` links the count and the live completion: the live completion is set exactly
when the count is zero. Under it, each command moves a bound completion between three stages
(`Countdown.Attached.apply`): attached (the live one, with the count above zero), released (set,
and set for good), or detached (older than the live one and unset, for good).

* `Countdown.ZeroBeforeRearm` — the count reaches zero after some of the commands, none of them
  a reset; decidable.
* `Countdown.isSet_run_iff` — an attached completion is set after a script exactly then.
* `Countdown.Session.Holds` — the wait under a name is bound, and its token has not fired.
* `countdown_wait_released_iff_zero_before_rearm` — what a later poll of a parked wait answers.
-/

namespace Sluice

namespace Countdown

variable {c : Countdown} {i : Nat}

/-- The live completion has been made, and it is set exactly when the count is zero. -/
structure Armed (c : Countdown) : Prop where
  live_lt : c.live < c.completions.flags.length
  live_set : c.completions.isSet c.live = (c.current == 0)

theorem armed_create (n : Nat) : (create n).Armed where
  live_lt := by simp [create, Completions.fresh]
  live_set := by simp [create, Completions.fresh, Completions.isSet]

theorem reset_isSet_of_lt (n : Nat) (made : i < c.completions.flags.length) :
    (c.reset n).completions.isSet i = c.completions.isSet i := by
  simp [Completions.isSet, List.getD_eq_getElem?_getD, List.getElem?_append_left made]

theorem Armed.reset (n : Nat) : (c.reset n).Armed where
  live_lt := by simp
  live_set := by simp

theorem apply_of_rearms {cmd : Command} (rearm : cmd.rearms = true) :
    ∃ n, (c.apply cmd).1 = c.reset n := by
  cases cmd <;> simp [Command.rearms] at rearm
  · exact ⟨_, rfl⟩
  · exact ⟨_, rfl⟩

/-- What one command does to the countdown: a reset; nothing; or an update whose loop passes
its top at the current count and lands at `v`. -/
theorem apply_shapes (c : Countdown) (cmd : Command) :
    (cmd.rearms = true ∧ ∃ n, (c.apply cmd).1 = c.reset n) ∨
      (cmd.rearms = false ∧ (c.apply cmd).1 = c) ∨
      (cmd.rearms = false ∧ ∃ (u : Update) (v : Nat), 0 < u.amount ∧ u.next c.current = .ok v ∧
        (c.apply cmd).1 = u.land c v) := by
  cases rearm : cmd.rearms with
  | true => exact .inl ⟨rfl, apply_of_rearms rearm⟩
  | false =>
    rcases apply_cases c cmd with ⟨u, rfl⟩ | ⟨rearms, -⟩ | ⟨same, -⟩
    · rcases apply_update c u with ⟨f, refused⟩ | ⟨pos, v, next, went⟩
      · exact .inr (.inl ⟨rfl, by rw [refused]⟩)
      · exact .inr (.inr ⟨rfl, u, v, pos, next, by rw [went]⟩)
    · rw [rearm] at rearms
      cases rearms
    · exact .inr (.inl ⟨rfl, same⟩)

theorem land_completions (u : Update) (c : Countdown) (v : Nat) :
    (u.land c v).completions =
      if u.reachesZero v then c.completions.mark c.live else c.completions := by
  unfold Update.land
  split <;> rfl

@[simp] theorem land_length (u : Update) (c : Countdown) (v : Nat) :
    (u.land c v).completions.flags.length = c.completions.flags.length := by
  rw [land_completions]
  split <;> simp

theorem Armed.unset_of_pos (h : c.Armed) (pos : 0 < c.current) :
    c.completions.isSet c.live = false := by
  rw [h.live_set, beq_eq_false_iff_ne]
  exact pos.ne'

theorem Armed.apply (h : c.Armed) (cmd : Command) : (c.apply cmd).1.Armed := by
  rcases apply_shapes c cmd with ⟨-, n, reset⟩ | ⟨-, same⟩ | ⟨-, u, v, pos, next, went⟩
  · rw [reset]
    exact Armed.reset n
  · rw [same]
    exact h
  · -- the loop passed its top, so the count was above zero and the live completion unset
    have unset := h.unset_of_pos (Update.next_ok pos next).1
    rw [went]
    refine ⟨by simpa using h.live_lt, ?_⟩
    rw [Update.land_live, Update.land_current]
    exact land_isSet pos next h.live_lt unset

theorem isSet_apply_of_isSet (set : c.completions.isSet i = true) (cmd : Command) :
    (c.apply cmd).1.completions.isSet i = true := by
  rcases apply_shapes c cmd with ⟨-, n, reset⟩ | ⟨-, same⟩ | ⟨-, u, v, -, -, went⟩
  · rw [reset, reset_isSet_of_lt n (Completions.lt_length_of_isSet set)]
    exact set
  · rw [same]
    exact set
  · rw [went, land_completions]
    split
    · exact Completions.isSet_mark_of_isSet set
    · exact set

/-- Completion `i` is the live one, and the count has not reached zero. -/
structure Attached (c : Countdown) (i : Nat) : Prop where
  live : i = c.live
  pos : 0 < c.current

/-- Completion `i` is older than the live one, and unset. -/
structure Detached (c : Countdown) (i : Nat) : Prop where
  older : i < c.live
  unset : c.completions.isSet i = false

/-- A detached completion stays detached: signals set only the live completion, and a reset
makes a newer one live. -/
theorem Detached.apply (armed : c.Armed) (h : c.Detached i) (cmd : Command) :
    (c.apply cmd).1.Detached i := by
  obtain ⟨older, unset⟩ := h
  rcases apply_shapes c cmd with ⟨-, n, reset⟩ | ⟨-, same⟩ | ⟨-, u, v, -, -, went⟩
  · have made : i < c.completions.flags.length := older.trans armed.live_lt
    rw [reset]
    exact ⟨by simpa using made, by rw [reset_isSet_of_lt n made]; exact unset⟩
  · rw [same]
    exact ⟨older, unset⟩
  · rw [went]
    refine ⟨by simpa using older, ?_⟩
    rw [land_completions]
    split
    · rw [Completions.isSet_mark_of_ne older.ne]
      exact unset
    · exact unset

/-- One command on an attached completion: a reset detaches it; a command that takes the count
to zero, which only a signal does, sets it; any other command leaves it attached. -/
theorem Attached.apply (armed : c.Armed) (h : c.Attached i) (cmd : Command) :
    (cmd.rearms = true ∧ (c.apply cmd).1.Detached i) ∨
      (cmd.rearms = false ∧ (c.apply cmd).1.current = 0 ∧
        (c.apply cmd).1.completions.isSet i = true) ∨
      (cmd.rearms = false ∧ (c.apply cmd).1.Attached i) := by
  obtain ⟨rfl, pos⟩ := h
  have unset := armed.unset_of_pos pos
  rcases apply_shapes c cmd with ⟨rearm, n, reset⟩ | ⟨stays, same⟩ | ⟨stays, u, v, step, next, went⟩
  · rw [reset]
    exact .inl ⟨rearm, by simpa using armed.live_lt,
      by rw [reset_isSet_of_lt n armed.live_lt]; exact unset⟩
  · rw [same]
    exact .inr (.inr ⟨stays, rfl, pos⟩)
  · -- the live completion becomes set exactly when the update lands at zero
    have set := land_isSet step next armed.live_lt unset
    rw [went]
    by_cases zero : v = 0
    · subst zero
      exact .inr (.inl ⟨stays, by simp, by simpa using set⟩)
    · exact .inr (.inr ⟨stays, by simp, by simp; omega⟩)

theorem Armed.run (h : c.Armed) (cmds : List Command) :
    (runSteps Countdown.apply c cmds).1.Armed := by
  induction cmds generalizing c with
  | nil => exact h
  | cons cmd rest ih => exact ih (h.apply cmd)

theorem isSet_run_of_isSet (set : c.completions.isSet i = true) (cmds : List Command) :
    (runSteps apply c cmds).1.completions.isSet i = true := by
  induction cmds generalizing c with
  | nil => exact set
  | cons cmd rest ih => exact ih (isSet_apply_of_isSet set cmd)

theorem Detached.run (armed : c.Armed) (h : c.Detached i) (cmds : List Command) :
    (runSteps Countdown.apply c cmds).1.Detached i := by
  induction cmds generalizing c with
  | nil => exact h
  | cons cmd rest ih => exact ih (armed.apply cmd) (h.apply armed cmd)

/-- The count reaches zero after some of the commands, none of which re-arms the countdown. -/
def ZeroBeforeRearm (c : Countdown) (cmds : List Command) : Prop :=
  ∃ p, p <+: cmds ∧ (∀ cmd ∈ p, cmd.rearms = false) ∧ (runSteps apply c p).1.current = 0

theorem zeroBeforeRearm_of_zero {cmds : List Command} (zero : c.current = 0) :
    c.ZeroBeforeRearm cmds :=
  ⟨[], List.nil_prefix, by simp, zero⟩

theorem zeroBeforeRearm_nil_iff : c.ZeroBeforeRearm [] ↔ c.current = 0 := by
  constructor
  · rintro ⟨p, pre, -, zero⟩
    rw [List.prefix_nil.mp pre] at zero
    exact zero
  · exact zeroBeforeRearm_of_zero

theorem zeroBeforeRearm_cons_iff {cmd : Command} {rest : List Command} :
    c.ZeroBeforeRearm (cmd :: rest) ↔
      c.current = 0 ∨ (cmd.rearms = false ∧ (c.apply cmd).1.ZeroBeforeRearm rest) := by
  constructor
  · rintro ⟨p, pre, stays, zero⟩
    -- a prefix is empty, or the first command followed by a prefix of the rest
    rcases List.prefix_cons_iff.mp pre with rfl | ⟨t, rfl, inRest⟩
    · exact .inl zero
    · exact .inr ⟨stays cmd (.head t), t, inRest, fun x mem => stays x (.tail cmd mem), zero⟩
  · rintro (zero | ⟨stays, t, inRest, staysRest, zero⟩)
    · exact zeroBeforeRearm_of_zero zero
    · refine ⟨cmd :: t, List.cons_prefix_cons.mpr ⟨rfl, inRest⟩, ?_, zero⟩
      intro x mem
      rcases List.mem_cons.mp mem with rfl | later
      · exact stays
      · exact staysRest x later

instance decideZeroBeforeRearm : (c : Countdown) → (cmds : List Command) →
    Decidable (c.ZeroBeforeRearm cmds)
  | _, [] => decidable_of_iff _ zeroBeforeRearm_nil_iff.symm
  | c, cmd :: rest =>
    have := decideZeroBeforeRearm (c.apply cmd).1 rest
    decidable_of_iff _ zeroBeforeRearm_cons_iff.symm

/-- A signal that takes the count to zero counts; the same signal after a reset does not. -/
example : (create 1).ZeroBeforeRearm [.signal 1] ∧
    ¬ (create 1).ZeroBeforeRearm [.reset 1, .signal 1] := by
  decide

/-- An attached completion is set after a script exactly when the count reaches zero before
any reset: the first command to take the count to zero sets it for good, and a reset before
that detaches it for good. -/
theorem isSet_run_iff (armed : c.Armed) (h : c.Attached i) (cmds : List Command) :
    (runSteps apply c cmds).1.completions.isSet i = true ↔ c.ZeroBeforeRearm cmds := by
  induction cmds generalizing c with
  | nil =>
    obtain ⟨rfl, pos⟩ := h
    rw [zeroBeforeRearm_nil_iff, runSteps, armed.live_set]
    simp [pos.ne']
  | cons cmd rest ih =>
    rw [zeroBeforeRearm_cons_iff, or_iff_right h.pos.ne']
    rcases h.apply armed cmd with ⟨rearm, detached⟩ | ⟨stays, zero, set⟩ | ⟨stays, attached⟩
    · have stuck := (detached.run (armed.apply cmd) rest).2
      simp only [runSteps] at stuck ⊢
      simp [stuck, rearm]
    · have kept := isSet_run_of_isSet set rest
      simp only [runSteps] at kept ⊢
      simp only [kept, stays, true_and, true_iff]
      exact zeroBeforeRearm_of_zero zero
    · simp only [runSteps, stays, true_and]
      exact ih (armed.apply cmd) attached

def Command.future : Command → Option String
  | .wait id _ | .poll id | .drop id => some id
  | _ => none

namespace Session

variable {s : Session} {id : String} {token : Option Token}

theorem signal_step (s : Session) (cmd : Command) : (s.step cmd).1.signal = (s.signal.apply cmd).1 := by
  cases cmd with
  | addCount n =>
    simp only [Session.step, apply]
    split <;> rfl
  | tryAddCount n =>
    simp only [Session.step, apply]
    split <;> rfl
  | signal n =>
    simp only [Session.step, apply]
    split <;> rfl
  | _ => rfl

theorem signal_runSteps (s : Session) (cmds : List Command) :
    (runSteps Session.step s cmds).1.signal = (runSteps apply s.signal cmds).1 := by
  induction cmds generalizing s with
  | nil => rfl
  | cons cmd rest ih =>
    simp only [runSteps]
    rw [ih, signal_step]

/-- The wait kept under `id` is bound to completion `i`, and its token has not fired. -/
structure Holds (s : Session) (id : String) (i : Nat) (token : Option Token) : Prop where
  found : s.board.waits.find? id = some (.bound i token)
  unfired : s.board.cancellations.hits token = false

/-- A command that names another future and does not cancel the token keeps the wait. -/
theorem Holds.step (h : s.Holds id i token) {cmd : Command} (other : cmd.future ≠ some id)
    (spared : ∀ t, token = some t → cmd ≠ .cancel t) : (s.step cmd).1.Holds id i token := by
  cases cmd with
  | addCount n =>
    simp only [Session.step]
    split <;> exact ⟨h.found, h.unfired⟩
  | tryAddCount n =>
    simp only [Session.step]
    split <;> exact ⟨h.found, h.unfired⟩
  | signal n =>
    simp only [Session.step]
    split <;> exact ⟨h.found, h.unfired⟩
  | reset n => exact ⟨h.found, h.unfired⟩
  | resetToInitial => exact ⟨h.found, h.unfired⟩
  | wait id' token' =>
    have ne : id' ≠ id := fun same => other (by simp [Command.future, same])
    exact ⟨by simpa [Session.step, WaitBoard.begin, Registry.find?_put_ne _ _ ne] using h.found,
      h.unfired⟩
  | poll id' =>
    have ne : id' ≠ id := fun same => other (by simp [Command.future, same])
    simp only [Session.step, WaitBoard.poll]
    split
    · exact h
    · exact ⟨by simpa [Registry.find?_put_ne _ _ ne] using h.found, h.unfired⟩
  | drop id' =>
    have ne : id' ≠ id := fun same => other (by simp [Command.future, same])
    simp only [Session.step, WaitBoard.drop]
    split
    · exact h
    · exact ⟨by simpa [Registry.find?_remove_ne _ ne] using h.found, h.unfired⟩
  | cancel k =>
    refine ⟨h.found, ?_⟩
    -- the token fires only if it is the one cancelled
    have notThis : token ≠ some k := fun same => spared k same rfl
    simp only [Session.step, WaitBoard.cancel]
    cases fired : (s.board.cancellations.cancel k).hits token with
    | false => rfl
    | true =>
      rcases Cancellations.hits_cancel_iff.mp fired with before | this
      · rw [h.unfired] at before
        cases before
      · exact absurd this notThis

theorem Holds.run (h : s.Holds id i token) {cmds : List Command}
    (others : ∀ cmd ∈ cmds, cmd.future ≠ some id)
    (spared : ∀ t, token = some t → Command.cancel t ∉ cmds) :
    (runSteps Session.step s cmds).1.Holds id i token := by
  induction cmds generalizing s with
  | nil => exact h
  | cons cmd rest ih =>
    have first := h.step (others cmd (.head rest))
      (fun t tok same => spared t tok (same ▸ .head rest))
    exact ih first (fun x mem => others x (.tail cmd mem))
      (fun t tok mem => spared t tok (.tail cmd mem))

theorem Holds.poll (h : s.Holds id i token) :
    (s.step (.poll id)).2 = if s.signal.completions.isSet i then .done .unit else .pending := by
  by_cases set : s.signal.completions.isSet i <;>
    simp [Session.step, WaitBoard.poll, h.found, SignalWait.poll, set, h.unfired]

/-- A wait that answers pending at its first poll is held on the live completion, which is
unset. -/
theorem wait_pending (parked : (s.step (.wait id token)).2 = .pending) :
    (s.step (.wait id token)).1.Holds id s.signal.live token ∧
      s.signal.completions.isSet s.signal.live = false := by
  -- a fired token or a set completion would have finished the wait at once
  by_cases hit : s.board.cancellations.hits token
  · simp [Session.step, WaitBoard.begin, SignalWait.begin, hit] at parked
  by_cases set : s.signal.completions.isSet s.signal.live
  · simp [Session.step, WaitBoard.begin, SignalWait.begin, hit, set] at parked
  · refine ⟨⟨?_, by simpa [Session.step, WaitBoard.begin] using hit⟩, by simpa using set⟩
    simp [Session.step, WaitBoard.begin, SignalWait.begin, hit, set]

end Session

end Countdown

open Countdown

/-- A wait on a countdown that parks at its first poll, in any run of a countdown session, and
is then left alone while any other commands run: no command waits on, polls or drops it, and
none cancels its token. A later poll of it succeeds exactly when the count reached zero after
some of those commands with no reset or reset to the initial count among them; otherwise it is
pending. A reset before the count reaches zero strands the wait for good, also when the count
reaches zero afterwards, by a signal or by a reset to zero. -/
theorem countdown_wait_released_iff_zero_before_rearm (n : Nat) (pre mid : List Command)
    (id : String) (token : Option Token)
    (parked : ((runSteps Session.step { signal := create n } pre).1.step (.wait id token)).2 =
      .pending)
    (untouched : ∀ cmd ∈ mid, cmd.future ≠ some id)
    (unfired : ∀ t, token = some t → Command.cancel t ∉ mid) :
    ((runSteps Session.step ((runSteps Session.step { signal := create n } pre).1.step
        (.wait id token)).1 mid).1.step (.poll id)).2 =
      if ((runSteps Session.step { signal := create n } pre).1.step
          (.wait id token)).1.signal.ZeroBeforeRearm mid then .done .unit else .pending := by
  set before := (runSteps Session.step { signal := create n } pre).1 with before_eq
  set waited := (before.step (.wait id token)).1 with waited_eq
  obtain ⟨held, unset⟩ := Session.wait_pending parked
  -- the countdown reached is armed, and the wait's completion is the live one, still unset
  have armed : before.signal.Armed := by
    rw [before_eq, Session.signal_runSteps]
    exact (armed_create n).run pre
  have waitedSignal : waited.signal = before.signal := by
    rw [waited_eq, Session.signal_step]
    rfl
  have attached : waited.signal.Attached before.signal.live := by
    refine ⟨waitedSignal.symm ▸ rfl, ?_⟩
    rw [waitedSignal, Nat.pos_iff_ne_zero]
    intro zero
    rw [armed.live_set, zero] at unset
    cases unset
  have armedWaited : waited.signal.Armed := waitedSignal ▸ armed
  rw [(held.run untouched unfired).poll, Session.signal_runSteps]
  by_cases reached : waited.signal.ZeroBeforeRearm mid
  · rw [if_pos ((isSet_run_iff armedWaited attached mid).mpr reached), if_pos reached]
  · rw [if_neg (by rw [isSet_run_iff armedWaited attached mid]; exact reached), if_neg reached]

/-- A countdown of one, a wait on it, and one signal: the wait parks, and the next poll
finishes it. -/
theorem countdown_wait_released_by_one_signal :
    ((runSteps Session.step { signal := create 1 } []).1.step (.wait "a" none)).2 = .pending ∧
      ((runSteps Session.step ((runSteps Session.step { signal := create 1 } []).1.step
          (.wait "a" none)).1 [.signal 1]).1.step (.poll "a")).2 =
        if ((runSteps Session.step { signal := create 1 } []).1.step
            (.wait "a" none)).1.signal.ZeroBeforeRearm [.signal 1] then .done .unit else .pending :=
  ⟨rfl, countdown_wait_released_iff_zero_before_rearm 1 [] [.signal 1] "a" none rfl
    (by simp [Command.future]) (by simp)⟩

/-- A wait parked on a countdown of one is stranded by a reset, whether the reset is to zero or
is followed by a signal that takes the count to zero: its next poll is pending while the count
is zero and the countdown is set. -/
theorem countdown_wait_stranded_by_reset :
    (runSteps Session.step { signal := create 1 } [.wait "a" none, .reset 0, .poll "a"]).2 =
        [.pending, .done .unit, .pending] ∧
      (runSteps Session.step { signal := create 1 }
        [.wait "a" none, .reset 0, .poll "a"]).1.signal.current = 0 ∧
      (runSteps Session.step { signal := create 1 }
          [.wait "a" none, .reset 1, .signal 1, .poll "a"]).2 =
        [.pending, .done .unit, .done (.flag true), .pending] ∧
      (runSteps Session.step { signal := create 1 }
        [.wait "a" none, .reset 1, .signal 1, .poll "a"]).1.signal.current = 0 :=
  ⟨rfl, rfl, rfl, rfl⟩

end Sluice
