import Mathlib
import Sluice.Signal.Session
/-!
# Countdown commands one after another

`Countdown.apply` runs one command on a countdown that has no waits. A log is a list of
commands with the answers they got; `Countdown.after` is the countdown a log leaves, and
`Countdown.Answers c log` says that every entry holds the answer its command gets at its turn,
run from `c`.

`add_count`, `try_add_count` and `signal` change the count through a loop of
compare-and-exchange attempts. `Countdown.Update` names them, `Update.next` is the top of the
loop (from the count last read, the count to exchange it for, or the fault to return) and
`Update.answer` what the call answers when its loop ends. `apply_of_next_ok` and
`apply_of_next_error` say that run alone, such a call is its loop top applied to the current
count.

For one command: a refused command (a fault, or `false` from a tried addition) leaves the
countdown as it is (`apply_of_refused`); only a reset lifts a count of zero
(`apply_current_of_zero`); a signal answers `true` only when it takes a positive count to zero
(`apply_of_completes`). `Countdown.History` gathers what these give a whole log, and
`Answers.history` proves it of every log a countdown answers: in particular, between two resets
at most one signal answers `true`.
-/

namespace Sluice

namespace Completions

@[simp] theorem length_mark (c : Completions) (i : Nat) :
    (c.mark i).flags.length = c.flags.length := by
  simp [mark]

@[simp] theorem mark_mark (c : Completions) (i : Nat) : (c.mark i).mark i = c.mark i := by
  simp [mark]

theorem isSet_mark_self {c : Completions} {i : Nat} (h : i < c.flags.length) :
    (c.mark i).isSet i = true := by
  simp [mark, isSet, h]

end Completions

namespace Countdown

/-- Set the live completion, as a signal that brought the count to zero does. -/
def setLive (c : Countdown) : Countdown :=
  { c with completions := c.completions.mark c.live }

@[simp] theorem setLive_current (c : Countdown) : c.setLive.current = c.current := rfl
@[simp] theorem setLive_initial (c : Countdown) : c.setLive.initial = c.initial := rfl
@[simp] theorem setLive_live (c : Countdown) : c.setLive.live = c.live := rfl
@[simp] theorem setLive_completions (c : Countdown) :
    c.setLive.completions = c.completions.mark c.live := rfl

@[simp] theorem setLive_setLive (c : Countdown) : c.setLive.setLive = c.setLive := by
  simp [setLive]

@[simp] theorem reset_current (c : Countdown) (n : Nat) : (c.reset n).current = n := rfl
@[simp] theorem reset_initial (c : Countdown) (n : Nat) : (c.reset n).initial = n := rfl
@[simp] theorem reset_live (c : Countdown) (n : Nat) :
    (c.reset n).live = c.completions.flags.length := rfl
@[simp] theorem reset_flags (c : Countdown) (n : Nat) :
    (c.reset n).completions.flags = c.completions.flags ++ [n == 0] := rfl

@[simp] theorem reset_isSet (c : Countdown) (n : Nat) :
    (c.reset n).completions.isSet c.completions.flags.length = (n == 0) := by
  simp [Completions.isSet]

/-- A countdown command run on the countdown alone: the countdown after it and its answer. -/
def apply (c : Countdown) (cmd : Command) : Countdown × Outcome SignalReply :=
  ((Session.step { signal := c } cmd).1.signal, (Session.step { signal := c } cmd).2)

@[simp] theorem apply_reset (c : Countdown) (n : Nat) :
    c.apply (.reset n) = (c.reset n, .done .unit) := rfl

@[simp] theorem apply_resetToInitial (c : Countdown) :
    c.apply .resetToInitial = (c.reset c.initial, .done .unit) := rfl

/-- A call that changes the count through a loop of compare-and-exchange attempts. -/
inductive Update where
  | addCount (n : Nat)
  -- `try_add_count n`: the same loop, answering `false` where the count was zero
  | tryAddCount (n : Nat)
  | signal (n : Nat)
  deriving DecidableEq, Repr

namespace Update

def amount : Update → Nat
  | .addCount n | .tryAddCount n | .signal n => n

def command : Update → Command
  | .addCount n => .addCount n
  | .tryAddCount n => .tryAddCount n
  | .signal n => .signal n

/-- The top of the loop: from the count `v` last read, the count to exchange it for, or the
fault the call returns. -/
def next : Update → Nat → Except Fault Nat
  | .addCount n, v | .tryAddCount n, v =>
      if v = 0 then .error (.invalidState "countdown already completed")
      else if v + n > Text.wordMax then .error (.invalidArgument "countdown count would overflow")
      else .ok (v + n)
  | .signal n, v =>
      if n > v then .error (.invalidState "countdown signalled below zero") else .ok (v - n)

/-- Whether exchanging the count for `v` completes the countdown: a signal that reaches zero. -/
def reachesZero : Update → Nat → Bool
  | .signal _, v => v == 0
  | _, _ => false

/-- What the call answers when its loop ends, with the count it exchanged or with a fault. -/
def answer : Update → Except Fault Nat → Outcome SignalReply
  | .addCount _, .ok _ => .done .unit
  | .tryAddCount _, .ok _ => .done (.flag true)
  | .tryAddCount _, .error (.invalidState _) => .done (.flag false)
  | .signal _, .ok v => .done (.flag (v == 0))
  | _, .error f => .failed f

/-- The countdown once the call exchanged its count for `v`; a signal that reached zero has
set the live completion too. -/
def land (u : Update) (c : Countdown) (v : Nat) : Countdown :=
  if u.reachesZero v then { c with current := v }.setLive else { c with current := v }

@[simp] theorem land_current (u : Update) (c : Countdown) (v : Nat) :
    (u.land c v).current = v := by
  unfold land; split <;> rfl

@[simp] theorem land_initial (u : Update) (c : Countdown) (v : Nat) :
    (u.land c v).initial = c.initial := by
  unfold land; split <;> rfl

@[simp] theorem land_live (u : Update) (c : Countdown) (v : Nat) :
    (u.land c v).live = c.live := by
  unfold land; split <;> rfl

/-- A loop that passes its top does not start from zero, and its exchange stays a word when
the count it read is one. -/
theorem next_ok {u : Update} {v w : Nat} (pos : 0 < u.amount) (h : u.next v = .ok w) :
    0 < v ∧ (v ≤ Text.wordMax → w ≤ Text.wordMax) := by
  cases u with
  | addCount n =>
    simp only [next] at h
    split_ifs at h with zero wide
    cases h
    omega
  | tryAddCount n =>
    simp only [next] at h
    split_ifs at h with zero wide
    cases h
    omega
  | signal n =>
    simp only [next] at h
    split_ifs at h with below
    cases h
    simp only [amount] at pos
    omega

theorem reachesZero_eq_true {u : Update} {v : Nat} (h : u.reachesZero v = true) :
    v = 0 ∧ ∃ n, u = .signal n := by
  cases u with
  | signal n => exact ⟨by simpa [reachesZero] using h, n, rfl⟩
  | _ => simp [reachesZero] at h

theorem reachesZero_of_next_ok {u : Update} {v : Nat} (pos : 0 < u.amount) (h : u.next v = .ok 0) :
    u.reachesZero 0 = true := by
  have started := (next_ok pos h).1
  cases u with
  | signal n => rfl
  | addCount n =>
    simp only [next] at h
    split_ifs at h with zero wide
    simp only [Except.ok.injEq] at h
    omega
  | tryAddCount n =>
    simp only [next] at h
    split_ifs at h with zero wide
    simp only [Except.ok.injEq] at h
    omega

end Update

open Update

variable {c : Countdown} {u : Update}

theorem pos_of_checkStep {n : Nat} {x : Unit} (h : checkStep n = .ok x) : 0 < n := by
  unfold checkStep at h
  split_ifs at h with zero
  omega

theorem apply_of_checkStep {f : Fault} (refused : checkStep u.amount = .error f) :
    c.apply u.command = (c, u.answer (.error f)) := by
  have zero : u.amount = 0 := by
    unfold checkStep at refused
    split_ifs at refused with h
    exact h
  have fault : f = .invalidArgument "countdown step must be at least 1" := by
    simp only [checkStep, zero, if_true, Except.error.injEq] at refused
    exact refused.symm
  subst fault
  cases u <;> simp only [amount] at zero <;>
    simp [zero, command, answer, apply, Session.step, addCount, tryAddCount, signal, checkStep,
      bind, Except.bind]

/-- Run alone, a call whose loop top refuses the current count returns that fault and leaves
the countdown as it is. -/
theorem apply_of_next_error {f : Fault} (pos : 0 < u.amount) (h : u.next c.current = .error f) :
    c.apply u.command = (c, u.answer (.error f)) := by
  cases u with
  | addCount n =>
    simp only [next] at h
    simp only [amount] at pos
    split_ifs at h <;> cases h <;>
      simp_all [command, answer, apply, Session.step, addCount, checkStep, pos.ne', bind,
        Except.bind, throw, throwThe, MonadExceptOf.throw]
  | tryAddCount n =>
    simp only [next] at h
    simp only [amount] at pos
    split_ifs at h <;> cases h <;>
      simp_all [command, answer, apply, Session.step, tryAddCount, addCount, checkStep, pos.ne',
        bind, Except.bind, throw, throwThe, MonadExceptOf.throw]
  | signal n =>
    simp only [next] at h
    simp only [amount] at pos
    split_ifs at h with below
    cases h
    simp [command, answer, apply, Session.step, signal, checkStep, pos.ne', below,
      bind, Except.bind, throw, throwThe, MonadExceptOf.throw]

theorem apply_of_next_ok {v : Nat} (pos : 0 < u.amount) (h : u.next c.current = .ok v) :
    c.apply u.command = (u.land c v, u.answer (.ok v)) := by
  cases u with
  | addCount n =>
    simp only [next] at h
    simp only [amount] at pos
    split_ifs at h with zero wide
    cases h
    have fits : ¬ Text.wordMax < c.current + n := wide
    simp [command, answer, apply, Session.step, addCount, checkStep, pos.ne', zero, fits, land,
      reachesZero, bind, Except.bind, pure, Except.pure]
  | tryAddCount n =>
    simp only [next] at h
    simp only [amount] at pos
    split_ifs at h with zero wide
    cases h
    have fits : ¬ Text.wordMax < c.current + n := wide
    simp [command, answer, apply, Session.step, tryAddCount, addCount, checkStep, pos.ne', zero,
      fits, land, reachesZero, bind, Except.bind, pure, Except.pure]
  | signal n =>
    simp only [next] at h
    simp only [amount] at pos
    split_ifs at h with below
    cases h
    by_cases zero : c.current - n = 0
    · simp [command, answer, apply, Session.step, signal, checkStep, pos.ne', below, zero, land,
        reachesZero, setLive, bind, Except.bind, pure, Except.pure]
    · simp [command, answer, apply, Session.step, signal, checkStep, pos.ne', below, zero, land,
        reachesZero, bind, Except.bind, pure, Except.pure]

/-- An update that goes through on a countdown whose live completion is unset leaves it set
exactly when the update brings the count to zero. -/
theorem land_isSet {v : Nat} (pos : 0 < u.amount) (h : u.next c.current = .ok v)
    (live : c.live < c.completions.flags.length) (unset : c.completions.isSet c.live = false) :
    (u.land c v).completions.isSet c.live = (v == 0) := by
  by_cases zero : u.reachesZero v = true
  · obtain ⟨rfl, -⟩ := reachesZero_eq_true zero
    simp only [land, zero, if_true, setLive_completions]
    exact Completions.isSet_mark_self live
  · -- only a signal exchanges for zero, and it would have completed
    have moved : v ≠ 0 := fun reached =>
      zero (reached ▸ reachesZero_of_next_ok pos (reached ▸ h))
    simp only [land, zero, Bool.false_eq_true, if_false]
    rw [beq_eq_false_iff_ne.mpr moved]
    exact unset

/-- Run alone, a call either returns a fault and leaves the countdown as it is, or passes its
loop top at the current count and exchanges it. -/
theorem apply_update (c : Countdown) (u : Update) :
    (∃ f, c.apply u.command = (c, u.answer (.error f))) ∨
      (0 < u.amount ∧ ∃ v, u.next c.current = .ok v ∧
        c.apply u.command = (u.land c v, u.answer (.ok v))) := by
  cases step : checkStep u.amount with
  | error f => exact .inl ⟨f, apply_of_checkStep step⟩
  | ok _ =>
    have pos := pos_of_checkStep step
    cases next : u.next c.current with
    | error f => exact .inl ⟨f, apply_of_next_error pos next⟩
    | ok v => exact .inr ⟨pos, v, rfl, apply_of_next_ok pos next⟩

def Command.rearms : Command → Bool
  | .reset _ | .resetToInitial => true
  | _ => false

/-- Every command is a call that updates the count, a reset that answers with nothing, or a
command on the waits that leaves the countdown as it is. -/
theorem apply_cases (c : Countdown) (cmd : Command) :
    (∃ u : Update, u.command = cmd) ∨
      (cmd.rearms = true ∧ ∃ n, c.apply cmd = (c.reset n, .done .unit)) ∨
      ((c.apply cmd).1 = c ∧ ∀ n, cmd ≠ .signal n) := by
  cases cmd with
  | addCount n => exact .inl ⟨.addCount n, rfl⟩
  | tryAddCount n => exact .inl ⟨.tryAddCount n, rfl⟩
  | signal n => exact .inl ⟨.signal n, rfl⟩
  | reset n => exact .inr (.inl ⟨rfl, n, rfl⟩)
  | resetToInitial => exact .inr (.inl ⟨rfl, c.initial, rfl⟩)
  | wait id token =>
    refine .inr (.inr ⟨?_, fun n => Command.noConfusion⟩)
    simp only [apply, Session.step]
  | poll id =>
    refine .inr (.inr ⟨?_, fun n => Command.noConfusion⟩)
    simp only [apply, Session.step]
  | drop id =>
    refine .inr (.inr ⟨?_, fun n => Command.noConfusion⟩)
    simp only [apply, Session.step]
  | cancel t => exact .inr (.inr ⟨rfl, fun n => Command.noConfusion⟩)

/-- Whether a logged command took no effect by its own answer: a fault, or `false` from an
addition that was tried. -/
def refused : Command × Outcome SignalReply → Bool
  | (_, .failed _) => true
  | (.tryAddCount _, .done (.flag false)) => true
  | _ => false

def completes : Command × Outcome SignalReply → Bool
  | (.signal _, .done (.flag true)) => true
  | _ => false

theorem refused_answer_ok (u : Update) (v : Nat) :
    refused (u.command, u.answer (.ok v)) = false := by
  cases u <;> simp [refused, command, answer]

theorem completes_answer_error (u : Update) (f : Fault) :
    completes (u.command, u.answer (.error f)) = false := by
  cases u <;> cases f <;> simp [completes, command, answer]

theorem completes_answer_ok {u : Update} {v : Nat}
    (h : completes (u.command, u.answer (.ok v)) = true) : v = 0 := by
  cases u with
  | signal n =>
    by_contra nonzero
    simp [completes, command, answer, nonzero] at h
  | _ => simp [completes, command, answer] at h

theorem completes_eq_true {x : Command × Outcome SignalReply} (h : completes x = true) :
    ∃ n, x.1 = .signal n := by
  obtain ⟨cmd, o⟩ := x
  cases cmd <;> simp_all [completes]

theorem apply_of_refused {x : Command × Outcome SignalReply} (answer : (c.apply x.1).2 = x.2)
    (h : refused x = true) : (c.apply x.1).1 = c := by
  obtain ⟨cmd, o⟩ := x
  simp only at answer ⊢
  subst answer
  rcases apply_cases c cmd with ⟨u, rfl⟩ | ⟨-, n, reset⟩ | ⟨same, -⟩
  · rcases apply_update c u with ⟨f, eq⟩ | ⟨-, v, -, eq⟩
    · rw [eq]
    · rw [eq, refused_answer_ok] at h
      cases h
  · rw [reset] at h
    cases cmd <;> simp [refused] at h
  · exact same

theorem apply_current_of_zero {cmd : Command} (zero : c.current = 0) (stays : cmd.rearms = false) :
    (c.apply cmd).1.current = 0 := by
  rcases apply_cases c cmd with ⟨u, rfl⟩ | ⟨rearm, -⟩ | ⟨same, -⟩
  · rcases apply_update c u with ⟨f, eq⟩ | ⟨pos, v, next, -⟩
    · rw [eq]
      exact zero
    · have started := (next_ok pos next).1
      omega
  · rw [stays] at rearm
    cases rearm
  · rw [same]
    exact zero

theorem apply_of_completes {x : Command × Outcome SignalReply} (answer : (c.apply x.1).2 = x.2)
    (h : completes x = true) : 0 < c.current ∧ (c.apply x.1).1.current = 0 := by
  obtain ⟨cmd, o⟩ := x
  simp only at answer ⊢
  subst answer
  rcases apply_cases c cmd with ⟨u, rfl⟩ | ⟨-, n, reset⟩ | ⟨-, other⟩
  · rcases apply_update c u with ⟨f, eq⟩ | ⟨pos, v, next, eq⟩
    · rw [eq, completes_answer_error] at h
      cases h
    · rw [eq] at h ⊢
      exact ⟨(next_ok pos next).1, by simp [completes_answer_ok h]⟩
  · rw [reset] at h
    cases cmd <;> simp [completes] at h
  · obtain ⟨n, signal⟩ := completes_eq_true h
    exact absurd signal (other n)

/-- The countdown that the commands of a log leave, run one after another from `c`. -/
def after (c : Countdown) : List (Command × Outcome SignalReply) → Countdown
  | [] => c
  | x :: rest => (c.apply x.1).1.after rest

/-- Whether every entry of a log holds the answer its command gets at its turn, run from `c`. -/
def Answers : Countdown → List (Command × Outcome SignalReply) → Prop
  | _, [] => True
  | c, x :: rest => (c.apply x.1).2 = x.2 ∧ Answers (c.apply x.1).1 rest

variable {log pre seg post : List (Command × Outcome SignalReply)}

@[simp] theorem after_nil (c : Countdown) : c.after [] = c := rfl

@[simp] theorem after_cons (c : Countdown) (x : Command × Outcome SignalReply) :
    c.after (x :: log) = (c.apply x.1).1.after log := rfl

@[simp] theorem after_append (c : Countdown) : c.after (pre ++ post) = (c.after pre).after post := by
  induction pre generalizing c with
  | nil => rfl
  | cons x pre ih => exact ih _

@[simp] theorem answers_nil (c : Countdown) : c.Answers [] := trivial

@[simp] theorem answers_cons (c : Countdown) (x : Command × Outcome SignalReply) :
    c.Answers (x :: log) ↔ (c.apply x.1).2 = x.2 ∧ (c.apply x.1).1.Answers log := Iff.rfl

theorem answers_append (c : Countdown) :
    c.Answers (pre ++ post) ↔ c.Answers pre ∧ (c.after pre).Answers post := by
  induction pre generalizing c with
  | nil => simp
  | cons x pre ih => simp [ih, and_assoc]

theorem after_current_of_zero (stays : ∀ x ∈ seg, x.1.rearms = false) (zero : c.current = 0) :
    (c.after seg).current = 0 := by
  induction seg generalizing c with
  | nil => exact zero
  | cons x seg ih =>
    exact ih (fun y mem => stays y (.tail x mem))
      (apply_current_of_zero zero (stays x (.head seg)))

theorem countP_completes_of_zero (answers : c.Answers seg) (stays : ∀ x ∈ seg, x.1.rearms = false)
    (zero : c.current = 0) : seg.countP completes = 0 := by
  induction seg generalizing c with
  | nil => rfl
  | cons x seg ih =>
    obtain ⟨answer, rest⟩ := answers
    -- a signal answering `true` needs a positive count
    have quiet : completes x = false := by
      by_contra loud
      have positive := (apply_of_completes answer (by simpa using loud)).1
      omega
    rw [List.countP_cons_of_neg (by simp [quiet])]
    exact ih rest (fun y mem => stays y (.tail x mem))
      (apply_current_of_zero zero (stays x (.head seg)))

/-- Between resets at most one signal answers `true`: the one that brings the count to zero,
which stays there. -/
theorem countP_completes_le_one (answers : c.Answers seg) (stays : ∀ x ∈ seg, x.1.rearms = false) :
    seg.countP completes ≤ 1 := by
  induction seg generalizing c with
  | nil => simp
  | cons x seg ih =>
    obtain ⟨answer, rest⟩ := answers
    have stays' : ∀ y ∈ seg, y.1.rearms = false := fun y mem => stays y (.tail x mem)
    by_cases loud : completes x = true
    · -- the first signal to answer `true` leaves zero, from which none other does
      have reached := (apply_of_completes answer loud).2
      rw [List.countP_cons_of_pos loud, countP_completes_of_zero rest stays' reached]
    · rw [List.countP_cons_of_neg loud]
      exact ih rest stays'

/-- What a log of countdown commands keeps, run from `c`: a refused command changes nothing;
between two resets a count of zero stays zero, a signal answers `true` only when it takes a
positive count to zero, and at most one signal does. -/
structure History (c : Countdown) (log : List (Command × Outcome SignalReply)) : Prop where
  refusedKeeps : ∀ pre x post, log = pre ++ x :: post → refused x = true →
    c.after (pre ++ [x]) = c.after pre
  zeroStays : ∀ pre seg post, log = pre ++ seg ++ post → (∀ x ∈ seg, x.1.rearms = false) →
    (c.after pre).current = 0 → (c.after (pre ++ seg)).current = 0
  completesFromPositive : ∀ pre x post, log = pre ++ x :: post → completes x = true →
    0 < (c.after pre).current ∧ (c.after (pre ++ [x])).current = 0
  completesOnce : ∀ seg, seg <:+: log → (∀ x ∈ seg, x.1.rearms = false) →
    seg.countP completes ≤ 1

theorem Answers.entry {x : Command × Outcome SignalReply} (answers : c.Answers (pre ++ x :: post)) :
    ((c.after pre).apply x.1).2 = x.2 :=
  ((answers_append c).mp answers).2.1

theorem Answers.history (answers : c.Answers log) : c.History log where
  refusedKeeps pre x post split no := by
    subst split
    rw [after_append, after_cons, after_nil]
    exact apply_of_refused answers.entry no
  zeroStays pre seg post _ stays zero := by
    rw [after_append]
    exact after_current_of_zero stays zero
  completesFromPositive pre x post split loud := by
    subst split
    rw [after_append, after_cons, after_nil]
    exact apply_of_completes answers.entry loud
  completesOnce seg inside stays := by
    obtain ⟨pre, post, rfl⟩ := inside
    have middle := ((answers_append c).mp ((answers_append c).mp answers).1).2
    exact countP_completes_le_one middle stays

end Countdown

end Sluice
