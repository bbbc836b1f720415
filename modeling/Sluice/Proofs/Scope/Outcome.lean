import Mathlib
import Sluice.Scope.Session
import Sluice.Proofs.Signal.Waits
/-!
# A scope records exactly one outcome

A scope's task runs its operation; when the task ends, `Scope.finish` records the end and
sets the done flag, and every reader (`isCompleted`, `isCanceled`, `fault`, `completion`,
`dispose`, `takeOutput`) reads that record. Here a session is watched as it runs: every end
the operation's task reaches is noted, as the operation's polls report it and apart from what
the scope records (`Session.endFor`), and every reply is logged with the end the task had
reached when the reply was given (`Watch`).

The main theorem holds for every operation whose making succeeded and every script of
commands: the task ends at most once; the scope shows nothing until it ends and exactly that
end afterwards (`Scope.Shows`); `completion` and `dispose` answer only once the end is there,
`completion` with the operation's own result; and `takeOutput` yields the returned value, at
most once.

* `Session.endFor`, `Session.settleEnd`, `Session.answerEnd` — the task's ends, watched.
* `TaskEnd.result`, `TaskEnd.cancelled`, `TaskEnd.fault`, `TaskEnd.value` — what an end
  promises the readers.
* `Scope.Shows`, `Session.Recorded` — the record agrees with the end; `Recorded.settle` and
  `Recorded.act` are the step lemmas.
* `Watch`, `Watch.Sound`, `Sound.step`, `Sound.run`.
* `ScopeRun.scope_records_one_outcome`.
-/

namespace Sluice

namespace TaskEnd

/-- The result the operation gave, with a panic as the internal fault. -/
def result : TaskEnd → Except Fault Unit
  | .returned r => r.map fun _ => ()
  | .panicked => .error panickedFault

def cancelled : TaskEnd → Bool
  | .returned (.error e) => e.isCancelled
  | _ => false

/-- The fault the operation ended with, when it neither returned a value nor a cancellation. -/
def fault : TaskEnd → Option Fault
  | .returned (.ok _) => none
  | .returned (.error e) => if e.isCancelled then none else some e
  | .panicked => some panickedFault

def value : TaskEnd → Option Nat
  | .returned (.ok v) => some v
  | _ => none

end TaskEnd

namespace Scope

/-- What a scope shows, given how its task has ended so far: nothing before the end, and
exactly that end after it. -/
structure Shows (sc : Scope) (ended : Option TaskEnd) : Prop where
  completed : sc.isCompleted = ended.isSome
  done : sc.done = ended.isSome
  canceled : sc.isCanceled = ended.any TaskEnd.cancelled
  fault : sc.fault = ended.bind TaskEnd.fault
  completion : sc.completion = ended.elim .pending fun e => .ready e.result

theorem shows_running {sc : Scope} (status : sc.status = .running) (done : sc.done = false) :
    sc.Shows none where
  completed := by simp [isCompleted, status]
  done := done
  canceled := by simp [isCanceled, status]
  fault := by simp [Scope.fault, status]
  completion := by simp [completion, done]

theorem shows_finish (sc : Scope) (e : TaskEnd) : (sc.finish e).Shows (some e) := by
  rcases e with (f | v) | _
  · cases f <;> exact ⟨rfl, rfl, rfl, rfl, rfl⟩
  · exact ⟨rfl, rfl, rfl, rfl, rfl⟩
  · exact ⟨rfl, rfl, rfl, rfl, rfl⟩

/-- Recording an end goes in order. The value is stored before the status says success, and
the status is recorded before the done flag is set: at every step of `finish`, a reader that
sees success finds the value, and a reader that sees the done flag finds the final status. -/
theorem finish_in_order (sc : Scope) (e : TaskEnd) (running : sc.status = .running)
    (waiting : sc.done = false) :
    ∀ x ∈ [sc, sc.storeOutput e, (sc.storeOutput e).record e.status, sc.finish e],
      (x.status = .succeeded → x.output = e.value) ∧ (x.done = true → x.status = e.status) := by
  -- storing the value touches neither the status nor the done flag
  have kept : (sc.storeOutput e).status = .running ∧ (sc.storeOutput e).done = false := by
    rcases e with (f | v) | _ <;> simp [storeOutput, running, waiting]
  have stored : e.status = .succeeded → (sc.storeOutput e).output = e.value := by
    rcases e with (f | v) | _
    · by_cases c : f.isCancelled <;> simp [TaskEnd.status, c]
    · simp [storeOutput, TaskEnd.value]
    · simp [TaskEnd.status]
  simp only [List.mem_cons, List.not_mem_nil, or_false]
  rintro x (rfl | rfl | rfl | rfl)
  · simp [running, waiting]
  · simp [kept.1, kept.2]
  · exact ⟨stored, fun _ => rfl⟩
  · exact ⟨stored, fun _ => rfl⟩

theorem Shows.of_record {sc sc' : Scope} {ended : Option TaskEnd} (h : sc.Shows ended)
    (status : sc'.status = sc.status) (done : sc'.done = sc.done) : sc'.Shows ended where
  completed := by rw [← h.completed, isCompleted, isCompleted, status]
  done := by rw [done, h.done]
  canceled := by rw [← h.canceled, isCanceled, isCanceled, status]
  fault := by rw [← h.fault, Scope.fault, Scope.fault, status]
  completion := by rw [← h.completion, Scope.completion, Scope.completion, status, done]

end Scope

namespace ScopeRun.Session

/-- How the task ends while `runFor` runs it, if it ends. -/
def endFor : Nat → Session → Option TaskEnd
  | 0, _ => none
  | fuel + 1, s =>
      match s.task with
      | none => none
      | some op =>
          match op.poll s.scope.tokenCancelled s.gateOpen with
          | (op', .yielded) => endFor fuel { s with task := some op' }
          | (_, .waiting) => none
          | (_, .ended e) => some e

theorem runFor_cases (n : Nat) (s : Session) :
    (endFor n s = none ∧ ∃ t, runFor n s = { s with task := t } ∧ (t = none ↔ s.task = none)) ∨
    (∃ e, endFor n s = some e ∧ s.task.isSome ∧
      runFor n s = { s with task := none, scope := s.scope.finish e }) := by
  induction n generalizing s with
  | zero => exact .inl ⟨rfl, s.task, rfl, Iff.rfl⟩
  | succ n ih =>
    cases htask : s.task with
    | none =>
      refine .inl ⟨by simp [endFor, htask], none, ?_, by simp⟩
      obtain ⟨scope, task, gateOpen⟩ := s
      subst htask
      rfl
    | some op =>
      rcases hpoll : op.poll s.scope.tokenCancelled s.gateOpen with ⟨op', st⟩
      cases st with
      | yielded =>
        rcases ih { s with task := some op' } with ⟨hend, t, hrun, ht⟩ | ⟨e, hend, -, hrun⟩
        · refine .inl ⟨by simp [endFor, htask, hpoll, hend], t, ?_, by simpa using ht⟩
          simp [runFor, htask, hpoll, hrun]
        · refine .inr ⟨e, by simp [endFor, htask, hpoll, hend], by simp, ?_⟩
          simp [runFor, htask, hpoll, hrun]
      | waiting =>
        refine .inl ⟨by simp [endFor, htask, hpoll], some op', ?_, by simp⟩
        simp [runFor, htask, hpoll]
      | ended e =>
        refine .inr ⟨e, by simp [endFor, htask, hpoll], by simp, ?_⟩
        simp [runFor, htask, hpoll]

variable {s : Session} {ended : Option TaskEnd}

def settleEnd (s : Session) : Option TaskEnd :=
  endFor ((s.task.map Operation.yields).getD 0 + 2) s

/-- How the task ends before a command answers: `completion` and `dispose` wait for it. -/
def answerEnd (s : Session) : Command → Option TaskEnd
  | .completion => s.settleEnd
  | .dispose => { s with scope := s.scope.cancel }.settleEnd
  | _ => none

/-- The scope agrees with how the task has ended so far: the task runs exactly until its end,
the scope shows that end, and the output holds nothing or the value the task returned. -/
structure Recorded (s : Session) (ended : Option TaskEnd) : Prop where
  task : s.task.isNone = ended.isSome
  shows : s.scope.Shows ended
  output : s.scope.output = none ∨ s.scope.output = ended.bind TaskEnd.value

theorem settle_cases (s : Session) :
    (s.settleEnd = none ∧ ∃ t, s.settle = { s with task := t } ∧ (t = none ↔ s.task = none)) ∨
    (∃ e, s.settleEnd = some e ∧ s.task.isSome ∧
      s.settle = { s with task := none, scope := s.scope.finish e }) :=
  runFor_cases _ s

/-- A command that leaves the task, the status and the done flag alone, and at most empties the
output, keeps the record. -/
theorem Recorded.frame {s' : Session} (h : s.Recorded ended)
    (task : s'.task.isNone = s.task.isNone) (status : s'.scope.status = s.scope.status)
    (done : s'.scope.done = s.scope.done)
    (output : s'.scope.output = none ∨ s'.scope.output = s.scope.output) : s'.Recorded ended where
  task := task.trans h.task
  shows := h.shows.of_record status done
  output := by
    rcases output with empty | same
    · exact .inl empty
    · exact same ▸ h.output

theorem Recorded.settle (h : s.Recorded ended) : s.settle.Recorded (ended.or s.settleEnd) := by
  rcases settle_cases s with ⟨none_, t, settled, ht⟩ | ⟨e, ends, running, settled⟩
  · rw [none_, Option.or_none, settled]
    have same : t.isNone = s.task.isNone := by
      rw [Bool.eq_iff_iff, Option.isNone_iff_eq_none, Option.isNone_iff_eq_none, ht]
    exact h.frame same rfl rfl (.inr rfl)
  · -- the task was running, so nothing had been recorded
    have fresh : ended = none := by
      have := h.task
      cases ended <;> simp_all
    subst fresh
    rw [ends, settled]
    refine ⟨rfl, Scope.shows_finish _ _, ?_⟩
    rcases e with (f | v) | _
    · exact h.output
    · exact .inr rfl
    · exact h.output

theorem settleEnd_of_ended {e : TaskEnd} (h : s.Recorded (some e)) : s.settleEnd = none := by
  rcases settle_cases s with ⟨none_, -⟩ | ⟨e', -, running, -⟩
  · exact none_
  · have := h.task
    simp_all

/-- One command of a watched run: the command, its reply, and how the task had ended when the
reply was given, if it had. -/
structure Entry where
  command : Command
  reply : Outcome Reply
  ended : Option TaskEnd

/-- What a reply must be, given how the task had ended by then: `completion` waits for the end
and answers the operation's own result; `dispose` returns only once the end is recorded;
`takeOutput` yields nothing or the returned value. -/
def Entry.Answers (x : Entry) : Prop :=
  match x.command with
  | .completion =>
      x.reply = x.ended.elim .pending fun e => (Outcome.ofExcept e.result).map fun _ => .unit
  | .dispose => x.reply = x.ended.elim .pending fun _ => .done .unit
  | .takeOutput =>
      x.reply = .done (.output none) ∨ x.reply = .done (.output (x.ended.bind TaskEnd.value))
  | _ => True

def Entry.yields (x : Entry) : Bool :=
  match x.command, x.reply with
  | .takeOutput, .done (.output (some _)) => true
  | _, _ => false

def unclaimed (s : Session) : Nat :=
  s.scope.output.isSome.toNat

theorem answerEnd_of_ended {e : TaskEnd} (h : s.Recorded (some e)) (c : Command) :
    s.answerEnd c = none := by
  cases c with
  | completion => exact settleEnd_of_ended h
  | dispose => exact settleEnd_of_ended (h.frame rfl rfl rfl (.inr rfl))
  | _ => rfl

theorem unclaimed_settle (s : Session) :
    unclaimed s.settle ≤ unclaimed s + s.settleEnd.isSome.toNat := by
  rcases settle_cases s with ⟨none_, t, settled, -⟩ | ⟨e, ends, -, settled⟩
  · simp [none_, settled, unclaimed]
  · rw [ends, settled]
    simp only [unclaimed, Option.isSome_some, Bool.toNat_true]
    have := Bool.toNat_le (s.scope.finish e).output.isSome
    omega

/-- One command, before the task runs again: it keeps the record, adding the task's end when
it waited for it, and it answers as `Entry.Answers` says. -/
theorem Recorded.act (h : s.Recorded ended) (c : Command) :
    (s.act c).1.Recorded (ended.or (s.answerEnd c)) ∧
      (Entry.mk c (s.act c).2 (ended.or (s.answerEnd c))).Answers := by
  cases c with
  | settle => exact ⟨by simpa [Session.act, answerEnd] using h, trivial⟩
  | cancel | openGate =>
    -- the scope's token or the gate changes, the record does not
    refine ⟨?_, trivial⟩
    simp only [Session.act, answerEnd, Option.or_none]
    exact h.frame rfl rfl rfl (.inr rfl)
  | cancelOuter =>
    refine ⟨?_, trivial⟩
    simp only [Session.act, answerEnd, Option.or_none]
    split
    · exact h.frame rfl rfl rfl (.inr rfl)
    · exact h
  | completion =>
    have settled := h.settle
    refine ⟨settled, ?_⟩
    simp only [Entry.Answers, Session.act, answerEnd, settled.shows.completion]
    cases ended.or s.settleEnd <;> rfl
  | dispose =>
    have cancelled : { s with scope := s.scope.cancel }.Recorded ended :=
      h.frame rfl rfl rfl (.inr rfl)
    have settled := cancelled.settle
    refine ⟨settled, ?_⟩
    simp only [Entry.Answers, Session.act, answerEnd, settled.shows.done]
    cases ended.or _ <;> rfl
  | takeOutput =>
    simp only [Entry.Answers, Session.act, answerEnd, Scope.takeOutput, Option.or_none]
    refine ⟨h.frame rfl rfl rfl (.inl rfl), ?_⟩
    rcases h.output with empty | value
    · exact .inl (by rw [empty])
    · exact .inr (by rw [value])

/-- A command yields a value only by emptying the output, and fills the output only when it
waited for the task's end. -/
theorem yields_add_unclaimed_act (s : Session) (c : Command) (x : Option TaskEnd) :
    (Entry.mk c (s.act c).2 x).yields.toNat + unclaimed (s.act c).1 ≤
      unclaimed s + (s.answerEnd c).isSome.toNat := by
  cases c with
  | completion => simpa [Entry.yields, Session.act, answerEnd] using unclaimed_settle s
  | dispose =>
    have settled := unclaimed_settle { s with scope := s.scope.cancel }
    simp only [Entry.yields, Session.act, answerEnd, Bool.toNat_false, Nat.zero_add]
    exact settled
  | takeOutput =>
    simp only [Entry.yields, Session.act, Scope.takeOutput, unclaimed, answerEnd]
    rcases s.scope.output with _ | v <;> simp
  | cancelOuter =>
    simp only [Entry.yields, Session.act, answerEnd]
    split <;> simp [unclaimed, Scope.cancelOuter]
  | settle | cancel | openGate => simp [Entry.yields, Session.act, answerEnd, unclaimed, Scope.cancel]

theorem Recorded.ends_step (h : s.Recorded ended) (c : Command) :
    (s.answerEnd c).isSome.toNat + (s.act c).1.settleEnd.isSome.toNat ≤ ended.isNone.toNat := by
  have acted := (h.act c).1
  cases ended with
  | some e =>
    rw [answerEnd_of_ended h c] at acted ⊢
    simp [settleEnd_of_ended acted]
  | none =>
    cases hanswer : s.answerEnd c with
    | none => simpa using Bool.toNat_le _
    | some e =>
      rw [hanswer] at acted
      simp [settleEnd_of_ended acted]

end ScopeRun.Session

/-- A scope session watched as it runs: every end its task reaches, in order, and the log of
its commands. -/
structure ScopeRun.Watch where
  session : ScopeRun.Session
  ends : List TaskEnd
  log : List ScopeRun.Session.Entry

namespace ScopeRun.Watch

open Session

def begin (s : Session) : Watch :=
  ⟨s, [], []⟩

def step (w : Watch) (c : Command) : Watch :=
  let answered := w.ends ++ (w.session.answerEnd c).toList
  { session := (w.session.step c).1
    ends := answered ++ (w.session.act c).1.settleEnd.toList
    log := w.log ++ [⟨c, (w.session.step c).2, answered.head?⟩] }

def run (w : Watch) : List Command → Watch
  | [] => w
  | c :: cs => (w.step c).run cs

theorem run_eq (w : Watch) (cmds : List Command) :
    ((w.run cmds).session, (w.run cmds).log.map Entry.reply) =
      ((runSteps Session.step w.session cmds).1,
        w.log.map Entry.reply ++ (runSteps Session.step w.session cmds).2) := by
  induction cmds generalizing w with
  | nil => simp [run, runSteps]
  | cons c cs ih =>
    simp only [run, runSteps, ih]
    simp [step]

/-- What every watched run keeps: the task ends at most once, the scope records exactly that
end, every reply so far is as `Entry.Answers` says, and a value is yielded or still held at
most once per end. -/
structure Sound (w : Watch) : Prop where
  once : w.ends.length ≤ 1
  recorded : w.session.Recorded w.ends.head?
  answers : ∀ x ∈ w.log, x.Answers
  takes : w.log.countP Entry.yields + unclaimed w.session ≤ w.ends.length

theorem sound_begin {op : Operation} {outer : Option Bool} {s₀ : Session}
    (started : Session.start op outer = .ok s₀) : (begin s₀).Sound := by
  unfold Session.start at started
  split at started
  · cases started
  · cases started
    exact ⟨by simp [begin], ⟨rfl, Scope.shows_running rfl rfl, .inl rfl⟩, by simp [begin],
      by simp [begin, unclaimed]⟩

theorem length_toList_eq_toNat {α : Type} (o : Option α) : o.toList.length = o.isSome.toNat := by
  cases o <;> rfl

theorem head?_append_toList {α : Type} (l : List α) (o : Option α) :
    (l ++ o.toList).head? = l.head?.or o := by
  cases l <;> cases o <;> rfl

theorem countP_append_entry (log : List Entry) (x : Entry) :
    (log ++ [x]).countP Entry.yields = log.countP Entry.yields + x.yields.toNat := by
  cases hx : x.yields <;> simp [List.countP_append, hx]

theorem Sound.step {w : Watch} (h : w.Sound) (c : Command) : (w.step c).Sound := by
  obtain ⟨acted, answers⟩ := h.recorded.act c
  have adds := h.recorded.ends_step c
  have taken := yields_add_unclaimed_act w.session c (w.ends.head?.or (w.session.answerEnd c))
  have settledTakes := unclaimed_settle (w.session.act c).1
  have ends : (w.step c).ends =
      w.ends ++ (w.session.answerEnd c).toList ++ (w.session.act c).1.settleEnd.toList := rfl
  have entry : (w.step c).log = w.log ++
      [⟨c, (w.session.act c).2, w.ends.head?.or (w.session.answerEnd c)⟩] := by
    simp [Watch.step, Session.step]
  have lengths : (w.step c).ends.length = w.ends.length + (w.session.answerEnd c).isSome.toNat +
      (w.session.act c).1.settleEnd.isSome.toNat := by
    simp [ends, length_toList_eq_toNat, Nat.add_assoc]
  refine ⟨?_, ?_, ?_, ?_⟩
  · -- a run that has ended adds nothing, a running one at most one end
    have once := h.once
    rw [lengths]
    rcases hl : w.ends with _ | ⟨e, _ | ⟨e', rest⟩⟩
    · -- running: the command or the settle after it ends the task, not both
      simp only [hl, List.head?_nil, Option.isNone_none, Bool.toNat_true] at adds
      simp only [List.length_nil]
      omega
    · -- ended: neither can end it again
      simp only [hl, List.head?_cons, Option.isNone_some, Bool.toNat_false] at adds
      simp only [List.length_singleton]
      omega
    · simp [hl] at once
  · rw [ends, head?_append_toList, head?_append_toList]
    exact acted.settle
  · intro x mem
    rw [entry, List.mem_append, List.mem_singleton] at mem
    rcases mem with old | rfl
    · exact h.answers x old
    · exact answers
  · have takes := h.takes
    rw [entry, countP_append_entry, lengths]
    change _ + unclaimed (w.session.act c).1.settle ≤ _
    omega

theorem Sound.run {w : Watch} (h : w.Sound) (cmds : List Command) : (w.run cmds).Sound := by
  induction cmds generalizing w with
  | nil => exact h
  | cons c cs ih => exact ih (h.step c)

end ScopeRun.Watch

namespace ScopeRun

open Session

/-- A scope whose start succeeded records exactly one outcome. Whatever the operation does
and whatever commands come, in any order: the task ends at most once; until it ends the scope
shows nothing, and from then on exactly that end (completed, canceled exactly when the
operation returned a cancellation, its fault, and completion answering the operation's own
result); `completion` and `dispose` answer only after the end and `completion` answers the
operation's result; and `takeOutput` yields the returned value, at most once. -/
theorem scope_records_one_outcome {op : Operation} {outer : Option Bool} {s₀ : Session}
    (started : Session.start op outer = .ok s₀) (cmds : List Command) :
    ((Watch.begin s₀).run cmds).session = (runSteps Session.step s₀ cmds).1 ∧
    ((Watch.begin s₀).run cmds).log.map Entry.reply = (runSteps Session.step s₀ cmds).2 ∧
    ((Watch.begin s₀).run cmds).ends.length ≤ 1 ∧
    ((Watch.begin s₀).run cmds).session.scope.Shows ((Watch.begin s₀).run cmds).ends.head? ∧
    (∀ x ∈ ((Watch.begin s₀).run cmds).log, x.Answers) ∧
    ((Watch.begin s₀).run cmds).log.countP Entry.yields ≤ 1 := by
  have sound := (Watch.sound_begin started).run cmds
  have same := Watch.run_eq (Watch.begin s₀) cmds
  simp only [Watch.begin, List.map_nil, List.nil_append, Prod.mk.injEq] at same
  refine ⟨same.1, same.2, sound.once, sound.recorded.shows, sound.answers, ?_⟩
  have := sound.takes
  have := sound.once
  omega

/-- An operation that yields once, ignores the dispose's cancellation and returns 7, driven
by a dispose, two takes and a completion. -/
theorem outcome_of_operation_ignoring_dispose :
    Session.start { mode := .cancelThenValue, value := 7, yields := 1 } none =
        .ok { scope := {}, task := some { mode := .cancelThenValue, value := 7, yields := 1 } } ∧
    ((Watch.begin { scope := {}, task := some { mode := .cancelThenValue, value := 7, yields := 1 } }).run
        [.dispose, .takeOutput, .takeOutput, .completion]).session =
      (runSteps Session.step
        { scope := {}, task := some { mode := .cancelThenValue, value := 7, yields := 1 } }
        [.dispose, .takeOutput, .takeOutput, .completion]).1 ∧
    ((Watch.begin { scope := {}, task := some { mode := .cancelThenValue, value := 7, yields := 1 } }).run
        [.dispose, .takeOutput, .takeOutput, .completion]).log.map Entry.reply =
      (runSteps Session.step
        { scope := {}, task := some { mode := .cancelThenValue, value := 7, yields := 1 } }
        [.dispose, .takeOutput, .takeOutput, .completion]).2 ∧
    ((Watch.begin { scope := {}, task := some { mode := .cancelThenValue, value := 7, yields := 1 } }).run
        [.dispose, .takeOutput, .takeOutput, .completion]).ends.length ≤ 1 ∧
    ((Watch.begin { scope := {}, task := some { mode := .cancelThenValue, value := 7, yields := 1 } }).run
        [.dispose, .takeOutput, .takeOutput, .completion]).session.scope.Shows
      ((Watch.begin { scope := {}, task := some { mode := .cancelThenValue, value := 7, yields := 1 } }).run
        [.dispose, .takeOutput, .takeOutput, .completion]).ends.head? ∧
    (∀ x ∈ ((Watch.begin
        { scope := {}, task := some { mode := .cancelThenValue, value := 7, yields := 1 } }).run
        [.dispose, .takeOutput, .takeOutput, .completion]).log, x.Answers) ∧
    ((Watch.begin { scope := {}, task := some { mode := .cancelThenValue, value := 7, yields := 1 } }).run
        [.dispose, .takeOutput, .takeOutput, .completion]).log.countP Entry.yields ≤ 1 := by
  refine ⟨?started, scope_records_one_outcome ?started _⟩
  rfl

/-- The dispose waits for the operation, which then counts as completed and not canceled,
with no fault and its value there to take. -/
example :
    (runSteps Session.step
        { scope := {}, task := some { mode := .cancelThenValue, value := 7, yields := 1 } }
        [.dispose]).1.scope.isCompleted = true ∧
    (runSteps Session.step
        { scope := {}, task := some { mode := .cancelThenValue, value := 7, yields := 1 } }
        [.dispose]).1.scope.isCanceled = false ∧
    (runSteps Session.step
        { scope := {}, task := some { mode := .cancelThenValue, value := 7, yields := 1 } }
        [.dispose]).1.scope.output = some 7 := by
  decide

end ScopeRun

end Sluice
