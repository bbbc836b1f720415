import Mathlib
import Sluice.Proofs.Signal.History
import Sluice.Proofs.Activity.Crowd
/-!
# A countdown shared by concurrent calls

`add_count`, `try_add_count` and `signal` never block: each reads the count, checks it at the
top of its loop, and tries to exchange it for the new count with a weak compare-and-exchange,
which fails when another call changed the count in between, and may fail spuriously. A failed
exchange gives back the count it found, and the loop checks that one. A signal whose exchange
reached zero sets the live completion afterwards, under the completion's lock, and only then
returns. Resets are not meant to race with these calls: here they run only while no call is in
flight.

`Countdown.Contention` is the shared countdown with every call made on it (`Countdown.Flight`
says where each stands), and the log of the calls in the order they took effect, each with its
answer. A call takes effect at its one exchange that went through, or at the read its loop
refused; the model checks each count at the read that returned it, which the loop does before
it touches the count again. `Contention.step` carries out one `Countdown.Event`: a new call, an
exchange attempt of any call in flight, a completion being set, or a reset.

`Contention.Sound` is the invariant: the count is a word, every call in its loop holds the
exchange its loop top computed, the log run one command after another from the first
countdown gives every logged answer and leaves the countdown as it will stand once a pending
completion is set (`Contention.settled`), each call that took effect is logged once, and that
countdown's live completion is set exactly when the count is zero.

`countdown_updates_take_effect_in_one_order`: for every schedule of events from a countdown
whose count is a word, the count stays a word; the log, replayed one call after another from
the first countdown, gives every logged answer and reaches the countdown as it will stand; the
log holds each call that took effect exactly once; its history is one of a sequential countdown;
and once no call is in flight, the live completion is set exactly when the count is zero.
-/

namespace Sluice

namespace Countdown

/-- Where a call on a shared countdown stands. -/
inductive Flight where
  -- in its loop, holding the count `observed` it last read and the count `next` its loop top
  -- computed from it, to exchange for
  | exchanging (u : Update) (observed next : Nat)
  -- a call whose exchange reached zero, about to set the live completion and return
  | completing (u : Update)
  | returned (cmd : Command) (answer : Outcome SignalReply)

namespace Flight

def answered : Flight → Option (Command × Outcome SignalReply)
  | .exchanging _ _ _ => none
  | .completing u => some (u.command, u.answer (.ok 0))
  | .returned cmd answer => some (cmd, answer)

def inFlight : Flight → Bool
  | .returned _ _ => false
  | _ => true

def isCompleting : Flight → Bool
  | .completing _ => true
  | _ => false

/-- A call that has read the count `v`: its loop top refuses `v` and it returns the fault, or it
holds `v` for its next exchange. -/
def read (u : Update) (v : Nat) : Flight :=
  match u.next v with
  | .ok next => .exchanging u v next
  | .error f => .returned u.command (u.answer (.error f))

/-- A call whose exchange for `v` went through: a signal that reached zero goes on to set the
live completion, any other call returns. -/
def exchanged (u : Update) (v : Nat) : Flight :=
  if u.reachesZero v then .completing u else .returned u.command (u.answer (.ok v))

/-- A call in its loop has a step above zero and holds what its loop top computed from the
count it read. -/
def Planned : Flight → Prop
  | .exchanging u observed next => 0 < u.amount ∧ u.next observed = .ok next
  | _ => True

theorem isCompleting_inFlight {f : Flight} (h : f.isCompleting = true) : f.inFlight = true := by
  cases f <;> simp_all [isCompleting, inFlight]

@[simp] theorem read_isCompleting (u : Update) (v : Nat) : (read u v).isCompleting = false := by
  unfold read
  split <;> rfl

theorem read_planned {u : Update} (pos : 0 < u.amount) (v : Nat) : (read u v).Planned := by
  unfold read
  split
  · next next h => exact ⟨pos, h⟩
  · trivial

theorem read_answered {u : Update} {c : Countdown} (pos : 0 < u.amount) :
    ∀ x ∈ (read u c.current).answered, c.apply x.1 = (c, x.2) := by
  unfold read
  split
  · intro x none
    cases none
  · next f h =>
    intro x found
    cases found
    exact apply_of_next_error pos h

@[simp] theorem exchanged_answered (u : Update) {v : Nat} :
    (exchanged u v).answered = some (u.command, u.answer (.ok v)) := by
  unfold exchanged
  split
  · next zero => simp [answered, (Update.reachesZero_eq_true zero).1]
  · rfl

@[simp] theorem exchanged_isCompleting (u : Update) (v : Nat) :
    (exchanged u v).isCompleting = u.reachesZero v := by
  unfold exchanged
  split <;> simp_all [isCompleting]

theorem exchanged_planned (u : Update) (v : Nat) : (exchanged u v).Planned := by
  unfold exchanged
  split <;> trivial

end Flight

/-- What happens next on a shared countdown. -/
inductive Event where
  -- a caller makes an update call: a step of zero is refused at once, otherwise the call reads the
  -- count
  | call (u : Update)
  -- the call at position `i` tries its exchange; with `spurious` a weak exchange fails although the
  -- count matched
  | attempt (i : Nat) (spurious : Bool)
  | complete (i : Nat)
  | reset (n : Nat)
  | resetToInitial

def Event.Fits : Event → Prop
  | .reset n => n ≤ Text.wordMax
  | _ => True

/-- A countdown shared by concurrent calls. -/
structure Contention where
  -- the counts and completions that every call reads and changes
  shared : Countdown
  -- every call made, in the order made, where it stands
  calls : List Flight := []
  -- the commands in the order they took effect, with their answers
  log : List (Command × Outcome SignalReply) := []

namespace Contention

def create (n : Nat) : Contention :=
  { shared := Countdown.create n }

def busy (s : Contention) : Bool :=
  s.calls.any Flight.inFlight

/-- The countdown as it stands once a call whose exchange reached zero has set the live
completion. -/
def settled (s : Contention) : Countdown :=
  if s.calls.any Flight.isCompleting then s.shared.setLive else s.shared

def join (s : Contention) (f : Flight) : Contention :=
  { s with calls := s.calls ++ [f], log := s.log ++ f.answered.toList }

def move (s : Contention) (i : Nat) (f : Flight) : Contention :=
  { s with calls := s.calls.set i f, log := s.log ++ f.answered.toList }

/-- The exchange of the call at `i`, in its loop with `u`, goes through: the count becomes
`next` and the call takes effect. -/
def exchange (s : Contention) (i : Nat) (u : Update) (next : Nat) : Contention :=
  { shared := { s.shared with current := next },
    calls := s.calls.set i (Flight.exchanged u next),
    log := s.log ++ [(u.command, u.answer (.ok next))] }

def finish (s : Contention) (i : Nat) (u : Update) : Contention :=
  { shared := s.shared.setLive,
    calls := s.calls.set i (.returned u.command (u.answer (.ok 0))),
    log := s.log }

/-- A reset runs alone: while a call is in flight it does not run, and otherwise it runs as on
the countdown alone. -/
def alone (s : Contention) (cmd : Command) : Contention :=
  if s.busy then s
  else
    { shared := (s.shared.apply cmd).1,
      calls := s.calls ++ [.returned cmd (s.shared.apply cmd).2],
      log := s.log ++ [(cmd, (s.shared.apply cmd).2)] }

def step (s : Contention) : Event → Contention
  | .call u =>
      match checkStep u.amount with
      | .error f => s.join (.returned u.command (u.answer (.error f)))
      | .ok () => s.join (Flight.read u s.shared.current)
  | .attempt i spurious =>
      match s.calls[i]? with
      | some (.exchanging u observed next) =>
          if s.shared.current = observed ∧ spurious = false then s.exchange i u next
          else
            -- the exchange gives back the count it found, and the loop reads it
            s.move i (Flight.read u s.shared.current)
      | _ => s
  | .complete i =>
      match s.calls[i]? with
      | some (.completing u) => s.finish i u
      | _ => s
  | .reset n => s.alone (.reset n)
  | .resetToInitial => s.alone .resetToInitial

def run (s : Contention) : List Event → Contention
  | [] => s
  | e :: rest => (s.step e).run rest

variable {s : Contention}

@[simp] theorem settled_current : s.settled.current = s.shared.current := by
  unfold settled; split <;> rfl

@[simp] theorem settled_live : s.settled.live = s.shared.live := by
  unfold settled; split <;> rfl

@[simp] theorem settled_initial : s.settled.initial = s.shared.initial := by
  unfold settled; split <;> rfl

theorem settled_of_quiet (quiet : s.calls.any Flight.isCompleting = false) :
    s.settled = s.shared := by
  simp [settled, quiet]

theorem read_keeps {u : Update} (pos : 0 < u.amount) :
    ∀ x ∈ (Flight.read u s.shared.current).answered, s.settled.apply x.1 = (s.settled, x.2) := by
  have answered := Flight.read_answered pos (c := s.settled)
  rwa [settled_current] at answered

theorem any_set_split (p : Flight → Bool) {l : List Flight} {i : Nat} {x : Flight}
    (found : l[i]? = some x) (y : Flight) :
    l.any p = ((l.take i).any p || p x || (l.drop (i + 1)).any p) ∧
      (l.set i y).any p = ((l.take i).any p || p y || (l.drop (i + 1)).any p) := by
  obtain ⟨lt, rfl⟩ := List.getElem?_eq_some_iff.mp found
  constructor
  · conv_lhs => rw [← List.take_append_drop i l, ← List.getElem_cons_drop lt]
    simp only [List.any_append, List.any_cons, Bool.or_assoc]
  · rw [List.set_eq_take_append_cons_drop, if_pos lt]
    simp only [List.any_append, List.any_cons, Bool.or_assoc]

theorem perm_move {log : List (Command × Outcome SignalReply)} {calls : List Flight} {i : Nat}
    {x : Flight} (found : calls[i]? = some x) (looping : x.answered = none) (y : Flight)
    (once : log.Perm (calls.filterMap Flight.answered)) :
    (log ++ y.answered.toList).Perm ((calls.set i y).filterMap Flight.answered) := by
  obtain ⟨front, back, before, after⟩ := Crowd.filterMap_set_split Flight.answered found y
  rw [before, looping, Option.toList_none, List.append_nil] at once
  rw [after]
  calc List.Perm (log ++ y.answered.toList) (front ++ back ++ y.answered.toList) :=
        once.append_right _
    _ = front ++ (back ++ y.answered.toList) := List.append_assoc _ _ _
    List.Perm _ (front ++ (y.answered.toList ++ back)) := List.perm_append_comm.append_left front
    _ = front ++ y.answered.toList ++ back := (List.append_assoc _ _ _).symm

theorem after_answered {c : Countdown} {o : Option (Command × Outcome SignalReply)}
    (keeps : ∀ x ∈ o, c.apply x.1 = (c, x.2)) : c.after o.toList = c ∧ c.Answers o.toList := by
  cases o with
  | none => exact ⟨rfl, trivial⟩
  | some x =>
    have kept := keeps x rfl
    simp [kept]

/-- The invariant of a countdown shared by concurrent calls, run from the countdown `c₀`: the
counts are words and the live completion exists; every call in its loop holds what its loop
top computed; the log, run one command after another from `c₀`, gives every logged answer and
leaves the countdown settled; each call that took effect is logged once; and the settled
countdown's live completion is set exactly when the count is zero. -/
structure Sound (c₀ : Countdown) (s : Contention) : Prop where
  bounded : s.shared.current ≤ Text.wordMax
  initialBounded : s.shared.initial ≤ Text.wordMax
  live : s.shared.live < s.shared.completions.flags.length
  planned : ∀ f ∈ s.calls, f.Planned
  setIffZero : s.settled.completions.isSet s.shared.live = (s.shared.current == 0)
  answers : c₀.Answers s.log
  reaches : c₀.after s.log = s.settled
  once : s.log.Perm (s.calls.filterMap Flight.answered)

variable {c₀ : Countdown}

theorem sound_create {n : Nat} (small : n ≤ Text.wordMax) :
    Sound (Countdown.create n) (create n) where
  bounded := small
  initialBounded := small
  live := by simp [create, Countdown.create, Completions.fresh]
  planned := by simp [create]
  setIffZero := by simp [settled, create, Countdown.create, Completions.fresh, Completions.isSet]
  answers := trivial
  reaches := by simp [settled, create]
  once := by simp [create]

/-- While the count is above zero, no call is about to set the live completion: the one whose
exchange reached zero left it at zero, and only a reset, which waits for it, lifts it. -/
theorem Sound.quiet_of_positive (h : Sound c₀ s) (pos : 0 < s.shared.current) :
    s.calls.any Flight.isCompleting = false := by
  by_contra pending
  have set : s.settled.completions.isSet s.shared.live = true := by
    simp only [settled, Bool.not_eq_false] at pending ⊢
    rw [if_pos pending, setLive_completions]
    exact Completions.isSet_mark_self h.live
  rw [h.setIffZero] at set
  simp only [beq_iff_eq] at set
  omega

/-- A step that leaves the shared countdown and its settled form as they are, and logs at most
an entry that the settled countdown answers without changing, keeps the invariant once its
calls stay planned and its log a permutation of the calls that took effect. -/
theorem Sound.keep (h : Sound c₀ s) {t : Contention} {o : Option (Command × Outcome SignalReply)}
    (shared : t.shared = s.shared) (same : t.settled = s.settled)
    (logged : t.log = s.log ++ o.toList) (keeps : ∀ x ∈ o, s.settled.apply x.1 = (s.settled, x.2))
    (planned : ∀ f ∈ t.calls, f.Planned) (once : t.log.Perm (t.calls.filterMap Flight.answered)) :
    Sound c₀ t := by
  obtain ⟨stays, answered⟩ := after_answered keeps
  refine ⟨shared ▸ h.bounded, shared ▸ h.initialBounded, shared ▸ h.live, planned, ?_, ?_, ?_,
    once⟩
  · rw [same, shared]
    exact h.setIffZero
  · rw [logged]
    exact (answers_append c₀).mpr ⟨h.answers, by rw [h.reaches]; exact answered⟩
  · rw [logged, after_append, h.reaches, stays, same]

/-- A new call that changes nothing keeps the invariant: a call still in its loop, or one
that takes effect by a refusal answered as the countdown alone answers it. -/
theorem Sound.join (h : Sound c₀ s) {f : Flight} (planned : f.Planned)
    (quiet : f.isCompleting = false)
    (keeps : ∀ x ∈ f.answered, s.settled.apply x.1 = (s.settled, x.2)) :
    Sound c₀ (s.join f) := by
  refine h.keep rfl ?_ rfl keeps ?_ ?_
  · simp [settled, Contention.join, List.any_append, quiet]
  · intro g mem
    rcases List.mem_append.mp mem with old | new
    · exact h.planned g old
    · rw [List.mem_singleton.mp new]
      exact planned
  · simp only [Contention.join, List.filterMap_append, List.filterMap_cons, List.filterMap_nil]
    cases f.answered with
    | none => simpa using h.once
    | some x => simpa using h.once.append_right [x]

theorem Sound.move (h : Sound c₀ s) {i : Nat} {u : Update} {observed next : Nat}
    (found : s.calls[i]? = some (.exchanging u observed next)) {f : Flight} (planned : f.Planned)
    (quiet : f.isCompleting = false)
    (keeps : ∀ x ∈ f.answered, s.settled.apply x.1 = (s.settled, x.2)) :
    Sound c₀ (s.move i f) := by
  refine h.keep rfl ?_ rfl keeps ?_ (perm_move found rfl f h.once)
  · -- the call was in its loop and stays out of the completion
    obtain ⟨before, after⟩ := any_set_split Flight.isCompleting found f
    have looping : (Flight.exchanging u observed next).isCompleting = false := rfl
    simp only [settled, Contention.move, before, after, quiet, looping]
  · intro g mem
    rcases List.mem_or_eq_of_mem_set mem with old | rfl
    · exact h.planned g old
    · exact planned

/-- An exchange that goes through keeps the invariant: the call takes effect there, as it
would run alone on the count it found, and a signal that reached zero leaves the live
completion to be set. -/
theorem Sound.exchange (h : Sound c₀ s) {i : Nat} {u : Update} {observed next : Nat}
    (found : s.calls[i]? = some (.exchanging u observed next))
    (matched : s.shared.current = observed) : Sound c₀ (s.exchange i u next) := by
  obtain ⟨pos, plan⟩ := h.planned _ (List.mem_of_getElem? found)
  rw [← matched] at plan
  have started := Update.next_ok pos plan
  -- no completion is pending while the count is above zero, so the countdown was settled
  have quiet := h.quiet_of_positive started.1
  have was : s.settled = s.shared := settled_of_quiet quiet
  have pending : (s.calls.set i (Flight.exchanged u next)).any Flight.isCompleting =
      u.reachesZero next := by
    obtain ⟨before, after⟩ := any_set_split Flight.isCompleting found (Flight.exchanged u next)
    rw [quiet, eq_comm, Bool.or_eq_false_iff, Bool.or_eq_false_iff] at before
    rw [after, before.1.1, before.2, Flight.exchanged_isCompleting, Bool.false_or, Bool.or_false]
  have landed : (s.exchange i u next).settled = u.land s.shared next := by
    simp only [settled, Contention.exchange, pending, Update.land]
  have alone := apply_of_next_ok pos plan
  refine ⟨started.2 h.bounded, h.initialBounded, h.live, ?_, ?_, ?_, ?_, ?_⟩
  · intro g mem
    rcases List.mem_or_eq_of_mem_set mem with old | rfl
    · exact h.planned g old
    · exact Flight.exchanged_planned u next
  · -- the live completion was unset, the count being above zero
    have unset := h.setIffZero
    rw [was, beq_eq_false_iff_ne.mpr started.1.ne'] at unset
    rw [landed]
    exact land_isSet pos plan h.live unset
  · refine (answers_append c₀).mpr ⟨h.answers, ?_⟩
    simp [h.reaches, was, alone]
  · rw [landed]
    simp only [Contention.exchange, after_append, h.reaches, was, after_cons, after_nil, alone]
  · have moved := perm_move found rfl (Flight.exchanged u next) h.once
    rwa [Flight.exchanged_answered] at moved

theorem Sound.finish (h : Sound c₀ s) {i : Nat} {u : Update}
    (found : s.calls[i]? = some (.completing u)) : Sound c₀ (s.finish i u) := by
  have pending : s.calls.any Flight.isCompleting = true :=
    List.any_eq_true.mpr ⟨_, List.mem_of_getElem? found, rfl⟩
  have same : (s.finish i u).settled = s.settled := by
    unfold settled
    rw [pending, if_pos rfl]
    split <;> simp [Contention.finish]
  refine ⟨h.bounded, h.initialBounded, by simpa [Contention.finish] using h.live, ?_, ?_, ?_, ?_,
    ?_⟩
  · intro g mem
    rcases List.mem_or_eq_of_mem_set mem with old | rfl
    · exact h.planned g old
    · trivial
  · rw [same]
    exact h.setIffZero
  · exact h.answers
  · rw [same]
    exact h.reaches
  · obtain ⟨front, back, before, after⟩ := Crowd.filterMap_set_split Flight.answered found
      (.returned u.command (u.answer (.ok 0)))
    have kept := h.once
    rw [before] at kept
    simp only [Contention.finish]
    rw [after]
    exact kept

theorem quiet_of_idle {s : Contention} (idle : s.busy = false) :
    s.calls.any Flight.isCompleting = false := by
  rw [busy, List.any_eq_false] at idle
  exact List.any_eq_false.mpr fun f mem pending => idle f mem (Flight.isCompleting_inFlight pending)

/-- A reset run alone keeps the invariant: it waits for every call in flight, and then re-arms
the countdown as it does on the countdown alone. -/
theorem Sound.alone (h : Sound c₀ s) (cmd : Command) {m : Nat} (small : m ≤ Text.wordMax)
    (rearm : s.shared.apply cmd = (s.shared.reset m, .done .unit)) :
    Sound c₀ (s.alone cmd) := by
  unfold Contention.alone
  split
  · exact h
  · next idle =>
    have quiet := quiet_of_idle (Bool.not_eq_true _ ▸ idle)
    have was := settled_of_quiet quiet
    rw [rearm]
    refine ⟨small, small, by simp, ?_, ?_, ?_, ?_, ?_⟩
    · intro g mem
      rcases List.mem_append.mp mem with old | new
      · exact h.planned g old
      · rw [List.mem_singleton.mp new]
        trivial
    · simp [settled, List.any_append, quiet, Flight.isCompleting]
    · refine (answers_append c₀).mpr ⟨h.answers, ?_⟩
      simp [h.reaches, was, rearm]
    · simp [settled, List.any_append, quiet, Flight.isCompleting, h.reaches, rearm]
    · simpa [Flight.answered] using h.once.append_right _

theorem Sound.step (h : Sound c₀ s) (e : Event) (fits : e.Fits) : Sound c₀ (s.step e) := by
  cases e with
  | call u =>
    simp only [Contention.step]
    split
    · next f refused =>
      refine h.join trivial rfl fun x found => ?_
      cases found
      exact apply_of_checkStep refused
    · next accepted =>
      have pos := pos_of_checkStep accepted
      exact h.join (Flight.read_planned pos _) (Flight.read_isCompleting _ _) (read_keeps pos)
  | attempt i spurious =>
    simp only [Contention.step]
    split
    · next u observed next found =>
      split
      · next through => exact h.exchange found through.1
      · -- the exchange failed and the loop reads the count it gave back
        obtain ⟨pos, -⟩ := h.planned _ (List.mem_of_getElem? found)
        exact h.move found (Flight.read_planned pos _) (Flight.read_isCompleting _ _)
          (read_keeps pos)
    · exact h
  | complete i =>
    simp only [Contention.step]
    split
    · next u found => exact h.finish found
    · exact h
  | reset n => exact h.alone (.reset n) fits rfl
  | resetToInitial => exact h.alone .resetToInitial h.initialBounded rfl

theorem Sound.run (h : Sound c₀ s) (events : List Event) (fits : ∀ e ∈ events, e.Fits) :
    Sound c₀ (s.run events) := by
  induction events generalizing s with
  | nil => exact h
  | cons e rest ih =>
    exact ih (h.step e (fits e (.head rest))) (fun e' mem => fits e' (.tail e mem))

end Contention

end Countdown

open Countdown Contention in
/-- Updates of a shared countdown, with their exchanges interleaved in any way, weak exchanges
failing spuriously, and resets run only while no call is in flight, take effect in one order,
as if run one after another. The count stays a word. The calls that took effect, each logged
once with its own answer, give their answers and leave the countdown as the same commands run
one after another do; so a refused call changes nothing, a count of zero stays zero until a
reset, and between two resets at most one signal answers `true`, the one that took a positive
count to zero. With no call in flight the live completion is set exactly when the count is
zero. -/
theorem countdown_updates_take_effect_in_one_order (n : Nat) (events : List Event)
    (small : n ≤ Text.wordMax) (resets : ∀ m, Event.reset m ∈ events → m ≤ Text.wordMax) :
    let s := (Contention.create n).run events
    s.shared.current ≤ Text.wordMax ∧
      (Countdown.create n).Answers s.log ∧ (Countdown.create n).after s.log = s.settled ∧
      s.log.Perm (s.calls.filterMap Flight.answered) ∧
      (Countdown.create n).History s.log ∧
      (s.busy = false → s.settled = s.shared ∧
        (s.shared.completions.isSet s.shared.live = true ↔ s.shared.current = 0)) := by
  intro s
  have fits : ∀ e ∈ events, e.Fits := by
    intro e mem
    cases e with
    | reset m => exact resets m mem
    | _ => trivial
  have h : Sound (Countdown.create n) s := (sound_create small).run events fits
  refine ⟨h.bounded, h.answers, h.reaches, h.once, h.answers.history, fun idle => ?_⟩
  have was := settled_of_quiet (quiet_of_idle idle)
  have zero := h.setIffZero
  rw [was] at zero
  exact ⟨was, by rw [zero, beq_iff_eq]⟩

open Countdown Contention in
/-- Two signals race from a count of two: the first exchange goes through, the second fails
on the stale count, reads the new one, fails once spuriously, then takes the count to zero and
sets the completion; a reset re-arms at three. -/
theorem two_signals_race_to_zero :
    let events : List Event := [.call (.signal 1), .call (.signal 1), .attempt 0 false,
      .attempt 1 false, .attempt 1 true, .attempt 1 false, .complete 1, .reset 3]
    (2 ≤ Text.wordMax ∧ ∀ m, Event.reset m ∈ events → m ≤ Text.wordMax) ∧
      let s := (Contention.create 2).run events
      s.shared.current ≤ Text.wordMax ∧
        (Countdown.create 2).Answers s.log ∧ (Countdown.create 2).after s.log = s.settled ∧
        s.log.Perm (s.calls.filterMap Flight.answered) ∧
        (Countdown.create 2).History s.log ∧
        (s.busy = false → s.settled = s.shared ∧
          (s.shared.completions.isSet s.shared.live = true ↔ s.shared.current = 0)) := by
  intro events
  have small : 2 ≤ Text.wordMax := by decide
  have resets : ∀ m, Event.reset m ∈ events → m ≤ Text.wordMax := by
    intro m mem
    simp only [events, List.mem_cons, reduceCtorEq, Event.reset.injEq, List.not_mem_nil,
      false_or, or_false] at mem
    subst mem
    decide
  exact ⟨⟨small, resets⟩, countdown_updates_take_effect_in_one_order 2 events small resets⟩

end Sluice
