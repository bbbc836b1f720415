import Mathlib
import Sluice.Proofs.Registry
import Sluice.Proofs.Signal.History
/-!
# Waits on a manual-reset signal

A manual-reset signal keeps its waits on completions: a wait binds, at its first poll, to the
completion that is live then, and from that moment it looks only at that completion. Setting
the signal sets the live completion; resetting a set signal makes a new, unset completion live
and leaves the old one set; resetting an unset signal does nothing.

The design promises something simpler, with no completions in it. `Latch` is that promise: a
flag that `set` raises and `reset` lowers, and for each parked wait its token and whether a
`set` has come since it parked. A wait whose token has fired at its first poll is cancelled,
even on a raised flag; otherwise it finishes at once on a raised flag and parks on a lowered
one. A parked wait finishes at the first poll after a `set` with success, whatever resets came
in between, and before that with a cancellation at the first poll after its token fired.

The two agree: every script, run on a manual-reset session and on the latch, gets the same
answers (`manual_signal_answers_as_latch`). The bridge is `Session.latch`, which reads each wait
as parked with the flag of its completion. It commutes with every command because each bound
wait is anchored (`SignalWait.Anchored`): it is bound to the live completion, or to one that is
set already, and a set completion stays set. So the first `set` after a wait binds sets its
completion, and no reset can move a wait away from a completion that is still unset.

* `Completions.isSet_mark_of_isSet`, `Completions.isSet_mark_of_ne`, `Completions.isSet_append`.
* `runSteps` — a script through a step function, with its answers.
* `Registry.map`, with `find?_map`, `map_put`, `map_remove`.
* `Parked`, `Latch`, `Latch.step`, `ManualSignal.lastSetting`.
* `SignalWait.view`, `ManualSignal.Session.latch`, `ManualSignal.Session.Anchored`.
-/

namespace Sluice

namespace Completions

variable {c : Completions} {i j : Nat}

theorem isSet_mark_of_ne (h : j ≠ i) : (c.mark i).isSet j = c.isSet j := by
  simp [mark, isSet, List.getD_eq_getElem?_getD, Ne.symm h]

theorem lt_length_of_isSet (h : c.isSet j = true) : j < c.flags.length := by
  by_contra outside
  simp [isSet, List.getD_eq_getElem?_getD, List.getElem?_eq_none (not_lt.mp outside)] at h

theorem isSet_mark_of_isSet (h : c.isSet j = true) : (c.mark i).isSet j = true := by
  by_cases same : j = i
  · subst same
    exact isSet_mark_self (lt_length_of_isSet h)
  · rw [isSet_mark_of_ne same, h]

theorem isSet_append (b : Bool) (h : j < c.flags.length) :
    ({ flags := c.flags ++ [b] } : Completions).isSet j = c.isSet j := by
  simp [isSet, List.getD_eq_getElem?_getD, List.getElem?_append_left h]

end Completions

namespace SignalReply

/-! The answers of the waiting commands, as replies. -/

@[simp] theorem ofUnit_ofPoll_pending : ofUnit (Outcome.ofPoll .pending) = .pending := rfl

@[simp] theorem ofUnit_ofPoll_ok : ofUnit (Outcome.ofPoll (.ready (.ok ()))) = .done .unit := rfl

@[simp] theorem ofUnit_ofPoll_error (f : Fault) :
    ofUnit (Outcome.ofPoll (.ready (.error f))) = .failed f := rfl

@[simp] theorem ofUnit_done : ofUnit (.done ()) = .done .unit := rfl

@[simp] theorem ofUnit_finished : ofUnit .finished = .finished := rfl

@[simp] theorem ofUnit_unknownFuture (id : String) : ofUnit (unknownFuture id) = unknownFuture id :=
  rfl

end SignalReply

/-- Run commands one after another through `step`: the state they leave, and their answers in
order. -/
def runSteps {S C R : Type} (step : S → C → S × R) (s : S) : List C → S × List R
  | [] => (s, [])
  | c :: cs => ((runSteps step (step s c).1 cs).1, (step s c).2 :: (runSteps step (step s c).1 cs).2)

namespace Registry

variable {α β : Type}

def map (f : α → β) (r : Registry α) : Registry β :=
  { entries := r.entries.map fun e => (e.1, f e.2) }

@[simp] theorem find?_map (f : α → β) (r : Registry α) (name : String) :
    (r.map f).find? name = (r.find? name).map f := by
  obtain ⟨entries⟩ := r
  simp only [map, find?]
  induction entries with
  | nil => rfl
  | cons e rest ih =>
    obtain ⟨k, a⟩ := e
    by_cases same : name = k <;> simp [lookup_cons_if, same, ih]

theorem map_put (f : α → β) (r : Registry α) (name : String) (a : α) :
    (r.put name a).map f = (r.map f).put name (f a) := by
  obtain ⟨entries⟩ := r
  simp only [map, put, mk.injEq]
  induction entries with
  | nil => rfl
  | cons e rest ih =>
    obtain ⟨k, b⟩ := e
    by_cases same : k = name <;> simp [putEntry, same, ih]

theorem map_remove (f : α → β) (r : Registry α) (name : String) :
    (r.remove name).map f = (r.map f).remove name := by
  simp [map, remove, List.filter_map, Function.comp_def]

theorem map_map {γ : Type} (f : α → β) (g : β → γ) (r : Registry α) :
    (r.map f).map g = r.map (g ∘ f) := by
  simp [map]

theorem map_congr {f g : α → β} {r : Registry α} (same : ∀ e ∈ r.entries, f e.2 = g e.2) :
    r.map f = r.map g := by
  simp only [map, mk.injEq, List.map_inj_left, Prod.mk.injEq, true_and]
  exact same

theorem forall_put {p : α → Prop} {r : Registry α} (all : ∀ e ∈ r.entries, p e.2) (name : String)
    {a : α} (new : p a) : ∀ e ∈ (r.put name a).entries, p e.2 := by
  obtain ⟨entries⟩ := r
  simp only [put]
  induction entries with
  | nil => simpa [putEntry] using new
  | cons e rest ih =>
    obtain ⟨k, b⟩ := e
    simp only [List.forall_mem_cons] at all
    by_cases same : k = name
    · simp only [putEntry, same, if_true, List.forall_mem_cons]
      exact ⟨new, all.2⟩
    · simp only [putEntry, same, if_false, List.forall_mem_cons]
      exact ⟨all.1, ih all.2⟩

theorem mem_entries_of_find? {r : Registry α} {name : String} {a : α} (h : r.find? name = some a) :
    (name, a) ∈ r.entries := by
  obtain ⟨pre, post, split, -⟩ := find?_eq_some h
  simp [split]

theorem forall_remove {p : α → Prop} {r : Registry α} (all : ∀ e ∈ r.entries, p e.2)
    (name : String) : ∀ e ∈ (r.remove name).entries, p e.2 :=
  fun e mem => all e (List.mem_of_mem_filter mem)

end Registry

/-- A wait as the design describes it: parked, with its token and whether a `set` has come
since it parked, or finished. -/
inductive Parked where
  | parked (released : Bool) (token : Option Token)
  | finished
  deriving DecidableEq, Repr

def Parked.release : Parked → Parked
  | .parked _ token => .parked true token
  | .finished => .finished

/-- A manual-reset signal as its design describes it, without completions: a flag, the waits by
name, and the cancelled tokens. -/
structure Latch where
  flag : Bool
  waits : Registry Parked := {}
  cancellations : Cancellations := {}

namespace Latch

def create (flag : Bool) : Latch :=
  { flag }

def step (l : Latch) : ManualSignal.Command → Latch × Outcome SignalReply
  | .set => ({ l with flag := true, waits := l.waits.map Parked.release }, .done .unit)
  | .reset => ({ l with flag := false }, .done .unit)
  | .wait id token =>
      -- a fired token wins over a raised flag at the first poll
      if l.cancellations.hits token then
        ({ l with waits := l.waits.put id .finished }, .failed .cancelled)
      else if l.flag then ({ l with waits := l.waits.put id .finished }, .done .unit)
      else ({ l with waits := l.waits.put id (.parked false token) }, .pending)
  | .poll id =>
      match l.waits.find? id with
      | none => (l, unknownFuture id)
      | some .finished => (l, .finished)
      | some (.parked released token) =>
          -- a set since parking wins over a fired token
          if released then ({ l with waits := l.waits.put id .finished }, .done .unit)
          else if l.cancellations.hits token then
            ({ l with waits := l.waits.put id .finished }, .failed .cancelled)
          else (l, .pending)
  | .drop id =>
      match l.waits.find? id with
      | none => (l, unknownFuture id)
      | some _ => ({ l with waits := l.waits.remove id }, .done .unit)
  | .cancel t => ({ l with cancellations := l.cancellations.cancel t }, .done .unit)

end Latch

namespace ManualSignal

def Command.setting : Command → Option Bool
  | .set => some true
  | .reset => some false
  | _ => none

/-- The flag of the last `set` or `reset` of a script, or `initial` when there is none. -/
def lastSetting (initial : Bool) (cmds : List Command) : Bool :=
  (cmds.filterMap Command.setting).getLastD initial

theorem lastSetting_cons (initial : Bool) (c : Command) (cmds : List Command) :
    lastSetting initial (c :: cmds) = lastSetting (c.setting.getD initial) cmds := by
  cases c <;> simp only [lastSetting, Command.setting, List.filterMap_cons, List.getLastD_cons,
    Option.getD_none, Option.getD_some]

variable {m : ManualSignal}

theorem reset_of_isSet (set : m.isSet = true) :
    m.reset = { completions := { flags := m.completions.flags ++ [false] },
                live := m.completions.flags.length } := by
  simp [reset, set, Completions.fresh]

theorem reset_of_not_isSet (unset : m.isSet = false) : m.reset = m := by
  simp [reset, unset]

theorem isSet_set (live_lt : m.live < m.completions.flags.length) : m.set.isSet = true :=
  Completions.isSet_mark_self live_lt

theorem isSet_reset : m.reset.isSet = false := by
  cases set : m.isSet with
  | false => rw [reset_of_not_isSet set, set]
  | true => simp [reset_of_isSet set, isSet, Completions.isSet]

end ManualSignal

namespace Latch

theorem flag_step (l : Latch) (c : ManualSignal.Command) :
    (l.step c).1.flag = c.setting.getD l.flag := by
  cases c with
  | wait id token =>
    simp only [step]
    split
    · rfl
    split <;> rfl
  | poll id =>
    simp only [step]
    split
    · rfl
    · rfl
    · split
      · rfl
      split <;> rfl
  | drop id =>
    simp only [step]
    split <;> rfl
  | _ => rfl

theorem flag_runSteps (l : Latch) (cmds : List ManualSignal.Command) :
    (runSteps step l cmds).1.flag = ManualSignal.lastSetting l.flag cmds := by
  induction cmds generalizing l with
  | nil => rfl
  | cons c rest ih => rw [runSteps, ih, flag_step, ManualSignal.lastSetting_cons]

end Latch

namespace SignalWait

/-- A wait as the latch sees it: parked with the flag of its completion, or finished. -/
def view (c : Completions) : SignalWait → Parked
  | .bound i token => .parked (c.isSet i) token
  | .finished => .finished

/-- A wait anchored in a manual-reset signal: bound to a completion already made, and to the
live one unless its completion is set. -/
def Anchored (m : ManualSignal) : SignalWait → Prop
  | .bound i _ => i < m.completions.flags.length ∧ (i = m.live ∨ m.completions.isSet i = true)
  | .finished => True

variable {m : ManualSignal} {w : SignalWait}

/-- A `set` sets the completion of every anchored wait: its own, or one set already. -/
theorem Anchored.set (h : w.Anchored m) (live_lt : m.live < m.completions.flags.length) :
    w.Anchored m.set ∧ w.view m.set.completions = (w.view m.completions).release := by
  cases w with
  | finished => exact ⟨trivial, rfl⟩
  | bound i token =>
    obtain ⟨made, anchor⟩ := h
    have marked : m.set.completions.isSet i = true := by
      rcases anchor with rfl | set
      · exact Completions.isSet_mark_self live_lt
      · exact Completions.isSet_mark_of_isSet set
    refine ⟨⟨by simpa [ManualSignal.set, Completions.mark] using made, Or.inr marked⟩, ?_⟩
    simp [view, marked, Parked.release]

/-- A reset of a set signal leaves every anchored wait on a set completion, as it was. -/
theorem Anchored.reset (h : w.Anchored m) (set : m.isSet = true) :
    w.Anchored m.reset ∧ w.view m.reset.completions = w.view m.completions := by
  cases w with
  | finished => exact ⟨trivial, rfl⟩
  | bound i token =>
    obtain ⟨made, anchor⟩ := h
    have wasSet : m.completions.isSet i = true := by
      rcases anchor with rfl | set'
      · exact set
      · exact set'
    have kept := Completions.isSet_append (c := m.completions) false made
    rw [ManualSignal.reset_of_isSet set]
    exact ⟨⟨by simp; omega, Or.inr (kept.trans wasSet)⟩, by simp [view, kept]⟩

theorem anchored_begin (cs : Cancellations) (token : Option Token)
    (live_lt : m.live < m.completions.flags.length) :
    (begin cs m.completions m.live token).2.Anchored m := by
  unfold begin
  split
  · trivial
  split
  · trivial
  · exact ⟨live_lt, Or.inl rfl⟩

theorem Anchored.poll (h : w.Anchored m) (cs : Cancellations) :
    (w.poll cs m.completions).2.Anchored m := by
  cases w with
  | finished => trivial
  | bound i token =>
    simp only [SignalWait.poll]
    split
    · trivial
    split
    · trivial
    · exact h

end SignalWait

namespace ManualSignal

namespace Session

/-- The latch a session shows: the signal's flag, each wait with the flag of its completion,
and the cancelled tokens. -/
def latch (s : Session) : Latch :=
  { flag := s.signal.isSet, waits := s.board.waits.map (SignalWait.view s.signal.completions),
    cancellations := s.board.cancellations }

structure Anchored (s : Session) : Prop where
  live_lt : s.signal.live < s.signal.completions.flags.length
  waits : ∀ e ∈ s.board.waits.entries, e.2.Anchored s.signal

variable {s : Session}

theorem anchored_create (initiallySet : Bool) :
    ({ signal := ManualSignal.create initiallySet } : Session).Anchored where
  live_lt := by simp [ManualSignal.create, Completions.fresh]
  waits := by simp

theorem latch_create (initiallySet : Bool) :
    ({ signal := ManualSignal.create initiallySet } : Session).latch = Latch.create initiallySet := by
  cases initiallySet <;> rfl

theorem Anchored.step (h : s.Anchored) (c : Command) : (s.step c).1.Anchored := by
  cases c with
  | set =>
    exact ⟨by simpa [Session.step, ManualSignal.set, Completions.mark] using h.live_lt,
      fun e mem => ((h.waits e mem).set h.live_lt).1⟩
  | reset =>
    cases set : s.signal.isSet with
    | false => simpa [Session.step, ManualSignal.reset_of_not_isSet set] using h
    | true =>
      refine ⟨?_, fun e mem => ((h.waits e mem).reset set).1⟩
      simp [Session.step, ManualSignal.reset_of_isSet set]
  | wait id token =>
    exact ⟨h.live_lt, Registry.forall_put h.waits id
      (SignalWait.anchored_begin s.board.cancellations token h.live_lt)⟩
  | poll id =>
    simp only [Session.step, WaitBoard.poll]
    cases found : s.board.waits.find? id with
    | none => exact h
    | some w =>
      have anchored := h.waits _ (Registry.mem_entries_of_find? found)
      exact ⟨h.live_lt, Registry.forall_put h.waits id (anchored.poll _)⟩
  | drop id =>
    simp only [Session.step, WaitBoard.drop]
    cases s.board.waits.find? id with
    | none => exact h
    | some _ => exact ⟨h.live_lt, Registry.forall_remove h.waits id⟩
  | cancel t => exact ⟨h.live_lt, h.waits⟩

/-- Reading a session as a latch commutes with every command: the session's answer is the
latch's, and the session it leaves reads as the latch the latch's step leaves. -/
theorem step_latch (h : s.Anchored) (c : Command) :
    ((s.step c).1.latch, (s.step c).2) = s.latch.step c := by
  cases c with
  | set =>
    have views : s.board.waits.map (SignalWait.view s.signal.set.completions) =
        (s.board.waits.map (SignalWait.view s.signal.completions)).map Parked.release := by
      rw [Registry.map_map]
      exact Registry.map_congr fun e mem => ((h.waits e mem).set h.live_lt).2
    simp [Session.step, latch, Latch.step, views, ManualSignal.isSet_set h.live_lt]
  | reset =>
    cases set : s.signal.isSet with
    | false => simp [Session.step, latch, Latch.step, ManualSignal.reset_of_not_isSet set, set]
    | true =>
      have views : s.board.waits.map (SignalWait.view s.signal.reset.completions) =
          s.board.waits.map (SignalWait.view s.signal.completions) :=
        Registry.map_congr fun e mem => ((h.waits e mem).reset set).2
      simp [Session.step, latch, Latch.step, views, ManualSignal.isSet_reset]
  | wait id token =>
    simp only [Session.step, WaitBoard.begin, SignalWait.begin, latch, Latch.step]
    by_cases hit : s.board.cancellations.hits token
    · simp [hit, Registry.map_put, SignalWait.view]
    by_cases set : s.signal.completions.isSet s.signal.live <;>
      simp [hit, set, ManualSignal.isSet, Registry.map_put, SignalWait.view]
  | poll id =>
    cases found : s.board.waits.find? id with
    | none => simp [Session.step, WaitBoard.poll, found, latch, Latch.step]
    | some w =>
      cases w with
      | finished =>
        -- the finished wait is stored again as it was
        simp [Session.step, WaitBoard.poll, found, SignalWait.poll, Registry.put_of_find? found,
          latch, Latch.step, SignalWait.view]
      | bound i token =>
        have common := Registry.map_put (SignalWait.view s.signal.completions) s.board.waits id
        by_cases set : s.signal.completions.isSet i
        · simp [Session.step, WaitBoard.poll, found, SignalWait.poll, set, latch, Latch.step,
            SignalWait.view, common]
        by_cases hit : s.board.cancellations.hits token
        · simp [Session.step, WaitBoard.poll, found, SignalWait.poll, set, hit, latch, Latch.step,
            SignalWait.view, common]
        · -- still pending: the same wait is stored again
          simp [Session.step, WaitBoard.poll, found, SignalWait.poll, set, hit,
            Registry.put_of_find? found, latch, Latch.step, SignalWait.view]
  | drop id =>
    cases found : s.board.waits.find? id with
    | none => simp [Session.step, WaitBoard.drop, found, latch, Latch.step]
    | some w => simp [Session.step, WaitBoard.drop, found, latch, Latch.step, Registry.map_remove]
  | cancel t => simp [Session.step, WaitBoard.cancel, latch, Latch.step]

theorem runSteps_latch (h : s.Anchored) (cmds : List Command) :
    ((runSteps Session.step s cmds).1.latch, (runSteps Session.step s cmds).2) =
      runSteps Latch.step s.latch cmds := by
  -- the anchoring invariant is carried along the script, one `step_latch` per command
  induction cmds generalizing s with
  | nil => rfl
  | cons c rest ih =>
    obtain ⟨left, right⟩ := Prod.ext_iff.mp (step_latch h c)
    have tail := ih (h.step c)
    simp only [runSteps, ← left, ← right, ← tail]

end Session

/-- A manual-reset session answers every script as its latch does. A `set` releases every wait
parked before it, whatever resets follow, so no parked wait is stranded; a wait whose token has
fired at its first poll is cancelled, even on a set signal; a parked wait finishes with success at
its first poll after a `set`, and is cancelled at an earlier poll after its token fired. The
signal ends set exactly when the last `set` or `reset` of the script is a `set`, or, with
neither, when it was made set. -/
theorem manual_signal_answers_as_latch (initiallySet : Bool) (cmds : List Command) :
    (runSteps Session.step { signal := create initiallySet } cmds).2 =
        (runSteps Latch.step (Latch.create initiallySet) cmds).2 ∧
      (runSteps Session.step { signal := create initiallySet } cmds).1.latch =
        (runSteps Latch.step (Latch.create initiallySet) cmds).1 ∧
      (runSteps Session.step { signal := create initiallySet } cmds).1.signal.isSet =
        lastSetting initiallySet cmds := by
  have agree := Session.runSteps_latch (Session.anchored_create initiallySet) cmds
  rw [Session.latch_create] at agree
  have flag := Latch.flag_runSteps (Latch.create initiallySet) cmds
  rw [← agree] at flag
  exact ⟨(Prod.ext_iff.mp agree).2, (Prod.ext_iff.mp agree).1, flag⟩

/-- A wait parked on an unset signal outlives a reset and is released by the next `set`. -/
example :
    (runSteps Session.step { signal := create false }
      [.wait "a" none, .reset, .set, .reset, .poll "a"]).2 =
      [.pending, .done .unit, .done .unit, .done .unit, .done .unit] := by
  rfl

end ManualSignal

end Sluice
