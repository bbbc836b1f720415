import Mathlib
import Sluice.Runtime
import Sluice.Activity.Script
import Sluice.Duplex.Session
import Sluice.Proofs.Semaphore.Gauge
/-!
# One gauge for every semaphore of a runtime

A runtime with waiter metrics hands one gauge to every semaphore it makes: the semaphores a
caller asks for, and the gates of the activities and duplex pipes it makes. Each of them adds
its own adjustments to that one counter, so the counter holds what it started at plus every
semaphore's share (`Semaphore.gaugeShare`).

An activity touches its gate only through the semaphore's own operations: it waits at the
gate, polls or drops that wait, and releases the slot when a transition ends. A duplex pipe
touches its gate only through its activity. So every share stays equal to its queue
(`Semaphore.Gauged`), and the gauge, read between any two steps, is the number of entries
queued across all these semaphores, cancelled entries not yet purged included.

* `Activity.begin_gauged`, `Activity.poll_gauged`, `Activity.drop_gauged`, with one lemma
  per activity function.
* `Runtime.Made`: an object the runtime made, driven by its own session; `Made.gates`.
* `Runtime.Fleet`: a runtime and the objects it has made; `Fleet.move`, `Fleet.run`,
  `Fleet.gauge`, `Fleet.queued`.
* `gauge_counts_queued_waiters`.
-/

namespace Sluice

namespace Activity

variable {W H : Type} (hooks : Hooks W H) (cs : Cancellations) {a : Activity}

theorem leave_gauged (h : a.gate.Gauged) : (leave cs a).gate.Gauged := by
  cases released : a.gate.release cs 1 with
  | error e => simpa [leave, released] using h
  | ok g => simpa [leave, released] using h.release released

theorem finishWith_gauged (h : a.gate.Gauged) (w : W) (r : Except Fault Unit) :
    (finishWith (H := H) cs a w r).1.gate.Gauged :=
  leave_gauged cs h

theorem complete_gauged (h : a.gate.Gauged) (kind : Transition) (w : W)
    (r : Except Fault Unit) : (complete (H := H) cs kind a w r).1.gate.Gauged := by
  cases kind <;> rcases r with e | ⟨⟩ <;> exact leave_gauged cs h

theorem runHook_gauged (h : a.gate.Gauged) (kind : Transition) (w : W) (k : H) :
    (runHook hooks cs kind a w k).1.gate.Gauged := by
  unfold runHook
  generalize hooks.pollHook cs w k = q
  obtain ⟨w', p, k'⟩ := q
  cases p with
  | pending => exact h
  | ready r => exact complete_gauged cs h kind w' r

theorem admitted_gauged (h : a.gate.Gauged) (kind : Transition) (token : Option Token)
    (w : W) : (admitted hooks cs kind token a w).1.gate.Gauged := by
  have phased : ∀ p : Phase, ({ a with phase := p } : Activity).gate.Gauged := fun _ => h
  cases kind <;> unfold admitted <;> dsimp only <;> split_ifs <;>
    first
      | exact finishWith_gauged cs h _ _
      | exact complete_gauged cs h _ _ _
      | exact runHook_gauged hooks cs (phased _) _ _ _

theorem pollGate_gauged (h : a.gate.Gauged) (kind : Transition) (token : Option Token)
    (w : W) (wait : Wait) : (pollGate hooks cs kind token a w wait).1.gate.Gauged := by
  have polled : (wait.poll cs a.gate).2.2.Gauged := wait.poll_gauged h
  unfold pollGate
  generalize wait.poll cs a.gate = q at polled ⊢
  obtain ⟨p, wait', g⟩ := q
  have moved : ({ a with gate := g } : Activity).gate.Gauged := polled
  dsimp only
  cases p with
  | pending => exact moved
  | ready r =>
    rcases r with e | ⟨⟩
    · exact moved
    · exact admitted_gauged hooks cs moved kind token w

theorem enter_gauged (h : a.gate.Gauged) (kind : Transition) (token : Option Token) (w : W) :
    (enter hooks cs kind token a w).1.gate.Gauged :=
  pollGate_gauged hooks cs (@Semaphore.Gauged.acquire cs a.gate h token) kind token w _

theorem begin_gauged (h : a.gate.Gauged) (kind : Transition) (token : Option Token) (w : W) :
    (begin hooks cs kind token a w).1.gate.Gauged := by
  have marked : ({ a with disposed := true } : Activity).gate.Gauged := h
  cases kind <;> simp only [begin] <;> (repeat' split) <;>
    first
      | exact h
      | exact enter_gauged hooks cs h _ _ _
      | exact enter_gauged hooks cs marked _ _ _

theorem poll_gauged (h : a.gate.Gauged) {c : Call H} {w : W} {r : CallStep W H}
    (polled : poll hooks cs c a w = some r) : r.1.gate.Gauged := by
  cases c with
  | admitting kind token wait =>
    cases polled
    exact pollGate_gauged hooks cs h kind token w wait
  | running kind k =>
    cases polled
    exact runHook_gauged hooks cs h kind w k
  | finished => cases polled

theorem drop_gauged (h : a.gate.Gauged) (c : Call H) : (drop cs c a).gate.Gauged := by
  cases c with
  | admitting kind token wait => exact wait.drop_gauged h
  | running kind k => exact leave_gauged cs h
  | finished => exact h

namespace Session

theorem gauged_step {s : Session} (h : s.activity.gate.Gauged) (c : Command) :
    (s.step c).1.activity.gate.Gauged := by
  -- a new call first drops any call of its name, then begins
  have launched : ∀ (id : String) (kind : Transition) (token : Option Token),
      (s.launch id kind token).1.activity.gate.Gauged := by
    intro id kind token
    simp only [launch, record]
    apply begin_gauged
    split
    · exact drop_gauged s.cancellations h _
    · exact h
  cases c with
  | start id token => exact launched id .start token
  | stop id => exact launched id .stop none
  | dispose id => exact launched id .dispose none
  | poll id =>
    simp only [step]
    split
    · exact h
    · split
      · exact h
      · exact poll_gauged scriptHooks s.cancellations h ‹_›
  | drop id =>
    simp only [step]
    split
    · exact h
    · exact drop_gauged s.cancellations h _
  | openGate => exact h
  | closeGate => exact h
  | cancel t => exact h
  | handle => exact h
  | isRunning => exact h

end Session

end Activity

namespace Duplex.Session

theorem gauged_step {s : Session} (h : s.pipe.activity.gate.Gauged) (c : Command) :
    (s.step c).1.pipe.activity.gate.Gauged := by
  have moved : ∀ (kind : Transition) (token : Option Token),
      (DuplexPipe.transition s.cancellations kind token s.pipe).1.activity.gate.Gauged :=
    fun kind token => Activity.begin_gauged duplexHooks s.cancellations h kind token _
  cases c with
  | start token => exact moved .start token
  | stop => exact moved .stop none
  | dispose =>
    simp only [step, act, DuplexPipe.dispose, DuplexPipe.settle]
    split <;> exact moved .dispose none
  | takeReader =>
    simp only [step, act, DuplexPipe.takeReader, DuplexPipe.settle]
    split <;> exact h
  | read =>
    simp only [step, act, DuplexPipe.settle]
    split <;> exact h
  | advanceTo consumed examined =>
    simp only [step, act, DuplexPipe.settle]
    split <;> exact h
  | completeReader =>
    simp only [step, act, DuplexPipe.settle]
    split <;> exact h
  | send data =>
    simp only [step, act, DuplexPipe.send, DuplexPipe.settle]
    split <;> exact h
  | cancel t => exact h
  | dropReader => exact h
  | offers => exact h
  | probe => exact h
  | handle => exact h
  | settle => exact h

end Duplex.Session

namespace Runtime

/-- An object a runtime made, driven by its own session: a semaphore, an activity with its
gate, or a duplex pipe with the gate of its activity. -/
inductive Made where
  | semaphore (s : Semaphore.Session)
  | activity (s : Activity.Session)
  | pipe (s : Duplex.Session)

/-- A command to one object, of the kind its session takes. -/
inductive Made.Command where
  | semaphore (c : Semaphore.Command)
  | activity (c : Activity.Command)
  | pipe (c : Duplex.Command)

namespace Made

/-- Run a command on the object; a command for another kind of object changes nothing. -/
def step : Made → Made.Command → Made
  | .semaphore s, .semaphore c => .semaphore (s.step c).1
  | .activity s, .activity c => .activity (s.step c).1
  | .pipe s, .pipe c => .pipe (s.step c).1
  | m, _ => m

def gate : Made → Semaphore
  | .semaphore s => s.sem
  | .activity s => s.activity.gate
  | .pipe s => s.pipe.activity.gate

def gates : Made → List Semaphore
  | .semaphore s => if s.metered then [s.sem] else []
  | .activity s => if s.metered then [s.activity.gate] else []
  | .pipe s => if s.gated then [s.pipe.activity.gate] else []

theorem mem_gates {m : Made} {g : Semaphore} (mem : g ∈ m.gates) : g = m.gate := by
  cases m <;> simp only [gates] at mem <;> split at mem <;> simp_all [gate]

theorem gauged_step {m : Made} (h : m.gate.Gauged) (c : Made.Command) : (m.step c).gate.Gauged := by
  cases m <;> cases c <;> simp only [step, gate] at h ⊢
  · exact Semaphore.Session.gauged_step h _
  · exact h
  · exact h
  · exact h
  · exact Activity.Session.gauged_step h _
  · exact h
  · exact h
  · exact h
  · exact Duplex.Session.gauged_step h _

end Made

/-- A runtime and the objects it has made, in the order it made them. -/
structure Fleet where
  runtime : Runtime
  made : List Made

/-- What may happen next: the runtime makes a semaphore, an activity or a duplex pipe, or the
object at a position runs a command. -/
inductive Fleet.Order where
  | semaphore (initial limit : Nat)
  | activity (startPlans stopPlans : List Plan)
  | pipe (conn : Connection) (consumer : Option (List Verdict))
  | command (i : Nat) (c : Made.Command)

namespace Fleet

/-- One order. The objects the runtime makes report to its gauge when its metrics are on; a
semaphore with refused counts is not made. -/
def move (f : Fleet) : Order → Fleet
  | .semaphore initial limit =>
      match Semaphore.Session.create initial limit f.runtime.settings.waiterMetrics with
      | .ok s => { f with made := f.made ++ [.semaphore s] }
      | .error _ => f
  | .activity startPlans stopPlans =>
      { f with made := f.made ++
        [.activity (Activity.Session.create startPlans stopPlans f.runtime.settings.waiterMetrics)] }
  | .pipe conn consumer =>
      match Duplex.Session.create f.runtime.settings false conn consumer with
      | .ok s => { f with made := f.made ++ [.pipe s] }
      | .error _ => f
  | .command i c => { f with made := f.made.modify i (·.step c) }

def run (f : Fleet) : List Order → Fleet
  | [] => f
  | o :: os => (f.move o).run os

def gates (f : Fleet) : List Semaphore :=
  f.made.flatMap Made.gates

/-- The gauge: its starting value plus what every reporting semaphore has added. -/
def gauge (f : Fleet) : Option Int :=
  f.runtime.gauge.map fun g => g + (f.gates.map Semaphore.gaugeShare).sum

def queued (f : Fleet) : Nat :=
  (f.gates.map fun g => g.queue.length).sum

/-- Every object's semaphore has its share equal to its queue. -/
def Sound (f : Fleet) : Prop :=
  ∀ m ∈ f.made, m.gate.Gauged

theorem forall_mem_modify {α : Type} {p : α → Prop} {g : α → α} (keeps : ∀ a, p a → p (g a)) :
    ∀ {l : List α} (i : Nat), (∀ a ∈ l, p a) → ∀ a ∈ l.modify i g, p a
  | [], _, _ => by simp
  | x :: xs, 0, all => by
    simp only [List.modify_zero_cons, List.forall_mem_cons] at all ⊢
    exact ⟨keeps x all.1, all.2⟩
  | x :: xs, i + 1, all => by
    simp only [List.modify_succ_cons, List.forall_mem_cons] at all ⊢
    exact ⟨all.1, forall_mem_modify keeps i all.2⟩

theorem Sound.move {f : Fleet} (h : f.Sound) (o : Order) : (f.move o).Sound := by
  have added : ∀ m : Made, m.gate.Gauged → (∀ x ∈ f.made ++ [m], x.gate.Gauged) := by
    intro m fresh x hx
    rcases List.mem_append.mp hx with old | new
    · exact h x old
    · rw [List.mem_singleton.mp new]
      exact fresh
  cases o with
  | semaphore initial limit =>
    simp only [Fleet.move]
    split
    · rename_i s made
      obtain ⟨i, m, -, rfl⟩ := Semaphore.Session.create_ok made
      exact added _ (Semaphore.Gauged.ofCounts i m)
    · exact h
  | activity startPlans stopPlans => exact added _ (Semaphore.Gauged.ofCounts 1 1)
  | pipe conn consumer =>
    simp only [Fleet.move]
    split
    · rename_i s made
      simp only [Duplex.Session.create, bind, Except.bind] at made
      split at made
      · cases made
      · cases made
        exact added _ (Semaphore.Gauged.ofCounts 1 1)
    · exact h
  | command i c => exact forall_mem_modify (fun m hm => Made.gauged_step hm c) i h

theorem Sound.run {f : Fleet} (h : f.Sound) (os : List Order) : (f.run os).Sound := by
  induction os generalizing f with
  | nil => exact h
  | cons o rest ih => exact ih (h.move o)

theorem Sound.shares_eq {f : Fleet} (h : f.Sound) :
    (f.gates.map Semaphore.gaugeShare).sum = f.queued := by
  have each : ∀ g ∈ f.gates, g.gaugeShare = (g.queue.length : Int) := by
    intro g hg
    obtain ⟨m, hm, mem⟩ := List.mem_flatMap.mp hg
    rw [Made.mem_gates mem]
    exact (h m hm).share
  rw [List.map_congr_left each, queued, Nat.cast_list_sum, List.map_map]
  rfl

theorem queued_eq_zero_iff (f : Fleet) : f.queued = 0 ↔ ∀ g ∈ f.gates, g.queue = [] := by
  simp [queued, List.sum_eq_zero_iff]

@[simp] theorem move_runtime (f : Fleet) (o : Order) : (f.move o).runtime = f.runtime := by
  cases o <;> simp only [move] <;> (try split) <;> rfl

@[simp] theorem run_runtime (f : Fleet) (os : List Order) : (f.run os).runtime = f.runtime := by
  induction os generalizing f with
  | nil => rfl
  | cons o rest ih => rw [run, ih, move_runtime]

end Fleet

/-- A runtime holds the settings it was made with, and its gauge exists, at zero, exactly when
their metrics are on. -/
theorem create_ok {settings : Settings} {rt : Runtime} (made : Runtime.create settings = .ok rt) :
    rt.settings = settings ∧ rt.gauge = if settings.waiterMetrics then some 0 else none := by
  unfold Runtime.create at made
  cases checked : settings.check with
  | error f => simp [checked, bind, Except.bind] at made
  | ok u =>
    simp only [checked, bind, Except.bind, pure, Except.pure, Except.ok.injEq] at made
    subst made
    exact ⟨rfl, rfl⟩

end Runtime

/-- For a runtime made with waiter metrics on, whatever semaphores, activities and duplex pipes
it makes and whatever commands they run, in any order: between any two steps the gauge holds
the number of waiter entries queued across all its semaphores, those whose token fired but
that no one purged yet included. So it is never negative, and it is zero exactly when every
queue is empty. -/
theorem gauge_counts_queued_waiters {settings : Settings} {rt : Runtime}
    (made : Runtime.create settings = .ok rt) (metrics : settings.waiterMetrics = true)
    (orders : List Runtime.Fleet.Order) :
    ((Runtime.Fleet.mk rt []).run orders).gauge =
        some (((Runtime.Fleet.mk rt []).run orders).queued : Int) ∧
      (((Runtime.Fleet.mk rt []).run orders).queued = 0 ↔
        ∀ g ∈ ((Runtime.Fleet.mk rt []).run orders).gates, g.queue = []) := by
  have sound : ((Runtime.Fleet.mk rt []).run orders).Sound :=
    Runtime.Fleet.Sound.run (by simp [Runtime.Fleet.Sound]) orders
  have started : rt.gauge = some 0 := by simp [(Runtime.create_ok made).2, metrics]
  refine ⟨?_, Runtime.Fleet.queued_eq_zero_iff _⟩
  simp [Runtime.Fleet.gauge, started, sound.shares_eq]

/-- Two semaphores of a metered runtime with one queued wait each, and an activity whose start
takes its gate's free slot without queueing: the gauge reads two. -/
example :
    ((Runtime.Fleet.mk { settings := { waiterMetrics := true }, gauge := some 0, nextHandle := 1 }
        []).run [.semaphore 0 1, .semaphore 0 1, .activity [] [],
          .command 0 (.semaphore (.wait "a" none)), .command 1 (.semaphore (.wait "b" none)),
          .command 2 (.activity (.start "s" none))]).gauge = some 2 := by
  decide

/-- A metered runtime that makes two semaphores with no free unit and an activity, queues one
wait on each semaphore and starts the activity. -/
theorem gauge_counts_waiters_of_two_semaphores :
    let rt : Runtime := { settings := { waiterMetrics := true }, gauge := some 0, nextHandle := 1 }
    let f := (Runtime.Fleet.mk rt []).run [.semaphore 0 1, .semaphore 0 1, .activity [] [],
      .command 0 (.semaphore (.wait "a" none)), .command 1 (.semaphore (.wait "b" none)),
      .command 2 (.activity (.start "s" none))]
    Runtime.create { waiterMetrics := true } = .ok rt ∧
      ({ waiterMetrics := true } : Settings).waiterMetrics = true ∧
      f.gauge = some (f.queued : Int) ∧ (f.queued = 0 ↔ ∀ g ∈ f.gates, g.queue = []) :=
  ⟨rfl, rfl, @gauge_counts_queued_waiters { waiterMetrics := true } _ rfl rfl _⟩

end Sluice
