import Mathlib
import Sluice.Duplex.Basic
import Sluice.Proofs.Pipe.Ops
/-!
# A cancelled generation ends at its next polls

The loops of a duplex pipe's generation run as tasks on one run queue. A task is queued when
something woke it; the scheduler polls the front task, and the tasks that poll woke join the
back. With the generation's token cancelled, every loop looks at the token before anything
else and ends at its next poll, with the exit `cancelled`.

So the two polls a stop runs after cancelling the token end every loop of the generation,
provided the run queue is in order: it holds live loops only, each at most once
(`LoopTask.Queue`). The queue is kept in order by every run (`DuplexCore.runQueue_queue`),
and waking with the token cancelled queues every live loop, so the two polls reach each of
them (`DuplexCore.runQueue_cancelled`). A loop that had already ended keeps the end it had;
one that had not ends as cancelled (`ProducerTask.joinedEnd`, `ConsumerTask.joinedEnd`).
Ending a loop never touches the request to interrupt the pending read.

* `LoopTask.live`, `LoopTask.Queue`.
* `ProducerTask.poll_cancelled`, `ConsumerTask.poll_cancelled`.
* `Loops.drain_queue`, `Loops.drain_cancelled`.
* `DuplexCore.runQueue_queue`, `DuplexCore.runQueue_cancelled`.
-/

namespace Sluice

section ReadCancel

variable (p : Pipe)

@[simp]
theorem Writer.publish_readCancel (w : Writer) : (Writer.publish p w).1.readCancel = p.readCancel := by
  unfold Writer.publish
  by_cases done : p.readerDone <;> by_cases empty : w.staged = [] <;> simp [done, empty]

@[simp]
theorem Writer.complete_readCancel (w : Writer) (fault : Option Fault) :
    (Writer.complete p w fault).1.readCancel = p.readCancel := by
  unfold Writer.complete
  split_ifs <;> simp

@[simp]
theorem Reader.complete_readCancel (r : Reader) : (Reader.complete p r).1.readCancel = p.readCancel := by
  unfold Reader.complete
  split_ifs <;> simp

end ReadCancel

/-- Whether a poll can still move a loop of a pair: the loop is there and has not ended. -/
def LoopTask.live (producer : ProducerTask) (consumer : Option ConsumerTask) : LoopTask → Bool
  | .producer => !producer.isEnded
  | .consumer =>
      match consumer with
      | none => false
      | some t => !t.isEnded

/-- A run queue in order: live loops only, each at most once. -/
structure LoopTask.Queue (producer : ProducerTask) (consumer : Option ConsumerTask)
    (q : List LoopTask) : Prop where
  nodup : q.Nodup
  live : ∀ t ∈ q, LoopTask.live producer consumer t = true

theorem LoopTask.length_le_two {q : List LoopTask} (h : q.Nodup) : q.length ≤ 2 := by
  have within : q.Subperm [.producer, .consumer] := h.subperm fun t _ => by cases t <;> simp
  simpa using within.length_le

theorem LoopTask.other_ne (t : LoopTask) : t.other ≠ t := by
  cases t <;> decide

theorem LoopTask.eq_other_of_ne {t u : LoopTask} (h : u ≠ t) : u = t.other := by
  cases t <;> cases u <;> simp_all [LoopTask.other]

namespace ProducerTask

/-- How the producer is found once a stop has joined it: with the end it had, or ended by the
cancellation if it was still running. -/
def joinedEnd (t : ProducerTask) : LoopEnd :=
  match t.stage with
  | .ended e => e
  | _ => .exited (.ok .cancelled)

theorem stage_of_isEnded {t : ProducerTask} (h : t.isEnded = true) : t.stage = .ended t.joinedEnd := by
  unfold isEnded at h
  unfold joinedEnd
  split at h <;> simp_all

/-- With its token cancelled a running producer ends at its first move, as cancelled, without
touching the request to interrupt the pending read. -/
theorem step_cancelled {p : Pipe} {c : Connection} {t : ProducerTask} (running : t.isEnded = false) :
    (step true p c t).2.2.1.stage = .ended (.exited (.ok .cancelled)) ∧
      (step true p c t).2.2.2 = .blocked ∧ (step true p c t).1.readCancel = p.readCancel := by
  obtain ⟨stage, writer⟩ := t
  cases stage <;> simp_all [step, finish, settleExit, isEnded, Pipe.dropFlush]

theorem poll_cancelled (fuel : Nat) {p : Pipe} {c : Connection} {t : ProducerTask}
    (running : t.isEnded = false) :
    (poll true (fuel + 1) p c t).2.2.1.stage = .ended (.exited (.ok .cancelled)) ∧
      (poll true (fuel + 1) p c t).1.readCancel = p.readCancel := by
  obtain ⟨ended, blocked, kept⟩ := step_cancelled running (p := p) (c := c)
  rcases moved : step true p c t with ⟨p', c', t', s⟩
  rw [moved] at ended blocked kept
  simp only at ended blocked kept
  simp [poll, moved, blocked, ended, kept]

end ProducerTask

namespace ConsumerTask

/-- How the consumer is found once a stop has joined it: with the end it had, or ended by the
cancellation if it was still running. -/
def joinedEnd (t : ConsumerTask) : LoopEnd :=
  match t.stage with
  | .ended e => e
  | _ => .exited (.ok .cancelled)

theorem stage_of_isEnded {t : ConsumerTask} (h : t.isEnded = true) : t.stage = .ended t.joinedEnd := by
  unfold isEnded at h
  unfold joinedEnd
  split at h <;> simp_all

/-- With its token cancelled a running consumer ends at its first move, as cancelled, without
touching the request to interrupt the pending read. -/
theorem step_cancelled {p : Pipe} {k : Consumer} {t : ConsumerTask} (running : t.isEnded = false) :
    (step true p k t).2.2.1.stage = .ended (.exited (.ok .cancelled)) ∧
      (step true p k t).2.2.2 = .blocked ∧ (step true p k t).1.readCancel = p.readCancel := by
  obtain ⟨stage, reader⟩ := t
  cases stage <;> simp_all [step, finish, settleExit, isEnded, Pipe.dropRead]

theorem poll_cancelled (fuel : Nat) {p : Pipe} {k : Consumer} {t : ConsumerTask}
    (running : t.isEnded = false) :
    (poll true (fuel + 1) p k t).2.2.stage = .ended (.exited (.ok .cancelled)) ∧
      (poll true (fuel + 1) p k t).1.readCancel = p.readCancel := by
  obtain ⟨ended, blocked, kept⟩ := step_cancelled running (p := p) (k := k)
  rcases moved : step true p k t with ⟨p', k', t', s⟩
  rw [moved] at ended blocked kept
  simp only at ended blocked kept
  simp [poll, moved, blocked, ended, kept]

theorem joinedEnd_of_running {t : ConsumerTask} (h : t.isEnded = false) :
    t.joinedEnd = .exited (.ok .cancelled) := by
  unfold isEnded at h
  unfold joinedEnd
  split at h <;> simp_all

end ConsumerTask

theorem ProducerTask.joinedEnd_of_running {t : ProducerTask} (h : t.isEnded = false) :
    t.joinedEnd = .exited (.ok .cancelled) := by
  unfold isEnded at h
  unfold joinedEnd
  split at h <;> simp_all

namespace Loops

variable {s : Loops}

theorem live_of_canMove {t : LoopTask} (h : s.canMove t = true) :
    LoopTask.live s.producer s.consumer t = true := by
  cases t with
  | producer =>
    simp only [canMove] at h
    simp only [LoopTask.live, ProducerTask.isEnded]
    split at h <;> simp_all
  | consumer =>
    cases found : s.consumer with
    | none => simp [canMove, found] at h
    | some t =>
      simp only [canMove, found] at h
      simp only [LoopTask.live, ConsumerTask.isEnded]
      split at h <;> simp_all

/-- With the token cancelled, every live task can move: each one waits on something the
cancellation wakes. -/
theorem canMove_of_cancelled (c : s.cancelled = true) (t : LoopTask) :
    s.canMove t = LoopTask.live s.producer s.consumer t := by
  cases t with
  | producer =>
    simp only [canMove, LoopTask.live, ProducerTask.isEnded]
    split <;> simp_all
  | consumer =>
    cases found : s.consumer with
    | none => simp [canMove, LoopTask.live, found]
    | some t =>
      simp only [canMove, LoopTask.live, found, ConsumerTask.isEnded]
      split <;> simp_all

@[simp]
theorem pollTask_cancelled (t : LoopTask) : (s.pollTask t).cancelled = s.cancelled := by
  cases t <;> simp only [pollTask] <;> repeat' split
  all_goals rfl

@[simp]
theorem pollTask_moves (t : LoopTask) : (s.pollTask t).moves = s.moves := by
  cases t <;> simp only [pollTask] <;> repeat' split
  all_goals rfl

theorem pollTask_consumer_isSome (t : LoopTask) :
    (s.pollTask t).consumer.isSome = s.consumer.isSome := by
  cases t <;> simp only [pollTask] <;> repeat' split
  all_goals simp_all

theorem live_pollTask_other (t : LoopTask) :
    LoopTask.live (s.pollTask t).producer (s.pollTask t).consumer t.other =
      LoopTask.live s.producer s.consumer t.other := by
  cases t <;> simp only [pollTask, LoopTask.other] <;> repeat' split
  all_goals simp_all [LoopTask.live]

theorem wake_cons (q : List LoopTask) (t : LoopTask) (ts : List LoopTask) :
    s.wake q (t :: ts) = s.wake (if s.canMove t && !q.contains t then q ++ [t] else q) ts :=
  rfl

theorem mem_wake_of_mem {q : List LoopTask} {t : LoopTask} (ts : List LoopTask) (h : t ∈ q) :
    t ∈ s.wake q ts := by
  induction ts generalizing q with
  | nil => exact h
  | cons u rest ih =>
    rw [wake_cons]
    apply ih
    split
    · exact List.mem_append_left _ h
    · exact h

theorem mem_wake (c : s.cancelled = true) {q ts : List LoopTask} {t : LoopTask} (ht : t ∈ ts)
    (live : LoopTask.live s.producer s.consumer t = true) : t ∈ s.wake q ts := by
  induction ts generalizing q with
  | nil => simp at ht
  | cons u rest ih =>
    rw [wake_cons]
    rcases List.mem_cons.mp ht with rfl | later
    · apply mem_wake_of_mem
      by_cases queued : t ∈ q
      · split
        · exact List.mem_append_left _ queued
        · exact queued
      · rw [if_pos (by simp [canMove_of_cancelled c, live, queued])]
        simp
    · exact ih later

theorem wake_eq_self {q ts : List LoopTask} (h : ∀ t ∈ ts, s.canMove t = true → t ∈ q) :
    s.wake q ts = q := by
  induction ts generalizing q with
  | nil => rfl
  | cons u rest ih =>
    have kept : (if s.canMove u && !q.contains u then q ++ [u] else q) = q := by
      by_cases moves : s.canMove u = true
      · simp [moves, h u (List.mem_cons_self ..) moves]
      · simp [moves]
    rw [wake_cons, kept]
    exact ih fun t ht => h t (List.mem_cons_of_mem u ht)

theorem drain_consumer_isSome {b : Nat} {q : List LoopTask} :
    (s.drain b q).1.consumer.isSome = s.consumer.isSome := by
  induction b generalizing s q with
  | zero => rfl
  | succ b ih =>
    cases q with
    | nil => rfl
    | cons t rest => exact ih.trans (pollTask_consumer_isSome t)

end Loops

namespace LoopTask.Queue

variable {s : Loops}

theorem wake {q : List LoopTask} (h : LoopTask.Queue s.producer s.consumer q)
    (ts : List LoopTask) : LoopTask.Queue s.producer s.consumer (s.wake q ts) := by
  induction ts generalizing q with
  | nil => exact h
  | cons t rest ih =>
    rw [Loops.wake_cons]
    apply ih
    by_cases added : s.canMove t = true ∧ t ∉ q
    · rw [if_pos (by simp [added.1, added.2])]
      refine ⟨?_, fun u hu => ?_⟩
      · rw [List.nodup_append]
        refine ⟨h.nodup, List.nodup_singleton t, fun a ha b hb same => ?_⟩
        rw [List.mem_singleton] at hb
        rw [same, hb] at ha
        exact added.2 ha
      · rcases List.mem_append.mp hu with old | new
        · exact h.live u old
        · rw [List.mem_singleton.mp new]
          exact Loops.live_of_canMove added.1
    · rw [if_neg (by simpa [not_and_or] using added)]
      exact h

theorem pollTask {t : LoopTask} {rest : List LoopTask}
    (h : LoopTask.Queue s.producer s.consumer (t :: rest)) :
    LoopTask.Queue (s.pollTask t).producer (s.pollTask t).consumer rest := by
  obtain ⟨notMem, nodup⟩ := List.nodup_cons.mp h.nodup
  refine ⟨nodup, fun u hu => ?_⟩
  -- the front task was polled; any other queued task is the other loop, which did not move
  have other : u = t.other := LoopTask.eq_other_of_ne (by rintro rfl; exact notMem hu)
  subst other
  rw [Loops.live_pollTask_other]
  exact h.live _ (List.mem_cons_of_mem t hu)

theorem drain {b : Nat} {q : List LoopTask} (h : LoopTask.Queue s.producer s.consumer q) :
    LoopTask.Queue (s.drain b q).1.producer (s.drain b q).1.consumer (s.drain b q).2 := by
  induction b generalizing s q with
  | zero => exact h
  | succ b ih =>
    cases q with
    | nil => exact h
    | cons t rest => exact ih (h.pollTask.wake _)

end LoopTask.Queue

namespace Loops

variable {s : Loops}

/-- With the token cancelled, a poll ends the task it polls; one that had already ended stays
as it was. Either way the ends a stop will find do not change, and neither does the request
to interrupt the pending read. -/
theorem pollTask_cancelled_ends (c : s.cancelled = true) (m : 1 ≤ s.moves) (t : LoopTask) :
    LoopTask.live (s.pollTask t).producer (s.pollTask t).consumer t = false ∧
      (s.pollTask t).producer.joinedEnd = s.producer.joinedEnd ∧
      (s.pollTask t).consumer.map ConsumerTask.joinedEnd =
        s.consumer.map ConsumerTask.joinedEnd ∧
      (s.pollTask t).pipe.readCancel = s.pipe.readCancel := by
  obtain ⟨fuel, hm⟩ : ∃ fuel, s.moves = fuel + 1 := ⟨s.moves - 1, by omega⟩
  cases t with
  | producer =>
    cases running : s.producer.isEnded
    · obtain ⟨stage, kept⟩ :=
        ProducerTask.poll_cancelled fuel (p := s.pipe) (c := s.conn) running
      rcases polled : ProducerTask.poll true (fuel + 1) s.pipe s.conn s.producer with
        ⟨p', c', t', y⟩
      rw [polled] at stage kept
      simp only at stage kept
      simp only [pollTask, running, c, hm, polled, Bool.false_eq_true, if_false]
      refine ⟨by simp [LoopTask.live, ProducerTask.isEnded, stage], ?_, by simp, kept⟩
      rw [ProducerTask.joinedEnd_of_running running]
      simp [ProducerTask.joinedEnd, stage]
    · simp [pollTask, running, LoopTask.live]
  | consumer =>
    cases found : s.consumer with
    | none => simp [pollTask, found, LoopTask.live]
    | some t =>
      cases running : t.isEnded
      · obtain ⟨stage, kept⟩ :=
          ConsumerTask.poll_cancelled fuel (p := s.pipe) (k := s.sink) running
        rcases polled : ConsumerTask.poll true (fuel + 1) s.pipe s.sink t with ⟨p', k', t'⟩
        rw [polled] at stage kept
        simp only at stage kept
        simp only [pollTask, found, running, c, hm, polled, Bool.false_eq_true, if_false]
        refine ⟨by simp [LoopTask.live, ConsumerTask.isEnded, stage], by simp, ?_, kept⟩
        rw [Option.map_some, Option.map_some, ConsumerTask.joinedEnd_of_running running]
        simp [ConsumerTask.joinedEnd, stage]
      · simp [pollTask, found, running, LoopTask.live]

/-- With the token cancelled and every live task queued once, a run whose budget covers the
queue ends every task: each poll ends the task it takes and wakes nothing new. The ends are
those the tasks had, or `cancelled` for the ones still running. -/
theorem drain_cancelled (c : s.cancelled = true) (m : 1 ≤ s.moves) {q : List LoopTask}
    {b : Nat} (h : LoopTask.Queue s.producer s.consumer q)
    (all : ∀ t, LoopTask.live s.producer s.consumer t = true → t ∈ q) (budget : q.length ≤ b) :
    (∀ t, LoopTask.live (s.drain b q).1.producer (s.drain b q).1.consumer t = false) ∧
      (s.drain b q).1.producer.joinedEnd = s.producer.joinedEnd ∧
      (s.drain b q).1.consumer.map ConsumerTask.joinedEnd =
        s.consumer.map ConsumerTask.joinedEnd ∧
      (s.drain b q).1.pipe.readCancel = s.pipe.readCancel := by
  induction q generalizing s b with
  | nil =>
    have idle : s.drain b [] = (s, []) := by cases b <;> rfl
    refine ⟨fun t => ?_, by rw [idle], by rw [idle], by rw [idle]⟩
    rw [idle]
    cases live : LoopTask.live s.producer s.consumer t
    · rfl
    · simpa using all t live
  | cons t rest ih =>
    obtain ⟨b, rfl⟩ : ∃ b', b = b' + 1 := ⟨b - 1, by simp at budget; omega⟩
    obtain ⟨ended, producerEnd, consumerEnd, kept⟩ := pollTask_cancelled_ends c m t
    obtain ⟨notMem, -⟩ := List.nodup_cons.mp h.nodup
    -- only the other task can still be live, and it is queued already: nothing is woken
    have stillQueued : ∀ u, LoopTask.live (s.pollTask t).producer (s.pollTask t).consumer u =
        true → u ∈ rest := by
      intro u live
      have other : u = t.other := LoopTask.eq_other_of_ne (by rintro rfl; simp_all)
      subst other
      rw [live_pollTask_other] at live
      rcases List.mem_cons.mp (all _ live) with same | queued
      · exact absurd same (LoopTask.other_ne t)
      · exact queued
    have woken : (s.pollTask t).wake rest [t.other, t] = rest :=
      wake_eq_self fun u _ moves => stillQueued u (live_of_canMove moves)
    have next := ih (s := s.pollTask t) (b := b) (by simpa using c) (by simpa using m)
      h.pollTask stillQueued (by simp at budget; omega)
    simp only [drain, woken]
    exact ⟨next.1, next.2.1.trans producerEnd, next.2.2.1.trans consumerEnd,
      next.2.2.2.trans kept⟩

end Loops

namespace DuplexCore

variable {w : DuplexCore}

def loopsOf (w : DuplexCore) (gen : Generation) : Loops :=
  { pipe := w.pipeAt gen.pipe, conn := w.conn, sink := w.sink, producer := gen.producer,
    consumer := gen.consumer, cancelled := w.tokenCancelled, moves := w.moves }

@[simp]
theorem setPipe_pipes_length (i : Nat) (p : Pipe) : (w.setPipe i p).pipes.length = w.pipes.length := by
  simp [setPipe]

theorem pipeAt_setPipe_self {i : Nat} (p : Pipe) (h : i < w.pipes.length) :
    (w.setPipe i p).pipeAt i = p := by
  simp [setPipe, pipeAt, h]

theorem runQueue_of_idle (h : w.running = none) (b : Nat) : w.runQueue b = w := by
  simp [runQueue, h]

/-- A run of the queue leaves the generation with the loops and queue the drain leaves, and
the generation's pipe as the drain leaves it. -/
theorem runQueue_of_running {gen : Generation} (h : w.running = some gen) (b : Nat) :
    let r := (w.loopsOf gen).drain b ((w.loopsOf gen).wake gen.queue [.producer, .consumer])
    (w.runQueue b).running =
        some { gen with producer := r.1.producer, consumer := r.1.consumer, queue := r.2 } ∧
      (w.runQueue b).pipes = w.pipes.set gen.pipe r.1.pipe := by
  simp [runQueue, h, loopsOf, setPipe]

section Frame

variable (b : Nat)

@[simp] theorem runQueue_options : (w.runQueue b).options = w.options := by
  unfold runQueue; split <;> rfl
@[simp] theorem runQueue_home : (w.runQueue b).home = w.home := by
  unfold runQueue; split <;> rfl
@[simp] theorem runQueue_stored : (w.runQueue b).stored = w.stored := by
  unfold runQueue; split <;> rfl
@[simp] theorem runQueue_producerExit : (w.runQueue b).producerExit = w.producerExit := by
  unfold runQueue; split <;> rfl
@[simp] theorem runQueue_consumerExit : (w.runQueue b).consumerExit = w.consumerExit := by
  unfold runQueue; split <;> rfl
@[simp] theorem runQueue_tokenCancelled : (w.runQueue b).tokenCancelled = w.tokenCancelled := by
  unfold runQueue; split <;> rfl
@[simp] theorem runQueue_released : (w.runQueue b).released = w.released := by
  unfold runQueue; split <;> rfl
@[simp] theorem runQueue_moves : (w.runQueue b).moves = w.moves := by
  unfold runQueue; split <;> rfl
@[simp] theorem runQueue_pipes_length : (w.runQueue b).pipes.length = w.pipes.length := by
  unfold runQueue; split <;> simp

end Frame

theorem runQueue_queue {gen : Generation} (h : w.running = some gen)
    (q : LoopTask.Queue gen.producer gen.consumer gen.queue) (b : Nat) :
    ∃ gen', (w.runQueue b).running = some gen' ∧ gen'.pipe = gen.pipe ∧
      LoopTask.Queue gen'.producer gen'.consumer gen'.queue :=
  ⟨_, (runQueue_of_running h b).1, rfl, (q.wake (s := w.loopsOf gen) _).drain⟩

/-- With the generation's token cancelled, the two polls a stop runs end both loops: each
keeps the end it had, or ends as cancelled. The request to interrupt the pending read
stays. -/
theorem runQueue_cancelled {gen : Generation} (h : w.running = some gen)
    (cancelled : w.tokenCancelled = true) (m : 1 ≤ w.moves)
    (q : LoopTask.Queue gen.producer gen.consumer gen.queue) (inRange : gen.pipe < w.pipes.length) :
    ∃ gen', (w.runQueue 2).running = some gen' ∧ gen'.pipe = gen.pipe ∧
      gen'.producerTask = gen.producerTask ∧ gen'.consumerTask = gen.consumerTask ∧
      gen'.producer.stage = .ended gen.producer.joinedEnd ∧
      gen'.consumer.map ConsumerTask.stage = gen.consumer.map (fun t => .ended t.joinedEnd) ∧
      ((w.runQueue 2).pipeAt gen.pipe).readCancel = (w.pipeAt gen.pipe).readCancel := by
  obtain ⟨run, pipes⟩ := runQueue_of_running h 2
  set s := w.loopsOf gen with hs
  set queue := s.wake gen.queue [.producer, .consumer] with hqueue
  -- waking with the token cancelled queues every live loop, each once
  have ordered : LoopTask.Queue s.producer s.consumer queue := q.wake _
  have all : ∀ t, LoopTask.live s.producer s.consumer t = true → t ∈ queue :=
    fun t live => Loops.mem_wake cancelled (by cases t <;> simp) live
  obtain ⟨ended, producerEnd, consumerEnd, kept⟩ := Loops.drain_cancelled cancelled m ordered all
    (LoopTask.length_le_two ordered.nodup)
  refine ⟨_, run, rfl, rfl, rfl, ?_, ?_, ?_⟩
  · have done := ended .producer
    simp only [LoopTask.live, Bool.not_eq_false'] at done
    rw [ProducerTask.stage_of_isEnded done, producerEnd]
    rfl
  · have present := Loops.drain_consumer_isSome (s := s) (b := 2) (q := queue)
    have done := ended .consumer
    cases found : (s.drain 2 queue).1.consumer with
    | none =>
      rw [found] at present
      change none = gen.consumer.map _
      cases hg : gen.consumer <;> simp_all [s, loopsOf]
    | some t' =>
      rw [found] at present consumerEnd done
      simp only [LoopTask.live, Bool.not_eq_false'] at done
      cases hg : gen.consumer with
      | none => simp_all [s, loopsOf]
      | some t =>
        have same : t'.joinedEnd = t.joinedEnd := by simpa [s, loopsOf, hg] using consumerEnd
        simp [ConsumerTask.stage_of_isEnded done, same]
  · rw [show (w.runQueue 2).pipeAt gen.pipe = (s.drain 2 queue).1.pipe by
      simp [pipeAt, pipes, inRange]]
    exact kept

end DuplexCore

end Sluice