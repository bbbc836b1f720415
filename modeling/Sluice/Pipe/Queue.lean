import Sluice.Pipe.Rounds
/-!
# Loops on a run queue

Loops spawned as tasks on a single-threaded scheduler are polled from a run queue, not in
fixed rounds. A task is queued exactly when something woke it and it has not been polled
since: it is new, the wait it is in was notified, the loops' token was cancelled while it
waits, or its receive suspended itself. The scheduler polls the task at the front. The
tasks that this poll woke go to the back: the other loop first, and the polled loop after
it, since a loop that suspends itself is woken only once its poll returns.

A settle runs the queue for a bounded number of polls: the caller yields `settleYields`
times, and each time the scheduler polls at most `pollsPerYield` queued tasks before it
returns to the caller. A queue that runs dry ends the settle early, since nothing is left to
wake a task. Work that needs more polls, such as a long stream pushed one byte at a time
through a pipe that pauses at every byte, is left half done for the next settle.

* `LoopTask`, `LoopTask.other`.
* `settleYields`, `pollsPerYield`, `settlePolls`.
* `Loops.canMove`, `Loops.pollTask`, `Loops.wake`, `Loops.drain`.
-/

namespace Sluice

/-- One of the two loops of a pair. -/
inductive LoopTask where
  | producer
  | consumer
  deriving DecidableEq, Repr, Inhabited

def LoopTask.other : LoopTask → LoopTask
  | .producer => .consumer
  | .consumer => .producer

/-- How many times a settle yields to the scheduler. -/
def settleYields : Nat := 64

/-- How many queued tasks the scheduler polls before it returns to a caller that yielded. -/
def pollsPerYield : Nat := 61

/-- The most task polls that one settle runs. -/
def settlePolls : Nat := settleYields * pollsPerYield

namespace Loops

/-- Whether a poll of the task would move it: the task is new, the wait it is in was
notified, the token is cancelled while it waits, or its receive suspended itself. An ended
task and a missing consumer never move. -/
def canMove (s : Loops) : LoopTask → Bool
  | .producer =>
      match s.producer.stage with
      | .top => true
      | .receiving .fresh => true
      | .receiving .resumed => true
      | .receiving .hanging => s.cancelled
      | .flushing _ => s.cancelled || decide (s.pipe.flushListener = .notified)
      | .ended _ => false
  | .consumer =>
      match s.consumer with
      | none => false
      | some t =>
          match t.stage with
          | .top => true
          | .reading => s.cancelled || decide (s.pipe.readListener = .notified)
          | .ended _ => false

/-- Poll one task once: it moves until it waits again. -/
def pollTask (s : Loops) : LoopTask → Loops
  | .producer =>
      if s.producer.isEnded then s
      else
        let (p, c, t, _) := ProducerTask.poll s.cancelled s.moves s.pipe s.conn s.producer
        { s with pipe := p, conn := c, producer := t }
  | .consumer =>
      match s.consumer with
      | none => s
      | some t =>
          if t.isEnded then s
          else
            let (p, k, t) := ConsumerTask.poll s.cancelled s.moves s.pipe s.sink t
            { s with pipe := p, sink := k, consumer := some t }

/-- Queue, in the given order, each listed task that can move and is not queued yet. -/
def wake (s : Loops) (queue : List LoopTask) (tasks : List LoopTask) : List LoopTask :=
  tasks.foldl (fun q t => if s.canMove t && !q.contains t then q ++ [t] else q) queue

/-- Poll queued tasks from the front, at most `budget` of them, until the queue runs dry.
After each poll the tasks it woke join the back of the queue. -/
def drain : Nat → Loops → List LoopTask → Loops × List LoopTask
  | 0, s, queue => (s, queue)
  | _ + 1, s, [] => (s, [])
  | budget + 1, s, t :: queue =>
      let s := s.pollTask t
      drain budget s (s.wake queue [t.other, t])

end Loops

end Sluice
