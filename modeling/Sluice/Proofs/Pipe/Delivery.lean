import Sluice.Pipe.Rounds
import Sluice.Proofs.Pipe.Consumer
/-!
# The loops deliver the connection's stream

The producer loop and the consumer loop of one pipe run as two tasks, so their moves
interleave in any order. A `Duet` holds both loops, their pipe, connection and consumer,
with tokens that are never cancelled and no interrupted read or flush; `Duet.run` makes the
moves of a schedule, one loop at a time.

Over every schedule, `Duet.Flow` holds: the producer's and the consumer's invariants, and the
connection's stream as the bytes received so far followed by what the connection still holds.
From it, at every point of every schedule:

* every buffer offered is the bytes received so far less the prefix the consumer consumed;
* once the producer exits (at the end of the stream, or with `cancelled` when a receive failed
  with a cancellation), the consumer's next move makes its last offer, with every unconsumed
  byte and the writer completed, and ends the loop as the consumer's answer says: with
  `sourceCompleted` for a position within the buffer, the reader's refusal for any other
  position, the consumer's own fault (a cancellation being the exit `cancelled`), or a panic;
* a producer fault is the connection's, and the consumer's next move ends with it and offers
  nothing;
* once the consumer loop ends, the producer's next flush finds the reader gone.

A consumer that answers the last offer with a fault ends with that fault, even after the
producer's end of stream; and a receive that fails with a cancellation is an exit, not a
fault, for both loops (`consumer_fault_and_cancelled_receive_exits`).
-/

namespace Sluice

theorem eq_drop_of_append_eq_drop {α : Type} {b R rest : List α} {n : Nat}
    (h : b ++ rest = (R ++ rest).drop n) : b = R.drop n := by
  rw [List.drop_append] at h
  by_cases within : n ≤ R.length
  · rw [Nat.sub_eq_zero_of_le within, List.drop_zero] at h
    exact List.append_cancel_right h
  · have gone : R.drop n = [] := List.drop_eq_nil_of_le (by omega)
    rw [gone, List.nil_append] at h
    have lengths := congrArg List.length h
    simp only [List.length_append, List.length_drop] at lengths
    rw [gone]
    exact List.eq_nil_of_length_eq_zero (by omega)

/-! ## Schedules of the two loops -/

inductive Side where
  | producer
  | consumer
  deriving DecidableEq, Repr

/-- A producer loop and a consumer loop over one pipe, each on a token that is never
cancelled. -/
structure Duet where
  pipe : Pipe
  conn : Connection
  sink : Consumer
  producer : ProducerTask := {}
  consumer : ConsumerTask := {}

namespace Duet

def start (o : PipeOptions) (conn : Connection) (verdicts : List Verdict) : Duet :=
  { pipe := Pipe.create o, conn, sink := { verdicts } }

def move (d : Duet) : Side → Duet
  | .producer =>
      let (p, c, t, _) := ProducerTask.step false d.pipe d.conn d.producer
      { d with pipe := p, conn := c, producer := t }
  | .consumer =>
      let (p, k, t, _) := ConsumerTask.step false d.pipe d.sink d.consumer
      { d with pipe := p, sink := k, consumer := t }

def run (d : Duet) : List Side → Duet
  | [] => d
  | side :: rest => (d.move side).run rest

/-- The bytes the producer has taken so far from the connection's stream `S`. -/
def received (S : Bytes) (d : Duet) : Bytes :=
  S.take (S.length - d.conn.rest.length)

/-- What holds at every point of every schedule, for a connection whose stream is `S` and a
consumer that started with verdicts `V`. -/
structure Flow (S : Bytes) (V : List Verdict) (d : Duet) : Prop where
  source : d.conn.rest <:+ S
  producer : ProducerTask.Fit d.pipe d.conn d.producer
  consumer : ConsumerTask.Fit S V d.pipe d.sink d.conn.rest d.consumer

variable {S : Bytes} {V : List Verdict} {d : Duet}

theorem flow_start (o : PipeOptions) (conn : Connection) (verdicts : List Verdict) :
    Flow conn.rest verdicts (start o conn verdicts) where
  source := List.suffix_refl _
  producer :=
    { staged := rfl
      flushCancel := rfl
      running := fun _ => ⟨rfl, rfl, rfl⟩
      holds := fun _ h => by cases h
      flushWaits := fun _ h => by cases h
      exited := fun _ h => by cases h
      faulted := fun _ h => by cases h }
  consumer :=
    { verdicts := rfl
      readCancel := rfl
      running := fun _ => ⟨rfl, rfl, by simp [start, Pipe.create, Consumer.taken]⟩
      closed := fun h => by cases h
      readWaits := fun h => by cases h }

theorem Flow.move (h : Flow S V d) (side : Side) : Flow S V (d.move side) := by
  cases side with
  | producer =>
    have m := ProducerTask.step_moved h.producer
    exact ⟨m.suffix.trans h.source, m.fit,
      h.consumer.writer m.pipe fun open_ => (m.stream open_).trans (by rw [List.append_nil])⟩
  | consumer =>
    have m := ConsumerTask.step_moved h.consumer
    exact ⟨h.source, h.producer.reader m.pipe, m.fit⟩

theorem Flow.run (h : Flow S V d) (sides : List Side) : Flow S V (d.run sides) := by
  induction sides generalizing d with
  | nil => exact h
  | cons side rest ih => exact ih (h.move side)

theorem Flow.received_append (h : Flow S V d) : d.received S ++ d.conn.rest = S :=
  List.suffix_iff_eq_append.mp h.source

theorem Flow.offer (h : Flow S V d) {b : Offer}
    (offered : (d.move .consumer).sink.offers = d.sink.offers ++ [b]) :
    b.buffer = (d.received S).drop (Consumer.taken V d.sink.offers) ∧
      b.isCompleted = d.pipe.writerDone := by
  obtain ⟨stream, completed⟩ := ConsumerTask.step_offer h.consumer offered
  -- the stream is what was received followed by what the connection still holds
  have whole : b.buffer ++ d.conn.rest = (d.received S ++ d.conn.rest).drop
      (Consumer.taken V d.sink.offers) := by
    rw [stream, h.received_append]
  exact ⟨eq_drop_of_append_eq_drop whole, completed⟩

theorem Flow.woken (h : Flow S V d) (done : d.pipe.writerDone = true)
    (reading : d.consumer.stage = .reading) : d.pipe.readListener = .notified := by
  rcases h.consumer.readWaits reading with notified | ⟨-, open_⟩
  · exact notified
  · rw [done] at open_
    cases open_

/-- After the producer's exit, the consumer's next move makes the last offer and ends the
loop as the consumer's answer to it says. -/
theorem Flow.lastOffer (h : Flow S V d) {x : LoopExit}
    (exited : d.producer.stage = .ended (.exited (.ok x)))
    (live : d.consumer.isEnded = false) :
    ∃ b, (d.move .consumer).sink.offers = d.sink.offers ++ [b] ∧ b.isCompleted = true ∧
      b.buffer = (d.received S).drop (Consumer.taken V d.sink.offers) ∧
      (d.move .consumer).consumer.stage =
        .ended (((d.sink.verdicts.headD .all).answer b.buffer.length).ending b.buffer.length) := by
  obtain ⟨done, clean⟩ := h.producer.exited _ exited
  have o := h.consumer.open_ live
  have reads := ConsumerTask.step_reads h.consumer live (h.woken done)
  rcases Reader.readCheck_spec d.pipe d.consumer.reader with
    ⟨e, fault, -⟩ | ⟨-, moved, -, -, -, -, -, -, -, ended | parked⟩
  · rw [clean] at fault
    cases fault
  · -- the writer completed, so the read ends and offers everything it holds
    obtain ⟨-, -, offered⟩ := ended
    rw [offered] at reads
    obtain ⟨told, ending⟩ := ConsumerTask.afterRead_completed
      (p := (Reader.readCheck d.pipe d.consumer.reader).1) (k := d.sink)
      (t := { d.consumer with reader := (Reader.readCheck d.pipe d.consumer.reader).2.1 })
      (by rw [moved]; exact o.live)
      ⟨d.consumer.reader.buffered ++ d.pipe.published, d.pipe.writerDone, d.pipe.readCancel⟩
      o.readCancel done (by rw [moved])
    have offers : (d.move .consumer).sink.offers = d.sink.offers ++
        [⟨d.consumer.reader.buffered ++ d.pipe.published, d.pipe.writerDone⟩] := by
      show (ConsumerTask.step false d.pipe d.sink d.consumer).2.1.offers = _
      rw [reads, told, Consumer.consume_eq]
    obtain ⟨buffer, -⟩ := h.offer offers
    refine ⟨_, offers, done, buffer, ?_⟩
    show (ConsumerTask.step false d.pipe d.sink d.consumer).2.2.1.stage = _
    rw [reads]
    exact ending
  · obtain ⟨quiet, -, -⟩ := parked
    simp [done] at quiet

/-- A producer fault is the connection's; the consumer's next move ends with it and offers
nothing. -/
theorem Flow.fault (h : Flow S V d) {e : Fault}
    (faulted : d.producer.stage = .ended (.exited (.error e))) :
    d.conn.chunks = [] ∧ d.conn.ending = .fail e ∧
      (d.consumer.isEnded = false →
        (d.move .consumer).sink = d.sink ∧
          (d.move .consumer).consumer.stage = .ended (.exited (.error e))) := by
  obtain ⟨clean, chunks, ending⟩ := h.producer.faulted e faulted
  refine ⟨chunks, ending, fun live => ?_⟩
  obtain ⟨done, carried⟩ := h.producer.exited _ faulted
  have o := h.consumer.open_ live
  have reads := ConsumerTask.step_reads h.consumer live (h.woken done)
  -- the read test finds the writer's fault before any byte
  rcases Reader.readCheck_spec d.pipe d.consumer.reader with
    ⟨e', fault, same, -, failed⟩ | ⟨none, -⟩
  · rw [carried] at fault
    cases fault
    rw [failed] at reads
    obtain ⟨kept, stage⟩ := ConsumerTask.afterRead_fault
      (p := (Reader.readCheck d.pipe d.consumer.reader).1) (k := d.sink)
      (t := { d.consumer with reader := (Reader.readCheck d.pipe d.consumer.reader).2.1 })
      (by rw [same]; exact o.live) clean
    refine ⟨?_, ?_⟩
    · show (ConsumerTask.step false d.pipe d.sink d.consumer).2.1 = _
      rw [reads, kept]
    · show (ConsumerTask.step false d.pipe d.sink d.consumer).2.2.1.stage = _
      rw [reads, stage]
  · rw [carried] at none
    cases none

theorem Flow.readerGone (h : Flow S V d) (gone : d.consumer.isEnded = true) :
    (∀ fw, d.producer.stage = .flushing fw →
        (d.move .producer).producer.stage = .ended (.exited (.ok .readerCompleted))) ∧
      ((d.move .producer).conn.rest.length < d.conn.rest.length →
        (d.move .producer).producer.stage = .ended (.exited (.ok .readerCompleted))) :=
  ⟨fun _ flushing => ProducerTask.step_flushing_of_done h.producer (h.consumer.closed gone) flushing,
    ProducerTask.step_pulls_of_done h.producer (h.consumer.closed gone)⟩

end Duet

/-! ## Delivery -/

open Duet in
/-- The producer and consumer loops deliver the connection's stream, at every point of every
schedule of their moves from the start:

* an offer is the bytes received so far less the prefix the consumer consumed, and tells
  whether the writer completed;
* after the producer's exit, a running consumer loop's next move offers every unconsumed byte
  with the writer completed and ends the loop as the consumer's answer to that offer says
  (`Consumed.ending`): with `sourceCompleted` for a position within the offer, the reader's
  `invalidAdvance` fault for any other position, the consumer's fault (the exit `cancelled`
  for a cancellation), or a panic;
* the producer faults only with the connection's fault, after its last chunk, and a running
  consumer loop's next move ends with that fault and offers nothing;
* once the consumer loop ended, a waiting flush and a move that receives bytes end the
  producer with `readerCompleted`. -/
theorem loops_deliver_the_connection_stream (o : PipeOptions) (conn : Connection)
    (verdicts : List Verdict) (sides : List Side) :
    let d := (start o conn verdicts).run sides
    let taken := Consumer.taken verdicts d.sink.offers
    (∀ b, (d.move .consumer).sink.offers = d.sink.offers ++ [b] →
        b.buffer = (d.received conn.rest).drop taken ∧ b.isCompleted = d.pipe.writerDone) ∧
      (∀ x, d.producer.stage = .ended (.exited (.ok x)) → d.consumer.isEnded = false →
        ∃ b, (d.move .consumer).sink.offers = d.sink.offers ++ [b] ∧ b.isCompleted = true ∧
          b.buffer = (d.received conn.rest).drop taken ∧
          (d.move .consumer).consumer.stage =
            .ended (((d.sink.verdicts.headD .all).answer b.buffer.length).ending
              b.buffer.length)) ∧
      (∀ e, d.producer.stage = .ended (.exited (.error e)) →
        d.conn.chunks = [] ∧ d.conn.ending = .fail e ∧
          (d.consumer.isEnded = false →
            (d.move .consumer).sink = d.sink ∧
              (d.move .consumer).consumer.stage = .ended (.exited (.error e)))) ∧
      (d.consumer.isEnded = true →
        (∀ fw, d.producer.stage = .flushing fw →
            (d.move .producer).producer.stage = .ended (.exited (.ok .readerCompleted))) ∧
          ((d.move .producer).conn.rest.length < d.conn.rest.length →
            (d.move .producer).producer.stage = .ended (.exited (.ok .readerCompleted)))) := by
  intro d taken
  have flow := (flow_start o conn verdicts).run sides
  exact ⟨fun _ offered => flow.offer offered, fun _ exited => flow.lastOffer exited,
    fun _ faulted => flow.fault faulted, flow.readerGone⟩

/-- Two runs that end otherwise than the producer's exit suggests. A consumer that fails on
the last offer ends the loop with its fault, though the producer ended at the end of the
stream and that offer held every byte with the writer completed. A receive that fails with a
cancellation ends the producer with the exit `cancelled`, not with the fault, so the consumer
takes the writer as completed without a fault. -/
theorem consumer_fault_and_cancelled_receive_exits :
    let failing := (LoopRun.create {} { chunks := [.data [0]] } [.fail (.invalidState "bad")]
      .consumer [] false).run
    let cancelling := (LoopRun.create {} { chunks := [.data [0]], ending := .fail .cancelled } []
      .consumer [] false).run
    (failing.loops.producer.stage = .ended (.exited (.ok .endOfStream)) ∧
        failing.loops.sink.offers = [⟨[0], true⟩] ∧
        failing.loops.consumer.map ConsumerTask.stage =
          some (.ended (.exited (.error (.invalidState "bad"))))) ∧
      (cancelling.loops.producer.stage = .ended (.exited (.ok .cancelled)) ∧
        cancelling.loops.sink.offers = [⟨[0], true⟩] ∧
        cancelling.loops.consumer.map ConsumerTask.stage =
          some (.ended (.exited (.ok .sourceCompleted)))) :=
  ⟨⟨rfl, rfl, rfl⟩, ⟨rfl, rfl, rfl⟩⟩

end Sluice
