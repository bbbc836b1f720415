import Sluice.Pipe.Loops
import Sluice.Proofs.Pipe.Ops
/-!
# One move of the producer loop

What a single move of the producer loop does, on a token that is not cancelled. The loop
takes bytes from the front of the connection's stream (`Connection.rest`) and publishes them
in the same move, so the bytes in flight, published first and then still at the connection,
stay the same while the reader is open (`ProducerTask.step_moved`).

The loop's invariant `ProducerTask.Fit` says what the pipe shows of the producer: the writer
is open exactly while the loop runs, an exit is on the pipe with its fault, and a fault is the
connection's own. A move changes the pipe only as a writer may (`Pipe.WriterStep`): it never
touches the reader's flags, and it only ever notifies the reader's listener.

With the reader gone, the next flush reports it: a waiting flush and a move that receives
bytes both end the loop with `readerCompleted` (`ProducerTask.step_flushing_of_done`,
`ProducerTask.step_pulls_of_done`).
-/

namespace Sluice

/-! ## The connection's stream -/

def Chunk.payload : Chunk → Bytes
  | .data bs => bs
  | .yield => []

namespace Connection

/-- The bytes the connection still has to hand out, in order. -/
def rest (c : Connection) : Bytes :=
  c.chunks.flatMap Chunk.payload

variable {c c' : Connection} {room : Nat}

/-- A receive that got bytes took them from the front of the stream, and no more than fit. -/
theorem pull_got {bs : Bytes} (h : c.pull room = (c', .got bs)) :
    bs.length ≤ room ∧ c.rest = bs ++ c'.rest := by
  unfold pull at h
  split at h
  · cases h
  · rename_i b more chunks
    split at h
    · cases h
      simp_all [rest, Chunk.payload]
    · cases h
      simp [rest, chunks, Chunk.payload, ← List.append_assoc, List.take_append_drop]
  · split at h <;> cases h
    simp

theorem pull_yielded (h : c.pull room = (c', .yielded)) : c'.rest = c.rest := by
  unfold pull at h
  split at h
  · cases h
    simp_all [rest, Chunk.payload]
  · split at h <;> cases h
  · split at h <;> cases h

theorem pull_hangs (h : c.pull room = (c', .hangs)) : c' = c := by
  unfold pull at h
  split at h
  · cases h
  · split at h <;> cases h
  · split at h <;> cases h
    rfl

/-- A receive fails only once the chunks are used up, with the connection's ending. -/
theorem pull_failed {f : Fault} (h : c.pull room = (c', .failed f)) :
    c' = c ∧ c.chunks = [] ∧ c.ending = .fail f := by
  unfold pull at h
  split at h
  · cases h
  · split at h <;> cases h
  · rename_i chunks
    split at h <;> cases h
    rename_i ending
    exact ⟨rfl, chunks, ending⟩

theorem pull_panicked (h : c.pull room = (c', .panicked)) : c' = c := by
  unfold pull at h
  split at h
  · cases h
  · split at h <;> cases h
  · split at h <;> cases h
    rfl

end Connection

/-! ## Exits, and the pipe as the writer changes it -/

def exitFault : Except Fault LoopExit → Option Fault
  | .ok _ => none
  | .error e => some e

theorem settleExit_error {r : Except Fault LoopExit} {e : Fault} (h : settleExit r = .error e) :
    r = .error e ∧ e.isCancelled = false := by
  cases r with
  | error f => by_cases cancelled : f.isCancelled <;> simp_all [settleExit]
  | ok x => simp [settleExit] at h

namespace Pipe

@[simp] theorem notifyRead_flushCancel (p : Pipe) : p.notifyRead.flushCancel = p.flushCancel := by
  unfold notifyRead; split <;> rfl

/-- A parked read will see the writer complete: the reader's listener is notified, or parked
while the writer is open. -/
def ReadWaits (p : Pipe) : Prop :=
  p.readListener = .notified ∨ (p.readListener = .parked ∧ p.writerDone = false)

/-- A parked flush will see the reader complete: the writer's listener is notified, or parked
while the reader is open. -/
def FlushWaits (p : Pipe) : Prop :=
  p.flushListener = .notified ∨ (p.flushListener = .parked ∧ p.readerDone = false)

/-- What the writer's side may do to the pipe: leave the reader's flags alone, raise no flush
interruption, and keep a parked read able to see the writer complete. -/
structure WriterStep (p p' : Pipe) : Prop where
  readerDone : p'.readerDone = p.readerDone
  readCancel : p'.readCancel = p.readCancel
  flushCancel : p.flushCancel = false → p'.flushCancel = false
  waits : p.ReadWaits → p'.ReadWaits

namespace WriterStep

theorem refl (p : Pipe) : WriterStep p p := ⟨rfl, rfl, id, id⟩

theorem trans {p q r : Pipe} (first : WriterStep p q) (second : WriterStep q r) :
    WriterStep p r where
  readerDone := second.readerDone.trans first.readerDone
  readCancel := second.readCancel.trans first.readCancel
  flushCancel := second.flushCancel ∘ first.flushCancel
  waits := second.waits ∘ first.waits

theorem notifyRead (p : Pipe) : WriterStep p p.notifyRead where
  readerDone := by simp
  readCancel := by simp
  flushCancel := by unfold Pipe.notifyRead; split <;> exact id
  waits := by
    intro waits
    unfold ReadWaits Pipe.notifyRead at *
    split <;> simp_all

theorem complete (p : Pipe) (fault : Option Fault) :
    WriterStep p (Pipe.notifyRead { p with writerDone := true, writerFault := fault }) where
  readerDone := by simp
  readCancel := by simp
  flushCancel := by unfold Pipe.notifyRead; split <;> exact id
  waits := by
    intro waits
    unfold ReadWaits Pipe.notifyRead at *
    split <;> simp_all

theorem publish (p : Pipe) (w : Writer) : WriterStep p (Writer.publish p w).1 := by
  unfold Writer.publish
  dsimp only
  split_ifs
  · exact refl p
  · exact refl p
  · refine trans ?_ (notifyRead _)
    exact ⟨rfl, rfl, id, id⟩

theorem flushCheck (p : Pipe) (paused : Bool) : WriterStep p (Writer.flushCheck p paused).1 := by
  obtain ⟨-, -, wd, -, rd, rl, rc⟩ := Writer.flushCheck_fields p paused
  refine ⟨rd, rc, ?_, ?_⟩
  · intro _
    unfold Writer.flushCheck
    dsimp only
    split_ifs <;> simp_all
  · unfold ReadWaits
    rw [rl, wd]
    exact id

end WriterStep

end Pipe

namespace Writer

variable (p : Pipe) (w : Writer)

theorem publish_of_empty (empty : w.staged = []) :
    publish p w = (p, { w with reserved := none }, p.readerDone) := by
  rcases w with ⟨staged, reserved, completed⟩
  simp only at empty
  subst empty
  unfold publish
  cases p.readerDone <;> rfl

theorem complete_of_empty (empty : w.staged = []) (live : w.completed = false)
    (fault : Option Fault) :
    complete p w fault =
      (Pipe.notifyRead { p with writerDone := true, writerFault := fault },
        { w with reserved := none, completed := true }) := by
  simp [complete, live, publish_of_empty p w empty]

/-- A writer in the middle of a producer move: open, with nothing staged, on a pipe that shows
it open and has no flush interruption pending. -/
structure Open (p : Pipe) (w : Writer) : Prop where
  staged : w.staged = []
  live : w.completed = false
  writerDone : p.writerDone = false
  writerFault : p.writerFault = none
  flushCancel : p.flushCancel = false

theorem flushCheck_parks (paused : Bool) (h : (flushCheck p paused).2.1 = .pending) :
    (flushCheck p paused).1.FlushWaits := by
  unfold flushCheck at *
  dsimp only at *
  split_ifs at * <;> simp_all [Pipe.FlushWaits]

theorem flushCheck_of_done (done : p.readerDone = true) (paused : Bool) :
    flushCheck p paused =
      ({ p with flushListener := .absent }, .ready { isCompleted := true }, ⟨paused⟩) := by
  simp [flushCheck, done]

theorem flush_step : p.WriterStep (flush p w).1 := by
  unfold flush
  split
  · exact .refl p
  · dsimp only
    split
    · exact .publish p w
    · exact (Pipe.WriterStep.publish p w).trans (.flushCheck _ false)

theorem flush_writer (live : w.completed = false) :
    (flush p w).2.1 = { w with reserved := none, staged := [] } := by
  unfold flush publish
  simp only [live, Bool.false_eq_true, if_false]
  split_ifs <;> simp_all

theorem flush_flags (live : w.completed = false) :
    (flush p w).1.writerDone = p.writerDone ∧ (flush p w).1.writerFault = p.writerFault := by
  cases done : p.readerDone with
  | false =>
    obtain ⟨-, -, -, wd, wf⟩ := flush_spec p w done live
    exact ⟨wd, wf⟩
  | true =>
    have gone : (publish p w).2.2 = true := by simp [publish, done]
    have same : (publish p w).1 = p := by simp [publish, done]
    simp [flush, live, gone, same]

theorem flush_of_done (done : p.readerDone = true) (live : w.completed = false) :
    flush p w = (p, { w with reserved := none, staged := [] }, .ready (.ok { isCompleted := true }),
      ⟨false⟩) := by
  simp [flush, publish, live, done]

/-- With the reader open, a flush publishes and then runs the backpressure test: it waits when
the test parks, on the pipe the test leaves, and otherwise succeeds. -/
theorem flush_open (open_ : p.readerDone = false) (live : w.completed = false) :
    (flush p w).1 = (flushCheck (publish p w).1 false).1 ∧
      ((flush p w).2.2.1 = .pending ∧ (flushCheck (publish p w).1 false).2.1 = .pending ∨
        ∃ v, (flush p w).2.2.1 = .ready (.ok v)) := by
  obtain ⟨-, gone, -⟩ := publish_of_open p w open_
  unfold flush
  rw [if_neg (by rw [live]; exact Bool.false_ne_true)]
  generalize published : publish p w = q at gone ⊢
  obtain ⟨p₁, w₁, g⟩ := q
  dsimp only at gone ⊢
  subst gone
  rw [if_neg Bool.false_ne_true]
  generalize checked : flushCheck p₁ false = c
  obtain ⟨p₂, r, fw⟩ := c
  cases r with
  | pending => exact ⟨rfl, .inl ⟨rfl, rfl⟩⟩
  | ready v => exact ⟨rfl, .inr ⟨v, rfl⟩⟩

theorem flush_parks (live : w.completed = false) (h : (flush p w).2.2.1 = .pending) :
    (flush p w).1.FlushWaits := by
  cases done : p.readerDone with
  | true =>
    rw [flush_of_done p w done live] at h
    cases h
  | false =>
    obtain ⟨pipe, parked | ⟨v, ready⟩⟩ := flush_open p w done live
    · rw [pipe]
      exact flushCheck_parks _ false parked.2
    · rw [ready] at h
      cases h

theorem flush_sound (live : w.completed = false) (e : Fault) :
    (flush p w).2.2.1 ≠ .ready (.error e) := by
  cases done : p.readerDone with
  | true => simp [flush_of_done p w done live]
  | false =>
    obtain ⟨-, parked | ⟨v, ready⟩⟩ := flush_open p w done live
    · rw [parked.1]
      simp
    · rw [ready]
      simp

theorem pollFlush_step (fw : FlushWait) : p.WriterStep (pollFlush p fw).1 := by
  unfold pollFlush
  split
  · exact .flushCheck p fw.paused
  · exact .refl p

theorem pollFlush_eq (fw : FlushWait) :
    pollFlush p fw =
      if p.flushListener = .notified then
        ((flushCheck p fw.paused).1,
          (match (flushCheck p fw.paused).2.1 with
            | .pending => .pending
            | .ready v => .ready (.ok v)),
          (flushCheck p fw.paused).2.2)
      else (p, .pending, fw) := by
  unfold pollFlush
  split <;> rfl

theorem pollFlush_parks (fw : FlushWait) (waits : p.FlushWaits)
    (h : (pollFlush p fw).2.1 = .pending) : (pollFlush p fw).1.FlushWaits := by
  by_cases notified : p.flushListener = .notified
  · rw [pollFlush_eq, if_pos notified] at h ⊢
    apply flushCheck_parks
    revert h
    cases (flushCheck p fw.paused).2.1 <;> simp
  · rw [pollFlush_eq, if_neg notified]
    exact waits

theorem pollFlush_sound (fw : FlushWait) (e : Fault) :
    (pollFlush p fw).2.1 ≠ .ready (.error e) := by
  rw [pollFlush_eq]
  split
  · cases (flushCheck p fw.paused).2.1 <;> simp
  · simp

theorem advance_within {g : Region} (held : w.reserved = some g) {bs : Bytes}
    (fits : bs.length ≤ g.size) :
    advance { w with reserved := w.reserved.map fun r => { r with filled := bs } } bs.length =
      ({ w with reserved := none, staged := w.staged ++ bs }, .ok ()) := by
  have front : ({ g with filled := bs } : Region).front bs.length = bs := by
    simp [Region.front]
  simp [advance, held, Nat.not_lt.mpr fits, front]

end Writer

/-! ## The producer's moves -/

namespace ProducerTask

/-- Ending the producer with nothing staged: the pipe shows the writer done with the exit's
fault, and the reader is told. -/
theorem finish_eq (p : Pipe) (c : Connection) (t : ProducerTask) (r : Except Fault LoopExit)
    (staged : t.writer.staged = [])
    (live : t.writer.completed = false) :
    finish p c t r =
      (Pipe.notifyRead { p with writerDone := true, writerFault := exitFault (settleExit r) }, c,
        { writer := { t.writer with reserved := none, completed := true },
          stage := .ended (.exited (settleExit r)) }, .blocked) := by
  unfold finish
  dsimp only
  rw [Writer.complete_of_empty p t.writer staged live]
  cases settleExit r <;> rfl

/-- The producer loop between moves, and what the pipe shows of it: every committed byte is
published, a receive in progress holds its region, the writer is open while the loop runs, an
exit is on the pipe with its fault, and a fault is the connection's own. -/
structure Fit (p : Pipe) (c : Connection) (t : ProducerTask) : Prop where
  staged : t.writer.staged = []
  flushCancel : p.flushCancel = false
  running : t.isEnded = false →
    t.writer.completed = false ∧ p.writerDone = false ∧ p.writerFault = none
  holds : ∀ r, t.stage = .receiving r → ∃ g, t.writer.reserved = some g
  flushWaits : ∀ fw, t.stage = .flushing fw → p.FlushWaits
  exited : ∀ r, t.stage = .ended (.exited r) → p.writerDone = true ∧ p.writerFault = exitFault r
  faulted : ∀ e, t.stage = .ended (.exited (.error e)) →
    e.isCancelled = false ∧ c.chunks = [] ∧ c.ending = .fail e

theorem Fit.open_ {p : Pipe} {c : Connection} {t : ProducerTask} (h : Fit p c t)
    (live : t.isEnded = false) : t.writer.Open p :=
  ⟨h.staged, (h.running live).1, (h.running live).2.1, (h.running live).2.2, h.flushCancel⟩

/-- What a producer move from `p` and `c` keeps, when it also commits `bs` ahead of what the
connection still holds: the producer's invariant, the pipe as only a writer changes it, and the
bytes in flight, published first and then still at the connection. -/
structure Moved (p : Pipe) (c : Connection) (bs : Bytes) (m : ProducerMove) : Prop where
  fit : Fit m.1 m.2.1 m.2.2.1
  pipe : p.WriterStep m.1
  suffix : m.2.1.rest <:+ c.rest
  stream : p.readerDone = false → m.1.published ++ m.2.1.rest = p.published ++ bs ++ c.rest

variable {p : Pipe} {c : Connection} {t : ProducerTask}

theorem finish_moved (o : t.writer.Open p) (r : Except Fault LoopExit)
    (blame : ∀ e, settleExit r = .error e → c.chunks = [] ∧ c.ending = .fail e) :
    Moved p c [] (finish p c t r) := by
  rw [finish_eq p c t r o.staged o.live]
  refine ⟨⟨o.staged, by simpa using o.flushCancel, ?_, ?_, ?_, ?_, ?_⟩, .complete p _,
    List.suffix_refl _, by simp⟩
  · intro live
    simp [isEnded] at live
  · intro r h
    cases h
  · intro fw h
    cases h
  · intro r' h
    cases h
    simp
  · intro e h
    simp only [ProducerStage.ended.injEq, LoopEnd.exited.injEq] at h
    exact ⟨(settleExit_error h).2, blame e h⟩


theorem crash_moved (o : t.writer.Open p) (text : String) : Moved p c [] (crash p c t text) := by
  unfold crash
  dsimp only
  rw [Writer.complete_of_empty p t.writer o.staged o.live]
  refine ⟨⟨o.staged, by simpa using o.flushCancel, ?_, ?_, ?_, ?_, ?_⟩, .complete p _,
    List.suffix_refl _, by simp⟩
  · intro live
    simp [isEnded] at live
  · intro r h
    cases h
  · intro fw h
    cases h
  · intro r h
    cases h
  · intro e h
    cases h

theorem Fit.of_open {w : Writer} (o : w.Open p) {stage : ProducerStage}
    (live : ({ stage, writer := w } : ProducerTask).isEnded = false)
    (holds : ∀ r, stage = .receiving r → ∃ g, w.reserved = some g)
    (waits : ∀ fw, stage = .flushing fw → p.FlushWaits) : Fit p c { stage, writer := w } where
  staged := o.staged
  flushCancel := o.flushCancel
  running _ := ⟨o.live, o.writerDone, o.writerFault⟩
  holds := holds
  flushWaits := waits
  exited r h := by
    subst h
    simp [isEnded] at live
  faulted e h := by
    subst h
    simp [isEnded] at live

theorem Moved.behind {p₁ : Pipe} {bs : Bytes} {m : ProducerMove} (h : Moved p₁ c [] m)
    (step : p.WriterStep p₁) (published : p.readerDone = false → p₁.published = p.published ++ bs) :
    Moved p c bs m where
  fit := h.fit
  pipe := step.trans h.pipe
  suffix := h.suffix
  stream open_ := by
    have open₁ : p₁.readerDone = false := step.readerDone.trans open_
    rw [h.stream open₁, published open_]
    simp

theorem flushed_moved (o : t.writer.Open p) (fw : FlushWait) (poll : Poll (Except Fault FlushResult))
    (parks : poll = .pending → p.FlushWaits) (sound : ∀ e, poll ≠ .ready (.error e)) :
    Moved p c [] (flushed p c t fw poll) := by
  have clean : ∀ x, ∀ e, settleExit (.ok x) ≠ .error e := by
    intro x e h
    simp [settleExit] at h
  cases poll with
  | pending =>
    refine ⟨.of_open o rfl ?_ ?_, .refl p, List.suffix_refl _, by simp [flushed]⟩
    · intro r h
      cases h
    · intro fw' h
      exact parks rfl
  | ready v =>
    cases v with
    | error e => exact absurd rfl (sound e)
    | ok r =>
      dsimp only [flushed]
      split_ifs
      · exact finish_moved o _ fun e h => absurd h (clean _ e)
      · exact finish_moved o _ fun e h => absurd h (clean _ e)
      · refine ⟨.of_open o rfl ?_ ?_, .refl p, List.suffix_refl _, by simp⟩
        · intro r h
          cases h
        · intro fw' h
          cases h

/-- Received bytes are committed, then flushed, or taken as the end of the stream. -/
theorem received_moved (o : t.writer.Open p) {g : Region} (held : t.writer.reserved = some g)
    {bs : Bytes} (fits : bs.length ≤ g.size) : Moved p c bs (received p c t bs) := by
  unfold received
  dsimp only
  rw [Writer.advance_within t.writer held fits, o.staged, List.nil_append]
  dsimp only
  split_ifs with empty
  · -- nothing arrived: the end of the stream
    have none : bs = [] := List.isEmpty_iff.mp empty
    subst none
    exact finish_moved (t := { t with writer := { t.writer with reserved := none, staged := [] } })
      ⟨rfl, o.live, o.writerDone, o.writerFault, o.flushCancel⟩ (.ok .endOfStream)
      fun e h => by simp [settleExit] at h
  · -- the committed bytes are flushed, and the flush decides how the loop goes on
    have live : ({ t.writer with reserved := none, staged := bs } : Writer).completed = false :=
      o.live
    have step := Writer.flush_step p { t.writer with reserved := none, staged := bs }
    obtain ⟨wd, wf⟩ := Writer.flush_flags p { t.writer with reserved := none, staged := bs } live
    rw [Writer.flush_writer p _ live]
    refine Moved.behind (flushed_moved (t := { t with writer :=
        { ({ t.writer with reserved := none, staged := bs } : Writer) with
          reserved := none, staged := [] } }) ⟨rfl, live, wd.trans o.writerDone, wf.trans o.writerFault,
      step.flushCancel o.flushCancel⟩ _ _ (Writer.flush_parks p _ live)
      (Writer.flush_sound p _ live)) step ?_
    intro open_
    exact (Writer.flush_spec p _ open_ live).2.1

theorem Moved.stay (h : Fit p c t) (s : Stride) : Moved p c [] (p, c, t, s) :=
  ⟨h, .refl p, List.suffix_refl _, by simp⟩

theorem Moved.pulled {c₂ : Connection} {bs : Bytes} {m : ProducerMove} (h : Moved p c₂ bs m)
    (split : c.rest = bs ++ c₂.rest) : Moved p c [] m where
  fit := h.fit
  pipe := h.pipe
  suffix := h.suffix.trans (split ▸ List.suffix_append bs c₂.rest)
  stream open_ := by rw [h.stream open_, split]; simp

theorem pollReceive_moved (h : Fit p c t) {r : Receive} (at_ : t.stage = .receiving r) :
    Moved p c [] (pollReceive p c t r) := by
  obtain ⟨g, held⟩ := h.holds r at_
  have o := h.open_ (by simp [isEnded, at_])
  cases r with
  | hanging => exact .stay h _
  | fresh | resumed =>
    unfold pollReceive
    dsimp only
    -- a fresh receive only counts the call; the stream is the same
    generalize counted : (if _ = Receive.fresh then _ else c) = c₁
    have same : c₁.rest = c.rest ∧ c₁.chunks = c.chunks ∧ c₁.ending = c.ending := by
      subst counted
      split <;> exact ⟨rfl, rfl, rfl⟩
    rw [held]
    generalize pulled : c₁.pull ((some g).map Region.size |>.getD 0) = q
    obtain ⟨c₂, got⟩ := q
    cases got with
    | got bs =>
      obtain ⟨fits, split⟩ := Connection.pull_got pulled
      exact (received_moved o held (by simpa using fits)).pulled (split ▸ same.1.symm)
    | yielded =>
      refine ⟨.of_open o rfl (fun _ _ => ⟨g, held⟩) (fun _ h => by cases h), .refl p, ?_, by
        simp [Connection.pull_yielded pulled, same.1]⟩
      rw [Connection.pull_yielded pulled, same.1]
    | hangs =>
      cases Connection.pull_hangs pulled
      refine ⟨.of_open o rfl (fun _ _ => ⟨g, held⟩) (fun _ h => by cases h), .refl p, ?_, by
        simp [same.1]⟩
      rw [same.1]
    | failed f =>
      obtain ⟨rfl, chunks, ending⟩ := Connection.pull_failed pulled
      refine (finish_moved o (.error f) ?_).pulled (by simp [same.1])
      intro e h
      obtain ⟨same, -⟩ := settleExit_error h
      cases same
      exact ⟨chunks, ending⟩
    | panicked =>
      cases Connection.pull_panicked pulled
      exact (crash_moved o _).pulled (by simp [same.1])

theorem step_moved (h : Fit p c t) : Moved p c [] (step false p c t) := by
  unfold step
  split
  · exact .stay h _
  · -- a new turn: reserve a region of the receive buffer size, then receive into it
    rename_i top
    have o := h.open_ (by simp [isEnded, top])
    simp only [Writer.getMemory, Bool.false_eq_true, if_false]
    refine pollReceive_moved (.of_open ?_ rfl (fun _ _ => ⟨_, rfl⟩) (fun _ h => by cases h)) rfl
    exact ⟨o.staged, o.live, o.writerDone, o.writerFault, o.flushCancel⟩
  · rename_i r at_
    exact pollReceive_moved h at_
  · -- a suspended flush looks at the pipe again once it was notified
    rename_i fw at_
    have o := h.open_ (by simp [isEnded, at_])
    dsimp only
    have step := Writer.pollFlush_step p fw
    obtain ⟨published, -, wd, wf, -⟩ := Writer.pollFlush_fields p fw
    refine Moved.behind (flushed_moved ⟨o.staged, o.live, wd.trans o.writerDone,
      wf.trans o.writerFault, step.flushCancel o.flushCancel⟩ _ _
      (Writer.pollFlush_parks p fw (h.flushWaits fw at_)) (Writer.pollFlush_sound p fw)) step ?_
    intro _
    rw [published, List.append_nil]

@[simp] theorem finish_stage (r : Except Fault LoopExit) :
    (finish p c t r).2.2.1.stage = .ended (.exited (settleExit r)) := rfl

@[simp] theorem finish_conn (r : Except Fault LoopExit) : (finish p c t r).2.1 = c := rfl

@[simp] theorem crash_conn (text : String) : (crash p c t text).2.1 = c := rfl

theorem flushed_conn (fw : FlushWait) (poll : Poll (Except Fault FlushResult)) :
    (flushed p c t fw poll).2.1 = c := by
  cases poll with
  | pending => rfl
  | ready v =>
    cases v with
    | error e => rfl
    | ok r =>
      dsimp only [flushed]
      split_ifs <;> rfl

theorem received_conn (bs : Bytes) : (received p c t bs).2.1 = c := by
  unfold received
  dsimp only
  generalize Writer.advance _ _ = q
  obtain ⟨w, res⟩ := q
  cases res with
  | error e => rfl
  | ok u =>
    dsimp only
    split_ifs
    · rfl
    · exact flushed_conn _ _

theorem received_of_done (o : t.writer.Open p) {g : Region} (held : t.writer.reserved = some g)
    {bs : Bytes} (fits : bs.length ≤ g.size) (done : p.readerDone = true) (some_ : bs ≠ []) :
    (received p c t bs).2.2.1.stage = .ended (.exited (.ok .readerCompleted)) := by
  unfold received
  dsimp only
  rw [Writer.advance_within t.writer held fits, o.staged, List.nil_append]
  dsimp only
  rw [if_neg (by simpa using some_),
    Writer.flush_of_done p { t.writer with reserved := none, staged := bs } done o.live]
  dsimp only [flushed]
  rw [if_pos rfl, finish_stage]
  rfl

theorem pollReceive_of_done (h : Fit p c t) {r : Receive} (at_ : t.stage = .receiving r)
    (done : p.readerDone = true) (pulls : (pollReceive p c t r).2.1.rest.length < c.rest.length) :
    (pollReceive p c t r).2.2.1.stage = .ended (.exited (.ok .readerCompleted)) := by
  obtain ⟨g, held⟩ := h.holds r at_
  have o := h.open_ (by simp [isEnded, at_])
  cases r with
  | hanging => exact absurd pulls (Nat.lt_irrefl _)
  | fresh | resumed =>
    unfold pollReceive at *
    dsimp only at *
    generalize counted : (if _ = Receive.fresh then _ else c) = c₁ at *
    have same : c₁.rest = c.rest := by
      subst counted
      split <;> rfl
    rw [held] at pulls ⊢
    generalize pulled : c₁.pull ((some g).map Region.size |>.getD 0) = q at pulls ⊢
    obtain ⟨c₂, got⟩ := q
    -- only bytes taken from the connection make the stream shorter
    cases got with
    | got bs =>
      dsimp only at pulls ⊢
      obtain ⟨fits, split⟩ := Connection.pull_got pulled
      rw [received_conn] at pulls
      refine received_of_done o held (by simpa using fits) done ?_
      rintro rfl
      rw [← same, split] at pulls
      exact absurd pulls (Nat.lt_irrefl _)
    | yielded =>
      dsimp only at pulls
      rw [Connection.pull_yielded pulled, same] at pulls
      exact absurd pulls (Nat.lt_irrefl _)
    | hangs =>
      cases Connection.pull_hangs pulled
      dsimp only at pulls
      rw [same] at pulls
      exact absurd pulls (Nat.lt_irrefl _)
    | failed f =>
      cases (Connection.pull_failed pulled).1
      dsimp only at pulls
      rw [finish_conn, same] at pulls
      exact absurd pulls (Nat.lt_irrefl _)
    | panicked =>
      cases Connection.pull_panicked pulled
      dsimp only at pulls
      rw [crash_conn, same] at pulls
      exact absurd pulls (Nat.lt_irrefl _)

/-- With the reader gone, a producer move that takes bytes from the connection ends the loop
with `readerCompleted`. -/
theorem step_pulls_of_done (h : Fit p c t) (done : p.readerDone = true)
    (pulls : (step false p c t).2.1.rest.length < c.rest.length) :
    (step false p c t).2.2.1.stage = .ended (.exited (.ok .readerCompleted)) := by
  unfold step at *
  split at *
  · exact absurd pulls (Nat.lt_irrefl _)
  · rename_i top
    have o := h.open_ (by simp [isEnded, top])
    simp only [Writer.getMemory, Bool.false_eq_true, if_false] at *
    refine pollReceive_of_done (.of_open ?_ rfl (fun _ _ => ⟨_, rfl⟩) (fun _ h => by cases h)) rfl
      done pulls
    exact ⟨o.staged, o.live, o.writerDone, o.writerFault, o.flushCancel⟩
  · rename_i r at_
    exact pollReceive_of_done h at_ done pulls
  · rw [if_neg Bool.false_ne_true, flushed_conn] at pulls
    exact absurd pulls (Nat.lt_irrefl _)

/-- With the reader gone, a waiting flush was notified, and its next poll ends the loop with
`readerCompleted`. -/
theorem step_flushing_of_done (h : Fit p c t) (done : p.readerDone = true) {fw : FlushWait}
    (at_ : t.stage = .flushing fw) :
    (step false p c t).2.2.1.stage = .ended (.exited (.ok .readerCompleted)) := by
  have o := h.open_ (by simp [isEnded, at_])
  have notified : p.flushListener = .notified := by
    rcases h.flushWaits fw at_ with notified | ⟨-, open_⟩
    · exact notified
    · rw [done] at open_
      cases open_
  unfold step
  rw [at_]
  dsimp only
  rw [if_neg Bool.false_ne_true, Writer.pollFlush_eq, if_pos notified,
    Writer.flushCheck_of_done p done]
  dsimp only [flushed]
  rw [if_pos rfl, finish_stage]
  rfl

end ProducerTask

end Sluice
