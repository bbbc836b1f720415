import Sluice.Proofs.Pipe.Producer
/-!
# One move of the consumer loop

What a single move of the consumer loop does, on a token that is not cancelled. The loop
reads, offers the reader's whole buffer to the consumer and advances by the consumer's answer.
For a connection whose stream is `S` and a consumer that started with verdicts `V`, its
invariant `ConsumerTask.Fit` says that while the loop runs the stream less the prefix the
consumer consumed (`Consumer.taken`) is the reader's buffer, then the published bytes, then
what is still at the connection (`ConsumerTask.step_moved`). A move changes the pipe only as
a reader may (`Pipe.ReaderStep`).

An offer is therefore the stream less its consumed prefix, up to what the connection still
holds (`ConsumerTask.step_offer`). A read that sees a writer fault ends the loop with it and
offers nothing (`ConsumerTask.afterRead_fault`); a read that sees the writer completed makes
the last offer and ends the loop as the consumer's answer to it says (`Consumed.ending`,
`ConsumerTask.afterRead_completed`).
-/

namespace Sluice

/-! ## The consumer's answers -/

/-- The answer a scripted consumer with verdict `v` gives to a buffer of `len` bytes. -/
def Verdict.answer (v : Verdict) (len : Nat) : Consumed :=
  match v with
  | .all => .position len len
  | .needMore => .position 0 len
  | .position c e => .position c e
  | .frames n => .position (len / max n 1 * max n 1) len
  | .fail f => .failed f
  | .panic => .panicked consumePanicText

def Consumed.count : Consumed → Nat
  | .position c _ => c
  | _ => 0

/-- How the consumer loop ends when the consumer answers the last offer, of `len` bytes, with
this answer: a position that consumes no more than it examines, within the buffer, ends it with
`sourceCompleted`, and any other position with the reader's refusal of it; a failure ends it
with that fault, except that a cancellation is the exit `cancelled`; a panic ends it as a
panic. -/
def Consumed.ending : Consumed → Nat → LoopEnd
  | .position c e, len =>
      if c ≤ e ∧ e ≤ len then .exited (.ok .sourceCompleted)
      else .exited (.error (Reader.invalidAdvance c e len))
  | .failed f, _ => .exited (if f.isCancelled then .ok .cancelled else .error f)
  | .panicked text, _ => .panicked text

namespace Consumer

theorem consume_eq (k : Consumer) (buffer : Bytes) (done : Bool) :
    k.consume buffer done =
      ({ verdicts := k.verdicts.tail, offers := k.offers ++ [{ buffer, isCompleted := done }] },
        (k.verdicts.headD .all).answer buffer.length) := by
  rcases k with ⟨_ | ⟨v, vs⟩, offers⟩ <;> rfl

/-- The bytes a consumer that started with verdicts `vs` consumed over the offers `os`. -/
def taken : List Verdict → List Offer → Nat
  | _, [] => 0
  | vs, o :: os => ((vs.headD .all).answer o.buffer.length).count + taken vs.tail os

theorem taken_append (vs : List Verdict) (os : List Offer) (o : Offer) :
    taken vs (os ++ [o]) =
      taken vs os + (((vs.drop os.length).headD .all).answer o.buffer.length).count := by
  induction os generalizing vs with
  | nil => simp [taken]
  | cons o' os ih =>
    simp only [List.cons_append, taken, ih, List.length_cons, List.drop_tail]
    omega

end Consumer

/-! ## The pipe as the reader changes it -/

namespace Pipe

/-- What the reader's side may do to the pipe: leave the writer's flags and flush interruption
alone, and keep a parked flush able to see the reader complete. -/
structure ReaderStep (p p' : Pipe) : Prop where
  writerDone : p'.writerDone = p.writerDone
  writerFault : p'.writerFault = p.writerFault
  flushCancel : p'.flushCancel = p.flushCancel
  waits : p.FlushWaits → p'.FlushWaits

namespace ReaderStep

theorem refl (p : Pipe) : ReaderStep p p := ⟨rfl, rfl, rfl, id⟩

theorem trans {p q r : Pipe} (first : ReaderStep p q) (second : ReaderStep q r) :
    ReaderStep p r where
  writerDone := second.writerDone.trans first.writerDone
  writerFault := second.writerFault.trans first.writerFault
  flushCancel := second.flushCancel.trans first.flushCancel
  waits := second.waits ∘ first.waits

theorem notifyWrite (p : Pipe) : ReaderStep p p.notifyWrite where
  writerDone := by simp
  writerFault := by simp
  flushCancel := by simp
  waits := by
    intro waits
    unfold FlushWaits Pipe.notifyWrite at *
    split <;> simp_all

theorem close (p : Pipe) :
    ReaderStep p (Pipe.notifyWrite { p with readerDone := true, published := [], unconsumed := 0 }) where
  writerDone := by simp
  writerFault := by simp
  flushCancel := by simp
  waits := by
    intro waits
    unfold FlushWaits Pipe.notifyWrite at *
    split <;> simp_all

theorem readCheck (p : Pipe) (r : Reader) : ReaderStep p (Reader.readCheck p r).1 := by
  rcases Reader.readCheck_spec p r with ⟨e, -, -, same, -⟩ | ⟨none, -, -, -, rd, wd, wf, -, fl, -⟩
  · rw [same]
    exact ⟨rfl, rfl, rfl, id⟩
  · have fc : (Reader.readCheck p r).1.flushCancel = p.flushCancel := by
      unfold Reader.readCheck
      split
      · rfl
      · dsimp only
        split <;> rfl
    refine ⟨wd, ?_, fc, ?_⟩
    · rw [wf, none]
    · unfold FlushWaits
      rw [fl, rd]
      exact id

theorem advanceTo (p : Pipe) (r : Reader) (c e : Nat) : ReaderStep p (Reader.advanceTo p r c e).1 := by
  unfold Reader.advanceTo
  split_ifs
  · exact refl p
  · exact (⟨rfl, rfl, rfl, id⟩ : ReaderStep p { p with unconsumed := p.unconsumed - c }).trans
      (notifyWrite _)
  · exact refl p

end ReaderStep

end Pipe

theorem ProducerTask.Fit.reader {p p' : Pipe} {c : Connection} {t : ProducerTask}
    (h : ProducerTask.Fit p c t) (step : p.ReaderStep p') : ProducerTask.Fit p' c t where
  staged := h.staged
  flushCancel := step.flushCancel.trans h.flushCancel
  running live := by
    obtain ⟨completed, wd, wf⟩ := h.running live
    exact ⟨completed, step.writerDone.trans wd, step.writerFault.trans wf⟩
  holds := h.holds
  flushWaits fw at_ := step.waits (h.flushWaits fw at_)
  exited r at_ := by
    obtain ⟨wd, wf⟩ := h.exited r at_
    exact ⟨step.writerDone.trans wd, step.writerFault.trans wf⟩
  faulted := h.faulted

theorem Reader.complete_of_live (p : Pipe) (r : Reader) (live : r.completed = false) :
    Reader.complete p r =
      (Pipe.notifyWrite { p with readerDone := true, published := [], unconsumed := 0 },
        { buffered := [], examined := 0, completed := true }) := by
  simp [Reader.complete, live]

/-! ## The consumer's moves -/

namespace ConsumerTask

/-- The consumer loop between moves, for a connection whose stream is `S`, of which `rest` is
still at the connection, and a consumer that started with verdicts `V`: while the loop runs,
the stream less its consumed prefix is the reader's buffer, the published bytes and `rest`;
once it ended, the pipe shows the reader gone. -/
structure Fit (S : Bytes) (V : List Verdict) (p : Pipe) (k : Consumer) (rest : Bytes)
    (t : ConsumerTask) : Prop where
  verdicts : k.verdicts = V.drop k.offers.length
  readCancel : p.readCancel = false
  running : t.isEnded = false → t.reader.completed = false ∧ p.readerDone = false ∧
    S.drop (Consumer.taken V k.offers) = t.reader.buffered ++ p.published ++ rest
  closed : t.isEnded = true → p.readerDone = true
  readWaits : t.stage = .reading → p.ReadWaits

/-- A reader in the middle of a consumer move, with the stream as `Fit` has it. -/
structure Open (S : Bytes) (V : List Verdict) (p : Pipe) (k : Consumer) (rest : Bytes)
    (r : Reader) : Prop where
  verdicts : k.verdicts = V.drop k.offers.length
  readCancel : p.readCancel = false
  live : r.completed = false
  readerOpen : p.readerDone = false
  stream : S.drop (Consumer.taken V k.offers) = r.buffered ++ p.published ++ rest

/-- What a consumer move from `p` keeps. -/
structure Moved (S : Bytes) (V : List Verdict) (p : Pipe) (rest : Bytes) (m : ConsumerMove) :
    Prop where
  fit : Fit S V m.1 m.2.1 rest m.2.2.1
  pipe : p.ReaderStep m.1

variable {S : Bytes} {V : List Verdict} {p : Pipe} {k : Consumer} {rest : Bytes}
  {t : ConsumerTask}

theorem Fit.open_ (h : Fit S V p k rest t) (live : t.isEnded = false) :
    Open S V p k rest t.reader :=
  ⟨h.verdicts, h.readCancel, (h.running live).1, (h.running live).2.1, (h.running live).2.2⟩

theorem Moved.behind {p₁ : Pipe} {m : ConsumerMove} (h : Moved S V p₁ rest m)
    (step : p.ReaderStep p₁) : Moved S V p rest m :=
  ⟨h.fit, step.trans h.pipe⟩

theorem finish_eq (p : Pipe) (k : Consumer) (t : ConsumerTask) (r : Except Fault LoopExit)
    (live : t.reader.completed = false) :
    finish p k t r =
      (Pipe.notifyWrite { p with readerDone := true, published := [], unconsumed := 0 }, k,
        { reader := { buffered := [], examined := 0, completed := true },
          stage := .ended (.exited (settleExit r)) }, .blocked) := by
  simp only [finish, Reader.complete_of_live p t.reader live]

theorem finish_moved (verdicts : k.verdicts = V.drop k.offers.length) (rc : p.readCancel = false)
    (live : t.reader.completed = false) (r : Except Fault LoopExit) :
    Moved S V p rest (finish p k t r) := by
  rw [finish_eq p k t r live]
  refine ⟨⟨verdicts, by simpa using rc, fun live => by simp [isEnded] at live, fun _ => by simp,
    fun h => by cases h⟩, .close p⟩

theorem crash_moved (verdicts : k.verdicts = V.drop k.offers.length) (rc : p.readCancel = false)
    (live : t.reader.completed = false) (text : String) :
    Moved S V p rest (crash p k t text) := by
  simp only [crash, Reader.complete_of_live p t.reader live]
  refine ⟨⟨verdicts, by simpa using rc, fun live => by simp [isEnded] at live, fun _ => by simp,
    fun h => by cases h⟩, .close p⟩

theorem Open.consumed {r : Reader} (o : Open S V p k rest r) (b : Bytes) (done : Bool) :
    (k.consume b done).1.verdicts = V.drop (k.consume b done).1.offers.length ∧
      Consumer.taken V (k.consume b done).1.offers =
        Consumer.taken V k.offers + ((k.verdicts.headD .all).answer b.length).count := by
  rw [Consumer.consume_eq]
  refine ⟨?_, ?_⟩
  · simp [o.verdicts]
  · simp [Consumer.taken_append, o.verdicts]

/-- Acting on a read keeps the stream: an accepted answer drops the consumed prefix. -/
theorem afterRead_moved (o : Open S V p k rest t.reader) (poll : Poll (Except Fault ReadResult))
    (parks : poll = .pending → p.ReadWaits)
    (offered : ∀ rr, poll = .ready (.ok rr) → rr.buffer = t.reader.buffered ∧ p.published = []) :
    Moved S V p rest (afterRead p k t poll) := by
  cases poll with
  | pending =>
    refine ⟨⟨o.verdicts, o.readCancel, fun _ => ⟨o.live, o.readerOpen, o.stream⟩,
      fun h => by simp [isEnded, afterRead] at h, fun _ => parks rfl⟩, .refl p⟩
  | ready v =>
    cases v with
    | error e => exact finish_moved o.verdicts o.readCancel o.live _
    | ok rr =>
      obtain ⟨buffer, drained⟩ := offered rr rfl
      dsimp only [afterRead]
      by_cases canceled : rr.isCanceled = true
      · rw [if_pos canceled]
        exact finish_moved o.verdicts o.readCancel o.live _
      -- the consumer is offered the whole buffer and answers
      rw [if_neg canceled]
      obtain ⟨verdicts, taken⟩ := o.consumed rr.buffer rr.isCompleted
      rw [Consumer.consume_eq] at verdicts taken ⊢
      simp only at verdicts taken
      generalize answered : (k.verdicts.headD .all).answer rr.buffer.length = a at taken
      cases a with
      | failed f => exact finish_moved verdicts o.readCancel o.live _
      | panicked text => exact crash_moved verdicts o.readCancel o.live _
      | position c e =>
        by_cases valid : c ≤ e ∧ e ≤ t.reader.buffered.length
        · -- an accepted answer drops the consumed prefix of the stream
          obtain ⟨rd, res, published, rdone, -, -, -, rc⟩ := Reader.advanceTo_ok p t.reader valid
          have step := Pipe.ReaderStep.advanceTo p t.reader c e
          rcases advanced : Reader.advanceTo p t.reader c e with ⟨p₂, r₂, res₂⟩
          rw [advanced] at rd res published rdone rc step
          simp only at rd res published rdone rc step
          subst rd res
          dsimp only
          rw [advanced]
          dsimp only
          by_cases done : rr.isCompleted = true
          · rw [if_pos done]
            exact (finish_moved verdicts (rc.trans o.readCancel) (t := { t with reader :=
              { t.reader with buffered := t.reader.buffered.drop c, examined := e - c } })
              o.live _).behind step
          · rw [if_neg done]
            refine ⟨⟨verdicts, rc.trans o.readCancel, fun _ => ⟨o.live, rdone.trans o.readerOpen,
              ?_⟩, fun h => by simp [isEnded] at h, fun h => by cases h⟩, step⟩
            rw [taken, ← List.drop_drop, o.stream, drained, published, drained]
            simp only [List.append_nil, Consumed.count]
            exact List.drop_append_of_le_length (valid.1.trans valid.2)
        · -- a refused answer ends the loop with its fault
          obtain ⟨same, rd, res⟩ := Reader.advanceTo_error p t.reader valid
          rcases advanced : Reader.advanceTo p t.reader c e with ⟨p₂, r₂, res₂⟩
          rw [advanced] at same rd res
          simp only at same rd res
          subst same rd res
          dsimp only
          rw [advanced]
          exact finish_moved verdicts o.readCancel o.live _

theorem readCheck_moved (o : Open S V p k rest t.reader) :
    Moved S V p rest (afterRead (Reader.readCheck p t.reader).1 k
      { t with reader := (Reader.readCheck p t.reader).2.1 } (Reader.readCheck p t.reader).2.2) := by
  refine Moved.behind (afterRead_moved ?_ _ ?_ ?_) (.readCheck p t.reader)
  all_goals rcases Reader.readCheck_spec p t.reader with
    ⟨e, -, same, pipe, failed⟩ | ⟨-, moved, drained, rc, rd, wd, -, -, -, ended | parked⟩
  · exact ⟨o.verdicts, by rw [pipe]; exact o.readCancel, by rw [same]; exact o.live,
      by rw [pipe]; exact o.readerOpen, by rw [pipe, same]; exact o.stream⟩
  · exact ⟨o.verdicts, rc, by rw [moved]; exact o.live, rd.trans o.readerOpen,
      by rw [moved, drained, o.stream]; simp⟩
  · exact ⟨o.verdicts, rc, by rw [moved]; exact o.live, rd.trans o.readerOpen,
      by rw [moved, drained, o.stream]; simp⟩
  · intro pending
    rw [failed] at pending
    cases pending
  · intro pending
    rw [ended.2.2] at pending
    cases pending
  · -- a read parks only while the writer is open
    intro _
    have quiet := parked.1
    simp only [Bool.or_eq_false_iff, decide_eq_false_iff_not] at quiet
    exact .inr ⟨parked.2.1, wd.trans quiet.1.2⟩
  · intro rr offered
    rw [failed] at offered
    cases offered
  · intro rr offered
    rw [ended.2.2] at offered
    simp only [Poll.ready.injEq, Except.ok.injEq] at offered
    subst offered
    exact ⟨by rw [moved], drained⟩
  · intro rr offered
    rw [parked.2.2] at offered
    cases offered

theorem step_moved (h : Fit S V p k rest t) : Moved S V p rest (step false p k t) := by
  unfold step
  split
  · exact ⟨h, .refl p⟩
  · rename_i top
    have o := h.open_ (by simp [isEnded, top])
    rw [if_neg Bool.false_ne_true, Reader.read_of_open p t.reader o.live]
    exact readCheck_moved o
  · -- a parked read looks at the pipe again only once it was notified
    rename_i reading
    have o := h.open_ (by simp [isEnded, reading])
    rw [if_neg Bool.false_ne_true]
    rcases Reader.pollRead_cases p t.reader with same | same
    · rw [same]
      exact readCheck_moved o
    · rw [same]
      exact afterRead_moved o _ (fun _ => h.readWaits reading) (fun _ h => by cases h)

/-- A producer move keeps the consumer's invariant, as long as it keeps the bytes in flight. -/
theorem Fit.writer {p' : Pipe} {rest' : Bytes} (h : Fit S V p k rest t) (step : p.WriterStep p')
    (stream : p.readerDone = false → p'.published ++ rest' = p.published ++ rest) :
    Fit S V p' k rest' t where
  verdicts := h.verdicts
  readCancel := step.readCancel.trans h.readCancel
  running live := by
    obtain ⟨completed, open_, flow⟩ := h.running live
    refine ⟨completed, step.readerDone.trans open_, ?_⟩
    rw [flow, List.append_assoc, ← stream open_, List.append_assoc]
  closed ended := step.readerDone.trans (h.closed ended)
  readWaits reading := step.waits (h.readWaits reading)

theorem afterRead_sink (p : Pipe) (k : Consumer) (t : ConsumerTask)
    (poll : Poll (Except Fault ReadResult)) :
    (afterRead p k t poll).2.1 = k ∨
      ∃ rr, poll = .ready (.ok rr) ∧ (afterRead p k t poll).2.1 = (k.consume rr.buffer rr.isCompleted).1 := by
  cases poll with
  | pending => exact .inl rfl
  | ready v =>
    cases v with
    | error e => exact .inl rfl
    | ok rr =>
      refine (em (rr.isCanceled = true)).imp (fun canceled => ?_) (fun canceled => ⟨rr, rfl, ?_⟩)
      · simp [afterRead, canceled, finish]
      · simp only [afterRead, canceled, Bool.false_eq_true, if_false]
        generalize (k.consume rr.buffer rr.isCompleted) = q
        obtain ⟨k', answer⟩ := q
        cases answer with
        | position c e =>
          dsimp only
          generalize Reader.advanceTo p t.reader c e = q
          obtain ⟨p', r', res⟩ := q
          cases res with
          | error f => rfl
          | ok u => dsimp only; split <;> rfl
        | failed f => rfl
        | panicked text => rfl

theorem step_of_ended (cancelled : Bool) (ended : t.isEnded = true) :
    step cancelled p k t = (p, k, t, .blocked) := by
  unfold isEnded at ended
  unfold step
  split
  · rfl
  · rename_i top
    simp [top] at ended
  · rename_i reading
    simp [reading] at ended

/-- A move of a running consumer loop whose parked read, if any, was notified runs the read
test. -/
theorem step_reads (h : Fit S V p k rest t) (live : t.isEnded = false)
    (woken : t.stage = .reading → p.readListener = .notified) :
    step false p k t = afterRead (Reader.readCheck p t.reader).1 k
      { t with reader := (Reader.readCheck p t.reader).2.1 } (Reader.readCheck p t.reader).2.2 := by
  have o := h.open_ live
  unfold step
  split
  · rename_i ended
    simp [isEnded, ended] at live
  · rw [if_neg Bool.false_ne_true, Reader.read_of_open p t.reader o.live]
  · rename_i reading
    rw [if_neg Bool.false_ne_true]
    simp only [Reader.pollRead, woken reading, if_true]

theorem step_sink (h : Fit S V p k rest t) :
    (step false p k t).2.1 = k ∨ ∃ rr, (Reader.readCheck p t.reader).2.2 = .ready (.ok rr) ∧
      (step false p k t).2.1 = (k.consume rr.buffer rr.isCompleted).1 := by
  unfold step
  split
  · exact .inl rfl
  · rename_i top
    have o := h.open_ (by simp [isEnded, top])
    rw [if_neg Bool.false_ne_true, Reader.read_of_open p t.reader o.live]
    exact afterRead_sink _ _ _ _
  · rw [if_neg Bool.false_ne_true]
    rcases Reader.pollRead_cases p t.reader with same | same
    · rw [same]
      exact afterRead_sink _ _ _ _
    · rw [same]
      rcases afterRead_sink p k { t with reader := t.reader } .pending with kept | ⟨rr, pending, -⟩
      · exact .inl kept
      · cases pending

/-- A consumer move that makes an offer offers the stream less its consumed prefix, up to
what the connection still holds, and tells whether the writer completed. -/
theorem step_offer (h : Fit S V p k rest t) {b : Offer}
    (offered : (step false p k t).2.1.offers = k.offers ++ [b]) :
    b.buffer ++ rest = S.drop (Consumer.taken V k.offers) ∧ b.isCompleted = p.writerDone := by
  rcases step_sink h with kept | ⟨rr, read, told⟩
  · rw [kept] at offered
    simpa using congrArg List.length offered
  · rw [told, Consumer.consume_eq] at offered
    simp only [List.append_cancel_left_eq, List.cons.injEq, and_true] at offered
    subst offered
    obtain ⟨buffer, completed, -, -⟩ := Reader.readCheck_ready_ok p t.reader read
    -- an ended loop reads nothing, so this one was running
    have live : t.isEnded = false := by
      cases ended : t.isEnded
      · rfl
      · rw [step_of_ended false ended, Consumer.consume_eq] at told
        simpa using congrArg (fun k : Consumer => k.offers.length) told
    obtain ⟨-, -, stream⟩ := h.running live
    exact ⟨by rw [stream, buffer, List.append_assoc], completed⟩

/-- A read that failed ends the loop with the fault and offers nothing. -/
theorem afterRead_fault (live : t.reader.completed = false) {e : Fault}
    (clean : e.isCancelled = false) :
    (afterRead p k t (.ready (.error e))).2.1 = k ∧
      (afterRead p k t (.ready (.error e))).2.2.1.stage = .ended (.exited (.error e)) := by
  simp [afterRead, finish_eq p k t _ live, settleExit, clean]

/-- A read that saw the writer completed makes the last offer and ends the loop as the
consumer's answer to that offer says (`Consumed.ending`). -/
theorem afterRead_completed (live : t.reader.completed = false) (rr : ReadResult)
    (canceled : rr.isCanceled = false) (done : rr.isCompleted = true)
    (whole : rr.buffer = t.reader.buffered) :
    (afterRead p k t (.ready (.ok rr))).2.1 = (k.consume rr.buffer rr.isCompleted).1 ∧
      (afterRead p k t (.ready (.ok rr))).2.2.1.stage =
        .ended (((k.verdicts.headD .all).answer rr.buffer.length).ending rr.buffer.length) := by
  simp only [afterRead, canceled, Bool.false_eq_true, if_false]
  rw [Consumer.consume_eq]
  dsimp only
  generalize (k.verdicts.headD .all).answer rr.buffer.length = a
  cases a with
  | failed f =>
    dsimp only
    rw [finish_eq p _ t _ live]
    exact ⟨rfl, rfl⟩
  | panicked text => exact ⟨rfl, rfl⟩
  | position c e =>
    rw [whole]
    by_cases valid : c ≤ e ∧ e ≤ t.reader.buffered.length
    · obtain ⟨rd, res, -⟩ := Reader.advanceTo_ok p t.reader valid
      rcases advanced : Reader.advanceTo p t.reader c e with ⟨p₂, r₂, res₂⟩
      rw [advanced] at rd res
      simp only at rd res
      subst rd res
      dsimp only
      rw [advanced]
      dsimp only
      rw [if_pos done, finish_eq p₂ _ { t with reader :=
        { t.reader with buffered := t.reader.buffered.drop c, examined := e - c } } _ live]
      exact ⟨rfl, by simp [Consumed.ending, valid, settleExit]⟩
    · -- the reader refuses the position, and its fault is not a cancellation
      obtain ⟨same, rd, res⟩ := Reader.advanceTo_error p t.reader valid
      rcases advanced : Reader.advanceTo p t.reader c e with ⟨p₂, r₂, res₂⟩
      rw [advanced] at same rd res
      simp only at same rd res
      subst same rd res
      dsimp only
      rw [advanced]
      dsimp only
      rw [finish_eq _ _ { t with reader := t.reader } _ live]
      exact ⟨rfl, by simp [Consumed.ending, valid, settleExit, Reader.invalidAdvance,
        Fault.isCancelled]⟩

end ConsumerTask

end Sluice
