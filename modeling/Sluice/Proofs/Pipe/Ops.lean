import Mathlib
import Sluice.Pipe.Loops
/-!
# What each pipe operation does to the bytes

A byte pipe keeps bytes in three places: the writer's staged bytes, the pipe's published
bytes, and the reader's buffer. Only four operations move them: `publish` moves the staged
bytes behind the published ones, `readCheck` moves the published bytes behind the buffered
ones, `advanceTo` drops a prefix of the buffer, and the completion of the reader drops
everything. Everything else a pipe does (notifying a side, interrupting a wait, parking a
listener, the backpressure test) only touches flags, listeners and counters.

This module says so once per operation, so that the invariants of byte pipe sessions and of
the producer and consumer loops never unfold an operation again.

* field lemmas for `notifyRead`, `notifyWrite`, `flushCheck`, `dropFlush`, `dropRead`,
  `cancelRead`, `cancelFlush`;
* `Writer.advanced`, `getMemory_staged`, `advance_staged`, `write_staged`;
* `publish_of_open`, `flush_spec`, `pollFlush_fields`, `complete_of_open`;
* `readCheck_spec`, `readCheck_ready_ok`, `read_of_open`, `pollRead_cases`, `advanceTo_ok`,
  `advanceTo_error`.
-/

namespace Sluice

namespace Pipe

variable (p : Pipe)

@[simp] theorem notifyRead_published : p.notifyRead.published = p.published := by
  unfold notifyRead; split <;> rfl
@[simp] theorem notifyRead_unconsumed : p.notifyRead.unconsumed = p.unconsumed := by
  unfold notifyRead; split <;> rfl
@[simp] theorem notifyRead_writerDone : p.notifyRead.writerDone = p.writerDone := by
  unfold notifyRead; split <;> rfl
@[simp] theorem notifyRead_writerFault : p.notifyRead.writerFault = p.writerFault := by
  unfold notifyRead; split <;> rfl
@[simp] theorem notifyRead_readerDone : p.notifyRead.readerDone = p.readerDone := by
  unfold notifyRead; split <;> rfl
@[simp] theorem notifyRead_readCancel : p.notifyRead.readCancel = p.readCancel := by
  unfold notifyRead; split <;> rfl
@[simp] theorem notifyRead_flushListener : p.notifyRead.flushListener = p.flushListener := by
  unfold notifyRead; split <;> rfl
@[simp] theorem notifyRead_readListener :
    p.notifyRead.readListener = p.readListener.notify := by
  cases h : p.readListener <;> simp [notifyRead, h, Listener.notify]

@[simp] theorem notifyWrite_published : p.notifyWrite.published = p.published := by
  unfold notifyWrite; split <;> rfl
@[simp] theorem notifyWrite_unconsumed : p.notifyWrite.unconsumed = p.unconsumed := by
  unfold notifyWrite; split <;> rfl
@[simp] theorem notifyWrite_writerDone : p.notifyWrite.writerDone = p.writerDone := by
  unfold notifyWrite; split <;> rfl
@[simp] theorem notifyWrite_writerFault : p.notifyWrite.writerFault = p.writerFault := by
  unfold notifyWrite; split <;> rfl
@[simp] theorem notifyWrite_readerDone : p.notifyWrite.readerDone = p.readerDone := by
  unfold notifyWrite; split <;> rfl
@[simp] theorem notifyWrite_readCancel : p.notifyWrite.readCancel = p.readCancel := by
  unfold notifyWrite; split <;> rfl
@[simp] theorem notifyWrite_flushCancel : p.notifyWrite.flushCancel = p.flushCancel := by
  unfold notifyWrite; split <;> rfl
@[simp] theorem notifyWrite_readListener : p.notifyWrite.readListener = p.readListener := by
  unfold notifyWrite; split <;> rfl

end Pipe

namespace Writer

variable (p : Pipe) (w : Writer)

theorem flushCheck_fields (paused : Bool) :
    (flushCheck p paused).1.published = p.published ∧
      (flushCheck p paused).1.unconsumed = p.unconsumed ∧
      (flushCheck p paused).1.writerDone = p.writerDone ∧
      (flushCheck p paused).1.writerFault = p.writerFault ∧
      (flushCheck p paused).1.readerDone = p.readerDone ∧
      (flushCheck p paused).1.readListener = p.readListener ∧
      (flushCheck p paused).1.readCancel = p.readCancel := by
  dsimp only [flushCheck]
  split_ifs <;> exact ⟨rfl, rfl, rfl, rfl, rfl, rfl, rfl⟩

/-- While the reader is open, publishing moves every staged byte behind the published ones,
drops the reservation, and leaves the completion flags alone. -/
theorem publish_of_open (open_ : p.readerDone = false) :
    (publish p w).2.1 = { w with reserved := none, staged := [] } ∧
      (publish p w).2.2 = false ∧
      (publish p w).1.published = p.published ++ w.staged ∧
      (publish p w).1.readerDone = false ∧
      (publish p w).1.writerDone = p.writerDone ∧
      (publish p w).1.writerFault = p.writerFault := by
  unfold publish
  simp only [open_, Bool.false_eq_true, if_false]
  by_cases empty : w.staged.isEmpty
  · have none : w.staged = [] := List.isEmpty_iff.mp empty
    simp [none, open_]
  · simp [empty]

theorem getMemory_staged (hint : Nat) (fill : Bytes) :
    (getMemory p w hint fill).1.staged = w.staged ∧
      (getMemory p w hint fill).1.completed = w.completed :=
  ⟨rfl, rfl⟩

/-- The bytes an advance of `n` commits: the first `n` bytes of the reserved region, when there
is one and `n` is within it. -/
def advanced (w : Writer) (n : Nat) : Bytes :=
  match w.reserved with
  | some r => if n ≤ r.size then r.front n else []
  | none => []

theorem advance_staged (n : Nat) :
    (advance w n).1.staged = w.staged ++ w.advanced n ∧
      (advance w n).1.completed = w.completed := by
  unfold advance advanced
  cases w.reserved with
  | none => simp
  | some r =>
    by_cases within : n ≤ r.size
    · simp [Nat.not_lt.mpr within, within]
    · simp [within, Nat.lt_of_not_le within]

theorem write_staged (data : Bytes) :
    (write w data).1.staged = w.staged ++ (if w.completed then [] else data) ∧
      (write w data).1.completed = w.completed := by
  unfold write
  cases done : w.completed <;> simp [done]

/-- A flush of a writer that has not completed, while the reader is open: it publishes, and
then the backpressure test decides whether it is done. -/
theorem flush_spec (open_ : p.readerDone = false) (live : w.completed = false) :
    (flush p w).2.1 = { w with reserved := none, staged := [] } ∧
      (flush p w).1.published = p.published ++ w.staged ∧
      (flush p w).1.readerDone = false ∧
      (flush p w).1.writerDone = p.writerDone ∧
      (flush p w).1.writerFault = p.writerFault := by
  obtain ⟨hw, hgone, hpub, hdone, hwd, hwf⟩ := publish_of_open p w open_
  obtain ⟨cpub, -, cwd, cwf, cdone, -, -⟩ := flushCheck_fields (publish p w).1 false
  -- nothing was dropped, so the flush is the publication followed by the backpressure test
  have writer : (flush p w).2.1 = (publish p w).2.1 := by simp [flush, live, hgone]
  have pipe : (flush p w).1 = (flushCheck (publish p w).1 false).1 := by
    simp [flush, live, hgone]
  rw [writer, pipe]
  exact ⟨hw, cpub.trans hpub, cdone.trans hdone, cwd.trans hwd, cwf.trans hwf⟩

theorem flush_of_completed (done : w.completed = true) :
    flush p w = (p, w, .ready (.error writerCompletedFault), ⟨false⟩) := by
  simp [flush, done]

theorem pollFlush_fields (fw : FlushWait) :
    (pollFlush p fw).1.published = p.published ∧
      (pollFlush p fw).1.unconsumed = p.unconsumed ∧
      (pollFlush p fw).1.writerDone = p.writerDone ∧
      (pollFlush p fw).1.writerFault = p.writerFault ∧
      (pollFlush p fw).1.readerDone = p.readerDone ∧
      (pollFlush p fw).1.readListener = p.readListener ∧
      (pollFlush p fw).1.readCancel = p.readCancel := by
  unfold pollFlush
  split
  · exact flushCheck_fields p fw.paused
  · exact ⟨rfl, rfl, rfl, rfl, rfl, rfl, rfl⟩

/-- Completing a writer that has not completed, while the reader is open: it publishes its
staged bytes and marks the pipe's writer done, with the fault. -/
theorem complete_of_open (open_ : p.readerDone = false) (live : w.completed = false)
    (fault : Option Fault) :
    (complete p w fault).2 = { w with reserved := none, staged := [], completed := true } ∧
      (complete p w fault).1.published = p.published ++ w.staged ∧
      (complete p w fault).1.readerDone = false ∧
      (complete p w fault).1.writerDone = true ∧
      (complete p w fault).1.writerFault = fault := by
  obtain ⟨hw, -, hpub, hdone, -, -⟩ := publish_of_open p w open_
  have writer : (complete p w fault).2 = { (publish p w).2.1 with completed := true } := by
    simp [complete, live]
  have pipe : (complete p w fault).1 =
      Pipe.notifyRead { (publish p w).1 with writerDone := true, writerFault := fault } := by
    simp [complete, live]
  rw [writer, pipe, hw]
  exact ⟨rfl, by simpa using hpub, by simpa using hdone, by simp, by simp⟩

theorem complete_of_completed (done : w.completed = true) (fault : Option Fault) :
    complete p w fault = (p, w) := by
  simp [complete, done]

end Writer

namespace Reader

variable (p : Pipe) (r : Reader)

/-- The read test: a writer fault fails the read and moves nothing; otherwise the published
bytes move behind the buffered ones, and the read ends exactly when it was interrupted, the
writer completed, or some buffered byte has not been examined. -/
theorem readCheck_spec :
    (∃ e, p.writerFault = some e ∧ (readCheck p r).2.1 = r ∧
        (readCheck p r).1 = { p with readListener := .absent } ∧
        (readCheck p r).2.2 = .ready (.error e)) ∨
      (p.writerFault = none ∧
        (readCheck p r).2.1 = { r with buffered := r.buffered ++ p.published } ∧
        (readCheck p r).1.published = [] ∧
        (readCheck p r).1.readCancel = false ∧
        (readCheck p r).1.readerDone = p.readerDone ∧
        (readCheck p r).1.writerDone = p.writerDone ∧
        (readCheck p r).1.writerFault = none ∧
        (readCheck p r).1.unconsumed = p.unconsumed ∧
        (readCheck p r).1.flushListener = p.flushListener ∧
        (((p.readCancel || p.writerDone || r.examined < (r.buffered ++ p.published).length) ∧
            (readCheck p r).1.readListener = .absent ∧
            (readCheck p r).2.2 = .ready (.ok
              { buffer := r.buffered ++ p.published, isCompleted := p.writerDone,
                isCanceled := p.readCancel })) ∨
          ((p.readCancel || p.writerDone || r.examined < (r.buffered ++ p.published).length) =
              false ∧
            (readCheck p r).1.readListener = .parked ∧
            (readCheck p r).2.2 = .pending))) := by
  cases fault : p.writerFault with
  | some e => exact .inl ⟨e, rfl, by simp [readCheck, fault], by simp [readCheck, fault],
      by simp [readCheck, fault]⟩
  | none =>
    -- no fault: the bytes move whatever happens, and the test decides between ending and parking
    refine .inr ⟨rfl, ?_⟩
    dsimp only [readCheck]
    rw [fault]
    dsimp only
    split_ifs with ends
    · refine ⟨rfl, rfl, rfl, rfl, rfl, rfl, rfl, rfl, .inl ⟨?_, rfl, rfl⟩⟩
      simpa [Nat.add_comm] using ends
    · refine ⟨rfl, rfl, rfl, rfl, rfl, rfl, rfl, rfl, .inr ⟨?_, rfl, rfl⟩⟩
      simpa [Nat.add_comm] using ends

/-- A read test that ended well offers the whole buffer with the published bytes behind it;
unless it was interrupted or the writer completed, that buffer has a byte the reader has not
examined. -/
theorem readCheck_ready_ok {rr : ReadResult} (h : (readCheck p r).2.2 = .ready (.ok rr)) :
    rr.buffer = r.buffered ++ p.published ∧ rr.isCompleted = p.writerDone ∧
      rr.isCanceled = p.readCancel ∧
      (rr.isCompleted = false → rr.isCanceled = false → r.examined < rr.buffer.length) := by
  rcases readCheck_spec p r with ⟨e, -, -, -, failed⟩ | ⟨-, -, -, -, -, -, -, -, -, ended | parked⟩
  · rw [failed] at h
    cases h
  · obtain ⟨ends, -, offered⟩ := ended
    rw [offered] at h
    simp only [Poll.ready.injEq, Except.ok.injEq] at h
    subst h
    refine ⟨rfl, rfl, rfl, ?_⟩
    intro notDone notCanceled
    simp only at notDone notCanceled
    simpa [notDone, notCanceled] using ends
  · rw [parked.2.2] at h
    cases h

theorem read_of_open (live : r.completed = false) : read p r = readCheck p r := by
  simp [read, live]

/-- A poll of a suspended read runs the read test once it was notified, and does nothing
otherwise. -/
theorem pollRead_cases :
    pollRead p r = readCheck p r ∨ pollRead p r = (p, r, .pending) := by
  unfold pollRead
  split
  · exact .inl rfl
  · exact .inr rfl

/-- An accepted advance drops the consumed prefix of the buffer and touches no published byte
and no completion flag. -/
theorem advanceTo_ok {c e : Nat} (valid : c ≤ e ∧ e ≤ r.buffered.length) :
    (advanceTo p r c e).2.1 = { r with buffered := r.buffered.drop c, examined := e - c } ∧
      (advanceTo p r c e).2.2 = .ok () ∧
      (advanceTo p r c e).1.published = p.published ∧
      (advanceTo p r c e).1.readerDone = p.readerDone ∧
      (advanceTo p r c e).1.writerDone = p.writerDone ∧
      (advanceTo p r c e).1.writerFault = p.writerFault ∧
      (advanceTo p r c e).1.readListener = p.readListener ∧
      (advanceTo p r c e).1.readCancel = p.readCancel := by
  have accepted : ¬ (c > e || e > r.buffered.length) = true := by simp; omega
  unfold advanceTo
  rw [if_neg accepted]
  by_cases some_ : c > 0
  · simp [some_]
  · simp [some_]

theorem advanceTo_error {c e : Nat} (invalid : ¬ (c ≤ e ∧ e ≤ r.buffered.length)) :
    (advanceTo p r c e).1 = p ∧ (advanceTo p r c e).2.1 = r ∧
      (advanceTo p r c e).2.2 = .error (invalidAdvance c e r.buffered.length) := by
  have refused : (c > e || e > r.buffered.length) = true := by simp; omega
  unfold advanceTo
  rw [if_pos refused]
  exact ⟨rfl, rfl, rfl⟩

@[simp] theorem readCheck_completed : (readCheck p r).2.1.completed = r.completed := by
  rcases readCheck_spec p r with ⟨e, -, same, -, -⟩ | ⟨-, moved, -⟩
  · rw [same]
  · rw [moved]

@[simp] theorem read_completed : (read p r).2.1.completed = r.completed := by
  unfold read
  split <;> simp

@[simp] theorem pollRead_completed : (pollRead p r).2.1.completed = r.completed := by
  rcases pollRead_cases p r with same | same
  · rw [same, readCheck_completed]
  · rw [same]

@[simp] theorem advanceTo_completed (c e : Nat) :
    (advanceTo p r c e).2.1.completed = r.completed := by
  unfold advanceTo
  split_ifs <;> rfl

theorem complete_completed : (complete p r).2.completed = true := by
  unfold complete
  split <;> simp_all

end Reader

end Sluice
