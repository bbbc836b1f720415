import Mathlib
import Sluice.Proofs.Semaphore.Handles
/-!
# Where the units of a semaphore go

A semaphore made with `initial` units should neither create nor lose one. At every moment a
unit is free (in a non-negative count), owed to a queued waiter, granted to a ticket whose
handle has not collected it, held by a handle that a wait settled at once, or delivered to a
caller by a poll; and units come in only by releases. So

  `count + queued + (holding + delivered) = initial + released`,

where `holding` counts the handles that hold a unit for their caller: settled at once with
success and not yet polled, or queued with their ticket granted.

One path loses a unit. A handle settled at once holds its unit outside the semaphore, and
dropping it (or replacing it by a new wait under its name) before a poll hands the unit over
does not give it back. The law holds once those discarded units are added on the left, and so
it holds as stated exactly when no such handle is discarded. It needs the callers' side of the
bargain: no more units released than were delivered, and no reset, which sets new counts.

* `Wait.hasUnit`, `Wait.holds`, `Poll.delivers`, `Semaphore.stock`.
* The stock laws of the moves: `stock_acquire`, `stock_withdraw`, `stock_collect`,
  `stock_release`, `stock_purge`, `Wait.drop_stock`, `Wait.poll_stock`.
-/

namespace Sluice

/-- The handle holds a unit that a wait settled at once and that no poll has handed over. -/
def Wait.hasUnit : Wait → Bool
  | .ready (some (.ok ())) => true
  | _ => false

/-- The handle holds a unit for its caller: one settled at once, or one granted to its queued
ticket and not yet collected. -/
def Wait.holds (s : Semaphore) : Wait → Bool
  | .queued t _ => s.isGranted t
  | w => w.hasUnit

def Poll.delivers : Poll (Except Fault Unit) → Bool
  | .ready (.ok ()) => true
  | _ => false

namespace Semaphore

/-- The units a semaphore accounts for: the count (below zero while waiters are owed), one per
queued waiter and one per granted ticket not yet collected. -/
def stock (s : Semaphore) : Int :=
  s.count.toInt + s.queue.length + s.granted.length

variable {cs : Cancellations} {s : Semaphore}

/-- A wait takes one unit out of the stock exactly when it is settled at once with success;
the limit and the grants stay, and the count does not rise. -/
theorem stock_acquire {token : Option Token}
    (room : cs.hits token = false → -2 ^ 63 < s.count.toInt) :
    (s.acquire cs token).1.stock + (Wait.ofAdmission token (s.acquire cs token).2).hasUnit.toNat =
        s.stock ∧
      (s.acquire cs token).1.limit = s.limit ∧ (s.acquire cs token).1.granted = s.granted ∧
      (s.acquire cs token).1.count.toInt ≤ s.count.toInt := by
  unfold Semaphore.acquire
  by_cases hit : cs.hits token
  · simp [hit, Wait.ofAdmission, Wait.hasUnit]
  have lowered : (s.count - 1).toInt = s.count.toInt - 1 :=
    toInt_sub_one_exact (room (Bool.eq_false_iff.mpr hit))
  by_cases fast : 0 ≤ s.count - 1
  · -- a free unit goes to the new handle
    simp only [hit, Bool.false_eq_true, if_false, ge_iff_le, fast, if_true]
    simp only [stock, Wait.ofAdmission, Wait.hasUnit, lowered, Bool.toNat_true, true_and]
    omega
  · -- the new waiter is queued and owed the unit
    simp only [hit, Bool.false_eq_true, if_false, ge_iff_le, fast]
    simp only [stock, Wait.ofAdmission, Wait.hasUnit, lowered, List.length_append,
      List.length_singleton, Bool.toNat_false, true_and]
    push_cast
    omega

theorem stock_withdraw {t : Nat} (h : s.WellFormed) (queued : s.isQueued t = true) :
    (s.withdraw t).stock = s.stock := by
  rcases withdraw_spec h queued with ⟨shorter, raised⟩
  have granted : (s.withdraw t).granted = s.granted := rfl
  unfold stock
  rw [raised, granted]
  omega

theorem stock_collect {t : Nat} (granted : t ∈ s.granted) : (s.collect t).stock + 1 = s.stock := by
  have shorter : (s.granted.erase t).length = s.granted.length - 1 :=
    List.length_erase_of_mem granted
  have held := List.length_pos_of_mem granted
  simp only [stock, collect, shorter]
  omega

theorem stock_release {s' : Semaphore} {n : Nat} (h : s.WellFormed)
    (ok : s.releaseUnits cs n = .ok s') (small : n ≤ int64Max)
    (fits : s.count.toInt + n ≤ int64Max) : s'.stock = s.stock + n ∧ s'.limit = s.limit := by
  rcases release_spec h ok small fits with ⟨taken, split, -, -, count, granted, limit, -⟩
  -- each waiter served leaves the queue for the grants or, when cancelled, for the count
  have parts := length_eq_live_add_hits cs taken
  have whole : s.queue.length = taken.length + s'.queue.length := by
    rw [split, List.length_append]
  refine ⟨?_, limit⟩
  simp only [stock, count, granted, List.length_append, List.length_map]
  push_cast
  omega

theorem stock_purge (h : s.WellFormed) : (s.purge cs).stock = s.stock := by
  rcases purge_spec h cs with ⟨shorter, raised⟩
  have granted : (s.purge cs).granted = s.granted := rfl
  unfold stock
  rw [raised, granted]
  omega

end Semaphore

open Semaphore in
/-- Dropping a handle keeps the stock: a queued ticket gives its unit back to the count, and a
granted unit goes back through the one-unit release, which passes while the count and the
grants stay within the limit. A handle settled at once takes its unit away with it. -/
theorem Wait.drop_stock (cs : Cancellations) {s : Semaphore} {w : Wait} (h : s.WellFormed)
    (fits : w.DropFits s) (room : s.count.toInt + s.granted.length ≤ s.limit.toInt) :
    (w.drop cs s).stock = s.stock ∧ (w.drop cs s).limit = s.limit := by
  cases w with
  | ready r => exact ⟨rfl, rfl⟩
  | queued t token =>
    simp only [Wait.drop]
    by_cases queued : s.isQueued t
    · simp only [queued, if_true]
      exact ⟨stock_withdraw h queued, rfl⟩
    by_cases granted : s.isGranted t
    · have ht : t ∈ s.granted := isGranted_iff.mp granted
      have held := List.length_pos_of_mem ht
      have fitsBack : s.count.toInt + 1 ≤ int64Max := fits (Bool.eq_false_iff.mpr queued) granted
      have least := Int64.le_toInt s.count
      -- the count is at least one below the limit, so the hand-back passes
      have passes : ¬ s.limit < s.count + Int64.ofNat 1 := by
        unfold int64Max at fitsBack
        rw [Int64.lt_iff_toInt_lt, toInt_add_ofNat_exact (by omega) (by omega)]
        omega
      simp only [queued, granted, Bool.false_eq_true, if_false, if_true]
      cases back : (s.collect t).releaseUnits cs 1 with
      | error f => exact absurd (releaseUnits_error back) passes
      | ok s' =>
        rcases stock_release (h.collect t) back (by unfold int64Max; omega) fitsBack with
          ⟨restored, limit⟩
        have collected := stock_collect ht
        dsimp only
        exact ⟨by omega, limit⟩
    · simp only [queued, granted, Bool.false_eq_true, if_false]
      simp

open Semaphore in
/-- A poll moves a unit from the handle or the grants to its caller, or withdraws a cancelled
waiter, whose unit goes back to the count. -/
theorem Wait.poll_stock (cs : Cancellations) {s : Semaphore} (w : Wait) (h : s.WellFormed) :
    (w.poll cs s).2.2.stock + (w.poll cs s).2.1.hasUnit.toNat + (w.poll cs s).1.delivers.toNat =
        s.stock + w.hasUnit.toNat ∧
      (w.poll cs s).2.2.limit = s.limit := by
  cases w with
  | ready r =>
    rcases r with _ | _ | ⟨⟨⟩⟩ <;>
      simp [Wait.poll, Wait.hasUnit, Poll.delivers]
  | queued t token =>
    -- the poll withdraws a queued ticket whose token fired, collects a grant, or changes nothing
    have withdrawn (queued : s.isQueued t = true) :
        (s.withdraw t).stock = s.stock ∧ (s.withdraw t).limit = s.limit :=
      ⟨stock_withdraw h queued, rfl⟩
    have collected (granted : s.isGranted t = true) :
        (s.collect t).stock + 1 = s.stock ∧ (s.collect t).limit = s.limit :=
      ⟨stock_collect (isGranted_iff.mp granted), rfl⟩
    simp only [Wait.poll]
    by_cases hit : cs.hits token
    · by_cases queued : s.isQueued t
      · simpa [hit, queued, Wait.hasUnit, Poll.delivers] using withdrawn queued
      · by_cases granted : s.isGranted t
        · simpa [hit, queued, granted, Wait.hasUnit, Poll.delivers] using collected granted
        · simp [hit, queued, granted, Wait.hasUnit, Poll.delivers]
    · by_cases granted : s.isGranted t
      · simpa [hit, granted, Wait.hasUnit, Poll.delivers] using collected granted
      · by_cases queued : s.isQueued t <;> simp [hit, queued, granted, Wait.hasUnit, Poll.delivers]

namespace Semaphore

theorem countP_holds_split (s : Semaphore) (hs : List Wait) :
    hs.countP (Wait.holds s) =
      hs.countP Wait.hasUnit + (hs.filterMap Wait.ticket?).countP s.isGranted := by
  induction hs with
  | nil => simp
  | cons w rest ih =>
    cases w with
    | ready r =>
      have settled : Wait.holds s (.ready r) = (Wait.ready r).hasUnit := rfl
      simp only [List.countP_cons, settled, Wait.ticket?, List.filterMap_cons, ih]
      omega
    | queued t token =>
      simp only [List.countP_cons, Wait.holds, Wait.hasUnit, Wait.ticket?, List.filterMap_cons, ih]
      simp
      omega

/-- Under `Tracks`, every granted ticket is held by exactly one handle. -/
theorem Tracks.countP_holds {cs : Cancellations} {s : Semaphore} {hs : List Wait}
    (h : Tracks cs s hs) (nodup : s.granted.Nodup) :
    hs.countP (Wait.holds s) = hs.countP Wait.hasUnit + s.granted.length := by
  rw [countP_holds_split]
  congr 1
  rw [List.countP_eq_length_filter]
  apply List.Perm.length_eq
  rw [List.perm_ext_iff_of_nodup (h.tickets_nodup.filter _) nodup]
  intro t
  simp only [List.mem_filter, isGranted_iff, and_iff_right_iff_imp]
  intro granted
  rcases h.granted_held t granted with ⟨token, mem⟩
  exact List.mem_filterMap.mpr ⟨_, mem, rfl⟩

namespace Session

def holding (s : Session) : Nat :=
  s.handles.countP (Wait.holds s.sem)

/-- The units a command released: those of a release or a try-release that passed. -/
def released (s : Session) : Command → Nat
  | .release n => match (s.step (.release n)).2 with
    | .done _ => n
    | _ => 0
  | .tryRelease n => match (s.step (.tryRelease n)).2 with
    | .done (.flag true) => n
    | _ => 0
  | _ => 0

def delivered (s : Session) : Command → Nat
  | .poll id => match (s.step (.poll id)).2 with
    | .done _ => 1
    | _ => 0
  | _ => 0

/-- The unit a handle takes away when it goes: one if a wait settled it at once and no poll
has handed the unit over. -/
def unitAt (s : Session) (id : String) : Nat :=
  match s.waits.find? id with
  | some w => w.hasUnit.toNat
  | none => 0

/-- The units a command threw away with the handle it dropped or replaced by a new wait. -/
def discarded (s : Session) : Command → Nat
  | .wait id _ => s.unitAt id
  | .drop id => s.unitAt id
  | _ => 0

/-- The sum of a quantity over the commands of a run, each taken in the session it starts
from. -/
def total (f : Session → Command → Nat) : Session → List Command → Nat
  | _, [] => 0
  | s, c :: cmds => f s c + total f (s.step c).1 cmds

theorem total_append (f : Session → Command → Nat) (s : Session) (cmds more : List Command) :
    total f s (cmds ++ more) = total f s cmds + total f (s.run cmds) more := by
  induction cmds generalizing s with
  | nil => simp [total, run]
  | cons c rest ih => simp [total, run, ih, Nat.add_assoc]

/-- The ledger of one command other than a reset: the stock and the units held by handles
settled at once change only by what the command released, delivered or discarded, and the
limit stays. The count and the grants must be within the limit, for a hand-back to pass. -/
theorem step_ledger {s : Session} {c : Command} (h : s.Coherent) (fits : s.Fits c)
    (keeps : ∀ i m, c ≠ .tryReset i m)
    (room : s.sem.count.toInt + s.sem.granted.length ≤ s.sem.limit.toInt) :
    (s.step c).1.sem.stock + (s.step c).1.handles.countP Wait.hasUnit + s.delivered c +
        s.discarded c = s.sem.stock + s.handles.countP Wait.hasUnit + s.released c ∧
      (s.step c).1.sem.limit = s.sem.limit := by
  cases c with
  | wait id token =>
    -- the new handle is made first, then the old one of that name is dropped
    rcases stock_acquire fits.1 with ⟨taken, limit, granted, lower⟩
    have wf := (acquire_moves fits.1).wellFormed h.wellFormed
    cases found : s.waits.find? id with
    | none =>
      have counted := Registry.countP_values_put_none (p := Wait.hasUnit)
        (a := Wait.ofAdmission token (s.sem.acquire s.cancellations token).2) found
      simp only [Session.step, found, handles, delivered, discarded, unitAt, released]
      exact ⟨by omega, limit⟩
    | some old =>
      have counted := Registry.countP_values_put (p := Wait.hasUnit)
        (a := Wait.ofAdmission token (s.sem.acquire s.cancellations token).2) found
      rcases Wait.drop_stock s.cancellations wf (fits.2 old found)
        (by rw [limit, granted]; omega) with ⟨dropped, limit'⟩
      simp only [Session.step, found, handles, delivered, discarded, unitAt, released]
      exact ⟨by omega, limit'.trans limit⟩
  | poll id =>
    cases found : s.waits.find? id with
    | none => simp [Session.step, found, delivered, discarded, released, unknownWait]
    | some w =>
      have counted := Registry.countP_values_put (p := Wait.hasUnit)
        (a := (w.poll s.cancellations s.sem).2.1) found
      rcases Wait.poll_stock s.cancellations w h.wellFormed with ⟨law, limit⟩
      -- the poll answers success exactly when it hands a unit over
      have told : s.delivered (.poll id) = (w.poll s.cancellations s.sem).1.delivers.toNat := by
        simp only [delivered, step_poll_of_find? found]
        rcases (w.poll s.cancellations s.sem).1 with _ | _ | ⟨⟨⟩⟩ <;> rfl
      rw [told, step_poll_of_find? found]
      simp only [handles, discarded, released]
      exact ⟨by omega, limit⟩
  | isReady id =>
    cases found : s.waits.find? id <;>
      simp [Session.step, found, delivered, discarded, released]
  | drop id =>
    cases found : s.waits.find? id with
    | none => simp [Session.step, found, delivered, discarded, unitAt, released]
    | some w =>
      have counted := Registry.countP_values_remove (p := Wait.hasUnit) h.distinct found
      rcases Wait.drop_stock s.cancellations h.wellFormed (fits w found) room with
        ⟨dropped, limit⟩
      simp only [Session.step, found, handles, delivered, discarded, unitAt, released]
      exact ⟨by omega, limit⟩
  | release n =>
    rcases step_release_cases s n with ⟨f, failed⟩ | ⟨s', checked, ok, passed⟩
    · simp [delivered, discarded, released, failed]
    · rcases stock_release h.wellFormed ok (checkRelease_ok checked).2 (fits checked) with
        ⟨law, limit⟩
      simp only [delivered, discarded, released, passed, handles]
      exact ⟨by omega, limit⟩
  | tryRelease n =>
    rcases step_tryRelease_cases s n with ⟨f, same⟩ | same | ⟨s', checked, ok, passed⟩
    · simp [delivered, discarded, released, same]
    · simp [delivered, discarded, released, same]
    · rcases stock_release h.wellFormed ok (checkRelease_ok checked).2 (fits checked) with
        ⟨law, limit⟩
      simp only [delivered, discarded, released, passed, handles]
      exact ⟨by omega, limit⟩
  | tryReset initial limit => exact absurd rfl (keeps initial limit)
  | count =>
    simp only [Session.step, liveCount, handles, delivered, discarded, released]
    exact ⟨by rw [stock_purge h.wellFormed]; omega, rfl⟩
  | waiters =>
    simp only [Session.step, liveWaiters, handles, delivered, discarded, released]
    exact ⟨by rw [stock_purge h.wellFormed]; omega, rfl⟩
  | limit => simp [Session.step, delivered, discarded, released]
  | cancel k => simp [Session.step, handles, delivered, discarded, released]

/-- The ledger over a run from a freshly made semaphore with no reset, in which callers never
release more units than were delivered to them: the stock, the units held by handles settled
at once, and the units delivered and discarded add up to the initial units and those released;
and the limit is the one the semaphore was made with. -/
theorem ledger_run {initial limit : Nat} {metered : Bool} {s₀ : Session}
    (made : Session.create initial limit metered = .ok s₀) {cmds : List Command}
    (safe : s₀.Safe cmds) (keeps : ∀ i m, Command.tryReset i m ∉ cmds)
    (honest : ∀ pre, pre <+: cmds → total released s₀ pre ≤ total delivered s₀ pre) :
    (s₀.run cmds).sem.stock + (s₀.run cmds).handles.countP Wait.hasUnit +
        total delivered s₀ cmds + total discarded s₀ cmds = initial + total released s₀ cmds ∧
      (s₀.run cmds).sem.limit.toInt = limit := by
  rcases create_ok made with ⟨i, m, checked, fresh⟩
  rcases checkCounts_ok checked with ⟨hi, hm, le, -, -⟩
  induction cmds using List.reverseRecOn with
  | nil => simp [fresh, run, total, stock, handles, Registry.values, ofCounts, hi, hm]
  | append_singleton cmds c ih =>
    rcases safe_append.mp safe with ⟨safeBefore, fits, -⟩
    have reached : (s₀.run cmds).Reachable := (Reachable.create made).run safeBefore
    rcases ih safeBefore (fun i m mem => keeps i m (List.mem_append_left _ mem))
      (fun pre p => honest pre (p.trans (List.prefix_append _ _))) with ⟨ledger, limitEq⟩
    have owed := honest cmds (List.prefix_append _ _)
    -- callers hold back as many units as they released, so the count and the grants stay
    -- within the initial units, hence within the limit
    have room : (s₀.run cmds).sem.count.toInt + (s₀.run cmds).sem.granted.length ≤
        (s₀.run cmds).sem.limit.toInt := by
      unfold stock at ledger
      omega
    rcases step_ledger reached.coherent fits (fun i m same => keeps i m (by simp [same])) room
      with ⟨law, limitStep⟩
    rw [run_append, total_append, total_append, total_append]
    simp only [run, total, add_zero]
    exact ⟨by omega, by rw [limitStep, limitEq]⟩

end Session

/-- Units are conserved, except those discarded with a handle that a wait settled at once and
that went before any poll handed its unit over. Over every run from a freshly made semaphore
with no reset, in which callers never release more units than were delivered to them and the
count stays in range, the count, the queued waiters, the handles holding a unit and the units
delivered, with the units so discarded, add up to the initial units and those released; and
the law without the discarded units holds exactly when none were discarded. -/
theorem units_balance_with_discarded {initial limit : Nat} {metered : Bool} {s₀ : Session}
    (made : Session.create initial limit metered = .ok s₀) {cmds : List Command}
    (safe : s₀.Safe cmds) (keeps : ∀ i m, Command.tryReset i m ∉ cmds)
    (honest : ∀ pre, pre <+: cmds →
      Session.total Session.released s₀ pre ≤ Session.total Session.delivered s₀ pre) :
    (s₀.run cmds).sem.count.toInt + (s₀.run cmds).sem.queue.length +
          ((s₀.run cmds).holding + Session.total Session.delivered s₀ cmds) +
          Session.total Session.discarded s₀ cmds =
        initial + Session.total Session.released s₀ cmds ∧
      ((s₀.run cmds).sem.count.toInt + (s₀.run cmds).sem.queue.length +
          ((s₀.run cmds).holding + Session.total Session.delivered s₀ cmds) =
        initial + Session.total Session.released s₀ cmds ↔
        Session.total Session.discarded s₀ cmds = 0) := by
  rcases Session.ledger_run made safe keeps honest with ⟨ledger, -⟩
  have coherent := ((Session.Reachable.create made).run safe).coherent
  -- every granted ticket is held by one handle, so the handles hold the grants and the units
  -- settled at once
  have held : (s₀.run cmds).holding =
      (s₀.run cmds).handles.countP Wait.hasUnit + (s₀.run cmds).sem.granted.length :=
    coherent.tracks.countP_holds coherent.wellFormed.granted_nodup
  unfold stock at ledger
  exact ⟨by omega, ⟨fun balanced => by omega, fun none => by omega⟩⟩

/-- A one-unit semaphore whose unit is taken, delivered and released, then taken by a wait
under the name `b` whose handle is replaced by a second wait under that name: the first handle
is discarded with its unit, and the second waiter is queued. -/
theorem units_balance_after_replaced_wait :
    let s₀ : Session := { sem := ofCounts 1 1, metered := false }
    let cmds := [Command.wait "a" none, .poll "a", .release 1, .wait "b" none, .wait "b" none]
    Session.create 1 1 false = .ok s₀ ∧ s₀.Safe cmds ∧ (∀ i m, Command.tryReset i m ∉ cmds) ∧
      (∀ pre, pre <+: cmds →
        Session.total Session.released s₀ pre ≤ Session.total Session.delivered s₀ pre) ∧
      ((s₀.run cmds).sem.count.toInt + (s₀.run cmds).sem.queue.length +
            ((s₀.run cmds).holding + Session.total Session.delivered s₀ cmds) +
            Session.total Session.discarded s₀ cmds =
          1 + Session.total Session.released s₀ cmds ∧
        ((s₀.run cmds).sem.count.toInt + (s₀.run cmds).sem.queue.length +
            ((s₀.run cmds).holding + Session.total Session.delivered s₀ cmds) =
          1 + Session.total Session.released s₀ cmds ↔
          Session.total Session.discarded s₀ cmds = 0)) := by
  intro s₀ cmds
  have made : Session.create 1 1 false = .ok s₀ := rfl
  have safe : s₀.Safe cmds := by
    simp [s₀, cmds, Session.Safe, Session.Fits, Session.step, Registry.find?, Registry.put,
      Registry.putEntry, acquire, ofCounts, Cancellations.hits, Wait.ofAdmission, Wait.DropFits,
      List.lookup, Wait.poll, release, releaseUnits, checkRelease, int64Max, bind, Except.bind]
  have keeps : ∀ i m, Command.tryReset i m ∉ cmds := by simp [cmds]
  have honest : ∀ pre, pre <+: cmds →
      Session.total Session.released s₀ pre ≤ Session.total Session.delivered s₀ pre := by
    intro pre p
    rw [List.prefix_iff_eq_take.mp p]
    rcases pre.length with _ | _ | _ | _ | _ | k
    any_goals decide
    rw [List.take_of_length_le (by simp [cmds])]
    decide
  exact ⟨made, safe, keeps, honest, units_balance_with_discarded made safe keeps honest⟩

/-- On a one-unit semaphore, a wait settled at once and then dropped before any poll loses its
unit: the run meets every condition of the law, yet afterwards nothing is free, queued, held or
delivered, and nothing was released. -/
theorem dropped_ready_wait_loses_unit :
    let s₀ : Session := { sem := ofCounts 1 1, metered := false }
    let cmds := [Command.wait "a" none, .drop "a"]
    Session.create 1 1 false = .ok s₀ ∧ s₀.Safe cmds ∧ (∀ i m, Command.tryReset i m ∉ cmds) ∧
      (∀ pre, pre <+: cmds →
        Session.total Session.released s₀ pre ≤ Session.total Session.delivered s₀ pre) ∧
      (s₀.run cmds).sem.count.toInt + (s₀.run cmds).sem.queue.length +
          ((s₀.run cmds).holding + Session.total Session.delivered s₀ cmds) ≠
        1 + Session.total Session.released s₀ cmds ∧
      Session.total Session.discarded s₀ cmds = 1 := by
  intro s₀ cmds
  refine ⟨rfl, ?_, by simp [cmds], ?_, by decide, by decide⟩
  · simp [s₀, cmds, Session.Safe, Session.Fits, Session.step, Registry.find?, Registry.put,
      Registry.putEntry, acquire, ofCounts, Cancellations.hits, Wait.ofAdmission, Wait.DropFits,
      List.lookup]
  · -- the prefixes of the script are its first `k` commands
    intro pre p
    rw [List.prefix_iff_eq_take.mp p]
    rcases pre.length with _ | _ | k
    · decide
    · decide
    · rw [List.take_of_length_le (by simp [cmds])]
      decide

end Semaphore

end Sluice
