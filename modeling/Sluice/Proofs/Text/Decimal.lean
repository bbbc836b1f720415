import Mathlib
import Sluice.Text.Blank
import Sluice.Text.Decimal
/-!
# The grammar of sizes, and trimming

`readDecimal` is a left-to-right loop with an overflow test at every digit. Here it is matched
against the grammar of an unsigned 64-bit decimal number, stated without the loop: an optional
plus sign, then at least one ASCII digit, and a value, `Nat.ofDigitChars`, that fits in 64
bits. The loop and the grammar agree because the value of a prefix never exceeds the value of
the whole, so the test at each digit fails exactly when the final value is too large.

Trimming is matched against padding: blank characters on both sides of a text that holds no
blank character are exactly what `trimBlank` takes off. With the grammar this gives the round
trip of a number's decimal rendering, padded with any blank characters.

* `Digits`, `DecimalForm` — the grammar.
* `readDecimal_eq_ok_iff` — the parser accepts exactly the grammar.
* `trimBlank_padded` — trimming takes off the padding and nothing else.
* `decimalForm_toString` — the rendering of every number up to `wordMax` is in the grammar.
-/

namespace Sluice.Text

/-- A run of ASCII digits, at least one, whose value fits in 64 bits. -/
def Digits (ds : List Char) (n : Nat) : Prop :=
  ds ≠ [] ∧ (∀ c ∈ ds, c.isDigit) ∧ Nat.ofDigitChars 10 ds 0 = n ∧ n ≤ wordMax

/-- The grammar of a size: digits, or a plus sign and then digits. -/
def DecimalForm (s : String) (n : Nat) : Prop :=
  Digits s.toList n ∨ ∃ ds, s.toList = '+' :: ds ∧ Digits ds n

theorem le_ofDigitChars (cs : List Char) (acc : Nat) : acc ≤ Nat.ofDigitChars 10 cs acc := by
  rw [Nat.ofDigitChars_eq_ofDigitChars_zero]
  have : 1 ≤ 10 ^ cs.length := Nat.one_le_pow _ _ (by decide)
  nlinarith

/-- The digit loop succeeds exactly on digits whose value, read after `acc`, fits. -/
theorem readDigits_eq_ok_iff (cs : List Char) {acc n : Nat} (fits : acc ≤ wordMax) :
    readDigits cs acc = .ok n ↔
      (∀ c ∈ cs, c.isDigit) ∧ Nat.ofDigitChars 10 cs acc = n ∧ n ≤ wordMax := by
  induction cs generalizing acc with
  | nil => simp [readDigits, Nat.ofDigitChars_nil]; omega
  | cons c cs ih =>
    simp only [readDigits, List.mem_cons, forall_eq_or_imp, Nat.ofDigitChars_cons]
    by_cases digit : c.isDigit
    · simp only [digit, if_true, true_and]
      split
      · -- the prefix already passes `wordMax`, and the rest only adds to it
        simp only [reduceCtorEq, false_iff, not_and]
        intro _ read
        have := le_ofDigitChars cs (10 * acc + (c.toNat - '0'.toNat))
        omega
      · rw [ih (by omega), Nat.mul_comm]
    · simp [digit]

theorem readDigits_zero_eq_ok_iff {cs : List Char} (nonempty : cs ≠ []) {n : Nat} :
    readDigits cs 0 = .ok n ↔ Digits cs n := by
  rw [readDigits_eq_ok_iff cs (by decide)]
  simp [Digits, nonempty]

theorem not_digits_plus (ds : List Char) (n : Nat) : ¬ Digits ('+' :: ds) n := by
  simp [Digits]

/-- The parser accepts exactly the grammar of a size, with the grammar's value. -/
theorem readDecimal_eq_ok_iff (s : String) (n : Nat) :
    readDecimal s = .ok n ↔ DecimalForm s n := by
  unfold readDecimal DecimalForm
  split
  · rename_i empty
    simp [empty, Digits]
  · rename_i plus
    simp [plus, Digits]
  · rename_i minus
    simp [minus, Digits]
  · rename_i rest nonempty plus
    simp only [plus, not_digits_plus, false_or, List.cons.injEq, true_and, exists_eq_left']
    exact readDigits_zero_eq_ok_iff nonempty
  · rename_i empty _ _ unsigned
    have : ¬ ∃ ds, s.toList = '+' :: ds ∧ Digits ds n := fun ⟨ds, h, _⟩ => unsigned ds h
    simp only [this, or_false]
    exact readDigits_zero_eq_ok_iff empty

theorem dropWhile_blank_of_none {cs : List Char} (none : ∀ c ∈ cs, ¬ isBlank c) :
    cs.dropWhile isBlank = cs := by
  cases cs with
  | nil => rfl
  | cons c cs => exact List.dropWhile_cons_of_neg (none c (by simp))

/-- Trimming takes off blank padding around a text that has no blank character. -/
theorem trimBlankChars_padded {lead core trail : List Char}
    (leadBlank : ∀ c ∈ lead, isBlank c) (trailBlank : ∀ c ∈ trail, isBlank c)
    (coreSolid : ∀ c ∈ core, ¬ isBlank c) :
    trimBlankChars (lead ++ core ++ trail) = core := by
  unfold trimBlankChars
  rw [List.append_assoc, List.dropWhile_append_of_pos leadBlank]
  cases core with
  | nil =>
    simp [List.dropWhile_eq_nil_iff.mpr trailBlank]
  | cons c cs =>
    have front : (c :: cs ++ trail).dropWhile isBlank = c :: cs ++ trail :=
      List.dropWhile_cons_of_neg (coreSolid c (by simp))
    have back : (c :: cs ++ trail).reverse.dropWhile isBlank = (c :: cs).reverse := by
      rw [List.reverse_append, List.dropWhile_append_of_pos (by simpa using trailBlank),
        dropWhile_blank_of_none fun x mem => coreSolid x (List.mem_reverse.mp mem)]
    rw [front, back, List.reverse_reverse]

theorem trimBlank_padded {lead core trail : String}
    (leadBlank : ∀ c ∈ lead.toList, isBlank c) (trailBlank : ∀ c ∈ trail.toList, isBlank c)
    (coreSolid : ∀ c ∈ core.toList, ¬ isBlank c) :
    trimBlank (lead ++ core ++ trail) = core := by
  rw [trimBlank, String.toList_append, String.toList_append,
    trimBlankChars_padded leadBlank trailBlank coreSolid, String.ofList_toList]

theorem not_isBlank_of_isDigit {c : Char} (digit : c.isDigit) : ¬ isBlank c := by
  have range : 48 ≤ c.toNat ∧ c.toNat ≤ 57 := by
    simp only [Char.isDigit, Bool.and_eq_true, decide_eq_true_eq, ge_iff_le,
      UInt32.le_iff_toNat_le] at digit
    exact digit
  simp only [isBlank]
  generalize c.toNat = n at range ⊢
  simp
  omega

theorem isDigit_of_mem_toString {n : Nat} {c : Char} (mem : c ∈ (toString n).toList) :
    c.isDigit := by
  simp only [Nat.toString_eq_ofList_toDigits, String.toList_ofList] at mem
  exact Nat.isDigit_of_mem_toDigits (by decide) (by decide) mem

/-- Every number up to `wordMax` is in the grammar through its decimal rendering. -/
theorem decimalForm_toString {n : Nat} (fits : n ≤ wordMax) : DecimalForm (toString n) n := by
  refine Or.inl ⟨?_, fun _ => isDigit_of_mem_toString, ?_, fits⟩
  · simp [Nat.toDigits_ne_nil]
  · simp [Nat.ofDigitChars_ten_toDigits]

end Sluice.Text
