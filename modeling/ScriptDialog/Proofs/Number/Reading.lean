import ScriptDialog.Number.Decimal
import ScriptDialog.Number.Reading
import ScriptDialog.Proofs.Number.Digits

/-! Numbers at the start of a text. A written integer begins with its sign and its digits, and the
start of a printable text is read without a fault. -/
namespace ScriptDialog

theorem Blank.isBlank_visible {c : Char} (above : 0x20 < c.toNat) (below : c.toNat ≤ 0x7F) :
    Blank.isBlank c = false := by
  simp [Blank.isBlank, Ranges.contains, Blank.ranges]
  omega

namespace Numeral

/-- A minus, if there is one. -/
def minus (negative : Bool) : List Char := if negative then ['-'] else []

theorem dropBlanks {c : Char} (above : 0x20 < c.toNat) (below : c.toNat ≤ 0x7F)
    (rest : List Char) : (c :: rest).dropWhile Blank.isBlank = c :: rest := by
  simp [Blank.isBlank_visible above below]

theorem dropBlanks_minus (negative : Bool) {c : Char} (digit : c.isDigit) (rest : List Char) :
    (minus negative ++ c :: rest).dropWhile Blank.isBlank = minus negative ++ c :: rest := by
  have bounds := Digit.bounds_of_isDigit digit
  cases negative with
  | false => exact dropBlanks (by omega) (by omega) rest
  | true => exact dropBlanks (by decide) (by decide) _

theorem sign_minus (negative : Bool) {c : Char} (digit : c.isDigit) (rest : List Char) :
    sign (minus negative ++ c :: rest) = (negative, c :: rest) := by
  cases negative with
  | true => rfl
  | false =>
    have noMinus : c ≠ '-' := by rintro rfl; exact absurd digit (by decide)
    have noPlus : c ≠ '+' := by rintro rfl; exact absurd digit (by decide)
    simp [minus, sign, noMinus, noPlus]

theorem toString_minus (n : Int) :
    (toString n).toList = minus (n < 0) ++ Nat.toDigits 10 n.natAbs := by
  rw [toList_toString]
  simp [minus]

/-- The part before a tail is no longer than the text. -/
theorem mem_before {c : Char} {text rest : List Char} (member : c ∈ before text rest) : c ∈ text :=
  List.mem_of_mem_take member

/-- Printable text has no separator and no false letter, so its start is read. -/
theorem readStart_printable {text : List Char}
    (printable : ∀ c ∈ text, 0x20 ≤ c.toNat ∧ c.toNat ≤ 0x7F) :
    readStart text = .ok ((((decimal? (text.dropWhile Blank.isBlank)).or
      (named? (text.dropWhile Blank.isBlank))).map Prod.fst).getD .zero) := by
  have taken (rest : List Char) :
      ((before text rest).any isSeparator || (before text rest).any isFalseI) = false := by
    simp only [Bool.or_eq_false_iff, List.any_eq_false, Bool.not_eq_true]
    refine ⟨fun c member => ?_, fun c member => ?_⟩
    · have bounds := printable c (mem_before member)
      simp only [isSeparator, Bool.and_eq_false_iff, decide_eq_false_iff_not]
      omega
    · have bounds := printable c (mem_before member)
      have narrow : c.toNat ≤ 0x7F := bounds.2
      simp only [isFalseI, Bool.or_eq_false_iff, beq_eq_false_iff_ne]
      exact ⟨fun same => by subst same; revert narrow; decide,
        fun same => by subst same; revert narrow; decide⟩
  simp only [readStart]
  cases (decimal? (text.dropWhile Blank.isBlank)).or (named? (text.dropWhile Blank.isBlank)) with
  | none => rfl
  | some found => simp [taken]

end Numeral

end ScriptDialog
