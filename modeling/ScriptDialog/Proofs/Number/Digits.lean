import Mathlib.Data.List.Basic
import Mathlib.Data.List.TakeDrop
import Mathlib.Tactic.Ring
import ScriptDialog.Number.Numeral

/-! The digits that numbers are written with are read as the number, and a run of them ends where
the next character is no digit of any script. -/
namespace ScriptDialog

namespace Digit

theorem bounds_of_isDigit {c : Char} (digit : c.isDigit) : 0x30 ≤ c.toNat ∧ c.toNat ≤ 0x39 := by
  simpa [Char.isDigit, UInt32.le_iff_toNat_le] using digit

theorem value?_ascii {c : Char} (digit : c.isDigit) : value? c = some (c.toNat - 0x30) := by
  have bounds := bounds_of_isDigit digit
  simp [value?, zeros, bounds.1, show c.toNat < 58 by omega]

theorem isDigit_ascii {c : Char} (digit : c.isDigit) : isDigit c := by
  simp [isDigit, value?_ascii digit]

theorem toNat_append (a b : List Char) : toNat (a ++ b) = toNat a * 10 ^ b.length + toNat b := by
  -- the fold over the second run begins where the first one ended
  have shifted (start : Nat) : b.foldl (fun n c => n * 10 + (value? c).getD 0) start =
      start * 10 ^ b.length + toNat b := by
    unfold toNat
    induction b generalizing start with
    | nil => simp
    | cons c b ih =>
      simp only [List.foldl_cons, List.length_cons, zero_mul, zero_add]
      rw [ih, ih ((value? c).getD 0)]
      ring
  rw [toNat, List.foldl_append]
  exact shifted _

theorem toNat_ascii {run : List Char} (all : ∀ c ∈ run, c.isDigit) :
    toNat run = Nat.ofDigitChars 10 run 0 := by
  rw [toNat, Nat.ofDigitChars_eq_foldl]
  refine List.foldl_ext _ _ _ fun n c member => ?_
  rw [value?_ascii (all c member), mul_comm]
  rfl

theorem isDigit_toDigits {n : Nat} : ∀ c ∈ Nat.toDigits 10 n, c.isDigit :=
  fun _ member => Nat.isDigit_of_mem_toDigits (by decide) (by decide) member

@[simp] theorem toNat_toDigits (n : Nat) : toNat (Nat.toDigits 10 n) = n := by
  rw [toNat_ascii isDigit_toDigits, Nat.ofDigitChars_ten_toDigits]

theorem zeros_isDigit {count : Nat} : ∀ c ∈ List.replicate count '0', c.isDigit :=
  fun _ member => List.eq_of_mem_replicate member ▸ rfl

@[simp] theorem toNat_zeros (count : Nat) : toNat (List.replicate count '0') = 0 := by
  rw [toNat_ascii zeros_isDigit, Nat.ofDigitChars_replicate_zero, mul_zero]

theorem toNat_zeros_append (count : Nat) (run : List Char) :
    toNat (List.replicate count '0' ++ run) = toNat run := by
  simp [toNat_append]

theorem toNat_append_zeros (run : List Char) (count : Nat) :
    toNat (run ++ List.replicate count '0') = toNat run * 10 ^ count := by
  simp [toNat_append]

/-- No number but zero is written with a zero in front. -/
theorem toDigits_head {n : Nat} (nonzero : n ≠ 0) :
    ∃ first rest, Nat.toDigits 10 n = first :: rest ∧ first ≠ '0' := by
  induction n using Nat.strongRecOn with
  | ind n ih =>
    rw [Nat.toDigits_eq_if (by decide)]
    split
    · exact ⟨_, _, rfl, by simpa using nonzero⟩
    · obtain ⟨first, rest, written, differs⟩ := ih (n / 10) (by omega) (by omega)
      exact ⟨first, rest ++ [Nat.digitChar (n % 10)], by rw [written]; rfl, differs⟩

end Digit

namespace Numeral

/-- Where no run of digits can go on. -/
def Stops (rest : List Char) : Prop := ∀ c ∈ rest.head?, Digit.isDigit c = false

theorem stops_nil : Stops [] := by simp [Stops]

theorem stops_cons {c : Char} (other : Digit.isDigit c = false) (rest : List Char) :
    Stops (c :: rest) := by
  simpa [Stops] using other

theorem digits_eq (text : List Char) :
    digits text = (text.takeWhile Digit.isDigit, text.dropWhile Digit.isDigit) :=
  List.span_eq_takeWhile_dropWhile ..

theorem digits_run {run rest : List Char} (all : ∀ c ∈ run, Digit.isDigit c) (stop : Stops rest) :
    digits (run ++ rest) = (run, rest) := by
  rw [digits_eq, List.takeWhile_append_of_pos all, List.dropWhile_append_of_pos all]
  cases rest with
  | nil => simp
  | cons c rest => simp [stop c rfl]

/-- A number as it is written: the sign of a negative one, and its digits. -/
theorem toList_toString (n : Int) :
    (toString n).toList = (if n < 0 then ['-'] else []) ++ Nat.toDigits 10 n.natAbs := by
  cases n with
  | ofNat m => simp [toString, Int.repr]
  | negSucc m => simp [toString, Int.repr, Int.negSucc_lt_zero]

end Numeral

end ScriptDialog
