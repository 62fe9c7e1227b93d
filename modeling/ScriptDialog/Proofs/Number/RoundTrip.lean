import Mathlib.Data.List.TakeWhile
import ScriptDialog.Proofs.Number.Rounding
import ScriptDialog.Proofs.Number.Spelling

/-! The exact text of a double is read back as the same double. The digits are found by rounding
them again, so what remains is that reading rounds the same quotient, and never takes the short way
to zero or to infinity. -/
namespace ScriptDialog

namespace Magnitude

theorem ten_pos (k : Nat) : 0 < 10 ^ k := Nat.pow_pos (Nat.succ_pos 9)

theorem five_pos (k : Nat) : 0 < 5 ^ k := Nat.pow_pos (Nat.succ_pos 4)

theorem eq_zero {size : Magnitude} (zero : size.units = 0) : size = .zero := by
  obtain ⟨units, onGrid, bounded⟩ := size
  cases (show units = 0 from zero)
  rfl

theorem topShift_eq : topShift = 2045 := by unfold topShift; rfl

/-- The place is a variable here so that no power of it is worked out. -/
theorem one_times_five {k : Nat} (place : 1074 = k) : one * 5 ^ k = 10 ^ k := by
  unfold one
  rw [place]
  exact (mul_pow 2 5 k).symm

/-- A rounded quotient in `10⁻¹⁰⁷⁴` that is not lost lies far above the lower limit of reading. -/
theorem lower_of_nearest {num : Nat} (nonzero : nearest num (5 ^ 1074) ≠ 0) : 10 ^ 743 ≤ num := by
  have half : 5 ^ 1074 ≤ 2 * num := Nat.not_lt.mp fun small => nonzero (nearest_of_lt small)
  have far : 2 * 10 ^ 743 ≤ 5 ^ 1074 := by decide +kernel
  omega

/-- A rounded quotient in `10⁻¹⁰⁷⁴` that is a magnitude lies below the upper limit of reading. -/
theorem upper_of_nearest {num : Nat} {size : Magnitude}
    (found : nearest num (5 ^ 1074) = size.units) : num < 10 ^ 1384 := by
  have above := lt_nearest num (five_pos 1074)
  have far : (2 * Magnitude.bound + 1) * 5 ^ 1074 ≤ 10 ^ 1384 := by
    rw [Magnitude.bound, topShift_eq]
    decide +kernel
  rw [found] at above
  calc num < (2 * size.units + 1) * 5 ^ 1074 := above
    _ ≤ (2 * Magnitude.bound + 1) * 5 ^ 1074 :=
      Nat.mul_le_mul_right _ (by have := size.bounded; omega)
    _ ≤ 10 ^ 1384 := far

end Magnitude

namespace Double

open Magnitude

/-- The number of digits follows from the size of what they denote. -/
theorem length_of_value {num digits up down : Nat} (lower : 10 ^ 743 ≤ num)
    (upper : num < 10 ^ 1384)
    (value : digits * 10 ^ up = num * 10 ^ down) :
    743 + down < (Nat.toDigits 10 digits).length + up ∧
      (Nat.toDigits 10 digits).length + up < 1385 + down := by
  have positive : 0 < num := Nat.lt_of_lt_of_le (ten_pos 743) lower
  have nonzero : 0 < digits := by
    rcases Nat.eq_zero_or_pos digits with zero | pos
    · have := Nat.mul_pos positive (ten_pos down)
      rw [zero, zero_mul] at value
      omega
    · exact pos
  generalize lengthEq : (Nat.toDigits 10 digits).length = length
  have pos : 0 < length := lengthEq ▸ Nat.length_toDigits_pos
  have below : digits < 10 ^ length :=
    (Nat.length_toDigits_le_iff (by decide) pos).mp (Nat.le_of_eq lengthEq)
  have above : 10 ^ (length - 1) ≤ digits := by
    by_cases single : length = 1
    · rw [single]
      exact nonzero
    · have long := mt (Nat.length_toDigits_le_iff (n := digits) (k := length - 1)
        (show 1 < 10 by decide) (by omega)).mpr (by omega)
      omega
  constructor
  · by_contra short
    have strict : digits * 10 ^ up < 10 ^ 743 * 10 ^ down := by
      calc digits * 10 ^ up < 10 ^ length * 10 ^ up :=
        Nat.mul_lt_mul_of_pos_right below (ten_pos up)
        _ = 10 ^ (length + up) := (pow_add ..).symm
        _ ≤ 10 ^ (743 + down) := Nat.pow_le_pow_right (by decide) (by omega)
        _ = 10 ^ 743 * 10 ^ down := pow_add ..
    rw [value] at strict
    exact Nat.not_le.mpr strict (Nat.mul_le_mul_right _ lower)
  · by_contra long
    have wide : 10 ^ 1384 * 10 ^ down ≤ digits * 10 ^ up := by
      calc 10 ^ 1384 * 10 ^ down = 10 ^ (1384 + down) := (pow_add ..).symm
        _ ≤ 10 ^ (length - 1 + up) := Nat.pow_le_pow_right (by decide) (by omega)
        _ = 10 ^ (length - 1) * 10 ^ up := pow_add ..
        _ ≤ digits * 10 ^ up := Nat.mul_le_mul_right _ above
    rw [value] at wide
    exact Nat.not_lt.mpr wide (Nat.mul_lt_mul_of_pos_right upper (ten_pos down))

theorem rounded_of_nearest {num den : Nat} {size : Magnitude}
    (found : nearest num den = size.units) (negative : Bool) :
    rounded negative num den = .finite negative size := by
  simp [rounded, round?_of_nearest found]

/-- Reading `digits · 10 ^ exponent` rounds its quotient in `10⁻¹⁰⁷⁴`. -/
theorem ofDecimal_of_nearest {size : Magnitude} {num digits up down : Nat} {exponent : Int}
    (found : nearest num (5 ^ 1074) = size.units) (nonzero : size.units ≠ 0)
    (value : digits * 10 ^ up = num * 10 ^ down) (place : exponent + 1074 = up - down)
    (negative : Bool) : ofDecimal negative digits exponent = .finite negative size := by
  have lower := lower_of_nearest (found ▸ nonzero)
  obtain ⟨long, short⟩ := length_of_value lower (upper_of_nearest found) value
  have nonzeroDigits : digits ≠ 0 := by
    rintro rfl
    have := Nat.mul_pos (Nat.lt_of_lt_of_le (ten_pos 743) lower) (ten_pos down)
    omega
  have units : Magnitude.one * 5 ^ 1074 = 10 ^ 1074 := one_times_five rfl
  -- the digits and the written place are within the limits, so neither short way is taken
  simp only [ofDecimal, Nat.pow_eq]
  rw [if_neg (by omega), if_neg (by omega)]
  split
  · next positive =>
    apply rounded_of_nearest
    rw [← found]
    apply nearest_congr Nat.one_pos (five_pos _)
    apply Nat.eq_of_mul_eq_mul_right (ten_pos down)
    have exact : exponent.toNat + 1074 + down = up := by omega
    calc digits * 10 ^ exponent.toNat * Magnitude.one * 5 ^ 1074 * 10 ^ down
        = digits * (10 ^ exponent.toNat * (Magnitude.one * 5 ^ 1074) * 10 ^ down) := by
          simp only [mul_assoc]
      _ = digits * 10 ^ up := by rw [units, ← pow_add, ← pow_add, exact]
      _ = num * 1 * 10 ^ down := by rw [value, mul_one]
  · next negative =>
    apply rounded_of_nearest
    rw [← found]
    apply nearest_congr (ten_pos _) (five_pos _)
    apply Nat.eq_of_mul_eq_mul_right (ten_pos down)
    have exact : 1074 + down = up + exponent.natAbs := by omega
    calc digits * Magnitude.one * 5 ^ 1074 * 10 ^ down
        = digits * (Magnitude.one * 5 ^ 1074 * 10 ^ down) := by simp only [mul_assoc]
      _ = digits * 10 ^ up * 10 ^ exponent.natAbs := by
        rw [units, ← pow_add, exact, pow_add, mul_assoc]
      _ = num * 10 ^ exponent.natAbs * 10 ^ down := by rw [value]; ring

end Double

namespace Decimal

open Magnitude Numeral

theorem readsBack_iff {size : Magnitude} {significand dropped k : Nat} (place : 1074 = k) :
    readsBack size significand dropped ↔
      nearest (significand * 10 ^ dropped) (5 ^ k) = size.units := by
  unfold readsBack
  rw [place]
  simp

theorem readsBack_expansion (size : Magnitude) : readsBack size (expansion size) 0 := by
  unfold readsBack expansion
  generalize 1074 = k
  have whole := nearest_scale (five_pos k) size.units 1
  rw [nearest_units, one_mul] at whole
  show (nearest (size.units * 5 ^ k * 1) (5 ^ k) == size.units) = true
  rw [mul_one, whole]
  exact beq_self_eq_true _

attribute [local irreducible] expansion readsBack

theorem neighbour?_fits {fits : Nat → Bool} {below excess step significand : Nat}
    (found : neighbour? fits below excess step = some significand) : fits significand := by
  unfold neighbour? at found
  split at found
  · next first second =>
    split at found <;> cases found
    · exact first
    · exact second
  · next first _ => cases found; exact first
  · next _ second => cases found; exact second
  · cases found

theorem candidate?_readsBack {size : Magnitude} {dropped significand : Nat}
    (found : candidate? size dropped = some significand) : readsBack size significand dropped :=
  @neighbour?_fits (readsBack size · dropped) _ _ _ _ found

theorem shortest_readsBack (size : Magnitude) :
    ∃ significand dropped, shortest size = Form.of significand dropped ∧
      readsBack size significand dropped := by
  simp only [shortest]
  generalize search : List.findSome? _ _ = found
  cases found with
  | none => exact ⟨expansion size, 0, Option.getD_none, readsBack_expansion size⟩
  | some form =>
    obtain ⟨n, _, mapped⟩ := List.exists_of_findSome?_eq_some search
    obtain ⟨significand, candidate, rfl⟩ := Option.map_eq_some_iff.mp mapped
    exact ⟨significand, _, Option.getD_some, candidate?_readsBack candidate⟩

/-- The digits of a form, with the zeros that were left out at their end. -/
theorem form_digits (significand dropped : Nat) :
    ∃ zeros, Nat.toDigits 10 significand =
        (Form.of significand dropped).digits ++ List.replicate zeros '0' ∧
      (Form.of significand dropped).point =
        (Form.of significand dropped).digits.length + zeros + dropped - 1074 := by
  let last := (Nat.toDigits 10 significand).reverse.takeWhile (· = '0')
  have nought : last = List.replicate last.length '0' := by
    apply List.eq_replicate_of_mem
    intro c member
    simpa using List.mem_takeWhile_imp member
  have split : Nat.toDigits 10 significand =
      (Form.of significand dropped).digits ++ List.replicate last.length '0' := by
    rw [← List.reverse_inj, List.reverse_append, List.reverse_replicate, ← nought]
    simp [Form.of, last, List.takeWhile_append_dropWhile]
  refine ⟨last.length, split, ?_⟩
  have length := congrArg List.length split
  rw [List.length_append, List.length_replicate] at length
  rw [show (Form.of significand dropped).point =
    (Nat.toDigits 10 significand).length + dropped - 1074 from rfl, length]
  push_cast
  ring

/-- The shortest digits of a size spell out a number that is rounded to it. -/
theorem spells_shortest (style : Style) {size : Magnitude} (nonzero : size.units ≠ 0)
    (negative : Bool) : ∃ n power, Spells (style.write (shortest size)) n power ∧
      Double.ofDecimal negative n power = .finite negative size := by
  obtain ⟨significand, dropped, form, reads⟩ := shortest_readsBack size
  obtain ⟨zeros, written, point⟩ := form_digits significand dropped
  rw [← form] at written point
  have found := (readsBack_iff rfl).mp reads
  have value : Digit.toNat (shortest size).digits * 10 ^ zeros = significand := by
    rw [← Digit.toNat_append_zeros, ← written, Digit.toNat_toDigits]
  have nonempty : (shortest size).digits ≠ [] := by
    intro empty
    have lower := lower_of_nearest (found ▸ nonzero)
    rw [empty, show Digit.toNat [] = 0 from rfl, zero_mul] at value
    rw [← value, zero_mul] at lower
    exact absurd lower (Nat.not_le.mpr (ten_pos 743))
  have all : ∀ c ∈ (shortest size).digits, c.isDigit := fun c member =>
    Digit.isDigit_toDigits c (written ▸ List.mem_append_left _ member)
  obtain ⟨shift, spelled⟩ := style.spells_write all nonempty
  have same : Digit.toNat (shortest size).digits * 10 ^ shift * 10 ^ (zeros + dropped) =
      significand * 10 ^ dropped * 10 ^ shift := by
    rw [← value]
    ring
  refine ⟨_, _, spelled, Double.ofDecimal_of_nearest found nonzero same ?_ negative⟩
  rw [point]
  push_cast
  omega

/-- The text of a finite double is a sign and a spelling of its size. -/
theorem exactText_finite (negative : Bool) (size : Magnitude) :
    ∃ body n power, exactText (.finite negative size) = minus negative ++ body ∧
      Spells body n power ∧ Double.ofDecimal negative n power = .finite negative size := by
  by_cases zero : size.units = 0
  · have same := eq_zero zero
    have spelled := Spells.pointed ['0'] ['0'] (by simp) (by simp) (by simp) .none
    exact ⟨_, _, _, by simp [exactText, write, zero, minus], spelled,
      by rw [same]; simp [Double.ofDecimal, Digit.toNat, Digit.value?_ascii]⟩
  · obtain ⟨n, power, spelled, read⟩ := spells_shortest ⟨16, true⟩ zero negative
    exact ⟨_, n, power, by simp [exactText, write, zero, minus], spelled, read⟩

/-- The characters of an exact text: those of numbers, and of the words for what is no number. -/
theorem forall_mem_exactText {p : Char → Prop} (marks : Marks p) (x : Double) :
    ∀ c ∈ exactText x, p c := by
  have sign (negative : Bool) : ∀ c ∈ minus negative, p c := by
    cases negative <;> simp [minus, marks.minus]
  obtain ⟨n, a, i, f⟩ := marks.word
  cases x with
  | nan => simp [exactText, write, n, a]
  | infinite negative =>
    rw [show exactText (.infinite negative) = minus negative ++ ['i', 'n', 'f'] from rfl]
    intro c member
    rcases List.mem_append.mp member with inside | inside
    · exact sign negative c inside
    · simp only [List.mem_cons, List.not_mem_nil, or_false] at inside
      rcases inside with rfl | rfl | rfl
      · exact i
      · exact n
      · exact f
  | finite negative size =>
    obtain ⟨body, digits, power, text, spelled, _⟩ := exactText_finite negative size
    rw [text]
    intro c member
    rcases List.mem_append.mp member with inside | inside
    · exact sign negative c inside
    · exact spelled.forall_mem marks c inside

/-- The exact text may stand in a token as it is. -/
theorem exactText_plain (x : Double) : ∀ c ∈ exactText x, Token.Plain c :=
  forall_mem_exactText marks_plain x

/-- The exact text is read back as the same double. -/
theorem readStart_exactText (x : Double) : readStart (exactText x) = .ok x := by
  have printable : ∀ c ∈ exactText x, 0x20 ≤ c.toNat ∧ c.toNat ≤ 0x7F := fun c member =>
    have plain := exactText_plain x c member
    ⟨plain.1, plain.2.1⟩
  rw [readStart_printable printable]
  cases x with
  | nan => rfl
  | infinite negative => cases negative <;> rfl
  | finite negative size =>
    obtain ⟨body, n, power, text, spelled, read⟩ := exactText_finite negative size
    obtain ⟨c, rest, rfl, digit⟩ := spelled.head
    rw [text, dropBlanks_minus negative digit, spelled.read negative, read]
    rfl

end Decimal

end ScriptDialog
