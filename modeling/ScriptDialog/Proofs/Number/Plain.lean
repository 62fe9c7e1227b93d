import ScriptDialog.Number
import ScriptDialog.Proofs.Number.Exact

/-! Whole numbers in plain text. Those of fourteen digits are written out, since cutting leaves
nothing off and the zeros that a form drops are put back in front of the point; from `10 ^ 14` on,
whatever is cut off, an exponent is written. -/
namespace ScriptDialog

namespace Double

variable {n : Int} {m : Nat}

/-- An integer of 53 bits is a double. -/
theorem ofInt?_exact (exact : n.natAbs < 2 ^ 53) : ∃ size : Magnitude,
    size.units = n.natAbs * Magnitude.one ∧ ofInt? n = some (.finite (n < 0) size) := by
  obtain ⟨size, units⟩ := Magnitude.exists_whole exact
  have nearest := Magnitude.nearest_units size
  rw [units] at nearest
  have found := Magnitude.round?_of_nearest (nearest.trans units.symm)
  refine ⟨size, units, ?_⟩
  unfold ofInt?
  rw [found, Option.map_some]

/-- Its digits denote the same double. -/
theorem ofDecimal_exact (minus : Bool) (exact : m < 2 ^ 53) : ∃ size : Magnitude,
    size.units = m * Magnitude.one ∧ ofDecimal minus m 0 = .finite minus size := by
  rcases ofDecimal_whole minus m with same | ⟨rfl, zero⟩ | ⟨large, _⟩
  · obtain ⟨size, units⟩ := Magnitude.exists_whole exact
    have nearest := Magnitude.nearest_units size
    rw [units] at nearest
    exact ⟨size, units, same.trans (rounded_of_nearest (nearest.trans units.symm) minus)⟩
  · exact ⟨.zero, (Nat.zero_mul _).symm, zero⟩
  · omega

/-- A larger integer has a larger double, if it has one. -/
theorem le_units_of_ofInt? {x : Double} (large : 10 ^ 14 ≤ n.natAbs) (found : ofInt? n = some x) :
    ∃ size : Magnitude, x = .finite (n < 0) size ∧ 10 ^ 14 * Magnitude.one ≤ size.units := by
  obtain ⟨size, round, rfl⟩ := Option.map_eq_some_iff.mp found
  refine ⟨size, rfl, ?_⟩
  have nearest := Magnitude.nearest_of_round? round
  by_cases exact : n.natAbs < 2 ^ 53
  · obtain ⟨size', units, found'⟩ := ofInt?_exact exact
    cases Option.some.inj (found.symm.trans found')
    rw [units]
    exact Nat.mul_le_mul_right _ large
  · have wide := Magnitude.le_nearest_whole (Nat.not_lt.mp exact)
    rw [nearest] at wide
    exact Nat.le_trans (Nat.mul_le_mul_right _ (by decide)) wide

/-- A double of as many ones as an integer has is equal to it. -/
theorem eq_signed (minus : Bool) {size : Magnitude} (units : size.units = m * Magnitude.one) :
    (Number.float (.finite minus size)).eq (.int (signed minus m)) := by
  have same : Double.units (.finite minus size) = signed minus m * Magnitude.one := by
    cases minus with
    | false =>
      show (size.units : Int) = m * Magnitude.one
      rw [units, Nat.cast_mul]
    | true =>
      show -(size.units : Int) = -m * Magnitude.one
      rw [units, Nat.cast_mul, Int.neg_mul]
  have compared : Number.compareExact (signed minus m) (.finite minus size) = some .eq := by
    show some (compare _ (Double.units (.finite minus size))) = some .eq
    rw [same, compare_eq_iff_eq.mpr rfl]
  unfold Number.eq Number.compare?
  simp only [Number.whole?, compared]
  rfl

end Double

namespace Decimal

variable {m k : Nat} {size : Magnitude}

theorem toDigits_mul_pow (nonzero : m ≠ 0) (k : Nat) :
    Nat.toDigits 10 (m * 10 ^ k) = Nat.toDigits 10 m ++ List.replicate k '0' := by
  induction k with
  | zero => simp
  | succ k ih =>
    have pos : 0 < m * 10 ^ k := Nat.mul_pos (Nat.pos_of_ne_zero nonzero) (Magnitude.ten_pos k)
    have last := Nat.toDigits_append_toDigits (b := 10) (d := 0) (by decide) pos (by decide)
    have next : 10 * (m * 10 ^ k) + 0 = m * 10 ^ (k + 1) := by ring
    rw [next, ih, List.append_assoc] at last
    rw [← last, List.replicate_succ']
    rfl

/-- Zeros at the end of the significand make no difference. -/
theorem Form.of_mul_pow (nonzero : m ≠ 0) (k dropped : Nat) :
    Form.of (m * 10 ^ k) dropped = Form.of m (dropped + k) := by
  have zeros : ∀ c ∈ List.replicate k '0', decide (c = '0') = true := by
    intro c member
    simp [List.eq_of_mem_replicate member]
  simp only [Form.of, toDigits_mul_pow nonzero, List.reverse_append, List.reverse_replicate,
    List.dropWhile_append_of_pos zeros, List.length_append, List.length_replicate]
  congr 1
  push_cast
  ring

/-- The exact digits of a whole number are its own, with zeros up to the last place. -/
theorem expansion_whole (units : size.units = m * Magnitude.one) :
    expansion size = m * 10 ^ 1074 := by
  -- the place is a variable here so that no power of it is worked out
  obtain ⟨k, place⟩ : ∃ k, 1074 = k := ⟨_, rfl⟩
  unfold expansion
  rw [units, place, Nat.pow_eq, Nat.mul_assoc, Magnitude.one_times_five place]

section Cut

variable {count dropped significand : Nat}
  (left : (Nat.toDigits 10 (expansion size)).length - count = dropped)
include left

/-- Where nothing but zeros is cut off, nothing is rounded. -/
theorem cut_exact (whole : expansion size = significand * 10 ^ dropped) :
    cut count size = Form.of significand dropped := by
  have step := Magnitude.ten_pos dropped
  have below : expansion size / 10 ^ dropped = significand := by
    rw [whole, Nat.mul_div_cancel _ step]
  have excess : 2 * (expansion size % 10 ^ dropped) = 0 := by rw [whole, Nat.mul_mod_left]
  simp only [cut, left, Nat.pow_eq, below, excess, step, true_or, if_true]

theorem cut_cases : cut count size = Form.of (expansion size / 10 ^ dropped) dropped ∨
    cut count size = Form.of (expansion size / 10 ^ dropped + 1) dropped := by
  simp only [cut, left, Nat.pow_eq]
  split
  · exact .inl rfl
  · exact .inr rfl

end Cut

/-- A whole number of few digits is not cut. -/
theorem cut_whole {count : Nat} (units : size.units = m * Magnitude.one) (nonzero : m ≠ 0)
    (few : (Nat.toDigits 10 m).length ≤ count) (near : count ≤ 1074) :
    cut count size = Form.of m 1074 := by
  have expanded := expansion_whole units
  generalize 1074 = k at expanded near ⊢
  have length : (Nat.toDigits 10 (expansion size)).length = (Nat.toDigits 10 m).length + k := by
    rw [expanded, toDigits_mul_pow nonzero, List.length_append, List.length_replicate]
  obtain ⟨more, rfl⟩ := Nat.exists_eq_add_of_le few
  obtain ⟨dropped, rfl⟩ : ∃ dropped, k = dropped + more := ⟨k - more, by omega⟩
  have shifted : expansion size = m * 10 ^ more * 10 ^ dropped := by
    rw [expanded]
    ring
  rw [cut_exact (by omega) shifted, Form.of_mul_pow nonzero]

/-- Positional writing puts the zeros back. -/
theorem write_whole (style : Style) (unpointed : style.pointed = false)
    (few : (Nat.toDigits 10 m).length ≤ style.limit) :
    style.write (Form.of m 1074) = Nat.toDigits 10 m := by
  obtain ⟨zeros, split, point⟩ := form_digits m 1074
  have length := congrArg List.length split
  rw [List.length_append, List.length_replicate] at length
  have pos : 0 < (Nat.toDigits 10 m).length := Nat.length_toDigits_pos
  generalize Form.of m 1074 = form at split point length
  have place : form.point.toNat - form.digits.length = zeros := by omega
  unfold Style.write
  simp only [place, unpointed]
  rw [if_pos (by omega), if_neg (by omega), if_pos (by omega), split]
  simp

theorem plainText_finite (minus : Bool) (nonzero : size.units ≠ 0) :
    plainText (.finite minus size) = Numeral.minus minus ++
      Style.write ⟨14, false⟩ (cut 14 size) := by
  unfold plainText write
  dsimp only
  rw [if_neg nonzero]
  rfl

/-- A whole number of fourteen digits is written out. -/
theorem plainText_whole (minus : Bool) (units : size.units = m * Magnitude.one)
    (few : m < 10 ^ 14) :
    plainText (.finite minus size) = Numeral.minus minus ++ Nat.toDigits 10 m := by
  by_cases zero : m = 0
  · subst zero
    have none : size.units = 0 := units.trans (Nat.zero_mul _)
    simp [plainText, write, none, Numeral.minus]
  · have nonzero : size.units ≠ 0 := by
      rw [units]
      exact Nat.mul_ne_zero zero (Nat.ne_of_gt Magnitude.one_pos)
    have length : (Nat.toDigits 10 m).length ≤ 14 :=
      (Nat.length_toDigits_le_iff (by decide) (by decide)).mpr few
    have limit : ((Nat.toDigits 10 m).length : Int) ≤ 14 := by exact_mod_cast length
    rw [plainText_finite minus nonzero, cut_whole units zero length (by decide),
      write_whole ⟨14, false⟩ rfl limit]

/-- A sign, a digit, perhaps a point and more digits, and an exponent of two digits at least. -/
inductive Scientific (negative : Bool) : List Char → Prop where
  | whole {d : Char} {e : Nat} (digit : d.isDigit) (nonzero : d ≠ '0') (large : 14 ≤ e) :
      Scientific negative (Numeral.minus negative ++ d :: 'e' :: '+' :: Nat.toDigits 10 e)
  | pointed {d : Char} {fraction : List Char} {e : Nat} (digit : d.isDigit) (nonzero : d ≠ '0')
      (nonempty : fraction ≠ []) (digits : ∀ c ∈ fraction, c.isDigit) (large : 14 ≤ e) :
      Scientific negative
        (Numeral.minus negative ++ (d :: '.' :: fraction ++ 'e' :: '+' :: Nat.toDigits 10 e))

theorem exponentText_large {e : Nat} (large : 10 ≤ e) :
    exponentText e = '+' :: Nat.toDigits 10 e := by
  have two : ¬ (Nat.toDigits 10 e).length < 2 := by
    intro short
    have few := (Nat.length_toDigits_le_iff (n := e) (k := 1) (show 1 < 10 by decide)
      (by decide)).mp (by omega)
    omega
  have positive : ¬ (e : Int) < 0 := by omega
  simp only [exponentText, Int.natAbs_natCast, positive, two, if_false]

/-- The digits of a form begin with one that counts. -/
theorem form_head {significand : Nat} (nonzero : significand ≠ 0) (dropped : Nat) :
    ∃ d rest, (Form.of significand dropped).digits = d :: rest ∧ d ≠ '0' ∧
      ∀ c ∈ d :: rest, c.isDigit := by
  obtain ⟨zeros, split, _⟩ := form_digits significand dropped
  obtain ⟨first, tail, written, counts⟩ := Digit.toDigits_head nonzero
  have all : ∀ c ∈ (Form.of significand dropped).digits, c.isDigit := fun c member =>
    Digit.isDigit_toDigits c (split ▸ List.mem_append_left _ member)
  rw [written] at split
  cases digits : (Form.of significand dropped).digits with
  | nil =>
    rw [digits, List.nil_append] at split
    have zero : first = '0' := List.eq_of_mem_replicate (split ▸ List.mem_cons_self)
    exact absurd zero counts
  | cons d rest =>
    rw [digits] at split all
    obtain ⟨rfl, _⟩ := List.cons.inj split
    exact ⟨first, rest, rfl, counts, all⟩

/-- Cutting keeps fourteen digits, so the point of a large number stays behind the last of them. -/
theorem cut_large (large : 10 ^ 14 * Magnitude.one ≤ size.units) : ∃ significand dropped,
    significand ≠ 0 ∧ cut 14 size = Form.of significand dropped ∧
      14 < (Form.of significand dropped).point := by
  obtain ⟨k, place⟩ : ∃ k, 1074 = k := ⟨_, rfl⟩
  have wide : 10 ^ (14 + k) ≤ expansion size := by
    unfold expansion
    rw [place, Nat.pow_eq]
    calc 10 ^ (14 + k) = 10 ^ 14 * Magnitude.one * 5 ^ k := by
          rw [pow_add, Nat.mul_assoc, Magnitude.one_times_five place]
      _ ≤ size.units * 5 ^ k := Nat.mul_le_mul_right _ large
  have long {n places : Nat} (pos : 0 < places) (wide : 10 ^ places ≤ n) :
      places < (Nat.toDigits 10 n).length := by
    by_contra short
    have narrow := (Nat.length_toDigits_le_iff (show 1 < 10 by decide) pos).mp (Nat.not_lt.mp short)
    exact Nat.not_lt.mpr wide narrow
  have length := long (by omega) wide
  obtain ⟨dropped, left⟩ :
      ∃ dropped, (Nat.toDigits 10 (expansion size)).length - 14 = dropped := ⟨_, rfl⟩
  have whole : 10 ^ (13 + dropped) ≤ expansion size := by
    by_contra narrow
    have short := (Nat.length_toDigits_le_iff (show 1 < 10 by decide) (by omega)).mpr
      (Nat.not_le.mp narrow)
    omega
  have below : 10 ^ 13 ≤ expansion size / 10 ^ dropped := by
    rw [Nat.le_div_iff_mul_le (Magnitude.ten_pos dropped), ← pow_add]
    exact whole
  have behind {significand : Nat} (kept : 10 ^ 13 ≤ significand) :
      14 < (Form.of significand dropped).point := by
    have digits := long (by decide) kept
    show (14 : Int) < (Nat.toDigits 10 significand).length + dropped - 1074
    omega
  rcases cut_cases left with same | same
  · exact ⟨_, dropped, by omega, same, behind below⟩
  · exact ⟨_, dropped, by omega, same, behind (Nat.le_succ_of_le below)⟩

/-- From `10 ^ 14` on an exponent is written. -/
theorem plainText_large (minus : Bool) (large : 10 ^ 14 * Magnitude.one ≤ size.units) :
    Scientific minus (plainText (.finite minus size)) := by
  have nonzero : size.units ≠ 0 := by
    have one := Magnitude.one_pos
    intro none
    omega
  obtain ⟨significand, dropped, some_, same, point⟩ := cut_large large
  obtain ⟨d, rest, digits, counts, all⟩ := form_head some_ dropped
  obtain ⟨digit, fraction⟩ := List.forall_mem_cons.mp all
  obtain ⟨e, exponent⟩ := Int.eq_ofNat_of_zero_le
    (show 0 ≤ (Form.of significand dropped).point - 1 by omega)
  have beyond : 14 ≤ e := by omega
  have power := exponentText_large (show 10 ≤ e by omega)
  rw [plainText_finite minus nonzero, same]
  unfold Style.write
  simp only [exponent, digits]
  rw [if_neg (by omega)]
  cases rest with
  | nil =>
    simp only [power]
    exact .whole digit counts beyond
  | cons c rest =>
    simp only [power]
    exact .pointed digit counts (by simp) fraction beyond

/-- A text with an exponent is the numeral of no integer. -/
theorem Scientific.ne_toString {negative : Bool} {text : List Char}
    (scientific : Scientific negative text) (n : Int) : text ≠ (toString n).toList := by
  have letter : 'e' ∈ text := by
    cases scientific <;> simp
  rintro rfl
  rw [Numeral.toList_toString] at letter
  rcases List.mem_append.mp letter with sign | digit
  · split at sign <;> simp at sign
  · exact absurd (Digit.isDigit_toDigits _ digit) (by decide)

end Decimal

end ScriptDialog
