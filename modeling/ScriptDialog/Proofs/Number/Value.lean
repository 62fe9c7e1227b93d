import Mathlib.Data.Rat.Cast.Order
import ScriptDialog.Proofs.Number.Plain

/-! The numbers that finite doubles stand for. Where the exact result of an operation is a double
itself, the operation gives it, for there is nothing to round. -/
namespace ScriptDialog

theorem signed_mul (minus : Bool) (m k : Nat) : signed minus (m * k) = signed minus m * k := by
  cases minus <;> simp [signed]

theorem signed_mul_signed (s t : Bool) (m k : Nat) :
    signed s m * signed t k = signed (s != t) (m * k) := by
  cases s <;> cases t <;> simp [signed]

namespace Double

variable {x y : Double} {a b q : ℚ} {minus : Bool} {num den : Nat}

/-- The number that a finite double stands for. -/
def value (x : Double) : ℚ := x.units / Magnitude.one

/-- A finite double that stands for this number. -/
structure Is (x : Double) (q : ℚ) : Prop where
  finite : ∃ minus size, x = .finite minus size
  value : x.value = q

/-- Some double stands for the number exactly. -/
def Representable (q : ℚ) : Prop := ∃ x : Double, x.Is q

theorem one_ne_zero : (Magnitude.one : ℚ) ≠ 0 :=
  Nat.cast_ne_zero.mpr (Nat.ne_of_gt Magnitude.one_pos)

theorem units_finite (minus : Bool) (size : Magnitude) :
    units (.finite minus size) = signed minus size.units := by
  cases minus <;> rfl

theorem is_finite_iff {size : Magnitude} :
    (finite minus size).Is q ↔ (signed minus size.units : ℚ) = q * Magnitude.one := by
  constructor
  · intro is
    rw [← is.value, value, units_finite, div_mul_cancel₀ _ one_ne_zero]
  · intro same
    refine ⟨⟨minus, size, rfl⟩, ?_⟩
    rw [value, units_finite, same, mul_div_cancel_right₀ _ one_ne_zero]

theorem Is.exists (is : x.Is q) :
    ∃ minus size, x = .finite minus size ∧ (signed minus size.units : ℚ) = q * Magnitude.one := by
  obtain ⟨minus, size, rfl⟩ := is.finite
  exact ⟨minus, size, rfl, is_finite_iff.mp is⟩

theorem Is.units (is : x.Is q) : (x.units : ℚ) = q * Magnitude.one := by
  obtain ⟨minus, size, rfl, same⟩ := is.exists
  rw [units_finite, same]

theorem is_zero (minus : Bool) : (finite minus .zero).Is 0 := by
  rw [is_finite_iff, zero_mul]
  cases minus <;> rfl

/-- A quotient that is a double is rounded to this double. -/
theorem round?_of_representable (pos : 0 < den) (exact : Representable q)
    (quotient : (signed minus num : ℚ) = q * Magnitude.one * den) :
    ∃ size, Magnitude.round? num den = some size ∧ (finite minus size).Is q := by
  obtain ⟨x, is⟩ := exact
  obtain ⟨s, size, rfl, same⟩ := is.exists
  have product : signed minus num = signed s (size.units * den) := by
    rw [← same] at quotient
    rw [signed_mul]
    exact_mod_cast quotient
  have units : num = size.units * den := by
    have sizes := congrArg Int.natAbs product
    simpa only [natAbs_signed] using sizes
  have found : Magnitude.nearest num den = size.units := by
    have scaled := Magnitude.nearest_scale pos size.units 1
    rw [one_mul] at scaled
    rw [units, scaled, Magnitude.nearest_units]
  refine ⟨size, Magnitude.round?_of_nearest found, is_finite_iff.mpr ?_⟩
  have denominator : (den : ℚ) ≠ 0 := Nat.cast_ne_zero.mpr (Nat.ne_of_gt pos)
  apply mul_right_cancel₀ denominator
  rw [← quotient, units, signed_mul]
  push_cast
  ring

theorem is_rounded (pos : 0 < den) (exact : Representable q)
    (quotient : (signed minus num : ℚ) = q * Magnitude.one * den) :
    (rounded minus num den).Is q := by
  obtain ⟨size, found, is⟩ := round?_of_representable pos exact quotient
  simpa only [rounded, found] using is

theorem is_ofInt {n : Int} (exact : Representable n) : ∃ x, ofInt n = .ok x ∧ x.Is n := by
  have quotient : (signed (n < 0) (n.natAbs * Magnitude.one) : ℚ) =
      n * Magnitude.one * (1 : Nat) := by
    rw [signed_mul, signed_natAbs]
    push_cast
    ring
  obtain ⟨size, found, is⟩ := round?_of_representable Nat.one_pos exact quotient
  refine ⟨_, ?_, is⟩
  simp only [ofInt, ofInt?, found]
  rfl

/-- An integer of 53 bits. -/
theorem representable_of_lt {n : Int} (small : n.natAbs < 2 ^ 53) : Representable n := by
  obtain ⟨size, units, _⟩ := ofInt?_exact small
  refine ⟨.finite (n < 0) size, is_finite_iff.mpr ?_⟩
  rw [units, signed_mul, signed_natAbs]
  push_cast
  rfl

theorem is_whole {n : Nat} (small : n < 2 ^ 53) : (whole n).Is n := by
  have exact : Representable (n : Int) := representable_of_lt small
  rw [Int.cast_natCast] at exact
  apply is_rounded Nat.one_pos exact
  show (((n * Magnitude.one : Nat) : Int) : ℚ) = _
  rw [Int.cast_natCast, Nat.cast_mul, Nat.cast_one, mul_one]

theorem is_two : (whole 2).Is 2 := by
  have two := is_whole (n := 2) (by decide)
  rwa [Nat.cast_ofNat] at two

theorem Is.neg (is : x.Is q) : x.neg.Is (-q) := by
  obtain ⟨minus, size, rfl, same⟩ := is.exists
  refine is_finite_iff.mpr ?_
  rw [neg_mul, ← same]
  cases minus <;> simp [signed]

theorem is_ofUnits {u : Int} (exact : Representable q) (same : (u : ℚ) = q * Magnitude.one) :
    (ofUnits u).Is q := by
  apply is_rounded Nat.one_pos exact
  rw [signed_natAbs, same, Nat.cast_one, mul_one]

theorem Is.add (left : x.Is a) (right : y.Is b) (exact : Representable (a + b)) :
    (x.add y).Is (a + b) := by
  obtain ⟨s, size, rfl⟩ := left.finite
  obtain ⟨t, size', rfl⟩ := right.finite
  have sum : ((Double.units (.finite s size) + Double.units (.finite t size') : Int) : ℚ) =
      (a + b) * Magnitude.one := by
    rw [Int.cast_add, left.units, right.units, add_mul]
  simp only [Double.add]
  split
  · next none =>
    rw [none, Int.cast_zero, eq_comm, mul_eq_zero_iff_right one_ne_zero] at sum
    rw [sum]
    exact is_zero _
  · exact is_ofUnits exact sum

theorem Is.sub (left : x.Is a) (right : y.Is b) (exact : Representable (a - b)) :
    (x.sub y).Is (a - b) := by
  rw [sub_eq_add_neg] at exact ⊢
  exact left.add right.neg exact

theorem Is.mul (left : x.Is a) (right : y.Is b) (exact : Representable (a * b)) :
    (x.mul y).Is (a * b) := by
  obtain ⟨s, size, rfl, same⟩ := left.exists
  obtain ⟨t, size', rfl, same'⟩ := right.exists
  apply is_rounded Magnitude.one_pos exact
  rw [← signed_mul_signed, Int.cast_mul, same, same']
  ring

/-- The larger of a number and nothing. -/
theorem Is.larger_zero (is : x.Is q) : (larger zero x).Is (max 0 q) := by
  obtain ⟨minus, size, rfl⟩ := is.finite
  have one : (0 : ℚ) < Magnitude.one := Nat.cast_pos.mpr Magnitude.one_pos
  have order : lt zero (.finite minus size) ↔ 0 < q := by
    calc lt zero (.finite minus size) ↔ 0 < Double.units (.finite minus size) := decide_eq_true_iff
      _ ↔ (0 : ℚ) < Double.units (.finite minus size) := Int.cast_pos.symm
      _ ↔ 0 < q := by rw [is.units]; exact mul_pos_iff_of_pos_right one
  unfold larger
  split
  · next positive => rwa [max_eq_right (le_of_lt (order.mp positive))]
  · next none =>
    rw [max_eq_left (not_lt.mp (mt order.mpr none))]
    exact is_zero _

/-- A whole number has no fraction to drop. -/
theorem Is.truncate {n : Int} (is : x.Is n) : x.truncate = .ok n := by
  obtain ⟨minus, size, rfl, same⟩ := is.exists
  have product : signed minus size.units = n * Magnitude.one := by exact_mod_cast same
  have units : size.units = n.natAbs * Magnitude.one := by
    have sizes := congrArg Int.natAbs product
    rwa [natAbs_signed, Int.natAbs_mul, Int.natAbs_natCast] at sizes
  rw [truncate_finite, units, Nat.mul_div_cancel _ Magnitude.one_pos]
  rw [units, signed_mul] at product
  have one : (Magnitude.one : Int) ≠ 0 := Int.natCast_ne_zero.mpr (Nat.ne_of_gt Magnitude.one_pos)
  exact congrArg _ (mul_right_cancel₀ one product)

end Double

end ScriptDialog
