import ScriptDialog.Proofs.Number.Limits

/-! Whole numbers as doubles. Those of 53 bits are magnitudes themselves, and whatever is larger is
rounded to nothing smaller; so an integer that fits into 53 bits comes back from a double as it was,
and no other one comes back as such. -/
namespace ScriptDialog

namespace Magnitude

variable {num den m : Nat} {size : Magnitude}

theorem nearest_of_round? (found : round? num den = some size) : nearest num den = size.units := by
  unfold round? at found
  split at found
  · cases found
    rfl
  · cases found

/-- The exponents are variables here so that no power of two is worked out. -/
theorem exists_one : ∃ j k, topShift = j + k ∧ one = 2 ^ k := by
  obtain ⟨k, place⟩ : ∃ k, 1074 = k := ⟨_, rfl⟩
  refine ⟨2045 - k, k, ?_, ?_⟩
  · rw [topShift_eq]
    omega
  · unfold one
    rw [place]
    exact Nat.pow_eq

theorem one_pos : 0 < one := by
  obtain ⟨_, k, _, unit⟩ := exists_one
  rw [unit]
  exact Nat.two_pow_pos k

/-- A number of 53 bits is a magnitude. -/
theorem exists_whole (exact : m < 2 ^ 53) : ∃ size : Magnitude, size.units = m * one := by
  obtain ⟨j, k, shift, unit⟩ := exists_one
  have onGrid : gap (m * one) ∣ m * one := by
    have shifted := gap_dvd_shifted (k := m) (e := k) (Nat.le_of_lt exact)
    rwa [Nat.pow_eq, ← unit] at shifted
  have bounded : m * one < bound := by
    rw [bound, shift, unit, Nat.pow_eq, Nat.pow_eq, Nat.pow_add, ← Nat.mul_assoc]
    apply Nat.mul_lt_mul_of_pos_right _ (Nat.two_pow_pos k)
    exact Nat.lt_of_lt_of_le exact (Nat.le_mul_of_pos_right _ (Nat.two_pow_pos j))
  exact ⟨⟨m * one, onGrid, bounded⟩, rfl⟩

/-- A larger number stays as large. -/
theorem le_nearest_whole (large : 2 ^ 53 ≤ m) : 2 ^ 53 * one ≤ nearest (m * one) 1 := by
  obtain ⟨_, k, _, unit⟩ := exists_one
  rw [unit, ← Nat.pow_add]
  apply le_nearest_of_le
  rw [Nat.pow_add]
  exact Nat.mul_le_mul_right _ large

end Magnitude

/-- The integer with this sign and size. -/
def signed (minus : Bool) (m : Nat) : Int := if minus then -(m : Int) else m

theorem signed_natAbs (n : Int) : signed (n < 0) n.natAbs = n := by
  simp only [signed, decide_eq_true_eq]
  omega

theorem natAbs_signed (minus : Bool) (m : Nat) : (signed minus m).natAbs = m := by
  unfold signed
  split <;> omega

namespace Double

variable {minus : Bool} {num den m : Nat} {n : Int}

theorem truncate_finite (minus : Bool) (size : Magnitude) :
    (finite minus size).truncate = .ok (signed minus (size.units / Magnitude.one)) := rfl

/-- What rounding gives: the nearest magnitude, or an infinity where none is so large. -/
theorem rounded_cases (minus : Bool) (num den : Nat) :
    (∃ size : Magnitude, Magnitude.nearest num den = size.units ∧
      rounded minus num den = .finite minus size) ∨ rounded minus num den = .infinite minus := by
  cases found : Magnitude.round? num den with
  | none =>
    refine .inr ?_
    simp only [rounded, found]
  | some size =>
    have nearest := Magnitude.nearest_of_round? found
    exact .inl ⟨size, nearest, rounded_of_nearest nearest minus⟩

theorem truncate_rounded_exact (minus : Bool) (exact : m < 2 ^ 53) :
    (rounded minus (m * Magnitude.one) 1).truncate = .ok (signed minus m) := by
  obtain ⟨size, units⟩ := Magnitude.exists_whole exact
  have found := Magnitude.nearest_units size
  rw [units] at found
  rw [rounded_of_nearest (found.trans units.symm), truncate_finite, units,
    Nat.mul_div_cancel m Magnitude.one_pos]

theorem natAbs_truncate_rounded (large : 2 ^ 53 ≤ m)
    (whole : (rounded minus (m * Magnitude.one) 1).truncate = .ok n) : 2 ^ 53 ≤ n.natAbs := by
  rcases rounded_cases minus (m * Magnitude.one) 1 with ⟨size, found, finite⟩ | infinite
  · have units := Magnitude.le_nearest_whole large
    rw [found] at units
    rw [finite, truncate_finite] at whole
    rw [← Except.ok.inj whole, natAbs_signed]
    exact (Nat.le_div_iff_mul_le Magnitude.one_pos).mpr units
  · rw [infinite] at whole
    cases whole

theorem bind_finite {α : Type} {f : Double → Option α} (minus : Bool)
    (infinite : f (.infinite minus) = none) (num den : Nat) :
    ((Magnitude.round? num den).map (finite minus ·)).bind f = f (rounded minus num den) := by
  unfold rounded
  cases Magnitude.round? num den with
  | none => exact infinite.symm
  | some size => rfl

/-- Digits without an exponent denote a whole number, or one that is told from their number. -/
theorem ofDecimal_whole (minus : Bool) (m : Nat) :
    ofDecimal minus m 0 = rounded minus (m * Magnitude.one) 1 ∨
      m = 0 ∧ ofDecimal minus m 0 = .finite minus .zero ∨
      2 ^ 53 ≤ m ∧ ofDecimal minus m 0 = .infinite minus := by
  have length : 0 < (Nat.toDigits 10 m).length := Nat.length_toDigits_pos
  have long : 310 < (Nat.toDigits 10 m).length → 2 ^ 53 ≤ m := by
    intro long
    have few := Nat.length_toDigits_le_iff (n := m) (k := 16) (show 1 < 10 by decide) (by decide)
    omega
  unfold ofDecimal
  generalize Magnitude.one = one at *
  dsimp only
  split
  · next zero => exact .inr (.inl ⟨by omega, rfl⟩)
  · split
    · next beyond => exact .inr (.inr ⟨long (by omega), rfl⟩)
    · rw [if_pos (Int.le_refl 0)]
      left
      simp

end Double

end ScriptDialog
