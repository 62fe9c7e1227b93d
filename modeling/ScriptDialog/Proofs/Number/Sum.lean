import ScriptDialog.Proofs.Number.Value

/-! Sums of whole numbers beyond 53 bits. They are rounded as the whole numbers that they are, which
keeps their order, and below 54 bits moves them by one at most. -/
namespace ScriptDialog

namespace Magnitude

variable {m n k : Nat}

/-- Within a binade the points of the grid decide, and binades stay apart. -/
theorem nearest_mono (le : m ≤ n) : nearest m 1 ≤ nearest n 1 := by
  rcases Nat.eq_zero_or_pos m with rfl | pos
  · rw [nearest_of_lt (by decide)]
    exact Nat.zero_le _
  · have nonzero : m ≠ 0 := Nat.ne_of_gt pos
    have nonzero' : n ≠ 0 := Nat.ne_of_gt (Nat.lt_of_lt_of_le pos le)
    have binades : m.log2 ≤ n.log2 :=
      (Nat.le_log2 nonzero').mpr (Nat.le_trans (Nat.log2_self_le nonzero) le)
    rcases Nat.lt_or_eq_of_le binades with apart | same
    · calc nearest m 1 ≤ 2 ^ (m.log2 + 1) := nearest_le_of_lt Nat.lt_log2_self
        _ ≤ 2 ^ n.log2 := Nat.pow_le_pow_right (by decide) apart
        _ ≤ nearest n 1 := le_nearest_of_le (Nat.log2_self_le nonzero')
    · have step : gap m = gap n := by rw [gap, gap, same]
      have points : m / gap n ≤ n / gap n := Nat.div_le_div_right le
      rcases Nat.lt_or_eq_of_le points with between | together
      · calc nearest m 1 ≤ (m / gap m + 1) * gap m := nearest_le_above m
          _ = (m / gap n + 1) * gap n := by rw [step]
          _ ≤ n / gap n * gap n := Nat.mul_le_mul_right _ between
          _ ≤ nearest n 1 := below_le_nearest n
      · simp only [nearest, Nat.div_one, mul_one, step, together]
        have stay := Nat.mul_le_mul_right (gap n) (Nat.le_succ (n / gap n))
        split
        · split
          · exact Nat.le_refl _
          · exact stay
        · -- the larger of two numbers between the same points goes up when the smaller does
          rw [if_neg (by omega)]

theorem lt_nearest_add_gap (n : Nat) : n < nearest n 1 + gap n := by
  calc n < (n / gap n + 1) * gap n := Nat.lt_mul_of_div_lt (Nat.lt_succ_self _) (gap_pos n)
    _ = n / gap n * gap n + gap n := Nat.succ_mul _ _
    _ ≤ nearest n 1 + gap n := Nat.add_le_add_right (below_le_nearest n) _

theorem gap_of_lt (small : n < 2 ^ 53) : gap n = 1 := by
  rcases Nat.eq_zero_or_pos n with rfl | pos
  · rfl
  · have binade := (Nat.log2_lt (Nat.ne_of_gt pos)).mpr small
    rw [gap, show n.log2 - 52 = 0 by omega, Nat.pow_eq, Nat.pow_zero]

theorem nearest_eq_self (small : n < 2 ^ 53) : nearest n 1 = n :=
  nearest_units ⟨n, by rw [gap_of_lt small]; exact Nat.one_dvd n, by
    obtain ⟨j, k, shift, _⟩ := exists_one
    rw [bound, Nat.pow_eq, Nat.pow_eq]
    exact Nat.lt_of_lt_of_le small (Nat.le_mul_of_pos_right _ (Nat.two_pow_pos _))⟩

theorem gap_le_two (small : n < 2 ^ 54) : gap n ≤ 2 := by
  by_cases exact : n < 2 ^ 53
  · rw [gap_of_lt exact]
    decide
  · rw [gap_of_binade (Nat.not_lt.mp exact) small]
    decide

theorem le_nearest_add_one (small : n < 2 ^ 54) : n ≤ nearest n 1 + 1 := by
  have near := lt_nearest_add_gap n
  have narrow := gap_le_two small
  omega

theorem nearest_le_add_two (small : n < 2 ^ 54) : nearest n 1 ≤ n + 2 := by
  have narrow := gap_le_two small
  calc nearest n 1 ≤ (n / gap n + 1) * gap n := nearest_le_above n
    _ = n / gap n * gap n + gap n := Nat.succ_mul _ _
    _ ≤ n + 2 := Nat.add_le_add (Nat.div_mul_le_self n (gap n)) narrow

theorem gap_shift (large : 2 ^ 53 ≤ m) (k : Nat) : gap (m * 2 ^ k) = gap m * 2 ^ k := by
  have nonzero : m ≠ 0 := by omega
  have binade : 53 ≤ m.log2 := (Nat.le_log2 nonzero).mpr large
  have low : 2 ^ (m.log2 + k) ≤ m * 2 ^ k := by
    rw [Nat.pow_add]
    exact Nat.mul_le_mul_right _ (Nat.log2_self_le nonzero)
  have high : m * 2 ^ k < 2 ^ (m.log2 + k + 1) := by
    rw [Nat.add_right_comm, Nat.pow_add]
    exact Nat.mul_lt_mul_of_pos_right Nat.lt_log2_self (Nat.two_pow_pos k)
  rw [gap_of_binade low high, gap_of_binade (Nat.log2_self_le nonzero) Nat.lt_log2_self,
    ← Nat.pow_add, show m.log2 + k - 52 = m.log2 - 52 + k by omega]

/-- A whole number is rounded as such, whatever it is counted in. -/
theorem nearest_shift (large : 2 ^ 53 ≤ m) (k : Nat) :
    nearest (m * 2 ^ k) 1 = nearest m 1 * 2 ^ k := by
  have pos := Nat.two_pow_pos k
  have quotient : m * 2 ^ k / (gap m * 2 ^ k) = m / gap m := Nat.mul_div_mul_right _ _ pos
  have excess : 2 * (m * 2 ^ k - m / gap m * (gap m * 2 ^ k)) =
      2 * (m - m / gap m * gap m) * 2 ^ k := by
    rw [mul_assoc 2, Nat.sub_mul, mul_assoc (m / gap m)]
  simp only [nearest, Nat.div_one, mul_one, gap_shift large, quotient, excess,
    Nat.mul_lt_mul_right pos, Nat.mul_left_inj (Nat.ne_of_gt pos), ite_mul]
  simp only [mul_assoc]

theorem nearest_whole (m : Nat) : nearest (m * one) 1 = nearest m 1 * one := by
  by_cases exact : m < 2 ^ 53
  · obtain ⟨size, units⟩ := exists_whole exact
    rw [nearest_eq_self exact, ← units, nearest_units]
  · obtain ⟨_, k, _, unit⟩ := exists_one
    rw [unit, nearest_shift (Nat.not_lt.mp exact)]

end Magnitude

namespace Double

open Magnitude

variable {x y : Double} {m n : Nat}

/-- The place is a variable here so that no power of two is worked out. -/
theorem lt_wideFrom {j : Nat} (place : 970 = j) (small : m < 2 ^ 54 - 1) : m < wideFrom := by
  have wide : wideFrom = (2 ^ 54 - 1) * Nat.pow 2 j := by
    unfold wideFrom
    rw [place]
  rw [wide, Nat.pow_eq]
  exact Nat.lt_of_lt_of_le small (Nat.le_mul_of_pos_right _ (Nat.two_pow_pos j))

attribute [local irreducible] wideFrom

theorem is_rounded_whole (small : m < 2 ^ 54 - 1) :
    (rounded false (m * one) 1).Is (nearest m 1) := by
  cases found : round? (m * one) 1 with
  | none =>
    have none : ofInt? m = none := by
      unfold ofInt?
      rw [Int.natAbs_natCast, found, Option.map_none]
    have wide := (ofInt?_eq_none_iff m).mp none
    rw [Int.natAbs_natCast] at wide
    exact absurd wide (Nat.not_le.mpr (lt_wideFrom rfl small))
  | some size =>
    have units := nearest_of_round? found
    rw [rounded_of_nearest units, is_finite_iff, ← units, nearest_whole, signed_mul]
    push_cast
    rfl

/-- The sum of two whole numbers, rounded. -/
theorem Is.add_whole (left : x.Is m) (right : y.Is n) (small : m + n < 2 ^ 54 - 1) :
    (x.add y).Is (nearest (m + n) 1) := by
  obtain ⟨s, size, rfl⟩ := left.finite
  obtain ⟨t, size', rfl⟩ := right.finite
  have sum :
      Double.units (.finite s size) + Double.units (.finite t size') = ((m + n) * one : Nat) := by
    have both : ((Double.units (.finite s size) + Double.units (.finite t size') : Int) : ℚ) =
        ((m + n) * one : Nat) := by
      rw [Int.cast_add, left.units, right.units]
      push_cast
      ring
    exact_mod_cast both
  simp only [Double.add, sum]
  split
  · next none =>
    have zero : (m + n) * one = 0 := Int.natCast_eq_zero.mp none
    have empty : m + n = 0 :=
      (Nat.mul_eq_zero.mp zero).resolve_right (Nat.ne_of_gt Magnitude.one_pos)
    rw [empty, nearest_eq_self (Nat.two_pow_pos 53), Nat.cast_zero]
    exact is_zero _
  · have positive : decide ((((m + n) * one : Nat) : Int) < 0) = false :=
      decide_eq_false (Int.not_lt.mpr (Int.natCast_nonneg _))
    rw [ofUnits, positive, Int.natAbs_natCast]
    exact is_rounded_whole small

end Double

end ScriptDialog
