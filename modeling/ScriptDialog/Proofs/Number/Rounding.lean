import Mathlib.Tactic.Linarith
import Mathlib.Tactic.Ring
import ScriptDialog.Number.Double

/-! Rounding onto the magnitudes depends on the quotient alone, leaves magnitudes where they are,
and moves a quotient by less than a factor of two beyond the least unit. -/
namespace ScriptDialog.Magnitude

theorem gap_pos (n : Nat) : 0 < gap n := Nat.two_pow_pos _

theorem gap_le {n : Nat} (nonzero : n ≠ 0) : gap n ≤ n := by
  calc gap n = 2 ^ (n.log2 - 52) := rfl
    _ ≤ 2 ^ n.log2 := Nat.pow_le_pow_right (by omega) (by omega)
    _ ≤ n := Nat.log2_self_le nonzero

theorem nearest_scale {k : Nat} (pos : 0 < k) (num den : Nat) :
    nearest (num * k) (den * k) = nearest num den := by
  have quotient : num * k / (den * k) = num / den := Nat.mul_div_mul_right num den pos
  simp only [nearest, quotient]
  generalize gap (num / den) = step
  generalize num / den / step = below
  have excess : 2 * (num * k - below * step * (den * k)) = 2 * (num - below * step * den) * k := by
    rw [mul_assoc 2, Nat.sub_mul, mul_assoc (below * step)]
  have limit : step * (den * k) = step * den * k := by ring
  rw [excess, limit]
  simp only [Nat.mul_lt_mul_right pos, Nat.mul_left_inj (Nat.ne_of_gt pos)]

/-- Equal quotients are rounded equally. -/
theorem nearest_congr {num den num' den' : Nat} (pos : 0 < den) (pos' : 0 < den')
    (same : num * den' = num' * den) : nearest num den = nearest num' den' := by
  calc nearest num den = nearest (num * den') (den * den') := (nearest_scale pos' num den).symm
    _ = nearest (num' * den) (den' * den) := by rw [same, mul_comm den]
    _ = nearest num' den' := nearest_scale pos num' den'

theorem nearest_units (size : Magnitude) : nearest size.units 1 = size.units := by
  have whole : size.units / gap size.units * gap size.units = size.units :=
    Nat.div_mul_cancel size.onGrid
  have pos := gap_pos size.units
  simp only [nearest, Nat.div_one, mul_one, whole, Nat.sub_self, mul_zero]
  rw [if_pos (.inl pos)]

theorem round?_of_nearest {num den : Nat} {size : Magnitude}
    (found : nearest num den = size.units) : round? num den = some size := by
  obtain ⟨units, onGrid, bounded⟩ := size
  subst found
  simp [round?, bounded]

/-- Less than half a unit is rounded to nothing. -/
theorem nearest_of_lt {num den : Nat} (small : 2 * num < den) : nearest num den = 0 := by
  have none : num / den = 0 := Nat.div_eq_of_lt (by omega)
  have unit : gap 0 = 1 := rfl
  simp only [nearest, none, unit, Nat.zero_div, zero_mul, Nat.sub_zero, one_mul]
  rw [if_pos (.inl small)]

theorem lt_nearest (num : Nat) {den : Nat} (pos : 0 < den) :
    num < (2 * nearest num den + 1) * den := by
  have near : num / den / gap (num / den) * gap (num / den) ≤ nearest num den := by
    simp only [nearest]
    split
    · exact Nat.le_refl _
    · exact Nat.mul_le_mul_right _ (Nat.le_succ _)
  have quotient : num / den ≤ 2 * nearest num den := by
    by_cases none : num / den = 0
    · omega
    · have step := gap_pos (num / den)
      have one : 1 ≤ num / den / gap (num / den) :=
        (Nat.one_le_div_iff step).mpr (gap_le none)
      have beyond : num / den < (num / den / gap (num / den) + 1) * gap (num / den) :=
        Nat.lt_mul_of_div_lt (Nat.lt_succ_self _) step
      nlinarith
  calc num < (num / den + 1) * den := Nat.lt_mul_of_div_lt (Nat.lt_succ_self _) pos
    _ ≤ (2 * nearest num den + 1) * den := Nat.mul_le_mul_right _ (by omega)

end ScriptDialog.Magnitude
