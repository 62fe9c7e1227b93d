/-! Magnitudes of binary64 numbers, counted in units of `2⁻¹⁰⁷⁴`, and rounding onto them. Every
magnitude keeps 53 bits, so it is a multiple of the `gap` at its size. -/
namespace ScriptDialog

/-- The distance between neighbouring magnitudes at `n` units. -/
def gap (n : Nat) : Nat := Nat.pow 2 (n.log2 - 52)

/-- The widest gap has this exponent. -/
@[irreducible] def Magnitude.topShift : Nat := 2045

/-- The first power of two that 53 bits no longer reach, even with the widest gap. -/
def Magnitude.bound : Nat := Nat.pow 2 53 * Nat.pow 2 Magnitude.topShift

structure Magnitude where
  units : Nat
  onGrid : gap units ∣ units
  bounded : units < Magnitude.bound
  deriving DecidableEq

namespace Magnitude

/-- How many units make one. -/
def one : Nat := Nat.pow 2 1074

theorem gap_dvd_shifted {k e : Nat} (h : k ≤ Nat.pow 2 53) :
    gap (k * Nat.pow 2 e) ∣ k * Nat.pow 2 e := by
  simp only [Nat.pow_eq, gap] at *
  by_cases hk : k = 2 ^ 53
  · subst hk
    rw [← Nat.pow_add, Nat.log2_two_pow]
    exact Nat.pow_dvd_pow 2 (by omega)
  · by_cases hz : k * 2 ^ e = 0
    · simp [hz]
    · have hlt : k * 2 ^ e < 2 ^ (53 + e) := by
        rw [Nat.pow_add]
        exact Nat.mul_lt_mul_of_pos_right (by omega) (Nat.two_pow_pos e)
      have hlog := (Nat.log2_lt hz).2 hlt
      exact Nat.dvd_trans (Nat.pow_dvd_pow 2 (by omega)) (Nat.dvd_mul_left _ _)

theorem div_gap_lt (n : Nat) : n / gap n < Nat.pow 2 53 := by
  simp only [Nat.pow_eq, gap]
  apply Nat.div_lt_of_lt_mul
  rw [← Nat.pow_add]
  exact Nat.lt_of_lt_of_le Nat.lt_log2_self (Nat.pow_le_pow_right (by omega) (by omega))

/-- The grid point nearest to `num / den`; of two that are equally near, the even one. -/
def nearest (num den : Nat) : Nat :=
  let step := gap (num / den)
  let below := num / den / step
  let excess := 2 * (num - below * step * den)
  if excess < step * den ∨ (excess = step * den ∧ below % 2 = 0) then below * step
  else (below + 1) * step

theorem gap_dvd_nearest (num den : Nat) : gap (nearest num den) ∣ nearest num den := by
  have h := div_gap_lt (num / den)
  simp only [nearest]
  split
  · exact gap_dvd_shifted (by omega)
  · exact gap_dvd_shifted (by omega)

/-- Rounds `num / den` units; nothing when the result is too large. -/
def round? (num den : Nat) : Option Magnitude :=
  if h : nearest num den < bound then some ⟨nearest num den, gap_dvd_nearest num den, h⟩
  else none

def zero : Magnitude := ⟨0, Nat.dvd_zero _, Nat.mul_pos (Nat.two_pow_pos _) (Nat.two_pow_pos _)⟩

/-- The largest magnitude. -/
def largest : Magnitude where
  units := (Nat.pow 2 53 - 1) * Nat.pow 2 topShift
  onGrid := gap_dvd_shifted (by decide)
  bounded := Nat.mul_lt_mul_of_pos_right (by decide) (Nat.two_pow_pos _)

end Magnitude

end ScriptDialog
