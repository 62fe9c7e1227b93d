import ScriptDialog.Proofs.Number.Refused
import ScriptDialog.Proofs.Number.RoundTrip

/-! The limits of numbers: the integers that no finite double is nearest to, and the texts that are
taken for a number as a whole and then refused. -/
namespace ScriptDialog

namespace Magnitude

variable {n j k : Nat}

theorem gap_dvd_binade (n : Nat) : gap n ∣ 2 ^ n.log2 :=
  Nat.pow_dvd_pow 2 (Nat.sub_le _ _)

theorem below_le_nearest (n : Nat) : n / gap n * gap n ≤ nearest n 1 := by
  simp only [nearest, Nat.div_one]
  split
  · exact Nat.le_refl _
  · exact Nat.mul_le_mul_right _ (Nat.le_succ _)

theorem nearest_le_above (n : Nat) : nearest n 1 ≤ (n / gap n + 1) * gap n := by
  simp only [nearest, Nat.div_one]
  split
  · exact Nat.mul_le_mul_right _ (Nat.le_succ _)
  · exact Nat.le_refl _

/-- A power of two is never rounded away from below. -/
theorem le_nearest_of_le (large : 2 ^ k ≤ n) : 2 ^ k ≤ nearest n 1 := by
  have nonzero : n ≠ 0 := Nat.ne_of_gt (Nat.lt_of_lt_of_le (Nat.two_pow_pos k) large)
  calc 2 ^ k ≤ 2 ^ n.log2 := Nat.pow_le_pow_right (by decide) ((Nat.le_log2 nonzero).mpr large)
    _ = 2 ^ n.log2 / gap n * gap n := (Nat.div_mul_cancel (gap_dvd_binade n)).symm
    _ ≤ n / gap n * gap n :=
      Nat.mul_le_mul_right _ (Nat.div_le_div_right (Nat.log2_self_le nonzero))
    _ ≤ nearest n 1 := below_le_nearest n

theorem nearest_le_of_lt (small : n < 2 ^ k) : nearest n 1 ≤ 2 ^ k := by
  by_cases zero : n = 0
  · subst zero
    rw [nearest_of_lt (by decide)]
    exact Nat.zero_le _
  · have binade : n.log2 + 1 ≤ k := (Nat.log2_lt zero).mpr small
    have dvd : gap n ∣ 2 ^ (n.log2 + 1) :=
      (gap_dvd_binade n).trans (Nat.pow_dvd_pow 2 (Nat.le_succ _))
    have quotient : n / gap n < 2 ^ (n.log2 + 1) / gap n :=
      Nat.div_lt_div_of_lt_of_dvd dvd Nat.lt_log2_self
    calc nearest n 1 ≤ (n / gap n + 1) * gap n := nearest_le_above n
      _ ≤ 2 ^ (n.log2 + 1) / gap n * gap n := Nat.mul_le_mul_right _ quotient
      _ = 2 ^ (n.log2 + 1) := Nat.div_mul_cancel dvd
      _ ≤ 2 ^ k := Nat.pow_le_pow_right (by decide) binade

theorem gap_of_binade (low : 2 ^ k ≤ n) (high : n < 2 ^ (k + 1)) : gap n = 2 ^ (k - 52) := by
  have nonzero : n ≠ 0 := Nat.ne_of_gt (Nat.lt_of_lt_of_le (Nat.two_pow_pos _) low)
  have least := (Nat.le_log2 nonzero).mpr low
  have most := (Nat.log2_lt nonzero).mpr high
  have exponent : n.log2 = k := by omega
  rw [gap, exponent, Nat.pow_eq]

/-- The last point of a binade's grid is odd, so half way to the next binade is rounded up. -/
theorem next_le_nearest_iff {half : Nat} (step : gap n = 2 * half) (pos : 0 < half)
    (high : n < 2 ^ 53 * (2 * half)) :
    2 ^ 53 * (2 * half) ≤ nearest n 1 ↔ (2 ^ 54 - 1) * half ≤ n := by
  simp only [nearest, Nat.div_one, Nat.mul_one, step]
  have whole := Nat.div_add_mod' n (2 * half)
  have rest := Nat.mod_lt n (show 0 < 2 * half by omega)
  have few : n / (2 * half) < 2 ^ 53 := Nat.div_lt_of_lt_mul (by rwa [Nat.mul_comm])
  generalize n / (2 * half) = below at *
  generalize n % (2 * half) = beyond at *
  have excess : n - below * (2 * half) = beyond := by omega
  rw [excess]
  by_cases last : below = 2 ^ 53 - 1
  · subst last
    split <;> omega
  · have fewer : (below + 1) * (2 * half) ≤ (2 ^ 53 - 1) * (2 * half) :=
      Nat.mul_le_mul_right _ (by omega)
    rw [Nat.add_mul] at fewer
    refine iff_of_false ?_ (by omega)
    split
    · omega
    · rw [Nat.add_mul]
      omega

theorem le_nearest_iff (n j : Nat) :
    2 ^ (j + 54) ≤ nearest n 1 ↔ (2 ^ 54 - 1) * 2 ^ j ≤ n := by
  have next : 2 ^ (j + 54) = 2 ^ 53 * (2 * 2 ^ j) := by
    rw [Nat.pow_add]
    omega
  have binade : 2 ^ (j + 53) = 2 ^ 52 * (2 * 2 ^ j) := by
    rw [Nat.pow_add]
    omega
  have pos := Nat.two_pow_pos j
  by_cases low : 2 ^ (j + 53) ≤ n
  · by_cases high : n < 2 ^ (j + 54)
    · have step : gap n = 2 * 2 ^ j := by
        rw [gap_of_binade low high, show j + 53 - 52 = j + 1 by omega, Nat.pow_succ, Nat.mul_comm]
      rw [next] at high ⊢
      exact next_le_nearest_iff step pos high
    · have large := le_nearest_of_le (Nat.not_lt.mp high)
      exact iff_of_true large (by omega)
  · have small := nearest_le_of_lt (Nat.not_le.mp low)
    exact iff_of_false (by omega) (by omega)

theorem round?_eq_none_iff {num den : Nat} : round? num den = none ↔ bound ≤ nearest num den := by
  unfold round?
  split
  · next small => exact iff_of_false (by simp) (Nat.not_le.mpr small)
  · next large => exact iff_of_true rfl (Nat.not_lt.mp large)

/-- The exponents are variables here so that no power of two is worked out. -/
theorem round?_whole_eq_none_iff {n j k : Nat} (shift : topShift = j + k + 1) (unit : one = 2 ^ k) :
    round? (n * one) 1 = none ↔ (2 ^ 54 - 1) * 2 ^ j ≤ n := by
  have top : bound = 2 ^ (j + k + 54) := by
    rw [bound, shift, Nat.pow_eq, Nat.pow_eq, ← Nat.pow_add,
      show 53 + (j + k + 1) = j + k + 54 by omega]
  rw [round?_eq_none_iff, top, le_nearest_iff, unit, Nat.pow_add, ← Nat.mul_assoc]
  exact Nat.mul_le_mul_right_iff (Nat.two_pow_pos k)

end Magnitude

namespace Double

/-- Half way from the largest finite number to the next power of two. -/
def wideFrom : Nat := (2 ^ 54 - 1) * Nat.pow 2 970

/-- Integers from there on have no double. -/
theorem ofInt?_eq_none_iff (n : Int) : ofInt? n = none ↔ wideFrom ≤ n.natAbs := by
  obtain ⟨j, wide⟩ : ∃ j, 970 = j := ⟨_, rfl⟩
  obtain ⟨k, place⟩ : ∃ k, 1074 = k := ⟨_, rfl⟩
  have shift : Magnitude.topShift = j + k + 1 := by
    rw [Magnitude.topShift_eq]
    omega
  have unit : Magnitude.one = 2 ^ k := by
    unfold Magnitude.one
    rw [place]
    exact Nat.pow_eq
  have limit : wideFrom = (2 ^ 54 - 1) * Nat.pow 2 j := by
    unfold wideFrom
    rw [wide]
  unfold ofInt?
  rw [Option.map_eq_none_iff, Magnitude.round?_whole_eq_none_iff shift unit, limit]
  exact Iff.rfl

end Double

namespace Numeral

/-- The text is a numeral between blanks, and among these is a separator. -/
def Separated (text : List Char) : Prop :=
  ∃ x rest c, decimal? (text.dropWhile Blank.isBlank) = some (x, rest) ∧
    (∀ d ∈ rest, Blank.isBlank d) ∧
    c ∈ text.takeWhile Blank.isBlank ++ rest ∧ isSeparator c

/-- A numeral itself holds no separator. -/
theorem separator_of_numeral {text rest : List Char} {x : Double}
    (numeral : decimal? (text.dropWhile Blank.isBlank) = some (x, rest)) :
    text.any isSeparator = (text.takeWhile Blank.isBlank ++ rest).any isSeparator := by
  obtain ⟨taken, body, clean⟩ := decimal?_takes numeral
  have none : taken.any isSeparator = false :=
    List.any_eq_false.mpr fun c member => by simp [(clean c member).clean.1]
  conv_lhs => rw [← List.takeWhile_append_dropWhile (p := Blank.isBlank) (l := text), body]
  simp only [List.any_append, none, Bool.false_or]

theorem read?_ok_iff (text : List Char) : (∃ x, read? text = .ok x) ↔ ¬ Separated text := by
  unfold read? Separated
  cases numeral : decimal? (text.dropWhile Blank.isBlank) with
  | none => simp
  | some found =>
    obtain ⟨x, rest⟩ := found
    rw [separator_of_numeral numeral]
    dsimp only
    split
    · next blank =>
      split
      · next separated =>
        obtain ⟨c, member, separator⟩ := List.any_eq_true.mp separated
        refine iff_of_false (by simp) (not_not.mpr ?_)
        exact ⟨x, rest, c, rfl, List.all_eq_true.mp blank, member, separator⟩
      · next clean =>
        refine iff_of_true ⟨_, rfl⟩ ?_
        rintro ⟨_, _, c, ⟨⟩, _, member, separator⟩
        exact clean (List.any_eq_true.mpr ⟨c, member, separator⟩)
    · next other =>
      refine iff_of_true ⟨_, rfl⟩ ?_
      rintro ⟨_, _, _, ⟨⟩, blank, _⟩
      exact other (List.all_eq_true.mpr blank)

end Numeral

end ScriptDialog
