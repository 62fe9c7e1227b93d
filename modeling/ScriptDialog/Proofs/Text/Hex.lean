import Mathlib.Data.List.Induction
import ScriptDialog.Proofs.Related
import ScriptDialog.Text.Blank
import ScriptDialog.Text.Hex

/-! Hexadecimal digits: what a number is written with is read as the number, in either case of the
letters and with any zeros in front, and none of it is a blank. -/
namespace ScriptDialog.Hex

theorem value?_upperDigit {n : Nat} (digit : n < 16) : value? (upperDigit n) = some n := by
  revert n
  decide

theorem isBlank_upperDigit {n : Nat} (digit : n < 16) :
    Blank.isBlank (upperDigit n) = false := by
  revert n
  decide

theorem value?_lt {c : Char} {n : Nat} (found : value? c = some n) : n < 16 := by
  simp only [value?] at found
  split at found
  · cases found; omega
  · split at found
    · cases found; omega
    · split at found
      · cases found; omega
      · cases found

theorem mapM_value?_iff {digits : List Char} {values : List Nat} :
    digits.mapM value? = some values ↔
      List.Forall₂ (fun c n => value? c = some n) digits values := by
  induction digits generalizing values with
  | nil => cases values <;> simp [pure]
  | cons c digits ih =>
    rw [List.mapM_cons]
    constructor
    · intro read
      obtain ⟨first, here, read⟩ := Option.bind_eq_some_iff.mp read
      obtain ⟨rest, later, read⟩ := Option.bind_eq_some_iff.mp read
      cases read
      exact .cons here (ih.mp later)
    · intro each
      cases each with
      | cons here later =>
        rw [here, ih.mpr later]
        rfl

theorem lt_of_mapM {digits : List Char} {values : List Nat}
    (read : digits.mapM value? = some values) : ∀ n ∈ values, n < 16 := by
  intro n member
  obtain ⟨_, _, here⟩ := left_of_forall₂ (mapM_value?_iff.mp read) member
  exact value?_lt here

theorem upperDigit_digitChar {n : Nat} (digit : n < 16) :
    upperDigit ((value? (Nat.digitChar n)).getD 0) = upperDigit n := by
  revert n
  decide

theorem upper_small {n : Nat} (small : n < 16) : upper n = [upperDigit n] := by
  simp [upper, Nat.toDigits_of_lt_base small, upperDigit_digitChar small]

theorem upper_byte {n : Nat} (large : 16 ≤ n) (byte : n < 256) :
    upper n = [upperDigit (n / 16), upperDigit (n % 16)] := by
  have high : n / 16 < 16 := by omega
  have low : n % 16 < 16 := by omega
  rw [upper, Nat.toDigits_eq_if (by decide), if_neg (by omega), Nat.toDigits_of_lt_base high]
  simp only [List.map_append, List.map_cons, List.map_nil, upperDigit_digitChar high,
    upperDigit_digitChar low]
  rfl

theorem isBlank_of_isDigit {c : Char} (digit : isDigit c) : Blank.isBlank c = false := by
  have bounds : 0x30 ≤ c.toNat ∧ c.toNat ≤ 0x66 := by
    unfold isDigit value? at digit
    grind
  simp [Blank.isBlank, Ranges.contains, Blank.ranges]
  omega

theorem toNat_toLower (c : Char) : c.toLower.toNat =
    if 0x41 ≤ c.toNat ∧ c.toNat ≤ 0x5A then c.toNat + 0x20 else c.toNat := by
  have capital : (c.val ≥ 'A'.val ∧ c.val ≤ 'Z'.val) ↔ 0x41 ≤ c.toNat ∧ c.toNat ≤ 0x5A := by
    simp [UInt32.le_iff_toNat_le]
  unfold Char.toLower
  split
  · next upper =>
    obtain ⟨low, high⟩ := capital.mp upper
    rw [if_pos ⟨low, high⟩]
    show (c.val + ('a'.val - 'A'.val)).toNat = c.val.toNat + 0x20
    rw [UInt32.toNat_add]
    exact Nat.mod_eq_of_lt (Nat.lt_of_le_of_lt (Nat.add_le_add_right high _) (by decide))
  · next other => rw [if_neg (mt capital.mpr other)]

/-- The case of a digit makes no difference. -/
@[simp] theorem value?_toLower (c : Char) : value? c.toLower = value? c := by
  unfold value?
  rw [toNat_toLower]
  grind

@[simp] theorem isDigit_toLower (c : Char) : isDigit c.toLower = isDigit c := by
  simp [isDigit]

@[simp] theorem toNat_map_toLower (run : List Char) : toNat (run.map Char.toLower) = toNat run := by
  simp [toNat, List.foldl_map]

theorem value?_digitChar {n : Nat} (digit : n < 16) : value? (Nat.digitChar n) = some n := by
  revert n
  decide

theorem toNat_zeros_append (count : Nat) (run : List Char) :
    toNat (List.replicate count '0' ++ run) = toNat run := by
  induction count with
  | zero => rfl
  | succ count ih => exact ih

theorem toNat_concat (run : List Char) (c : Char) :
    toNat (run ++ [c]) = toNat run * 16 + (value? c).getD 0 := by
  simp [toNat]

/-- A run of digits denotes less than the power of its length. -/
theorem toNat_lt (run : List Char) : toNat run < Nat.pow 16 run.length := by
  induction run using List.reverseRecOn with
  | nil => decide
  | append_singleton run c ih =>
    have digit : (value? c).getD 0 < 16 := by
      cases found : value? c with
      | none => decide
      | some n => exact value?_lt found
    rw [toNat_concat, List.length_append, List.length_singleton]
    show _ < Nat.pow 16 run.length * 16
    omega

theorem isDigit_digitChar {n : Nat} (digit : n < 16) : isDigit (Nat.digitChar n) := by
  simp [isDigit, value?_digitChar digit]

/-- A number is written with digits that denote it. -/
theorem toDigits_denotes (n : Nat) :
    (∀ c ∈ Nat.toDigits 16 n, isDigit c) ∧ toNat (Nat.toDigits 16 n) = n := by
  induction n using Nat.strongRecOn with
  | ind n ih =>
    have last : n % 16 < 16 := Nat.mod_lt n (by decide)
    rw [Nat.toDigits_eq_if (by decide)]
    split
    · next small =>
      have value := value?_digitChar small
      exact ⟨by simpa using isDigit_digitChar small, by simp [toNat, value]⟩
    · obtain ⟨digits, value⟩ := ih (n / 16) (by omega)
      constructor
      · exact List.forall_mem_append.mpr ⟨digits, by simpa using isDigit_digitChar last⟩
      · rw [toNat_concat, value, value?_digitChar last, Option.getD_some]
        omega

end ScriptDialog.Hex
