import ScriptDialog.Proofs.Number.Exact
import ScriptDialog.Proofs.Number.Surrounded

/-! The integer at the start of a text, against the number that its sign and its digits denote. More
than ten digits are not converted, which is right where the zeros in front of them are plain: a
number of so many digits is beyond 32 bits. A zero of another script counts as a digit of the
number. -/
namespace ScriptDialog

namespace Digit

variable {c : Char} {n : Nat}

theorem toNat_cons (c : Char) (run : List Char) :
    toNat (c :: run) = (value? c).getD 0 * 10 ^ run.length + toNat run := by
  rw [← List.singleton_append, toNat_append]
  simp [toNat]

/-- A run that begins with no zero denotes as great a number as its length says. -/
theorem pow_le_toNat (digit : isDigit c) (nonzero : value? c ≠ some 0) (run : List Char) :
    10 ^ run.length ≤ toNat (c :: run) := by
  obtain ⟨n, value⟩ := Option.isSome_iff_exists.mp digit
  have positive : 0 < n := Nat.pos_of_ne_zero fun zero => nonzero (by rw [value, zero])
  rw [toNat_cons, value, Option.getD_some]
  calc 10 ^ run.length
    _ ≤ n * 10 ^ run.length := Nat.le_mul_of_pos_left _ positive
    _ ≤ n * 10 ^ run.length + toNat run := Nat.le_add_right _ _

end Digit

namespace Numeral

variable {text run : List Char} {minus : Bool} {n : Int} {m : Nat}

/-- At the start of the text stands a whole run of digits, behind an optional sign and blanks. -/
inductive Leads : List Char → Bool → List Char → Prop where
  | intro {blanks mark run rest : List Char} {minus : Bool}
      (leading : ∀ c ∈ blanks, Blank.isBlank c)
      (optional : Signed mark minus) (digits : Run run) (stop : Stops rest) :
      Leads (blanks ++ (mark ++ (run ++ rest))) minus run

/-- The bound of 32 bits on the side of the sign. -/
def limit (minus : Bool) : Int := if minus then int32Min else int32Max

/-- Neither at a bound of 32 bits nor beyond one. -/
def Inside (n : Int) : Prop := int32Min < n ∧ n < int32Max

instance (n : Int) : Decidable (Inside n) := inferInstanceAs (Decidable (_ ∧ _))

/-- A number inside the bounds in more than ten digits, not counting plain zeros in front. The first
of these digits is then a zero of another script. -/
structure Veiled (minus : Bool) (run : List Char) : Prop where
  zero : ∃ (zeros : Nat) (zero : Char) (rest : List Char),
    run = List.replicate zeros '0' ++ zero :: rest ∧ zero ≠ '0' ∧ Digit.value? zero = some 0 ∧
      10 ≤ rest.length
  inside : Inside (signed minus (Digit.toNat run))

theorem toInt32_eq_limit_iff (minus : Bool) (m : Nat) :
    limit minus = toInt32 (signed minus m) ↔ ¬ Inside (signed minus m) := by
  cases minus with
  | false =>
    simp only [limit, toInt32, Inside, signed, int32Min, int32Max, Bool.false_eq_true, if_false]
    omega
  | true =>
    simp only [limit, toInt32, Inside, signed, int32Min, int32Max, if_true]
    omega

theorem not_inside_of_large (large : 10 ^ 10 ≤ m) (minus : Bool) : ¬ Inside (signed minus m) := by
  intro inside
  simp only [Inside, int32Min, int32Max] at inside
  have size := natAbs_signed minus m
  omega

/-- Plain zeros in front, and what comes after them. -/
theorem exists_zeros (run : List Char) : ∃ zeros rest, run = List.replicate zeros '0' ++ rest ∧
    run.dropWhile (· = '0') = rest ∧ ∀ c ∈ rest.head?, c ≠ '0' := by
  refine ⟨(run.takeWhile (· = '0')).length, run.dropWhile (· = '0'), ?_, rfl, fun c front => ?_⟩
  · have zeros : run.takeWhile (· = '0') =
        List.replicate (run.takeWhile (· = '0')).length '0' :=
      List.eq_replicate_of_mem fun c member => by simpa using List.mem_takeWhile_imp member
    rw [← zeros, List.takeWhile_append_dropWhile]
  · simpa using Blank.head?_dropWhile run c front

theorem dropZeros_replicate {zero : Char} (other : zero ≠ '0') (zeros : Nat) (rest : List Char) :
    (List.replicate zeros '0' ++ zero :: rest).dropWhile (· = '0') = zero :: rest := by
  apply Blank.dropWhile_front
  · intro c member
    simpa using List.eq_of_mem_replicate member
  · simpa using other

/-- The count of digits takes a number for too great just where a zero of another script is in
it. -/
theorem veiled_iff (digits : Run run) : Veiled minus run ↔
    10 < (run.dropWhile (· = '0')).length ∧ Inside (signed minus (Digit.toNat run)) := by
  constructor
  · rintro ⟨⟨zeros, zero, rest, rfl, other, _, long⟩, inside⟩
    rw [dropZeros_replicate other, List.length_cons]
    exact ⟨by omega, inside⟩
  · rintro ⟨long, inside⟩
    refine ⟨?_, inside⟩
    obtain ⟨zeros, rest, rfl, dropped, front⟩ := exists_zeros run
    rw [dropped] at long
    cases rest with
    | nil => simp at long
    | cons zero rest =>
      rw [List.length_cons] at long
      refine ⟨zeros, zero, rest, rfl, front zero rfl, ?_, by omega⟩
      by_contra nonzero
      have digit : Digit.isDigit zero := digits.digits zero (by simp)
      rw [Digit.toNat_zeros_append] at inside
      refine not_inside_of_large ?_ minus inside
      calc 10 ^ 10
        _ ≤ 10 ^ rest.length := Nat.pow_le_pow_right (by decide) (by omega)
        _ ≤ Digit.toNat (zero :: rest) := Digit.pow_le_toNat digit nonzero rest

theorem toNat_dropZeros (run : List Char) :
    Digit.toNat (run.dropWhile (· = '0')) = Digit.toNat run := by
  obtain ⟨zeros, rest, whole, dropped, _⟩ := exists_zeros run
  rw [dropped, whole, Digit.toNat_zeros_append]

/-- What is read of the start of a text. -/
theorem sign_of_leads (leads : Leads text minus run) :
    ∃ body, sign (text.dropWhile Blank.isBlank) = (minus, body) ∧ (digits body).1 = run := by
  cases leads with
  | @intro blanks mark run rest minus leading optional all stop =>
    obtain ⟨c, tail, whole, digit, unsigned⟩ := all.cons
    have visible : ∀ d ∈ (mark ++ (run ++ rest)).head?, Blank.isBlank d = false := by
      cases optional with
      | none => simpa [whole] using isBlank_of_isDigit digit
      | plus | minus => simp; decide
    refine ⟨run ++ rest, ?_, by rw [digits_run all.digits stop]⟩
    rw [Blank.dropWhile_front leading visible, whole]
    exact sign_complete optional unsigned _

theorem leads_of_sign {body : List Char}
    (read : sign (text.dropWhile Blank.isBlank) = (minus, body)) (nonempty : (digits body).1 ≠ []) :
    Leads text minus (digits body).1 := by
  obtain ⟨mark, front, optional⟩ := sign_sound (text.dropWhile Blank.isBlank)
  rw [read] at front optional
  rw [digits_eq] at nonempty ⊢
  have whole : text = text.takeWhile Blank.isBlank ++
      (mark ++ (body.takeWhile Digit.isDigit ++ body.dropWhile Digit.isDigit)) := by
    rw [List.takeWhile_append_dropWhile, ← front, List.takeWhile_append_dropWhile]
  rw [whole]
  exact .intro (fun c member => List.mem_takeWhile_imp member) optional
    ⟨nonempty, fun c member => List.mem_takeWhile_imp member⟩ (Blank.head?_dropWhile body)

theorem readIntStart_of_leads (leads : Leads text minus run) : readIntStart text =
    if 10 < (run.dropWhile (· = '0')).length then limit minus
    else toInt32 (signed minus (Digit.toNat run)) := by
  obtain ⟨body, read, rfl⟩ := sign_of_leads leads
  rw [readIntStart, read]
  simp only [toNat_dropZeros]
  rfl

theorem readIntStart_of_not_leads (none : ∀ minus run, ¬ Leads text minus run) :
    readIntStart text = 0 := by
  cases read : sign (text.dropWhile Blank.isBlank) with
  | mk minus body =>
    have empty : (digits body).1 = [] := by
      by_contra nonempty
      exact none minus _ (leads_of_sign read nonempty)
    rw [readIntStart, read]
    simp only [empty]
    cases minus <;> rfl

theorem run_of_leads (leads : Leads text minus run) : Run run := by
  cases leads with
  | intro _ _ digits _ => exact digits

theorem readIntStart_iff_of_leads (leads : Leads text minus run) :
    readIntStart text = toInt32 (signed minus (Digit.toNat run)) ↔ ¬ Veiled minus run := by
  rw [veiled_iff (run_of_leads leads), readIntStart_of_leads leads]
  by_cases many : 10 < (run.dropWhile (· = '0')).length
  · rw [if_pos many, toInt32_eq_limit_iff]
    simp [many]
  · rw [if_neg many]
    simp [many]

theorem readIntStart_of_veiled (leads : Leads text minus run) (veiled : Veiled minus run) :
    readIntStart text = limit minus := by
  have many := ((veiled_iff (run_of_leads leads)).mp veiled).1
  rw [readIntStart_of_leads leads, if_pos many]

/-- Digits of the plain script hide nothing. -/
theorem not_veiled_of_plain (plain : ∀ c ∈ run, c.isDigit) : ¬ Veiled minus run := by
  rintro ⟨⟨zeros, zero, rest, whole, other, value, _⟩, _⟩
  have digit : zero.isDigit := plain zero (by rw [whole]; simp)
  have bounds := Digit.bounds_of_isDigit digit
  rw [Digit.value?_ascii digit, Option.some.injEq] at value
  have same : zero.toNat = '0'.toNat := by
    show zero.toNat = 0x30
    omega
  exact other (Char.toNat_inj.mp same)

/-- A written integer is read up to its last digit, whatever comes after it. -/
theorem readIntStart_append (n : Int) {rest : List Char} (stop : Stops rest) :
    readIntStart ((toString n).toList ++ rest) = toInt32 n := by
  have digits : Run (Nat.toDigits 10 n.natAbs) := run_toDigits 0 n.natAbs
  have leads : Leads ([] ++ (Numeral.minus (n < 0) ++ (Nat.toDigits 10 n.natAbs ++ rest))) (n < 0)
      (Nat.toDigits 10 n.natAbs) :=
    .intro (by simp) (signed_minus (n < 0)) digits stop
  have clear : ¬ Veiled (n < 0) (Nat.toDigits 10 n.natAbs) :=
    not_veiled_of_plain Digit.isDigit_toDigits
  have read := (readIntStart_iff_of_leads leads).mpr clear
  rw [Digit.toNat_toDigits, signed_natAbs] at read
  rw [toString_minus, List.append_assoc]
  exact read

/-- The integer at the start of a text is the number denoted there, brought within 32 bits, unless
zeros of another script veil it. Then the bound of its sign is read, and without digits zero is. -/
theorem readIntStart_exact_iff (text : List Char) :
    (∀ minus run, Leads text minus run →
      (readIntStart text = toInt32 (signed minus (Digit.toNat run)) ↔ ¬ Veiled minus run) ∧
        (Veiled minus run → readIntStart text = limit minus)) ∧
      ((∀ minus run, ¬ Leads text minus run) → readIntStart text = 0) := by
  refine ⟨fun minus run leads => ?_, readIntStart_of_not_leads⟩
  exact ⟨readIntStart_iff_of_leads leads, readIntStart_of_veiled leads⟩

/-- Zeros of two scripts in front of a number behind blanks, and another text behind it. -/
theorem readIntStart_exact_iff_mixed :
    let text := ['\t', ' ', '-', '0', '0', '\u0660', '4', '2', 'x']
    let run := ['0', '0', '\u0660', '4', '2']
    Leads text true run ∧ ¬ Veiled true run ∧ readIntStart text = -42 := by
  intro text run
  have blanks : ['\t', ' '].all Blank.isBlank := by decide
  have digits : run.all Digit.isDigit := by decide
  have value : Digit.toNat run = 42 := by decide
  have leads : Leads text true run :=
    .intro (List.all_eq_true.mp blanks) .minus ⟨by simp [run], List.all_eq_true.mp digits⟩
      (stops_cons (c := 'x') (by decide) [])
  have clear : ¬ Veiled true run := by
    rw [veiled_iff (run_of_leads leads)]
    decide
  refine ⟨leads, clear, ?_⟩
  rw [((readIntStart_exact_iff text).1 true run leads).1.mpr clear, value]
  rfl

/-- Eleven zeros of another script denote zero, and are read as the greatest integer. -/
theorem readIntStart_veiled :
    let text := List.replicate 11 '\u0660'
    Leads text false text ∧ toInt32 (signed false (Digit.toNat text)) = 0 ∧
      readIntStart text = int32Max := by
  intro text
  have digits : text.all Digit.isDigit := by decide
  have all : Run text := ⟨by simp [text], List.all_eq_true.mp digits⟩
  have leads : Leads ([] ++ ([] ++ (text ++ []))) false text :=
    .intro (by simp) .none all stops_nil
  refine ⟨by simpa using leads, by decide, by decide⟩

end Numeral

end ScriptDialog
