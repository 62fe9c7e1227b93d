import ScriptDialog.Proofs.Number.Grammar
import ScriptDialog.Proofs.Number.Reading
import ScriptDialog.Proofs.Text.Token

/-! How forms are spelled out: digits with or without a point, and with or without an exponent. Any
such text is read as its digits and its power of ten, and is plain text of a token. -/
namespace ScriptDialog

theorem Numeral.signed_minus (negative : Bool) : Signed (minus negative) negative := by
  cases negative with
  | false => exact .none
  | true => exact .minus

namespace Decimal

open Numeral

/-- The end of a spelling, with the exponent it stands for. -/
inductive Ending : List Char → Int → Prop where
  | none : Ending [] 0
  | power (e : Int) : Ending ('e' :: exponentText e) e

/-- A text that spells out `n · 10 ^ power` without a sign. -/
inductive Spells : List Char → Nat → Int → Prop where
  | pointed (whole fraction : List Char) {ending : List Char} {e : Int} (nonempty : whole ≠ [])
      (wholeDigits : ∀ c ∈ whole, c.isDigit) (fractionDigits : ∀ c ∈ fraction, c.isDigit)
      (ended : Ending ending e) :
      Spells (whole ++ '.' :: (fraction ++ ending)) (Digit.toNat (whole ++ fraction))
        (e - fraction.length)
  | pointless {whole ending : List Char} {e : Int} (nonempty : whole ≠ [])
      (wholeDigits : ∀ c ∈ whole, c.isDigit) (ended : Ending ending e) :
      Spells (whole ++ ending) (Digit.toNat whole) e

theorem exponentText_eq (e : Int) : ∃ zeros, exponentText e =
    (if e < 0 then '-' else '+') :: (List.replicate zeros '0' ++ Nat.toDigits 10 e.natAbs) := by
  by_cases single : (Nat.toDigits 10 e.natAbs).length < 2
  · exact ⟨1, by simp [exponentText, single]⟩
  · exact ⟨0, by simp [exponentText, single]⟩

theorem Ending.spelt {ending : List Char} {e : Int} (ended : Ending ending e) :
    Power ending e := by
  cases ended with
  | none => exact .none
  | power e =>
    obtain ⟨zeros, written⟩ := exponentText_eq e
    have run := run_toDigits zeros e.natAbs
    have value : Digit.toNat (List.replicate zeros '0' ++ Nat.toDigits 10 e.natAbs) = e.natAbs := by
      simp [Digit.toNat_zeros_append]
    rw [written]
    by_cases negative : e < 0
    · have power : Power ('e' :: (['-'] ++ _)) _ := .power (.inl rfl) .minus run
      have same : -(e.natAbs : Int) = e := by omega
      rw [value, if_pos rfl, same] at power
      rwa [if_pos negative]
    · have power : Power ('e' :: (['+'] ++ _)) _ := .power (.inl rfl) .plus run
      have same : (e.natAbs : Int) = e := by omega
      rw [value, if_neg Bool.false_ne_true, same] at power
      rwa [if_neg negative]

theorem plain_of_isDigit {c : Char} (digit : c.isDigit) : Token.Plain c := by
  have bounds := Digit.bounds_of_isDigit digit
  have other {d : Char} (outside : d.isDigit = false) : c ≠ d := by
    rintro rfl
    simp [digit] at outside
  exact ⟨by omega, by omega, other rfl, other rfl, other rfl, other rfl⟩

/-- What holds of digits, of the other marks of a number, and of the letters of the words for what
is no number. -/
structure Marks (p : Char → Prop) : Prop where
  digit : ∀ {c : Char}, c.isDigit → p c
  point : p '.'
  letter : p 'e'
  plus : p '+'
  minus : p '-'
  word : p 'n' ∧ p 'a' ∧ p 'i' ∧ p 'f'

theorem marks_plain : Marks Token.Plain where
  digit := plain_of_isDigit
  point := by decide
  letter := by decide
  plus := by decide
  minus := by decide
  word := by decide

theorem Ending.forall_mem {p : Char → Prop} (marks : Marks p) {ending : List Char} {e : Int}
    (ended : Ending ending e) : ∀ c ∈ ending, p c := by
  cases ended with
  | none => simp
  | power e =>
    obtain ⟨zeros, written⟩ := exponentText_eq e
    intro c member
    simp only [written, List.mem_cons, List.mem_append] at member
    rcases member with rfl | rfl | zero | digit
    · exact marks.letter
    · split
      · exact marks.minus
      · exact marks.plus
    · exact marks.digit (Digit.zeros_isDigit c zero)
    · exact marks.digit (Digit.isDigit_toDigits c digit)

namespace Spells

variable {text : List Char} {n : Nat} {power : Int}

theorem head (spelled : Spells text n power) : ∃ c rest, text = c :: rest ∧ c.isDigit := by
  cases spelled with
  | pointed _ _ nonempty wholeDigits =>
    obtain ⟨c, rest, rfl⟩ := List.exists_cons_of_ne_nil nonempty
    exact ⟨c, _, rfl, wholeDigits c (by simp)⟩
  | pointless nonempty wholeDigits =>
    obtain ⟨c, rest, rfl⟩ := List.exists_cons_of_ne_nil nonempty
    exact ⟨c, _, rfl, wholeDigits c (by simp)⟩

theorem forall_mem {p : Char → Prop} (marks : Marks p) (spelled : Spells text n power) :
    ∀ c ∈ text, p c := by
  intro c member
  cases spelled with
  | pointed _ _ _ wholeDigits fractionDigits ended =>
    simp only [List.mem_append, List.mem_cons] at member
    rcases member with inside | rfl | inside | inside
    · exact marks.digit (wholeDigits c inside)
    · exact marks.point
    · exact marks.digit (fractionDigits c inside)
    · exact ended.forall_mem marks c inside
  | pointless _ wholeDigits ended =>
    rcases List.mem_append.mp member with inside | inside
    · exact marks.digit (wholeDigits c inside)
    · exact ended.forall_mem marks c inside

theorem mantissa (spelled : Spells text n power) : ∃ body whole fraction ending e,
    text = body ++ ending ∧ Mantissa body whole fraction ∧ Power ending e ∧
      n = Digit.toNat (whole ++ fraction) ∧ power = e - fraction.length := by
  have ascii {run : List Char} (all : ∀ c ∈ run, c.isDigit) : ∀ c ∈ run, Digit.isDigit c :=
    fun c member => Digit.isDigit_ascii (all c member)
  cases spelled with
  | pointed whole fraction nonempty wholeDigits fractionDigits ended =>
    have body := Mantissa.pointed ⟨nonempty, ascii wholeDigits⟩ (ascii fractionDigits)
    exact ⟨_, _, _, _, _, by simp, body, ended.spelt, rfl, rfl⟩
  | pointless nonempty wholeDigits ended =>
    have body := Mantissa.pointless ⟨nonempty, ascii wholeDigits⟩
    exact ⟨_, _, _, _, _, rfl, body, ended.spelt, by simp, by simp⟩

/-- A spelling with a sign is read as a whole. -/
theorem read (spelled : Spells text n power) (negative : Bool) :
    decimal? (minus negative ++ text) = some (.ofDecimal negative n power, []) := by
  obtain ⟨body, whole, fraction, ending, e, rfl, mantissa, ended, rfl, rfl⟩ := spelled.mantissa
  have read := decimal?_complete (.intro (signed_minus negative) mantissa ended) ends_nil
  rwa [List.append_nil] at read

end Spells

section Write

variable {digits : List Char} (all : ∀ c ∈ digits, c.isDigit)
include all

/-- All digits behind the point. -/
theorem spells_behind {point : Int} (small : point ≤ 0) :
    Spells ('0' :: '.' :: List.replicate point.natAbs '0' ++ digits) (Digit.toNat digits)
      (point - digits.length) := by
  have spelled := Spells.pointed (List.replicate 1 '0') (List.replicate point.natAbs '0' ++ digits)
    (by simp) Digit.zeros_isDigit (List.forall_mem_append.mpr ⟨Digit.zeros_isDigit, all⟩) .none
  rw [Digit.toNat_zeros_append, Digit.toNat_zeros_append, List.append_nil] at spelled
  have power : (0 - (List.replicate point.natAbs '0' ++ digits).length : Int) =
      point - digits.length := by
    simp only [List.length_append, List.length_replicate]
    omega
  rwa [power] at spelled

variable (nonempty : digits ≠ [])
include nonempty

/-- Zeros in the places up to the point. -/
theorem spells_filled (pointed : Bool) (zeros : Nat) :
    ∃ shift : Nat, Spells
      (digits ++ List.replicate zeros '0' ++ (if pointed then ['.', '0'] else []))
      (Digit.toNat digits * 10 ^ shift) (zeros - shift) := by
  have wholeDigits : ∀ c ∈ digits ++ List.replicate zeros '0', c.isDigit :=
    List.forall_mem_append.mpr ⟨all, Digit.zeros_isDigit⟩
  have filled : digits ++ List.replicate zeros '0' ≠ [] := by simp [nonempty]
  cases pointed with
  | true =>
    have spelled := Spells.pointed _ (List.replicate 1 '0') filled wholeDigits Digit.zeros_isDigit
      .none
    have value : Digit.toNat (digits ++ List.replicate zeros '0' ++ List.replicate 1 '0') =
        Digit.toNat digits * 10 ^ (zeros + 1) := by
      rw [List.append_assoc, List.replicate_append_replicate, Digit.toNat_append_zeros]
    rw [value] at spelled
    exact ⟨zeros + 1, by simpa using spelled⟩
  | false =>
    have spelled := Spells.pointless filled wholeDigits .none
    rw [Digit.toNat_append_zeros] at spelled
    exact ⟨zeros, by simpa using spelled⟩

/-- The point between two digits. -/
theorem spells_between (place : Nat) (pos : 0 < place) (inside : place < digits.length) :
    Spells (digits.take place ++ '.' :: digits.drop place) (Digit.toNat digits)
      (place - digits.length) := by
  have spelled := Spells.pointed (digits.take place) (digits.drop place)
    (by simp [nonempty]; omega) (fun c member => all c (List.mem_of_mem_take member))
    (fun c member => all c (List.mem_of_mem_drop member)) .none
  have power : (0 - (digits.drop place).length : Int) = place - digits.length := by
    rw [List.length_drop]
    omega
  rwa [List.take_append_drop, List.append_nil, power] at spelled

end Write

/-- One digit before the point, and an exponent. -/
theorem spells_power {d : Char} {rest : List Char} (all : ∀ c ∈ d :: rest, c.isDigit) (e : Int) :
    Spells (d :: '.' :: rest ++ 'e' :: exponentText e) (Digit.toNat (d :: rest))
      (e - rest.length) :=
  Spells.pointed [d] rest (by simp) (by simpa using all d (by simp))
    (fun c member => all c (List.mem_cons_of_mem _ member)) (.power e)

/-- A form is spelled with its own digits, perhaps with zeros after them. -/
theorem Style.spells_write (style : Style) {form : Form} (all : ∀ c ∈ form.digits, c.isDigit)
    (nonempty : form.digits ≠ []) :
    ∃ shift : Nat, Spells (style.write form) (Digit.toNat form.digits * 10 ^ shift)
      (form.point - form.digits.length - shift) := by
  unfold Style.write
  by_cases positional : -4 ≤ form.point - 1 ∧ form.point - 1 < style.limit
  · simp only [positional, and_self, if_true]
    by_cases small : form.point ≤ 0
    · simp only [small, if_true]
      exact ⟨0, by simpa using spells_behind all small⟩
    · have place : (form.point.toNat : Int) = form.point := by omega
      simp only [small, if_false]
      by_cases long : form.digits.length ≤ form.point.toNat
      · obtain ⟨shift, spelled⟩ := spells_filled all nonempty style.pointed
          (form.point.toNat - form.digits.length)
        have power : ((form.point.toNat - form.digits.length : Nat) - shift : Int) =
            form.point - form.digits.length - shift := by omega
        rw [power] at spelled
        simp only [long, if_true]
        exact ⟨shift, spelled⟩
      · have spelled := spells_between all nonempty form.point.toNat (by omega) (by omega)
        rw [place] at spelled
        simp only [long, if_false]
        exact ⟨0, by simpa using spelled⟩
  · simp only [positional, if_false]
    obtain ⟨d, rest, written⟩ := List.exists_cons_of_ne_nil nonempty
    rw [written] at all ⊢
    cases rest with
    | nil => exact ⟨0, by simpa using Spells.pointless (by simp) all (.power (form.point - 1))⟩
    | cons next rest =>
      have spelled := spells_power all (form.point - 1)
      have power : form.point - 1 - (next :: rest).length =
          form.point - (d :: next :: rest).length := by
        simp only [List.length_cons]
        omega
      rw [power] at spelled
      exact ⟨0, by simpa using spelled⟩

end Decimal

end ScriptDialog
