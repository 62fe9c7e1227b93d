import Mathlib.Data.List.TakeWhile
import ScriptDialog.Number.Reading
import ScriptDialog.Proofs.Number.Digits

/-! The grammar of decimal numerals, and the reader against it. What is read at the start of a text
is a numeral of the grammar, and a numeral is read as a whole in front of anything that cannot
continue it. -/
namespace ScriptDialog.Numeral

/-- An optional sign, and whether it is the minus. -/
inductive Signed : List Char → Bool → Prop where
  | none : Signed [] false
  | plus : Signed ['+'] false
  | minus : Signed ['-'] true

/-- At least one digit, of any script. -/
structure Run (run : List Char) : Prop where
  nonempty : run ≠ []
  digits : ∀ c ∈ run, Digit.isDigit c

/-- Digits with an optional point and a fraction, or a point and digits. -/
inductive Mantissa : (text whole fraction : List Char) → Prop where
  | pointless {whole : List Char} (run : Run whole) : Mantissa whole whole []
  | pointed {whole fraction : List Char} (run : Run whole)
      (digits : ∀ c ∈ fraction, Digit.isDigit c) :
      Mantissa (whole ++ '.' :: fraction) whole fraction
  | behind {fraction : List Char} (run : Run fraction) : Mantissa ('.' :: fraction) [] fraction

/-- An optional exponent and its value. -/
inductive Power : List Char → Int → Prop where
  | none : Power [] 0
  | power {letter : Char} {sign run : List Char} {minus : Bool} (mark : letter = 'e' ∨ letter = 'E')
      (signed : Signed sign minus) (digits : Run run) :
      Power (letter :: (sign ++ run))
        (if minus then -(Digit.toNat run : Int) else Digit.toNat run)

/-- A decimal numeral and the double nearest to its value. -/
inductive Denotes : List Char → Double → Prop where
  | intro {sign body power whole fraction : List Char} {minus : Bool} {e : Int}
      (signed : Signed sign minus) (mantissa : Mantissa body whole fraction)
      (exponent : Power power e) :
      Denotes (sign ++ (body ++ power))
        (.ofDecimal minus (Digit.toNat (whole ++ fraction)) (e - fraction.length))

/-- Where no numeral can go on. -/
def Ends (rest : List Char) : Prop :=
  ∀ c ∈ rest.head?, Digit.isDigit c = false ∧ c ≠ '.' ∧ c ≠ 'e' ∧ c ≠ 'E'

variable {text rest run whole fraction : List Char} {x : Double} {e : Int} {minus : Bool}

theorem ends_nil : Ends [] := by simp [Ends]

theorem Ends.stops (ends : Ends rest) : Stops rest := fun c front => (ends c front).1

/-- What may stand in a numeral. -/
def InNumeral (c : Char) : Prop := Digit.isDigit c ∨ c ∈ ['-', '+', '.', 'e', 'E']

theorem Signed.inNumeral (signed : Signed text minus) : ∀ c ∈ text, InNumeral c := by
  have mark (c : Char) (sign : c = '-' ∨ c = '+') : InNumeral c := by
    rcases sign with rfl | rfl
    · exact .inr (by simp)
    · exact .inr (by simp)
  cases signed with
  | none => simp
  | plus => simpa using mark '+' (.inr rfl)
  | minus => simpa using mark '-' (.inl rfl)

theorem Mantissa.inNumeral (mantissa : Mantissa text whole fraction) : ∀ c ∈ text, InNumeral c := by
  have point : InNumeral '.' := .inr (by simp)
  intro c member
  cases mantissa with
  | pointless run => exact .inl (run.digits c member)
  | pointed run digits =>
    rcases List.mem_append.mp member with front | behind
    · exact .inl (run.digits c front)
    · rcases List.mem_cons.mp behind with rfl | inside
      · exact point
      · exact .inl (digits c inside)
  | behind run =>
    rcases List.mem_cons.mp member with rfl | inside
    · exact point
    · exact .inl (run.digits c inside)

theorem Power.inNumeral (power : Power text e) : ∀ c ∈ text, InNumeral c := by
  cases power with
  | none => simp
  | power mark signed digits =>
    intro c member
    rcases List.mem_cons.mp member with rfl | inside
    · rcases mark with rfl | rfl
      · exact .inr (by simp)
      · exact .inr (by simp)
    · rcases List.mem_append.mp inside with sign | run
      · exact signed.inNumeral c sign
      · exact .inl (digits.digits c run)

theorem Denotes.inNumeral (denotes : Denotes text x) : ∀ c ∈ text, InNumeral c := by
  cases denotes with
  | intro signed mantissa power =>
    intro c member
    rcases List.mem_append.mp member with sign | later
    · exact signed.inNumeral c sign
    · rcases List.mem_append.mp later with body | exponent
      · exact mantissa.inNumeral c body
      · exact power.inNumeral c exponent

theorem toNat_of_isDigit {c : Char} (digit : Digit.isDigit c) : 0x30 ≤ c.toNat := by
  have low : ∀ start ∈ Digit.zeros, 0x30 ≤ start := by decide
  unfold Digit.isDigit Digit.value? at digit
  rw [Option.isSome_map] at digit
  obtain ⟨start, found⟩ := Option.isSome_iff_exists.mp digit
  have bounds := List.find?_some found
  have above := low start (List.mem_of_find?_eq_some found)
  simp only [Bool.and_eq_true, decide_eq_true_eq] at bounds
  omega

theorem isFalseI_of_class (q : Char → Bool) (dotless : ¬ q 'ı') (dotted : ¬ q 'İ') {c : Char}
    (here : q c) : isFalseI c = false := by
  rw [isFalseI, Bool.or_eq_false_iff, beq_eq_false_iff_ne, beq_eq_false_iff_ne]
  constructor
  · rintro rfl
    exact dotless here
  · rintro rfl
    exact dotted here

theorem InNumeral.clean {c : Char} (inside : InNumeral c) :
    isSeparator c = false ∧ isFalseI c = false := by
  rcases inside with digit | mark
  · constructor
    · have low := toNat_of_isDigit digit
      simp [isSeparator]
      omega
    · exact isFalseI_of_class Digit.isDigit (by decide) (by decide) digit
  · simp only [List.mem_cons, List.not_mem_nil, or_false] at mark
    rcases mark with rfl | rfl | rfl | rfl | rfl <;> decide

/-- The digits a number is written with, with zeros in front of them. -/
theorem run_toDigits (zeros m : Nat) : Run (List.replicate zeros '0' ++ Nat.toDigits 10 m) where
  nonempty := List.append_ne_nil_of_right_ne_nil _ Nat.toDigits_ne_nil
  digits := by
    intro c member
    apply Digit.isDigit_ascii
    rcases List.mem_append.mp member with zero | digit
    · exact Digit.zeros_isDigit c zero
    · exact Digit.isDigit_toDigits c digit

/-- A sign and digits alone denote a whole number. -/
theorem Run.denotes {sign : List Char} (run' : Run run) (signed : Signed sign minus) :
    Denotes (sign ++ run) (.ofDecimal minus (Digit.toNat run) 0) := by
  have whole := Denotes.intro signed (.pointless run') .none
  simpa only [List.append_nil, List.length_nil, Nat.cast_zero, sub_zero] using whole

/-! What is read is in the grammar. -/

theorem sign_sound (text : List Char) :
    ∃ taken, text = taken ++ (sign text).2 ∧ Signed taken (sign text).1 := by
  unfold sign
  split
  · exact ⟨['-'], rfl, .minus⟩
  · exact ⟨['+'], rfl, .plus⟩
  · exact ⟨[], rfl, .none⟩

theorem digits_sound (read : digits text = (run, rest)) :
    text = run ++ rest ∧ ∀ c ∈ run, Digit.isDigit c := by
  rw [digits_eq] at read
  obtain ⟨rfl, rfl⟩ := Prod.mk.inj read
  exact ⟨List.takeWhile_append_dropWhile.symm, fun c member => List.mem_takeWhile_imp member⟩

theorem mantissa?_sound (read : mantissa? text = some (whole, fraction, rest)) :
    ∃ taken, text = taken ++ rest ∧ Mantissa taken whole fraction := by
  unfold mantissa? at read
  split at read
  · next after front =>
    split at read
    · cases read
    · next nonempty behind =>
      cases read
      obtain ⟨rfl, _⟩ := digits_sound front
      obtain ⟨rfl, all⟩ := digits_sound behind
      exact ⟨'.' :: fraction, rfl, .behind ⟨nonempty, all⟩⟩
  · cases read
  · next run after nonempty front =>
    obtain ⟨rfl, behind⟩ := Prod.mk.inj (Option.some.inj read)
    obtain ⟨rfl, all⟩ := digits_sound front
    obtain ⟨rfl, all'⟩ := digits_sound behind
    exact ⟨_, by simp, .pointed ⟨nonempty, all⟩ all'⟩
  · next run after nonempty _ front =>
    cases read
    obtain ⟨rfl, all⟩ := digits_sound front
    exact ⟨_, rfl, .pointless ⟨nonempty, all⟩⟩

theorem exponent_sound (text : List Char) :
    ∃ taken, text = taken ++ (exponent text).2 ∧ Power taken (exponent text).1 := by
  unfold exponent
  split
  · exact ⟨[], rfl, .none⟩
  · next letter after =>
    split
    · next mark =>
      obtain ⟨signText, whole, signed⟩ := sign_sound after
      dsimp only
      split
      · exact ⟨[], rfl, .none⟩
      · next run later nonempty front =>
        obtain ⟨body, all⟩ := digits_sound front
        refine ⟨letter :: (signText ++ run), ?_, .power mark signed ⟨nonempty, all⟩⟩
        rw [List.cons_append, List.append_assoc, ← body, ← whole]
    · exact ⟨[], rfl, .none⟩

theorem decimal?_eq (text : List Char) : decimal? text =
    (mantissa? (sign text).2).map fun (whole, fraction, rest) =>
      (.ofDecimal (sign text).1 (Digit.toNat (whole ++ fraction))
        ((exponent rest).1 - fraction.length), (exponent rest).2) := rfl

/-- The text begins with a numeral of the value that is read. -/
theorem decimal?_sound (read : decimal? text = some (x, rest)) :
    ∃ taken, text = taken ++ rest ∧ Denotes taken x := by
  rw [decimal?_eq] at read
  obtain ⟨⟨whole, fraction, after⟩, mantissa, done⟩ := Option.map_eq_some_iff.mp read
  obtain ⟨value, tail⟩ := Prod.mk.inj done
  obtain ⟨signText, signFront, signed⟩ := sign_sound text
  obtain ⟨body, bodyFront, spelled⟩ := mantissa?_sound mantissa
  obtain ⟨power, powerFront, powered⟩ := exponent_sound after
  rw [tail] at powerFront
  refine ⟨signText ++ (body ++ power), ?_, value ▸ .intro signed spelled powered⟩
  rw [List.append_assoc, List.append_assoc, ← powerFront, ← bodyFront, ← signFront]

/-! What is in the grammar is read. -/

theorem sign_complete {taken : List Char} (signed : Signed taken minus) {c : Char}
    (unsigned : c ≠ '-' ∧ c ≠ '+') (rest : List Char) :
    sign (taken ++ c :: rest) = (minus, c :: rest) := by
  cases signed with
  | none => simp [sign, unsigned.1, unsigned.2]
  | plus => rfl
  | minus => rfl

theorem Run.cons (run : Run text) :
    ∃ c rest, text = c :: rest ∧ Digit.isDigit c ∧ c ≠ '-' ∧ c ≠ '+' := by
  obtain ⟨c, rest, rfl⟩ := List.exists_cons_of_ne_nil run.nonempty
  have digit := run.digits c (by simp)
  refine ⟨c, rest, rfl, digit, ?_, ?_⟩
  · rintro rfl
    exact absurd digit (by decide)
  · rintro rfl
    exact absurd digit (by decide)

theorem Mantissa.cons (mantissa : Mantissa text whole fraction) :
    ∃ c rest, text = c :: rest ∧ c ≠ '-' ∧ c ≠ '+' := by
  cases mantissa with
  | pointless run =>
    obtain ⟨c, rest, rfl, _, unsigned⟩ := run.cons
    exact ⟨c, rest, rfl, unsigned⟩
  | pointed run =>
    obtain ⟨c, rest, rfl, _, unsigned⟩ := run.cons
    exact ⟨c, _, rfl, unsigned⟩
  | behind => exact ⟨'.', _, rfl, by decide, by decide⟩

theorem Denotes.cons (denotes : Denotes text x) : ∃ c rest, text = c :: rest := by
  cases denotes with
  | @intro signText body power whole fraction minus e signed mantissa powered =>
    obtain ⟨c, rest, rfl, _⟩ := mantissa.cons
    apply List.exists_cons_of_ne_nil
    simp

theorem mantissa?_complete (mantissa : Mantissa text whole fraction) (stop : Stops rest)
    (pointless : rest.head? ≠ some '.') :
    mantissa? (text ++ rest) = some (whole, fraction, rest) := by
  have point (after : List Char) : Stops ('.' :: after) := stops_cons (by decide) _
  unfold mantissa?
  cases mantissa with
  | pointless run =>
    rw [digits_run run.digits stop]
    obtain ⟨c, tail, rfl, _⟩ := run.cons
    cases rest with
    | nil => rfl
    | cons d rest =>
      have other : d ≠ '.' := fun same => pointless (by simp [same])
      simp [other]
  | pointed run digits =>
    rw [List.append_assoc, List.cons_append, digits_run run.digits (point _)]
    obtain ⟨c, tail, rfl, _⟩ := run.cons
    simp only [digits_run digits stop]
  | behind run =>
    have none : digits ('.' :: fraction ++ rest) = ([], '.' :: (fraction ++ rest)) :=
      digits_run (List.forall_mem_nil _) (point _)
    obtain ⟨c, tail, rfl, _⟩ := run.cons
    simp only [none, digits_run run.digits stop]

theorem exponent_complete (power : Power text e) (ends : Ends rest) :
    exponent (text ++ rest) = (e, rest) := by
  cases power with
  | none =>
    cases rest with
    | nil => rfl
    | cons c rest =>
      obtain ⟨_, _, small, capital⟩ := ends c rfl
      simp [exponent, small, capital]
  | @power letter signText run minus mark signed digits =>
    have found := digits_run digits.digits ends.stops
    obtain ⟨c, tail, rfl, _, unsigned⟩ := digits.cons
    have after : sign (signText ++ (c :: tail ++ rest)) = (minus, c :: tail ++ rest) :=
      sign_complete signed unsigned _
    simp only [List.cons_append, List.append_assoc, exponent, mark, if_true] at after found ⊢
    simp only [after, found]

theorem Power.pointless (power : Power text e) (ends : Ends rest) :
    Stops (text ++ rest) ∧ (text ++ rest).head? ≠ some '.' := by
  cases power with
  | none =>
    refine ⟨ends.stops, fun front => ?_⟩
    exact (ends '.' front).2.1 rfl
  | power mark signed digits =>
    rcases mark with rfl | rfl
    · exact ⟨stops_cons (by decide) _, by simp⟩
    · exact ⟨stops_cons (by decide) _, by simp⟩

/-- A numeral is read up to its end. -/
theorem decimal?_complete (denotes : Denotes text x) (ends : Ends rest) :
    decimal? (text ++ rest) = some (x, rest) := by
  cases denotes with
  | @intro signText body power whole fraction minus e signed mantissa exponent =>
    obtain ⟨c, tail, front, unsigned⟩ := mantissa.cons
    have signRead :
        sign (signText ++ (body ++ (power ++ rest))) = (minus, body ++ (power ++ rest)) := by
      rw [front]
      exact sign_complete signed unsigned _
    obtain ⟨stop, pointless⟩ := exponent.pointless ends
    have bodyRead := mantissa?_complete mantissa stop pointless
    have powerRead := exponent_complete exponent ends
    simp only [decimal?_eq, List.append_assoc, signRead, bodyRead, Option.map_some, powerRead]

end ScriptDialog.Numeral
