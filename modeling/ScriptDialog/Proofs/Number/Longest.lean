import ScriptDialog.Proofs.Number.Surrounded
import ScriptDialog.Value.Numeric

/-! The number at the start of a text is the longest one that stands there. Each part of a numeral
is taken as far as it goes: a part that could be taken leaves no less behind than what is taken, and
where a complete exponent stands the mantissa ends in front of it. In printable text the spaces and
the longest number behind them are then what is converted. -/
namespace ScriptDialog.Numeral

open Blank (isBlank aroundNumber Between)

variable {text taken body rest run whole fraction : List Char} {c : Char} {e : Int} {x : Double}

/-! The longest numeral. -/

theorem digits_append (all : ∀ c ∈ run, Digit.isDigit c) (rest : List Char) :
    digits (run ++ rest) = (run ++ (digits rest).1, (digits rest).2) := by
  rw [digits_eq, digits_eq, List.takeWhile_append_of_pos all, List.dropWhile_append_of_pos all]

theorem length_digits (text : List Char) : (digits text).2.length ≤ text.length := by
  rw [digits_eq]
  exact (List.dropWhile_sublist _).length_le

/-- A mantissa in front is read as one that is no shorter. -/
theorem mantissa?_longest (mantissa : Mantissa taken whole fraction) (rest : List Char) :
    ∃ whole' fraction' after, mantissa? (taken ++ rest) = some (whole', fraction', after) ∧
      after.length ≤ rest.length := by
  have point (after : List Char) : Stops ('.' :: after) := stops_cons (by decide) _
  unfold mantissa?
  cases mantissa with
  | pointless run =>
    have shorter := length_digits rest
    rw [digits_append run.digits]
    obtain ⟨c, tail, rfl, _⟩ := run.cons
    generalize (digits rest).2 = after at shorter ⊢
    split
    · next front => cases (Prod.mk.inj front).1
    · next front => cases (Prod.mk.inj front).1
    · next later _ front =>
      obtain ⟨_, rfl⟩ := Prod.mk.inj front
      have further := length_digits later
      rw [List.length_cons] at shorter
      exact ⟨_, (digits later).1, (digits later).2, rfl, by omega⟩
    · next front =>
      obtain ⟨_, rfl⟩ := Prod.mk.inj front
      exact ⟨_, _, _, rfl, shorter⟩
  | pointed run all =>
    rw [List.append_assoc, List.cons_append, digits_run run.digits (point _)]
    obtain ⟨c, tail, rfl, _⟩ := run.cons
    refine ⟨_, (digits (fraction ++ rest)).1, (digits (fraction ++ rest)).2, rfl, ?_⟩
    rw [digits_append all]
    exact length_digits rest
  | behind run =>
    have none : digits ('.' :: fraction ++ rest) = ([], '.' :: (fraction ++ rest)) :=
      digits_run (List.forall_mem_nil _) (point _)
    obtain ⟨c, tail, rfl, _⟩ := run.cons
    simp only [none, digits_append run.digits]
    exact ⟨_, _, _, rfl, length_digits rest⟩

theorem length_exponent (text : List Char) : (exponent text).2.length ≤ text.length := by
  obtain ⟨taken, whole, _⟩ := exponent_sound text
  conv_rhs => rw [whole]
  simp

/-- An exponent in front is read as one that is no shorter. -/
theorem exponent_longest (power : Power taken e) (rest : List Char) :
    (exponent (taken ++ rest)).2.length ≤ rest.length := by
  cases power with
  | none => exact length_exponent rest
  | @power letter sign run minus mark signed digits =>
    have found := digits_append digits.digits rest
    obtain ⟨c, tail, rfl, _, unsigned⟩ := digits.cons
    have after := sign_complete signed unsigned (tail ++ rest)
    simp only [List.cons_append, List.append_assoc, exponent, mark, if_true] at after found ⊢
    simp only [after, found]
    exact length_digits rest

theorem decimal?_of_sign {minus : Bool} (front : sign text = (minus, body))
    (read : mantissa? body = some (whole, fraction, rest)) :
    decimal? text = some (.ofDecimal minus (Digit.toNat (whole ++ fraction))
      ((exponent rest).1 - fraction.length), (exponent rest).2) := by
  rw [decimal?_eq, front, read]
  rfl

/-- A numeral in front is read as one that is no shorter. -/
theorem Denotes.longest (denotes : Denotes taken x) (rest : List Char) :
    ∃ y after, decimal? (taken ++ rest) = some (y, after) ∧ after.length ≤ rest.length := by
  cases denotes with
  | @intro mark body power whole fraction minus e signed mantissa exponent =>
    have front : sign (mark ++ (body ++ (power ++ rest))) = (minus, body ++ (power ++ rest)) := by
      obtain ⟨c, tail, rfl, unsigned⟩ := mantissa.cons
      exact sign_complete signed unsigned _
    rw [List.append_assoc, List.append_assoc]
    cases exponent with
    | none =>
      obtain ⟨whole', fraction', after, read, shorter⟩ := mantissa?_longest mantissa rest
      exact ⟨_, _, decimal?_of_sign front read, (length_exponent after).trans shorter⟩
    | @power letter sign run minus letterE signed digits =>
      -- the letter ends the mantissa, so the exponent is read behind it
      have ends : Stops (letter :: (sign ++ run) ++ rest) ∧
          (letter :: (sign ++ run) ++ rest).head? ≠ some '.' := by
        rcases letterE with rfl | rfl
        · exact ⟨stops_cons (by decide) _, by simp⟩
        · exact ⟨stops_cons (by decide) _, by simp⟩
      exact ⟨_, _, decimal?_of_sign front (mantissa?_complete mantissa ends.1 ends.2),
        exponent_longest (.power letterE signed digits) rest⟩

/-! Numerals and words. -/

theorem mantissa?_eq_none (other : Digit.isDigit c = false) (pointless : c ≠ '.')
    (rest : List Char) : mantissa? (c :: rest) = none := by
  have none : digits (c :: rest) = ([], c :: rest) :=
    @digits_run [] _ (List.forall_mem_nil _) (stops_cons other rest)
  simp [mantissa?, none, pointless]

/-- No numeral begins like a word. -/
theorem Names.decimal?_eq_none (names : Names taken x) (rest : List Char) :
    decimal? (taken ++ rest) = none := by
  obtain ⟨mark, minus, c, tail, rfl, signed, letter⟩ := names.head
  have other : Digit.isDigit c = false ∧ c ≠ '.' ∧ c ≠ '-' ∧ c ≠ '+' := by
    simp only [List.mem_cons, List.not_mem_nil, or_false] at letter
    rcases letter with rfl | rfl | rfl | rfl <;> decide
  obtain ⟨noDigit, pointless, unsigned⟩ := other
  have front := sign_complete signed unsigned (tail ++ rest)
  rw [List.append_assoc, List.cons_append, decimal?_eq, front,
    mantissa?_eq_none noDigit pointless]
  rfl

/-- A number without anything around it, and the double that it stands for. -/
inductive Figure (text : List Char) (x : Double) : Prop where
  | numeral (denotes : Denotes text x) : Figure text x
  | word (names : Names text x) : Figure text x

namespace Figure

/-- A number in front is read as one that is no shorter. -/
theorem longest (figure : Figure taken x) (rest : List Char) : ∃ y after,
    (decimal? (taken ++ rest)).or (named? (taken ++ rest)) = some (y, after) ∧
      after.length ≤ rest.length := by
  cases figure with
  | numeral denotes =>
    obtain ⟨y, after, read, shorter⟩ := denotes.longest rest
    exact ⟨y, after, by rw [read, Option.some_or], shorter⟩
  | word names =>
    obtain ⟨after, read, shorter⟩ := names.read rest
    exact ⟨x, after, by rw [names.decimal?_eq_none, Option.none_or, read], shorter⟩

theorem read (figure : Figure text x) : (decimal? text).or (named? text) = some (x, []) := by
  cases figure with
  | numeral denotes =>
    have whole := decimal?_complete denotes ends_nil
    rw [List.append_nil] at whole
    rw [whole, Option.some_or]
  | word names =>
    obtain ⟨after, word, shorter⟩ := names.read []
    have none := names.decimal?_eq_none []
    rw [List.append_nil] at word none
    rw [none, Option.none_or, word, List.length_eq_zero_iff.mp (Nat.le_zero.mp shorter)]

/-- A number holds no blank, and nothing that its conversion groups or refuses. -/
theorem clean (figure : Figure text x) :
    ∀ c ∈ text, isBlank c = false ∧ isFalseI c = false ∧ c ≠ '_' := by
  intro c member
  cases figure with
  | numeral denotes =>
    have inside := denotes.inNumeral c member
    exact ⟨inside.visible, inside.clean.2, inside.ne_underscore⟩
  | word names =>
    have marks : (['-', '+'] ++ spellings).all
        fun c => !isBlank c && !isFalseI c && c != '_' := by decide
    simpa [and_assoc] using names.forall_mem marks c member

theorem head (figure : Figure text x) : ∀ c ∈ (text ++ rest).head?, isBlank c = false := by
  have nonempty : text ≠ [] := by
    rintro rfl
    cases figure.read
  obtain ⟨c, tail, rfl⟩ := List.exists_cons_of_ne_nil nonempty
  simpa using (figure.clean c (by simp)).1

theorem readDouble (literal : String) (between : Between aroundNumber body text)
    (figure : Figure body x) : Numeral.readDouble literal text = .ok x :=
  readDouble_of_read literal between (fun c member => (figure.clean c member).1)
    (fun member => (figure.clean _ member).2.2 rfl) (fun c member => (figure.clean c member).2.1)
    figure.read

end Figure

theorem figure_of_read (ascii : ∀ c ∈ text, c.toNat < 0x80)
    (read : (decimal? text).or (named? text) = some (x, rest)) :
    ∃ taken, text = taken ++ rest ∧ Figure taken x := by
  rcases Option.or_eq_some_iff.mp read with numeral | ⟨_, word⟩
  · obtain ⟨taken, whole, denotes⟩ := decimal?_sound numeral
    exact ⟨taken, whole, .numeral denotes⟩
  · obtain ⟨taken, whole, names⟩ := names_of_named? ascii word
    exact ⟨taken, whole, .word names⟩

/-! The start of a text. -/

/-- Spaces and a number behind them. In ASCII its digits are those from 0 to 9. -/
inductive Spaced : List Char → Prop where
  | intro (spaces : Nat) {figure : List Char} {x : Double} (spelled : Figure figure x) :
      Spaced (List.replicate spaces ' ' ++ figure)

/-- The longest start of a text that has a form. -/
structure Longest (form : List Char → Prop) (text start : List Char) : Prop where
  front : start <+: text
  formed : form start
  longest : ∀ other, other <+: text → form other → other.length ≤ start.length

/-- The double that stands at the start of a text: the longest start with the form of a number is
converted, and without such a start it is zero. -/
inductive Starts (text : List Char) : Double → Prop where
  | number {start : List Char} {x : Double} (longest : Longest Spaced text start)
      (converted : (Value.text (String.ofList start)).toDouble = .ok x) : Starts text x
  | nothing (absent : ∀ start, start <+: text → ¬ Spaced start) : Starts text .zero

theorem Longest.unique {form : List Char → Prop} {start start' : List Char}
    (first : Longest form text start) (second : Longest form text start') : start = start' := by
  have shorter := first.longest start' second.front second.formed
  have longer := second.longest start first.front first.formed
  have front := List.prefix_of_prefix_length_le first.front second.front longer
  exact front.eq_of_length (Nat.le_antisymm longer shorter)

theorem Starts.unique {y : Double} (first : Starts text x) (second : Starts text y) : x = y := by
  cases first with
  | number longest converted =>
    cases second with
    | number longest' converted' =>
      cases longest.unique longest'
      exact Except.ok.inj (converted.symm.trans converted')
    | nothing absent => exact absurd longest.formed (absent _ longest.front)
  | nothing absent =>
    cases second with
    | number longest => exact absurd longest.formed (absent _ longest.front)
    | nothing => rfl

theorem toDouble_text (text : List Char) : (Value.text (String.ofList text)).toDouble =
    readDouble (Literal.ofText (String.ofList text)) text := by
  show readDouble _ (String.ofList text).toList = _
  rw [String.toList_ofList]

theorem aroundNumber_spaces (spaces : Nat) : ∀ c ∈ List.replicate spaces ' ', aroundNumber c := by
  intro c member
  rw [List.eq_of_mem_replicate member]
  decide

/-- Spaces in front make no difference to the conversion, which gives the number that is read. -/
theorem toDouble_spaced (spaces : Nat) (figure : Figure text x) :
    (Value.text (String.ofList (List.replicate spaces ' ' ++ text))).toDouble = .ok x := by
  rw [toDouble_text]
  exact figure.readDouble _
    ⟨List.replicate spaces ' ', [], by simp, aroundNumber_spaces spaces, List.forall_mem_nil _⟩

/-- The blanks in front of a printable text are spaces. -/
theorem exists_spaces (printable : ∀ c ∈ text, 0x20 ≤ c.toNat ∧ c.toNat < 0x7F) :
    ∃ spaces, text = List.replicate spaces ' ' ++ text.dropWhile isBlank := by
  have blanks : text.takeWhile isBlank = List.replicate (text.takeWhile isBlank).length ' ' := by
    refine List.eq_replicate_of_mem fun c member => ?_
    obtain ⟨low, high⟩ := printable c ((List.takeWhile_sublist _).subset member)
    have same : c.toNat = 0x20 := by
      by_contra other
      have visible := Blank.isBlank_visible (c := c) (by omega) (by omega)
      exact absurd ((List.mem_takeWhile_imp member).symm.trans visible) (by decide)
    exact Char.toNat_inj.mp same
  refine ⟨(text.takeWhile isBlank).length, ?_⟩
  rw [← blanks, List.takeWhile_append_dropWhile]

theorem Figure.dropWhile_spaces (figure : Figure taken x) (spaces : Nat) (rest : List Char) :
    (List.replicate spaces ' ' ++ taken ++ rest).dropWhile isBlank = taken ++ rest := by
  have leading : ∀ c ∈ List.replicate spaces ' ', isBlank c := fun c member =>
    ((aroundNumber_iff c).mp (aroundNumber_spaces spaces c member)).1
  rw [List.append_assoc]
  exact Blank.dropWhile_front leading figure.head

/-- Spaces and the number that is read behind them are the longest start of this form. Any other one
has as many spaces, so that its number stands at the same place. -/
theorem Figure.longest_spaced {y : Double} (figure : Figure taken x)
    (read : (decimal? (taken ++ rest)).or (named? (taken ++ rest)) = some (y, rest))
    (spaces : Nat) :
    Longest Spaced (List.replicate spaces ' ' ++ taken ++ rest)
      (List.replicate spaces ' ' ++ taken) := by
  refine ⟨List.prefix_append _ _, .intro spaces figure, fun other front spaced => ?_⟩
  obtain ⟨rest', whole⟩ := front
  cases spaced with
  | @intro spaces' figure' z spelled =>
    have body : figure' ++ rest' = taken ++ rest := by
      rw [← figure.dropWhile_spaces spaces, ← spelled.dropWhile_spaces spaces', whole]
    obtain ⟨_, after, found, shorter⟩ := spelled.longest rest'
    rw [body, read] at found
    cases found
    have lengths := congrArg List.length whole
    simp only [List.length_append] at lengths ⊢
    omega

/-- The start of a printable text is read as the double that stands there. -/
theorem readStart_starts (printable : ∀ c ∈ text, 0x20 ≤ c.toNat ∧ c.toNat < 0x7F) :
    ∃ x, readStart text = .ok x ∧ Starts text x := by
  have low : ∀ c ∈ text, 0x20 ≤ c.toNat ∧ c.toNat ≤ 0x7F := fun c member =>
    have bounds := printable c member
    ⟨bounds.1, by omega⟩
  refine ⟨_, readStart_printable low, ?_⟩
  cases read : (decimal? (text.dropWhile isBlank)).or (named? (text.dropWhile isBlank)) with
  | none =>
    refine .nothing ?_
    rintro _ ⟨rest, rfl⟩ ⟨spaces, spelled⟩
    obtain ⟨y, after, found, _⟩ := spelled.longest rest
    rw [← spelled.dropWhile_spaces spaces, read] at found
    cases found
  | some found =>
    obtain ⟨x, rest⟩ := found
    have ascii : ∀ c ∈ text.dropWhile isBlank, c.toNat < 0x80 := fun c member =>
      have bounds := low c ((List.dropWhile_sublist _).subset member)
      by omega
    obtain ⟨spaces, whole⟩ := exists_spaces printable
    obtain ⟨taken, body, figure⟩ := figure_of_read ascii read
    rw [body] at read whole
    have longest := figure.longest_spaced read spaces
    rw [List.append_assoc, ← whole] at longest
    exact .number longest (toDouble_spaced spaces figure)

/-! Texts that are a number as a whole. -/

theorem longest_self {form : List Char → Prop} (formed : form text) : Longest form text text :=
  ⟨List.prefix_rfl, formed, fun _ front _ => front.length_le⟩

theorem Figure.spaced (figure : Figure text x) : Spaced text := .intro 0 figure

/-- The exact text of a double is a number that stands for the same double. -/
theorem figure_exactText (x : Double) : Figure (Decimal.exactText x) x := by
  have plain (word : List Char) : Cased word word :=
    List.forall₂_same.mpr fun _ _ => .inl rfl
  cases x with
  | nan => exact .word (.nan .none (plain _))
  | infinite negative => exact .word (.infinite (signed_minus negative) (.inl (plain _)))
  | finite negative size =>
    obtain ⟨body, n, power, written, spelled, same⟩ := Decimal.exactText_finite negative size
    obtain ⟨digits, whole, fraction, ending, e, rfl, mantissa, exponent, rfl, rfl⟩ :=
      spelled.mantissa
    rw [written, ← same]
    exact .numeral (.intro (signed_minus negative) mantissa exponent)

end ScriptDialog.Numeral
