import ScriptDialog.Proofs.Number.Limits
import ScriptDialog.Proofs.Text.Blank
import ScriptDialog.Proofs.Text.Hex

/-! Numerals between blanks. A text that consists of a decimal one is read as its value, unless a
separator is among the blanks: then it is refused, as it is when the whole text is converted to a
double. With the hexadecimal ones these are all the texts that are read as numbers. -/
namespace ScriptDialog.Numeral

open Blank (isBlank aroundNumber Between)

variable {text numeral body : List Char} {x : Double} {c : Char}

/-- No digit of any script is a blank. -/
theorem digits_visible : ∀ start ∈ Digit.zeros, ∀ range ∈ Blank.ranges,
    range.2 < start ∨ start + 10 ≤ range.1 := by
  decide +kernel

theorem isBlank_of_isDigit (digit : Digit.isDigit c) : isBlank c = false := by
  unfold Digit.isDigit Digit.value? at digit
  rw [Option.isSome_map] at digit
  obtain ⟨start, found⟩ := Option.isSome_iff_exists.mp digit
  have inside := List.find?_some found
  have apart := digits_visible start (List.mem_of_find?_eq_some found)
  simp only [Bool.and_eq_true, decide_eq_true_eq] at inside
  simp only [isBlank, Ranges.contains, List.any_eq_false, Bool.and_eq_true, decide_eq_true_eq]
  intro range member blank
  rcases apart range member with below | above
  · omega
  · omega

theorem InNumeral.visible (inside : InNumeral c) : isBlank c = false := by
  rcases inside with digit | mark
  · exact isBlank_of_isDigit digit
  · simp only [List.mem_cons, List.not_mem_nil, or_false] at mark
    rcases mark with rfl | rfl | rfl | rfl | rfl <;> decide

theorem Denotes.visible (denotes : Denotes text x) : ∀ c ∈ text, isBlank c = false :=
  fun c member => (denotes.inNumeral c member).visible

theorem aroundNumber_iff (c : Char) : aroundNumber c ↔ isBlank c ∧ isSeparator c = false := by
  simp only [aroundNumber, isSeparator, Bool.and_eq_true, Bool.not_eq_true']

theorem aroundNumber_of_separator (separator : isSeparator c) : aroundNumber c = false := by
  simp only [Bool.eq_false_iff, ne_eq, aroundNumber_iff, not_and]
  intro _ clean
  simp [separator] at clean

theorem ends_of_blank (blank : ∀ c ∈ text, isBlank c) : Ends text := by
  intro c front
  have here := blank c (List.mem_of_mem_head? front)
  have other (d : Char) (visible : isBlank d = false) : c ≠ d := by
    rintro rfl
    simp [visible] at here
  refine ⟨?_, other '.' (by decide), other 'e' (by decide), other 'E' (by decide)⟩
  by_contra digit
  have visible := isBlank_of_isDigit (Bool.not_eq_false _ ▸ digit)
  simp [visible] at here

/-! The conversion of a whole text. -/

theorem ungroup?_plain (plain : '_' ∉ text) : ungroup? text = some text := by
  induction text with
  | nil => rfl
  | cons c rest ih =>
    have here : c ≠ '_' := fun same => plain (by simp [same])
    have later : '_' ∉ rest := fun member => plain (List.mem_cons_of_mem _ member)
    rw [ungroup?]
    · simp [ih later]
    · rintro d after rfl
      exact absurd (by simp) later
    · exact here

theorem mem_of_ungroup? (found : ungroup? text = some body) (member : c ∈ text) (other : c ≠ '_') :
    c ∈ body := by
  fun_induction ungroup? text generalizing body with
  | case1 => cases member
  | case2 d e rest digits ih =>
    obtain ⟨later, read, rfl⟩ := Option.map_eq_some_iff.mp found
    rcases List.mem_cons.mp member with rfl | behind
    · simp
    · rcases List.mem_cons.mp behind with same | inside
      · exact absurd same other
      · exact List.mem_cons_of_mem _ (ih read inside)
  | case3 => cases found
  | case4 => cases found
  | case5 d rest _ _ ih =>
    obtain ⟨later, read, rfl⟩ := Option.map_eq_some_iff.mp found
    rcases List.mem_cons.mp member with rfl | inside
    · simp
    · exact List.mem_cons_of_mem _ (ih read inside)

theorem InNumeral.ne_underscore (inside : InNumeral c) : c ≠ '_' := by
  rintro rfl
  exact absurd inside (by unfold InNumeral; decide)

/-- What stands between blanks is converted as it is read, if nothing in it is grouped or
misspelt. -/
theorem readDouble_of_read (literal : String) (between : Between aroundNumber body text)
    (visible : ∀ c ∈ body, isBlank c = false) (plain : '_' ∉ body)
    (clean : ∀ c ∈ body, isFalseI c = false)
    (read : (decimal? body).or (named? body) = some (x, [])) : readDouble literal text = .ok x := by
  have trimmed := Blank.trimNumber_between between visible
  have none : body.any isFalseI = false :=
    List.any_eq_false.mpr fun c member => by simp [clean c member]
  simp only [readDouble, trimmed, ungroup?_plain plain, Option.bind_some, none, read,
    Bool.false_eq_true, if_false]

theorem readDouble_of_denotes (literal : String) (between : Between aroundNumber numeral text)
    (denotes : Denotes numeral x) : readDouble literal text = .ok x := by
  have whole : decimal? numeral = some (x, []) := by
    simpa using decimal?_complete denotes ends_nil
  exact readDouble_of_read literal between denotes.visible
    (fun member => (denotes.inNumeral _ member).ne_underscore rfl)
    (fun c member => (denotes.inNumeral c member).clean.2) (by rw [whole, Option.some_or])

/-- A separator is never trimmed, and stands in no number. -/
theorem readDouble_of_separator (literal : String) (member : c ∈ text) (separator : isSeparator c) :
    readDouble literal text = .error (.unreadable literal) := by
  have kept := Blank.mem_trimNumber member (aroundNumber_of_separator separator)
  have other : c ≠ '_' := by
    rintro rfl
    exact absurd separator (by decide)
  unfold readDouble
  cases found : ungroup? (Blank.trimNumber text) with
  | none => rfl
  | some body =>
    have inside := mem_of_ungroup? found kept other
    dsimp only [Option.bind_some]
    split
    · next y read =>
      split at read
      · cases read
      · obtain ⟨taken, whole, clean⟩ := number_takes read
        rw [List.append_nil] at whole
        have apart := clean c (whole ▸ inside)
        simp [separator] at apart
    · rfl

/-! The reading of a text that may be a number. -/

theorem between_of_read {rest : List Char}
    (read : decimal? (text.dropWhile isBlank) = some (x, rest)) (blank : rest.all isBlank) :
    ∃ numeral, Between isBlank numeral text ∧ Denotes numeral x := by
  obtain ⟨numeral, whole, denotes⟩ := decimal?_sound read
  refine ⟨numeral, ⟨text.takeWhile isBlank, rest, ?_, ?_, ?_⟩, denotes⟩
  · rw [← whole, List.takeWhile_append_dropWhile]
  · exact fun c member => List.mem_takeWhile_imp member
  · exact List.all_eq_true.mp blank

theorem between_around (between : Between isBlank numeral text)
    (clean : ∀ c ∈ text, isSeparator c = false) : Between aroundNumber numeral text := by
  obtain ⟨front, back, rfl, leading, trailing⟩ := between
  refine ⟨front, back, rfl, fun c member => ?_, fun c member => ?_⟩
  · exact (aroundNumber_iff c).mpr ⟨leading c member, clean c (by simp [member])⟩
  · exact (aroundNumber_iff c).mpr ⟨trailing c member, clean c (by simp [member])⟩

/-- A numeral between blanks is read as the conversion of the whole text has it, with its fault. -/
theorem read?_eq_readDouble (between : Between isBlank numeral text) (denotes : Denotes numeral x) :
    read? text = some <$> readDouble (String.ofList (Literal.ofChars text)) text := by
  obtain ⟨front, back, whole, leading, trailing⟩ := between
  have numeralFront : ∀ c ∈ (numeral ++ back).head?, isBlank c = false := by
    obtain ⟨c, rest, rfl⟩ := denotes.cons
    simpa using denotes.visible c (by simp)
  have dropped : text.dropWhile isBlank = numeral ++ back := by
    rw [whole]
    exact Blank.dropWhile_front leading numeralFront
  have read := decimal?_complete denotes (ends_of_blank trailing)
  have blank : back.all isBlank := List.all_eq_true.mpr trailing
  simp only [read?, dropped, read, blank, if_true]
  by_cases separated : text.any isSeparator
  · obtain ⟨c, member, separator⟩ := List.any_eq_true.mp separated
    rw [if_pos separated, readDouble_of_separator _ member separator]
    rfl
  · have clean : ∀ c ∈ text, isSeparator c = false := by
      simpa using separated
    have around := between_around ⟨front, back, whole, leading, trailing⟩ clean
    rw [if_neg separated, readDouble_of_denotes _ around denotes]
    rfl

/-- A decimal numeral between blanks, a separator among them. -/
def Interrupted (text : List Char) : Prop :=
  ∃ numeral x c, Between isBlank numeral text ∧ Denotes numeral x ∧ c ∈ text ∧ isSeparator c

/-- Just these texts are taken for a number and then refused. -/
theorem separated_iff : Separated text ↔ Interrupted text := by
  constructor
  · rintro ⟨x, rest, c, read, blank, member, separator⟩
    obtain ⟨numeral, between, denotes⟩ := between_of_read read (List.all_eq_true.mpr blank)
    refine ⟨numeral, x, c, between, denotes, ?_, separator⟩
    obtain ⟨taken, whole, _⟩ := decimal?_sound read
    rcases List.mem_append.mp member with front | back
    · exact (List.takeWhile_sublist _).subset front
    · apply (List.dropWhile_suffix isBlank).subset
      rw [whole]
      exact List.mem_append_right _ back
  · rintro ⟨numeral, x, c, between, denotes, member, separator⟩
    by_contra clean
    obtain ⟨y, read⟩ := (read?_ok_iff text).mpr clean
    rw [read?_eq_readDouble between denotes, readDouble_of_separator _ member separator] at read
    cases read

/-! Hexadecimal numerals. -/

/-- The prefix, and digits of base sixteen. -/
inductive Hexadecimal : List Char → Nat → Prop where
  | intro {mark : Char} {run : List Char} (mark_eq : mark = 'x' ∨ mark = 'X') (nonempty : run ≠ [])
      (digits : ∀ c ∈ run, Hex.isDigit c) : Hexadecimal ('0' :: mark :: run) (Hex.toNat run)

theorem Hexadecimal.visible {n : Nat} (spells : Hexadecimal text n) :
    ∀ c ∈ text, isBlank c = false := by
  cases spells with
  | intro mark nonempty digits =>
    intro c member
    simp only [List.mem_cons] at member
    rcases member with rfl | rfl | inside
    · decide
    · rcases mark with rfl | rfl <;> decide
    · exact Hex.isBlank_of_isDigit (digits c inside)

theorem hexadecimal?_iff {n : Nat} : hexadecimal? text = some n ↔
    ∃ body, Between isBlank body text ∧ Hexadecimal body n := by
  unfold hexadecimal?
  constructor
  · intro read
    split at read
    · next mark run trimmed =>
      obtain ⟨⟨mark, nonempty, digits⟩, value⟩ := Option.ite_some_none_eq_some.mp read
      refine ⟨Blank.trim text, Blank.between_trim text, ?_⟩
      rw [trimmed, ← value]
      exact .intro mark nonempty (List.all_eq_true.mp digits)
    · cases read
  · rintro ⟨body, between, spells⟩
    have trimmed := Blank.trim_between between spells.visible
    cases spells with
    | intro mark nonempty digits =>
      simp only [trimmed]
      rw [if_pos ⟨mark, nonempty, List.all_eq_true.mpr digits⟩]

theorem ends_mark {mark : Char} (mark_eq : mark = 'x' ∨ mark = 'X') (rest : List Char) :
    Ends (mark :: rest) := by
  intro c front
  cases Option.some.inj front
  rcases mark_eq with rfl | rfl <;> decide

/-- The zero in front of the mark is a decimal numeral, but not the whole text. -/
theorem read?_hexadecimal {n : Nat} (found : hexadecimal? text = some n) :
    read? text = .ok (Double.ofInt? n) := by
  obtain ⟨body, between, spells⟩ := hexadecimal?_iff.mp found
  have trimmed := Blank.trim_between between spells.visible
  have value : ((hexadecimal? text).bind fun n => Double.ofInt? n) = Double.ofInt? n := by
    rw [found, Option.bind_some]
  cases spells with
  | @intro mark run mark_eq nonempty digits =>
    have digit : Run ['0'] := run_toDigits 0 0
    obtain ⟨x, zero⟩ : ∃ x, Denotes ['0'] x := ⟨_, .intro .none (.pointless digit) .none⟩
    obtain ⟨back, dropped⟩ := Blank.trim_front text
    have read := decimal?_complete zero (ends_mark mark_eq (run ++ back))
    have visible : isBlank mark = false := by rcases mark_eq with rfl | rfl <;> decide
    unfold read?
    rw [value, ← dropped, trimmed]
    -- the double stands behind a variable, for nothing is to work it out
    generalize Double.ofInt? _ = result
    rw [List.cons_append, List.nil_append] at read
    simp only [List.cons_append, read, List.all_cons, visible, Bool.false_and, Bool.false_eq_true,
      if_false]

/-- The texts that denote a number, and the double that is taken for it. -/
inductive Spelt (text : List Char) : Double → Prop where
  | decimal {numeral : List Char} {x : Double} (between : Between aroundNumber numeral text)
      (denotes : Denotes numeral x) : Spelt text x
  | hexadecimal {body : List Char} {n : Nat} {x : Double} (between : Between isBlank body text)
      (spells : Hexadecimal body n) (nearest : Double.ofInt? n = some x) : Spelt text x

theorem read?_some_iff : read? text = .ok (some x) ↔ Spelt text x := by
  have hex (read : (.ok ((hexadecimal? text).bind fun n => Double.ofInt? n) :
      Except NumberFault (Option Double)) = .ok (some x)) : Spelt text x := by
    obtain ⟨n, found, nearest⟩ := Option.bind_eq_some_iff.mp (Except.ok.inj read)
    obtain ⟨body, between, spells⟩ := hexadecimal?_iff.mp found
    exact .hexadecimal between spells nearest
  constructor
  · intro read
    unfold read? at read
    split at read
    · next y rest numeral =>
      split at read
      · next blank =>
        split at read
        · cases read
        · next clean =>
          cases read
          obtain ⟨numeral, between, denotes⟩ := between_of_read numeral blank
          exact .decimal (between_around between (by simpa using clean)) denotes
      · exact hex read
    · exact hex read
  · intro spelt
    cases spelt with
    | decimal between denotes =>
      have blanks := between.imp fun c around => ((aroundNumber_iff c).mp around).1
      rw [read?_eq_readDouble blanks denotes, readDouble_of_denotes _ between denotes]
      rfl
    | hexadecimal between spells nearest =>
      rw [read?_hexadecimal (hexadecimal?_iff.mpr ⟨_, between, spells⟩), nearest]

end ScriptDialog.Numeral
