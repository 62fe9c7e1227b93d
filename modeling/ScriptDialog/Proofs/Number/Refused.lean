import ScriptDialog.Proofs.Number.Word

/-! The starts of texts that are taken for a number and then refused. A numeral is refused for the
blanks before it alone; a word is also refused for a letter that only passes for i. -/
namespace ScriptDialog.Numeral

/-- The text goes on with the rest, after characters that all are such. -/
def Takes (p : Char → Prop) (text rest : List Char) : Prop :=
  ∃ taken, text = taken ++ rest ∧ ∀ c ∈ taken, p c

namespace Takes

variable {p q : Char → Prop} {a b c : List Char}

theorem refl (a : List Char) : Takes p a a := ⟨[], rfl, by simp⟩

theorem cons {d : Char} (here : p d) (later : Takes p a b) : Takes p (d :: a) b := by
  obtain ⟨taken, rfl, all⟩ := later
  exact ⟨d :: taken, rfl, List.forall_mem_cons.mpr ⟨here, all⟩⟩

theorem trans (first : Takes p a b) (second : Takes p b c) : Takes p a c := by
  obtain ⟨taken, rfl, all⟩ := first
  obtain ⟨taken', rfl, all'⟩ := second
  refine ⟨taken ++ taken', by simp, fun d member => ?_⟩
  rcases List.mem_append.mp member with front | back
  · exact all d front
  · exact all' d back

theorem imp (weaker : ∀ c, p c → q c) (takes : Takes p a b) : Takes q a b := by
  obtain ⟨taken, rfl, all⟩ := takes
  exact ⟨taken, rfl, fun c member => weaker c (all c member)⟩

theorem before_eq (taken rest : List Char) : before (taken ++ rest) rest = taken := by
  simp [before]

theorem forall_before (takes : Takes p a b) : ∀ c ∈ before a b, p c := by
  obtain ⟨taken, rfl, all⟩ := takes
  rwa [before_eq]

end Takes

variable {p : Char → Prop} {text rest : List Char}

theorem sign_takes (minus : p '-') (plus : p '+') (text : List Char) :
    Takes p text (sign text).2 := by
  unfold sign
  split
  · exact .cons minus (.refl _)
  · exact .cons plus (.refl _)
  · exact .refl _

theorem decimal?_takes {x : Double} (found : decimal? text = some (x, rest)) :
    Takes InNumeral text rest := by
  obtain ⟨taken, whole, denotes⟩ := decimal?_sound found
  exact ⟨taken, whole, denotes.inNumeral⟩

/-- Each letter of a word is taken in some spelling. -/
theorem word?_takes {word : List Char} (spelled : ∀ w ∈ word, ∀ c, isLetter w c → p c)
    (found : word? word text = some rest) : Takes p text rest := by
  obtain ⟨taken, rfl, letters⟩ := word?_iff.mp found
  refine ⟨taken, rfl, fun c member => ?_⟩
  obtain ⟨w, place, letter⟩ := left_of_forall₂ letters member
  exact spelled w place c letter

theorem named?_takes {x : Double} (minus : p '-') (plus : p '+')
    (spelled : ∀ w ∈ ['i', 'n', 'f', 't', 'y', 'a'], ∀ c, isLetter w c → p c)
    (found : named? text = some (x, rest)) : Takes p text rest := by
  have letters {word : List Char} (known : word ⊆ ['i', 'n', 'f', 't', 'y', 'a']) :
      ∀ w ∈ word, ∀ c, isLetter w c → p c := fun w member => spelled w (known member)
  refine (sign_takes minus plus text).trans ?_
  unfold named? at found
  dsimp only at found
  split at found
  · next after inf =>
    cases found
    refine (word?_takes (letters (by simp)) inf).trans ?_
    cases more : word? ['i', 'n', 'i', 't', 'y'] after with
    | none => exact .refl _
    | some rest => exact word?_takes (letters (by simp)) more
  · obtain ⟨after, nan, done⟩ := Option.map_eq_some_iff.mp found
    cases done
    exact word?_takes (letters (by simp)) nan

theorem isSeparator_letter {w c : Char} (lower : 0x61 ≤ w.toNat) (letter : isLetter w c) :
    isSeparator c = false := by
  have above : 0x1F < c.toNat := by
    unfold isLetter at letter
    simp only [Bool.or_eq_true, Bool.and_eq_true, beq_iff_eq] at letter
    rcases letter with (rfl | shifted) | ⟨_, rfl | rfl⟩
    · omega
    · omega
    · decide
    · decide
  simp [isSeparator]
  omega

/-- The start of a text is taken for a number but refused. -/
inductive Refused (text : List Char) : Prop where
  /-- A separator is among the blanks before the number. -/
  | separated {x : Double} {rest : List Char} {c : Char}
      (number : (decimal? (text.dropWhile Blank.isBlank)).or
        (named? (text.dropWhile Blank.isBlank)) = some (x, rest))
      (blank : c ∈ text.takeWhile Blank.isBlank) (separator : isSeparator c)
  /-- A letter that only passes for i is in the word. -/
  | misspelt {x : Double} {rest : List Char} {c : Char}
      (noNumeral : decimal? (text.dropWhile Blank.isBlank) = none)
      (word : named? (text.dropWhile Blank.isBlank) = some (x, rest))
      (letter : c ∈ before (text.dropWhile Blank.isBlank) rest) (falseI : isFalseI c)

theorem number_takes {x : Double} (number : (decimal? text).or (named? text) = some (x, rest)) :
    Takes (fun c => isSeparator c = false) text rest := by
  rcases Option.or_eq_some_iff.mp number with numeral | ⟨_, word⟩
  · exact (decimal?_takes numeral).imp fun c inside => inside.clean.1
  · refine named?_takes (by decide) (by decide) ?_ word
    have lower : ∀ w ∈ ['i', 'n', 'f', 't', 'y', 'a'], 0x61 ≤ w.toNat := by simp
    intro w member c letter
    exact isSeparator_letter (lower w member) letter

/-- What is taken for a number are the blanks and the number itself. -/
theorem before_number {x : Double} (number : (decimal? (text.dropWhile Blank.isBlank)).or
    (named? (text.dropWhile Blank.isBlank)) = some (x, rest)) :
    before text rest =
      text.takeWhile Blank.isBlank ++ before (text.dropWhile Blank.isBlank) rest := by
  obtain ⟨taken, body, _⟩ := number_takes number
  have whole : text = (text.takeWhile Blank.isBlank ++ taken) ++ rest := by
    rw [List.append_assoc, ← body, List.takeWhile_append_dropWhile]
  conv_lhs => rw [whole]
  rw [Takes.before_eq, body, Takes.before_eq]

/-- What is taken holds a separator or a false letter just where such a one is in its place. -/
theorem taken_refused {x : Double} (number : (decimal? (text.dropWhile Blank.isBlank)).or
    (named? (text.dropWhile Blank.isBlank)) = some (x, rest)) :
    ((before text rest).any isSeparator || (before text rest).any isFalseI) = true ↔
      Refused text := by
  rw [Bool.or_eq_true, List.any_eq_true, List.any_eq_true, before_number number]
  simp only [List.mem_append]
  constructor
  · rintro (⟨c, blank | taken, separator⟩ | ⟨c, blank | taken, falseI⟩)
    · exact .separated number blank separator
    · have clean := (number_takes number).forall_before c taken
      exact absurd (clean.symm.trans separator) (by decide)
    · have clean := isFalseI_of_class Blank.isBlank (by decide) (by decide)
        (List.mem_takeWhile_imp blank)
      exact absurd (clean.symm.trans falseI) (by decide)
    · rcases Option.or_eq_some_iff.mp number with numeral | ⟨none, word⟩
      · have clean := ((decimal?_takes numeral).forall_before c taken).clean.2
        exact absurd (clean.symm.trans falseI) (by decide)
      · exact .misspelt none word taken falseI
  · rintro (⟨_, blank, separator⟩ | ⟨none, word, letter, falseI⟩)
    · exact .inl ⟨_, .inl blank, separator⟩
    · rw [none, Option.none_or, word] at number
      cases number
      exact .inr ⟨_, .inr letter, falseI⟩

/-- The start of every other text is read, as zero where it is no number. -/
theorem readStart_ok_iff (text : List Char) : (∃ x, readStart text = .ok x) ↔ ¬ Refused text := by
  unfold readStart
  dsimp only
  cases number : (decimal? (text.dropWhile Blank.isBlank)).or
    (named? (text.dropWhile Blank.isBlank)) with
  | none =>
    refine iff_of_true ⟨.zero, rfl⟩ ?_
    rintro (⟨number', _, _⟩ | ⟨none, word, _, _⟩)
    · cases number.symm.trans number'
    · rw [none, Option.none_or, word] at number
      cases number
  | some found =>
    rw [← taken_refused number]
    dsimp only
    split
    · next refused => simp [refused]
    · next clean => exact iff_of_true ⟨found.1, rfl⟩ clean

end ScriptDialog.Numeral
