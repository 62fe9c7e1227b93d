import Mathlib.Data.List.TakeDrop
import ScriptDialog.Document.Reader

/-! The fuel of the readers. What is read is taken off the front of the text, so a reader comes to
its end before the fuel does, and with enough fuel the result does not depend on how much there
is. -/
namespace ScriptDialog.Document

variable {fuel : Nat} {text rest : List Char}

theorem length_skipSpace (text : List Char) : (skipSpace text).length ≤ text.length :=
  (List.dropWhile_suffix isSpace).length_le

/-- What comes after a mark that was found behind spaces is shorter. -/
theorem length_of_skipSpace {c : Char} (found : skipSpace text = c :: rest) :
    rest.length < text.length := by
  have short := length_skipSpace text
  rw [found] at short
  exact short

theorem length_unit? {n : Nat} (found : unit? text = some (n, rest)) :
    rest.length < text.length := by
  unfold unit? at found
  split at found
  · split at found
    · cases found
      simp only [List.length_cons]
      omega
    · cases found
  · cases found

theorem length_lowHalf? {n : Nat} (found : lowHalf? text = some (n, rest)) :
    rest.length < text.length := by
  unfold lowHalf? at found
  split at found
  · split at found
    · next unit =>
      split at found
      · cases found
        have short := length_unit? unit
        simp only [List.length_cons]
        omega
      · cases found
    · cases found
  · cases found

theorem length_codeEscape? {g : Glyph} (found : codeEscape? text = some (g, rest)) :
    rest.length < text.length := by
  unfold codeEscape? at found
  split at found
  · cases found
  · next unit =>
    have short := length_unit? unit
    split at found
    · split at found
      · next low =>
        obtain ⟨_, rfl⟩ := Prod.mk.inj (Option.some.inj found)
        exact Nat.lt_trans (length_lowHalf? low) short
      · cases found
        exact short
    · cases found
      exact short

theorem length_escape? {g : Glyph} (found : escape? text = some (g, rest)) :
    rest.length < text.length := by
  unfold escape? at found
  split at found
  · exact Nat.lt_succ_of_lt (length_codeEscape? found)
  · obtain ⟨image, _, same⟩ := Option.map_eq_some_iff.mp found
    cases same
    exact Nat.lt_succ_self _
  · cases found

theorem length_readText {read : List Glyph} (done : readText fuel text = .ok (read, rest)) :
    rest.length < text.length := by
  induction fuel generalizing text read with
  | zero => cases done
  | succ fuel ih =>
    cases text with
    | nil => cases done
    | cons c after =>
      rw [readText] at done
      split at done
      · cases done
        exact Nat.lt_succ_self _
      split at done
      · split at done
        · cases done
        · next escape =>
          have short := length_escape? escape
          split at done
          · cases done
          · next later =>
            cases done
            exact Nat.lt_succ_of_lt (Nat.lt_trans (ih later) short)
      split at done
      · cases done
      split at done
      · cases done
      · next later =>
        cases done
        exact Nat.lt_succ_of_lt (ih later)

theorem length_span {p : Char → Bool} {run : List Char} (found : text.span p = (run, rest)) :
    run.length + rest.length = text.length := by
  rw [List.span_eq_takeWhile_dropWhile] at found
  cases found
  rw [← List.length_append, List.takeWhile_append_dropWhile]

theorem length_wholePart? {whole : List Char} (found : wholePart? text = some (whole, rest)) :
    rest.length < text.length := by
  unfold wholePart? at found
  split at found
  · cases found
    exact Nat.lt_succ_self _
  · split at found
    · cases found
    · next some span =>
      cases found
      have parts := length_span span
      have positive := List.length_pos_iff.mpr some
      omega

theorem length_fractionPart (text : List Char) : (fractionPart text).2.length ≤ text.length := by
  unfold fractionPart
  split
  · split
    · exact Nat.le_refl _
    · next span =>
      have parts := length_span span
      simp only [List.length_cons]
      omega
  · exact Nat.le_refl _

theorem length_exponentPart (text : List Char) : (exponentPart text).2.length ≤ text.length := by
  unfold exponentPart
  split
  · next e after =>
    split
    · dsimp only
      split
      · exact Nat.le_refl _
      · next span =>
        split at span
        all_goals
          have parts := length_span span
          simp only [List.length_cons] at parts ⊢
          omega
    · exact Nat.le_refl _
  · exact Nat.le_refl _

theorem length_readNumber {value : Document} (read : readNumber text = .ok (value, rest)) :
    rest.length < text.length := by
  unfold readNumber at read
  dsimp only at read
  split at read
  · cases read
  · next whole after found =>
    split at read
    · cases read
    · cases read
      have short := length_wholePart? found
      have fraction := length_fractionPart after
      have exponent := length_exponentPart (fractionPart after).2
      split at short
      · simp only [List.length_cons] at short ⊢
        omega
      · dsimp only at short
        omega

theorem length_word? {word : List Char} (found : word? word text = some rest) :
    word.length + rest.length = text.length := by
  induction word generalizing text with
  | nil =>
    cases found
    exact Nat.zero_add _
  | cons w word ih =>
    cases text with
    | nil => cases found
    | cons c text =>
      rw [word?] at found
      split at found
      · have later := ih found
        simp only [List.length_cons]
        omega
      · cases found

theorem length_readWord? {value : Document} (found : readWord? text = some (value, rest)) :
    rest.length < text.length := by
  obtain ⟨⟨word, value⟩, known, done⟩ := List.exists_of_findSome?_eq_some found
  obtain ⟨rest, spelled, same⟩ := Option.map_eq_some_iff.mp done
  cases same
  have length := length_word? spelled
  have letters : ∀ entry ∈ words, 0 < entry.1.length := by decide
  have positive := letters _ known
  dsimp only at positive
  omega

/-- What each reader at some amount of fuel leaves is shorter than what it got. -/
structure Shortens (fuel : Nat) : Prop where
  value : ∀ {text value rest}, readValue fuel text = .ok (value, rest) → rest.length < text.length
  items : ∀ {text items rest}, readItems fuel text = .ok (items, rest) → rest.length < text.length
  members : ∀ {text before members rest}, readMembers fuel text before = .ok (members, rest) →
    rest.length < text.length

theorem length_readValue (below : Shortens fuel) {value : Document}
    (read : readValue (fuel + 1) text = .ok (value, rest)) : rest.length < text.length := by
  rw [readValue.eq_def] at read
  dsimp only at read
  split at read
  · split at read
    · cases read
    · next inner =>
      cases read
      exact Nat.lt_succ_of_lt (length_readText inner)
  · split at read
    · next close =>
      cases read
      exact Nat.lt_succ_of_lt (length_of_skipSpace close)
    · split at read
      · cases read
      · next inner =>
        cases read
        exact Nat.lt_succ_of_lt (Nat.lt_of_lt_of_le (below.items inner) (length_skipSpace _))
  · split at read
    · next close =>
      cases read
      exact Nat.lt_succ_of_lt (length_of_skipSpace close)
    · split at read
      · cases read
      · next inner =>
        cases read
        exact Nat.lt_succ_of_lt (Nat.lt_of_lt_of_le (below.members inner) (length_skipSpace _))
  · split at read
    · next found =>
      cases read
      exact length_readWord? found
    · exact length_readNumber read

theorem length_readItems (below : Shortens fuel) {items : List Document}
    (read : readItems (fuel + 1) text = .ok (items, rest)) : rest.length < text.length := by
  rw [readItems.eq_def] at read
  dsimp only at read
  split at read
  · cases read
  · next first =>
    have short := below.value first
    split at read
    · next close =>
      cases read
      exact Nat.lt_trans (length_of_skipSpace close) short
    · next comma =>
      split at read
      · cases read
      · next later =>
        cases read
        have comma := length_of_skipSpace comma
        have later := Nat.lt_of_lt_of_le (below.items later) (length_skipSpace _)
        exact Nat.lt_trans later (Nat.lt_trans comma short)
    · cases read

theorem length_readMembers (below : Shortens fuel) {before members : List (Text × Document)}
    (read : readMembers (fuel + 1) text before = .ok (members, rest)) :
    rest.length < text.length := by
  rw [readMembers.eq_def] at read
  dsimp only at read
  split at read
  · split at read
    · cases read
    · next key =>
      have key := length_readText key
      split at read
      · next colon =>
        have colon := length_of_skipSpace colon
        split at read
        · cases read
        · next value =>
          have value := Nat.lt_of_lt_of_le (below.value value) (length_skipSpace _)
          split at read
          · next close =>
            cases read
            have close := length_of_skipSpace close
            simp only [List.length_cons]
            omega
          · next comma =>
            have comma := length_of_skipSpace comma
            have later := Nat.lt_of_lt_of_le (below.members read) (length_skipSpace _)
            simp only [List.length_cons]
            omega
          · cases read
      · cases read
  · cases read

/-- Each reader takes its parts from readers with less fuel. -/
theorem shortens (fuel : Nat) : Shortens fuel := by
  induction fuel with
  | zero =>
    constructor
    · intro text value rest read
      rw [readValue] at read
      cases read
    · intro text items rest read
      rw [readItems] at read
      cases read
    · intro text before members rest read
      rw [readMembers] at read
      cases read
  | succ fuel below =>
    exact ⟨length_readValue below, length_readItems below, length_readMembers below⟩

/-- With fuel for the whole text, one step more of it changes nothing. -/
structure Enough (fuel : Nat) : Prop where
  value : ∀ {text : List Char}, 2 * text.length < fuel →
    readValue (fuel + 1) text = readValue fuel text
  items : ∀ {text : List Char}, 2 * text.length + 1 < fuel →
    readItems (fuel + 1) text = readItems fuel text
  members : ∀ {text : List Char}, 2 * text.length < fuel →
    ∀ before, readMembers (fuel + 1) text before = readMembers fuel text before

theorem enough_readValue (below : Enough fuel) (whole : 2 * text.length < fuel + 1) :
    readValue (fuel + 2) text = readValue (fuel + 1) text := by
  rw [readValue.eq_def, readValue.eq_def (fuel + 1)]
  dsimp only
  split
  · rfl
  · next inner =>
    have short := length_skipSpace inner
    have enough : 2 * (skipSpace inner).length + 1 < fuel := by
      rw [List.length_cons] at whole
      omega
    split
    · rfl
    · rw [below.items enough]
  · next inner =>
    have short := length_skipSpace inner
    have enough : 2 * (skipSpace inner).length < fuel := by
      rw [List.length_cons] at whole
      omega
    split
    · rfl
    · rw [below.members enough]
  · rfl

theorem enough_readItems (below : Enough fuel) (whole : 2 * text.length + 1 < fuel + 1) :
    readItems (fuel + 2) text = readItems (fuel + 1) text := by
  rw [readItems.eq_def, readItems.eq_def (fuel + 1)]
  dsimp only
  rw [below.value (by omega)]
  split
  · rfl
  · next first =>
    have first := (shortens fuel).value first
    split
    · rfl
    · next after comma =>
      have comma := length_of_skipSpace comma
      have short := length_skipSpace after
      rw [below.items (by omega)]
    · rfl

theorem enough_readMembers (below : Enough fuel) (whole : 2 * text.length < fuel + 1)
    (before : List (Text × Document)) :
    readMembers (fuel + 2) text before = readMembers (fuel + 1) text before := by
  rw [readMembers.eq_def, readMembers.eq_def (fuel + 1)]
  dsimp only
  split
  · split
    · rfl
    · next key =>
      have key := length_readText key
      rw [List.length_cons] at whole
      split
      · next after colon =>
        have colon := length_of_skipSpace colon
        have short := length_skipSpace after
        rw [below.value (by omega)]
        split
        · rfl
        · next value =>
          have value := (shortens fuel).value value
          split
          · rfl
          · next after comma =>
            have comma := length_of_skipSpace comma
            have short := length_skipSpace after
            rw [below.members (by omega)]
          · rfl
      · rfl
  · rfl

theorem enough (fuel : Nat) : Enough fuel := by
  induction fuel with
  | zero => exact ⟨by omega, by omega, by omega⟩
  | succ fuel below =>
    exact ⟨enough_readValue below, enough_readItems below, enough_readMembers below⟩

/-- A reader with enough fuel gives what it gives with just enough. -/
theorem readValue_enough (whole : 2 * text.length < fuel) :
    readValue fuel text = readValue (2 * text.length + 1) text := by
  induction whole with
  | refl => rfl
  | step whole ih => rw [(enough _).value whole, ih]

theorem readItems_enough (whole : 2 * text.length + 1 < fuel) :
    readItems fuel text = readItems (2 * text.length + 2) text := by
  induction whole with
  | refl => rfl
  | step whole ih => rw [(enough _).items whole, ih]

theorem readMembers_enough (whole : 2 * text.length < fuel) (before : List (Text × Document)) :
    readMembers fuel text before = readMembers (2 * text.length + 1) text before := by
  induction whole with
  | refl => rfl
  | step whole ih => rw [(enough _).members whole, ih]

end ScriptDialog.Document
