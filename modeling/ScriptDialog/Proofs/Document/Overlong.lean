import Mathlib.Data.List.TakeWhile
import ScriptDialog.Proofs.Document.Fuel

/-! Integers that are too long to be read. They are the only fault besides a malformed text, and
it arises just where the reading of the text, all before it being in order, comes to such an
integer. -/
namespace ScriptDialog.Document

/-- An integer of too many digits. Neither a fraction nor an exponent follows it. -/
structure OverlongInteger (sign run rest : List Char) : Prop where
  sign : sign = [] ∨ sign = ['-']
  digits : ∀ c ∈ run, isAsciiDigit c
  leading : run.head? ≠ some '0'
  stop : ∀ c ∈ rest.head?, isAsciiDigit c = false
  noFraction : (fractionPart rest).1 = []
  noExponent : (exponentPart rest).1 = []
  long : digitLimit < run.length

/-- What is awaited at a place of a text. -/
inductive Awaited where
  | value
  | item
  | member

/-- A value is read from the start of the text, and this much is left. -/
def Leaves (text rest : List Char) : Prop :=
  ∃ value, readValue (2 * text.length + 1) text = .ok (value, rest)

/-- A key and the colon after it are read from what follows a quote. -/
def KeyLeaves (text rest : List Char) : Prop :=
  ∃ key after, readText (text.length + 1) text = .ok (key, after) ∧ skipSpace after = ':' :: rest

/-- Reading the text comes to a place where such a part is awaited: all before it is in order. -/
inductive Reaches (text : List Char) : Awaited → List Char → Prop where
  | start : Reaches text .value (skipSpace text)
  | list {rest : List Char} (bracket : Reaches text .value ('[' :: rest)) :
      Reaches text .item (skipSpace rest)
  | item {here : List Char} (next : Reaches text .item here) : Reaches text .value here
  | nextItem {here after rest : List Char} (first : Reaches text .item here)
      (read : Leaves here after) (comma : skipSpace after = ',' :: rest) :
      Reaches text .item (skipSpace rest)
  | object {rest : List Char} (brace : Reaches text .value ('\x7b' :: rest)) :
      Reaches text .member (skipSpace rest)
  | member {here rest : List Char} (quote : Reaches text .member ('"' :: here))
      (key : KeyLeaves here rest) : Reaches text .value (skipSpace rest)
  | nextMember {here after rest next : List Char} (quote : Reaches text .member ('"' :: here))
      (key : KeyLeaves here after) (read : Leaves (skipSpace after) rest)
      (comma : skipSpace rest = ',' :: next) : Reaches text .member (skipSpace next)

/-- Reading the text comes to an integer with so many digits, which are too many. -/
def ReachesOverlong (text : List Char) (count : Nat) : Prop :=
  ∃ sign run rest, Reaches text .value (sign ++ run ++ rest) ∧ OverlongInteger sign run rest ∧
    run.length = count

variable {fuel count : Nat} {text here after rest sign run : List Char} {fault : NumberFault}

theorem fractionPart_none (none : (fractionPart text).1 = []) : fractionPart text = ([], text) := by
  unfold fractionPart at none ⊢
  split
  · split
    · rfl
    · next whole =>
      simp only [whole] at none
      cases none
  · rfl

/-- A whole part of more than one digit is the run of digits up to the first other character. -/
theorem wholePart?_long (found : wholePart? text = some (run, rest)) (long : 1 < run.length) :
    text = run ++ rest ∧ (∀ c ∈ run, isAsciiDigit c) ∧ run.head? ≠ some '0' ∧
      ∀ c ∈ rest.head?, isAsciiDigit c = false := by
  unfold wholePart? at found
  split at found
  · cases found
    exact absurd long (by simp)
  · next noZero =>
    split at found
    · cases found
    · next span =>
      cases found
      rw [List.span_eq_takeWhile_dropWhile] at span
      obtain ⟨rfl, rfl⟩ := Prod.mk.inj span
      refine ⟨List.takeWhile_append_dropWhile.symm, fun c member => List.mem_takeWhile_imp member,
        ?_, ?_⟩
      · intro zero
        cases text with
        | nil => cases zero
        | cons c text =>
          rw [List.takeWhile_cons] at zero
          split at zero
          · cases zero
            exact noZero _ rfl
          · cases zero
      · intro c first
        have stop := List.head?_dropWhile_not isAsciiDigit text
        rw [Option.mem_def.mp first] at stop
        exact stop

theorem wholePart?_run (digits : ∀ c ∈ run, isAsciiDigit c) (leading : run.head? ≠ some '0')
    (nonempty : run ≠ []) (stop : ∀ c ∈ rest.head?, isAsciiDigit c = false) :
    wholePart? (run ++ rest) = some (run, rest) := by
  have span : (run ++ rest).span isAsciiDigit = (run, rest) := by
    rw [List.span_eq_takeWhile_dropWhile, List.takeWhile_append_of_pos digits,
      List.dropWhile_append_of_pos digits]
    cases rest with
    | nil => simp
    | cons c rest => simp [stop c rfl]
  obtain ⟨c, run', rfl⟩ := List.exists_cons_of_ne_nil nonempty
  unfold wholePart?
  split
  · next same =>
    cases same
    exact absurd rfl leading
  · rw [span]

/-- Behind a refused number stands an integer of too many digits. -/
theorem overlong_of_readNumber (read : readNumber text = .error (.number fault)) :
    ∃ sign run rest, text = sign ++ run ++ rest ∧ OverlongInteger sign run rest ∧
      fault = .tooManyDigits run.length := by
  have parts (sign : List Char) {body : List Char} (split : text = sign ++ body)
      (signed : sign = [] ∨ sign = ['-']) {run rest : List Char}
      (whole : wholePart? body = some (run, rest)) (noFraction : (fractionPart rest).1 = [])
      (noExponent : (exponentPart (fractionPart rest).2).1 = []) (long : digitLimit < run.length) :
      text = sign ++ run ++ rest ∧ OverlongInteger sign run rest := by
    obtain ⟨rfl, digits, leading, stop⟩ :=
      wholePart?_long whole (Nat.lt_trans (by decide : 1 < digitLimit) long)
    rw [fractionPart_none noFraction] at noExponent
    exact ⟨by rw [split, List.append_assoc],
      ⟨signed, digits, leading, stop, noFraction, noExponent, long⟩⟩
  unfold readNumber at read
  dsimp only at read
  split at read
  · cases read
  · next run rest whole =>
    split at read
    · next refused =>
      obtain ⟨noFraction, noExponent, long⟩ := refused
      cases read
      split at whole
      · obtain ⟨same, overlong⟩ := parts ['-'] rfl (.inr rfl) whole noFraction noExponent long
        exact ⟨_, _, _, same, overlong, rfl⟩
      · obtain ⟨same, overlong⟩ := parts [] rfl (.inl rfl) whole noFraction noExponent long
        exact ⟨_, _, _, same, overlong, rfl⟩
    · cases read

namespace OverlongInteger

theorem cons (overlong : OverlongInteger sign run rest) :
    ∃ d run', run = d :: run' ∧ isAsciiDigit d ∧ d ≠ '0' := by
  cases run with
  | nil => exact absurd overlong.long (by simp)
  | cons d run =>
    refine ⟨d, run, rfl, overlong.digits d List.mem_cons_self, ?_⟩
    rintro rfl
    exact overlong.leading rfl

theorem refused (overlong : OverlongInteger sign run rest) :
    readNumber (sign ++ run ++ rest) = .error (.number (.tooManyDigits run.length)) := by
  obtain ⟨d, run', same, digit, _⟩ := overlong.cons
  have nonempty : run ≠ [] := by simp [same]
  have whole := wholePart?_run overlong.digits overlong.leading nonempty overlong.stop
  have noFraction := fractionPart_none overlong.noFraction
  have parts : (([] : List Char) = [] ∧ (exponentPart rest).1 = [] ∧ digitLimit < run.length) :=
    ⟨rfl, overlong.noExponent, overlong.long⟩
  unfold readNumber
  rcases overlong.sign with rfl | rfl
  · have noSign : ∀ after, [] ++ run ++ rest = '-' :: after → False := by
      intro after minus
      rw [same] at minus
      cases minus
      cases digit
    simp only [List.nil_append] at noSign ⊢
    simp only [whole, noFraction, parts]
    simp
  · simp only [List.cons_append, List.nil_append, whole, noFraction, parts]
    simp

/-- It is no word of the notation. -/
theorem no_word (overlong : OverlongInteger sign run rest) :
    readWord? (sign ++ run ++ rest) = none := by
  obtain ⟨d, run', rfl, digit, _⟩ := overlong.cons
  have noDigit : ∀ c ∈ ['n', 't', 'f', 'N', 'I', '-'], isAsciiDigit c = false := by
    simp only [List.mem_cons, List.not_mem_nil, or_false]
    rintro c (rfl | rfl | rfl | rfl | rfl | rfl) <;> rfl
  have letters : ∀ c ∈ ['n', 't', 'f', 'N', 'I', '-'], ¬ c = d := by
    rintro c member rfl
    cases (noDigit c member).symm.trans digit
  simp only [List.mem_cons, List.not_mem_nil, or_false, forall_eq_or_imp, forall_eq] at letters
  obtain ⟨n, t, f, capital, infinity, minus⟩ := letters
  rcases overlong.sign with rfl | rfl
  · simp [readWord?, words, word?, n, t, f, capital, infinity, minus]
  · simp [readWord?, words, word?, infinity]

theorem readValue_fault (overlong : OverlongInteger sign run rest) (fuel : Nat) :
    readValue (fuel + 1) (sign ++ run ++ rest) =
      .error (.number (.tooManyDigits run.length)) := by
  have word := overlong.no_word
  have number := overlong.refused
  obtain ⟨d, run', same, digit, _⟩ := overlong.cons
  have first : ∃ c after, sign ++ run ++ rest = c :: after ∧ c ≠ '"' ∧ c ≠ '[' ∧ c ≠ '\x7b' := by
    rcases overlong.sign with rfl | rfl
    · refine ⟨d, run' ++ rest, by simp [same], ?_, ?_, ?_⟩ <;> rintro rfl <;> cases digit
    · exact ⟨'-', run ++ rest, rfl, by decide, by decide, by decide⟩
  obtain ⟨c, after, begins, quote, bracket, brace⟩ := first
  rw [readValue.eq_def]
  dsimp only
  split
  · next other => exact absurd (List.cons.inj (begins.symm.trans other)).1 quote
  · next other => exact absurd (List.cons.inj (begins.symm.trans other)).1 bracket
  · next other => exact absurd (List.cons.inj (begins.symm.trans other)).1 brace
  · simp only [word, number]

end OverlongInteger

theorem readText_malformed {why : DocumentFault} (read : readText fuel text = .error why) :
    why = .malformed := by
  induction fuel generalizing text with
  | zero =>
    cases read
    rfl
  | succ fuel ih =>
    cases text with
    | nil =>
      cases read
      rfl
    | cons c text =>
      rw [readText] at read
      split at read
      · cases read
      split at read
      · split at read
        · cases read
          rfl
        · split at read
          · next inner =>
            cases read
            exact ih inner
          · cases read
      split at read
      · cases read
        rfl
      split at read
      · next inner =>
        cases read
        exact ih inner
      · cases read

/-- A number is refused: the reading has come to an integer of too many digits. -/
def Explained (text : List Char) (fault : NumberFault) : Prop :=
  ∃ count, ReachesOverlong text count ∧ fault = .tooManyDigits count

/-- Whatever number a reader at some amount of fuel refuses, an overlong integer is reached. -/
structure Explains (text : List Char) (fault : NumberFault) (fuel : Nat) : Prop where
  value : ∀ {here}, Reaches text .value here → 2 * here.length < fuel →
    readValue fuel here = .error (.number fault) → Explained text fault
  items : ∀ {here}, Reaches text .item here → 2 * here.length + 1 < fuel →
    readItems fuel here = .error (.number fault) → Explained text fault
  members : ∀ {here before}, Reaches text .member here → 2 * here.length < fuel →
    readMembers fuel here before = .error (.number fault) → Explained text fault

theorem explains_readValue (below : Explains text fault fuel) (reached : Reaches text .value here)
    (whole : 2 * here.length < fuel + 1)
    (read : readValue (fuel + 1) here = .error (.number fault)) : Explained text fault := by
  rw [readValue.eq_def] at read
  dsimp only at read
  split at read
  · split at read
    · next inner =>
      cases read
      cases readText_malformed inner
    · cases read
  · next inner =>
    have short := length_skipSpace inner
    rw [List.length_cons] at whole
    split at read
    · cases read
    · split at read
      · next items =>
        cases read
        exact below.items reached.list (by omega) items
      · cases read
  · next inner =>
    have short := length_skipSpace inner
    rw [List.length_cons] at whole
    split at read
    · cases read
    · split at read
      · next members =>
        cases read
        exact below.members reached.object (by omega) members
      · cases read
  · split at read
    · cases read
    · obtain ⟨sign, run, rest, rfl, overlong, same⟩ := overlong_of_readNumber read
      exact ⟨run.length, ⟨sign, run, rest, reached, overlong, rfl⟩, same⟩

theorem explains_readItems (below : Explains text fault fuel) (reached : Reaches text .item here)
    (whole : 2 * here.length + 1 < fuel + 1)
    (read : readItems (fuel + 1) here = .error (.number fault)) : Explained text fault := by
  rw [readItems.eq_def] at read
  dsimp only at read
  split at read
  · next first =>
    cases read
    exact below.value reached.item (by omega) first
  · next first =>
    have shorter := (shortens fuel).value first
    rw [readValue_enough (by omega)] at first
    split at read
    · cases read
    · next after comma =>
      have later := length_of_skipSpace comma
      have short := length_skipSpace after
      split at read
      · next items =>
        cases read
        exact below.items (reached.nextItem ⟨_, first⟩ comma) (by omega) items
      · cases read
    · cases read

theorem explains_readMembers (below : Explains text fault fuel)
    {before : List (Text × Document)} (reached : Reaches text .member here)
    (whole : 2 * here.length < fuel + 1)
    (read : readMembers (fuel + 1) here before = .error (.number fault)) :
    Explained text fault := by
  rw [readMembers.eq_def] at read
  dsimp only at read
  split at read
  · rw [List.length_cons] at whole
    split at read
    · next key =>
      cases read
      cases readText_malformed key
    · next key =>
      have afterKey := length_readText key
      split at read
      · next after colon =>
        have afterColon := length_of_skipSpace colon
        have short := length_skipSpace after
        split at read
        · next value =>
          cases read
          exact below.value (reached.member ⟨_, _, key, colon⟩) (by omega) value
        · next value =>
          have afterValue := (shortens fuel).value value
          rw [readValue_enough (by omega)] at value
          split at read
          · cases read
          · next next comma =>
            have afterComma := length_of_skipSpace comma
            have short' := length_skipSpace next
            exact below.members (reached.nextMember ⟨_, _, key, colon⟩ ⟨_, value⟩ comma) (by omega)
              read
          · cases read
      · cases read
  · cases read

theorem explains (text : List Char) (fault : NumberFault) (fuel : Nat) :
    Explains text fault fuel := by
  induction fuel with
  | zero => exact ⟨by omega, by omega, by omega⟩
  | succ fuel below =>
    exact ⟨explains_readValue below, explains_readItems below, explains_readMembers below⟩

/-- The reader of the part that is awaited refuses a number. -/
def RefusedAt (fault : NumberFault) : Awaited → List Char → Prop
  | .value, here => readValue (2 * here.length + 1) here = .error (.number fault)
  | .item, here => readItems (2 * here.length + 2) here = .error (.number fault)
  | .member, here => ∀ before, readMembers (2 * here.length + 1) here before =
      .error (.number fault)

theorem refused_list (refused : RefusedAt fault .item (skipSpace rest)) :
    RefusedAt fault .value ('[' :: rest) := by
  have short := length_skipSpace rest
  simp only [RefusedAt] at refused ⊢
  rw [readValue]
  split
  · next close =>
    rw [close] at refused
    cases refused
  · rw [List.length_cons, readItems_enough (by omega), refused]

theorem refused_item (refused : RefusedAt fault .value here) : RefusedAt fault .item here := by
  simp only [RefusedAt] at refused ⊢
  rw [readItems.eq_def]
  dsimp only
  rw [refused]

theorem refused_nextItem (read : Leaves here after) (comma : skipSpace after = ',' :: rest)
    (refused : RefusedAt fault .item (skipSpace rest)) : RefusedAt fault .item here := by
  obtain ⟨value, read⟩ := read
  have afterValue := (shortens _).value read
  have afterComma := length_of_skipSpace comma
  have short := length_skipSpace rest
  simp only [RefusedAt] at refused ⊢
  rw [readItems.eq_def]
  simp only [read, comma]
  rw [readItems_enough (by omega), refused]

theorem refused_object (refused : RefusedAt fault .member (skipSpace rest)) :
    RefusedAt fault .value ('\x7b' :: rest) := by
  have short := length_skipSpace rest
  simp only [RefusedAt] at refused ⊢
  rw [readValue]
  split
  · next close =>
    rw [close] at refused
    cases refused []
  · rw [List.length_cons, readMembers_enough (by omega), refused]

theorem refused_member (key : KeyLeaves here rest)
    (refused : RefusedAt fault .value (skipSpace rest)) :
    RefusedAt fault .member ('"' :: here) := by
  obtain ⟨key, after, read, colon⟩ := key
  have afterKey := length_readText read
  have afterColon := length_of_skipSpace colon
  have short := length_skipSpace rest
  simp only [RefusedAt] at refused ⊢
  intro before
  rw [readMembers.eq_def]
  simp only [read, colon]
  rw [List.length_cons, readValue_enough (by omega), refused]

theorem refused_nextMember {next : List Char} (key : KeyLeaves here after)
    (value : Leaves (skipSpace after) rest) (comma : skipSpace rest = ',' :: next)
    (refused : RefusedAt fault .member (skipSpace next)) :
      RefusedAt fault .member ('"' :: here) := by
  obtain ⟨key, closed, read, colon⟩ := key
  obtain ⟨value, given⟩ := value
  have afterKey := length_readText read
  have afterColon := length_of_skipSpace colon
  have afterValue := (shortens _).value given
  have afterComma := length_of_skipSpace comma
  have short := length_skipSpace after
  have short' := length_skipSpace next
  simp only [RefusedAt] at refused ⊢
  intro before
  rw [readMembers.eq_def]
  simp only [read, colon]
  rw [List.length_cons, readValue_enough (by omega), given]
  simp only [comma]
  rw [readMembers_enough (by omega), refused]

/-- A number that is refused at a place is refused for the whole text. -/
theorem refused_of_reaches {awaited : Awaited} (reached : Reaches text awaited here)
    (refused : RefusedAt fault awaited here) : RefusedAt fault .value (skipSpace text) := by
  induction reached with
  | start => exact refused
  | list _ ih => exact ih (refused_list refused)
  | item _ ih => exact ih (refused_item refused)
  | nextItem _ read comma ih => exact ih (refused_nextItem read comma refused)
  | object _ ih => exact ih (refused_object refused)
  | member _ key ih => exact ih (refused_member key refused)
  | nextMember _ key read comma ih => exact ih (refused_nextMember key read comma refused)

theorem ofChars_number_iff :
    ofChars text = .error (.number fault) ↔
      ∃ count, ReachesOverlong text count ∧ fault = .tooManyDigits count := by
  have short := length_skipSpace text
  have enough : readValue (2 * text.length + 1) (skipSpace text) =
      readValue (2 * (skipSpace text).length + 1) (skipSpace text) := readValue_enough (by omega)
  unfold ofChars
  rw [enough]
  constructor
  · intro read
    split at read
    · next refused =>
      cases read
      exact (explains text fault _).value .start (by omega) refused
    · split at read
      · cases read
      · cases read
  · rintro ⟨count, ⟨sign, run, rest, reached, overlong, rfl⟩, rfl⟩
    have refused := refused_of_reaches reached (overlong.readValue_fault _)
    rw [refused]

end ScriptDialog.Document
