import ScriptDialog.Color
import ScriptDialog.Proofs.Failure
import ScriptDialog.Proofs.Number.Digits
import ScriptDialog.Proofs.Text.Blank
import ScriptDialog.Proofs.Text.Hex

/-! A colour whose channels are bytes is read back from its text, with the transparency as far as
the text shows it. Reading fails only where a run of digits is longer than is converted, and
whatever is read has bytes as its channels. -/
namespace ScriptDialog

namespace Color

/-- A channel that is a byte has two digits. -/
theorem channelText_byte {n : Nat} (byte : n < 256) :
    channelText n = [Hex.upperDigit (n / 16), Hex.upperDigit (n % 16)] := by
  have positive : ¬ (n : Int) < 0 := by omega
  simp only [channelText, positive, if_false, Int.natAbs_natCast]
  by_cases small : n < 16
  · rw [Hex.upper_small small, Nat.div_eq_of_lt small, Nat.mod_eq_of_lt small]
    rfl
  · rw [Hex.upper_byte (by omega) byte]
    rfl

instance (c : Color) : Decidable c.InRange := inferInstanceAs (Decidable (_ ∧ _))

/-- The channels in range are bytes. -/
theorem InRange.bytes {c : Color} (inRange : c.InRange) :
    ∃ r g b a : Nat, c = ⟨r, g, b, a⟩ ∧ r < 256 ∧ g < 256 ∧ b < 256 ∧ a < 256 := by
  obtain ⟨r, g, b, a⟩ := c
  obtain ⟨⟨r0, r1⟩, ⟨g0, g1⟩, ⟨b0, b1⟩, a0, a1⟩ := inRange
  dsimp only at r0 r1 g0 g1 b0 b1 a0 a1
  obtain ⟨r, rfl⟩ := Int.eq_ofNat_of_zero_le r0
  obtain ⟨g, rfl⟩ := Int.eq_ofNat_of_zero_le g0
  obtain ⟨b, rfl⟩ := Int.eq_ofNat_of_zero_le b0
  obtain ⟨a, rfl⟩ := Int.eq_ofNat_of_zero_le a0
  exact ⟨r, g, b, a, rfl, by omega, by omega, by omega, by omega⟩

/-- The colour as its text shows it. -/
def shown (c : Color) (withAlpha : Bool) : Color := { c with a := if withAlpha then c.a else 0 }

theorem hex_shown (c : Color) (withAlpha : Bool) :
    (c.shown withAlpha).hex withAlpha = c.hex withAlpha := by
  cases withAlpha <;> rfl

theorem web?_hexChars {c : Color} (inRange : c.InRange) (withAlpha : Bool) :
    web? (hexChars c withAlpha) = some (c.shown withAlpha) := by
  obtain ⟨r, g, b, a, rfl, rByte, gByte, bByte, aByte⟩ := inRange.bytes
  have digits {n : Nat} (byte : n < 256) :
      Hex.value? (Hex.upperDigit (n / 16)) = some (n / 16) ∧
        Hex.value? (Hex.upperDigit (n % 16)) = some (n % 16) :=
    ⟨Hex.value?_upperDigit (by omega), Hex.value?_upperDigit (by omega)⟩
  cases withAlpha with
  | false =>
    simp [hexChars, channelText_byte, rByte, gByte, bByte, web?, shown, digits]
    omega
  | true =>
    simp [hexChars, channelText_byte, rByte, gByte, bByte, aByte, web?, shown, digits]
    omega

theorem length_hex_le {c : Color} (inRange : c.InRange) (withAlpha : Bool) :
    (c.hex withAlpha).length ≤ 9 := by
  obtain ⟨r, g, b, a, rfl, rByte, gByte, bByte, aByte⟩ := inRange.bytes
  rw [hex, String.length_ofList]
  cases withAlpha <;> simp [hexChars, channelText_byte, rByte, gByte, bByte, aByte]

/-- A colour in range is read back from its text, without a transparency that the text omits. -/
theorem ofText_hex {c : Color} (inRange : c.InRange) (withAlpha : Bool) :
    ofText (c.hex withAlpha) = .ok (c.shown withAlpha) := by
  have visible : ∀ d ∈ hexChars c withAlpha, Blank.isBlank d = false := by
    obtain ⟨r, g, b, a, rfl, rByte, gByte, bByte, aByte⟩ := inRange.bytes
    have digits {n : Nat} (byte : n < 256) : Blank.isBlank (Hex.upperDigit (n / 16)) = false ∧
        Blank.isBlank (Hex.upperDigit (n % 16)) = false :=
      ⟨Hex.isBlank_upperDigit (by omega), Hex.isBlank_upperDigit (by omega)⟩
    have mark : Blank.isBlank '#' = false := by decide
    cases withAlpha <;>
      simp [hexChars, channelText_byte, rByte, gByte, bByte, aByte, digits, mark]
  rw [ofText, hex, String.toList_ofList, ofChars, Blank.trim_visible visible,
    web?_hexChars inRange withAlpha]
  rfl

theorem channel_ok {run : List Char} (short : run.length ≤ digitLimit) :
    channel run = .ok (min 255 (Digit.toNat run)) :=
  if_neg (Nat.not_lt.mpr short)

theorem word?_suffix {word text rest : List Char} (found : Numeral.word? word text = some rest) :
    rest <:+ text := by
  induction word generalizing text with
  | nil => cases found; exact List.suffix_rfl
  | cons w word ih =>
    cases text with
    | nil => cases found
    | cons c text =>
      rw [Numeral.word?] at found
      split at found
      · exact (ih found).trans (List.suffix_cons c text)
      · cases found

theorem channelRun?_length {text run rest : List Char}
    (found : channelRun? text = some (run, rest)) : run.length + rest.length ≤ text.length := by
  have front := (List.dropWhile_suffix Blank.isBlank (l := text)).length_le
  unfold channelRun? at found
  rw [Numeral.digits_eq] at found
  have whole := congrArg List.length
    (List.takeWhile_append_dropWhile (p := Digit.isDigit) (l := text.dropWhile Blank.isBlank))
  rw [List.length_append] at whole
  split at found
  · cases found
  · next run' rest' _ digits =>
    obtain ⟨rfl, rfl⟩ := Prod.mk.inj digits
    obtain ⟨rfl, rfl⟩ := Prod.mk.inj (Option.some.inj found)
    have back := (List.dropWhile_suffix Blank.isBlank
      (l := (text.dropWhile Blank.isBlank).dropWhile Digit.isDigit)).length_le
    omega

/-- The runs of a call are parts of the text. -/
theorem callRuns?_length {text r g b : List Char} (found : callRuns? text = some (r, g, b)) :
    r.length ≤ text.length ∧ g.length ≤ text.length ∧ b.length ≤ text.length := by
  unfold callRuns? at found
  obtain ⟨named, name, found⟩ := Option.bind_eq_some_iff.mp found
  have nameLength := (word?_suffix name).length_le
  split at found
  · obtain ⟨⟨first, rest⟩, firstRun, found⟩ := Option.bind_eq_some_iff.mp found
    have firstLength := channelRun?_length firstRun
    dsimp only at found
    split at found
    · obtain ⟨⟨second, rest⟩, secondRun, found⟩ := Option.bind_eq_some_iff.mp found
      have secondLength := channelRun?_length secondRun
      dsimp only at found
      split at found
      · obtain ⟨⟨third, rest⟩, thirdRun, found⟩ := Option.bind_eq_some_iff.mp found
        have thirdLength := channelRun?_length thirdRun
        dsimp only at found
        split at found
        · cases found
          simp only [List.length_cons] at nameLength firstLength secondLength
          exact ⟨by omega, by omega, by omega⟩
        · cases found
      · cases found
    · cases found
  · cases found

theorem paren_of_callRuns? {text r g b : List Char} (found : callRuns? text = some (r, g, b)) :
    '(' ∈ text := by
  unfold callRuns? at found
  obtain ⟨named, name, found⟩ := Option.bind_eq_some_iff.mp found
  split at found
  · exact (word?_suffix name).subset (by simp)
  · cases found

/-- A call is in neither of the other notations. -/
theorem none_of_callRuns? {text : List Char} {runs : List Char × List Char × List Char}
    (found : callRuns? text = some runs) : (web? text).or (subtitle? text) = none := by
  unfold callRuns? at found
  obtain ⟨named, name, _⟩ := Option.bind_eq_some_iff.mp found
  cases text with
  | nil => cases name
  | cons c text =>
    rw [Numeral.word?] at name
    split at name
    · next letter =>
      have noHash : c ≠ '#' := by rintro rfl; exact absurd letter (by decide)
      have noMark : c ≠ '&' := by rintro rfl; exact absurd letter (by decide)
      simp [web?, subtitle?, noHash, noMark]
    · cases name

/-- A call with a longer run of digits than is converted. -/
def Overlong (text : List Char) : Prop :=
  ∃ r g b, callRuns? (Blank.trim text) = some (r, g, b) ∧
    (digitLimit < r.length ∨ digitLimit < g.length ∨ digitLimit < b.length)

theorem channel_of_overlong {run : List Char} (long : digitLimit < run.length) :
    channel run = .error (.tooManyDigits run.length) :=
  if_pos long

/-- The run is the first that is longer than is converted. -/
def FirstLong (run : List Char) : List (List Char) → Prop :=
  First (·.length ≤ digitLimit) (fun long => long = run ∧ digitLimit < long.length)

/-- The numbers of a call one after the other. -/
def converted (r g b : List Char) : Except NumberFault Color := do
  let r ← channel r
  let g ← channel g
  let b ← channel b
  return ⟨r, g, b, 0⟩

theorem converted_cases (r g b : List Char) :
    (∀ run ∈ [r, g, b], run.length ≤ digitLimit) ∧ converted r g b =
        .ok ⟨min 255 (Digit.toNat r), min 255 (Digit.toNat g), min 255 (Digit.toNat b), 0⟩ ∨
      ∃ run, converted r g b = .error (.tooManyDigits run.length) ∧ FirstLong run [r, g, b] := by
  unfold converted
  simp only [FirstLong, first_cons]
  rcases Nat.lt_or_ge digitLimit r.length with long | red
  · rw [channel_of_overlong long]
    exact .inr ⟨r, rfl, .inl ⟨rfl, long⟩⟩
  rw [channel_ok red]
  rcases Nat.lt_or_ge digitLimit g.length with long | green
  · rw [channel_of_overlong long]
    exact .inr ⟨g, rfl, .inr ⟨red, .inl ⟨rfl, long⟩⟩⟩
  rw [channel_ok green]
  rcases Nat.lt_or_ge digitLimit b.length with long | blue
  · rw [channel_of_overlong long]
    exact .inr ⟨b, rfl, .inr ⟨red, .inr ⟨green, .inl ⟨rfl, long⟩⟩⟩⟩
  rw [channel_ok blue]
  exact .inl ⟨by simp [red, green, blue], rfl⟩

theorem ofChars_of_callRuns? {text r g b : List Char}
    (runs : callRuns? (Blank.trim text) = some (r, g, b)) : ofChars text = converted r g b := by
  unfold ofChars
  dsimp only
  rw [none_of_callRuns? runs, runs]
  rfl

/-- All characters are read but for such a call. -/
theorem ofChars_ok_iff (text : List Char) : (∃ c, ofChars text = .ok c) ↔ ¬ Overlong text := by
  unfold Overlong
  cases runs : callRuns? (Blank.trim text) with
  | none =>
    refine iff_of_true ?_ (by simp)
    unfold ofChars
    dsimp only
    rw [runs]
    split
    · exact ⟨_, rfl⟩
    · exact ⟨black, rfl⟩
  | some found =>
    obtain ⟨r, g, b⟩ := found
    rw [ofChars_of_callRuns? runs]
    rcases converted_cases r g b with ⟨brief, read⟩ | ⟨run, refused, first⟩
    · refine iff_of_true ⟨_, read⟩ ?_
      rintro ⟨r', g', b', same, long⟩
      cases same
      simp only [List.mem_cons, List.not_mem_nil, or_false, forall_eq_or_imp, forall_eq] at brief
      omega
    · refine iff_of_false ?_ (not_not_intro ⟨r, g, b, rfl, ?_⟩)
      · rintro ⟨c, read⟩
        cases refused.symm.trans read
      · simp only [FirstLong, first_cons, first_nil, and_false, or_false] at first
        rcases first with ⟨_, long⟩ | ⟨_, ⟨_, long⟩ | ⟨_, _, long⟩⟩
        · exact .inl long
        · exact .inr (.inl long)
        · exact .inr (.inr long)

/-- A text that no colour is read from. -/
def Refused (t : Text) : Prop := ∃ s : String, t = s ∧ Overlong s.toList

theorem refused_whole (s : String) : Refused s ↔ Overlong s.toList := by
  refine ⟨?_, fun long => ⟨s, rfl, long⟩⟩
  rintro ⟨_, ⟨⟩, long⟩
  exact long

theorem ofText_ok_iff (t : Text) : (∃ c, ofText t = .ok c) ↔ ¬ Refused t := by
  cases t with
  | whole s => exact (ofChars_ok_iff s.toList).trans (not_congr (refused_whole s).symm)
  | torn t => exact iff_of_true ⟨black, rfl⟩ (by rintro ⟨_, ⟨⟩, _⟩)

/-- A short text is read, and so is one without a parenthesis. -/
theorem ofText_ok {text : String}
    (safe : text.length ≤ digitLimit ∨ '(' ∉ text.toList) : ∃ c, ofText text = .ok c := by
  rw [ofText_ok_iff]
  rintro ⟨_, ⟨⟩, r, g, b, runs, long⟩
  have trimmed := (Blank.trim_infix text.toList).length_le
  rw [String.length_toList] at trimmed
  rcases safe with short | noCall
  · obtain ⟨rLength, gLength, bLength⟩ := callRuns?_length runs
    omega
  · exact noCall ((Blank.trim_infix _).subset (paren_of_callRuns? runs))

theorem web?_inRange {text : List Char} {c : Color} (found : web? text = some c) : c.InRange := by
  unfold web? at found
  split at found
  · split at found
    case h_4 => cases found
    all_goals
      rename_i read
      cases found
      have digits := Hex.lt_of_mapM read
      simp only [List.mem_cons, List.not_mem_nil, or_false, forall_eq_or_imp, forall_eq] at digits
      simp only [InRange]
      omega
  · cases found

theorem subtitle?_inRange {text : List Char} {c : Color} (found : subtitle? text = some c) :
    c.InRange := by
  unfold subtitle? at found
  split at found
  · dsimp only at found
    split at found
    · cases found
      simp [InRange, ofPacked]
      omega
    · cases found
  · cases found

theorem channel_byte {run : List Char} {n : Int} (read : channel run = .ok n) :
    0 ≤ n ∧ n ≤ 255 := by
  unfold channel at read
  split at read
  · cases read
  · cases read
    omega

theorem ofChars_inRange {text : List Char} {c : Color} (read : ofChars text = .ok c) :
    c.InRange := by
  unfold ofChars at read
  dsimp only at read
  split at read
  · next found =>
    cases read
    rcases Option.or_eq_some_iff.mp found with web | ⟨_, subtitle⟩
    · exact web?_inRange web
    · exact subtitle?_inRange subtitle
  · split at read
    · cases read
      decide
    · obtain ⟨r, red, read⟩ := Success.of_bind read
      obtain ⟨g, green, read⟩ := Success.of_bind read
      obtain ⟨b, blue, read⟩ := Success.of_bind read
      cases read
      exact ⟨channel_byte red, channel_byte green, channel_byte blue, by simp⟩

/-- Whatever the text is, a colour that is read from it has bytes as its channels. -/
theorem ofText_inRange {text : Text} {c : Color} (read : ofText text = .ok c) : c.InRange := by
  cases text with
  | whole s => exact ofChars_inRange read
  | torn t => cases read; decide

end Color

end ScriptDialog
