import ScriptDialog.Proofs.Color
import ScriptDialog.Proofs.Number.Surrounded

/-! The three ways of writing a colour, and the reader against them. A text is read as the colour
that it spells once the blanks around it are taken away, and as black when it spells none. -/
namespace ScriptDialog.Color

open Blank (isBlank Between)

/-- Two digits and the byte that they denote. -/
def Byte (x y : Char) (n : Nat) : Prop :=
  ∃ high low, Hex.value? x = some high ∧ Hex.value? y = some low ∧ n = high * 16 + low

/-- The mark `#` with a digit for each channel, which stands for two equal ones, or with two digits
for each; these can be followed by the transparency. -/
inductive Web : List Char → Color → Prop where
  | single {x y z : Char} {r g b : Nat} (red : Byte x x r) (green : Byte y y g)
      (blue : Byte z z b) :
      Web ['#', x, y, z] ⟨r, g, b, 0⟩
  | double {r₁ r₂ g₁ g₂ b₁ b₂ : Char} {r g b : Nat} (red : Byte r₁ r₂ r) (green : Byte g₁ g₂ g)
      (blue : Byte b₁ b₂ b) : Web ['#', r₁, r₂, g₁, g₂, b₁, b₂] ⟨r, g, b, 0⟩
  | full {r₁ r₂ g₁ g₂ b₁ b₂ a₁ a₂ : Char} {r g b a : Nat} (red : Byte r₁ r₂ r)
      (green : Byte g₁ g₂ g) (blue : Byte b₁ b₂ b) (alpha : Byte a₁ a₂ a) :
      Web ['#', r₁, r₂, g₁, g₂, b₁, b₂, a₁, a₂] ⟨r, g, b, a⟩

/-- The mark `&H` with up to eight digits of a number, whose lowest byte is red and whose highest
one is the transparency, and perhaps another `&`. -/
inductive Subtitle : List Char → Color → Prop where
  | intro {mark : Char} {run tail : List Char} {r g b a : Nat} (marked : mark = 'H' ∨ mark = 'h')
      (digits : ∀ c ∈ run, Hex.isDigit c) (nonempty : 1 ≤ run.length) (few : run.length ≤ 8)
      (ended : tail = [] ∨ tail = ['&'])
      (value : Hex.toNat run = r + 256 * (g + 256 * (b + 256 * a)))
      (bytes : r < 256 ∧ g < 256 ∧ b < 256 ∧ a < 256) :
      Subtitle ('&' :: mark :: (run ++ tail)) ⟨r, g, b, a⟩

/-- A decimal number, in digits of any script, between blanks. -/
def Padded (run text : List Char) : Prop := Numeral.Run run ∧ Between isBlank run text

/-- The form `rgb(r, g, b)`, the name in any mixture of cases. -/
inductive Call : List Char → (r g b : List Char) → Prop where
  | intro {x y z : Char} {first second third r g b : List Char} (named : (x = 'r' ∨ x = 'R') ∧
      (y = 'g' ∨ y = 'G') ∧ (z = 'b' ∨ z = 'B')) (red : Padded r first) (green : Padded g second)
      (blue : Padded b third) :
      Call (x :: y :: z :: '(' :: (first ++ ',' :: (second ++ ',' :: (third ++ [')'])))) r g b

/-- The text is one of the three forms of the colour. A number in a call stands for a byte, for the
greatest one when it is greater. -/
inductive Spells (text : List Char) : Color → Prop where
  | web {c : Color} (web : Web text c) : Spells text c
  | subtitle {c : Color} (subtitle : Subtitle text c) : Spells text c
  | call {r g b : List Char} (call : Call text r g b) :
      Spells text ⟨min 255 (Digit.toNat r), min 255 (Digit.toNat g), min 255 (Digit.toNat b), 0⟩

variable {text rest run front : List Char} {c : Color} {r g b : List Char}

theorem byte_same {x : Char} {n : Nat} (digit : Hex.value? x = some n) : Byte x x (n * 17) :=
  ⟨n, n, digit, digit, by omega⟩

theorem byte_pair {x y : Char} {m n : Nat} (high : Hex.value? x = some m)
    (low : Hex.value? y = some n) : Byte x y (m * 16 + n) :=
  ⟨m, n, high, low, rfl⟩

theorem web?_sound (found : web? text = some c) : Web text c := by
  unfold web? at found
  split at found
  · next digits =>
    cases read : digits.mapM Hex.value? with
    | none =>
      rw [read] at found
      cases found
    | some values =>
      -- there are as many digits as values, so the digits have the shape that is matched
      have each := Hex.mapM_value?_iff.mp read
      rw [read] at found
      split at found
      · next same =>
        cases same
        cases found
        rcases each with _ | ⟨red, _ | ⟨green, _ | ⟨blue, _ | _⟩⟩⟩
        simpa using Web.single (byte_same red) (byte_same green) (byte_same blue)
      · next same =>
        cases same
        cases found
        rcases each with _ | ⟨r₁, _ | ⟨r₂, _ | ⟨g₁, _ | ⟨g₂, _ | ⟨b₁, _ | ⟨b₂, _ | _⟩⟩⟩⟩⟩⟩
        simpa using Web.double (byte_pair r₁ r₂) (byte_pair g₁ g₂) (byte_pair b₁ b₂)
      · next same =>
        cases same
        cases found
        rcases each with
          _ | ⟨r₁, _ | ⟨r₂, _ | ⟨g₁, _ | ⟨g₂, _ | ⟨b₁, _ | ⟨b₂, _ | ⟨a₁, _ | ⟨a₂, _ | _⟩⟩⟩⟩⟩⟩⟩⟩
        simpa using
          Web.full (byte_pair r₁ r₂) (byte_pair g₁ g₂) (byte_pair b₁ b₂) (byte_pair a₁ a₂)
      · cases found
  · cases found

theorem web?_complete (web : Web text c) : web? text = some c := by
  cases web with
  | single red green blue =>
    obtain ⟨_, _, red, red', rfl⟩ := red
    obtain ⟨_, _, green, green', rfl⟩ := green
    obtain ⟨_, _, blue, blue', rfl⟩ := blue
    cases red.symm.trans red'
    cases green.symm.trans green'
    cases blue.symm.trans blue'
    simp [web?, red, green, blue]
    omega
  | double red green blue =>
    obtain ⟨_, _, red, red', rfl⟩ := red
    obtain ⟨_, _, green, green', rfl⟩ := green
    obtain ⟨_, _, blue, blue', rfl⟩ := blue
    simp [web?, red, red', green, green', blue, blue']
  | full red green blue alpha =>
    obtain ⟨_, _, red, red', rfl⟩ := red
    obtain ⟨_, _, green, green', rfl⟩ := green
    obtain ⟨_, _, blue, blue', rfl⟩ := blue
    obtain ⟨_, _, alpha, alpha', rfl⟩ := alpha
    simp [web?, red, red', green, green', blue, blue', alpha, alpha']

theorem web?_eq_some_iff : web? text = some c ↔ Web text c := ⟨web?_sound, web?_complete⟩

/-- A text is a run of such characters and what follows the run. -/
theorem exists_span (p : Char → Bool) (text : List Char) : ∃ run rest,
    text.span p = (run, rest) ∧ text = run ++ rest ∧ (∀ c ∈ run, p c) ∧
      ∀ c ∈ rest.head?, p c = false :=
  ⟨_, _, List.span_eq_takeWhile_dropWhile .., List.takeWhile_append_dropWhile.symm,
    fun _ member => List.mem_takeWhile_imp member, Blank.head?_dropWhile text⟩

theorem subtitle?_eq_some_iff : subtitle? text = some c ↔ Subtitle text c := by
  constructor
  · intro found
    unfold subtitle? at found
    split at found
    · next mark text =>
      obtain ⟨run, tail, span, rfl, digits, _⟩ := exists_span Hex.isDigit text
      rw [span] at found
      dsimp only at found
      split at found
      · next marked =>
        obtain ⟨marked, nonempty, few, ended⟩ := marked
        cases found
        have bound : Hex.toNat run < 4294967296 := calc
          Hex.toNat run < Nat.pow 16 run.length := Hex.toNat_lt run
          _ ≤ Nat.pow 16 8 := Nat.pow_le_pow_right (by decide) few
          _ = 4294967296 := rfl
        refine .intro marked digits nonempty few ended ?_ ?_
        · omega
        · omega
      · cases found
    · cases found
  · intro subtitle
    cases subtitle with
    | @intro mark run tail r g b a marked digits nonempty few ended value bytes =>
      have span : (run ++ tail).span Hex.isDigit = (run, tail) := by
        rw [List.span_eq_takeWhile_dropWhile, List.takeWhile_append_of_pos digits,
          List.dropWhile_append_of_pos digits]
        rcases ended with rfl | rfl
        · simp
        · simp [show Hex.isDigit '&' = false by decide]
      unfold subtitle?
      simp only [span]
      rw [if_pos ⟨marked, nonempty, few, ended⟩, ofPacked, value]
      obtain ⟨rByte, gByte, bByte, aByte⟩ := bytes
      simp only [Option.some.injEq, Color.mk.injEq, Int.natCast_inj]
      omega

theorem isLetter_iff (lower upper : Char) (noI : lower ≠ 'i')
    (shifted : upper.toNat + 0x20 = lower.toNat) (x : Char) :
    Numeral.isLetter lower x ↔ x = lower ∨ x = upper := by
  have same : x.toNat + 0x20 = lower.toNat ↔ x = upper := by
    rw [← shifted, Nat.add_right_cancel_iff]
    exact ⟨fun equal => Char.ext (UInt32.toNat_inj.mp equal), fun equal => by rw [equal]⟩
  simp [Numeral.isLetter, noI, same]

theorem channelRun?_sound (found : channelRun? text = some (run, rest)) :
    ∃ front, text = front ++ rest ∧ Padded run front := by
  unfold channelRun? at found
  rw [Numeral.digits_eq] at found
  split at found
  · cases found
  · next _ _ nonempty same =>
    obtain ⟨rfl, rfl⟩ := Prod.mk.inj same
    obtain ⟨rfl, rfl⟩ := Prod.mk.inj (Option.some.inj found)
    have whole := List.takeWhile_append_dropWhile (p := isBlank) (l := text)
    generalize text.dropWhile isBlank = body at *
    refine ⟨text.takeWhile isBlank ++ (body.takeWhile Digit.isDigit ++
      (body.dropWhile Digit.isDigit).takeWhile isBlank), ?_, ⟨?_, ?_⟩, ?_⟩
    · rw [List.append_assoc, List.append_assoc, List.takeWhile_append_dropWhile,
        List.takeWhile_append_dropWhile, whole]
    · simpa using nonempty
    · exact fun c member => List.mem_takeWhile_imp member
    · exact ⟨_, _, rfl, fun c member => List.mem_takeWhile_imp member,
        fun c member => List.mem_takeWhile_imp member⟩

/-- Where no channel can go on. -/
def Closed (rest : List Char) : Prop :=
  ∀ c ∈ rest.head?, isBlank c = false ∧ Digit.isDigit c = false

theorem closed_cons {c : Char} (other : isBlank c = false ∧ Digit.isDigit c = false)
    (rest : List Char) : Closed (c :: rest) := by
  simpa [Closed] using other

theorem channelRun?_complete (padded : Padded run front) (closed : Closed rest) :
    channelRun? (front ++ rest) = some (run, rest) := by
  obtain ⟨⟨nonempty, digits⟩, lead, back, rfl, leading, trailing⟩ := padded
  have opened : (lead ++ (run ++ (back ++ rest))).dropWhile isBlank = run ++ (back ++ rest) := by
    apply Blank.dropWhile_front leading
    intro c front
    rw [List.head?_append_of_ne_nil _ nonempty] at front
    exact Numeral.isBlank_of_isDigit (digits c (List.mem_of_mem_head? front))
  have taken : Numeral.digits (run ++ (back ++ rest)) = (run, back ++ rest) := by
    apply Numeral.digits_run digits
    -- no digit is a blank, so the run ends where the blanks behind it begin
    cases back with
    | nil => exact fun c front => (closed c front).2
    | cons b back =>
      apply Numeral.stops_cons
      by_contra digit
      have visible := Numeral.isBlank_of_isDigit (Bool.not_eq_false _ ▸ digit)
      simp [trailing b (by simp)] at visible
  have left : (back ++ rest).dropWhile isBlank = rest :=
    Blank.dropWhile_front trailing fun c front => (closed c front).1
  rw [List.append_assoc, List.append_assoc, channelRun?, opened, taken]
  cases run with
  | nil => exact absurd rfl nonempty
  | cons d run => simp [left]

theorem word?_rgb {rest : List Char} : Numeral.word? ['r', 'g', 'b'] text = some rest ↔
    ∃ x y z, ((x = 'r' ∨ x = 'R') ∧ (y = 'g' ∨ y = 'G') ∧ (z = 'b' ∨ z = 'B')) ∧
      text = x :: y :: z :: rest := by
  have red := isLetter_iff 'r' 'R' (by decide) rfl
  have green := isLetter_iff 'g' 'G' (by decide) rfl
  have blue := isLetter_iff 'b' 'B' (by decide) rfl
  rcases text with _ | ⟨x, _ | ⟨y, _ | ⟨z, text⟩⟩⟩
  · simp [Numeral.word?]
  · simp [Numeral.word?]
  · simp [Numeral.word?]
  · have taken : Numeral.word? ['r', 'g', 'b'] (x :: y :: z :: text) = some rest ↔
        ((x = 'r' ∨ x = 'R') ∧ (y = 'g' ∨ y = 'G') ∧ (z = 'b' ∨ z = 'B')) ∧ text = rest := by
      simp [Numeral.word?, red, green, blue, and_assoc]
    rw [taken]
    constructor
    · rintro ⟨letters, rfl⟩
      exact ⟨x, y, z, letters, rfl⟩
    · rintro ⟨_, _, _, letters, same⟩
      cases same
      exact ⟨letters, rfl⟩

theorem callRuns?_eq_some_iff : callRuns? text = some (r, g, b) ↔ Call text r g b := by
  constructor
  · intro found
    unfold callRuns? at found
    obtain ⟨named, name, found⟩ := Option.bind_eq_some_iff.mp found
    obtain ⟨x, y, z, letters, whole⟩ := word?_rgb.mp name
    split at found
    · obtain ⟨⟨first, rest⟩, firstRun, found⟩ := Option.bind_eq_some_iff.mp found
      obtain ⟨red, afterParen, redPadded⟩ := channelRun?_sound firstRun
      dsimp only at found
      split at found
      · obtain ⟨⟨second, rest⟩, secondRun, found⟩ := Option.bind_eq_some_iff.mp found
        obtain ⟨green, afterRed, greenPadded⟩ := channelRun?_sound secondRun
        dsimp only at found
        split at found
        · obtain ⟨⟨third, rest⟩, thirdRun, found⟩ := Option.bind_eq_some_iff.mp found
          obtain ⟨blue, afterGreen, bluePadded⟩ := channelRun?_sound thirdRun
          dsimp only at found
          obtain ⟨closing, same⟩ := Option.ite_some_none_eq_some.mp found
          cases same
          rw [whole, afterParen, afterRed, afterGreen, closing]
          exact .intro letters redPadded greenPadded bluePadded
        · cases found
      · cases found
    · cases found
  · intro call
    cases call with
    | @intro x y z _ _ _ _ _ _ named red green blue =>
      have comma (rest : List Char) : Closed (',' :: rest) := closed_cons (by decide) rest
      have paren : Closed [')'] := closed_cons (by decide) []
      have name (rest : List Char) :
          Numeral.word? ['r', 'g', 'b'] (x :: y :: z :: rest) = some rest :=
        word?_rgb.mpr ⟨x, y, z, named, rfl⟩
      simp [callRuns?, name, channelRun?_complete red (comma _),
        channelRun?_complete green (comma _), channelRun?_complete blue paren]

/-- The colour of a text without blanks around it, when its numbers are converted. -/
def spelled? (text : List Char) : Option Color :=
  ((web? text).or (subtitle? text)).or ((callRuns? text).map fun (r, g, b) =>
    ⟨min 255 (Digit.toNat r), min 255 (Digit.toNat g), min 255 (Digit.toNat b), 0⟩)

theorem spelled?_eq_some_iff : spelled? text = some c ↔ Spells text c := by
  constructor
  · intro found
    rcases Option.or_eq_some_iff.mp found with found | ⟨_, found⟩
    · rcases Option.or_eq_some_iff.mp found with found | ⟨_, found⟩
      · exact .web (web?_eq_some_iff.mp found)
      · exact .subtitle (subtitle?_eq_some_iff.mp found)
    · obtain ⟨⟨r, g, b⟩, runs, rfl⟩ := Option.map_eq_some_iff.mp found
      exact .call (callRuns?_eq_some_iff.mp runs)
  · intro spells
    unfold spelled?
    cases spells with
    | web web => simp [web?_eq_some_iff.mpr web]
    | subtitle subtitle =>
      have found := subtitle?_eq_some_iff.mpr subtitle
      have other : web? text = none := by
        cases subtitle
        rfl
      simp [other, found]
    | call call =>
      have runs := callRuns?_eq_some_iff.mpr call
      simp [none_of_callRuns? runs, runs]

/-- The numbers of a call are parts of the text. -/
theorem Call.isInfix (call : Call text r g b) : r <:+: text ∧ g <:+: text ∧ b <:+: text := by
  cases call with
  | @intro x y z first second third _ _ _ named red green blue =>
    refine ⟨red.2.isInfix.trans ?_, green.2.isInfix.trans ?_, blue.2.isInfix.trans ?_⟩
    · exact ⟨[x, y, z, '('], _, by simp; rfl⟩
    · exact ⟨x :: y :: z :: '(' :: (first ++ [',']), ',' :: (third ++ [')']), by simp⟩
    · exact ⟨x :: y :: z :: '(' :: (first ++ ',' :: (second ++ [','])), [')'], by simp⟩

/-- No run of digits is longer than is converted. -/
def Brief (text : List Char) : Prop :=
  ∀ run, run <:+: text → (∀ c ∈ run, Digit.isDigit c) → run.length ≤ digitLimit

theorem Call.digits (call : Call text r g b) : (∀ c ∈ r, Digit.isDigit c) ∧
    (∀ c ∈ g, Digit.isDigit c) ∧ ∀ c ∈ b, Digit.isDigit c := by
  cases call with
  | intro named red green blue => exact ⟨red.1.digits, green.1.digits, blue.1.digits⟩

theorem ofChars_of_brief (brief : Brief (Blank.trim text)) :
    ofChars text = .ok ((spelled? (Blank.trim text)).getD black) := by
  unfold ofChars spelled?
  dsimp only
  cases (web? (Blank.trim text)).or (subtitle? (Blank.trim text)) with
  | some color => rfl
  | none =>
    cases runs : callRuns? (Blank.trim text) with
    | none => rfl
    | some found =>
      obtain ⟨r, g, b⟩ := found
      have call := callRuns?_eq_some_iff.mp runs
      obtain ⟨red, green, blue⟩ := call.isInfix
      obtain ⟨redDigits, greenDigits, blueDigits⟩ := call.digits
      dsimp only
      rw [channel_ok (brief r red redDigits), channel_ok (brief g green greenDigits),
        channel_ok (brief b blue blueDigits)]
      rfl

/-- The subtitle form of a colour, with the transparency. -/
def packed (c : Color) : String :=
  String.ofList ('&' :: 'H' :: (channelText c.a ++ channelText c.b ++ channelText c.g ++
    channelText c.r ++ ['&']))

theorem subtitle_packed {c : Color} (inRange : c.InRange) : Subtitle c.packed.toList c := by
  obtain ⟨r, g, b, a, rfl, rByte, gByte, bByte, aByte⟩ := inRange.bytes
  have digits {n : Nat} (byte : n < 256) :
      Hex.value? (Hex.upperDigit (n / 16)) = some (n / 16) ∧
        Hex.value? (Hex.upperDigit (n % 16)) = some (n % 16) :=
    ⟨Hex.value?_upperDigit (by omega), Hex.value?_upperDigit (by omega)⟩
  rw [packed, String.toList_ofList, channelText_byte rByte, channelText_byte gByte,
    channelText_byte bByte, channelText_byte aByte]
  refine .intro (.inl rfl) ?_ ?_ ?_ (.inr rfl) ?_ ⟨rByte, gByte, bByte, aByte⟩
  · simp [Hex.isDigit, digits, rByte, gByte, bByte, aByte]
  · simp
  · simp
  · simp [Hex.toNat, digits, rByte, gByte, bByte, aByte]
    omega

theorem stripped_of_visible (visible : ∀ d ∈ text, isBlank d = false) : Blank.Stripped text text :=
  Blank.trim_eq_iff.mp (Blank.trim_visible visible)

theorem brief_of_length (short : text.length ≤ digitLimit) : Brief text :=
  fun _ inside _ => inside.length_le.trans short

theorem Spells.unique {c' : Color} (spells : Spells text c) (other : Spells text c') : c = c' := by
  have same := (spelled?_eq_some_iff.mpr spells).symm.trans (spelled?_eq_some_iff.mpr other)
  exact Option.some.inj same

theorem ofText_eq_ok_iff {t : String} (stripped : Blank.Stripped text t.toList)
    (brief : Brief t.toList) :
    ofText t = .ok c ↔ Spells text c ∨ c = black ∧ ∀ c', ¬ Spells text c' := by
  have trimmed := Blank.trim_eq_iff.mpr stripped
  have inner : Brief text := fun run inside => brief run (inside.trans stripped.between.isInfix)
  rw [← trimmed] at inner
  rw [ofText, ofChars_of_brief inner, trimmed, Except.ok.injEq]
  cases found : spelled? text with
  | some color =>
    have spells := spelled?_eq_some_iff.mp found
    rw [Option.getD_some]
    constructor
    · rintro rfl
      exact .inl spells
    · rintro (other | ⟨_, none⟩)
      · exact spells.unique other
      · exact absurd spells (none color)
  | none =>
    have none (c' : Color) : ¬ Spells text c' := fun spells => by
      cases found.symm.trans (spelled?_eq_some_iff.mpr spells)
    simp [none, eq_comm]

theorem Subtitle.visible (subtitle : Subtitle text c) : ∀ d ∈ text, isBlank d = false := by
  cases subtitle with
  | intro marked digits _ _ ended =>
    intro d member
    simp only [List.mem_cons, List.mem_append] at member
    rcases member with rfl | rfl | inside | behind
    · decide
    · rcases marked with rfl | rfl <;> decide
    · exact Hex.isBlank_of_isDigit (digits d inside)
    · rcases ended with rfl | rfl
      · cases behind
      · cases List.mem_singleton.mp behind
        decide

theorem Subtitle.length_le (subtitle : Subtitle text c) : text.length ≤ 11 := by
  cases subtitle with
  | intro _ _ _ few ended =>
    rcases ended with rfl | rfl
    · simp
      omega
    · simp
      omega

/-- For every text whose runs of digits are converted: the colour that it spells between blanks, and
black when it spells none, as a torn text does. A colour of bytes is spelt by each of its texts,
without the transparency where the text omits it. -/
theorem ofText_exact : (∀ (t : String) (s : List Char), Blank.Stripped s t.toList →
      Brief t.toList → ∀ c, ofText t = .ok c ↔ Spells s c ∨ c = black ∧ ∀ c', ¬ Spells s c') ∧
    (∀ t : Torn, ofText (.torn t) = .ok black) ∧
    ∀ c : Color, c.InRange → ofText (c.hex true) = .ok c ∧ ofText c.packed = .ok c ∧
      ofText (c.hex false) = .ok { c with a := 0 } := by
  refine ⟨fun t s stripped brief c => ofText_eq_ok_iff stripped brief, fun _ => rfl, ?_⟩
  intro c inRange
  have subtitle := subtitle_packed inRange
  have short : c.packed.toList.length ≤ digitLimit := subtitle.length_le.trans (by decide)
  refine ⟨ofText_hex inRange true, ?_, ofText_hex inRange false⟩
  exact (ofText_eq_ok_iff (stripped_of_visible subtitle.visible) (brief_of_length short)).mpr
    (.inl (.subtitle subtitle))

/-- A call in mixed case with blanks, a number that is too great and a digit of another script. -/
def callText : List Char :=
  ['r', 'G', 'b', '(', ' ', '3', '0', '0', ' ', ',', '7', ',', '\u0663', '\t', ')']

theorem call_callText : Call callText ['3', '0', '0'] ['7'] ['\u0663'] := by
  have digits : (['3', '0', '0', '7', '\u0663'] : List Char).all Digit.isDigit := by decide
  have blanks : ([' ', '\t'] : List Char).all isBlank := by decide
  simp only [List.all_cons, List.all_nil, Bool.and_true, Bool.and_eq_true] at digits blanks
  have hundreds : Padded ['3', '0', '0'] [' ', '3', '0', '0', ' '] :=
    ⟨⟨by simp, by simp [digits]⟩, [' '], [' '], rfl, by simp [blanks], by simp [blanks]⟩
  have seven : Padded ['7'] ['7'] :=
    ⟨⟨by simp, by simp [digits]⟩, [], [], rfl, by simp, by simp⟩
  have three : Padded ['\u0663'] ['\u0663', '\t'] :=
    ⟨⟨by simp, by simp [digits]⟩, [], ['\t'], rfl, by simp, by simp [blanks]⟩
  exact .intro ⟨.inl rfl, .inr rfl, .inl rfl⟩ hundreds seven three

/-- The call between blanks. -/
def wrapped : String := String.ofList ('\u00A0' :: (callText ++ ['\n']))

theorem stripped_wrapped : Blank.Stripped callText wrapped.toList := by
  have visible : isBlank 'r' = false ∧ isBlank ')' = false := by decide
  have blanks : isBlank '\u00A0' ∧ isBlank '\n' := by decide
  refine ⟨⟨['\u00A0'], ['\n'], ?_, ?_, ?_⟩, ?_, ?_⟩
  · rw [wrapped, String.toList_ofList]
    rfl
  · simp [blanks]
  · simp [blanks]
  · simp [callText, visible]
  · simp [callText, visible]

theorem ofText_exact_wrapped : Blank.Stripped callText wrapped.toList ∧ Brief wrapped.toList ∧
    ofText wrapped = .ok ⟨255, 7, 3, 0⟩ ∧ InRange ⟨255, 7, 3, 1⟩ ∧
      ofText (packed ⟨255, 7, 3, 1⟩) = .ok ⟨255, 7, 3, 1⟩ := by
  have brief : Brief wrapped.toList := by
    apply brief_of_length
    rw [wrapped, String.toList_ofList]
    decide
  have inRange : InRange ⟨255, 7, 3, 1⟩ := by decide
  obtain ⟨spelt, _, forms⟩ := ofText_exact
  refine ⟨stripped_wrapped, brief, ?_, inRange, (forms _ inRange).2.1⟩
  exact (spelt wrapped callText stripped_wrapped brief _).mpr (.inl (.call call_callText))

end ScriptDialog.Color
