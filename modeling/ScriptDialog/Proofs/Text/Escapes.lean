import ScriptDialog.Proofs.Text.Decoded
import ScriptDialog.Proofs.Text.Token

/-! Decoding a token from its front. An escape at the front becomes a byte; any other character is
kept, and no byte of it is drawn into a character that begins with an escape. So each escape is paid
for by what stands in its place, the token never grows, and only a token without escapes is kept. -/
namespace ScriptDialog

namespace Utf8

/-- How many bytes are taken after the leading one. -/
def Head.used : Head → Nat
  | .scalar _ used | .flawed _ used => used

/-- The character that lossy decoding gives for them. -/
def Head.char : Head → Char
  | .scalar c _ => c
  | .flawed _ _ => replacement

theorem decodeLossy_cons (first : UInt8) (rest : List UInt8) :
    decodeLossy (first :: rest) =
      (head first rest).char :: decodeLossy (rest.drop (head first rest).used) := by
  rw [decodeLossy]
  cases head first rest <;> rfl

theorem length_encodeChar_pos (c : Char) : 0 < (encodeChar c).length := by
  obtain ⟨first, tails, encoded, _⟩ := head_encodeChar c []
  simp [encoded]

/-- A character is no longer than the bytes it was read from, and a replacement has three. -/
theorem length_char_le (first : UInt8) (rest : List UInt8) :
    (encodeChar (head first rest).char).length ≤ 3 * ((head first rest).used + 1) := by
  cases read : head first rest with
  | flawed flaw used =>
    have three : (encodeChar replacement).length = 3 := by decide
    simp only [Head.char, Head.used, three]
    omega
  | scalar c used =>
    have whole := congrArg List.length (encodeChar_of_head read)
    simp only [List.length_append, List.length_drop, List.length_cons] at whole
    simp only [Head.char, Head.used]
    omega

theorem bounds_of_lead {n : Nat} {lead : Lead} (found : lead? n = some lead) :
    0x80 ≤ lead.low ∧ lead.high ≤ 0xBF := by
  rcases lead_cases found with ⟨_, rfl⟩ | ⟨_, _, rfl⟩ | ⟨_, _, low, high, rfl, above, below, _⟩ |
    ⟨_, _, low, high, rfl, above, below, _⟩
  · simp
  · simp
  · exact ⟨above, below⟩
  · exact ⟨above, below⟩

/-- A character outside ASCII begins with a leading byte and goes on outside ASCII. -/
theorem encodeChar_wide {c : Char} (wide : 0x80 ≤ c.toNat) :
    ∃ first tails, encodeChar c = first :: tails ∧ 0xC0 ≤ first.toNat ∧
      ∀ b ∈ tails, 0x80 ≤ b.toNat := by
  have scalar : c.toNat < 0x110000 := by
    rcases c.valid with below | within
    · exact Nat.lt_trans below (by decide)
    · exact within.2
  unfold encodeChar
  generalize c.toNat = n at *
  have tail (k : Nat) : 0x80 ≤ (UInt8.ofNat (0x80 + k % 64)).toNat := by
    rw [toNat_byte (by omega)]
    omega
  by_cases two : n < 0x800
  · refine ⟨_, _, by simp only [Nat.not_lt.mpr wide, two, if_true, if_false]; rfl, ?_, ?_⟩
    · rw [toNat_byte (by omega)]
      omega
    · simpa using tail n
  by_cases three : n < 0x10000
  · refine ⟨_, _, by simp only [Nat.not_lt.mpr wide, two, three, if_true, if_false]; rfl, ?_, ?_⟩
    · rw [toNat_byte (by omega)]
      omega
    · simpa using ⟨tail (n / 64), tail n⟩
  · refine ⟨_, _, by simp only [Nat.not_lt.mpr wide, two, three, if_false]; rfl, ?_, ?_⟩
    · rw [toNat_byte (by omega)]
      omega
    · simpa using ⟨tail (n / 4096), tail (n / 64), tail n⟩

theorem length_encodeChar (c : Char) : (encodeChar c).length = c.utf8Size := by
  have bound (n : Nat) (small : n < UInt32.size) :
      c.val ≤ UInt32.ofNatLT n small ↔ c.toNat < n + 1 := by
    rw [UInt32.le_iff_toNat_le, Nat.lt_succ_iff]
    simp
  simp only [encodeChar, Char.utf8Size, bound]
  split
  · rfl
  split
  · rfl
  split <;> rfl

/-- The bytes of a text are as many as its string has. -/
theorem length_encode (text : List Char) :
    (encode text).length = (String.ofList text).utf8ByteSize := by
  induction text with
  | nil => rfl
  | cons c text ih =>
    rw [encode_cons, String.ofList_cons, String.utf8ByteSize_append, String.utf8ByteSize_singleton,
      List.length_append, ih, length_encodeChar]

end Utf8

namespace Token

open Utf8 (encodeChar)

variable {token rest : List Char} {bytes : List UInt8} {b : UInt8}

/-- A token that begins with an escape, its byte, and the rest behind it. -/
inductive Opens : List Char → UInt8 → List Char → Prop where
  | intro {high low : Char} {h l : Nat} (upper : Hex.value? high = some h)
      (lower : Hex.value? low = some l) (rest : List Char) :
      Opens ('#' :: high :: low :: rest) (UInt8.ofNat (h * 16 + l)) rest

/-- A token that begins with no escape. -/
def Closed (token : List Char) : Prop := ∀ b rest, ¬ Opens token b rest

theorem opens_or_closed (token : List Char) : (∃ b rest, Opens token b rest) ∨ Closed token := by
  by_cases opened : ∃ b rest, Opens token b rest
  · exact .inl opened
  · exact .inr fun b rest opens => opened ⟨b, rest, opens⟩

/-- Somewhere in the token stands `#` with two hexadecimal digits of either case behind it. -/
def Escaped (token : List Char) : Prop :=
  ∃ high low, Hex.isDigit high ∧ Hex.isDigit low ∧ ['#', high, low] <:+: token

theorem ascii_of_value? {c : Char} {n : Nat} (digit : Hex.value? c = some n) : c.toNat < 0x80 := by
  unfold Hex.value? at digit
  dsimp only at digit
  split at digit
  · omega
  split at digit
  · omega
  split at digit
  · omega
  · cases digit

theorem hexByte?_ascii {c : Char} (ascii : c.toNat < 0x80) :
    hexByte? (UInt8.ofNat c.toNat) = Hex.value? c := by
  rw [hexByte?, Utf8.toNat_byte (by omega), Char.ofNat_toNat]

/-- A byte that is a digit is a character on its own. -/
theorem char_of_hexByte? {n : Nat} (front : Utf8.encode token = b :: bytes)
    (digit : hexByte? b = some n) :
    ∃ c rest, token = c :: rest ∧ Hex.value? c = some n ∧ Utf8.encode rest = bytes := by
  cases token with
  | nil => cases front
  | cons c rest =>
    rw [Utf8.encode_cons] at front
    by_cases ascii : c.toNat < 0x80
    · rw [encodeChar_ascii ascii] at front
      obtain ⟨rfl, rfl⟩ := List.cons.inj front
      exact ⟨c, rest, rfl, by rw [← digit, hexByte?_ascii ascii], rfl⟩
    · obtain ⟨first, tails, encoded, wide, _⟩ := Utf8.encodeChar_wide (Nat.not_lt.mp ascii)
      rw [encoded] at front
      obtain ⟨rfl, _⟩ := List.cons.inj front
      have narrow := ascii_of_value? digit
      rw [toNat_ofNat_byte] at narrow
      omega

theorem unescape_opened (opens : Opens token b rest) :
    unescape (Utf8.encode token) = b :: unescape (Utf8.encode rest) := by
  cases opens with
  | @intro high low h l upper lower rest =>
    have hash : encodeChar '#' = [0x23] := by decide
    have highAscii := ascii_of_value? upper
    have lowAscii := ascii_of_value? lower
    simp only [Utf8.encode_cons, hash, encodeChar_ascii highAscii, encodeChar_ascii lowAscii,
      List.cons_append, List.nil_append]
    rw [unescape, hexByte?_ascii highAscii, hexByte?_ascii lowAscii, upper, lower]

theorem length_opened (opens : Opens token b rest) :
    (Utf8.encode token).length = (Utf8.encode rest).length + 3 := by
  cases opens with
  | @intro high low h l upper lower rest =>
    have hash : encodeChar '#' = [0x23] := by decide
    simp [Utf8.encode_cons, hash, encodeChar_ascii (ascii_of_value? upper),
      encodeChar_ascii (ascii_of_value? lower)]

theorem unescape_append {front : List UInt8} (free : ∀ b ∈ front, b ≠ 0x23) (bytes : List UInt8) :
    unescape (front ++ bytes) = front ++ unescape bytes := by
  induction front with
  | nil => rfl
  | cons b front ih =>
    obtain ⟨here, later⟩ := List.forall_mem_cons.mp free
    rw [List.cons_append, unescape_cons here, ih later, List.cons_append]

/-- A mark without two digits behind it stands for itself. -/
theorem unescape_mark (closed : Closed ('#' :: rest)) :
    unescape (0x23 :: Utf8.encode rest) = 0x23 :: unescape (Utf8.encode rest) := by
  match front : Utf8.encode rest with
  | [] => simp [unescape]
  | [x] => simp [unescape]
  | x :: y :: bytes =>
    rw [unescape]
    split
    · next h l upper lower =>
      obtain ⟨high, after, rfl, highDigit, front'⟩ := char_of_hexByte? front upper
      obtain ⟨low, after, rfl, lowDigit, _⟩ := char_of_hexByte? front' lower
      exact absurd (.intro highDigit lowDigit after) (closed _ _)
    · rfl

/-- A character that begins no escape is passed on. -/
theorem unescape_closed {c : Char} (closed : Closed (c :: rest)) :
    unescape (Utf8.encode (c :: rest)) = encodeChar c ++ unescape (Utf8.encode rest) := by
  rw [Utf8.encode_cons]
  by_cases mark : c = '#'
  · subst mark
    exact unescape_mark closed
  · apply unescape_append
    intro b member same
    subst same
    by_cases ascii : c.toNat < 0x80
    · rw [encodeChar_ascii ascii, List.mem_singleton] at member
      have number := congrArg UInt8.toNat member
      rw [Utf8.toNat_byte (by omega)] at number
      exact mark (Char.toNat_inj.mp number.symm)
    · obtain ⟨first, tails, encoded, wide, all⟩ := Utf8.encodeChar_wide (Nat.not_lt.mp ascii)
      rw [encoded] at member
      rcases List.mem_cons.mp member with rfl | inside
      · exact absurd wide (by decide)
      · exact absurd (all _ inside) (by decide)

theorem decodeChars_closed {c : Char} (closed : Closed (c :: rest)) :
    decodeChars (c :: rest) = c :: decodeChars rest := by
  rw [decodeChars, unescape_closed closed, Utf8.decodeLossy_encodeChar_append]
  rfl

/-- A continuation byte in front comes from an escape: a raw character begins with no such byte. -/
theorem opens_of_tail (front : unescape (Utf8.encode token) = b :: bytes) (above : 0x80 ≤ b.toNat)
    (below : b.toNat ≤ 0xBF) :
    ∃ rest, Opens token b rest ∧ bytes = unescape (Utf8.encode rest) := by
  cases token with
  | nil => simp [Utf8.encode, unescape] at front
  | cons c rest =>
    rcases opens_or_closed (c :: rest) with ⟨b', after, opens⟩ | closed
    · rw [unescape_opened opens] at front
      obtain ⟨rfl, rfl⟩ := List.cons.inj front
      exact ⟨after, opens, rfl⟩
    · rw [unescape_closed closed] at front
      by_cases ascii : c.toNat < 0x80
      · rw [encodeChar_ascii ascii] at front
        obtain ⟨rfl, _⟩ := List.cons.inj front
        rw [Utf8.toNat_byte (by omega)] at above
        omega
      · obtain ⟨first, tails, encoded, wide, _⟩ := Utf8.encodeChar_wide (Nat.not_lt.mp ascii)
        rw [encoded] at front
        obtain ⟨rfl, _⟩ := List.cons.inj front
        omega

/-- What is taken after a leading byte are escapes, three bytes of the token for each. -/
theorem exists_behind (payload used tails : Nat) {low high : Nat} (above : 0x80 ≤ low)
    (below : high ≤ 0xBF) (token : List Char) :
    ∃ k rest, (Utf8.readTails payload used tails low high
        (unescape (Utf8.encode token))).used = used + k ∧
      (unescape (Utf8.encode token)).drop k = unescape (Utf8.encode rest) ∧
      (Utf8.encode token).length = (Utf8.encode rest).length + 3 * k := by
  -- the bytes still awaited, with the token that they come from
  induction tails generalizing payload used low high token with
  | zero => exact ⟨0, token, rfl, rfl, rfl⟩
  | succ tails ih =>
    cases front : unescape (Utf8.encode token) with
    | nil => exact ⟨0, token, rfl, front.symm, rfl⟩
    | cons b bytes =>
      rw [Utf8.readTails]
      split
      · next bounds =>
        obtain ⟨rest, opens, rfl⟩ := opens_of_tail front (by omega) (by omega)
        obtain ⟨k, after, taken, dropped, length⟩ := ih (payload * 64 + (b.toNat - 0x80))
          (used + 1) (Nat.le_refl 0x80) (Nat.le_refl 0xBF) rest
        have three := length_opened opens
        exact ⟨k + 1, after, by omega, by simpa using dropped, by omega⟩
      · exact ⟨0, token, rfl, front.symm, rfl⟩

/-- So is what is taken after the byte of an escape. -/
theorem exists_behind_head (b : UInt8) (token : List Char) :
    ∃ k rest, (Utf8.head b (unescape (Utf8.encode token))).used = k ∧
      (unescape (Utf8.encode token)).drop k = unescape (Utf8.encode rest) ∧
      (Utf8.encode token).length = (Utf8.encode rest).length + 3 * k := by
  unfold Utf8.head
  split
  · exact ⟨0, token, rfl, rfl, rfl⟩
  · next lead found =>
    obtain ⟨above, below⟩ := Utf8.bounds_of_lead found
    obtain ⟨k, rest, taken, dropped, length⟩ :=
      exists_behind lead.payload 0 lead.tails above below token
    exact ⟨k, rest, by simpa using taken, dropped, length⟩

/-- Escapes in front become one character, which takes no more room than they do. -/
theorem decodeChars_opened (opens : Opens token b rest) :
    ∃ c after, decodeChars token = c :: decodeChars after ∧
      (Utf8.encode after).length + (encodeChar c).length ≤ (Utf8.encode token).length ∧
      (Utf8.encode after).length + 3 ≤ (Utf8.encode token).length := by
  obtain ⟨k, after, taken, dropped, length⟩ := exists_behind_head b rest
  have three := length_opened opens
  have short := Utf8.length_char_le b (unescape (Utf8.encode rest))
  rw [taken] at short
  refine ⟨(Utf8.head b (unescape (Utf8.encode rest))).char, after, ?_, by omega, by omega⟩
  rw [decodeChars, unescape_opened opens, Utf8.decodeLossy_cons, taken, dropped, decodeChars]

theorem length_decodeChars_le (token : List Char) :
    (Utf8.encode (decodeChars token)).length ≤ (Utf8.encode token).length := by
  induction size : (Utf8.encode token).length using Nat.strongRecOn generalizing token with
  | ind n ih =>
    cases token with
    | nil => simp [decodeChars_nil]
    | cons c rest =>
      rcases opens_or_closed (c :: rest) with ⟨b, after, opens⟩ | closed
      · obtain ⟨d, after, decoded, room, shorter⟩ := decodeChars_opened opens
        have later := ih _ (by omega) after rfl
        rw [decoded, Utf8.encode_cons, List.length_append]
        omega
      · rw [decodeChars_closed closed]
        have pos := Utf8.length_encodeChar_pos c
        rw [Utf8.encode_cons, List.length_append] at size ⊢
        have later := ih _ (by omega) rest rfl
        omega

theorem escaped_cons (c : Char) (rest : List Char) :
    Escaped (c :: rest) ↔ (∃ b after, Opens (c :: rest) b after) ∨ Escaped rest := by
  constructor
  · rintro ⟨high, low, upper, lower, inside⟩
    rcases List.infix_cons_iff.mp inside with ⟨after, front⟩ | later
    · obtain ⟨h, upper⟩ := Option.isSome_iff_exists.mp upper
      obtain ⟨l, lower⟩ := Option.isSome_iff_exists.mp lower
      rw [← front]
      exact .inl ⟨_, _, .intro upper lower after⟩
    · exact .inr ⟨high, low, upper, lower, later⟩
  · rintro (⟨b, after, opens⟩ | ⟨high, low, upper, lower, later⟩)
    · cases opens with
      | @intro high low h l upper lower after =>
        exact ⟨high, low, by simp [Hex.isDigit, upper], by simp [Hex.isDigit, lower],
          List.infix_cons_iff.mpr (.inl ⟨after, rfl⟩)⟩
    · exact ⟨high, low, upper, lower, List.infix_cons_iff.mpr (.inr later)⟩

theorem decodeChars_eq_self_iff (token : List Char) :
    decodeChars token = token ↔ ¬ Escaped token := by
  induction token with
  | nil => simp [decodeChars_nil, Escaped]
  | cons c rest ih =>
    rw [escaped_cons]
    rcases opens_or_closed (c :: rest) with ⟨b, after, opens⟩ | closed
    · refine iff_of_false ?_ (fun none => none (.inl ⟨b, after, opens⟩))
      obtain ⟨d, after, decoded, _, shorter⟩ := decodeChars_opened opens
      have room := length_decodeChars_le after
      intro same
      -- the tail after the mark would have to be longer than what is left of the token
      have tail : decodeChars after = rest := by
        rw [decoded] at same
        exact (List.cons.inj same).2
      have mark : c = '#' := by
        cases opens
        rfl
      have hash : encodeChar '#' = [0x23] := by decide
      rw [tail] at room
      simp only [mark, Utf8.encode_cons, hash, List.length_append, List.length_singleton] at shorter
      omega
    · have unopened : ¬ ∃ b after, Opens (c :: rest) b after := fun ⟨b, after, opens⟩ =>
        closed b after opens
      rw [decodeChars_closed closed]
      simp [ih, unopened]

/-- A token is decoded to itself just when it holds no escape, and decoding makes none longer. -/
theorem decode_eq_self_iff (token : String) :
    (decode token = token ↔ ¬ Escaped token.toList) ∧
      (decode token).utf8ByteSize ≤ token.utf8ByteSize := by
  constructor
  · rw [← decodeChars_eq_self_iff, ← String.toList_inj]
    simp [decode]
  · have room := length_decodeChars_le token.toList
    simpa only [Utf8.length_encode, String.ofList_toList, decode] using room

/-- A mark that begins no escape is passed over, and the next one may begin one. -/
example : decode "#4#41" = "#4A" := by decide +kernel

end Token

end ScriptDialog
