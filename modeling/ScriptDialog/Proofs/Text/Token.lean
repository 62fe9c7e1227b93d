import ScriptDialog.Proofs.Text.Utf8
import ScriptDialog.Text.Token

/-! An encoded text is printable ASCII without the delimiters of a saved dialog, and decoding gives
it back whatever the token goes on with: every escape is complete, so none forms across the end. -/
namespace ScriptDialog.Token

/-- A character that stands for itself in a token. -/
def Plain (c : Char) : Prop :=
  0x20 ≤ c.toNat ∧ c.toNat ≤ 0x7F ∧ c ≠ '#' ∧ c ≠ ',' ∧ c ≠ ':' ∧ c ≠ '|'

instance (c : Char) : Decidable (Plain c) := inferInstanceAs (Decidable (_ ∧ _))

theorem encodeChar_ascii {c : Char} (ascii : c.toNat < 0x80) :
    Utf8.encodeChar c = [UInt8.ofNat c.toNat] := by
  simp [Utf8.encodeChar, ascii]

theorem upperDigit_plain {n : Nat} (digit : n < 16) : Plain (Hex.upperDigit n) := by
  revert n
  decide

theorem hexByte?_upperDigit {n : Nat} (digit : n < 16) :
    hexByte? (UInt8.ofNat (Hex.upperDigit n).toNat) = some n := by
  revert n
  decide

theorem toNat_ofNat_byte {b : UInt8} : (Char.ofNat b.toNat).toNat = b.toNat := by
  have valid : b.toNat.isValidChar := .inl (by have := b.toNat_lt; omega)
  rw [Char.ofNat, dif_pos valid]
  rfl

/-- A byte that is not reserved is its own character. -/
theorem plain_of_not_reserved {b : UInt8} (free : ¬ reserved b) : Plain (Char.ofNat b.toNat) := by
  simp only [reserved, Bool.or_eq_true, decide_eq_true_eq, beq_iff_eq, not_or] at free
  obtain ⟨⟨⟨⟨⟨control, wide⟩, hash⟩, comma⟩, colon⟩, bar⟩ := free
  have other {c : Char} (differs : b.toNat ≠ c.toNat) : Char.ofNat b.toNat ≠ c := fun same =>
    differs (by rw [← same, toNat_ofNat_byte])
  have number {k : UInt8} (differs : b ≠ k) : b.toNat ≠ k.toNat := fun same =>
    differs (UInt8.toNat.inj same)
  refine ⟨by rw [toNat_ofNat_byte]; omega, by rw [toNat_ofNat_byte]; omega, ?_, ?_, ?_, ?_⟩
  · exact other (number hash)
  · exact other (number comma)
  · exact other (number colon)
  · exact other (number bar)

theorem reserved_of_plain {c : Char} (plain : Plain c) : ¬ reserved (UInt8.ofNat c.toNat) := by
  obtain ⟨above, below, hash, comma, colon, bar⟩ := plain
  have same : (UInt8.ofNat c.toNat).toNat = c.toNat := Utf8.toNat_byte (by omega)
  have other {d : Char} (differs : c ≠ d) : c.toNat ≠ d.toNat := fun equal =>
    differs (Char.toNat_inj.mp equal)
  have number {k : UInt8} (differs : c.toNat ≠ k.toNat) : UInt8.ofNat c.toNat ≠ k := fun equal =>
    differs (by rw [← equal, same])
  simp only [reserved, Bool.or_eq_true, decide_eq_true_eq, beq_iff_eq, not_or, same]
  refine ⟨⟨⟨⟨⟨by omega, by omega⟩, ?_⟩, ?_⟩, ?_⟩, ?_⟩
  · exact number (other hash)
  · exact number (other comma)
  · exact number (other colon)
  · exact number (other bar)

theorem mem_encodeByte {b : UInt8} {c : Char} (member : c ∈ encodeByte b) : c = '#' ∨ Plain c := by
  have small := b.toNat_lt
  unfold encodeByte at member
  split at member
  · simp only [List.mem_cons, List.not_mem_nil, or_false] at member
    rcases member with rfl | rfl | rfl
    · exact .inl rfl
    · exact .inr (upperDigit_plain (by omega))
    · exact .inr (upperDigit_plain (by omega))
  · next free =>
    rw [List.mem_singleton.mp member]
    exact .inr (plain_of_not_reserved free)

/-- Every character is plain or begins an escape, as in a token. -/
def Written (token : List Char) : Prop := ∀ c ∈ token, c = '#' ∨ Plain c

theorem Written.printable {token : List Char} (written : Written token) :
    ∀ c ∈ token, 0x20 ≤ c.toNat ∧ c.toNat ≤ 0x7F := by
  intro c member
  rcases written c member with rfl | plain
  · decide
  · exact ⟨plain.1, plain.2.1⟩

/-- A token holds neither delimiter of a saved dialog. -/
theorem Written.free {token : List Char} (written : Written token) : ':' ∉ token ∧ '|' ∉ token := by
  constructor <;> intro member <;> rcases written _ member with same | plain
  · exact absurd same (by decide)
  · exact plain.2.2.2.2.1 rfl
  · exact absurd same (by decide)
  · exact plain.2.2.2.2.2 rfl

theorem Written.of_plain {token : List Char} (plain : ∀ c ∈ token, Plain c) : Written token :=
  fun c member => .inr (plain c member)

theorem written_encodeChars (text : List Char) : Written (encodeChars text) := by
  intro c member
  obtain ⟨b, _, inside⟩ := List.mem_flatMap.mp member
  exact mem_encodeByte inside

theorem written_encode (text : String) : Written (encode text).toList := by
  rw [encode, String.toList_ofList]
  exact written_encodeChars text.toList

theorem encodeChars_append (a b : List Char) :
    encodeChars (a ++ b) = encodeChars a ++ encodeChars b := by
  simp [encodeChars]

/-- Plain text is its own token. -/
theorem encodeChars_plain {text : List Char} (plain : ∀ c ∈ text, Plain c) :
    encodeChars text = text := by
  induction text with
  | nil => rfl
  | cons c text ih =>
    have here := plain c (by simp)
    have ascii : c.toNat < 0x80 := by have := here.2.1; omega
    have single : encodeChars [c] = [c] := by
      simp [encodeChars, Utf8.encode, encodeChar_ascii ascii, encodeByte, reserved_of_plain here,
        Utf8.toNat_byte (show c.toNat < 256 by omega)]
    rw [← List.singleton_append, encodeChars_append, single,
      ih fun c member => plain c (List.mem_cons_of_mem _ member)]

theorem unescape_cons {b : UInt8} (free : b ≠ 0x23) (rest : List UInt8) :
    unescape (b :: rest) = b :: unescape rest := by
  rw [unescape]
  intro high low tail same
  exact absurd same free

theorem unescape_escaped {high low : Nat} (upper : high < 16) (lower : low < 16)
    (rest : List UInt8) :
    unescape (0x23 :: UInt8.ofNat (Hex.upperDigit high).toNat ::
      UInt8.ofNat (Hex.upperDigit low).toNat :: rest) =
      UInt8.ofNat (high * 16 + low) :: unescape rest := by
  rw [unescape, hexByte?_upperDigit upper, hexByte?_upperDigit lower]

/-- One written byte is read back, whatever bytes come after it. -/
theorem unescape_encodeByte (b : UInt8) (rest : List UInt8) :
    unescape (Utf8.encode (encodeByte b) ++ rest) = b :: unescape rest := by
  have small := b.toNat_lt
  have ascii {n : Nat} (digit : n < 16) : (Hex.upperDigit n).toNat < 0x80 := by
    have := (upperDigit_plain digit).2.1
    omega
  unfold encodeByte
  split
  · have hash : Utf8.encodeChar '#' = [0x23] := by decide
    simp only [Utf8.encode, List.flatMap_cons, List.flatMap_nil, hash,
      encodeChar_ascii (ascii (show b.toNat / 16 < 16 by omega)),
      encodeChar_ascii (ascii (show b.toNat % 16 < 16 by omega)), List.cons_append,
      List.nil_append]
    rw [unescape_escaped (by omega) (by omega), show b.toNat / 16 * 16 + b.toNat % 16 = b.toNat by
      omega, UInt8.ofNat_toNat]
  · next free =>
    have plain := plain_of_not_reserved free
    have itself : b ≠ 0x23 := by
      rintro rfl
      exact free (by decide)
    have single : Utf8.encode [Char.ofNat b.toNat] = [b] := by
      have bound := plain.2.1
      simp [Utf8.encode, encodeChar_ascii (c := Char.ofNat b.toNat) (by omega), toNat_ofNat_byte]
    rw [single, List.singleton_append, unescape_cons itself]

theorem unescape_encodeBytes (bytes rest : List UInt8) :
    unescape (Utf8.encode (bytes.flatMap encodeByte) ++ rest) = bytes ++ unescape rest := by
  induction bytes with
  | nil => rfl
  | cons b bytes ih =>
    rw [List.flatMap_cons, Utf8.encode_append, List.append_assoc, unescape_encodeByte, ih,
      List.cons_append]

theorem decodeChars_encodeChars_append (text token : List Char) :
    decodeChars (encodeChars text ++ token) = text ++ decodeChars token := by
  simp only [decodeChars, encodeChars, Utf8.encode_append]
  rw [unescape_encodeBytes, Utf8.decodeLossy_encode_append]

theorem decodeChars_nil : decodeChars [] = [] := by
  simp [decodeChars, Utf8.encode, unescape, Utf8.decodeLossy]

theorem decodeChars_encodeChars (text : List Char) : decodeChars (encodeChars text) = text := by
  have whole := decodeChars_encodeChars_append text []
  rwa [List.append_nil, decodeChars_nil, List.append_nil] at whole

theorem decodeChars_plain {text : List Char} (plain : ∀ c ∈ text, Plain c) :
    decodeChars text = text := by
  have whole := decodeChars_encodeChars text
  rwa [encodeChars_plain plain] at whole

theorem decode_encode (text : String) : decode (encode text) = text := by
  simp [decode, encode, decodeChars_encodeChars]

theorem decode_plain {token : String} (plain : ∀ c ∈ token.toList, Plain c) :
    decode token = token := by
  simp [decode, decodeChars_plain plain]

/-- Decoding inverts encoding in front of any further token, also one that begins with digits or
with an escape; so a token in itself, and tokens one after the other, come back as their texts. -/
theorem decode_encode_append :
    (∀ text token : String, decode (encode text ++ token) = text ++ decode token) ∧
    (∀ text : String, decode (encode text) = text) ∧
    (∀ texts : List String, decode (String.join (texts.map encode)) = String.join texts) := by
  have append (text token : String) : decode (encode text ++ token) = text ++ decode token := by
    apply String.toList_inj.mp
    simp [decode, encode, decodeChars_encodeChars_append]
  have empty : decode "" = "" := by simp [decode, decodeChars_nil]
  refine ⟨append, decode_encode, fun texts => ?_⟩
  induction texts with
  | nil => simpa using empty
  | cons text texts ih => rw [List.map_cons, String.join_cons, append, ih, String.join_cons]

end ScriptDialog.Token
