import ScriptDialog.Proofs.Text.Decoded
import ScriptDialog.Proofs.Text.Token

/-! Canonical tokens: those that decoding and encoding again leaves as they are. They are spelled
with plain characters and needed escapes only, and the bytes they stand for are text; just these
tokens are ever written. -/
namespace ScriptDialog.Token

variable {token : List Char} {bytes : List UInt8}

/-- The digits of an escape by their values. -/
def escapeDigits : List Char :=
  ['0', '1', '2', '3', '4', '5', '6', '7', '8', '9', 'A', 'B', 'C', 'D', 'E', 'F']

/-- A token without a raw mark or a needless escape, and the bytes it stands for. -/
inductive Denotes : List Char → List UInt8 → Prop where
  | nil : Denotes [] []
  | plain {c : Char} {token : List Char} {bytes : List UInt8} (plain : Plain c)
      (later : Denotes token bytes) : Denotes (c :: token) (UInt8.ofNat c.toNat :: bytes)
  | escape {first second : Char} {high low : Nat} {token : List Char} {bytes : List UInt8}
      (upper : escapeDigits[high]? = some first) (lower : escapeDigits[low]? = some second)
      (needed : reserved (UInt8.ofNat (high * 16 + low))) (later : Denotes token bytes) :
      Denotes ('#' :: first :: second :: token) (UInt8.ofNat (high * 16 + low) :: bytes)

/-- A token of plain characters and needed escapes whose bytes are UTF-8. -/
def Canonical (token : List Char) : Prop :=
  ∃ bytes text, Denotes token bytes ∧ Utf8.decode? bytes = .ok text

theorem escapeDigits_upperDigit {n : Nat} (digit : n < 16) :
    escapeDigits[n]? = some (Hex.upperDigit n) := by
  revert n
  decide

theorem upperDigit_of_escapeDigits {n : Nat} {c : Char} (found : escapeDigits[n]? = some c) :
    n < 16 ∧ c = Hex.upperDigit n := by
  obtain ⟨inside, _⟩ := List.getElem?_eq_some_iff.mp found
  have digit : n < 16 := inside
  rw [escapeDigits_upperDigit digit] at found
  exact ⟨digit, (Option.some.inj found).symm⟩

/-- The bytes of such a token are written as the token. -/
theorem Denotes.written (denotes : Denotes token bytes) : bytes.flatMap encodeByte = token := by
  induction denotes with
  | nil => rfl
  | @plain c token bytes plain _ ih =>
    have ascii := plain.2.1
    have same : (UInt8.ofNat c.toNat).toNat = c.toNat := Utf8.toNat_byte (by omega)
    have itself : encodeByte (UInt8.ofNat c.toNat) = [c] := by
      simp only [encodeByte, reserved_of_plain plain, same, Char.ofNat_toNat, Bool.false_eq_true,
        if_false]
    simp only [List.flatMap_cons, itself, ih, List.singleton_append]
  | @escape first second high low token bytes upper lower needed _ ih =>
    obtain ⟨highDigit, rfl⟩ := upperDigit_of_escapeDigits upper
    obtain ⟨lowDigit, rfl⟩ := upperDigit_of_escapeDigits lower
    have same : (UInt8.ofNat (high * 16 + low)).toNat = high * 16 + low :=
      Utf8.toNat_byte (by omega)
    have top : (high * 16 + low) / 16 = high := by omega
    have bottom : (high * 16 + low) % 16 = low := by omega
    simp only [List.flatMap_cons, encodeByte, needed, if_true, same, top, bottom, ih,
      List.cons_append, List.nil_append]

theorem denotes_encodeBytes (bytes : List UInt8) : Denotes (bytes.flatMap encodeByte) bytes := by
  induction bytes with
  | nil => exact .nil
  | cons b bytes ih =>
    have small := b.toNat_lt
    simp only [List.flatMap_cons]
    by_cases needed : reserved b
    · have whole : UInt8.ofNat (b.toNat / 16 * 16 + b.toNat % 16) = b := by
        rw [show b.toNat / 16 * 16 + b.toNat % 16 = b.toNat by omega, UInt8.ofNat_toNat]
      have escaped := Denotes.escape (escapeDigits_upperDigit (n := b.toNat / 16) (by omega))
        (escapeDigits_upperDigit (n := b.toNat % 16) (by omega)) (by rwa [whole]) ih
      rw [whole] at escaped
      simpa [encodeByte, needed] using escaped
    · have plain := Denotes.plain (plain_of_not_reserved needed) ih
      rw [toNat_ofNat_byte, UInt8.ofNat_toNat] at plain
      simpa [encodeByte, needed] using plain

theorem canonical_iff : Canonical token ↔ ∃ text, encodeChars text = token := by
  constructor
  · rintro ⟨bytes, text, denotes, read⟩
    have same := Utf8.decode?_eq_ok_iff.mp read
    exact ⟨text, by rw [encodeChars, same, denotes.written]⟩
  · rintro ⟨text, rfl⟩
    exact ⟨Utf8.encode text, text, denotes_encodeBytes _, Utf8.decode?_encode text⟩

/-- Decoding and encoding again keeps the canonical tokens and changes every other one, and the
canonical tokens are those that some text is encoded to. -/
theorem encode_decode_eq_iff :
    (∀ token : String, encode (decode token) = token ↔ Canonical token.toList) ∧
    (∀ token : String, Canonical token.toList ↔ ∃ text, encode text = token) := by
  have written (token : String) : Canonical token.toList ↔ ∃ text, encode text = token := by
    rw [canonical_iff]
    constructor
    · rintro ⟨text, same⟩
      exact ⟨String.ofList text, by simp [encode, same]⟩
    · rintro ⟨text, rfl⟩
      exact ⟨text.toList, by simp [encode]⟩
  refine ⟨fun token => ?_, written⟩
  rw [written]
  constructor
  · intro same
    exact ⟨decode token, same⟩
  · rintro ⟨text, rfl⟩
    rw [decode_encode]

end ScriptDialog.Token
