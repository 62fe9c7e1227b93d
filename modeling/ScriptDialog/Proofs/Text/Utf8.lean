import ScriptDialog.Text.Utf8

/-! Reading bytes in front of which a text stands encoded: the text comes back and the rest is read
as if it stood alone, even when it is no UTF-8. -/
namespace ScriptDialog.Utf8

/-- A byte from a number below 256 keeps the number. -/
theorem toNat_byte {n : Nat} (small : n < 256) : (UInt8.ofNat n).toNat = n := by
  simp [Nat.mod_eq_of_lt small]

theorem readTails_step {payload used tails low high k : Nat} (six : k < 64) (above : low ≤ 0x80 + k)
    (below : 0x80 + k ≤ high) (rest : List UInt8) :
    readTails payload used (tails + 1) low high (UInt8.ofNat (0x80 + k) :: rest) =
      readTails (payload * 64 + k) (used + 1) tails 0x80 0xBF rest := by
  have same : (UInt8.ofNat (0x80 + k)).toNat = 0x80 + k := toNat_byte (by omega)
  rw [readTails, same, if_pos ⟨above, below⟩]
  simp

theorem lead_two {n : Nat} (above : 0x80 ≤ n) (below : n < 0x800) :
    lead? (0xC0 + n / 64) = some ⟨n / 64, 1, 0x80, 0xBF⟩ := by
  unfold lead?
  rw [if_neg (by omega), if_neg (by omega), if_pos (by omega)]
  simp

/-- The bounds after the leading byte admit every second byte that an encoder writes. -/
theorem lead_three {n : Nat} (above : 0x800 ≤ n) (below : n < 0x10000)
    (scalar : n < 0xD800 ∨ 0xDFFF < n) :
    ∃ low high, lead? (0xE0 + n / 4096) = some ⟨n / 4096, 2, low, high⟩ ∧
      low ≤ 0x80 + n / 64 % 64 ∧ 0x80 + n / 64 % 64 ≤ high := by
  unfold lead?
  rw [if_neg (by omega), if_neg (by omega), if_neg (by omega)]
  by_cases lowest : n / 4096 = 0
  · exact ⟨0xA0, 0xBF, by simp [lowest], by omega, by omega⟩
  · rw [if_neg (by omega)]
    by_cases surrogates : n / 4096 = 0xD
    · exact ⟨0x80, 0x9F, by simp [surrogates], by omega, by omega⟩
    · rw [if_neg (by omega), if_pos (by omega)]
      exact ⟨0x80, 0xBF, by simp, by omega, by omega⟩

theorem lead_four {n : Nat} (above : 0x10000 ≤ n) (below : n < 0x110000) :
    ∃ low high, lead? (0xF0 + n / 262144) = some ⟨n / 262144, 3, low, high⟩ ∧
      low ≤ 0x80 + n / 4096 % 64 ∧ 0x80 + n / 4096 % 64 ≤ high := by
  unfold lead?
  rw [if_neg (by omega), if_neg (by omega), if_neg (by omega), if_neg (by omega), if_neg (by omega),
    if_neg (by omega)]
  by_cases lowest : n / 262144 = 0
  · exact ⟨0x90, 0xBF, by simp [lowest], by omega, by omega⟩
  · rw [if_neg (by omega)]
    by_cases highest : n / 262144 = 4
    · exact ⟨0x80, 0x8F, by simp [highest], by omega, by omega⟩
    · rw [if_pos (by omega)]
      exact ⟨0x80, 0xBF, by simp, by omega, by omega⟩

/-- An encoded character is read as a whole, whatever comes after it. -/
theorem head_encodeChar (c : Char) (rest : List UInt8) :
    ∃ first tails, encodeChar c = first :: tails ∧
      head first (tails ++ rest) = .scalar c tails.length := by
  have scalar : c.toNat < 0xD800 ∨ 0xDFFF < c.toNat ∧ c.toNat < 0x110000 := c.valid
  have back : Char.ofNat c.toNat = c := Char.ofNat_toNat c
  unfold encodeChar head
  generalize c.toNat = n at *
  by_cases one : n < 0x80
  · refine ⟨_, _, by simp only [if_pos one]; rfl, ?_⟩
    rw [toNat_byte (by omega)]
    simp [lead?, one, readTails, back]
  by_cases two : n < 0x800
  · refine ⟨_, _, by simp only [if_neg one, if_pos two]; rfl, ?_⟩
    rw [toNat_byte (by omega), lead_two (by omega) two]
    simp only [List.cons_append, List.nil_append]
    rw [readTails_step (by omega) (by omega) (by omega), readTails,
      show n / 64 * 64 + n % 64 = n by omega, back]
    rfl
  by_cases three : n < 0x10000
  · obtain ⟨low, high, lead, above, below⟩ := lead_three (by omega) three (by omega)
    refine ⟨_, _, by simp only [if_neg one, if_neg two, if_pos three]; rfl, ?_⟩
    rw [toNat_byte (by omega), lead]
    simp only [List.cons_append, List.nil_append]
    rw [readTails_step (by omega) above below, readTails_step (by omega) (by omega) (by omega),
      readTails, show (n / 4096 * 64 + n / 64 % 64) * 64 + n % 64 = n by omega, back]
    rfl
  · obtain ⟨low, high, lead, above, below⟩ := lead_four (n := n) (by omega) (by omega)
    refine ⟨_, _, by simp only [if_neg one, if_neg two, if_neg three]; rfl, ?_⟩
    rw [toNat_byte (by omega), lead]
    simp only [List.cons_append, List.nil_append]
    rw [readTails_step (by omega) above below, readTails_step (by omega) (by omega) (by omega),
      readTails_step (by omega) (by omega) (by omega), readTails,
      show ((n / 262144 * 64 + n / 4096 % 64) * 64 + n / 64 % 64) * 64 + n % 64 = n by omega, back]
    rfl

theorem decodeLossy_encodeChar_append (c : Char) (rest : List UInt8) :
    decodeLossy (encodeChar c ++ rest) = c :: decodeLossy rest := by
  obtain ⟨first, tails, encoded, read⟩ := head_encodeChar c rest
  rw [encoded, List.cons_append, decodeLossy, read]
  simp

theorem encode_cons (c : Char) (text : List Char) :
    encode (c :: text) = encodeChar c ++ encode text := by
  simp [encode]

theorem decodeLossy_encode_append (text : List Char) (rest : List UInt8) :
    decodeLossy (encode text ++ rest) = text ++ decodeLossy rest := by
  induction text with
  | nil => rfl
  | cons c text ih =>
    rw [encode_cons, List.append_assoc, decodeLossy_encodeChar_append, ih, List.cons_append]

theorem decodeFrom_encode (text : List Char) (position : Nat) :
    decodeFrom position (encode text) = .ok text := by
  induction text generalizing position with
  | nil => rw [encode_nil, decodeFrom]
  | cons c text ih =>
    obtain ⟨first, tails, encoded, read⟩ := head_encodeChar c (encode text)
    rw [encode_cons, encoded, List.cons_append, decodeFrom, read]
    simp [ih, Functor.map, Except.map]

/-- Text is decoded from its own bytes without a fault. -/
theorem decode?_encode (text : List Char) : decode? (encode text) = .ok text :=
  decodeFrom_encode text 0

end ScriptDialog.Utf8
