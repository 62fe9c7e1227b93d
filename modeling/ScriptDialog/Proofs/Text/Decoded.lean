import ScriptDialog.Proofs.Text.Utf8

/-! Bytes that are text. Strict decoding accepts the bytes of a text, gives that text back, and
refuses all others: overlong forms, surrogates, numbers beyond the last scalar value, stray bytes
and characters that are cut short. -/
namespace ScriptDialog.Utf8

variable {n payload used tails low high : Nat} {c : Char} {bytes rest : List UInt8}
  {text : List Char}

/-- What a leading byte can be: the payload is its distance from the first of its class, and the
bounds of the second byte are narrowed at the ends. -/
theorem lead_cases {lead : Lead} (found : lead? n = some lead) :
    (n < 0x80 ∧ lead = ⟨n, 0, 0x80, 0xBF⟩) ∨
    (0xC2 ≤ n ∧ n < 0xE0 ∧ lead = ⟨n - 0xC0, 1, 0x80, 0xBF⟩) ∨
    (0xE0 ≤ n ∧ n < 0xF0 ∧ ∃ low high, lead = ⟨n - 0xE0, 2, low, high⟩ ∧ 0x80 ≤ low ∧
      high ≤ 0xBF ∧ (n = 0xE0 → 0xA0 ≤ low) ∧ (n = 0xED → high ≤ 0x9F)) ∨
    (0xF0 ≤ n ∧ n ≤ 0xF4 ∧ ∃ low high, lead = ⟨n - 0xF0, 3, low, high⟩ ∧ 0x80 ≤ low ∧
      high ≤ 0xBF ∧ (n = 0xF0 → 0x90 ≤ low) ∧ (n = 0xF4 → high ≤ 0x8F)) := by
  unfold lead? at found
  split at found
  · next one => exact .inl ⟨one, (Option.some.inj found).symm⟩
  split at found
  · cases found
  split at found
  · next two => exact .inr (.inl ⟨by omega, two, (Option.some.inj found).symm⟩)
  split at found
  · next three =>
    cases found
    subst three
    exact .inr (.inr (.inl ⟨by omega, by omega, _, _, rfl, by simp⟩))
  split at found
  · next three =>
    cases found
    subst three
    exact .inr (.inr (.inl ⟨by omega, by omega, _, _, rfl, by simp⟩))
  split at found
  · next three =>
    exact .inr (.inr (.inl ⟨by omega, three, _, _, (Option.some.inj found).symm, by simp, by simp,
      by omega, by omega⟩))
  split at found
  · next four =>
    cases found
    subst four
    exact .inr (.inr (.inr ⟨by omega, by omega, _, _, rfl, by simp⟩))
  split at found
  · next four =>
    exact .inr (.inr (.inr
      ⟨by omega, by omega, _, _, (Option.some.inj found).symm, by simp, by simp,
      by omega, by omega⟩))
  split at found
  · next four =>
    cases found
    subst four
    exact .inr (.inr (.inr ⟨by omega, by omega, _, _, rfl, by simp⟩))
  · cases found

/-- Behind a character that is still awaited stands a byte within the bounds, which is written as a
continuation. -/
theorem exists_tail (above : 0x80 ≤ low) (below : high ≤ 0xBF)
    (read : readTails payload used (tails + 1) low high bytes = .scalar c n) :
    ∃ k rest, bytes = UInt8.ofNat (0x80 + k) :: rest ∧ k < 64 ∧ low ≤ 0x80 + k ∧ 0x80 + k ≤ high ∧
      readTails (payload * 64 + k) (used + 1) tails 0x80 0xBF rest = .scalar c n := by
  cases bytes with
  | nil => cases read
  | cons b rest =>
    rw [readTails] at read
    split at read
    · next bounds =>
      have whole : 0x80 + (b.toNat - 0x80) = b.toNat := by omega
      refine ⟨b.toNat - 0x80, rest, ?_, by omega, by omega, by omega, read⟩
      rw [whole, UInt8.ofNat_toNat]
    · cases read

theorem scalar_of_readTails (read : readTails payload used 0 low high bytes = .scalar c n)
    (valid : payload.isValidChar) : c.toNat = payload ∧ n = used := by
  cases read
  refine ⟨?_, rfl⟩
  rw [Char.ofNat, dif_pos valid]
  rfl

theorem encodeChar_of_one_tail {m : Nat} (above : 0xC2 ≤ m) (two : m < 0xE0)
    (read : readTails (m - 0xC0) 0 1 0x80 0xBF rest = .scalar c n) :
    encodeChar c ++ rest.drop n = UInt8.ofNat m :: rest := by
  obtain ⟨k, rest, rfl, six, -, -, read⟩ := exists_tail (by omega) (by omega) read
  obtain ⟨value, rfl⟩ := scalar_of_readTails read (.inl (by omega))
  have top : 0xC0 + c.toNat / 64 = m := by omega
  have bottom : c.toNat % 64 = k := by omega
  rw [encodeChar]
  rw [if_neg (by omega), if_pos (by omega), top, bottom]
  rfl

/-- The narrowed bounds keep out overlong forms and surrogates. -/
theorem encodeChar_of_two_tails {m : Nat} (above : 0xE0 ≤ m) (three : m < 0xF0)
    (least : 0x80 ≤ low) (most : high ≤ 0xBF) (lowest : m = 0xE0 → 0xA0 ≤ low)
    (surrogates : m = 0xED → high ≤ 0x9F)
    (read : readTails (m - 0xE0) 0 2 low high rest = .scalar c n) :
    encodeChar c ++ rest.drop n = UInt8.ofNat m :: rest := by
  obtain ⟨j, rest, rfl, six, low', high', read⟩ := exists_tail least most read
  obtain ⟨k, rest, rfl, six', -, -, read⟩ := exists_tail (by omega) (by omega) read
  have valid : (((m - 0xE0) * 64 + j) * 64 + k).isValidChar := by
    by_cases edge : m = 0xED
    · have narrow := surrogates edge
      exact .inl (by omega)
    · by_cases below : m < 0xED
      · exact .inl (by omega)
      · exact .inr ⟨by omega, by omega⟩
  obtain ⟨value, rfl⟩ := scalar_of_readTails read valid
  have long : 0x800 ≤ c.toNat := by
    by_cases edge : m = 0xE0
    · have narrow := lowest edge
      omega
    · omega
  have top : 0xE0 + c.toNat / 4096 = m := by omega
  have middle : c.toNat / 64 % 64 = j := by omega
  have bottom : c.toNat % 64 = k := by omega
  rw [encodeChar]
  rw [if_neg (by omega), if_neg (by omega), if_pos (by omega), top, middle, bottom]
  rfl

/-- The narrowed bounds keep out overlong forms and numbers beyond the last scalar value. -/
theorem encodeChar_of_three_tails {m : Nat} (above : 0xF0 ≤ m) (four : m ≤ 0xF4)
    (least : 0x80 ≤ low) (most : high ≤ 0xBF) (lowest : m = 0xF0 → 0x90 ≤ low)
    (highest : m = 0xF4 → high ≤ 0x8F)
    (read : readTails (m - 0xF0) 0 3 low high rest = .scalar c n) :
    encodeChar c ++ rest.drop n = UInt8.ofNat m :: rest := by
  obtain ⟨i, rest, rfl, six, low', high', read⟩ := exists_tail least most read
  obtain ⟨j, rest, rfl, six', -, -, read⟩ := exists_tail (by omega) (by omega) read
  obtain ⟨k, rest, rfl, six'', -, -, read⟩ := exists_tail (by omega) (by omega) read
  have long : 0x10000 ≤ (((m - 0xF0) * 64 + i) * 64 + j) * 64 + k := by
    by_cases edge : m = 0xF0
    · have narrow := lowest edge
      omega
    · omega
  have short : (((m - 0xF0) * 64 + i) * 64 + j) * 64 + k < 0x110000 := by
    by_cases edge : m = 0xF4
    · have narrow := highest edge
      omega
    · omega
  obtain ⟨value, rfl⟩ := scalar_of_readTails read (.inr ⟨by omega, short⟩)
  have top : 0xF0 + c.toNat / 262144 = m := by omega
  have second : c.toNat / 4096 % 64 = i := by omega
  have third : c.toNat / 64 % 64 = j := by omega
  have bottom : c.toNat % 64 = k := by omega
  rw [encodeChar]
  rw [if_neg (by omega), if_neg (by omega), if_neg (by omega), top, second, third, bottom]
  rfl

/-- The bytes that a character was read from are those that it is written with. -/
theorem encodeChar_of_head {first : UInt8} (read : head first rest = .scalar c n) :
    encodeChar c ++ rest.drop n = first :: rest := by
  unfold head at read
  have back : UInt8.ofNat first.toNat = first := UInt8.ofNat_toNat
  split at read
  · cases read
  · next lead found =>
    rw [← back]
    rcases lead_cases found with ⟨one, rfl⟩ | ⟨above, two, rfl⟩ |
      ⟨above, three, low, high, rfl, least, most, lowest, surrogates⟩ |
      ⟨above, four, low, high, rfl, least, most, lowest, highest⟩
    · obtain ⟨value, rfl⟩ := scalar_of_readTails read (.inl (by dsimp only; omega))
      simp [encodeChar, value, one]
    · exact encodeChar_of_one_tail above two read
    · exact encodeChar_of_two_tails above three least most lowest surrogates read
    · exact encodeChar_of_three_tails above four least most lowest highest read

theorem encode_of_decodeFrom {position : Nat} (read : decodeFrom position bytes = .ok text) :
    encode text = bytes := by
  induction text generalizing bytes position with
  | nil =>
    cases bytes with
    | nil => rfl
    | cons first rest =>
      rw [decodeFrom] at read
      cases here : head first rest with
      | flawed flaw used => simp [here] at read
      | scalar c used =>
        cases later : decodeFrom (position + 1 + used) (rest.drop used) <;>
          simp [here, later, Functor.map, Except.map] at read
  | cons c text ih =>
    cases bytes with
    | nil => simp [decodeFrom] at read
    | cons first rest =>
      rw [decodeFrom] at read
      cases here : head first rest with
      | flawed flaw used => simp [here] at read
      | scalar c' used =>
        cases later : decodeFrom (position + 1 + used) (rest.drop used) with
        | error part => simp [here, later, Functor.map, Except.map] at read
        | ok text' =>
          simp only [here, later, Functor.map, Except.map, Except.ok.injEq, List.cons.injEq] at read
          obtain ⟨rfl, rfl⟩ := read
          rw [encode_cons, ih later, encodeChar_of_head here]

/-- Bytes are decoded to a text just when they are its encoding. -/
theorem decode?_eq_ok_iff : decode? bytes = .ok text ↔ encode text = bytes := by
  constructor
  · exact encode_of_decodeFrom
  · rintro rfl
    exact decode?_encode text

end ScriptDialog.Utf8
