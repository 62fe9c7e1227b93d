import ScriptDialog.Proofs.Field.Settled
import ScriptDialog.Proofs.Number.Exact

/-! An integer in a field, however it is spelt, is read as itself if 32 bits hold it, and otherwise
as nothing. That it is made a double on the way moves none of those integers, and brings no other
one within the bounds. -/
namespace ScriptDialog.Field

open Blank (isBlank aroundNumber Between)

/-- The ways to spell an integer: as a number, with decimal digits behind an optional sign, and with
hexadecimal digits of either case behind the prefix. Zeros may stand in front of the digits, and
blanks around the text. -/
inductive SpellsInt : Value → Int → Prop where
  | int (n : Int) : SpellsInt (.int n) n
  | decimal {s : String} {sign : List Char} {minus : Bool} (m : Nat)
      (optional : Numeral.Signed sign minus) (zeros : Nat)
      (between : Between aroundNumber
        (sign ++ (List.replicate zeros '0' ++ Nat.toDigits 10 m)) s.toList) :
      SpellsInt (.text s) (signed minus m)
  | hexadecimal {s : String} {mark : Char} {run : List Char} (m : Nat)
      (mark_eq : mark = 'x' ∨ mark = 'X') (zeros : Nat)
      (digits : run.map Char.toLower = List.replicate zeros '0' ++ Nat.toDigits 16 m)
      (between : Between isBlank ('0' :: mark :: run) s.toList) : SpellsInt (.text s) m

variable {record held : Value} {key : String} {x : Double} {n : Int}

theorem narrow?_of_truncate (whole : x.truncate = .ok n) :
    narrow? x = if Narrow n then some n else none := by
  unfold narrow?
  rw [whole]
  rfl

theorem narrow?_eq_none (beyond : ∀ n, x.truncate = .ok n → ¬ Narrow n) : narrow? x = none := by
  by_contra found
  obtain ⟨n, read⟩ := Option.ne_none_iff_exists'.mp found
  obtain ⟨whole, narrow⟩ := narrow?_eq_some_iff.mp read
  exact beyond n whole narrow

theorem natAbs_of_narrow (narrow : Narrow n) : n.natAbs < 2 ^ 53 := by
  simp only [Narrow, Numeral.int32Min, Numeral.int32Max] at narrow
  omega

theorem not_narrow_signed {m : Nat} (large : 2 ^ 53 ≤ m) (minus : Bool) :
    ¬ Narrow (signed minus m) := by
  intro narrow
  have small := natAbs_of_narrow narrow
  rw [natAbs_signed] at small
  omega

/-- Below 53 bits nothing is rounded, and from there on nothing comes below 32 bits. -/
theorem narrow?_rounded (minus : Bool) (m : Nat) :
    narrow? (.rounded minus (m * Magnitude.one) 1) =
      if Narrow (signed minus m) then some (signed minus m) else none := by
  by_cases exact : m < 2 ^ 53
  · exact narrow?_of_truncate (Double.truncate_rounded_exact minus exact)
  · have large : 2 ^ 53 ≤ m := Nat.not_lt.mp exact
    rw [if_neg (not_narrow_signed large minus)]
    refine narrow?_eq_none fun n whole narrow => ?_
    have wide := Double.natAbs_truncate_rounded large whole
    exact Nat.not_lt.mpr wide (natAbs_of_narrow narrow)

theorem narrow?_ofInt? (n : Int) :
    (Double.ofInt? n).bind narrow? = if Narrow n then some n else none := by
  have infinite : narrow? (.infinite (n < 0)) = none := rfl
  unfold Double.ofInt?
  rw [Double.bind_finite _ infinite, narrow?_rounded, signed_natAbs]

theorem narrow?_ofDecimal (minus : Bool) (m : Nat) :
    narrow? (.ofDecimal minus m 0) =
      if Narrow (signed minus m) then some (signed minus m) else none := by
  rcases Double.ofDecimal_whole minus m with same | ⟨rfl, zero⟩ | ⟨large, infinite⟩
  · rw [same, narrow?_rounded]
  · rw [zero]
    exact narrow?_of_truncate (by rw [Double.truncate_finite]; simp [Magnitude.zero])
  · rw [infinite, if_neg (not_narrow_signed large minus)]
    rfl

/-- The hexadecimal digits of a number denote it whatever the case of their letters. -/
theorem hexadecimal_toDigits {mark : Char} {run : List Char} {zeros m : Nat}
    (mark_eq : mark = 'x' ∨ mark = 'X')
    (digits : run.map Char.toLower = List.replicate zeros '0' ++ Nat.toDigits 16 m) :
    Numeral.Hexadecimal ('0' :: mark :: run) m := by
  obtain ⟨all, value⟩ := Hex.toDigits_denotes m
  have nonempty : run ≠ [] := by
    rintro rfl
    simp at digits
  have spelt : ∀ c ∈ run, Hex.isDigit c := by
    intro c member
    have lower : c.toLower ∈ List.replicate zeros '0' ++ Nat.toDigits 16 m := by
      rw [← digits]
      exact List.mem_map_of_mem member
    rw [← Hex.isDigit_toLower]
    rcases List.mem_append.mp lower with zero | digit
    · rw [List.eq_of_mem_replicate zero]
      rfl
    · exact all _ digit
  have denoted : Hex.toNat run = m := by
    rw [← Hex.toNat_map_toLower, digits, Hex.toNat_zeros_append, value]
  exact denoted ▸ .intro mark_eq nonempty spelt

theorem int?_of_double? {found : Option Double} (read : double? held = .ok found) :
    int? held = .ok (found.bind narrow?) := by
  unfold int?
  rw [read]
  rfl

theorem int?_of_spellsInt (spells : SpellsInt held n) :
    int? held = .ok (if Narrow n then some n else none) := by
  cases spells with
  | int => rw [int?_of_double? (double?_int n), narrow?_ofInt?]
  | @decimal s sign minus m optional zeros between =>
    have denotes := (Numeral.run_toDigits zeros m).denotes optional
    have measures : Measures (.text s) _ := .text (.decimal between denotes)
    rw [int?_of_double? measures.double?, Option.bind_some, Digit.toNat_zeros_append,
      Digit.toNat_toDigits, narrow?_ofDecimal]
  | @hexadecimal s mark run m mark_eq zeros digits between =>
    have found := Numeral.hexadecimal?_iff.mpr ⟨_, between, hexadecimal_toDigits mark_eq digits⟩
    have read : double? (.text s) = .ok (Double.ofInt? m) := Numeral.read?_hexadecimal found
    rw [int?_of_double? read, narrow?_ofInt?]

/-- An integer field gives the integer that is spelt there if 32 bits hold it, and the default
otherwise. -/
theorem like_of_spellsInt (found : value? record key = some held) (spells : SpellsInt held n)
    (d : Int) : like record key (.int d) = .ok (.int (if Narrow n then n else d)) := by
  show Value.int <$> int record key d = _
  unfold int
  rw [found]
  dsimp only
  rw [int?_of_spellsInt spells]
  by_cases narrow : Narrow n
  · simp only [if_pos narrow]
    rfl
  · simp only [if_neg narrow]
    rfl

/-- The least integer that 32 bits do not hold, with a plus, a zero and blanks. -/
theorem like_of_spellsInt_outside :
    value? (.map [(.text "k", .text " +02147483648 ")]) "k" = some (.text " +02147483648 ") ∧
      SpellsInt (.text " +02147483648 ") 2147483648 ∧
      like (.map [(.text "k", .text " +02147483648 ")]) "k" (.int 7) = .ok (.int 7) := by
  have found : value? (.map [(.text "k", .text " +02147483648 ")]) "k" =
    some (.text " +02147483648 ") := rfl
  have blank : ∀ c ∈ [' '], aroundNumber c := List.forall_mem_singleton.mpr (by decide)
  have spells : SpellsInt (.text " +02147483648 ") 2147483648 :=
    .decimal 2147483648 .plus 1 ⟨[' '], [' '], by decide, blank, blank⟩
  exact ⟨found, spells, like_of_spellsInt found spells 7⟩

end ScriptDialog.Field
