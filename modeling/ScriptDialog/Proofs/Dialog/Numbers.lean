import ScriptDialog.Proofs.Dialog.Unconverted
import ScriptDialog.Proofs.Field.Settled
import ScriptDialog.Proofs.Number.Plain

/-! Integers where a script should have passed text. Up to fourteen digits an integer becomes its
own numeral, so that different ones stay apart and each can be read again; a larger one becomes a
number with an exponent, which is no integer's numeral. -/
namespace ScriptDialog

namespace Numeral

theorem sign_toString (n : Int) :
    sign (toString n).toList = (decide (n < 0), Nat.toDigits 10 n.natAbs) := by
  have nonempty := List.ne_nil_of_length_pos (Nat.length_toDigits_pos (b := 10) (n := n.natAbs))
  obtain ⟨c, rest, written⟩ := List.exists_cons_of_ne_nil nonempty
  have digit : c.isDigit := Digit.isDigit_toDigits c (written ▸ List.mem_cons_self)
  rw [toString_minus, written]
  exact sign_minus (n < 0) digit rest

/-- Different integers have different numerals. -/
theorem toString_injective {m n : Int} (same : toString m = toString n) : m = n := by
  have taken := congrArg (fun s => sign s.toList) same
  simp only [sign_toString, Prod.mk.injEq] at taken
  obtain ⟨signs, digits⟩ := taken
  have sizes := congrArg Digit.toNat digits
  rw [Digit.toNat_toDigits, Digit.toNat_toDigits] at sizes
  rw [← signed_natAbs m, ← signed_natAbs n, signs, sizes]

end Numeral

/-- The text that an integer becomes wherever text is asked for: in a field, as an item of a list,
and as the label of a button or the name of its meaning. -/
structure Becomes (n : Int) (s : String) : Prop where
  plain : (Number.int n).plainText = .ok s
  field : Field.text? (.int n) = some s
  part : ∀ part, Dialog.textOf part (.int n) = .ok s

variable {n : Int} {x : Double} {s t : String}

theorem becomes_of_ofInt? (nearest : Double.ofInt? n = some x) :
    Becomes n (String.ofList (Decimal.plainText x)) where
  plain := by
    have converted : Double.ofInt n = .ok x := by rw [Double.ofInt, nearest]; rfl
    show (fun x => String.ofList (Decimal.plainText x)) <$> Double.ofInt n = _
    rw [converted]
    rfl
  field := Field.text?_eq_some_iff.mpr (.int nearest)
  part part := by
    rw [Dialog.textOf_int, Double.ofInt, nearest]
    rfl

theorem Becomes.unique (becomes : Becomes n s) (other : Becomes n t) : s = t :=
  Except.ok.inj (becomes.plain.symm.trans other.plain)

theorem lt_of_few (few : n.natAbs < 10 ^ 14) : n.natAbs < 2 ^ 53 :=
  Nat.lt_trans few (by decide)

theorem becomes_toString (few : n.natAbs < 10 ^ 14) : Becomes n (toString n) := by
  obtain ⟨size, units, nearest⟩ := Double.ofInt?_exact (lt_of_few few)
  have becomes := becomes_of_ofInt? nearest
  have written : Decimal.plainText (.finite (n < 0) size) = (toString n).toList := by
    rw [Decimal.plainText_whole (n < 0) units few, Numeral.toString_minus]
  rwa [written, String.ofList_toList] at becomes

/-- The numeral of an integer of 53 bits is read as a double that is equal to it. -/
theorem read?_toString (exact : n.natAbs < 2 ^ 53) :
    ∃ x, Numeral.read? (toString n).toList = .ok (some x) ∧ (Number.float x).eq (.int n) := by
  obtain ⟨size, units, read⟩ := Double.ofDecimal_exact (n < 0) exact
  have denotes := (Numeral.run_toDigits 0 n.natAbs).denotes (Numeral.signed_minus (n < 0))
  rw [Digit.toNat_zeros_append, Digit.toNat_toDigits, read] at denotes
  have between : Blank.Between Blank.aroundNumber
      (Numeral.minus (n < 0) ++ (List.replicate 0 '0' ++ Nat.toDigits 10 n.natAbs))
      (toString n).toList := ⟨[], [], by rw [Numeral.toString_minus]; simp, by simp, by simp⟩
  refine ⟨_, Numeral.read?_some_iff.mpr (.decimal between denotes), ?_⟩
  have equal := Double.eq_signed (n < 0) units
  rwa [signed_natAbs] at equal

theorem becomes_scientific (large : 10 ^ 14 ≤ n.natAbs) (fits : n.natAbs < Double.wideFrom) :
    ∃ s, Becomes n s ∧ Decimal.Scientific (n < 0) s.toList := by
  obtain ⟨x, nearest⟩ := Option.ne_none_iff_exists'.mp
    (mt (Double.ofInt?_eq_none_iff n).mp (Nat.not_le.mpr fits))
  obtain ⟨size, rfl, wide⟩ := Double.le_units_of_ofInt? large nearest
  refine ⟨_, becomes_of_ofInt? nearest, ?_⟩
  rw [String.toList_ofList]
  exact Decimal.plainText_large (n < 0) wide

/-- An integer of fourteen digits becomes its numeral, as no other one does, and is what the numeral
is read as. A larger one, if it has a double, becomes a text with an exponent and never its
numeral. -/
theorem becomes_numeral_or_scientific (n : Int) :
    (n.natAbs < 10 ^ 14 → Becomes n (toString n) ∧
      (∀ m : Int, m.natAbs < 10 ^ 14 → Becomes m (toString n) → m = n) ∧
      ∃ x, Numeral.read? (toString n).toList = .ok (some x) ∧ (Number.float x).eq (.int n)) ∧
    (10 ^ 14 ≤ n.natAbs → n.natAbs < Double.wideFrom →
      ∃ s, Becomes n s ∧ Decimal.Scientific (n < 0) s.toList ∧ s ≠ toString n) := by
  constructor
  · intro few
    refine ⟨becomes_toString few, ?_, read?_toString (lt_of_few few)⟩
    intro m few' becomes
    exact Numeral.toString_injective ((becomes_toString few').unique becomes)
  · intro large fits
    obtain ⟨s, becomes, scientific⟩ := becomes_scientific large fits
    refine ⟨s, becomes, scientific, ?_⟩
    rintro rfl
    exact scientific.ne_toString n rfl

/-- The last integers that are written out, and the first one that is not. -/
theorem becomes_numeral_or_scientific_limits :
    (-99999999999999 : Int).natAbs < 10 ^ 14 ∧
      Becomes (-99999999999999) (toString (-99999999999999 : Int)) ∧
      10 ^ 14 ≤ (100000000000000 : Int).natAbs ∧
      (100000000000000 : Int).natAbs < Double.wideFrom ∧
      ∃ s, Becomes 100000000000000 s ∧ s ≠ toString (100000000000000 : Int) := by
  have few : (-99999999999999 : Int).natAbs < 10 ^ 14 := by decide
  have large : 10 ^ 14 ≤ (100000000000000 : Int).natAbs := by decide
  have fits : (100000000000000 : Int).natAbs < Double.wideFrom := by decide +kernel
  obtain ⟨becomes, _⟩ := (becomes_numeral_or_scientific (-99999999999999)).1 few
  obtain ⟨s, scientific, _, other⟩ := (becomes_numeral_or_scientific 100000000000000).2 large fits
  exact ⟨few, becomes, large, fits, s, scientific, other⟩

end ScriptDialog
