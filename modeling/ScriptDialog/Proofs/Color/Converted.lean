import ScriptDialog.Proofs.Color.Spelling
import ScriptDialog.Proofs.Number.Clamped

/-! What comes of a text that is read as a colour: a colour of bytes, whatever the text is, unless
it is a call with a number in more digits than are converted. The first such number is then the
fault, although any number that is too great would do as the greatest byte. -/
namespace ScriptDialog.Color

open Blank (isBlank)

variable {text run : List Char} {t : String} {c : Color} {r g b r' g' b' : List Char}

/-- The first number of a call that is not converted. -/
def Unconverted (text run : List Char) : Prop := ∃ r g b, Call text r g b ∧ FirstLong run [r, g, b]

theorem Call.unique (call : Call text r g b) (other : Call text r' g' b') :
    r = r' ∧ g = g' ∧ b = b' := by
  have same := (callRuns?_eq_some_iff.mpr call).symm.trans (callRuns?_eq_some_iff.mpr other)
  simpa using same

theorem Call.all_converted (call : Call text r g b)
    (brief : ∀ run ∈ [r, g, b], run.length ≤ digitLimit) : ∀ run, ¬ Unconverted text run := by
  rintro run ⟨r', g', b', other, before, long, after, whole, _, _, tooLong⟩
  obtain ⟨rfl, rfl, rfl⟩ := call.unique other
  have short := brief long (by rw [whole]; simp)
  omega

theorem ofChars_of_call (call : Call (Blank.trim text) r g b) : ofChars text = converted r g b :=
  ofChars_of_callRuns? (callRuns?_eq_some_iff.mpr call)

theorem ofChars_of_noCall (none : ∀ r g b, ¬ Call (Blank.trim text) r g b) :
    ofChars text = .ok ((spelled? (Blank.trim text)).getD black) := by
  have runs : callRuns? (Blank.trim text) = .none := by
    rw [Option.eq_none_iff_forall_ne_some]
    rintro ⟨r, g, b⟩ found
    exact none r g b (callRuns?_eq_some_iff.mp found)
  unfold ofChars spelled?
  dsimp only
  rw [runs]
  cases (web? (Blank.trim text)).or (subtitle? (Blank.trim text)) <;> rfl

/-- Either the text is read, as what it spells or as black, or a number in it is not converted. -/
theorem ofText_cases (stripped : Blank.Stripped text t.toList) :
    (∃ c, ofText t = .ok c ∧ (∀ run, ¬ Unconverted text run) ∧
        (Spells text c ∨ c = black ∧ ∀ c', ¬ Spells text c')) ∨
      ∃ run, Unconverted text run ∧ ofText t = .error (.tooManyDigits run.length) := by
  have trimmed := Blank.trim_eq_iff.mpr stripped
  subst trimmed
  by_cases called : ∃ r g b, Call (Blank.trim t.toList) r g b
  · obtain ⟨r, g, b, call⟩ := called
    rw [ofText, ofChars_of_call call]
    rcases converted_cases r g b with ⟨brief, read⟩ | ⟨run, read, first⟩
    · exact .inl ⟨_, read, call.all_converted brief, .inl (.call call)⟩
    · exact .inr ⟨run, ⟨r, g, b, call, first⟩, read⟩
  · have noCall : ∀ r g b, ¬ Call (Blank.trim t.toList) r g b := by simpa using called
    refine .inl ⟨_, ofChars_of_noCall noCall, ?_, ?_⟩
    · rintro run ⟨r, g, b, call, _⟩
      exact noCall r g b call
    · cases found : spelled? (Blank.trim t.toList) with
      | some c => exact .inl (spelled?_eq_some_iff.mp found)
      | none =>
        refine .inr ⟨rfl, fun c' spells => ?_⟩
        cases found.symm.trans (spelled?_eq_some_iff.mpr spells)

/-- A text gives a colour of bytes just when all numbers of a call are converted. The colour is the
one that is spelt, or black, and the fault tells the digits of the first number that is not
converted. A torn text is black. -/
theorem ofText_settled_iff (t : String) (stripped : Blank.Stripped text t.toList) :
    ((∃ c, ofText t = .ok c ∧ c.InRange) ↔ ∀ run, ¬ Unconverted text run) ∧
      (∀ c, ofText t = .ok c →
        c.InRange ∧ (Spells text c ∨ c = black ∧ ∀ c', ¬ Spells text c')) ∧
      (∀ fault, ofText t = .error fault →
        ∃ run, Unconverted text run ∧ fault = .tooManyDigits run.length) ∧
      ∀ torn, ofText (.torn torn) = .ok black := by
  rcases ofText_cases stripped with ⟨c, read, all, spelt⟩ | ⟨run, long, refused⟩
  · refine ⟨iff_of_true ⟨c, read, ofText_inRange read⟩ all, fun c' read' => ?_,
      fun fault refused => ?_, fun _ => rfl⟩
    · cases read.symm.trans read'
      exact ⟨ofText_inRange read, spelt⟩
    · cases read.symm.trans refused
  · refine ⟨iff_of_false ?_ fun all => all run long, fun c read => ?_, fun fault refused' => ?_,
      fun _ => rfl⟩
    · rintro ⟨c, read, _⟩
      cases refused.symm.trans read
    · cases refused.symm.trans read
    · cases refused.symm.trans refused'
      exact ⟨run, long, rfl⟩

/-- A call whose first number has as many digits. -/
def longCall (count : Nat) : List Char :=
  'r' :: 'g' :: 'b' :: '(' ::
    (List.replicate count '9' ++ ',' :: (['0'] ++ ',' :: (['0'] ++ [')'])))

theorem call_longCall {count : Nat} (positive : 0 < count) :
    Call (longCall count) (List.replicate count '9') ['0'] ['0'] := by
  have digits : Digit.isDigit '9' ∧ Digit.isDigit '0' := by decide
  have alone (run : List Char) (all : Numeral.Run run) : Padded run run :=
    ⟨all, [], [], by simp, by simp, by simp⟩
  have zero : Padded ['0'] ['0'] := alone _ ⟨by simp, by simp [digits]⟩
  refine .intro ⟨.inl rfl, .inl rfl, .inl rfl⟩ (alone _ ⟨?_, ?_⟩) zero zero
  · simpa using Nat.ne_of_gt positive
  · exact fun c member => List.eq_of_mem_replicate member ▸ digits.1

theorem visible_longCall (count : Nat) : ∀ d ∈ longCall count, isBlank d = false := by
  intro d member
  simp only [longCall, List.mem_cons, List.mem_append, List.mem_replicate, List.not_mem_nil,
    or_false] at member
  rcases member with rfl | rfl | rfl | rfl | ⟨_, rfl⟩ | rfl | rfl | rfl | rfl | rfl <;> decide

theorem stripped_longCall (count : Nat) :
    Blank.Stripped (longCall count) (String.ofList (longCall count)).toList := by
  rw [String.toList_ofList]
  exact stripped_of_visible (visible_longCall count)

theorem saturated_nines {count : Nat} (many : 4 ≤ count) :
    min 255 (Digit.toNat (List.replicate count '9') : Int) = 255 := by
  obtain ⟨k, rfl⟩ := Nat.exists_eq_add_of_le' many
  have nine : Digit.isDigit '9' ∧ Digit.value? '9' ≠ some 0 := by decide
  have great : 255 ≤ Digit.toNat (List.replicate (k + 4) '9') := calc
    255 ≤ 10 ^ 3 := by decide
    _ ≤ 10 ^ (List.replicate (k + 3) '9').length := Nat.pow_le_pow_right (by decide) (by simp)
    _ ≤ Digit.toNat (List.replicate (k + 4) '9') := Digit.pow_le_toNat nine.1 nine.2 _
  exact min_eq_left (Int.ofNat_le.mpr great)

/-- A number in as many digits as are converted is the greatest byte. -/
theorem ofText_settled_iff_longest :
    Blank.Stripped (longCall digitLimit) (String.ofList (longCall digitLimit)).toList ∧
      ofText (String.ofList (longCall digitLimit)) = .ok ⟨255, 0, 0, 0⟩ := by
  have stripped := stripped_longCall digitLimit
  have call : Call (longCall digitLimit) _ _ _ := call_longCall (by decide)
  obtain ⟨all, spelt, _⟩ := ofText_settled_iff (String.ofList (longCall digitLimit)) stripped
  have brief : ∀ run ∈ [List.replicate digitLimit '9', ['0'], ['0']], run.length ≤ digitLimit :=
    List.forall_mem_cons.mpr ⟨List.length_replicate.le, by decide⟩
  obtain ⟨c, read, _⟩ := all.mpr (call.all_converted brief)
  have same : c = ⟨255, 0, 0, 0⟩ := by
    rcases (spelt c read).2 with spells | ⟨_, none⟩
    · have zero : Digit.toNat ['0'] = 0 := by decide
      rw [spells.unique (.call call), saturated_nines (by decide), zero]
      rfl
    · exact absurd (.call call) (none _)
  exact ⟨stripped, same ▸ read⟩

/-- With one digit more the number is too long, though no greater byte is meant. -/
theorem ofText_unconverted : ofText (String.ofList (longCall 4301)) = .error (.tooManyDigits 4301) ∧
    ¬ ∃ c, ofText (String.ofList (longCall 4301)) = .ok c ∧ c.InRange := by
  have refused {count : Nat} (long : digitLimit < count) :
      ofText (String.ofList (longCall count)) = .error (.tooManyDigits count) := by
    have read : ofText (String.ofList (longCall count)) = ofChars (longCall count) := by
      rw [ofText, String.toList_ofList]
    have trimmed := Blank.trim_visible (visible_longCall count)
    have call : Call (Blank.trim (longCall count)) _ _ _ :=
      trimmed.symm ▸ call_longCall (Nat.zero_lt_of_lt long)
    have tooLong : digitLimit < (List.replicate count '9').length := by
      rwa [List.length_replicate]
    rw [read, ofChars_of_call call, converted, channel_of_overlong tooLong, List.length_replicate]
    rfl
  have fault : ofText (String.ofList (longCall 4301)) = .error (.tooManyDigits 4301) :=
    refused (by decide)
  refine ⟨fault, ?_⟩
  rintro ⟨c, read, _⟩
  cases fault.symm.trans read

end ScriptDialog.Color
