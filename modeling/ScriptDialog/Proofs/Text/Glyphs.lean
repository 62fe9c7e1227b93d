import ScriptDialog.Text

/-! A text is the list of its glyphs, and texts are ordered by the numbers of their glyphs. -/
namespace ScriptDialog

/-- A surrogate and nothing beside it. -/
def Torn.alone : Torn := ⟨[], 0, []⟩

namespace Text

/-- The parts into which a list is torn make it up. -/
theorem tear_parts (list : List Glyph) : (tear list).1.map .char ++
    (tear list).2.elim [] (fun torn => .lone torn.1 :: torn.2) = list := by
  induction list with
  | nil => rfl
  | cons g list ih =>
    cases g with
    | lone s => rfl
    | char c => exact congrArg (Glyph.char c :: ·) ih

@[simp] theorem glyphs_ofGlyphs (list : List Glyph) : (ofGlyphs list).glyphs = list := by
  have parts := tear_parts list
  rw [ofGlyphs]
  rcases split : tear list with ⟨chars, _ | ⟨first, after⟩⟩ <;> rw [split] at parts
  · simpa [glyphs] using parts
  · exact parts

theorem glyphs_injective : Function.Injective glyphs := by
  intro a b same
  rw [← ofGlyphs_glyphs a, same, ofGlyphs_glyphs]

@[simp] theorem glyphs_whole (s : String) : glyphs s = s.toList.map .char := rfl

@[simp] theorem glyphs_append (a b : Text) : (a ++ b).glyphs = a.glyphs ++ b.glyphs := by
  cases a with
  | torn t => exact glyphs_ofGlyphs _
  | whole a =>
    cases b with
    | torn t => exact glyphs_ofGlyphs _
    | whole b => simp

/-- The text has no surrogate on its own. -/
def Whole (t : Text) : Prop := ∃ s : String, t = s

theorem not_whole_iff {t : Text} : ¬ t.Whole ↔ ∃ u, t = .torn u := by
  cases t with
  | whole s => exact iff_of_false (not_not_intro ⟨s, rfl⟩) nofun
  | torn u => exact iff_of_true nofun ⟨u, rfl⟩

theorem whole_iff {t : Text} : t.Whole ↔ ∀ s, .lone s ∉ t.glyphs := by
  cases t with
  | whole s => exact iff_of_true ⟨s, rfl⟩ (by simp)
  | torn u =>
    have first : .lone u.first ∈ (torn u).glyphs := List.mem_append_right _ List.mem_cons_self
    exact iff_of_false nofun fun none => none u.first first

theorem whole_append_iff {a b : Text} : (a ++ b).Whole ↔ a.Whole ∧ b.Whole := by
  simp only [whole_iff, glyphs_append, List.mem_append, not_or]
  exact forall_and

theorem whole_ofGlyphs {list : List Glyph} : (ofGlyphs list).Whole ↔ ∀ s, .lone s ∉ list := by
  rw [whole_iff, glyphs_ofGlyphs]

end Text

theorem Glyph.toNat_injective : Function.Injective Glyph.toNat := by
  intro a b same
  cases a with
  | char a =>
    cases b with
    | char b => exact congrArg _ (Char.toNat_inj.mp same)
    | lone b =>
      have valid : a.toNat < 0xD800 ∨ 0xDFFF < a.toNat ∧ a.toNat < 0x110000 := a.valid
      have bound := b.isLt
      simp only [toNat, Surrogate.toNat] at same
      omega
  | lone a =>
    cases b with
    | char b =>
      have valid : b.toNat < 0xD800 ∨ 0xDFFF < b.toNat ∧ b.toNat < 0x110000 := b.valid
      have bound := a.isLt
      simp only [toNat, Surrogate.toNat] at same
      omega
    | lone b =>
      simp only [toNat, Surrogate.toNat] at same
      exact congrArg _ (Fin.ext (by omega))

namespace Text

theorem codes_injective : Function.Injective codes :=
  fun _ _ same =>
    glyphs_injective ((List.map_inj_right fun _ _ equal => Glyph.toNat_injective equal).mp same)

theorem le_trans {a b c : Text} (first : a ≤ b) (second : b ≤ c) : a ≤ c :=
  List.le_trans (α := Nat) first second

theorem le_total (a b : Text) : a ≤ b ∨ b ≤ a := List.le_total a.codes b.codes

theorem le_antisymm {a b : Text} (below : a ≤ b) (above : b ≤ a) : a = b :=
  codes_injective (List.le_antisymm (α := Nat) below above)

theorem not_lt {a b : Text} : ¬ a < b ↔ b ≤ a := List.not_lt (α := Nat)

end Text

end ScriptDialog
