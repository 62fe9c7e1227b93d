import ScriptDialog.Dialog.Saved
import ScriptDialog.Proofs.Text.Glyphs
import ScriptDialog.Proofs.Text.Pieces

/-! What the pieces of a text are, said of the text as a whole: the parts between its bars, and in
each part with a colon a name before the first one and a token after it. -/
namespace ScriptDialog.Dialog

/-- The parts between the bars of a text. -/
def Divides (parts : List (List Glyph)) (text : Text) : Prop :=
  parts ≠ [] ∧ (∀ part ∈ parts, .char '|' ∉ part) ∧ Pieces.join [.char '|'] parts = text.glyphs

/-- The names and tokens that parts stand for. A part without a colon stands for nothing, and a name
that cannot be decoded ends the reading. -/
inductive Gives : List (List Glyph) → Named → Prop
  | none : Gives [] ⟨[], none⟩
  | skip {part parts named} (plain : .char ':' ∉ part) (rest : Gives parts named) :
      Gives (part :: parts) named
  | piece {before after parts named} {name : String} (plain : .char ':' ∉ before)
      (written : before = name.toList.map .char) (rest : Gives parts named) :
      Gives ((before ++ .char ':' :: after) :: parts)
        ⟨(Token.decode name, .ofGlyphs after) :: named.pieces, named.fault⟩
  | stop {before after parts} {t : Torn} (plain : .char ':' ∉ before)
      (written : before = (Text.torn t).glyphs) :
      Gives ((before ++ .char ':' :: after) :: parts) ⟨[], some (.torn t)⟩

theorem divides_iff {parts : List (List Glyph)} {text : Text} :
    Divides parts text ↔ parts = Pieces.split (.char '|') text.glyphs := by
  constructor
  · rintro ⟨nonempty, free, joined⟩
    rw [← joined, Pieces.split_join nonempty free]
  · rintro rfl
    obtain ⟨joined, free⟩ := Pieces.join_split (.char '|') text.glyphs
    exact ⟨Pieces.split_ne_nil _ _, free, joined⟩

/-- The first parts' pieces, with their names decoded, come before those of the others. -/
theorem gives_decodeNames (parts : List (List Glyph)) :
    Gives parts (decodeNames (parts.filterMap fun part =>
      (Pieces.cut? (.char ':') part).map fun (name, token) =>
        (Text.ofGlyphs name, Text.ofGlyphs token))) := by
  induction parts with
  | nil => exact .none
  | cons part parts ih =>
    rw [List.filterMap_cons]
    by_cases colon : .char ':' ∈ part
    · obtain ⟨before, after, rfl, plain⟩ := List.eq_append_cons_of_mem colon
      rw [Pieces.cut?_append plain, Option.map_some]
      have written := Text.glyphs_ofGlyphs before
      dsimp only
      rw [decodeNames]
      cases name : Text.ofGlyphs before with
      | whole name' =>
        rw [name] at written
        exact .piece plain written.symm ih
      | torn t =>
        rw [name] at written
        exact .stop plain written.symm
    · rw [Pieces.cut?_free colon]
      exact .skip colon ih

theorem exists_gives (text : Text) : ∃ parts, Divides parts text ∧ Gives parts (pieces text) :=
  ⟨_, divides_iff.mpr rfl, gives_decodeNames _⟩

/-- The parts of a whole text before and after their first colons. -/
def wholePieces (s : String) : List (List Char × List Char) :=
  (Pieces.split '|' s.toList).filterMap (Pieces.cut? ':')

theorem rawPieces_whole (s : String) : rawPieces s =
    (wholePieces s).map fun p => (.whole (String.ofList p.1), .whole (String.ofList p.2)) := by
  have injective : Function.Injective Glyph.char := fun _ _ => Glyph.char.inj
  rw [rawPieces, wholePieces, Text.glyphs_whole, Pieces.split_map injective, List.filterMap_map,
    List.map_filterMap]
  congr 1
  funext part
  rw [Function.comp_apply, Pieces.cut?_map injective, Option.map_map]
  congr 1
  funext p
  exact Prod.ext (Text.ofGlyphs_map_char _) (Text.ofGlyphs_map_char _)

/-- Every name in a whole text can be decoded. -/
theorem pieces_whole (s : String) : pieces s = ⟨(wholePieces s).map fun p =>
    (Token.decode (String.ofList p.1), .whole (String.ofList p.2)), none⟩ := by
  rw [pieces, rawPieces_whole]
  induction wholePieces s with
  | nil => rfl
  | cons p rest ih => rw [List.map_cons, decodeNames, Control.decoded_whole, ih]; rfl

end ScriptDialog.Dialog
