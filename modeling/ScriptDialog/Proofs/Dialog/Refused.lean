import ScriptDialog.Proofs.Dialog.Transfer
import ScriptDialog.Proofs.Control.Sound
import ScriptDialog.Proofs.Number.Refused

/-! The texts that a dialog cannot restore. Controls of two classes refuse tokens that they have
taken for a value; such a token ends the restoring, and what was restored before it stays. -/
namespace ScriptDialog

/-- Tokens that are taken for a value of the kind but cannot be converted to one. A torn token is no
text, and a number is read from the start of it. -/
def Kind.Refuses (token : Text) : Kind → Prop
  | .edit .. | .dropdown .. => ∃ t, token = .torn t
  | .floatEdit .. => Numeral.Refused token.start
  | .color .. => ∀ s : String, token = s → Color.Overlong (Token.decode s).toList
  | _ => False

theorem Control.receive_ok_iff {c : Control} {token : Text} (persists : c.persists)
    (formed : c.kind ≠ .unformed) :
    (∃ c', c.receive token = .ok c') ↔ ¬ c.kind.Refuses token := by
  obtain ⟨name, hint, x, y, width, height, kind⟩ := c
  cases kind with
  | bare => cases persists
  | label => cases persists
  | unformed => exact absurd rfl formed
  | intEdit | checkbox => exact iff_of_true ⟨_, rfl⟩ id
  | edit | dropdown =>
    cases token with
    | whole s => exact iff_of_true ⟨_, rfl⟩ (by rintro ⟨t, ⟨⟩⟩)
    | torn t => exact iff_of_false (by rintro ⟨_, ⟨⟩⟩) (not_not_intro ⟨t, rfl⟩)
  | floatEdit value min max step =>
    rw [Kind.Refuses, ← Numeral.readStart_ok_iff]
    simp only [receive, kindFrom]
    cases Numeral.readStart token.start with
    | error fault => exact iff_of_false (by rintro ⟨_, ⟨⟩⟩) (by simp)
    | ok x => exact iff_of_true ⟨_, rfl⟩ ⟨x, rfl⟩
  | color declared value alpha =>
    cases token with
    | torn t => exact iff_of_false (by rintro ⟨_, ⟨⟩⟩) (not_not_intro (by rintro s ⟨⟩))
    | whole s =>
      have overlong : Kind.Refuses (.whole s) (.color declared value alpha) ↔
          Color.Overlong (Token.decode s).toList :=
        ⟨fun refuses => refuses s rfl, fun overlong s' same => Text.whole.inj same ▸ overlong⟩
      rw [overlong, ← Color.refused_whole, ← Color.ofText_ok_iff]
      simp only [receive, kindFrom, decoded_whole]
      cases Color.ofText (Token.decode s) with
      | error fault => exact iff_of_false (by rintro ⟨_, ⟨⟩⟩) (by simp)
      | ok value => exact iff_of_true ⟨_, rfl⟩ ⟨value, rfl⟩

namespace Dialog

open Control

/-- For every built dialog and every text: restoring fails exactly where a piece holds, under the
name of a control, a token that the control refuses, or where a name cannot be decoded; every name
of a whole text can be. -/
theorem deserialize_calm_iff {d : Dialog} (made : d.Made) (text : Text) :
    ((d.deserialize text).2 = none ↔ (pieces text).fault = none ∧
      ∀ c ∈ d.controls, ∀ p ∈ (pieces text).pieces, c.isNamed p.1 → ¬ c.kind.Refuses p.2) ∧
    ∀ s : String, text = s → (pieces text).fault = none := by
  refine ⟨?_, by rintro s rfl; rw [pieces_whole]⟩
  rw [deserialize_calm, and_comm, deliverAll_calm_iff]
  refine and_congr_right fun _ => ?_
  constructor
  · intro calm c member p place named
    by_cases persists : c.persists
    · have taken := calm c member p place (Bool.and_eq_true_iff.mpr ⟨named, persists⟩)
      exact (receive_ok_iff persists (made.formed member)).mp taken
    · obtain ⟨name, hint, x, y, width, height, kind⟩ := c
      cases kind with
      | bare => exact id
      | label => exact id
      | _ => exact absurd rfl persists
  · intro calm c member p place addressed
    obtain ⟨named, persists⟩ := Bool.and_eq_true_iff.mp addressed
    exact (receive_ok_iff persists (made.formed member)).mpr (calm c member p place named)

/-- A float edit with the widest bounds. -/
def wide : Control :=
  first "f" (.floatEdit (.float .zero) (.float (.neg .largest)) (.float .largest) (.float .zero))

/-- An edit and a float edit. -/
def spread (s : String) : Dialog where
  controls := [first "a" (.edit false (.text s)), wide]
  buttons := Button.defaults
  usesButtons := false
  pressed := none

/-- The bounds are huge, so the record is not computed as a whole. -/
theorem ofRecord_wide : ofRecord (shortRecord "floatedit" "f") = .ok wide := by
  have reader : readers.lookup (recordClass (shortRecord "floatedit" "f")) = some floatEditKind :=
    rfl
  have shared : common (shortRecord "floatedit" "f") .bare = .ok (first "f" .bare) := rfl
  have read : floatEditKind (shortRecord "floatedit" "f") = .ok wide.kind := rfl
  have settled : wide.kind.settle = .ok wide.kind := by
    rw [wide, first, Kind.settle_floatEdit, if_pos Double.largest_room]
  have made : readAs floatEditKind (shortRecord "floatedit" "f") = .ok wide := by
    rw [readAs, shared, read]
    exact congrArg (fun kind? => kind?.bind fun kind => .ok (first "f" kind)) settled
  rw [ofRecord]
  simp only [reader, made]
  rfl

theorem build_spread : build (.list [shortRecord "edit" "a", shortRecord "floatedit" "f"]) .null
    .null false = .ok (spread "") := by
  have made : buildControls (.list [shortRecord "edit" "a", shortRecord "floatedit" "f"]) =
      .ok (spread "").controls := by
    have edit : ofRecord (shortRecord "edit" "a") = .ok (first "a" (.edit false (.text ""))) := rfl
    have records : buildControls (.list [shortRecord "edit" "a", shortRecord "floatedit" "f"]) =
      [shortRecord "edit" "a", shortRecord "floatedit" "f"].mapM ofRecord := rfl
    rw [records, List.mapM_cons, List.mapM_cons, List.mapM_nil, edit, ofRecord_wide]
    rfl
  rw [build, made]
  rfl

theorem readStart_dotless :
    Numeral.readStart "ınf".toList = .error (.unreadable "'ınf'") := by
  decide +kernel

theorem pieces_dotless :
    pieces "a:new|f:ınf" = ⟨[("a", .whole "new"), ("f", .whole "ınf")], none⟩ := by
  have parts : wholePieces "a:new|f:ınf" =
      ["a:new", "f:ınf"].filterMap (Pieces.cut? ':' ·.toList) := by decide +kernel
  have edit : Token.decode "a" = "a" := by decide +kernel
  have float : Token.decode "f" = "f" := by decide +kernel
  calc pieces "a:new|f:ınf"
    _ = ⟨[(Token.decode "a", .whole "new"), (Token.decode "f", .whole "ınf")], none⟩ := by
      rw [pieces_whole, parts]
      rfl
    _ = ⟨[("a", .whole "new"), ("f", .whole "ınf")], none⟩ := by rw [edit, float]

/-- The edit is restored, the float edit is not. -/
theorem deserialize_halfway :
    build (.list [shortRecord "edit" "a", shortRecord "floatedit" "f"]) .null .null false =
        .ok (spread "") ∧
      (spread "").deserialize "a:new|f:ınf" =
        (spread "new", some (.unfit (.number (.unreadable "'ınf'")))) := by
  have front : deliver "a" "new" (spread "").controls = ⟨(spread "new").controls, none⟩ := by
    have named (s : String) : (first "a" (.edit false (.text s))).isNamed "a" := rfl
    have other : wide.isNamed "a" = false := rfl
    have persists (s : String) : (first "a" (.edit false (.text s))).persists := rfl
    have taken : (first "a" (.edit false (.text ""))).receive "new" =
        .ok (first "a" (.edit false (.text "new"))) := by
      have decoded : Token.decode "new" = "new" := by decide +kernel
      simp [first, receive, kindFrom, decoded]
    simp [spread, deliver, named, persists, other, taken]
  have back : deliver "f" "ınf" (spread "new").controls =
      ⟨(spread "new").controls, some (.unfit (.number (.unreadable "'ınf'")))⟩ := by
    have other : (first "a" (.edit false (.text "new"))).isNamed "f" = false := rfl
    have named : (wide.isNamed "f" && wide.persists) = true := rfl
    have refused : wide.receive "ınf" = .error (.unfit (.number (.unreadable "'ınf'"))) := by
      have start : Text.start "ınf" = "ınf".toList := rfl
      simp only [wide, first, receive, kindFrom, start, readStart_dotless]
      rfl
    simp [spread, deliver, other, named, refused]
  refine ⟨build_spread, ?_⟩
  rw [deserialize, pieces_dotless, deliverAll_cons (by rw [front]), front, deliverAll, back]
  rfl

theorem deserialize_calm_iff_spread :
    (spread "").Made ∧ ((spread "").deserialize "a:new|f:ınf").2 ≠ none := by
  have made : (spread "").Made :=
    ⟨_, _, _, _, _, build_spread, List.forall₂_same.mpr fun c _ => c.withValue_self⟩
  refine ⟨made, fun calm => ?_⟩
  obtain ⟨_, kept⟩ := (deserialize_calm_iff made "a:new|f:ınf").1.mp calm
  have free := kept _ (List.mem_cons_of_mem _ List.mem_cons_self) ("f", .whole "ınf")
    (by simp [pieces_dotless]) rfl
  obtain ⟨x, read⟩ := (Numeral.readStart_ok_iff _).mpr free
  cases readStart_dotless.symm.trans read

end Dialog

end ScriptDialog
