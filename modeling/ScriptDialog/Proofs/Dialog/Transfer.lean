import ScriptDialog.Dialog.Build
import ScriptDialog.Proofs.Control.Declared
import ScriptDialog.Proofs.Dialog.Line
import ScriptDialog.Proofs.Dialog.Restore
import ScriptDialog.Proofs.Dialog.Values

/-! The line of one dialog read into another one of the same classes and names. A control may first
take tokens that controls of other classes wrote under its name; the last control of each name, the
only one that is read back, takes its own token last. -/
namespace ScriptDialog

/-- Controls of one class and one name, the first with a value within limits. -/
structure Control.Alike (c c' : Control) : Prop where
  name : c'.name = c.name
  isText : ∃ t, c.name = .text t
  like : c.kind.Like c'.kind
  held : c.kind.Holds Short Narrow

namespace Control.Alike

variable {c c' c'' : Control} {before found : List (String × Text)} {name t : String}

theorem addressed (alike : c.Alike c') (isText : c.name = .text name) (persists : c.persists) :
    (c'.isNamed name && c'.persists) = true := by
  rw [isNamed_text (alike.name.trans isText), persists_of_like alike.like, persists]
  simp

/-- A control that has settled after its own token can be read back; nothing later under its name
keeps it from showing what the other one shows. -/
theorem settled (alike : c.Alike c') (isText : c.name = .text name) (persists : c.persists)
    (token : c.token = .ok t) (settled : c'.Settled (before ++ (name, .whole t) :: found) c'') :
    ∃ shown shown', c.readBack = .ok shown ∧ c''.readBack = .ok shown' ∧
      ((∀ p ∈ found, p.1 ≠ name) → shown = shown') := by
  have writes := writes_of_token alike.held (fun _ => Narrow.writable) persists token
  obtain ⟨v, shown, received, read, read'⟩ := readBack_receive writes alike.held alike.like
  have last : c'.lastToken? (before ++ (name, .whole t) :: found) =
      some ((c'.lastToken? found).getD (.whole t)) := by
    rw [lastToken?_append, lastToken?_cons_of_addressed (alike.addressed isText persists),
      Option.some_or]
  have taken := settled.received last
  obtain ⟨_, shown', _, read''⟩ := taken_of_receive taken
  refine ⟨shown, shown', read, read'', fun only => ?_⟩
  have final : c'.lastToken? found = none := by
    apply lastToken?_unnamed
    intro p member
    rw [isNamed_text (alike.name.trans isText), beq_iff_eq]
    exact Ne.symm (only p member)
  -- with nothing later under the name, the own token is the last one
  rw [final, Option.getD_none, received] at taken
  cases taken
  exact Except.ok.inj (read'.symm.trans read'')

end Control.Alike

namespace Dialog

open Control

variable {controls controls' after : List Control} {named : List (String × String)}

/-- A name that no control has is not in the line. -/
theorem unnamed_of_new {rows : List (Text × Value)} {name : String}
    (lists : Lists controls named) (displayed : List.Forall₂ Shows controls rows)
    (new : .whole name ∉ rows.map Prod.fst) : ∀ p ∈ wholes named, p.1 ≠ name := by
  intro p member same
  obtain ⟨q, listed, rfl⟩ := List.mem_map.mp member
  subst same
  obtain ⟨c, place, _, isText, _⟩ := lists.control listed
  have listed := List.mem_map_of_mem (f := Control.name) place
  rw [names_of_shows displayed, isText] at listed
  obtain ⟨row, rowPlace, same⟩ := List.mem_map.mp listed
  exact new (List.mem_map.mpr ⟨row, rowPlace, Atom.text.inj (Value.atom.inj same)⟩)

/-- What a script reads back from the controls is the same as from those that wrote the line. -/
theorem shows_alike (before : List (String × Text)) (lists : Lists controls named)
    (alike : List.Forall₂ Alike controls controls')
    (settled : List.Forall₂ (Settled (before ++ wholes named)) controls' after) :
    ∃ rows rows', List.Forall₂ Shows controls rows ∧ List.Forall₂ Shows after rows' ∧
      rows.map Prod.fst = rows'.map Prod.fst ∧
      ∀ name, lastUnder rows name = lastUnder rows' name := by
  -- the pieces before are those of the controls in front, which the induction leaves behind
  induction alike generalizing before named after with
  | nil =>
    cases settled
    exact ⟨[], [], .nil, .nil, rfl, fun _ => rfl⟩
  | @cons c c' controls controls' here _ ih =>
    cases settled with
    | @cons _ c'' _ after settledHere settled =>
      obtain ⟨name, isText⟩ := here.isText
      have isText' : c''.name = .text name := by
        obtain ⟨⟨v, rfl⟩, _⟩ := settledHere
        exact here.name.trans isText
      by_cases persists : c.persists
      · obtain ⟨name', token, rest, rfl, isText'', written, later⟩ := lists.here persists
        cases isText.symm.trans isText''
        obtain ⟨shown, shown', read, read', final⟩ :=
          here.settled isText persists written settledHere
        -- for the controls that follow, this piece is one of those before
        rw [wholes, List.map_cons, List.append_cons] at settled
        obtain ⟨rows, rows', displayed, displayed', names, last⟩ := ih _ later settled
        refine ⟨(.whole name', shown) :: rows, (.whole name', shown') :: rows',
          .cons ⟨isText, read⟩ displayed,
          .cons ⟨isText', read'⟩ displayed', congrArg (Text.whole name' :: ·) names, ?_⟩
        exact lastUnder_cons_congr names last fun new =>
          final (unnamed_of_new later displayed new)
      · obtain ⟨read, read'⟩ := readBack_of_like here.like persists
        obtain ⟨rows, rows', displayed, displayed', names, last⟩ :=
            ih _ (lists.later persists) settled
        have unaddressed : c'.lastToken? (before ++ wholes named) = none := by
          rw [lastToken?, persists_of_like here.like, if_neg persists]
        cases settledHere.idle unaddressed
        refine ⟨(name, .null) :: rows, (name, .null) :: rows', .cons ⟨isText, read⟩ displayed,
          .cons ⟨isText', read'⟩ displayed', congrArg (name :: ·) names, ?_⟩
        exact lastUnder_cons_congr names last fun _ => rfl

/-- Controls of any classes take tokens that can be read. -/
theorem deliverAll_calm_of_readable (readable : ∀ p ∈ named, Token.Readable p.2)
    (formed : ∀ c ∈ controls, c.kind ≠ .unformed) :
    (deliverAll (wholes named) controls).fault = none := by
  rw [deliverAll_calm_iff]
  intro c member p place addressed
  obtain ⟨q, listed, rfl⟩ := List.mem_map.mp place
  exact receive_readable (readable q listed) (Bool.and_eq_true_iff.mp addressed).2 (formed c member)

theorem Lists.readable (lists : Lists controls named)
    (held : ∀ c ∈ controls, c.persists → c.kind.Holds Uncalled Narrow) :
    ∀ p ∈ named, Token.Readable p.2 := by
  intro p place
  obtain ⟨writer, written, persists, _, token⟩ := lists.control place
  have here := held writer written persists
  have writes := writes_of_token here (fun _ => Narrow.writable) persists token
  exact writes.readable here

/-- Controls of any classes take the tokens that other controls wrote. -/
theorem deliverAll_calm_of_lists (lists : Lists controls named)
    (held : ∀ c ∈ controls, c.persists → c.kind.Holds Short Narrow)
    (formed : ∀ c ∈ controls', c.kind ≠ .unformed) :
    (deliverAll (wholes named) controls').fault = none :=
  deliverAll_calm_of_readable
    (lists.readable fun c member persists => (held c member persists).imp fun _ => .inl) formed

/-- A dialog whose controls are as they were built, but for their values. -/
def Made (d : Dialog) : Prop :=
  ∃ records labels ids includeButtons built,
    build records labels ids includeButtons = .ok built ∧ Edited built.controls d.controls

/-- Values of their types, texts and integers within the limits. -/
def Within (d : Dialog) : Prop := ∀ c ∈ d.controls, c.kind.Holds Short Narrow

theorem Made.declared {d : Dialog} (made : d.Made) :
    ∀ c ∈ d.controls, ∃ c₀ v, Control.Declared c₀ ∧ c = c₀.withValue v := by
  obtain ⟨records, labels, ids, includeButtons, built, isBuilt, edited⟩ := made
  obtain ⟨controls, isControls, isBuilt⟩ := Success.of_bind isBuilt
  obtain ⟨buttons, _, isBuilt⟩ := Success.of_bind isBuilt
  cases isBuilt
  intro c member
  obtain ⟨c₀, place, v, same⟩ := edited.origin c member
  unfold buildControls at isControls
  split at isControls
  · cases isControls
  · obtain ⟨record, _, made⟩ := Success.of_mapM isControls c₀ place
    exact ⟨c₀, v, declared_of_ofRecord made, same⟩

theorem Made.isText {d : Dialog} (made : d.Made) :
    ∀ c ∈ d.controls, ∃ t, c.name = .text t := by
  intro c member
  obtain ⟨c₀, v, declared, rfl⟩ := made.declared c member
  exact declared.name

theorem Made.formed {d : Dialog} (made : d.Made) {c : Control} (member : c ∈ d.controls) :
    c.kind ≠ .unformed := by
  obtain ⟨c₀, v, declared, rfl⟩ := made.declared c member
  exact (declared.kind.like_empty v).symm.formed

theorem alike_of_same {src dst : Dialog} (srcMade : src.Made) (dstMade : dst.Made)
    (within : src.Within)
    (same : src.controls.map (fun c => (c.className, c.name)) =
      dst.controls.map fun c => (c.className, c.name)) :
    List.Forall₂ Alike src.controls dst.controls := by
  rw [← List.forall₂_eq_eq_eq, List.forall₂_map_left_iff, List.forall₂_map_right_iff] at same
  refine List.forall₂_iff_zip.mpr ⟨same.length_eq, fun {c c'} member => ?_⟩
  obtain ⟨className, name⟩ := Prod.mk.inj (List.forall₂_zip same member)
  obtain ⟨place, place'⟩ := List.of_mem_zip member
  obtain ⟨c₀, v, declared, rfl⟩ := srcMade.declared c place
  obtain ⟨c₀', v', declared', rfl⟩ := dstMade.declared c' place'
  rw [className_withValue, className_withValue] at className
  exact ⟨name.symm, declared.name, declared.kind.like declared'.kind className v v',
    within _ place⟩

/-- A dialog takes over what another one of the same classes and names reads back: no token is
refused, and the values under each name are the same, in the same order, also where controls of
several classes share a name. -/
theorem readBack_transferred {src dst : Dialog} (srcMade : src.Made) (dstMade : dst.Made)
    (whole : src.Whole) (within : src.Within)
    (same : src.controls.map (fun c => (c.className, c.name)) =
      dst.controls.map fun c => (c.className, c.name)) :
    ∃ text before after, src.serialize = .ok text ∧ (dst.deserialize text).2 = none ∧
      src.readBack = .ok before ∧ (dst.deserialize text).1.readBack = .ok after ∧
      after.values = before.values := by
  have alike := alike_of_same srcMade dstMade within same
  have savable : ∀ c ∈ src.controls, c.persists →
      (∃ name : String, c.name = .text name) ∧ c.kind.Holds Short Narrow := by
    intro c member persists
    obtain ⟨t, isText⟩ := srcMade.isText c member
    exact ⟨(whole c member persists).spelt isText, within c member⟩
  obtain ⟨named, lists, written⟩ := exists_lists (fun _ => Narrow.writable) savable
  have found := pieces_line written
  have calm := deliverAll_calm_of_lists lists
      (fun c member _ => within c member) fun c place => dstMade.formed place
  obtain ⟨rows, rows', displayed, displayed', names, last⟩ :=
    shows_alike [] lists alike (deliverAll_settled calm)
  obtain ⟨before, read, values⟩ := readBack_of_shows displayed
  have restored : List.Forall₂ Shows (dst.deserialize (line named)).1.controls rows' := by
    rw [deserialize, found]
    exact displayed'
  obtain ⟨after, read', values'⟩ := readBack_of_shows restored
  refine ⟨line named, before, after, serialize_of_lists lists, ?_, read, read', ?_⟩
  · exact deserialize_calm.mpr (by rw [found]; exact ⟨calm, rfl⟩)
  · rw [values, values', table_congr names last]

/-- An edit and an integer edit of one name, and a label. -/
def sharing (s : String) (n : Int) : Dialog where
  controls := [first "a" (.edit false (.text s)),
    first "a" (.intEdit (.int n) (.int Numeral.int32Min) (.int Numeral.int32Max)),
    first "b" (.label (.text ""))]
  buttons := Button.defaults
  usesButtons := false
  pressed := none

/-- The record of a class and a name. -/
def shortRecord (className name : String) : Value :=
  .map [(.text "class", .text className), (.text "name", .text name)]

theorem sharing_made (s : String) (n : Int) : (sharing s n).Made := by
  refine ⟨.list [shortRecord "edit" "a", shortRecord "intedit" "a", shortRecord "label" "b"], .null,
    .null, false, sharing "" 0, ?_, ?_⟩
  · rfl
  · exact .cons ⟨.text s, rfl⟩ (.cons ⟨.int n, rfl⟩ (.cons ⟨.null, rfl⟩ .nil))

/-- The integer edit is offered the other control's token too, and keeps its own. -/
theorem readBack_transferred_sharing :
    (sharing "1|:#" 7).Made ∧ (sharing "" 0).Made ∧ (sharing "1|:#" 7).Whole ∧
      (sharing "1|:#" 7).Within ∧
      ∃ text before after, (sharing "1|:#" 7).serialize = .ok text ∧
        ((sharing "" 0).deserialize text).2 = none ∧
        (sharing "1|:#" 7).readBack = .ok before ∧
        ((sharing "" 0).deserialize text).1.readBack = .ok after ∧
        after.values = before.values := by
  have made := sharing_made "1|:#" 7
  have made' := sharing_made "" 0
  have whole : (sharing "1|:#" 7).Whole := by
    intro c member _
    simp only [sharing, List.mem_cons, List.not_mem_nil, or_false] at member
    rcases member with rfl | rfl | rfl <;> constructor <;> rintro t ⟨⟩
  have within : (sharing "1|:#" 7).Within := by
    intro c member
    simp only [sharing, List.mem_cons, List.not_mem_nil, or_false] at member
    rcases member with rfl | rfl | rfl
    · exact .edit false (by decide)
    · exact .intEdit (by decide) _ _
    · exact .label _
  exact ⟨made, made', whole, within, readBack_transferred made made' whole within rfl⟩

end Dialog

end ScriptDialog
