import Mathlib.Data.List.Nodup
import ScriptDialog.Control.Assigned
import ScriptDialog.Proofs.Dialog.Reachable

/-! A session with a dialog: its buttons are pushed with any value, texts are restored and values
are edited, in any order. What is read back has every name once, with the value of the last control
of the name; and the answer is settled by the last push alone. -/
namespace ScriptDialog

namespace Control

/-- A value that a control can show: of a colour it has to be a colour, of any other any value. -/
def Accepts (c : Control) (v : Value) : Prop :=
  match c.kind with
  | .color .. => ∃ color, v = .color color
  | _ => True

/-- The same name, and nothing lost of what can be read back. -/
def Endures (c c' : Control) : Prop :=
  c'.name = c.name ∧ ((∃ v, c.readBack = .ok v) → ∃ v, c'.readBack = .ok v)

variable {c c' : Control} {v : Value}

theorem Endures.refl (c : Control) : c.Endures c := ⟨rfl, id⟩

theorem Endures.trans {c'' : Control} (first : c.Endures c') (later : c'.Endures c'') :
    c.Endures c'' :=
  ⟨later.1.trans first.1, fun read => later.2 (first.2 read)⟩

theorem Endures.of_receive {t : Text} (received : c.receive t = .ok c') : c.Endures c' := by
  obtain ⟨_, v, rfl, read⟩ := taken_of_receive received
  exact ⟨rfl, fun _ => ⟨v, read⟩⟩

theorem Endures.of_assign (accepts : c.Accepts v) (assigned : c.assign "value" v = .ok c') :
    c.Endures c' := by
  obtain ⟨name, hint, x, y, width, height, kind⟩ := c
  cases kind with
  | bare | unformed | label => cases assigned
  | edit | intEdit | floatEdit | dropdown | checkbox =>
    cases assigned
    exact ⟨rfl, fun _ => ⟨_, rfl⟩⟩
  | color =>
    obtain ⟨color, rfl⟩ := accepts
    cases assigned
    exact ⟨rfl, fun _ => ⟨_, rfl⟩⟩

end Control

namespace Dialog

/-- What is done to a dialog. -/
inductive Action where
  | push (v : Value)
  | restore (text : Text)
  | edit (i : Nat) (v : Value)

/-- The value of the last push, if there is one. -/
def lastPush (actions : List Action) : Option Value :=
  (actions.filterMap fun
    | .push v => some v
    | _ => none).getLast?

/-- The dialog that actions lead to. A text that is refused half-way has been restored up to there,
and only the value of a control that has one can be edited. -/
inductive Session (built : Dialog) : List Action → Dialog → Prop where
  | start : Session built [] built
  | push {actions : List Action} {d : Dialog} (session : Session built actions d) (v : Value) :
      Session built (actions ++ [.push v]) (d.push v)
  | restore {actions : List Action} {d : Dialog} (session : Session built actions d)
      (text : Text) : Session built (actions ++ [.restore text]) (d.deserialize text).1
  | edit {actions : List Action} {d : Dialog} {i : Nat} {v : Value} {c c' : Control}
      (session : Session built actions d) (place : d.controls[i]? = some c) (accepts : c.Accepts v)
      (assigned : c.assign "value" v = .ok c') :
      Session built (actions ++ [.edit i v]) { d with controls := d.controls.set i c' }

/-- What is read back of controls: every name once, in the order of first use, and under it what the
last control of the name reads back, which is null for a label. -/
structure Gathers (controls : List Control) (values : List (Value × Value)) : Prop where
  keys : ∃ names : List Text, controls.map Control.name = names.map .text ∧
    values.map Prod.fst = names.eraseDups.map .text
  unique : (values.map Prod.fst).Nodup
  last : ∀ name v, (name, v) ∈ values → ∃ before c after, controls = before ++ c :: after ∧
    c.name = name ∧ (∀ other ∈ after, other.name ≠ name) ∧ c.readBack = .ok v ∧
    ∀ text, c.kind = .label text → v = .null

/-- The label that a push answers with: that of the button with the number, unless it cancels. -/
def Answers (buttons : List Button) (pushed : Option Value) (label : Text) : Prop :=
  ∃ i : Nat, pushed = some (.int i) ∧ ∃ b, buttons[i]? = some b ∧ b.id ≠ some .cancel ∧
    b.label = label

variable {built d : Dialog} {actions : List Action} {controls : List Control}
  {rows : List (Text × Value)}

@[simp] theorem lastPush_concat_push (actions : List Action) (v : Value) :
    lastPush (actions ++ [.push v]) = some v := by
  simp [lastPush]

@[simp] theorem lastPush_concat_restore (actions : List Action) (text : Text) :
    lastPush (actions ++ [.restore text]) = lastPush actions := by
  simp [lastPush]

@[simp] theorem lastPush_concat_edit (actions : List Action) (i : Nat) (v : Value) :
    lastPush (actions ++ [.edit i v]) = lastPush actions := by
  simp [lastPush]

theorem index?_eq_some_iff {v : Value} {i : Nat} :
    d.index? v = some i ↔ v = .int i ∧ i < d.buttons.length := by
  constructor
  · intro found
    refine ⟨?_, index?_lt found⟩
    unfold index? at found
    split at found
    · split at found
      · next bounds =>
        cases found
        rw [Int.toNat_of_nonneg bounds.1, Value.int]
      · cases found
    · cases found
  · rintro ⟨rfl, bound⟩
    simp [index?, Value.int, bound]

/-- The answer when the pressed button is the one that a push stands for. -/
theorem answer_iff_answers {pushed : Option Value} (pressed : d.pressed = pushed.bind d.index?)
    (label : Text) : d.answer = some label ↔ Answers d.buttons pushed label := by
  rw [answer_eq_some_iff, pressed]
  simp only [Option.bind_eq_some_iff, index?_eq_some_iff]
  constructor
  · rintro ⟨i, b, ⟨v, isPush, rfl, _⟩, place, proceeds⟩
    exact ⟨i, isPush, b, place, proceeds⟩
  · rintro ⟨i, isPush, b, place, proceeds⟩
    have bound := (List.getElem?_eq_some_iff.mp place).1
    exact ⟨i, b, ⟨_, isPush, rfl, bound⟩, place, proceeds⟩

theorem answer_of_readBack {reading : Reading} (read : d.readBack = .ok reading) :
    reading.answer = if d.usesButtons then some d.answer else none := by
  obtain ⟨_, _, rest⟩ := Success.of_bind read
  cases rest
  rfl

/-- The last control of a name holds the last value under it. -/
theorem exists_last {name : Text} (displayed : List.Forall₂ Shows controls rows)
    (known : name ∈ rows.map Prod.fst) : ∃ before c after, controls = before ++ c :: after ∧
      c.name = .text name ∧ (∀ other ∈ after, other.name ≠ .text name) ∧
      c.readBack = .ok (lastUnder rows name) := by
  induction displayed with
  | nil => cases known
  | @cons c row controls rows here displayed ih =>
    by_cases later : name ∈ rows.map Prod.fst
    · obtain ⟨before, last, after, rfl, named, final, read⟩ := ih later
      refine ⟨c :: before, last, after, rfl, named, final, ?_⟩
      rw [lastUnder_cons, if_neg fun both => both.2 later]
      exact read
    · obtain rfl := (List.mem_cons.mp known).resolve_right later
      refine ⟨[], c, controls, rfl, here.1, ?_, ?_⟩
      · intro other member named
        have listed : other.name ∈ controls.map Control.name := List.mem_map_of_mem member
        rw [names_of_shows displayed, named] at listed
        obtain ⟨row', place, same⟩ := List.mem_map.mp listed
        exact later (List.mem_map.mpr ⟨row', place, Atom.text.inj (Value.atom.inj same)⟩)
      · rw [lastUnder_cons, if_pos ⟨rfl, later⟩]
        exact here.2

theorem gathers_of_shows (displayed : List.Forall₂ Shows controls rows) :
    Gathers controls (table rows) := by
  have keys : (table rows).map Prod.fst = (rows.map Prod.fst).eraseDups.map Value.text := by
    simp [table]
  constructor
  · refine ⟨rows.map Prod.fst, ?_, keys⟩
    rw [List.map_map]
    exact names_of_shows displayed
  · rw [keys]
    apply (nodup_eraseDups _).map
    intro a b same
    exact Atom.text.inj (Value.atom.inj same)
  · intro name v member
    obtain ⟨n, known, same⟩ := List.mem_map.mp member
    cases same
    obtain ⟨before, c, after, whole, named, final, read⟩ :=
      exists_last displayed (List.mem_eraseDups.mp known)
    refine ⟨before, c, after, whole, named, final, read, ?_⟩
    intro text isLabel
    rw [Control.readBack, isLabel] at read
    exact (Except.ok.inj read).symm

/-- What holds throughout a session. -/
structure Ongoing (built : Dialog) (actions : List Action) (d : Dialog) : Prop where
  buttons : d.buttons = built.buttons
  usesButtons : d.usesButtons = built.usesButtons
  controls : List.Forall₂ Control.Endures built.controls d.controls
  pressed : d.pressed = (lastPush actions).bind d.index?

theorem shows_of_endures {controls' : List Control}
    (endured : List.Forall₂ Control.Endures controls controls')
    (displayed : List.Forall₂ Shows controls rows) :
      ∃ rows', List.Forall₂ Shows controls' rows' := by
  induction endured generalizing rows with
  | nil => exact ⟨[], .nil⟩
  | cons here _ ih =>
    cases displayed with
    | @cons _ row _ _ first displayed =>
      obtain ⟨rows', later⟩ := ih displayed
      obtain ⟨v, read⟩ := here.2 ⟨row.2, first.2⟩
      exact ⟨(row.1, v) :: rows', .cons ⟨here.1.trans first.1, read⟩ later⟩

theorem names_of_endures {controls' : List Control}
    (endured : List.Forall₂ Control.Endures controls controls') :
    controls'.map Control.name = controls.map Control.name :=
  (map_eq_of_forall₂ (fun _ _ here => here.1.symm) endured).symm

namespace Ongoing

theorem start {controls labels ids : Value} {includeButtons : Bool}
    (isBuilt : build controls labels ids includeButtons = .ok built) : built.Ongoing [] built where
  buttons := rfl
  usesButtons := rfl
  controls := List.forall₂_same.mpr fun c _ => .refl c
  pressed := by
    obtain ⟨_, _, rest⟩ := Success.of_bind isBuilt
    obtain ⟨_, _, rest⟩ := Success.of_bind rest
    cases rest
    rfl

theorem push (ongoing : built.Ongoing actions d) (v : Value) :
    built.Ongoing (actions ++ [.push v]) (d.push v) where
  buttons := ongoing.buttons
  usesButtons := ongoing.usesButtons
  controls := ongoing.controls
  pressed := by
    rw [lastPush_concat_push]
    rfl

theorem restore (ongoing : built.Ongoing actions d) (text : Text) :
    built.Ongoing (actions ++ [.restore text]) (d.deserialize text).1 where
  buttons := ongoing.buttons
  usesButtons := ongoing.usesButtons
  controls := by
    have restored := deliverAll_related Control.Endures.refl Control.Endures.trans
      Control.Endures.of_receive (pieces text).pieces d.controls
    exact forall₂_comp (fun _ _ _ first later => first.trans later) ongoing.controls restored
  pressed := by
    rw [lastPush_concat_restore]
    exact ongoing.pressed

theorem edit (ongoing : built.Ongoing actions d) {i : Nat} {v : Value} {c c' : Control}
    (place : d.controls[i]? = some c) (accepts : c.Accepts v)
    (assigned : c.assign "value" v = .ok c') :
    built.Ongoing (actions ++ [.edit i v]) { d with controls := d.controls.set i c' } where
  buttons := ongoing.buttons
  usesButtons := ongoing.usesButtons
  controls := by
    have edited := forall₂_set Control.Endures.refl place (.of_assign accepts assigned)
    exact forall₂_comp (fun _ _ _ first later => first.trans later) ongoing.controls edited
  pressed := by
    rw [lastPush_concat_edit]
    exact ongoing.pressed

end Ongoing

theorem Session.ongoing {controls labels ids : Value} {includeButtons : Bool}
    (isBuilt : build controls labels ids includeButtons = .ok built)
    (session : Session built actions d) : built.Ongoing actions d := by
  induction session with
  | start => exact .start isBuilt
  | push _ v ih => exact ih.push v
  | restore _ text ih => exact ih.restore text
  | edit _ place accepts assigned ih => exact ih.edit place accepts assigned

/-- In every session with a built dialog the values can be read back: every name of the controls
once, in the order of first use, with the value of the last control of the name. There is an answer
just when the dialog uses its buttons, and it is the label of the button with the number of the last
push, if that was such a number and the button does not cancel. -/
theorem readBack_session {records labels ids : Value} {includeButtons : Bool}
    (isBuilt : build records labels ids includeButtons = .ok built)
    (session : Session built actions d) : ∃ reading, d.readBack = .ok reading ∧
      d.controls.map Control.name = built.controls.map Control.name ∧
      Gathers d.controls reading.values ∧
      (reading.answer.isSome ↔ built.usesButtons) ∧
      ∀ answer, reading.answer = some answer →
        ∀ label, answer = some label ↔ Answers built.buttons (lastPush actions) label := by
  have ongoing := session.ongoing isBuilt
  have invariant := Invariant.of_build isBuilt
  have made : built.Made := ⟨records, labels, ids, includeButtons, built, isBuilt, invariant.edited⟩
  obtain ⟨rows, displayed⟩ := exists_shows made.isText invariant.sound
  obtain ⟨rows', displayed'⟩ := shows_of_endures ongoing.controls displayed
  obtain ⟨reading, read, values⟩ := readBack_of_shows displayed'
  refine ⟨reading, read, names_of_endures ongoing.controls, ?_, ?_, ?_⟩
  · rw [values]
    exact gathers_of_shows displayed'
  · rw [answer_of_readBack read, ongoing.usesButtons]
    cases built.usesButtons <;> simp
  · intro answer answered label
    rw [answer_of_readBack read] at answered
    obtain ⟨_, rfl⟩ := Option.ite_some_none_eq_some.mp answered
    rw [answer_iff_answers ongoing.pressed, ongoing.buttons]

/-- The button that cancels is pushed first and the other one last; then a value is edited and a
text is restored. -/
theorem readBack_session_picker : build pickerRecords .null .null true = .ok picker ∧
    ∃ d, Session picker [.push (.int 1), .push (.int 0), .edit 0 (.text "x"), .restore "d:c"] d ∧
      ∃ reading, d.readBack = .ok reading ∧ Gathers d.controls reading.values ∧
        reading.answer = some (some (.whole "OK")) := by
  have isBuilt : build pickerRecords .null .null true = .ok picker := rfl
  have opened : Session picker [] picker := .start
  have pushed := (opened.push (.int 1)).push (.int 0)
  have edited := pushed.edit (i := 0) (v := .text "x") rfl trivial rfl
  have restored := edited.restore "d:c"
  obtain ⟨reading, read, _, gathers, answers, last⟩ := readBack_session isBuilt restored
  obtain ⟨answer, answered⟩ := Option.isSome_iff_exists.mp (answers.mpr rfl)
  have okay : Answers picker.buttons (some (.int 0)) "OK" :=
    ⟨0, rfl, ⟨some .ok, "OK"⟩, rfl, by decide, rfl⟩
  rw [(last answer answered "OK").mpr okay] at answered
  exact ⟨isBuilt, _, restored, reading, read, gathers, answered⟩

end Dialog

end ScriptDialog
