import ScriptDialog.Proofs.Control.Drawn
import ScriptDialog.Proofs.Dialog.Transfer

/-! Every state that a built dialog can reach: buttons are pushed with any value, any text is
restored, also one that is refused half-way, and frames are drawn, also ones that fail. A control
keeps all but its value, the value stays in its ranges, and so what a script asks of the dialog does
not fail, unless a text in it is torn. -/
namespace ScriptDialog.Dialog

open Control

/-- The control at place `i` takes the token of a piece: neither the pieces before that one nor,
for that one, the controls before this one are at fault. -/
def TakesAt (found : List (String × Text)) (controls : List Control) (i : Nat) : Prop :=
  ∃ before name token after c c', found = before ++ (name, token) :: after ∧
    (deliverAll before controls).fault = none ∧
    (deliverAll before controls).controls[i]? = some c ∧ (c.isNamed name && c.persists) = true ∧
    (deliver name token ((deliverAll before controls).controls.take i)).fault = none ∧
    c.receive token = .ok c'

/-- Restoring the text writes the value of the control at place `i`. -/
def Writes (d : Dialog) (text : Text) (i : Nat) : Prop := TakesAt (pieces text).pieces d.controls i

/-- A state that is reached from a dialog, and the places of the controls that were written when a
text was restored. -/
inductive Reached (built : Dialog) : (Nat → Prop) → Dialog → Prop where
  | built : Reached built (fun _ => False) built
  | push {written : Nat → Prop} {d : Dialog} (reached : Reached built written d) (v : Value) :
      Reached built written (d.push v)
  | restore {written : Nat → Prop} {d : Dialog} (reached : Reached built written d)
      (text : Text) :
      Reached built (fun i => written i ∨ d.Writes text i) (d.deserialize text).1
  | draw {written : Nat → Prop} {d : Dialog} (reached : Reached built written d) (frame : Frame)
      (cell : Value) (fits : frame.Fits d.controls) :
      Reached built written { d with controls := (Panel.draw frame cell d.controls).controls }

variable {name : String} {token : Text} {found : List (String × Text)} {controls : List Control}
  {built d : Dialog} {written : Nat → Prop}

/-- What relates each control to itself and to what a token makes of it relates the controls before
a delivery to those after it, also when the delivery is cut short. -/
theorem deliver_related {r : Control → Control → Prop} (refl : ∀ c, r c c)
    (received : ∀ {c c' : Control} {t : Text}, c.receive t = .ok c' → r c c') (name : String)
    (token : Text)
    (controls : List Control) : List.Forall₂ r controls (deliver name token controls).controls := by
  induction controls with
  | nil => exact .nil
  | cons c controls ih =>
    rcases c.takes_or_refuses name token with ⟨c', takes⟩ | ⟨fault, addressed, refused⟩
    · rw [deliver_cons_of_takes takes]
      refine .cons ?_ ih
      unfold Control.Takes at takes
      split at takes
      · exact received takes
      · subst takes
        exact refl c'
    · rw [deliver_cons_of_refused addressed refused]
      exact List.forall₂_same.mpr fun c _ => refl c

theorem deliverAll_related {r : Control → Control → Prop} (refl : ∀ c, r c c)
    (trans : ∀ {a b c}, r a b → r b c → r a c)
    (received : ∀ {c c' : Control} {t : Text}, c.receive t = .ok c' → r c c')
    (found : List (String × Text)) (controls : List Control) :
    List.Forall₂ r controls (deliverAll found controls).controls := by
  induction found generalizing controls with
  | nil => exact List.forall₂_same.mpr fun c _ => refl c
  | cons piece found ih =>
    obtain ⟨name, token⟩ := piece
    have here := deliver_related refl received name token controls
    unfold deliverAll
    dsimp only
    split
    · exact here
    · have later := ih (deliver name token controls).controls
      refine forall₂_comp ?_ here later
      exact fun _ _ _ first next => trans first next

/-- Also a run with a fault changes values alone, and keeps them in their ranges. -/
theorem deliverAll_kept : List.Forall₂ Kept controls (deliverAll found controls).controls :=
  deliverAll_related .refl .trans .of_receive found controls

theorem deliver_unwritten (name : String) (token : Text) (controls : List Control) (i : Nat) :
    (deliver name token controls).controls[i]? = controls[i]? ∨
      ∃ c c', controls[i]? = some c ∧ (c.isNamed name && c.persists) = true ∧
        (deliver name token (controls.take i)).fault = none ∧ c.receive token = .ok c' := by
  induction controls generalizing i with
  | nil => exact .inl rfl
  | cons c controls ih =>
    rcases c.takes_or_refuses name token with ⟨c', takes⟩ | ⟨fault, addressed, refused⟩
    · rw [deliver_cons_of_takes takes]
      cases i with
      | zero =>
        unfold Control.Takes at takes
        split at takes
        · next addressed => exact .inr ⟨c, c', rfl, addressed, rfl, takes⟩
        · exact .inl (congrArg some takes)
      | succ i =>
        rcases ih i with same | ⟨taker, taker', place, addressed, calm, taken⟩
        · exact .inl same
        · refine .inr ⟨taker, taker', place, addressed, ?_, taken⟩
          rw [List.take_succ_cons, deliver_cons_of_takes takes]
          exact calm
    · rw [deliver_cons_of_refused addressed refused]
      exact .inl rfl

/-- A control that takes no token is as it was. -/
theorem deliverAll_unwritten {i : Nat} (unwritten : ¬ TakesAt found controls i) :
    (deliverAll found controls).controls[i]? = controls[i]? := by
  induction found generalizing controls with
  | nil => rfl
  | cons piece found ih =>
    obtain ⟨name, token⟩ := piece
    have here : (deliver name token controls).controls[i]? = controls[i]? := by
      rcases deliver_unwritten name token controls i with
        same | ⟨c, c', place, addressed, calm, taken⟩
      · exact same
      · exact absurd ⟨[], name, token, found, c, c', rfl, rfl, place, addressed, calm, taken⟩
          unwritten
    cases fault : (deliver name token controls).fault with
    | some fault' => simpa [deliverAll, fault] using here
    | none =>
      rw [deliverAll_cons fault, ih, here]
      rintro ⟨before, name', token', after, c, c', rfl, calm, place, addressed, first, taken⟩
      refine unwritten ⟨(name, token) :: before, name', token', after, c, c', rfl, ?_⟩
      rw [deliverAll_cons fault]
      exact ⟨calm, place, addressed, first, taken⟩

/-- What stands at a place of the second list comes from the same place of the first. -/
theorem exists_before {r : Control → Control → Prop} {after : List Control} {i : Nat} {c' : Control}
    (related : List.Forall₂ r controls after) (place : after[i]? = some c') :
    ∃ c, controls[i]? = some c ∧ r c c' := by
  induction related generalizing i with
  | nil => simp at place
  | @cons c c'' _ _ here _ ih =>
    cases i with
    | zero =>
      cases place
      exact ⟨c, rfl, here⟩
    | succ i => exact ih (by simpa using place)

/-- What holds of every state that a dialog reaches. -/
structure Invariant (built : Dialog) (written : Nat → Prop) (d : Dialog) : Prop where
  pressed : ∀ i, d.pressed = some i → i < d.buttons.length
  buttons : d.buttons = built.buttons
  nonempty : d.buttons ≠ []
  usesButtons : d.usesButtons = built.usesButtons
  edited : Edited built.controls d.controls
  sound : ∀ c ∈ d.controls, c.kind.Sound
  chosen : ∀ i c, d.controls[i]? = some c → ¬ written i → c.kind.Chosen

theorem buttons_ne_nil {labels ids : Value} {includeButtons : Bool} {buttons : List Button}
    (made : buildButtons labels ids includeButtons = .ok buttons) : buttons ≠ [] := by
  unfold buildButtons at made
  split at made
  · obtain ⟨declared, _, made⟩ := Success.of_bind made
    obtain ⟨pairs, _, made⟩ := Success.of_bind made
    obtain ⟨assigned, _, made⟩ := Success.of_bind made
    cases made
    split
    · simp [Button.defaults]
    · next some_ => simpa using some_
  · cases made
    simp [Button.defaults]

theorem index?_lt {v : Value} {i : Nat} (found : d.index? v = some i) : i < d.buttons.length := by
  unfold index? at found
  split at found
  · split at found
    · cases found
      omega
    · cases found
  · cases found

theorem sound_of_kept {after : List Control} (kept : List.Forall₂ Kept controls after)
    (sound : ∀ c ∈ controls, c.kind.Sound) : ∀ c ∈ after, c.kind.Sound := by
  intro c' member
  obtain ⟨c, place, here⟩ := left_of_forall₂ kept member
  exact here.sound (sound c place)

theorem edited_of_kept {before after : List Control} (edited : Edited before controls)
    (kept : List.Forall₂ Kept controls after) : Edited before after := by
  refine forall₂_comp ?_ edited kept
  rintro c _ _ ⟨v, rfl⟩ ⟨⟨w, rfl⟩, _⟩
  exact ⟨w, c.withValue_withValue v w⟩

namespace Invariant

theorem of_build {controls labels ids : Value} {includeButtons : Bool}
    (isBuilt : build controls labels ids includeButtons = .ok built) :
    built.Invariant (fun _ => False) built := by
  obtain ⟨made, isMade, isBuilt⟩ := Success.of_bind isBuilt
  obtain ⟨buttons, isButtons, isBuilt⟩ := Success.of_bind isBuilt
  cases isBuilt
  have origin : ∀ c ∈ made, ∃ record, Control.ofRecord record = .ok c := by
    intro c member
    unfold buildControls at isMade
    split at isMade
    · cases isMade
    · obtain ⟨record, _, fromRecord⟩ := Success.of_mapM isMade c member
      exact ⟨record, fromRecord⟩
  constructor
  · intro i found
    cases found
  · rfl
  · exact buttons_ne_nil isButtons
  · rfl
  · exact List.forall₂_same.mpr fun c _ => c.withValue_self
  · intro c member
    obtain ⟨record, fromRecord⟩ := origin c member
    exact (sound_of_ofRecord fromRecord).2.1
  · intro i c place _
    obtain ⟨record, fromRecord⟩ := origin c (List.mem_of_getElem? place)
    exact (sound_of_ofRecord fromRecord).2.2

theorem push (holds : built.Invariant written d) (v : Value) :
    built.Invariant written (d.push v) where
  pressed _ found := index?_lt found
  buttons := holds.buttons
  nonempty := holds.nonempty
  usesButtons := holds.usesButtons
  edited := holds.edited
  sound := holds.sound
  chosen := holds.chosen

theorem restore (holds : built.Invariant written d) (text : Text) :
    built.Invariant (fun i => written i ∨ d.Writes text i) (d.deserialize text).1 where
  pressed := holds.pressed
  buttons := holds.buttons
  nonempty := holds.nonempty
  usesButtons := holds.usesButtons
  edited := edited_of_kept holds.edited deliverAll_kept
  sound := sound_of_kept deliverAll_kept holds.sound
  chosen := by
    intro i c place unwritten
    rw [not_or] at unwritten
    have same := deliverAll_unwritten unwritten.2
    exact holds.chosen i c (same ▸ place) unwritten.1

theorem draw (holds : built.Invariant written d) (frame : Frame) (cell : Value)
    (fits : frame.Fits d.controls) :
    built.Invariant written { d with controls := (Panel.draw frame cell d.controls).controls } := by
  have cues : ∀ i c, d.controls[i]? = some c → (frame.cue (0 + i)).Fits c.kind := by
    intro i c place
    simpa using fits i c place
  have drawn := Panel.drawControls_kept cell cues
  rw [← Panel.draw_controls] at drawn
  have kept := drawn.imp fun _ _ step => step.1
  constructor
  · exact holds.pressed
  · exact holds.buttons
  · exact holds.nonempty
  · exact holds.usesButtons
  · exact edited_of_kept holds.edited kept
  · exact sound_of_kept kept holds.sound
  · intro i c' place unwritten
    obtain ⟨c, place', _, chosen⟩ := exists_before drawn place
    exact chosen (holds.sound c (List.mem_of_getElem? place')) (holds.chosen i c place' unwritten)

theorem of_reached (holds : built.Invariant (fun _ => False) built)
    (reached : Reached built written d) : built.Invariant written d := by
  induction reached with
  | built => exact holds
  | push _ v ih => exact ih.push v
  | restore _ text ih => exact ih.restore text
  | draw _ frame cell fits ih => exact ih.draw frame cell fits

end Invariant

/-- Nothing that a script asks of the dialog fails, but for the line of values where a name or a
value is torn. -/
structure Usable (d : Dialog) : Prop where
  pressedButton : ∀ i, d.pressed = some i → ∃ b, d.buttons[i]? = some b ∧ d.pressedButton = some b
  readBack : ∃ reading, d.readBack = .ok reading
  serialize : d.Whole → ∃ line : String, d.serialize = .ok line
  torn : ¬ d.Whole → ∃ t, d.serialize = .error (.torn t)
  widgets : ∀ c ∈ d.controls, ∃ name, Widget.nameFor c = .ok name

/-- The first torn text keeps the others from being written. -/
theorem savedPairs_torn (named : ∀ c ∈ controls, ∃ t, c.name = .text t)
    (sound : ∀ c ∈ controls, c.kind.Sound) (torn : ∃ c ∈ controls, c.persists ∧ ¬ c.Whole) :
    ∃ t, savedPairs controls = .error (.torn t) := by
  induction controls with
  | nil => simp at torn
  | cons c controls ih =>
    obtain ⟨⟨name, isText⟩, named⟩ := List.forall_mem_cons.mp named
    obtain ⟨here, sound⟩ := List.forall_mem_cons.mp sound
    have later (skipped : ¬ c.persists ∨ c.Whole) :
        ∃ t, savedPairs controls = .error (.torn t) := by
      refine ih named sound ?_
      obtain ⟨c', member, persists, torn⟩ := torn
      rcases List.mem_cons.mp member with rfl | member
      · exact absurd persists (skipped.resolve_right torn)
      · exact ⟨c', member, persists, torn⟩
    unfold savedPairs
    split
    · next persists =>
      by_cases whole : c.Whole
      · obtain ⟨t, fault⟩ := later (.inr whole)
        obtain ⟨s, spelt⟩ := whole.spelt isText
        have held : c.kind.Holds (fun _ => True) Narrow :=
          holds_of_sound here whole.value fun _ _ => trivial
        obtain ⟨token, written, _⟩ := token_writes held (fun _ => Narrow.writable) persists
        rw [spelt, written, fault]
        exact ⟨t, rfl⟩
      · obtain ⟨t, torn⟩ := not_whole_iff.mp whole
        rw [isText] at torn ⊢
        cases name with
        | torn t' => exact ⟨t', rfl⟩
        | whole s =>
          rcases torn with ⟨⟨⟩⟩ | value
          rw [token_torn here value]
          exact ⟨t, rfl⟩
    · next skipped => exact later (.inl skipped)

theorem exists_shows (named : ∀ c ∈ controls, ∃ t, c.name = .text t)
    (sound : ∀ c ∈ controls, c.kind.Sound) : ∃ rows, List.Forall₂ Shows controls rows := by
  induction controls with
  | nil => exact ⟨[], .nil⟩
  | cons c controls ih =>
    obtain ⟨⟨name, isText⟩, named⟩ := List.forall_mem_cons.mp named
    obtain ⟨here, sound⟩ := List.forall_mem_cons.mp sound
    obtain ⟨rows, displayed⟩ := ih named sound
    obtain ⟨v, read⟩ := readBack_of_sound here
    exact ⟨(name, v) :: rows, .cons ⟨isText, read⟩ displayed⟩

theorem nameFor_of_sound {c : Control} (sound : c.kind.Sound) :
    ∃ name, Widget.nameFor c = .ok name := by
  obtain ⟨name, hint, x, y, width, height, kind⟩ := c
  cases sound <;> exact ⟨_, rfl⟩

theorem Invariant.usable (holds : built.Invariant written d)
    (named : ∀ c ∈ d.controls, ∃ t, c.name = .text t) : d.Usable where
  pressedButton i found := by
    have bound := holds.pressed i found
    refine ⟨d.buttons[i], List.getElem?_eq_getElem bound, ?_⟩
    simp [pressedButton, found, bound]
  readBack := by
    obtain ⟨rows, displayed⟩ := exists_shows named holds.sound
    obtain ⟨reading, read, _⟩ := readBack_of_shows displayed
    exact ⟨reading, read⟩
  serialize whole := by
    have savable : ∀ c ∈ d.controls, c.persists →
        (∃ name : String, c.name = .text name) ∧ c.kind.Holds (fun _ => True) Narrow := by
      intro c member persists
      obtain ⟨t, isText⟩ := named c member
      have unbroken := whole c member persists
      exact ⟨unbroken.spelt isText,
        holds_of_sound (holds.sound c member) unbroken.value fun _ _ => trivial⟩
    obtain ⟨pairs, lists, _⟩ := exists_lists (fun _ => Narrow.writable) savable
    exact ⟨line pairs, serialize_of_lists lists⟩
  torn broken := by
    simp only [Whole, not_forall, exists_prop] at broken
    obtain ⟨t, fault⟩ := savedPairs_torn named holds.sound broken
    exact ⟨t, by rw [serialize, fault]; rfl⟩
  widgets c member := nameFor_of_sound (holds.sound c member)

/-- In every state that a dialog reaches, whatever is pushed, restored and drawn: the pressed button
is one of the buttons, which are those of the built dialog; the controls are those of the built
dialog but for their values, and these are within their ranges; a dropdown that no text has written
shows one of its items; and what a script asks of the dialog fails only when the line of values is
asked for and a name or a value is a torn text. -/
theorem reached_invariant {records labels ids : Value} {includeButtons : Bool}
    (isBuilt : build records labels ids includeButtons = .ok built)
    (reached : Reached built written d) :
    built.Invariant written d ∧ d.Usable ∧
      ∀ c ∈ d.controls, ∀ value min max step, c.kind = .floatEdit value min max step →
        ∃ lower upper, min = .float lower ∧ max = .float upper ∧ lower.lt upper ∧
          ¬ lower.isNaN ∧ ¬ upper.isNaN := by
  have holds := (Invariant.of_build isBuilt).of_reached reached
  have made : d.Made := ⟨records, labels, ids, includeButtons, built, isBuilt, holds.edited⟩
  refine ⟨holds, holds.usable made.isText, ?_⟩
  intro c member value min max step isFloat
  have sound := holds.sound c member
  rw [isFloat] at sound
  cases sound with
  | floatEdit x room => exact ⟨_, _, rfl, rfl, room, Double.numbers_of_lt room⟩

/-- An edit and a dropdown. -/
def picker : Dialog where
  controls := [first "e" (.edit false (.text "")),
    first "d" (.dropdown (.text "a") (.tuple [.text "a", .text "b"]))]
  buttons := Button.defaults
  usesButtons := true
  pressed := none

def pickerRecords : Value :=
  .list [shortRecord "edit" "e", .map [(.text "class", .text "dropdown"), (.text "name", .text "d"),
    (.text "items", .list [.text "a", .text "b"])]]

/-- Every widget reports a text, which is no index of a dropdown: that widget ends the frame. -/
def reporting : Frame := ⟨(.int 0, .int 0), fun _ => ⟨true, some (.text "b"), false, none⟩,
  fun _ => false, none⟩

theorem reporting_fits (controls : List Control) : reporting.Fits controls := by
  intro i c _
  obtain ⟨name, hint, x, y, width, height, kind⟩ := c
  cases kind with
  | edit =>
    intro v reported
    cases reported
    exact ⟨"b", rfl⟩
  | _ => trivial

theorem reached_invariant_picker :
    build pickerRecords .null .null true = .ok picker ∧
      ∃ written d, Reached picker written d ∧ picker.Invariant written d ∧ d.Usable := by
  have isBuilt : build pickerRecords .null .null true = .ok picker := rfl
  have start : Reached picker (fun _ => False) picker := .built
  have restored := (start.push (.int 1)).restore "e:x|d:c"
  have drawn := restored.draw reporting (.tuple [.float .zero, .float .zero]) (reporting_fits _)
  obtain ⟨holds, usable, _⟩ := reached_invariant isBuilt drawn
  exact ⟨isBuilt, _, _, drawn, holds, usable⟩

/-- The record of an edit with a value. -/
def editRecord (name : String) (value : Text) : Value :=
  .map [(.text "class", .text "edit"), (.text "name", .text name), (.text "value", .text value)]

/-- A surrogate on its own is a value that can be read back and not saved. -/
theorem reached_unsaved : ∃ built reading,
    build (.list [editRecord "a" (.torn .alone)]) .null .null true = .ok built ∧
      Reached built (fun _ => False) built ∧ built.readBack = .ok reading ∧
      built.serialize = .error (.torn .alone) :=
  ⟨_, _, rfl, .built, rfl, rfl⟩

/-- A state that some built dialog reaches. -/
def Reachable (d : Dialog) : Prop :=
  ∃ records labels ids includeButtons built written,
    build records labels ids includeButtons = .ok built ∧ Reached built written d

end ScriptDialog.Dialog
