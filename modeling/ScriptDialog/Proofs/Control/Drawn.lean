import Mathlib.Data.List.Forall2
import ScriptDialog.Panel
import ScriptDialog.Proofs.Control.Sound
import ScriptDialog.Proofs.Control.Taken

/-! What drawing does to a control: it may set the value, which then is in the control's ranges, and
touches nothing else. A fault at one control leaves it and all later ones as they were. -/
namespace ScriptDialog

open Performed (outcome_of_bind outcome_pure)

/-- What stands at an index of a sequence is one of its parts. -/
theorem Value.mem_of_itemAt {sequence v : Value} {items : List Value} {index : Int}
    (isSequence : sequence.entries? = none) (listed : sequence.parts = .ok items)
    (found : sequence.itemAt index = .ok v) : v ∈ items := by
  unfold itemAt at found
  split at found
  · cases isSequence
  · rw [listed] at found
    dsimp only at found
    split at found
    · split at found
      · next picked =>
        cases found
        unfold pick? at picked
        by_cases outside : (if index < 0 then index + items.length else index) < 0
        · simp [outside] at picked
        · simp only [outside, if_false] at picked
          exact List.mem_of_getElem? picked
      · cases found
    · cases found

namespace Double

theorem lt_irrefl (x : Double) : ¬ x.lt x := by
  cases x <;> simp [lt]

theorem lt_asymm {x y : Double} (less : x.lt y) : ¬ y.lt x := by
  cases x <;> cases y <;> simp_all [lt]
  omega

/-- A number that no bound excludes. -/
structure IsBetween (x lo hi : Double) : Prop where
  number : ¬ x.isNaN
  notBelow : ¬ x.lt lo
  notAbove : ¬ hi.lt x

variable {lo hi x : Double}

theorem isBetween_lower (number : ¬ lo.isNaN) (room : ¬ hi.lt lo) : lo.IsBetween lo hi :=
  ⟨number, lt_irrefl lo, room⟩

/-- A number brought into bounds that do not cross lies between them. -/
theorem isBetween_larger_smaller (lower : ¬ lo.isNaN) (upper : ¬ hi.isNaN) (number : ¬ x.isNaN)
    (room : ¬ hi.lt lo) : (lo.larger (hi.smaller x)).IsBetween lo hi := by
  unfold larger smaller
  by_cases below : x.lt hi
  · rw [if_pos below]
    split
    · next above => exact ⟨number, lt_asymm above, lt_asymm below⟩
    · exact isBetween_lower lower room
  · rw [if_neg below]
    split
    · next above => exact ⟨upper, lt_asymm above, lt_irrefl hi⟩
    · exact isBetween_lower lower room

end Double

/-- What the toolkit reports has the type of the widget. Only text is taken over as it is reported;
every other report is converted. -/
def Cue.Fits (cue : Cue) : Kind → Prop
  | .edit .. => ∀ v, cue.value = some v → ∃ s, v = .text s
  | _ => True

namespace Widget

theorem toByte_byte {v : Value} {n : Int} (read : toByte v = .ok n) : 0 ≤ n ∧ n ≤ 255 := by
  obtain ⟨x, _, read⟩ := Success.of_bind read
  obtain ⟨m, _, read⟩ := Success.of_bind read
  cases read
  omega

theorem Paints.inRange {fractions : List Value} {base c : Color} (inRange : base.InRange)
    (paints : Paints base fractions c) : c.InRange := by
  cases paints with
  | kept isRed isGreen isBlue =>
    exact ⟨toByte_byte isRed, toByte_byte isGreen, toByte_byte isBlue, inRange.2.2.2⟩
  | set isRed isGreen isBlue isOpacity =>
    have bounds := toByte_byte isOpacity
    exact ⟨toByte_byte isRed, toByte_byte isGreen, toByte_byte isBlue, by dsimp only; omega⟩

namespace Takes

variable {answer value v : Value}

/-- An integer lies between its bounds, unless they cross. -/
theorem int_between {min max : Value} {lo hi : Int}
    (takes : Takes answer (.intEdit value min max) v) (lower : min.toInt = .ok lo)
    (upper : max.toInt = .ok hi) (room : lo ≤ hi) :
    ∃ n, v = .int n ∧ lo ≤ n ∧ n ≤ hi := by
  cases takes with
  | intEdit counted lower' upper' =>
    cases lower.symm.trans lower'
    cases upper.symm.trans upper'
    exact ⟨_, rfl, by omega, by omega⟩

variable {min max step : Value} {lo hi x : Double}

/-- A number lies between its bounds, unless they cross. -/
theorem double_between (takes : Takes answer (.floatEdit value min max step) v)
    (lower : min.toDouble = .ok lo) (upper : max.toDouble = .ok hi) (isLower : ¬ lo.isNaN)
    (isUpper : ¬ hi.isNaN) (room : ¬ hi.lt lo) : ∃ x, v = .float x ∧ x.IsBetween lo hi := by
  cases takes with
  | nan measured noNumber lower' =>
    cases lower.symm.trans lower'
    exact ⟨lo, rfl, Double.isBetween_lower isLower room⟩
  | floatEdit measured number lower' upper' =>
    cases lower.symm.trans lower'
    cases upper.symm.trans upper'
    exact ⟨_, rfl, Double.isBetween_larger_smaller isLower isUpper number room⟩

theorem double_of_nan (takes : Takes answer (.floatEdit value min max step) v)
    (lower : min.toDouble = .ok lo) (measured : answer.toDouble = .ok x) (noNumber : x.isNaN) :
    v = .float lo := by
  cases takes with
  | nan measured' noNumber' lower' =>
    cases lower.symm.trans lower'
    rfl
  | floatEdit measured' number =>
    cases measured.symm.trans measured'
    exact absurd noNumber number

theorem mem_items {items : Value} {listed : List Value}
    (takes : Takes answer (.dropdown value items) v) (isSequence : items.entries? = none)
    (isList : items.parts = .ok listed) : v ∈ listed := by
  cases takes with
  | dropdown counted chosen => exact Value.mem_of_itemAt isSequence isList chosen

/-- An answer of three fractions leaves the transparency as it is. -/
theorem transparency {declared : Bool} {base : Color} {alpha : Value} {fractions : List Value}
    (takes : Takes answer (.color declared (.color base) alpha) v)
    (listed : answer.parts = .ok fractions) (few : fractions.length ≤ 3) :
    ∃ c : Color, v = .color c ∧ c.a = base.a := by
  cases takes with
  | color listed' paints =>
    cases listed.symm.trans listed'
    cases paints with
    | kept => exact ⟨_, rfl, rfl⟩
    | set =>
      simp only [List.length_cons] at few
      omega

end Takes

variable {cue : Cue} {c : Control} {kind : Kind}

/-- The new value lies within the ranges, and that of a dropdown is one of its items. -/
theorem sound_of_gives (sound : c.kind.Sound) (fits : cue.Fits c.kind)
    (gives : Gives cue c.kind (some kind)) : kind.Sound ∧ kind.Chosen := by
  obtain ⟨name, hint, x, y, w, h, before⟩ := c
  cases gives with
  | taken reported shows takes =>
    cases sound with
    | label text => exact absurd reported.2 id
    | edit multiline s =>
      cases takes
      cases shows with
      | @edit _ _ shown written =>
        have isText : ∃ s', reply cue (.text shown) = .text s' := by
          cases answer : cue.value with
          | none => exact ⟨shown, by rw [reply, answer, Option.getD_none]⟩
          | some v =>
            obtain ⟨s', rfl⟩ := fits v answer
            exact ⟨s', by rw [reply, answer, Option.getD_some]⟩
        obtain ⟨s', same⟩ := isText
        rw [same]
        exact ⟨.edit multiline s', trivial⟩
    | intEdit value lower upper room =>
      obtain ⟨n, rfl, above, below⟩ := takes.int_between rfl rfl (Int.le_of_lt room)
      refine ⟨.intEdit ⟨?_, ?_⟩ lower upper room, trivial⟩
      · exact Int.le_trans lower.1 above
      · exact Int.le_trans below upper.2
    | floatEdit x room step =>
      obtain ⟨lower, upper⟩ := Double.numbers_of_lt room
      obtain ⟨x', rfl, _⟩ := takes.double_between rfl rfl lower upper (Double.lt_asymm room)
      exact ⟨.floatEdit x' room step, trivial⟩
    | dropdown s items =>
      have member := takes.mem_items rfl rfl
      obtain ⟨s', _, rfl⟩ := List.mem_map.mp member
      exact ⟨.dropdown s' items, fun _ => member⟩
    | checkbox label b =>
      cases takes
      exact ⟨.checkbox label _, trivial⟩
    | color alpha inRange =>
      cases takes with
      | color listed paints => exact ⟨.color alpha (paints.inRange inRange), trivial⟩

end Widget

/-- The control after its widget was drawn under a cue: with the value that the user gave it, or as
it was. -/
inductive Control.Updated (cue : Cue) (c : Control) : Control → Prop where
  | idle (unreported : ¬ Widget.Reports cue c.kind) : Updated cue c c
  | taken {shown v : Value} (reported : Widget.Reports cue c.kind)
      (shows : Widget.Shows c.kind shown)
      (takes : Widget.Takes (Widget.reply cue shown) c.kind v) : Updated cue c (c.withValue v)

/-- A change of a control that touches nothing but the value and keeps that within the ranges. -/
structure Control.Kept (c c' : Control) : Prop where
  edited : ∃ v, c' = c.withValue v
  sound : c.kind.Sound → c'.kind.Sound

namespace Control.Kept

variable {c c' c'' : Control} {token : Text}

theorem refl (c : Control) : c.Kept c := ⟨c.withValue_self, id⟩

theorem trans (first : c.Kept c') (second : c'.Kept c'') : c.Kept c'' := by
  obtain ⟨⟨v, rfl⟩, sound⟩ := first
  obtain ⟨⟨w, rfl⟩, sound'⟩ := second
  exact ⟨⟨w, c.withValue_withValue v w⟩, sound' ∘ sound⟩

theorem of_receive (received : c.receive token = .ok c') : c.Kept c' := by
  obtain ⟨v, _, same, _⟩ := taken_of_receive received
  exact ⟨⟨v, same⟩, fun sound => sound_of_receive sound received⟩

end Control.Kept

/-- Every report of a frame has the type of the widget it comes from. -/
def Frame.Fits (frame : Frame) (controls : List Control) : Prop :=
  ∀ i c, controls[i]? = some c → (frame.cue i).Fits c.kind

namespace Panel

variable {frame : Frame} {cell : Value} {index : Nat} {c : Control} {controls : List Control}

theorem gives_of_drawControl {kind? : Option Kind}
    (drawn : (drawControl frame cell index c).outcome = .ok kind?) :
    Widget.Gives (frame.cue index) c.kind kind? := by
  rw [drawControl] at drawn
  obtain ⟨rect, _, drawn⟩ := outcome_of_bind drawn
  rw [Performed.outcome_bracket] at drawn
  obtain ⟨x, _, drawn⟩ := outcome_of_bind drawn
  obtain ⟨y, _, drawn⟩ := outcome_of_bind drawn
  obtain ⟨_, _, drawn⟩ := outcome_of_bind drawn
  obtain ⟨shown, widget, drawn⟩ := outcome_of_bind drawn
  obtain ⟨_, _, drawn⟩ := outcome_of_bind drawn
  rw [outcome_pure] at drawn
  cases drawn
  rw [Performed.outcome_bracket] at widget
  exact Widget.gives_of_draw widget

/-- The control that is put in the place of one that was drawn. -/
theorem updated_of_drawControl {kind? : Option Kind}
    (drawn : (drawControl frame cell index c).outcome = .ok kind?) :
    c.Updated (frame.cue index) { c with kind := kind?.getD c.kind } ∧
      (kind?.isSome ↔ Widget.Reports (frame.cue index) c.kind) := by
  cases gives_of_drawControl drawn with
  | silent unreported => exact ⟨.idle unreported, iff_of_false nofun unreported⟩
  | taken reported shows takes => exact ⟨.taken reported shows takes, iff_of_true rfl reported⟩

/-- The controls after their widgets were drawn one by one, the first under the cue of `index`. -/
inductive Updates (frame : Frame) : Nat → List Control → List Control → Prop where
  | nil (index : Nat) : Updates frame index [] []
  | cons {index : Nat} {c c' : Control} {controls controls' : List Control}
      (here : c.Updated (frame.cue index) c')
      (later : Updates frame (index + 1) controls controls') :
      Updates frame index (c :: controls) (c' :: controls')

/-- Some widget reports a change. -/
def Reports (frame : Frame) (index : Nat) (controls : List Control) : Prop :=
  ∃ i c, controls[i]? = some c ∧ Widget.Reports (frame.cue (index + i)) c.kind

theorem reports_nil : ¬ Reports frame index [] := by
  rintro ⟨i, c, ⟨⟩, _⟩

theorem reports_cons : Reports frame index (c :: controls) ↔
    Widget.Reports (frame.cue index) c.kind ∨ Reports frame (index + 1) controls := by
  constructor
  · rintro ⟨i, c', place, reported⟩
    cases i with
    | zero =>
      cases place
      exact .inl reported
    | succ i =>
      rw [← Nat.add_assoc, Nat.add_right_comm] at reported
      exact .inr ⟨i, c', place, reported⟩
  · rintro (reported | ⟨i, c', place, reported⟩)
    · exact ⟨0, c, rfl, reported⟩
    · rw [Nat.add_right_comm, Nat.add_assoc] at reported
      exact ⟨i + 1, c', place, reported⟩

/-- What drawing the controls does, whether it comes to the last one or fails at one of them. -/
inductive Ends (frame : Frame) (cell : Value) (index : Nat) (controls : List Control) :
    List Control → Except WidgetFault Bool → Prop where
  | done {controls' : List Control} {changed : Bool}
      (updates : Updates frame index controls controls')
      (said : changed ↔ Reports frame index controls) :
      Ends frame cell index controls controls' (.ok changed)
  | failed (before : List Control) {before' after : List Control} {c : Control}
      {fault : WidgetFault}
      (whole : controls = before ++ c :: after) (updates : Updates frame index before before')
      (failed : (drawControl frame cell (index + before.length) c).outcome = .error fault) :
      Ends frame cell index controls (before' ++ c :: after) (.error fault)

theorem drawControls_ends (frame : Frame) (cell : Value) (index : Nat) (controls : List Control) :
    Ends frame cell index controls (drawControls frame cell index controls).controls
      (drawControls frame cell index controls).outcome := by
  induction controls generalizing index with
  | nil => exact .done (.nil index) (iff_of_false nofun reports_nil)
  | cons c controls ih =>
    unfold drawControls
    dsimp only
    split
    · next fault failed => exact .failed [] rfl (.nil index) failed
    · next kind? drawn =>
      obtain ⟨here, reported⟩ := updated_of_drawControl drawn
      generalize ends : (drawControls frame cell (index + 1) controls).outcome = outcome
      have later := ih (index + 1)
      rw [ends] at later
      generalize (drawControls frame cell (index + 1) controls).controls = controls' at later ⊢
      cases later with
      | @done _ changed updates said =>
        have said : (kind?.isSome || changed) ↔ Reports frame index (c :: controls) := by
          rw [reports_cons, ← said, ← reported, Bool.or_eq_true]
        exact .done (.cons here updates) said
      | failed before whole updates failed =>
        rw [Nat.add_right_comm, Nat.add_assoc] at failed
        exact .failed (c :: before) (congrArg (c :: ·) whole) (.cons here updates) failed

/-- An update under a fitting cue keeps all but the value, and that within its ranges. -/
theorem kept_of_updated {cue : Cue} {c c' : Control} (updated : c.Updated cue c')
    (fits : cue.Fits c.kind) :
    c.Kept c' ∧ (c.kind.Sound → c.kind.Chosen → c'.kind.Chosen) := by
  cases updated with
  | idle => exact ⟨.refl c, fun _ chosen => chosen⟩
  | taken reported shows takes =>
    have gives := Widget.Gives.taken reported shows takes
    exact ⟨⟨⟨_, rfl⟩, fun sound => (Widget.sound_of_gives sound fits gives).1⟩,
      fun sound _ => (Widget.sound_of_gives sound fits gives).2⟩

theorem kept_self (controls : List Control) :
    List.Forall₂ (fun c c' => Control.Kept c c' ∧ (c.kind.Sound → c.kind.Chosen → c'.kind.Chosen))
      controls controls :=
  List.forall₂_same.mpr fun c _ => ⟨.refl c, fun _ chosen => chosen⟩

theorem Updates.kept {controls' : List Control} (updates : Updates frame index controls controls')
    (fits : ∀ i c, controls[i]? = some c → (frame.cue (index + i)).Fits c.kind) :
    List.Forall₂ (fun c c' => c.Kept c' ∧ (c.kind.Sound → c.kind.Chosen → c'.kind.Chosen))
      controls controls' := by
  induction updates with
  | nil => exact .nil
  | @cons index c _ controls _ here _ ih =>
    have later : ∀ i c, controls[i]? = some c → (frame.cue (index + 1 + i)).Fits c.kind := by
      intro i c place
      simpa [Nat.add_assoc, Nat.add_comm 1] using fits (i + 1) c (by simpa using place)
    exact .cons (kept_of_updated here (fits 0 c rfl)) (ih later)

/-- Whether a frame is drawn to its end or not, each control is as it was or has a new value within
its ranges; and a value chosen among the items of a dropdown stays one of them. -/
theorem drawControls_kept (cell : Value)
    (fits : ∀ i c, controls[i]? = some c → (frame.cue (index + i)).Fits c.kind) :
    List.Forall₂ (fun c c' => c.Kept c' ∧ (c.kind.Sound → c.kind.Chosen → c'.kind.Chosen)) controls
      (drawControls frame cell index controls).controls := by
  have ends := drawControls_ends frame cell index controls
  generalize (drawControls frame cell index controls).outcome = outcome at ends
  generalize (drawControls frame cell index controls).controls = controls' at ends ⊢
  cases ends with
  | done updates => exact updates.kept fits
  | failed before whole updates =>
    subst whole
    refine List.rel_append (updates.kept fun i c place => ?_) (kept_self _)
    have inside := (List.getElem?_eq_some_iff.mp place).1
    exact fits i c ((List.getElem?_append_left inside).trans place)

/-- A panel that is drawn to its end has drawn all controls. -/
theorem drawControls_of_draw {changed : Bool}
    (done : (draw frame cell controls).outcome = .ok changed) :
    (drawControls frame cell 0 controls).outcome = .ok changed := by
  unfold draw at done
  dsimp only at done
  split at done
  · cases done
  · next drawn =>
    split at done
    · cases done
    · exact drawn.trans done

theorem draw_controls :
    (draw frame cell controls).controls = (drawControls frame cell 0 controls).controls := by
  unfold draw
  dsimp only
  split
  · rfl
  · split <;> rfl

end Panel

end ScriptDialog
