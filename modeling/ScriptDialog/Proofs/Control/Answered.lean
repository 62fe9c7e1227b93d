import ScriptDialog.Proofs.Control.Drawn

/-! The controls after a panel was drawn. Each has the value that the user gave it in its widget,
brought within its bounds, or is as it was; when a widget fails, its control and all later ones are
as they were. -/
namespace ScriptDialog

/-- Where the value that is taken from an answer lies. -/
structure Widget.Bounded (answer : Value) (kind : Kind) (v : Value) : Prop where
  int : ∀ {value min max : Value} {lo hi : Int}, kind = .intEdit value min max →
    min.toInt = .ok lo → max.toInt = .ok hi → lo ≤ hi → ∃ n, v = .int n ∧ lo ≤ n ∧ n ≤ hi
  double : ∀ {value min max step : Value} {lo hi : Double}, kind = .floatEdit value min max step →
    min.toDouble = .ok lo → max.toDouble = .ok hi → ¬ lo.isNaN → ¬ hi.isNaN → ¬ hi.lt lo →
      ∃ x, v = .float x ∧ x.IsBetween lo hi
  /-- What is no number becomes the lower bound. -/
  nan : ∀ {value min max step : Value} {lo x : Double}, kind = .floatEdit value min max step →
    min.toDouble = .ok lo → answer.toDouble = .ok x → x.isNaN → v = .float lo
  item : ∀ {value items : Value} {listed : List Value}, kind = .dropdown value items →
    items.entries? = none → items.parts = .ok listed → v ∈ listed
  /-- Three fractions leave the transparency as it is. -/
  transparency : ∀ {declared : Bool} {base : Color} {alpha : Value} {fractions : List Value},
    kind = .color declared (.color base) alpha → answer.parts = .ok fractions →
      fractions.length ≤ 3 → ∃ c : Color, v = .color c ∧ c.a = base.a

theorem Widget.Takes.bounded {answer v : Value} {kind : Kind} (takes : Takes answer kind v) :
    Bounded answer kind v where
  int is lower upper room := by
    subst is
    exact takes.int_between lower upper room
  double is lower upper isLower isUpper room := by
    subst is
    exact takes.double_between lower upper isLower isUpper room
  nan is lower measured noNumber := by
    subst is
    exact takes.double_of_nan lower measured noNumber
  item is isSequence isList := by
    subst is
    exact takes.mem_items isSequence isList
  transparency is listed few := by
    subst is
    exact takes.transparency listed few

/-- A control after its widget has answered. -/
structure Control.Answered (cue : Cue) (c c' : Control) : Prop where
  /-- Without a report the control is as it was, whatever its widget showed. -/
  silent : ¬ Widget.Reports cue c.kind → c' = c
  /-- With a report the value comes of the answer, and nothing else changes. -/
  taken : Widget.Reports cue c.kind → ∃ shown v, Widget.Shows c.kind shown ∧
    Widget.Takes (Widget.reply cue shown) c.kind v ∧
    Widget.Bounded (Widget.reply cue shown) c.kind v ∧ c' = c.withValue v

theorem Control.Updated.answered {cue : Cue} {c c' : Control} (updated : c.Updated cue c') :
    c.Answered cue c' := by
  cases updated with
  | idle unreported => exact ⟨fun _ => rfl, fun reported => absurd reported unreported⟩
  | taken reported shows takes =>
    exact ⟨fun unreported => absurd reported unreported,
      fun _ => ⟨_, _, shows, takes, takes.bounded, rfl⟩⟩

namespace Panel

/-- The controls after the widget of each has answered under its own cue. -/
structure Answered (frame : Frame) (controls controls' : List Control) : Prop where
  length : controls'.length = controls.length
  each : ∀ (i : Nat) (c c' : Control), controls[i]? = some c → controls'[i]? = some c' →
    c.Answered (frame.cue i) c'

variable {frame : Frame} {cell : Value} {index : Nat} {controls controls' : List Control}

theorem Updates.length (updates : Updates frame index controls controls') :
    controls'.length = controls.length := by
  induction updates with
  | nil => rfl
  | cons _ _ ih => rw [List.length_cons, List.length_cons, ih]

theorem Updates.at {i : Nat} {c c' : Control} (updates : Updates frame index controls controls')
    (place : controls[i]? = some c) (place' : controls'[i]? = some c') :
    c.Updated (frame.cue (index + i)) c' := by
  induction updates generalizing i with
  | nil => cases place
  | @cons index _ _ _ _ here _ ih =>
    cases i with
    | zero =>
      cases place
      cases place'
      exact here
    | succ i =>
      rw [← Nat.add_assoc, Nat.add_right_comm]
      exact ih place place'

theorem Updates.answered (updates : Updates frame 0 controls controls') :
    Answered frame controls controls' where
  length := updates.length
  each i c c' place place' := by
    have updated := updates.at place place'
    rw [Nat.zero_add] at updated
    exact updated.answered

/-- A control that cannot be drawn ends the drawing, after those before it were updated. -/
theorem drawControls_of_failed {before : List Control} {c : Control} {fault : WidgetFault}
    (after : List Control)
    (earlier : ∀ i b, before[i]? = some b →
      ∃ kind?, (drawControl frame cell (index + i) b).outcome = .ok kind?)
    (failed : (drawControl frame cell (index + before.length) c).outcome = .error fault) :
    ∃ before', Updates frame index before before' ∧
      (drawControls frame cell index (before ++ c :: after)).controls = before' ++ c :: after ∧
      (drawControls frame cell index (before ++ c :: after)).outcome = .error fault := by
  induction before generalizing index with
  | nil =>
    refine ⟨[], .nil index, ?_⟩
    rw [List.length_nil, Nat.add_zero] at failed
    rw [List.nil_append, drawControls, failed]
    exact ⟨rfl, rfl⟩
  | cons b before ih =>
    obtain ⟨kind?, drawn⟩ := earlier 0 b rfl
    rw [Nat.add_zero] at drawn
    have next : ∀ i b, before[i]? = some b →
        ∃ kind?, (drawControl frame cell (index + 1 + i) b).outcome = .ok kind? := by
      intro i b place
      rw [Nat.add_right_comm, Nat.add_assoc]
      exact earlier (i + 1) b place
    rw [List.length_cons, ← Nat.add_assoc, Nat.add_right_comm] at failed
    -- the first control does not fail, so the failing one is met in the rest of the run
    obtain ⟨before', updates, controls, outcome⟩ := ih next failed
    refine ⟨_, .cons (updated_of_drawControl drawn).1 updates, ?_⟩
    rw [List.cons_append, drawControls, drawn]
    dsimp only
    rw [controls, outcome]
    exact ⟨rfl, rfl⟩

/-- For all controls and all answers. When the panel comes to its end, each control has the value
that its widget reports, converted and within its bounds, or is as it was without a report, and some
value changed just when some widget reports a change. When a control cannot be drawn, it and all
after it are as they were, and those before it have the values that their widgets report. -/
theorem draw_answered (frame : Frame) (cell : Value) (controls : List Control) :
    (∀ changed, (draw frame cell controls).outcome = .ok changed →
      Answered frame controls (draw frame cell controls).controls ∧
        (changed ↔ ∃ i c, controls[i]? = some c ∧ Widget.Reports (frame.cue i) c.kind)) ∧
      ∀ before c after fault, controls = before ++ c :: after →
        (∀ i b, before[i]? = some b →
          ∃ kind?, (drawControl frame cell i b).outcome = .ok kind?) →
        (drawControl frame cell before.length c).outcome = .error fault →
        (draw frame cell controls).outcome = .error fault ∧
          ∃ before', (draw frame cell controls).controls = before' ++ c :: after ∧
            Answered frame before before' := by
  constructor
  · intro changed done
    have ends := drawControls_ends frame cell 0 controls
    rw [drawControls_of_draw done, ← draw_controls] at ends
    generalize (draw frame cell controls).controls = controls' at ends ⊢
    cases ends with
    | done updates said =>
      simp only [Reports, Nat.zero_add] at said
      exact ⟨updates.answered, said⟩
  · rintro before c after fault rfl earlier failed
    have earlier : ∀ i b, before[i]? = some b →
        ∃ kind?, (drawControl frame cell (0 + i) b).outcome = .ok kind? := by
      simpa only [Nat.zero_add] using earlier
    have failed : (drawControl frame cell (0 + before.length) c).outcome = .error fault := by
      rwa [Nat.zero_add]
    obtain ⟨before', updates, same, outcome⟩ := drawControls_of_failed after earlier failed
    refine ⟨?_, before', draw_controls.trans same, updates.answered⟩
    unfold draw
    dsimp only
    rw [outcome]

/-- A frame in which the toolkit reports these values, by the index of the control, and no
others. -/
def reporting (reports : List (Nat × Value)) : Frame where
  cursor := (.float .zero, .float .zero)
  cue i := ⟨(reports.lookup i).isSome, reports.lookup i, false, none⟩
  clicked _ := false
  now := none

/-- A control in the first cell. -/
def placed (kind : Kind) : Control := ⟨.text "c", .text "", .int 0, .int 0, .int 1, .int 1, kind⟩

/-- A choice whose text is none of the items. -/
def unlisted : Control := placed (.dropdown (.text "z") (.tuple [.text "x", .text "y"]))

/-- An integer of three between bounds. -/
def counter (min max : Int) : Control := placed (.intEdit (.int 3) (.int min) (.int max))

/-- A colour that is not transparent and has no opacity to choose. -/
def tint : Control := placed (.color false (.color ⟨0, 0, 0, 0⟩) (.bool false))

/-- A report above the bounds, beside a text that is none of the items and stays; and a report that
is no integer, at which the panel ends. -/
theorem draw_answered_counter :
    let cell := Value.pair (.int 9) (.int 9)
    let whole := draw (reporting [(1, .int 50)]) cell [unlisted, counter 0 9]
    let broken := draw (reporting [(1, .text "x")]) cell [unlisted, counter 0 9]
    (whole.outcome = .ok true ∧ whole.controls[0]? = some unlisted ∧
      ∃ n, whole.controls[1]? = some ((counter 0 9).withValue (.int n)) ∧ 0 ≤ n ∧ n ≤ 9) ∧
      (∃ fault, broken.outcome = .error fault) ∧ broken.controls[1]? = some (counter 0 9) := by
  intro cell whole broken
  have done : whole.outcome = .ok true := Success.of_toOption (by decide +kernel)
  obtain ⟨ended, _⟩ := draw_answered (reporting [(1, .int 50)]) cell [unlisted, counter 0 9]
  obtain ⟨⟨length, each⟩, _⟩ := ended true done
  obtain ⟨_, halted⟩ := draw_answered (reporting [(1, .text "x")]) cell [unlisted, counter 0 9]
  have earlier : ∀ i b, [unlisted][i]? = some b →
      ∃ kind?, (drawControl (reporting [(1, .text "x")]) cell i b).outcome = .ok kind? := by
    intro i b place
    cases i with
    | zero =>
      cases place
      obtain ⟨kind?, drawn⟩ := Option.isSome_iff_exists.mp (show
        (drawControl (reporting [(1, .text "x")]) cell 0 unlisted).outcome.toOption.isSome by
          decide +kernel)
      exact ⟨kind?, Success.of_toOption drawn⟩
    | succ i => cases place
  obtain ⟨fault, failed⟩ := Success.error_of_toOption (show
    (drawControl (reporting [(1, .text "x")]) cell 1 (counter 0 9)).outcome.toOption = none by
      decide +kernel)
  obtain ⟨broke, before', same, answered⟩ := halted [unlisted] _ [] fault rfl earlier failed
  refine ⟨⟨done, ?_, ?_⟩, ⟨fault, broke⟩, ?_⟩
  · have inside : 0 < whole.controls.length := by rw [length]; decide
    have answered := each 0 _ _ rfl (List.getElem?_eq_getElem inside)
    rw [List.getElem?_eq_getElem inside, answered.silent (by rintro ⟨⟨⟩, _⟩)]
  · have inside : 1 < whole.controls.length := by rw [length]; decide
    have answered := each 1 _ _ rfl (List.getElem?_eq_getElem inside)
    obtain ⟨shown, v, _, _, bounded, same⟩ := answered.taken ⟨rfl, trivial⟩
    obtain ⟨n, rfl, above, below⟩ := bounded.int rfl rfl rfl (by decide)
    exact ⟨n, by rw [List.getElem?_eq_getElem inside, same], above, below⟩
  · have length : before'.length = 1 := answered.length
    rw [show broken.controls = _ from same, List.getElem?_append_right (by omega), length]
    rfl

/-- The colour that a control holds. -/
def shade? (c : Control) : Option Color :=
  match c.kind with
  | .color _ (.color shade) _ => some shade
  | _ => none

/-- A fourth fraction sets the transparency of a colour without an opacity to choose, and of bounds
that cross the lower one becomes the value, above the upper one. -/
theorem draw_unbounded :
    let cell := Value.pair (.int 9) (.int 9)
    let fractions := Value.list (List.replicate 4 (.float .zero))
    let drawn := draw (reporting [(0, fractions), (1, .int 3)]) cell [tint, counter 5 1]
    drawn.outcome = .ok true ∧
      drawn.controls.map shade? = [some ⟨0, 0, 0, 255⟩, none] ∧
      drawn.controls.map (fun c => c.value?.bind Value.number?) = [none, some (.int 5)] :=
  ⟨Success.of_toOption (by decide +kernel), by decide +kernel, by decide +kernel⟩

end Panel

end ScriptDialog
