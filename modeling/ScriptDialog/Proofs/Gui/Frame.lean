import ScriptDialog.Gui.Broken
import ScriptDialog.Proofs.Toolkit.Performed

/-! What one frame can do, wherever the toolkit may fail in it: it may change values of controls,
and it presses a button if one is clicked and the frame comes to its end. It opens and closes
nothing but its own parts. -/
namespace ScriptDialog

/-- The calls of a running event loop. Nothing that outlives a frame is made or given up by them;
the row of buttons is drawn in a dialog that has one. -/
def Call.inLoop (buttons : Bool) : Call → Bool
  | .separator | .sameLine | .button _ => buttons
  | .createContext | .darkStyle | .destroyContext | .createRenderer | .newRenderer | .refreshFont
  | .shutdownRenderer | .openWindow .. | .moveWindow .. | .pushHandlers | .closeWindow | .schedule
  | .scheduleEvery _ | .unschedule | .runLoop => false
  | _ => true

variable {buttons : Bool}

/-- The calls that show a widget. -/
def Call.shows : Call → Bool
  | .text _ | .disabledText _ | .inputText .. | .inputTextArea .. | .inputInt .. | .inputFloat ..
  | .combo .. | .checkbox .. | .colorEdit .. => true
  | _ => false

/-- The calls between the id of a control and its end. -/
def Call.inControl : Call → Bool
  | .setCursor .. | .pushItemWidth _ | .popItemWidth | .askHovered | .setTooltip _ => true
  | c => c.shows

/-- The calls of the row of buttons. -/
def Call.inRow : Call → Bool
  | .separator | .sameLine | .button _ => true
  | _ => false

/-- The calls that tell the widget library of the time and the window. -/
def Call.syncs : Call → Bool
  | .deltaTime _ | .displaySize .. | .framebufferScale .. => true
  | _ => false

namespace Call

variable {c : Call}

theorem inControl_of_shows (shows : c.shows) : c.inControl := by
  cases c <;> first | rfl | cases shows

theorem inLoop_of_inControl (inside : c.inControl) : c.inLoop buttons := by
  cases c <;> first | rfl | cases inside

theorem inLoop_of_inRow (inside : c.inRow) : c.inLoop true := by
  cases c <;> first | rfl | cases inside

theorem inLoop_of_syncs (syncs : c.syncs) : c.inLoop buttons := by
  cases c <;> first | rfl | cases syncs

end Call

namespace Widget

open Performed

@[simp] theorem makes_ask {sort : Call → Prop} (cue : Cue) (c : Call) :
    (ask cue c).Makes sort ↔ sort c :=
  List.forall_mem_singleton

@[simp] theorem makes_fit {α : Type} {sort : Call → Prop} (x : Except ValueFault α) :
    (fit x).Makes sort :=
  makes_ofExcept _

@[simp] theorem makes_fitNumber {α : Type} {sort : Call → Prop} (x : Except NumberFault α) :
    (fitNumber x).Makes sort :=
  makes_ofExcept _

theorem makes_draw (cue : Cue) (c : Control) (width height : Double) :
    (draw cue c width height).Makes (·.shows) := by
  obtain ⟨name, hint, x, y, w, h, kind⟩ := c
  cases kind with
  | bare => exact makes_fail _
  | unformed => exact makes_fail _
  | label text =>
    exact .bind (makes_fitNumber _) fun text =>
      .bind ((makes_ask _ _).mpr rfl) fun _ => makes_pure _
  | edit multiline value =>
    refine .bind (makes_fitNumber _) fun text =>
      .bind ((makes_ask _ _).mpr ?_) fun _ => makes_pure _
    cases multiline <;> rfl
  | intEdit value min max =>
    refine .bind (makes_fitNumber _) fun current => .bind ((makes_ask _ _).mpr rfl) fun _ => ?_
    split
    · exact .bind (makes_fitNumber _) fun _ => makes_pure _
    · exact makes_pure _
  | floatEdit value min max step =>
    refine .bind ?_ fun size => .bind (makes_fitNumber _) fun current =>
      .bind ((makes_ask _ _).mpr rfl) fun _ => ?_
    · refine .bind (makes_fit _) fun positive => ?_
      split
      · exact makes_fitNumber _
      · exact makes_pure _
    · split
      · exact .bind (makes_fitNumber _) fun _ => makes_pure _
      · exact makes_pure _
  | dropdown value items =>
    refine .bind (makes_fit _) fun index => ?_
    split
    · exact .bind (makes_fitNumber _) fun text =>
        .bind ((makes_ask _ _).mpr rfl) fun _ => makes_pure _
    · refine .bind (makes_fit _) fun choices => .bind ((makes_ask _ _).mpr rfl) fun _ => ?_
      split
      · exact .bind (makes_fitNumber _) fun _ => .bind (makes_fit _) fun _ => makes_pure _
      · exact makes_pure _
  | checkbox label value =>
    exact .bind (makes_fitNumber _) fun text =>
      .bind ((makes_ask _ _).mpr rfl) fun _ => makes_pure _
  | color declared value alpha =>
    refine .bind (makes_fit _) fun base => .bind (makes_fitNumber _) fun channels =>
      .bind ((makes_ask _ _).mpr rfl) fun _ => ?_
    split
    · exact .bind (makes_fit _) fun _ => .bind (makes_ofExcept _) fun _ => makes_pure _
    · exact makes_pure _

end Widget

namespace Panel

open Performed

variable {frame : Frame} {cell : Value}

theorem makes_tooltip {sort : Call → Prop} {hint : Value} (cue : Cue) (asked : sort .askHovered)
    (set : sort (.setTooltip hint)) : (tooltip cue hint).Makes sort := by
  unfold tooltip
  split
  · refine .bind ((makes_call _).mpr asked) fun _ => ?_
    split
    · exact (makes_call _).mpr set
    · exact makes_pure _
  · exact makes_pure _

/-- The calls for a control stand between its id and the end of that. A control without a place
makes none. -/
theorem calls_drawControl (frame : Frame) (cell : Value) (index : Nat) (c : Control) :
    (drawControl frame cell index c).calls = [] ∧
        (∃ fault, (drawControl frame cell index c).outcome = .error fault) ∨
      ∃ inner : List Call, (drawControl frame cell index c).calls =
        .pushId (toString index) :: inner ++ [.popId] ∧ ∀ call ∈ inner, call.inControl := by
  unfold drawControl
  cases Layout.cellRect cell (.float Layout.defaultPadding) c with
  | error fault => exact .inl ⟨rfl, .unfit fault, rfl⟩
  | ok rect =>
    refine .inr ⟨_, calls_bracket _ _ _, ?_⟩
    refine Makes.bind (makes_ofExcept _) fun x => .bind (makes_ofExcept _) fun y =>
      .bind ((makes_call _).mpr rfl) fun _ => .bind ?_ fun kind? =>
        .bind (makes_tooltip _ rfl rfl) fun _ => makes_pure _
    rw [makes_bracket]
    exact ⟨rfl, (Widget.makes_draw _ _ _ _).imp fun _ => Call.inControl_of_shows, rfl⟩

theorem makes_drawControl (index : Nat) (c : Control) :
    (drawControl frame cell index c).Makes (·.inLoop buttons) := by
  rcases calls_drawControl frame cell index c with ⟨none, _⟩ | ⟨inner, whole, inside⟩
  · rw [Makes, none]
    exact List.forall_mem_nil _
  · rw [Makes, whole, List.cons_append, List.forall_mem_cons, List.forall_mem_append]
    exact ⟨rfl, fun call member => Call.inLoop_of_inControl (inside call member),
      List.forall_mem_singleton.mpr rfl⟩

theorem calls_drawControls (controls : List Control) (index : Nat) :
    ∀ c ∈ (drawControls frame cell index controls).calls, c.inLoop buttons := by
  induction controls generalizing index with
  | nil => simp [drawControls]
  | cons c controls ih =>
    unfold drawControls
    dsimp only
    split
    · exact makes_drawControl index c
    · exact List.forall_mem_append.mpr ⟨makes_drawControl index c, ih (index + 1)⟩

theorem calls_draw (controls : List Control) :
    ∀ c ∈ (draw frame cell controls).calls, c.inLoop buttons := by
  have inside : ∀ c ∈ (drawControls frame cell 0 controls).calls, c.inLoop buttons :=
    calls_drawControls controls 0
  unfold draw
  dsimp only
  split
  · exact List.forall_mem_cons.mpr ⟨rfl, inside⟩
  · split
    · exact List.forall_mem_cons.mpr ⟨rfl, inside⟩
    · rw [List.forall_mem_append, List.forall_mem_cons, List.forall_mem_singleton]
      exact ⟨⟨rfl, inside⟩, rfl⟩

end Panel

theorem Dialog.index?_of_lt {d : Dialog} {i : Nat} (inside : i < d.buttons.length) :
    d.index? (.int i) = some i := by
  simp [index?, Value.int, inside]

namespace Gui

open Performed

theorem makes_sync (g : Gui) (delta : Double) : (g.sync delta).Makes (·.syncs) :=
  .bind ((makes_call _).mpr rfl) fun _ => .bind (makes_ofExcept _) fun _ =>
    .bind (makes_ofExcept _) fun _ => .bind (makes_ofExcept _) fun _ =>
      .bind ((makes_call _).mpr rfl) fun _ => .bind (makes_ofExcept _) fun _ =>
        .bind (makes_ofExcept _) fun _ => (makes_call _).mpr rfl

theorem calls_rowCalls (buttons : List Button) : ∀ c ∈ Panel.rowCalls buttons, c.inRow := by
  unfold Panel.rowCalls
  rw [List.forall_mem_cons]
  refine ⟨rfl, fun c member => ?_⟩
  obtain ⟨part, place, inside⟩ := List.mem_flatten.mp member
  obtain ⟨i, _, rfl⟩ := List.mem_mapIdx.mp place
  unfold Panel.buttonCalls at inside
  rcases List.mem_append.mp inside with line | label
  · split at line
    · cases line
    · cases List.mem_singleton.mp line
      rfl
  · cases List.mem_singleton.mp label
    rfl

theorem calls_buttonRow (d : Dialog) :
    ∀ c ∈ buttonRow d, c.inRow ∧ c.inLoop d.usesButtons := by
  unfold buttonRow
  split
  · next used =>
    intro c member
    have inside := calls_rowCalls d.buttons c member
    rw [used]
    exact ⟨inside, Call.inLoop_of_inRow inside⟩
  · nofun

variable {g : Gui} {d : Dialog} {frame : Frame} {i j : Nat}

/-- A frame of the dialog reports a click on this button. -/
structure Reports (d : Dialog) (frame : Frame) (i : Nat) : Prop where
  used : d.usesButtons
  inside : i < d.buttons.length
  clicked : frame.clicked i

/-- The highest button with a click. -/
structure Highest (d : Dialog) (frame : Frame) (i : Nat) : Prop extends Reports d frame i where
  highest : ∀ j, Reports d frame j → j ≤ i

theorem Highest.unique (first : Highest d frame i) (second : Highest d frame j) : i = j :=
  Nat.le_antisymm (second.highest i first.toReports) (first.highest j second.toReports)

theorem mem_clicked_iff (used : d.usesButtons) (i : Nat) :
    i ∈ (List.range d.buttons.length).filter frame.clicked ↔ Reports d frame i := by
  rw [List.mem_filter, List.mem_range]
  exact ⟨fun ⟨inside, clicked⟩ => ⟨used, inside, clicked⟩,
    fun reported => ⟨reported.inside, reported.clicked⟩⟩

theorem highest_of_getLast? (used : d.usesButtons)
    (last : Panel.clickedButton? frame d.buttons = some i) : Highest d frame i := by
  obtain ⟨before, whole⟩ := List.getLast?_eq_some_iff.mp last
  have ordered : ((List.range d.buttons.length).filter frame.clicked).Pairwise (· < ·) :=
    List.pairwise_lt_range.filter _
  have listed (j : Nat) : j ∈ before ++ [i] ↔ Reports d frame j := by
    rw [← whole, mem_clicked_iff used]
  refine ⟨(listed i).mp (by simp), fun j reported => ?_⟩
  rw [whole, List.pairwise_append] at ordered
  rcases List.mem_append.mp ((listed j).mpr reported) with earlier | last
  · exact Nat.le_of_lt (ordered.2.2 j earlier i (by simp))
  · exact Nat.le_of_eq (List.mem_singleton.mp last)

theorem clicked?_eq_none_iff : clicked? frame d = none ↔ ∀ i, ¬ Reports d frame i := by
  unfold clicked?
  split
  · next used =>
    rw [Panel.clickedButton?, List.getLast?_eq_none_iff, List.eq_nil_iff_forall_not_mem]
    simp only [mem_clicked_iff used]
  · next unused => exact iff_of_true rfl fun i reported => unused reported.used

/-- The button that is pressed is the highest one with a click. -/
theorem clicked?_eq_some_iff : clicked? frame d = some i ↔ Highest d frame i := by
  have sound (j : Nat) (last : clicked? frame d = some j) : Highest d frame j := by
    unfold clicked? at last
    split at last
    · next used => exact highest_of_getLast? used last
    · cases last
  refine ⟨sound i, fun highest => ?_⟩
  cases last : clicked? frame d with
  | none => exact absurd highest.toReports (clicked?_eq_none_iff.mp last i)
  | some j => rw [(sound j last).unique highest]

/-- What a frame can do. -/
inductive Draws (g : Gui) (d : Dialog) (frame : Frame) : Step → Prop where
  | idle (closed : g.closed) : Draws g d frame ⟨g, d, [], [], .ok false⟩
  | failed (time : Double) (controls : List Control) {calls : List Call} (fault : GuiFault)
      (inside : ∀ c ∈ calls, c.inLoop d.usesButtons) :
      Draws g d frame
        ⟨{ g with lastFrame := time }, { d with controls := controls }, calls, [], .error fault⟩
  | unpressed (time : Double) (controls : List Control) {calls : List Call}
      (inside : ∀ c ∈ calls, c.inLoop d.usesButtons) (unclicked : clicked? frame d = none) :
      Draws g d frame
        ⟨{ g with lastFrame := time }, { d with controls := controls }, calls, [], .ok false⟩
  | pressed (time : Double) (controls : List Control) {calls : List Call} {i : Nat}
      (inside : ∀ c ∈ calls, c.inLoop d.usesButtons) (clicked : clicked? frame d = some i) :
      Draws g d frame ⟨{ g with lastFrame := time, finished := true },
        { d with controls := controls, pressed := some i }, calls, [], .ok true⟩

theorem draws (g : Gui) (d : Dialog) (frame : Frame) (now : Double) :
    g.Draws d frame (g.drawFrame d frame now) := by
  have synced : (g.sync (now.sub g.lastFrame)).Makes (·.inLoop d.usesButtons) :=
    (makes_sync g _).imp fun _ => Call.inLoop_of_syncs
  have drawn : ∀ c ∈ (Panel.draw frame g.cell d.controls).calls, c.inLoop d.usesButtons :=
    Panel.calls_draw d.controls
  have row : ∀ c ∈ buttonRow d, c.inLoop d.usesButtons :=
    fun c member => (calls_buttonRow d c member).2
  unfold drawFrame
  split
  · next closed => exact .idle closed
  · dsimp only
    split
    · exact .failed g.lastFrame d.controls _ (List.forall_mem_cons.mpr ⟨rfl, synced⟩)
    · have before : ∀ c ∈ .setContext :: (g.sync (now.sub g.lastFrame)).calls ++
          ({ g with lastFrame := now } : Gui).opening ++ (Panel.draw frame g.cell d.controls).calls,
          c.inLoop d.usesButtons := by
        rw [List.forall_mem_append, List.forall_mem_append, List.forall_mem_cons]
        exact ⟨⟨⟨rfl, synced⟩, by simp [opening, Call.inLoop]⟩, drawn⟩
      have whole := List.forall_mem_append.mpr ⟨List.forall_mem_append.mpr ⟨before, row⟩,
        (show ∀ c ∈ .endWindow :: presenting, c.inLoop d.usesButtons by
          simp [presenting, background, Call.inLoop])⟩
      split
      · refine .failed now _ _ (List.forall_mem_append.mpr ⟨before, ?_⟩)
        exact List.forall_mem_singleton.mpr rfl
      · split
        · next unclicked => exact .unpressed now _ whole unclicked
        · next i clicked =>
          have inside := (clicked?_eq_some_iff.mp clicked).inside
          have index := Dialog.index?_of_lt inside
          simp only [Dialog.push, Dialog.pushNotices, index]
          exact .pressed now _ whole clicked

theorem Draws.inside {s : Step} (drawn : g.Draws d frame s) :
    ∀ c ∈ s.calls, c.inLoop d.usesButtons := by
  cases drawn with
  | idle closed => exact List.forall_mem_nil _
  | failed _ _ _ inside | unpressed _ _ inside | pressed _ _ inside => exact inside

theorem inLoop_of_due {buttons : Bool} (calls endings : List Call)
    (inside : ∀ c ∈ endings, c.inLoop buttons) :
    ∀ c ∈ calls.foldl Call.due endings, c.inLoop buttons := by
  induction calls generalizing endings with
  | nil => exact inside
  | cons c calls ih =>
    refine ih _ ?_
    unfold Call.due
    split
    · next ending here =>
      refine List.forall_mem_cons.mpr ⟨?_, inside⟩
      cases c <;> cases here <;> rfl
    · split
      · exact fun c member => inside c (List.mem_of_mem_tail member)
      · exact inside

/-- A frame that is broken off presses nothing, even if a click was seen in it. -/
theorem draws_drawBroken (g : Gui) (d : Dialog) (frame : Frame) (now : Double) (place : Nat)
    (text : String) : g.Draws d frame (g.drawBroken d frame now place text) := by
  have drawn := g.draws d frame now
  unfold drawBroken
  dsimp only
  split
  · exact drawn
  · next c here =>
    have inside := drawn.inside
    refine .failed _ _ _ ?_
    refine List.forall_mem_append.mpr ⟨fun c member => inside c (List.mem_of_mem_take member),
      List.forall_mem_cons.mpr ⟨inside c (List.mem_of_getElem? here), ?_⟩⟩
    exact inLoop_of_due _ [] (List.forall_mem_nil _)

theorem draws_serve (g : Gui) (d : Dialog) (frame : Frame) (now : Double)
    (broken? : Option (Nat × String)) :
    g.Draws d frame (Request.serve g d (.draw frame now broken?)) := by
  cases broken? with
  | none => exact g.draws d frame now
  | some broken => exact g.draws_drawBroken d frame now broken.1 broken.2

end Gui

end ScriptDialog
