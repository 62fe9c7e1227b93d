import ScriptDialog.Gui.Run
import ScriptDialog.Proofs.Gui.Frame

/-! What the event loop does to a dialog: one event draws one frame at most, and a frame that comes
to its end with a click presses the highest button with one, also after the loop was asked to end.
The window and what belongs to it stay open until the loop is left. -/
namespace ScriptDialog.Running

/-- A frame that was drawn, and what it did. -/
structure Shown where
  frame : Frame
  step : Gui.Step

/-- The frame came to its end. -/
def Shown.Completed (s : Shown) : Prop := ∃ pressed, s.step.outcome = .ok pressed

/-- The frame that an event draws; none while the window is off the list. -/
def shows (r : Running) : Event → Option Shown
  | .tick detach frame _ broken? =>
    if r.attached && !detach then
      some ⟨frame,
        (Gui.Request.draw frame (frame.now.getD r.clock) broken?).serve r.gui r.dialog⟩
    else none
  | _ => none

/-- The frames that are drawn before the loop is left, in order. -/
def frames (r : Running) : List Event → List Shown
  | [] => []
  | event :: events =>
    (r.shows event).toList ++
      match (r.handle event).2 with
      | some _ => []
      | none => frames (r.handle event).1 events

/-- What the loop leaves as it is. Its calls come after the earlier ones. -/
structure Keeps (r r' : Running) : Prop where
  host : r'.gui.host = r.gui.host
  closed : r'.gui.closed = r.gui.closed
  buttons : r'.dialog.buttons = r.dialog.buttons
  usesButtons : r'.dialog.usesButtons = r.dialog.usesButtons
  notices : r'.notices = r.notices
  calls : ∃ made, r'.calls = r.calls ++ made ∧ ∀ c ∈ made, c.inLoop r.dialog.usesButtons

variable {r r' r'' : Running} {event : Event} {events : List Event}

namespace Keeps

theorem refl (r : Running) : r.Keeps r := ⟨rfl, rfl, rfl, rfl, rfl, [], by simp, by simp⟩

theorem trans (first : r.Keeps r') (second : r'.Keeps r'') : r.Keeps r'' := by
  obtain ⟨made, same, inside⟩ := first.calls
  obtain ⟨made', same', inside'⟩ := second.calls
  rw [first.usesButtons] at inside'
  exact ⟨second.host.trans first.host, second.closed.trans first.closed,
    second.buttons.trans first.buttons, second.usesButtons.trans first.usesButtons,
    second.notices.trans first.notices, made ++ made', by rw [same', same, List.append_assoc],
    List.forall_mem_append.mpr ⟨inside, inside'⟩⟩

/-- Calls of the loop, and fields that nothing else depends on. -/
theorem log (calls : List Call) (inside : ∀ c ∈ calls, c.inLoop r.dialog.usesButtons)
    (clock : Double) (attached : Bool) :
    r.Keeps { r.log calls with clock := clock, attached := attached } :=
  ⟨rfl, rfl, rfl, rfl, rfl, calls, rfl, inside⟩

theorem exit (r : Running) : r.Keeps r.exit :=
  log [.exitLoop] (by simp [Call.inLoop]) r.clock r.attached

theorem draw {frame : Frame} {step : Gui.Step} (drawn : r.gui.Draws r.dialog frame step)
    (dt : Value) : r.Keeps { r.log (.drawWindow dt :: step.calls) with
      gui := step.gui, dialog := step.dialog, notices := r.notices ++ step.notices } := by
  cases drawn with
  | idle closed => exact ⟨rfl, rfl, rfl, rfl, by simp, [.drawWindow dt], rfl, by simp [Call.inLoop]⟩
  | failed _ _ _ inside | unpressed _ _ inside | pressed _ _ inside =>
    exact ⟨rfl, rfl, rfl, rfl, by simp, _, rfl, List.forall_mem_cons.mpr ⟨rfl, inside⟩⟩

end Keeps

/-- What an event, and the frame that it may draw, can do. -/
inductive Handles (r : Running) (shown : Option Shown) : Running → Option RunFault → Prop where
  /-- No frame, or one that presses nothing or fails. -/
  | unpressed {r' : Running} {fault? : Option RunFault} (keeps : r.Keeps r')
      (finished : r'.gui.finished = r.gui.finished) (pressed : r'.dialog.pressed = r.dialog.pressed)
      (unclicked : ∀ s ∈ shown, s.Completed → Gui.clicked? s.frame r.dialog = none) :
      Handles r shown r' fault?
  | pressed {r' : Running} {s : Shown} {i : Nat} (keeps : r.Keeps r') (here : shown = some s)
      (completed : s.Completed) (clicked : Gui.clicked? s.frame r.dialog = some i)
      (finished : r'.gui.finished) (holds : r'.dialog.pressed = some i) :
      Handles r shown r' none

theorem Handles.keeps {shown : Option Shown} {fault? : Option RunFault}
    (did : r.Handles shown r' fault?) : r.Keeps r' := by
  cases did with
  | unpressed keeps | pressed keeps => exact keeps

theorem Handles.behind {shown : Option Shown} {fault? : Option RunFault} (before : r.Keeps r')
    (dialog : r'.dialog = r.dialog) (gui : r'.gui = r.gui)
    (did : r'.Handles shown r'' fault?) : r.Handles shown r'' fault? := by
  cases did with
  | unpressed keeps finished pressed unclicked =>
    exact .unpressed (before.trans keeps) (gui ▸ finished) (dialog ▸ pressed) (dialog ▸ unclicked)
  | pressed keeps here completed clicked finished holds =>
    exact .pressed (before.trans keeps) here completed (dialog ▸ clicked) finished holds

theorem drawTick_handles (isOpen : r.gui.closed = false) (frame : Frame) (dt : Value)
    (broken? : Option (Nat × String)) :
    r.Handles
      (if r.attached then
        some ⟨frame, (Gui.Request.draw frame r.clock broken?).serve r.gui r.dialog⟩
      else none)
      (r.drawTick frame dt broken?).1 (r.drawTick frame dt broken?).2 := by
  have drawn := r.gui.draws_serve r.dialog frame r.clock broken?
  unfold drawTick
  split
  · generalize Gui.Request.serve r.gui r.dialog (.draw frame r.clock broken?) = step at drawn
    have keeps := Keeps.draw drawn dt
    cases drawn with
    | idle closed => exact absurd closed (by simp [isOpen])
    | failed time controls fault =>
      refine .unpressed keeps rfl rfl ?_
      rintro s ⟨⟩ ⟨_, ⟨⟩⟩
    | unpressed time controls _ unclicked =>
      refine .unpressed keeps rfl rfl ?_
      rintro s ⟨⟩ _
      exact unclicked
    | pressed time controls _ clicked =>
      exact .pressed (keeps.trans (.exit _)) rfl ⟨true, rfl⟩ clicked rfl rfl
  · exact .unpressed (.refl r) rfl rfl (by simp)

theorem handles (isOpen : r.gui.closed = false) (event : Event) :
    r.Handles (r.shows event) (r.handle event).1 (r.handle event).2 := by
  cases event with
  | fail text => exact .unpressed (.refl r) rfl rfl (by simp [shows])
  | close detach =>
    refine .unpressed (.trans ?_ (.exit _)) rfl rfl (by simp [shows])
    exact .log [.closeEvent] (by simp [Call.inLoop]) r.clock (r.attached && !detach)
  | tick detach frame dt broken? =>
    have before := Keeps.log (r := r) [.tickEvent] (by simp [Call.inLoop])
      (frame.now.getD r.clock) (r.attached && !detach)
    exact .behind before rfl rfl (drawTick_handles (r := { r.log [.tickEvent] with
      clock := frame.now.getD r.clock, attached := r.attached && !detach }) isOpen frame dt broken?)

theorem loop_cons (event : Event) (events : List Event) :
    r.loop (event :: events) =
      match (r.handle event).2 with
      | some fault => ((r.handle event).1, some fault)
      | none => (r.handle event).1.loop events := by
  rw [loop]
  rcases r.handle event with ⟨r', _ | fault⟩ <;> rfl

/-- How the loop ends: no frame has pressed a button, or the last one that came to its end with a
click has pressed the highest button that was clicked in it. -/
inductive Ends (r : Running) (drawn : List Shown) (r' : Running) : Prop where
  | unpressed (finished : r'.gui.finished = r.gui.finished)
      (pressed : r'.dialog.pressed = r.dialog.pressed)
      (unclicked : ∀ s ∈ drawn, s.Completed → Gui.clicked? s.frame r.dialog = none)
  | pressed (before : List Shown) {s : Shown} {i : Nat} (after : List Shown)
      (split : drawn = before ++ s :: after) (completed : s.Completed)
      (clicked : Gui.clicked? s.frame r.dialog = some i)
      (unclicked : ∀ s ∈ after, s.Completed → Gui.clicked? s.frame r.dialog = none)
      (finished : r'.gui.finished) (holds : r'.dialog.pressed = some i)

theorem clicked?_of_keeps (keeps : r.Keeps r') (frame : Frame) :
    Gui.clicked? frame r'.dialog = Gui.clicked? frame r.dialog := by
  rw [Gui.clicked?, Gui.clicked?, keeps.buttons, keeps.usesButtons]

/-- What an event does, and then what the rest of the loop does. -/
theorem Ends.behind {shown : Option Shown} {drawn : List Shown} (did : r.Handles shown r' none)
    (ends : r'.Ends drawn r'') : r.Ends (shown.toList ++ drawn) r'' := by
  have clicked? := clicked?_of_keeps did.keeps
  cases ends with
  | unpressed finished pressed unclicked =>
    simp only [clicked?] at unclicked
    cases did with
    | unpressed keeps finished' pressed' here =>
      refine .unpressed (finished.trans finished') (pressed.trans pressed') ?_
      exact List.forall_mem_append.mpr ⟨by simpa using here, unclicked⟩
    | pressed keeps here completed clicked finished' holds =>
      rw [here]
      exact .pressed [] drawn rfl completed clicked unclicked (finished.trans finished')
        (pressed.trans holds)
  | pressed before after split completed clicked unclicked finished holds =>
    simp only [clicked?] at clicked unclicked
    exact .pressed (shown.toList ++ before) after (by rw [split, List.append_assoc]) completed
      clicked unclicked finished holds

/-- The loop keeps what it must, and ends with the last button that is pressed. -/
theorem loop_ends (isOpen : r.gui.closed = false) (events : List Event) :
    r.Keeps (r.loop events).1 ∧ r.Ends (r.frames events) (r.loop events).1 := by
  induction events generalizing r with
  | nil => exact ⟨.refl r, .unpressed rfl rfl (by simp [frames])⟩
  | cons event events ih =>
    have did := handles isOpen event
    have keeps := did.keeps
    rw [loop_cons, frames]
    generalize r.handle event = handled at did keeps ⊢
    obtain ⟨r', _ | fault⟩ := handled
    · obtain ⟨keeps', ends⟩ := ih (keeps.closed.trans isOpen)
      exact ⟨keeps.trans keeps', ends.behind did⟩
    · cases did with
      | unpressed _ finished pressed unclicked =>
        exact ⟨keeps, .unpressed finished pressed (by simpa using unclicked)⟩

end ScriptDialog.Running

namespace ScriptDialog.Run

/-- The dialog as its event loop finds it. -/
def entered (gui : Gui) (d : Dialog) (now : Double) (calls : List Call) : Running :=
  ⟨gui, d, now, true, calls ++ [.runLoop], []⟩

variable {config : Config} {host : Host} {d : Dialog} {title : String} {fps : Value} {now : Double}
  {calls : List Call}

theorem dialog_of_unstarted {fault : RunFault}
    (unstarted : start config host d title fps now = ⟨calls, .error fault⟩) (events : List Event) :
    dialog config host d title fps now events = ⟨d, calls, [], .error fault⟩ := by
  rw [dialog, unstarted]

/-- What comes of a run once its loop is left: it fails, or the dialog is read back. -/
def result (r : Running) (fault? : Option RunFault) : Result :=
  let finished := r.finish.1
  match r.finish.2, fault? with
  | .error fault, _ => ⟨finished.dialog, finished.calls, finished.notices, .error (.gui fault)⟩
  | .ok (), some fault => ⟨finished.dialog, finished.calls, finished.notices, .error fault⟩
  | .ok (), none => ⟨finished.dialog, finished.calls,
      finished.notices ++ finished.dialog.readBackNotices,
      finished.dialog.readBack.mapError .control⟩

/-- Whatever the loop has come to, the dialog is finished. -/
theorem dialog_of_started {gui : Gui}
    (started : start config host d title fps now = ⟨calls, .ok gui⟩) (events : List Event) :
    dialog config host d title fps now events =
      result ((entered gui d now calls).loop events).1
        ((entered gui d now calls).loop events).2 := by
  rw [dialog, started]
  rfl

theorem dialog_result (r : Running) (fault? : Option RunFault) :
    (result r fault?).dialog = r.finish.1.dialog := by
  unfold result
  dsimp only
  split <;> rfl

theorem calls_result (r : Running) (fault? : Option RunFault) :
    (result r fault?).calls = r.finish.1.calls := by
  unfold result
  dsimp only
  split <;> rfl

end ScriptDialog.Run
