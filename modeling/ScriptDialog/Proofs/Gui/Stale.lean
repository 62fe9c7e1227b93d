import ScriptDialog.Proofs.Gui.Released

/-! A button pressed before a run. It stays until one is pressed in the loop or the loop is left,
and changes nothing else. -/
namespace ScriptDialog

/-- The dialog with another button pressed. -/
def Dialog.withPressed (d : Dialog) (pressed : Option Nat) : Dialog := { d with pressed := pressed }

variable {pressed : Option Nat}

/-- The step with another button pressed beforehand; the frame's own press goes before it. -/
def Gui.Step.withPressed (s : Gui.Step) (pressed : Option Nat) : Gui.Step :=
  if s.gui.finished then s else { s with dialog := s.dialog.withPressed pressed }

theorem Gui.drawFrame_withPressed {g : Gui} (unfinished : g.finished = false) (d : Dialog)
    (frame : Frame) (now : Double) (pressed : Option Nat) :
    g.drawFrame (d.withPressed pressed) frame now =
      (g.drawFrame d frame now).withPressed pressed := by
  -- nothing but the read-back looks at the pressed button
  have clicks (controls : List Control) (pressed : Option Nat) :
      clicked? frame ⟨controls, d.buttons, d.usesButtons, pressed⟩ = clicked? frame d := rfl
  have row (controls : List Control) (pressed : Option Nat) :
      buttonRow ⟨controls, d.buttons, d.usesButtons, pressed⟩ = buttonRow d := rfl
  have index (controls : List Control) (pressed : Option Nat) (v : Value) :
      (⟨controls, d.buttons, d.usesButtons, pressed⟩ : Dialog).index? v = d.index? v := rfl
  have notices (controls : List Control) (pressed : Option Nat) (v : Value) :
      (⟨controls, d.buttons, d.usesButtons, pressed⟩ : Dialog).pushNotices v =
        d.pushNotices v := rfl
  cases closed : g.closed with
  | true => simp [drawFrame, closed, Step.withPressed, unfinished]
  | false =>
    cases synced : (g.sync (now.sub g.lastFrame)).outcome with
    | error fault => simp [drawFrame, closed, synced, Step.withPressed, unfinished]
    | ok u =>
      cases drawn : (Panel.draw frame g.cell d.controls).outcome with
      | error fault =>
        simp [drawFrame, closed, synced, drawn, Step.withPressed, unfinished, Dialog.withPressed]
      | ok changed =>
        cases clicked : clicked? frame d with
        | none =>
          simp [drawFrame, closed, synced, drawn, clicks, clicked, Step.withPressed, unfinished,
            Dialog.withPressed, row]
        | some i =>
          simp [drawFrame, closed, synced, drawn, clicks, clicked, Step.withPressed,
            Dialog.withPressed, row, Dialog.push, index, notices]

namespace Gui

@[simp] theorem Step.calls_withPressed (s : Step) : (s.withPressed pressed).calls = s.calls := by
  unfold withPressed
  split <;> rfl

@[simp] theorem Step.controls_withPressed (s : Step) :
    (s.withPressed pressed).dialog.controls = s.dialog.controls := by
  unfold withPressed
  split <;> rfl

theorem drawBroken_withPressed {g : Gui} (unfinished : g.finished = false) (d : Dialog)
    (frame : Frame) (now : Double) (place : Nat) (text : String) (pressed : Option Nat) :
    g.drawBroken (d.withPressed pressed) frame now place text =
      (g.drawBroken d frame now place text).withPressed pressed := by
  simp only [drawBroken, drawFrame_withPressed unfinished, Step.calls_withPressed,
    Step.controls_withPressed]
  cases (g.drawFrame d frame now).calls[place]? with
  | none => rfl
  | some c => exact (if_neg (by simp [unfinished])).symm

theorem serve_withPressed {g : Gui} (unfinished : g.finished = false) (d : Dialog)
    (frame : Frame) (now : Double) (broken? : Option (Nat × String)) (pressed : Option Nat) :
    Request.serve g (d.withPressed pressed) (.draw frame now broken?) =
      (Request.serve g d (.draw frame now broken?)).withPressed pressed := by
  cases broken? with
  | none => exact drawFrame_withPressed unfinished d frame now pressed
  | some broken => exact drawBroken_withPressed unfinished d frame now broken.1 broken.2 pressed

end Gui

namespace Running

/-- The loop with another button pressed before it. -/
def withPressed (r : Running) (pressed : Option Nat) : Running :=
  if r.gui.finished then r else { r with dialog := r.dialog.withPressed pressed }

variable {r : Running}

theorem withPressed_of_finished (finished : r.gui.finished) : r.withPressed pressed = r :=
  if_pos finished

theorem withPressed_of_unfinished (unfinished : r.gui.finished = false) :
    r.withPressed pressed = { r with dialog := r.dialog.withPressed pressed } :=
  if_neg (by simp [unfinished])

theorem drawTick_withPressed (unfinished : r.gui.finished = false) (frame : Frame) (dt : Value)
    (broken? : Option (Nat × String)) :
    (r.withPressed pressed).drawTick frame dt broken? =
      ((r.drawTick frame dt broken?).1.withPressed pressed, (r.drawTick frame dt broken?).2) := by
  rw [withPressed_of_unfinished unfinished]
  by_cases attached : r.attached
  · have step := Gui.serve_withPressed unfinished r.dialog frame r.clock broken? pressed
    simp only [drawTick, attached, if_true, step]
    generalize Gui.Request.serve r.gui r.dialog (.draw frame r.clock broken?) = step
    rcases outcome : step.outcome with fault | (_ | _) <;> cases finished : step.gui.finished <;>
      simp [Gui.Step.withPressed, finished, outcome, withPressed, log, exit, attached]
  · simp [drawTick, attached, withPressed_of_unfinished unfinished]

theorem handle_withPressed (unfinished : r.gui.finished = false) (event : Event) :
    (r.withPressed pressed).handle event =
      ((r.handle event).1.withPressed pressed, (r.handle event).2) := by
  cases event with
  | fail text => rfl
  | close detach => simp [handle, withPressed, unfinished, detachIf, log, exit]
  | tick detach frame dt broken? =>
    let ticked := { (r.detachIf detach).log [.tickEvent] with clock := frame.now.getD r.clock }
    have same : (r.withPressed pressed).handle (.tick detach frame dt broken?) =
        (ticked.withPressed pressed).drawTick frame dt broken? := by
      rw [withPressed_of_unfinished unfinished, withPressed_of_unfinished (r := ticked) unfinished]
      rfl
    rw [same]
    exact drawTick_withPressed (r := ticked) unfinished frame dt broken?

theorem Ends.finished {drawn : List Shown} {r' : Running} (ends : r.Ends drawn r')
    (finished : r.gui.finished) : r'.gui.finished := by
  cases ends with
  | unpressed same => exact same.trans finished
  | pressed _ _ _ _ _ _ finished => exact finished

/-- Once a button is pressed in the loop, the one from before is forgotten. -/
theorem loop_withPressed (isOpen : r.gui.closed = false) (pressed : Option Nat)
    (events : List Event) :
    (r.withPressed pressed).loop events =
      ((r.loop events).1.withPressed pressed, (r.loop events).2) := by
  induction events generalizing r with
  | nil => rfl
  | cons event events ih =>
    cases finished : r.gui.finished with
    | true =>
      have ends := (loop_ends isOpen (event :: events)).2
      rw [withPressed_of_finished finished, withPressed_of_finished (ends.finished finished)]
    | false =>
      have keeps := (handles isOpen event).keeps
      rw [loop_cons, loop_cons, handle_withPressed finished]
      generalize r.handle event = handled at keeps ⊢
      obtain ⟨r', _ | fault⟩ := handled
      · exact ih (keeps.closed.trans isOpen)
      · rfl

theorem finish_withPressed : (r.withPressed pressed).finish = r.finish := by
  cases finished : r.gui.finished with
  | true => rw [withPressed_of_finished finished]
  | false =>
    rw [withPressed_of_unfinished finished]
    simp only [finish, closingNotices, finished]
    rfl

end Running

/-- A run does not depend on a button pressed before it, unless it fails before its event loop. -/
theorem Run.dialog_withPressed (config : Config) (host : Host) (d : Dialog) (title : String)
    (fps : Value) (now : Double) (events : List Event) (pressed : Option Nat)
    (begun : (start config host d title fps now).outcome.isOk) :
    dialog config host (d.withPressed pressed) title fps now events =
      dialog config host d title fps now events := by
  have starts := starts config host d title fps now
  generalize started : start config host d title fps now = p at starts begun
  cases starts with
  | unopened | unready => cases begun
  | @started calls gui size sized opens ready acquired sameHost isOpen unfinished =>
    have loops := Running.loop_withPressed (r := entered gui d now calls) isOpen pressed events
    rw [Running.withPressed_of_unfinished unfinished] at loops
    change (entered gui (d.withPressed pressed) now calls).loop events = _ at loops
    rw [dialog_of_started started, dialog_of_started (d := d.withPressed pressed) started, loops]
    simp only [result, Running.finish_withPressed]

end ScriptDialog
