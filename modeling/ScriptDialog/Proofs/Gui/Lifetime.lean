import ScriptDialog.Proofs.Gui.Released

/-! The life of a dialog on the screen, from its making on: frames are drawn until it is closed,
and may fail at any call. What it holds is given up once, when it is closed, and from then on it
rests. -/
namespace ScriptDialog

/-- What a dialog on the screen holds until it is closed. -/
inductive Holding where
  | renderer
  | context
  | window
  deriving DecidableEq

/-- What a call gives up. -/
def Call.givesUp? : Call → Option Holding
  | .shutdownRenderer => some .renderer
  | .destroyContext => some .context
  | .closeWindow => some .window
  | _ => none

/-- What calls give up, in order. -/
def givenUp (calls : List Call) : List Holding := calls.filterMap Call.givesUp?

theorem Call.givesUp?_of_inLoop {buttons : Bool} {c : Call} (here : c.inLoop buttons) :
    c.givesUp? = none := by
  cases c <;> first | rfl | exact nomatch here

theorem givenUp_of_inLoop {buttons : Bool} {calls : List Call}
    (inside : ∀ c ∈ calls, c.inLoop buttons) : givenUp calls = [] :=
  List.filterMap_eq_nil_iff.mpr fun c member => Call.givesUp?_of_inLoop (inside c member)

theorem givenUp_append (calls calls' : List Call) :
    givenUp (calls ++ calls') = givenUp calls ++ givenUp calls' :=
  List.filterMap_append

namespace Gui

variable {g : Gui} {d : Dialog} {frame : Frame} {now : Double}

/-- What the dialog holds on a host. A renderer need not be one that can be shut down. -/
def holdings (host : Host) : List Holding :=
  (if host.shutsDown then [.renderer] else []) ++ [.context, .window]

theorem givenUp_closing (host : Host) : givenUp (closing host) = holdings host := by
  unfold closing holdings
  cases host.shutsDown <;> rfl

theorem drawFrame_closed_eq (closed : g.closed) (d : Dialog) (frame : Frame) (now : Double) :
    g.drawFrame d frame now = ⟨g, d, [], [], .ok false⟩ := by
  rw [drawFrame, if_pos closed]

/-- What a dialog on the screen can do when it is asked, until it is closed. -/
inductive Serves (g : Gui) (d : Dialog) : Request → Step → Prop where
  | closes : Serves g d .close ⟨{ g with closed := true }, d, closing g.host, [], .ok false⟩
  /-- A frame that presses nothing or fails. -/
  | unpressed {frame : Frame} {now : Double} {broken? : Option (Nat × String)} (time : Double)
      (controls : List Control) {calls : List Call} {outcome : Except GuiFault Bool}
      (inside : ∀ c ∈ calls, c.inLoop d.usesButtons) (unpressed : outcome ≠ .ok true) :
      Serves g d (.draw frame now broken?)
        ⟨{ g with lastFrame := time }, { d with controls := controls }, calls, [], outcome⟩
  | pressed {frame : Frame} {now : Double} {broken? : Option (Nat × String)} (time : Double)
      (controls : List Control) {calls : List Call} {i : Nat}
      (inside : ∀ c ∈ calls, c.inLoop d.usesButtons) (clicked : clicked? frame d = some i) :
      Serves g d (.draw frame now broken?) ⟨{ g with lastFrame := time, finished := true },
        { d with controls := controls, pressed := some i }, calls, [], .ok true⟩

theorem Draws.serves {s : Step} (drawn : g.Draws d frame s) (isOpen : g.closed = false)
    (now : Double) (broken? : Option (Nat × String)) : g.Serves d (.draw frame now broken?) s := by
  cases drawn with
  | idle closed => exact absurd closed (by simp [isOpen])
  | failed time controls fault inside => exact .unpressed time controls inside nofun
  | unpressed time controls inside unclicked => exact .unpressed time controls inside nofun
  | pressed time controls inside clicked => exact .pressed time controls inside clicked

theorem serves (isOpen : g.closed = false) (d : Dialog) (r : Request) :
    g.Serves d r (r.serve g d) := by
  cases r with
  | draw frame now broken? => exact (g.draws_serve d frame now broken?).serves isOpen now broken?
  | close =>
    have same : Request.close.serve g d =
        ⟨{ g with closed := true }, d, closing g.host, [], .ok false⟩ := by
      simp only [Request.serve, close, isOpen]
      rfl
    rw [same]
    exact .closes

/-- A closed dialog rests, whatever it is asked. -/
theorem serve_closed (closed : g.closed) (d : Dialog) (r : Request) :
    r.serve g d = ⟨g, d, [], [], .ok false⟩ := by
  cases r with
  | draw frame now broken? =>
    have idle := drawFrame_closed_eq closed d frame now
    cases broken? with
    | none => exact idle
    | some broken =>
      simp only [Request.serve, drawBroken, idle]
      rfl
  | close => simp only [Request.serve, close, if_pos closed]

/-- A request, and what was done. -/
structure Turn where
  request : Request
  step : Step

/-- What is done for requests, in order. -/
def turns (g : Gui) (d : Dialog) : List Request → List Turn
  | [] => []
  | r :: requests =>
    let s := r.serve g d
    ⟨r, s⟩ :: turns s.gui s.dialog requests

/-- The dialog on the screen, and the dialog itself, after requests. -/
def after (g : Gui) (d : Dialog) : List Request → Gui × Dialog
  | [] => (g, d)
  | r :: requests =>
    let s := r.serve g d
    after s.gui s.dialog requests

/-- The calls that are made for requests. -/
def callsFor (g : Gui) (d : Dialog) (requests : List Request) : List Call :=
  (turns g d requests).flatMap (·.step.calls)

variable {requests : List Request}

theorem after_append (before behind : List Request) :
    after g d (before ++ behind) = after (after g d before).1 (after g d before).2 behind := by
  induction before generalizing g d with
  | nil => rfl
  | cons r before ih => exact ih

theorem turns_closed (closed : g.closed) (d : Dialog) (requests : List Request) :
    ∀ t ∈ turns g d requests, t.step = ⟨g, d, [], [], .ok false⟩ := by
  induction requests with
  | nil => exact List.forall_mem_nil _
  | cons r requests ih =>
    simp only [turns, serve_closed closed]
    exact List.forall_mem_cons.mpr ⟨rfl, ih⟩

theorem after_closed (closed : g.closed) (d : Dialog) (requests : List Request) :
    after g d requests = (g, d) := by
  induction requests with
  | nil => rfl
  | cons r requests ih =>
    simp only [after, serve_closed closed]
    exact ih

theorem callsFor_closed (closed : g.closed) (d : Dialog) (requests : List Request) :
    callsFor g d requests = [] := by
  refine List.flatMap_eq_nil_iff.mpr fun t member => ?_
  rw [turns_closed closed d requests t member]

/-- Closing a dialog does nothing to the dialog itself. -/
theorem serve_close (g : Gui) (d : Dialog) : (Request.serve g d .close).gui.closed ∧
    (Request.serve g d .close).gui.finished = g.finished ∧
      (Request.serve g d .close).dialog = d := by
  cases closed : g.closed with
  | true =>
    rw [serve_closed closed]
    exact ⟨closed, rfl, rfl⟩
  | false =>
    have did := serves closed d .close
    generalize Request.serve g d .close = s at did ⊢
    cases did
    exact ⟨rfl, rfl, rfl⟩

/-- What it holds a dialog on the screen gives up when it is closed, and not before. -/
theorem givenUp_callsFor (isOpen : g.closed = false) (d : Dialog) (requests : List Request) :
    (.close ∉ requests → givenUp (callsFor g d requests) = []) ∧
      (.close ∈ requests → givenUp (callsFor g d requests) = holdings g.host) := by
  induction requests generalizing g d with
  | nil => exact ⟨fun _ => rfl, nofun⟩
  | cons r requests ih =>
    have did := serves isOpen d r
    have whole : callsFor g d (r :: requests) =
        (r.serve g d).calls ++ callsFor (r.serve g d).gui (r.serve g d).dialog requests := rfl
    rw [whole, givenUp_append]
    generalize r.serve g d = s at did ⊢
    cases did with
    | closes =>
      refine ⟨fun absent => absurd List.mem_cons_self absent, fun _ => ?_⟩
      rw [callsFor_closed rfl, givenUp_closing]
      exact List.append_nil _
    | unpressed time controls inside =>
      rw [givenUp_of_inLoop inside, List.nil_append]
      simpa using ih (g := { g with lastFrame := time }) isOpen { d with controls := controls }
    | @pressed _ _ _ time controls _ i inside =>
      rw [givenUp_of_inLoop inside, List.nil_append]
      simpa using ih (g := { g with lastFrame := time, finished := true }) isOpen
        { d with controls := controls, pressed := some i }

/-- A dialog that is finished stays so. -/
theorem finished_after (finished : g.finished) (d : Dialog) (requests : List Request) :
    (after g d requests).1.finished := by
  induction requests generalizing g d with
  | nil => exact finished
  | cons r requests ih =>
    refine ih ?_ _
    cases closed : g.closed with
    | true => rwa [serve_closed closed]
    | false =>
      have did := serves closed d r
      generalize r.serve g d = s at did ⊢
      cases did with
      | closes | unpressed => exact finished
      | pressed => rfl

/-- Nothing is pressed once a dialog is closed. -/
theorem open_before {before behind : List Turn} {t : Turn}
    (split : turns g d requests = before ++ t :: behind) (pressed : t.step.outcome = .ok true) :
    ∀ t' ∈ before, t'.request ≠ .close := by
  induction requests generalizing g d before with
  | nil => exact absurd split.symm (by simp [turns])
  | cons r requests ih =>
    cases before with
    | nil => exact List.forall_mem_nil _
    | cons first before =>
      obtain ⟨rfl, rest⟩ := List.cons.inj split
      refine List.forall_mem_cons.mpr ⟨?_, ih rest⟩
      rintro rfl
      have member :
          t ∈ turns (Request.serve g d .close).gui (Request.serve g d .close).dialog requests := by
        simp [rest]
      have rests := turns_closed (serve_close g d).1 _ requests t member
      rw [rests] at pressed
      cases pressed

theorem Highest.congr {d' : Dialog} {i : Nat} (buttons : d'.buttons = d.buttons)
    (uses : d'.usesButtons = d.usesButtons) (highest : Highest d frame i) :
    Highest d' frame i := by
  rw [← clicked?_eq_some_iff, clicked?, buttons, uses]
  exact clicked?_eq_some_iff.mpr highest

/-- The last frame that says that a button was pressed, and the highest button with a click in
it. -/
def LastPress (d : Dialog) (done : List Turn) (i : Nat) : Prop :=
  ∃ before t behind frame now broken?, done = before ++ t :: behind ∧
    t.request = .draw frame now broken? ∧ t.step.outcome = .ok true ∧ Highest d frame i ∧
    ∀ t' ∈ behind, t'.step.outcome ≠ .ok true

theorem LastPress.behind {d' : Dialog} {done : List Turn} {i : Nat} (last : LastPress d' done i)
    (t : Turn) (buttons : d.buttons = d'.buttons) (uses : d.usesButtons = d'.usesButtons) :
    LastPress d (t :: done) i := by
  obtain ⟨before, t', behind, frame, now, broken?, rfl, asked, pressed, highest, silent⟩ := last
  exact ⟨t :: before, t', behind, frame, now, broken?, rfl, asked, pressed,
    highest.congr buttons uses, silent⟩

/-- Where requests leave the pressed button: as it was, or at the last press. -/
inductive Leaves (g : Gui) (d : Dialog) (done : List Turn) (left : Gui × Dialog) : Prop where
  | unpressed (silent : ∀ t ∈ done, t.step.outcome ≠ .ok true)
      (finished : left.1.finished = g.finished) (pressed : left.2.pressed = d.pressed)
  | pressed {i : Nat} (last : LastPress d done i) (finished : left.1.finished)
      (pressed : left.2.pressed = some i)

theorem leaves (isOpen : g.closed = false) (d : Dialog) (requests : List Request) :
    Leaves g d (turns g d requests) (after g d requests) := by
  induction requests generalizing g d with
  | nil => exact .unpressed (List.forall_mem_nil _) rfl rfl
  | cons r requests ih =>
    have did := serves isOpen d r
    rw [turns, after]
    generalize r.serve g d = s at did ⊢
    cases did with
    | closes =>
      have rests := turns_closed (g := { g with closed := true }) rfl d requests
      refine .unpressed (List.forall_mem_cons.mpr ⟨nofun, fun t member => ?_⟩) ?_ ?_
      · rw [rests t member]
        nofun
      · rw [after_closed rfl]
      · rw [after_closed rfl]
    | unpressed time controls inside unpressed =>
      cases ih (g := { g with lastFrame := time }) isOpen { d with controls := controls } with
      | unpressed silent finished pressed =>
        exact .unpressed (List.forall_mem_cons.mpr ⟨unpressed, silent⟩) finished pressed
      | pressed last finished pressed => exact .pressed (last.behind _ rfl rfl) finished pressed
    | @pressed frame now broken? time controls calls i inside clicked =>
      cases ih (g := { g with lastFrame := time, finished := true }) isOpen
          { d with controls := controls, pressed := some i } with
      | unpressed silent finished pressed =>
        exact .pressed ⟨[], _, _, frame, now, broken?, rfl, rfl, rfl,
          clicked?_eq_some_iff.mp clicked, silent⟩ finished pressed
      | pressed last finished pressed => exact .pressed (last.behind _ rfl rfl) finished pressed

/-- What holds of a dialog on the screen, whatever it is asked. -/
structure Lives (g : Gui) (d : Dialog) (requests : List Request) : Prop where
  /-- Until it is closed nothing is given up. -/
  held : .close ∉ requests → givenUp (callsFor g d requests) = []
  /-- As soon as it is closed everything has been given up, and nothing twice. -/
  givenUp : .close ∈ requests → givenUp (callsFor g d requests) = holdings g.host
  /-- From then on nothing is called and nothing changes. -/
  rests : ∀ before behind, requests = before ++ .close :: behind →
    let left := after g d (before ++ [.close])
    (left.2 = (after g d before).2 ∧ left.1.finished = (after g d before).1.finished) ∧
      ∀ t ∈ turns left.1 left.2 behind, t.step = ⟨left.1, left.2, [], [], .ok false⟩
  /-- What is finished stays so. -/
  stays : ∀ before behind, requests = before ++ behind →
    (after g d before).1.finished → (after g d requests).1.finished
  /-- It is finished by a frame that says so, before it is closed. -/
  finished : (after g d requests).1.finished ↔ ∃ before t behind,
    turns g d requests = before ++ t :: behind ∧ (∀ t' ∈ before, t'.request ≠ .close) ∧
      t.step.outcome = .ok true
  /-- The last such frame has pressed the button. -/
  pressed : (after g d requests).1.finished →
    ∃ i, LastPress d (turns g d requests) i ∧ (after g d requests).2.pressed = some i
  unpressed : (after g d requests).1.finished = false →
    (after g d requests).2.pressed = d.pressed

theorem fresh_of_create {host : Host} {window : Window} {cell : Value} {title : String}
    (made : (create host window cell title now).outcome = .ok g) :
    g.host = host ∧ g.closed = false ∧ g.finished = false := by
  obtain ⟨_, _, made⟩ := Performed.outcome_of_bind made
  obtain ⟨_, _, made⟩ := Performed.outcome_of_bind made
  obtain ⟨_, _, made⟩ := Performed.outcome_of_bind made
  obtain ⟨_, _, made⟩ := Performed.outcome_of_bind made
  cases made
  exact ⟨rfl, rfl, rfl⟩

theorem finished_iff (isOpen : g.closed = false) (unfinished : g.finished = false) (d : Dialog)
    (requests : List Request) : (after g d requests).1.finished ↔ ∃ before t behind,
      turns g d requests = before ++ t :: behind ∧ (∀ t' ∈ before, t'.request ≠ .close) ∧
        t.step.outcome = .ok true := by
  have left := leaves isOpen d requests
  constructor
  · intro finished
    cases left with
    | unpressed silent same => exact absurd (same.symm.trans finished) (by simp [unfinished])
    | pressed last =>
      obtain ⟨before, t, behind, _, _, _, split, _, pressed, _⟩ := last
      exact ⟨before, t, behind, split, open_before split pressed, pressed⟩
  · rintro ⟨before, t, behind, split, _, pressed⟩
    cases left with
    | unpressed silent => exact absurd pressed (silent t (by simp [split]))
    | pressed _ finished => exact finished

/-- Over its whole life a dialog on the screen gives up what it holds once, when it is closed, and
then rests. The pressed button is that of the last frame that says it pressed one. -/
theorem lives {host : Host} {window : Window} {cell : Value} {title : String}
    (made : (create host window cell title now).outcome = .ok g) (d : Dialog)
    (requests : List Request) : Lives g d requests := by
  obtain ⟨-, isOpen, unfinished⟩ := fresh_of_create made
  have holds := givenUp_callsFor isOpen d requests
  have left := leaves isOpen d requests
  refine ⟨holds.1, holds.2, ?_, ?_, finished_iff isOpen unfinished d requests, ?_, ?_⟩
  · rintro before behind rfl
    rw [after_append]
    obtain ⟨closed, finished, dialog⟩ := serve_close (after g d before).1 (after g d before).2
    exact ⟨⟨dialog, finished⟩, turns_closed closed _ behind⟩
  · rintro before behind rfl finished
    rw [after_append]
    exact finished_after finished _ behind
  · intro finished
    cases left with
    | unpressed silent same => exact absurd (same.symm.trans finished) (by simp [unfinished])
    | pressed last _ holds => exact ⟨_, last, holds⟩
  · intro unfinished'
    cases left with
    | unpressed _ _ same => exact same
    | pressed _ finished => exact absurd finished (by simp [unfinished'])

/-- Every button is clicked. -/
def clicking : Frame := ⟨(.float .zero, .float .zero), fun _ => .idle, fun _ => true, none⟩

/-- A frame that breaks off behind the clicks, one that stands, and two requests too many. -/
def asked : List Request :=
  [.draw clicking .zero (some (15, "lost")), .draw clicking .zero none, .close,
    .draw clicking .zero none, .close]

theorem lives_asked :
    let d : Dialog := ⟨[], Button.defaults, true, none⟩
    let g : Gui :=
      ⟨.usual, ⟨.int 1, .int 1⟩, .pair (.float (.whole 1)) (.float (.whole 1)), "", .zero, false,
        false⟩
    (create .usual ⟨.int 1, .int 1⟩ (.pair (.int 1) (.int 1)) "" .zero).outcome = .ok g ∧
      givenUp (callsFor g d asked) = [.renderer, .context, .window] ∧
      (turns g d asked).map (·.step.outcome.toOption) =
        [none, some true, some false, some false, some false] ∧
      ∃ i, LastPress d (turns g d asked) i ∧ (after g d asked).2.pressed = some i := by
  intro d g
  have one : Double.ofInt 1 = .ok (.whole 1) := Success.of_toOption (by decide +kernel)
  have made : (create .usual ⟨.int 1, .int 1⟩ (.pair (.int 1) (.int 1)) "" .zero).outcome =
      .ok g := by
    rw [create_of_sides one one]
    rfl
  have life := lives made d asked
  refine ⟨made, ?_, ?_, life.pressed ?_⟩
  · exact life.givenUp (by simp [asked])
  · decide +kernel
  · decide +kernel

end Gui

end ScriptDialog
