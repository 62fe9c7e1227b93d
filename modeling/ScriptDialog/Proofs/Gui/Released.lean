import ScriptDialog.Proofs.Gui.Loop
import ScriptDialog.Proofs.Layout.Place

/-! What a run takes from its host, and whether it gives it back. Once the dialog is in the event
loop, everything is given back however the loop ends, unless the closing fails. A run that fails
after its window is open but before the loop gives nothing back. -/
namespace ScriptDialog

/-- What a run takes from its host. -/
inductive Resource where
  | window
  | context
  /-- The drawing, while it is on the clock. -/
  | timer

inductive Use where
  | acquired
  | released
  deriving DecidableEq

/-- What a call does with a resource. -/
def Call.use? (c : Call) (resource : Resource) : Option Use :=
  match resource, c with
  | .window, .openWindow .. => some .acquired
  | .window, .closeWindow => some .released
  | .context, .createContext => some .acquired
  | .context, .destroyContext => some .released
  | .timer, .schedule | .timer, .scheduleEvery _ => some .acquired
  | .timer, .unschedule => some .released
  | _, _ => none

/-- What calls do with a resource, in order. -/
def uses (resource : Resource) (calls : List Call) : List Use :=
  calls.filterMap (·.use? resource)

/-- Each resource is taken once at most, and then given back once. -/
def Released (calls : List Call) : Prop :=
  ∀ resource, uses resource calls = [] ∨ uses resource calls = [.acquired, .released]

variable {resource : Resource} {calls calls' : List Call}

@[simp] theorem uses_nil : uses resource [] = [] := rfl

@[simp] theorem uses_cons (c : Call) :
    uses resource (c :: calls) = (c.use? resource).toList ++ uses resource calls := by
  unfold uses
  rw [List.filterMap_cons]
  cases c.use? resource <;> rfl

@[simp] theorem uses_append :
    uses resource (calls ++ calls') = uses resource calls ++ uses resource calls' :=
  List.filterMap_append

theorem Call.use?_of_inLoop {buttons : Bool} {c : Call} (here : c.inLoop buttons) :
    c.use? resource = none := by
  unfold use?
  split <;> simp [inLoop] at here ⊢

theorem uses_of_inLoop {buttons : Bool} (inside : ∀ c ∈ calls, c.inLoop buttons) :
    uses resource calls = [] :=
  List.filterMap_eq_nil_iff.mpr fun c member => Call.use?_of_inLoop (inside c member)

theorem uses_of_makes {ε α : Type} {p : Performed ε α}
    (makes : p.Makes (·.use? resource = none)) : uses resource p.calls = [] :=
  List.filterMap_eq_nil_iff.mpr makes

namespace Window

variable {host : Host} {width height x y : Int} {caption text : String} {vsync : Bool}

theorem create_of_ints (host : Host) (width height x y : Int) (caption : String) (vsync : Bool) :
    create host (.int width) (.int height) caption (.pair (.int x) (.int y)) vsync =
      host.call (.openWindow width height caption vsync) >>= fun _ =>
        host.call (.moveWindow x y) >>= fun _ => pure (given host width height) := by
  have placed : position (.tuple [.int x, .int y]) = .ok (x, y) := by
    have first : (Value.tuple [.int x, .int y]).itemAt 0 = .ok (.int x) := rfl
    have second : (Value.tuple [.int x, .int y]).itemAt 1 = .ok (.int y) := rfl
    simp only [position, first, second]
    rfl
  simp only [create, Value.toInt_int, Success.mapError_ok, Performed.ofExcept_ok_bind,
    Value.pair, placed]

theorem create_of_refused
    (refused : host.failure? (.openWindow width height caption vsync) = some text) :
    create host (.int width) (.int height) caption (.pair (.int x) (.int y)) vsync =
      ⟨[], .error (.toolkit text)⟩ := by
  rw [create_of_ints, Host.call_of_failure refused, Performed.bind_of_error rfl]

theorem create_of_unmoved
    (opens : host.failure? (.openWindow width height caption vsync) = none)
    (unmoved : host.failure? (.moveWindow x y) = some text) :
    create host (.int width) (.int height) caption (.pair (.int x) (.int y)) vsync =
      ⟨[.openWindow width height caption vsync], .error (.toolkit text)⟩ := by
  rw [create_of_ints, Host.call_of_calm opens, Performed.bind_of_ok rfl,
    Host.call_of_failure unmoved, Performed.bind_of_error rfl]
  rfl

theorem create_of_calm (opens : host.failure? (.openWindow width height caption vsync) = none)
    (moved : host.failure? (.moveWindow x y) = none) :
    create host (.int width) (.int height) caption (.pair (.int x) (.int y)) vsync =
      ⟨[.openWindow width height caption vsync, .moveWindow x y],
        .ok (given host width height)⟩ := by
  rw [create_of_ints, Host.call_of_calm opens, Performed.bind_of_ok rfl, Host.call_of_calm moved]
  rfl

end Window

namespace Gui

theorem uses_closing (host : Host) (resource : Resource) :
    uses resource (.unschedule :: closing host) = [.released] := by
  unfold closing
  cases host.shutsDown <;> cases resource <;> rfl

theorem mem_rendererCalls {host : Host} {c : Call} (member : c ∈ rendererCalls host) :
    c = .createRenderer ∨ c = .newRenderer ∨ c = .refreshFont := by
  unfold rendererCalls at member
  grind

theorem use?_of_rendererCalls {host : Host} {c : Call} (member : c ∈ rendererCalls host)
    (resource : Resource) : c.use? resource = none := by
  rcases mem_rendererCalls member with rfl | rfl | rfl <;> cases resource <;> rfl

theorem inRow_of_rendererCalls {host : Host} {c : Call} (member : c ∈ rendererCalls host) :
    c.inRow = false := by
  rcases mem_rendererCalls member with rfl | rfl | rfl <;> rfl

/-- The host offers a renderer, and makes it. -/
structure Offered (host : Host) : Prop where
  loaded : host.importFailure = none
  offered : host.renderer ≠ .missing
  calm : host.Calm (rendererCalls host)

/-- How the making of the renderer can end. -/
inductive Renders (host : Host) : Performed GuiFault Unit → Prop where
  | failed {calls : List Call} {fault : GuiFault} (unoffered : ¬ Offered host) :
      Renders host ⟨calls, .error fault⟩
  | made (offered : Offered host) : Renders host ⟨rendererCalls host, .ok ()⟩

theorem renders (host : Host) : Renders host (createRenderer host) := by
  unfold createRenderer
  split
  · next reason failure =>
    refine .failed fun offered => ?_
    cases failure.symm.trans offered.loaded
  · next loaded =>
    split
    · next missing => exact .failed fun offered => offered.offered missing
    all_goals
      next present =>
      have did := host.performs (rendererCalls host)
      generalize host.calls (rendererCalls host) = done at did ⊢
      cases done with
      | mk calls outcome =>
        cases outcome with
        | error fault => exact .failed fun offered => did.not_calm offered.calm
        | ok u =>
          cases did with
          | all calm => exact .made ⟨loaded, by simp [present], calm⟩

theorem makes_createRenderer (host : Host) {sort : Call → Prop}
    (all : ∀ c ∈ rendererCalls host, sort c) : (createRenderer host).Makes sort := by
  unfold createRenderer
  split
  · exact Performed.makes_fail _
  · split
    · exact Performed.makes_fail _
    all_goals exact Host.makes_calls all

/-- The calls that make the widget library ready. -/
def contextCalls : List Call := [.createContext, .setContext, .darkStyle]

theorem makes_create (host : Host) (window : Window) (cell : Value) (title : String) (now : Double)
    {sort : Call → Prop} (all : ∀ c ∈ contextCalls ++ rendererCalls host, sort c) :
    (create host window cell title now).Makes sort := by
  obtain ⟨context, renderer⟩ := List.forall_mem_append.mp all
  exact .bind (Performed.makes_ofExcept _) fun _ => .bind (Performed.makes_ofExcept _) fun _ =>
    .bind (Host.makes_calls context) fun _ =>
      .bind (makes_createRenderer host renderer) fun _ => Performed.makes_pure _

/-- Nothing stands in the way of a dialog on the screen, with cells of this size. -/
structure Creatable (host : Host) (width height : Int) : Prop extends Offered host where
  width : ∃ x, Double.ofInt width = .ok x
  height : ∃ x, Double.ofInt height = .ok x
  context : host.Calm contextCalls

/-- How the making of a dialog on the screen can end. -/
inductive Creates (host : Host) (width height : Int) : Performed GuiFault Gui → Prop where
  | failed {calls : List Call} {fault : GuiFault} (hindered : ¬ Creatable host width height) :
      Creates host width height ⟨calls, .error fault⟩
  | created {gui : Gui} (creatable : Creatable host width height) (sameHost : gui.host = host)
      (isOpen : gui.closed = false) (unfinished : gui.finished = false) :
      Creates host width height ⟨contextCalls ++ rendererCalls host, .ok gui⟩

/-- With a cell size in range, the host decides whether the dialog comes on the screen. -/
theorem create_of_sides {host : Host} {width height : Int} {x y : Double}
    (isWidth : Double.ofInt width = .ok x) (isHeight : Double.ofInt height = .ok y)
    (window : Window) (title : String) (now : Double) :
    create host window (.pair (.int width) (.int height)) title now =
      host.calls contextCalls >>= fun _ => createRenderer host >>= fun _ =>
        pure ⟨host, window, .pair (.float x) (.float y), title, now, false, false⟩ := by
  obtain ⟨first, second⟩ := Layout.side_pair width height
  rw [create, first, second, isWidth, isHeight]
  simp only [Success.mapError_ok, Performed.ofExcept_ok_bind]
  rfl

theorem creates (host : Host) (window : Window) (width height : Int) (title : String)
    (now : Double) : Creates host width height
      (create host window (.pair (.int width) (.int height)) title now) := by
  obtain ⟨first, second⟩ := Layout.side_pair width height
  cases isWidth : Double.ofInt width with
  | error fault =>
    rw [create, first, isWidth]
    exact .failed fun creatable => absurd (isWidth ▸ creatable.width) (by simp)
  | ok x =>
    cases isHeight : Double.ofInt height with
    | error fault =>
      rw [create, first, second, isWidth, isHeight]
      exact .failed fun creatable => absurd (isHeight ▸ creatable.height) (by simp)
    | ok y =>
      rw [create_of_sides isWidth isHeight]
      have context := host.performs contextCalls
      have renderer := renders host
      generalize host.calls contextCalls = done at context ⊢
      generalize createRenderer host = made at renderer ⊢
      cases context with
      | broken before after split failed =>
        rw [Performed.bind_of_error rfl]
        exact .failed fun creatable =>
          (Host.Performs.broken before after split failed).not_calm creatable.context
      | all calm =>
        rw [Performed.bind_of_ok rfl]
        cases renderer with
        | failed unoffered =>
          rw [Performed.bind_of_error rfl]
          exact .failed fun creatable => unoffered creatable.toOffered
        | made offered =>
          rw [Performed.bind_of_ok rfl]
          have whole : contextCalls ++ (rendererCalls host ++ []) =
              contextCalls ++ rendererCalls host := by rw [List.append_nil]
          dsimp only [Performed.bind_of_ok, pure]
          rw [whole]
          exact .created ⟨offered, ⟨x, isWidth⟩, ⟨y, isHeight⟩, calm⟩ rfl rfl rfl

end Gui

namespace Run

/-- The size of the window that the dialog needs. -/
def neededSize (config : Config) (d : Dialog) : Except ValueFault (Int × Int) :=
  Layout.windowSize d.controls (.pair (.int config.cellSize.1) (.int config.cellSize.2))
    (.pair (.int config.windowSize.1) (.int config.windowSize.2)) d.usesButtons

/-- The window does not open. -/
inductive Unopened (config : Config) (host : Host) (d : Dialog) (title : String) : Prop where
  | unsized {fault : ValueFault} (unsized : neededSize config d = .error fault)
  | refused {size : Int × Int} {text : String} (sized : neededSize config d = .ok size)
      (refused : host.failure? (.openWindow size.1 size.2 title true) = some text)

theorem Unopened.not_of_opened {config : Config} {host : Host} {d : Dialog} {title : String}
    {size : Int × Int} (unopened : Unopened config host d title)
    (sized : neededSize config d = .ok size)
    (opens : host.failure? (.openWindow size.1 size.2 title true) = none) : False := by
  cases unopened with
  | unsized unsized => cases sized.symm.trans unsized
  | refused sized' refused =>
    cases sized.symm.trans sized'
    cases opens.symm.trans refused

/-- Nothing fails between the opening of the window and the event loop. -/
structure Ready (config : Config) (host : Host) (fps : Value) : Prop
    extends Gui.Creatable host config.cellSize.1 config.cellSize.2 where
  moved : host.failure? (.moveWindow config.windowPos.1 config.windowPos.2) = none
  handlers : host.failure? .pushHandlers = none
  rate : ∃ timer, scheduleCall fps = .ok timer ∧ host.failure? timer = none

theorem timer_of_scheduleCall {fps : Value} {timer : Call}
    (timed : scheduleCall fps = .ok timer) :
    timer = .schedule ∨ ∃ seconds, timer = .scheduleEvery seconds := by
  obtain ⟨unbounded, _, timed⟩ := Success.of_bind timed
  cases unbounded with
  | true =>
    cases timed
    exact .inl rfl
  | false =>
    obtain ⟨rate, _, timed⟩ := Success.of_bind timed
    cases timed
    exact .inr ⟨_, rfl⟩

/-- How the start of a run can end. -/
inductive Starts (config : Config) (host : Host) (d : Dialog) (title : String) (fps : Value) :
    Performed RunFault Gui → Prop where
  | unopened {fault : RunFault} (unopened : Unopened config host d title) :
      Starts config host d title fps ⟨[], .error fault⟩
  /-- The window is open, and stays so. -/
  | unready {calls : List Call} {fault : RunFault} {size : Int × Int}
      (sized : neededSize config d = .ok size)
      (opens : host.failure? (.openWindow size.1 size.2 title true) = none)
      (unready : ¬ Ready config host fps) (window : uses .window calls = [.acquired]) :
      Starts config host d title fps ⟨calls, .error fault⟩
  | started {calls : List Call} {gui : Gui} {size : Int × Int}
      (sized : neededSize config d = .ok size)
      (opens : host.failure? (.openWindow size.1 size.2 title true) = none)
      (ready : Ready config host fps) (acquired : ∀ resource, uses resource calls = [.acquired])
      (sameHost : gui.host = host) (isOpen : gui.closed = false)
      (unfinished : gui.finished = false) : Starts config host d title fps ⟨calls, .ok gui⟩

/-- What is done in the open window before the event loop. -/
def setUp (config : Config) (host : Host) (title : String) (fps : Value) (now : Double)
    (window : Window) : Performed RunFault Gui := do
  let cell := Value.pair (.int config.cellSize.1) (.int config.cellSize.2)
  let gui ← (Gui.create host window cell title now).mapFault .gui
  (host.call .pushHandlers).mapFault .gui
  let timer ← .ofExcept ((scheduleCall fps).mapError .unfit)
  (host.call timer).mapFault .gui
  return gui

theorem start_eq (config : Config) (host : Host) (d : Dialog) (title : String) (fps : Value)
    (now : Double) : start config host d title fps now =
      .ofExcept ((neededSize config d).mapError .unfit) >>= fun size =>
        (Window.create host (.int size.1) (.int size.2) title
            (.pair (.int config.windowPos.1) (.int config.windowPos.2)) true).mapFault .gui >>=
          setUp config host title fps now :=
  rfl

end Run

namespace Run

theorem makes_setUp (config : Config) (host : Host) (title : String) (fps : Value) (now : Double)
    (window : Window) {sort : Call → Prop}
    (all : ∀ c ∈ Gui.contextCalls ++ Gui.rendererCalls host, sort c) (handlers : sort .pushHandlers)
    (unbounded : sort .schedule) (timed : ∀ seconds, sort (.scheduleEvery seconds)) :
    (setUp config host title fps now window).Makes sort := by
  refine .bind ((Performed.makes_mapFault _).mpr (Gui.makes_create host window _ title now all))
    fun gui => ?_
  refine .bind ((Performed.makes_mapFault _).mpr (Host.makes_call handlers)) fun _ => ?_
  refine .bind_of_ok (Performed.makes_ofExcept _) fun timer scheduled => ?_
  refine .bind ((Performed.makes_mapFault _).mpr (Host.makes_call ?_)) fun _ =>
    Performed.makes_pure _
  rcases timer_of_scheduleCall (Success.of_mapError scheduled) with rfl | ⟨seconds, rfl⟩
  · exact unbounded
  · exact timed seconds

theorem window_of_setUp (config : Config) (host : Host) (title : String) (fps : Value)
    (now : Double) (window : Window) :
    uses .window (setUp config host title fps now window).calls = [] := by
  refine uses_of_makes (makes_setUp config host title fps now window ?_ rfl rfl fun _ => rfl)
  rw [List.forall_mem_append]
  refine ⟨?_, fun c member => Gui.use?_of_rendererCalls member .window⟩
  simp [Gui.contextCalls, Call.use?]

/-- How the setting up in the open window can end, once that is in its place. -/
inductive SetsUp (config : Config) (host : Host) (fps : Value) : Performed RunFault Gui → Prop where
  | failed {calls : List Call} {fault : RunFault} (unready : ¬ Ready config host fps) :
      SetsUp config host fps ⟨calls, .error fault⟩
  | done {timer : Call} {gui : Gui} (ready : Ready config host fps)
      (timed : scheduleCall fps = .ok timer) (sameHost : gui.host = host)
      (isOpen : gui.closed = false) (unfinished : gui.finished = false) :
      SetsUp config host fps
        ⟨Gui.contextCalls ++ Gui.rendererCalls host ++ [.pushHandlers, timer], .ok gui⟩

theorem setsUp (config : Config) (host : Host) (title : String) (fps : Value) (now : Double)
    (window : Window)
    (moved : host.failure? (.moveWindow config.windowPos.1 config.windowPos.2) = none) :
    SetsUp config host fps (setUp config host title fps now window) := by
  have did := Gui.creates host window config.cellSize.1 config.cellSize.2 title now
  rw [setUp]
  generalize Gui.create host _ _ title now = made at did ⊢
  cases did with
  | failed hindered =>
    rw [Performed.bind_of_error rfl]
    exact .failed fun ready => hindered ready.toCreatable
  | @created gui creatable sameHost isOpen unfinished =>
    rw [Performed.bind_of_ok rfl]
    cases handlers : host.failure? .pushHandlers with
    | some text =>
      rw [Host.call_of_failure handlers, Performed.bind_of_error rfl]
      refine .failed fun ready => ?_
      cases handlers.symm.trans ready.handlers
    | none =>
      rw [Host.call_of_calm handlers, Performed.bind_of_ok rfl]
      cases timed : scheduleCall fps with
      | error fault =>
        refine .failed fun ready => ?_
        obtain ⟨timer, same, _⟩ := ready.rate
        cases timed.symm.trans same
      | ok timer =>
        rw [Success.mapError_ok, Performed.ofExcept_ok_bind]
        cases scheduled : host.failure? timer with
        | some text =>
          rw [Host.call_of_failure scheduled, Performed.bind_of_error rfl]
          refine .failed fun ready => ?_
          obtain ⟨timer', same, calm⟩ := ready.rate
          cases timed.symm.trans same
          cases scheduled.symm.trans calm
        | none =>
          rw [Host.call_of_calm scheduled]
          exact .done ⟨creatable, moved, handlers, timer, timed, scheduled⟩ timed sameHost isOpen
            unfinished

theorem starts (config : Config) (host : Host) (d : Dialog) (title : String) (fps : Value)
    (now : Double) : Starts config host d title fps (start config host d title fps now) := by
  cases sized : neededSize config d with
  | error fault =>
    rw [start_eq, sized]
    exact .unopened (.unsized sized)
  | ok size =>
    rw [start_eq, sized, Success.mapError_ok, Performed.ofExcept_ok_bind]
    cases opens : host.failure? (.openWindow size.1 size.2 title true) with
    | some text =>
      rw [Window.create_of_refused opens, Performed.bind_of_error rfl]
      exact .unopened (.refused sized opens)
    | none =>
      -- from here on the window is open, whatever fails
      cases moved : host.failure? (.moveWindow config.windowPos.1 config.windowPos.2) with
      | some text =>
        rw [Window.create_of_unmoved opens moved, Performed.bind_of_error rfl]
        refine .unready sized opens (fun ready => ?_) rfl
        cases moved.symm.trans ready.moved
      | none =>
        rw [Window.create_of_calm opens moved, Performed.bind_of_ok rfl]
        have window := window_of_setUp config host title fps now (.given host size.1 size.2)
        have did := setsUp config host title fps now (.given host size.1 size.2) moved
        generalize setUp config host title fps now _ = made at window did ⊢
        cases did with
        | failed unready =>
          exact .unready sized opens unready (by simpa [Call.use?] using window)
        | @done timer gui ready timed sameHost isOpen unfinished =>
          refine .started sized opens ready (fun resource => ?_) sameHost isOpen unfinished
          have renderer : uses resource (Gui.rendererCalls host) = [] :=
            List.filterMap_eq_nil_iff.mpr fun c member => Gui.use?_of_rendererCalls member resource
          rcases timer_of_scheduleCall timed with rfl | ⟨seconds, rfl⟩ <;> cases resource <;>
            simp [Call.use?, Gui.contextCalls, renderer]

end Run

/-- Leaving the loop takes the drawing off the clock, and makes the closing calls as far as it
can. -/
theorem Running.calls_finish {r : Running} (isOpen : r.gui.closed = false) :
    r.finish.1.calls =
        r.calls ++ .unschedule :: (r.gui.host.calls (Gui.closing r.gui.host)).calls ∧
      r.finish.2 = (r.gui.host.calls (Gui.closing r.gui.host)).outcome := by
  simp [finish, log, Gui.closeOn, isOpen]

/-- The window is closed last. -/
theorem Gui.window_of_broken {host : Host} {before after : List Call} {c : Call}
    (split : closing host = before ++ c :: after) : uses .window before = [] := by
  have front : uses .window ((if host.shutsDown then [.shutdownRenderer] else []) ++
      [Call.destroyContext]) = [] := by
    cases host.shutsDown <;> rfl
  have whole : closing host = ((if host.shutsDown then [.shutdownRenderer] else []) ++
      [.destroyContext]) ++ [.closeWindow] := by
    simp [closing]
  rw [whole] at split
  rcases List.eq_nil_or_concat after with rfl | ⟨after, last, rfl⟩
  · obtain ⟨same, _⟩ := List.append_inj' split rfl
    rwa [← same]
  · rw [List.concat_eq_append, ← List.cons_append, ← List.append_assoc] at split
    obtain ⟨same, _⟩ := List.append_inj' split rfl
    rw [same, uses_append] at front
    exact (List.append_eq_nil_iff.mp front).1

/-- A run gives back whatever it took exactly if the window never opened, or if nothing failed
between its opening and the event loop and nothing fails in the closing; how the loop ends plays no
part. -/
theorem Run.dialog_released_iff (config : Config) (host : Host) (d : Dialog) (title : String)
    (fps : Value) (now : Double) (events : List Event) :
    Released (dialog config host d title fps now events).calls ↔
      Unopened config host d title ∨ Ready config host fps ∧ host.Calm (Gui.closing host) := by
  have starts := starts config host d title fps now
  generalize started : start config host d title fps now = p at starts
  cases starts with
  | unopened unopened =>
    rw [dialog_of_unstarted started]
    exact iff_of_true (fun _ => .inl rfl) (.inl unopened)
  | unready sized opens unready window =>
    rw [dialog_of_unstarted started]
    refine iff_of_false (fun released => ?_) ?_
    · have outcome := released .window
      simp [window] at outcome
    · rintro (unopened | ⟨ready, _⟩)
      · exact unopened.not_of_opened sized opens
      · exact unready ready
  | @started calls gui size sized opens ready acquired sameHost isOpen unfinished =>
    have kept := (Running.loop_ends (r := entered gui d now calls) isOpen events).1
    obtain ⟨made, whole, inside⟩ := kept.calls
    obtain ⟨final, _⟩ := Running.calls_finish (kept.closed.trans isOpen)
    have sameHost := kept.host.trans sameHost
    rw [whole, sameHost] at final
    rw [dialog_of_started started, calls_result, final]
    have before (resource : Resource) :
        uses resource ((entered gui d now calls).calls ++ made) = [.acquired] := by
      have entering : uses resource [.runLoop] = [] := by cases resource <;> rfl
      rw [entered, uses_append, uses_append, acquired resource, uses_of_inLoop inside, entering]
      rfl
    have closed := host.performs (Gui.closing host)
    generalize host.calls (Gui.closing host) = closing at closed ⊢
    cases closed with
    | all calm =>
      refine iff_of_true (fun resource => .inr ?_) (.inr ⟨ready, calm⟩)
      rw [uses_append, before, Gui.uses_closing]
      rfl
    | broken front after split failed =>
      refine iff_of_false (fun released => ?_) ?_
      · have outcome := released .window
        rw [uses_append, before, uses_cons, Gui.window_of_broken split] at outcome
        simp [Call.use?] at outcome
      · rintro (unopened | ⟨_, calm⟩)
        · exact unopened.not_of_opened sized opens
        · exact (Host.Performs.broken front after split failed).not_calm calm

/-- Without a renderer, the window of a dialog without controls stays open. -/
theorem Run.not_released_of_no_renderer :
    ¬ Released (dialog ⟨none, ⟨0, []⟩, (560, 360), (120, 120), (110, 30)⟩
      { Host.usual with renderer := .missing } ⟨[], Button.defaults, true, none⟩ "Dialog"
      (.float (.whole 60)) .zero []).calls := by
  intro released
  have window := released .window
  revert window
  decide +kernel

end ScriptDialog
