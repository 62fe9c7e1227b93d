import Mathlib.Data.List.Nodup
import ScriptDialog.Proofs.Control.Drawn
import ScriptDialog.Proofs.Dialog.Numbers
import ScriptDialog.Proofs.Gui.Frame

/-! What the calls of a frame open they close again, the last one first, also when the frame fails
half-way. Each control that is drawn has an id of its own. -/
namespace ScriptDialog

/-- What stays open until a call closes it. -/
inductive Scope where
  | window
  | id
  | itemWidth
  deriving DecidableEq

namespace Call

def opens? : Call → Option Scope
  | .beginWindow _ => some .window
  | .pushId _ => some .id
  | .pushItemWidth _ => some .itemWidth
  | _ => none

def closes? : Call → Option Scope
  | .endWindow => some .window
  | .popId => some .id
  | .popItemWidth => some .itemWidth
  | _ => none

/-- The id that a call puts on the stack. -/
def pushed? : Call → Option String
  | .pushId id => some id
  | _ => none

end Call

/-- The scopes that are open after a call, the innermost first. Only the innermost can be closed. -/
def Scope.after (opened : List Scope) (c : Call) : Option (List Scope) :=
  match c.opens? with
  | some scope => some (scope :: opened)
  | none =>
    match c.closes? with
    | none => some opened
    | some scope => if opened.head? = some scope then some opened.tail else none

/-- Whatever is open before, the calls close just what they open, in reverse order. -/
def Bracketed (calls : List Call) : Prop :=
  ∀ opened : List Scope, calls.foldlM Scope.after opened = some opened

/-- The ids that the calls push, in order. -/
def pushedIds (calls : List Call) : List String := calls.filterMap Call.pushed?

/-- Neither opens nor closes anything. -/
structure Call.IsFlat (c : Call) : Prop where
  opens : c.opens? = none
  closes : c.closes? = none

namespace Bracketed

variable {calls calls' : List Call}

theorem nil : Bracketed [] := fun _ => rfl

theorem append (first : Bracketed calls) (second : Bracketed calls') :
    Bracketed (calls ++ calls') := by
  intro opened
  rw [List.foldlM_append, first opened]
  exact second opened

theorem of_flat (flat : ∀ c ∈ calls, c.IsFlat) : Bracketed calls := by
  induction calls with
  | nil => exact nil
  | cons c calls ih =>
    obtain ⟨here, later⟩ := List.forall_mem_cons.mp flat
    intro opened
    have same : Scope.after opened c = some opened := by
      rw [Scope.after, here.opens, here.closes]
    rw [List.foldlM_cons, same]
    exact ih later opened

/-- A scope around calls: opened before them and closed after them. -/
theorem scope {opening closing : Call} (scope : Scope) (opens : opening.opens? = some scope)
    (plain : closing.opens? = none) (closes : closing.closes? = some scope)
    (inner : Bracketed calls) : Bracketed (opening :: calls ++ [closing]) := by
  intro opened
  have entered : Scope.after opened opening = some (scope :: opened) := by
    rw [Scope.after, opens]
  have left : Scope.after (scope :: opened) closing = some opened := by
    rw [Scope.after, plain, closes]
    simp
  simp only [List.cons_append, List.foldlM_cons, List.foldlM_append, List.foldlM_nil, entered,
    inner (scope :: opened), left, Option.bind_eq_bind, Option.bind_some, Option.pure_def]

end Bracketed

theorem pushedIds_append (calls calls' : List Call) :
    pushedIds (calls ++ calls') = pushedIds calls ++ pushedIds calls' :=
  List.filterMap_append

theorem pushedIds_push (id : String) (calls : List Call) :
    pushedIds (.pushId id :: calls) = id :: pushedIds calls := rfl

theorem pushedIds_none {calls : List Call} (none : ∀ c ∈ calls, c.pushed? = none) :
    pushedIds calls = [] :=
  List.filterMap_eq_nil_iff.mpr none

namespace Call

variable {c : Call}

theorem IsFlat.pushed (flat : c.IsFlat) : c.pushed? = none := by
  obtain ⟨opens, _⟩ := flat
  cases c <;> first | rfl | cases opens

theorem flat_of_shows (shows : c.shows) : c.IsFlat := by
  cases c <;> first | exact ⟨rfl, rfl⟩ | cases shows

theorem flat_of_syncs (syncs : c.syncs) : c.IsFlat := by
  cases c <;> first | exact ⟨rfl, rfl⟩ | cases syncs

theorem flat_of_inRow (inside : c.inRow) : c.IsFlat := by
  cases c <;> first | exact ⟨rfl, rfl⟩ | cases inside

theorem pushed_of_inControl (inside : c.inControl) : c.pushed? = none := by
  cases c <;> first | rfl | cases inside

end Call

theorem Bracketed.bind {ε α β : Type} {p : Performed ε α} {f : α → Performed ε β}
    (first : Bracketed p.calls) (rest : ∀ a, Bracketed (f a).calls) :
    Bracketed (p >>= f).calls := by
  cases done : p.outcome with
  | error fault =>
    rw [Performed.bind_of_error done]
    exact first
  | ok a =>
    rw [Performed.bind_of_ok done]
    exact first.append (rest a)

namespace Panel

open Performed

variable (frame : Frame) (cell : Value)

theorem bracketed_drawControl (index : Nat) (c : Control) :
    Bracketed (drawControl frame cell index c).calls := by
  have flat {α : Type} {p : Performed WidgetFault α} (makes : p.Makes Call.IsFlat) :
      Bracketed p.calls := .of_flat makes
  refine .bind (flat (makes_ofExcept _)) fun rect => ?_
  -- the id stands around all else, the width around the widget alone
  refine Bracketed.scope .id rfl rfl rfl ?_
  refine .bind (flat (makes_ofExcept _)) fun x => .bind (flat (makes_ofExcept _)) fun y =>
    .bind (flat ((makes_call _).mpr ⟨rfl, rfl⟩)) fun _ => .bind ?_ fun kind? =>
      .bind (flat (makes_tooltip _ ⟨rfl, rfl⟩ ⟨rfl, rfl⟩)) fun _ => .nil
  refine Bracketed.scope .itemWidth rfl rfl rfl ?_
  exact flat ((Widget.makes_draw _ _ _ _).imp fun _ => Call.flat_of_shows)

theorem bracketed_drawControls (controls : List Control) (index : Nat) :
    Bracketed (drawControls frame cell index controls).calls := by
  induction controls generalizing index with
  | nil => exact .nil
  | cons c controls ih =>
    unfold drawControls
    dsimp only
    split
    · exact bracketed_drawControl frame cell index c
    · exact (bracketed_drawControl frame cell index c).append (ih (index + 1))

/-- A control that is drawn pushes its index as its id; without a place it pushes none, and
fails. -/
theorem pushedIds_drawControl (index : Nat) (c : Control) :
    pushedIds (drawControl frame cell index c).calls = [toString index] ∨
      pushedIds (drawControl frame cell index c).calls = [] ∧
        ∃ fault, (drawControl frame cell index c).outcome = .error fault := by
  rcases calls_drawControl frame cell index c with ⟨none, failed⟩ | ⟨inner, whole, inside⟩
  · rw [none]
    exact .inr ⟨rfl, failed⟩
  · have clear := pushedIds_none fun call member => Call.pushed_of_inControl (inside call member)
    rw [whole, pushedIds_append, pushedIds_push, clear]
    exact .inl rfl

theorem pushedIds_drawControls (controls : List Control) (index : Nat) :
    ∃ count ≤ controls.length,
      pushedIds (drawControls frame cell index controls).calls =
        (List.range' index count).map toString ∧
      (∀ changed, (drawControls frame cell index controls).outcome = .ok changed →
        count = controls.length) := by
  induction controls generalizing index with
  | nil => exact ⟨0, le_rfl, rfl, fun _ _ => rfl⟩
  | cons c controls ih =>
    obtain ⟨count, few, later, all⟩ := ih (index + 1)
    unfold drawControls
    dsimp only
    have here := pushedIds_drawControl frame cell index c
    split
    · next fault failed =>
      -- the id may or may not be there yet; no later control is drawn either way
      have none : ∀ changed, (Except.error fault : Except WidgetFault Bool) ≠ .ok changed := nofun
      rcases here with one | ⟨zero, _⟩
      · exact ⟨1, by simp, one, fun changed done => absurd done (none changed)⟩
      · exact ⟨0, by simp, zero, fun changed done => absurd done (none changed)⟩
    · next kind? drawn =>
      have one := here.resolve_right fun ⟨_, fault, failed⟩ => by cases drawn.symm.trans failed
      refine ⟨count + 1, Nat.succ_le_succ few, ?_, fun changed done => ?_⟩
      · rw [pushedIds_append, one, later, List.range'_succ]
        rfl
      · obtain ⟨rest, finished, _⟩ := Success.of_map done
        rw [all rest finished, List.length_cons]

theorem bracketed_draw (controls : List Control) : Bracketed (draw frame cell controls).calls := by
  have inside : Bracketed (drawControls frame cell 0 controls).calls :=
    bracketed_drawControls frame cell controls 0
  have opened : Bracketed (.getCursor :: (drawControls frame cell 0 controls).calls) :=
    Bracketed.append (.of_flat (List.forall_mem_singleton.mpr ⟨rfl, rfl⟩)) inside
  unfold draw
  dsimp only
  split
  · exact opened
  · split
    · exact opened
    · exact opened.append (.of_flat (List.forall_mem_singleton.mpr ⟨rfl, rfl⟩))

theorem pushedIds_draw (controls : List Control) :
    pushedIds (draw frame cell controls).calls =
      pushedIds (drawControls frame cell 0 controls).calls := by
  have first (calls : List Call) : pushedIds (.getCursor :: calls) = pushedIds calls := rfl
  unfold draw
  dsimp only
  split
  · exact first _
  · split
    · exact first _
    · rw [pushedIds_append, first]
      exact List.append_nil _

end Panel

namespace Gui

variable {frame : Frame} {now : Double}

/-- What the calls of a frame on the screen are made of: the synchronization alone when it fails, or
else the window with all of the panel in it. -/
inductive Frames (g : Gui) (d : Dialog) (frame : Frame) : Step → Prop where
  | unsynced {s : Step} (fault : GuiFault) (failed : s.outcome = .error fault)
      (flat : ∀ c ∈ s.calls, c.IsFlat) : Frames g d frame s
  | window {s : Step} (before row after : List Call)
      (whole : s.calls = before ++ (.beginWindow g.title ::
        ((Panel.draw frame g.cell d.controls).calls ++ row) ++ [.endWindow]) ++ after)
      (flat : ∀ c ∈ before ++ row ++ after, c.IsFlat)
      (drawn : ∀ pressed, s.outcome = .ok pressed →
        ∃ changed, (Panel.draw frame g.cell d.controls).outcome = .ok changed) :
      Frames g d frame s

/-- The calls before the window of a frame. -/
def unwindowed (g : Gui) (delta : Double) : List Call :=
  .setContext :: (g.sync delta).calls ++
    [.newFrame, .placeWindow, .sizeWindow g.window.width g.window.height]

theorem flat_unwindowed (g : Gui) (delta : Double) : ∀ c ∈ g.unwindowed delta, c.IsFlat := by
  have synced : ∀ c ∈ (g.sync delta).calls, c.IsFlat :=
    (makes_sync g delta).imp fun _ => Call.flat_of_syncs
  rw [unwindowed, List.cons_append, List.forall_mem_cons, List.forall_mem_append]
  refine ⟨⟨rfl, rfl⟩, synced, ?_⟩
  simp only [List.forall_mem_cons]
  exact ⟨⟨rfl, rfl⟩, ⟨rfl, rfl⟩, ⟨rfl, rfl⟩, List.forall_mem_nil _⟩

theorem flat_presenting : ∀ c ∈ presenting, c.IsFlat := by
  simp only [presenting, List.forall_mem_cons]
  exact ⟨⟨rfl, rfl⟩, ⟨rfl, rfl⟩, ⟨rfl, rfl⟩, ⟨rfl, rfl⟩, ⟨rfl, rfl⟩, List.forall_mem_nil _⟩

theorem frames (g : Gui) (d : Dialog) (frame : Frame) (now : Double) (isOpen : g.closed = false) :
    Frames g d frame (g.drawFrame d frame now) := by
  have before := g.flat_unwindowed (now.sub g.lastFrame)
  have row : ∀ c ∈ buttonRow d, c.IsFlat :=
    fun c member => Call.flat_of_inRow (calls_buttonRow d c member).1
  have whole := List.forall_mem_append.mpr
    ⟨List.forall_mem_append.mpr ⟨before, row⟩, flat_presenting⟩
  unfold drawFrame
  rw [isOpen]
  dsimp only
  rw [if_neg Bool.false_ne_true]
  split
  · refine .unsynced _ rfl ?_
    exact (List.forall_mem_append.mp before).1
  · split
    · exact .window (g.unwindowed (now.sub g.lastFrame)) [] [] (by simp [opening, unwindowed])
        (by simpa using before) nofun
    · next changed done =>
      split
      · exact .window (g.unwindowed (now.sub g.lastFrame)) (buttonRow d) presenting
          (by simp [opening, unwindowed, buttonRow]) whole fun _ _ => ⟨changed, done⟩
      · exact .window (g.unwindowed (now.sub g.lastFrame)) (buttonRow d) presenting
          (by simp [opening, unwindowed, buttonRow]) whole fun _ _ => ⟨changed, done⟩

theorem Frames.bracketed {g : Gui} {d : Dialog} {s : Step} (made : Frames g d frame s) :
    Bracketed s.calls := by
  cases made with
  | unsynced _ _ flat => exact .of_flat flat
  | window before row after whole flat _ =>
    rw [List.forall_mem_append, List.forall_mem_append] at flat
    obtain ⟨⟨flatBefore, flatRow⟩, flatAfter⟩ := flat
    have inside := (Panel.bracketed_draw frame g.cell d.controls).append
      (.of_flat flatRow)
    rw [whole]
    exact ((Bracketed.of_flat flatBefore).append
      (inside.scope .window rfl rfl rfl)).append (.of_flat flatAfter)

/-- The window opens and closes no ids of its own. -/
theorem pushedIds_window (title : String) (calls : List Call) :
    pushedIds (.beginWindow title :: calls ++ [.endWindow]) = pushedIds calls := by
  rw [pushedIds_append]
  exact List.append_nil _

theorem Frames.ids {g : Gui} {d : Dialog} {s : Step} (made : Frames g d frame s) :
    ∃ count ≤ d.controls.length, pushedIds s.calls = (List.range count).map toString ∧
      ∀ pressed, s.outcome = .ok pressed → count = d.controls.length := by
  have clear {calls : List Call} (flat : ∀ c ∈ calls, c.IsFlat) : pushedIds calls = [] :=
    pushedIds_none fun c member => (flat c member).pushed
  cases made with
  | unsynced fault failed flat =>
    refine ⟨0, Nat.zero_le _, clear flat, fun pressed done => ?_⟩
    cases failed.symm.trans done
  | window before row after whole flat drawn =>
    rw [List.forall_mem_append, List.forall_mem_append] at flat
    obtain ⟨⟨flatBefore, flatRow⟩, flatAfter⟩ := flat
    obtain ⟨count, few, ids, all⟩ := Panel.pushedIds_drawControls frame g.cell d.controls 0
    refine ⟨count, few, ?_, fun pressed done => ?_⟩
    · rw [whole, pushedIds_append, pushedIds_append, pushedIds_window, pushedIds_append,
        clear flatBefore, clear flatRow, clear flatAfter, Panel.pushedIds_draw, ids,
          List.nil_append,
        List.append_nil, List.append_nil, List.range_eq_range']
    · obtain ⟨changed, panel⟩ := drawn pressed done
      exact all changed (Panel.drawControls_of_draw panel)

theorem nodup_indices (count : Nat) : ((List.range count).map toString).Nodup := by
  refine List.Nodup.map (fun m n same => ?_) List.nodup_range
  have whole : toString (m : Int) = toString (n : Int) := same
  exact Int.ofNat.inj (Numeral.toString_injective whole)

/-- Whatever the controls, the cell and the answers of the toolkit are: what a frame opens it
closes, the last one first, also when it fails. The ids that an open dialog pushes are the places of
the controls, one after the other and all different, as far as the frame comes; they are those of
all controls when it comes to its end. A closed dialog draws nothing. -/
theorem drawFrame_bracketed (g : Gui) (d : Dialog) (frame : Frame) (now : Double) :
    Bracketed (g.drawFrame d frame now).calls ∧
      (g.closed = false → (pushedIds (g.drawFrame d frame now).calls).Nodup ∧
        ∃ count ≤ d.controls.length,
          pushedIds (g.drawFrame d frame now).calls = (List.range count).map toString ∧
          ∀ pressed, (g.drawFrame d frame now).outcome = .ok pressed →
            count = d.controls.length) ∧
      (g.closed = true → (g.drawFrame d frame now).calls = []) := by
  cases closed : g.closed with
  | true =>
    have idle : g.drawFrame d frame now = ⟨g, d, [], [], .ok false⟩ := by
      rw [drawFrame, closed]
      rfl
    rw [idle]
    exact ⟨.nil, nofun, fun _ => rfl⟩
  | false =>
    have made := g.frames d frame now closed
    obtain ⟨count, few, ids, all⟩ := made.ids
    refine ⟨made.bracketed, fun _ => ⟨?_, count, few, ids, all⟩, nofun⟩
    rw [ids]
    exact nodup_indices count

/-- A dialog of two controls, one of which chooses between items. -/
def choosing : Dialog :=
  ⟨[⟨.text "a", .text "", .int 0, .int 0, .int 1, .int 1, .label (.text "a")⟩,
    ⟨.text "b", .text "", .int 0, .int 1, .int 1, .int 1,
      .dropdown (.text "x") (.list [.text "x"])⟩], [], false, none⟩

/-- A dialog on the screen, in cells of one pixel. -/
def shown (closed : Bool) : Gui :=
  ⟨.usual, ⟨.int 1, .int 1⟩, .pair (.float (.whole 1)) (.float (.whole 1)), "", .zero, closed,
    false⟩

/-- The toolkit reports this choice of the second control. -/
def choice (index : Int) : Frame :=
  ⟨(.float .zero, .float .zero),
    fun i => if i = 1 then ⟨true, some (.int index), false, none⟩ else .idle, fun _ => false, none⟩

/-- A choice that is none of the items makes the frame fail, with all closed. -/
theorem drawFrame_bracketed_choosing :
    (shown false).closed = false ∧
      ((shown false).drawFrame choosing (choice 0) .zero).outcome = .ok false ∧
      pushedIds ((shown false).drawFrame choosing (choice 0) .zero).calls = ["0", "1"] ∧
      ((shown false).drawFrame choosing (choice 7) .zero).outcome.toOption = none ∧
      Bracketed ((shown false).drawFrame choosing (choice 7) .zero).calls := by
  have done : ((shown false).drawFrame choosing (choice 0) .zero).outcome = .ok false :=
    Success.of_toOption (by decide +kernel)
  obtain ⟨_, isOpen, _⟩ := (shown false).drawFrame_bracketed choosing (choice 0) .zero
  obtain ⟨_, count, _, ids, all⟩ := isOpen rfl
  obtain ⟨balanced, _⟩ := (shown false).drawFrame_bracketed choosing (choice 7) .zero
  refine ⟨rfl, done, ?_, by decide +kernel, balanced⟩
  rw [ids, all false done]
  rfl

/-- Once closed, a dialog with two controls comes through its frame without pushing an id. -/
theorem drawFrame_closed :
    ((shown true).drawFrame choosing (choice 0) .zero).outcome = .ok false ∧
      choosing.controls.length = 2 ∧
      pushedIds ((shown true).drawFrame choosing (choice 0) .zero).calls = [] :=
  ⟨rfl, rfl, rfl⟩

end Gui

end ScriptDialog
