import ScriptDialog.Proofs.Gui.Identity
import ScriptDialog.Proofs.Text.Glyphs

/-! The widgets of a frame are told apart. Those of different controls stand behind the different
indices of the controls. A button has no id around it but the window's, and the index at the end of
its string is found again whatever label stands before it. -/
namespace ScriptDialog.Gui

variable {naming : Call → Option Text} {ids : List String}

variable {g : Gui} {d : Dialog} {frame : Frame} {now : Double} {s : Step}

/-- Lists that each show one string, one after the other. -/
theorem filterMap_flatten_mapIdx {α : Type} {f : Nat → α → List Call} {label : Nat → α → Text}
    (one : ∀ i a, (f i a).filterMap naming = [label i a]) (items : List α) :
    (items.mapIdx f).flatten.filterMap naming = items.mapIdx label := by
  induction items generalizing f label with
  | nil => rfl
  | cons a items ih =>
    rw [List.mapIdx_cons, List.mapIdx_cons, List.flatten_cons, List.filterMap_append, one,
      ih fun i => one (i + 1)]
    rfl

theorem nodup_mapIdx {α β : Type} {f : Nat → α → β}
    (distinct : ∀ i j a b, f i a = f j b → i = j) (items : List α) : (items.mapIdx f).Nodup := by
  refine List.pairwise_iff_getElem.mpr fun i j inside inside' before same => ?_
  rw [List.getElem_mapIdx, List.getElem_mapIdx] at same
  exact before.ne (distinct _ _ _ _ same)

/-- The row of buttons shows each button by its label and its index. -/
theorem button?_rowCalls (buttons : List Button) :
    (Panel.rowCalls buttons).filterMap Call.button? = buttons.mapIdx Panel.buttonLabel := by
  refine filterMap_flatten_mapIdx (fun i b => ?_) buttons
  unfold Panel.buttonCalls
  split <;> rfl

/-- Where a frame shows something: in the calls for its controls, and then in the row of buttons. -/
inductive Presents (g : Gui) (d : Dialog) (frame : Frame) (s : Step) : Prop where
  | unsynced {fault : GuiFault} (failed : s.outcome = .error fault)
      (quiet : ∀ c ∈ s.calls, c.IsQuiet)
  | drawn (before between row after : List Call)
      (whole : s.calls = before ++ (Panel.drawControls frame g.cell 0 d.controls).calls ++
        between ++
        row ++ after)
      (quiet : ∀ c ∈ before ++ between ++ after, c.IsQuiet)
      (rowed : row = buttonRow d ∨ row = [] ∧ ∃ fault, s.outcome = .error fault)
      (drawn : ∀ pressed, s.outcome = .ok pressed →
        ∃ changed, (Panel.drawControls frame g.cell 0 d.controls).outcome = .ok changed)

theorem quiet_unwindowed (g : Gui) (delta : Double) : ∀ c ∈ g.unwindowed delta, c.IsQuiet := by
  have flat := g.flat_unwindowed delta
  have synced := makes_sync g delta
  intro c member
  refine ⟨(flat c member).still, ?_⟩
  simp only [unwindowed, List.cons_append, List.mem_cons, List.mem_append, List.not_mem_nil,
    or_false] at member
  rcases member with rfl | member | rfl | rfl | rfl
  · rfl
  · exact Call.silent_of_syncs (synced c member)
  · rfl
  · rfl
  · rfl

theorem quiet_presenting : ∀ c ∈ presenting, c.IsQuiet := by
  simp only [presenting, List.forall_mem_cons]
  exact ⟨⟨fun _ => rfl, rfl⟩, ⟨fun _ => rfl, rfl⟩, ⟨fun _ => rfl, rfl⟩, ⟨fun _ => rfl, rfl⟩,
    ⟨fun _ => rfl, rfl⟩, List.forall_mem_nil _⟩

theorem presents (g : Gui) (d : Dialog) (frame : Frame) (now : Double) (isOpen : g.closed = false) :
    Presents g d frame (g.drawFrame d frame now) := by
  have before := g.quiet_unwindowed (now.sub g.lastFrame)
  obtain ⟨between, quiet, panel⟩ := Panel.calls_draw_around frame g.cell d.controls
  have entered : ∀ c ∈ g.unwindowed (now.sub g.lastFrame) ++ [.beginWindow g.title, .getCursor],
      c.IsQuiet := by
    refine List.forall_mem_append.mpr ⟨before, ?_⟩
    simp only [List.forall_mem_cons]
    exact ⟨⟨fun _ => rfl, rfl⟩, ⟨fun _ => rfl, rfl⟩, List.forall_mem_nil _⟩
  have left : ∀ c ∈ .endWindow :: presenting, c.IsQuiet :=
    List.forall_mem_cons.mpr ⟨⟨fun _ => rfl, rfl⟩, quiet_presenting⟩
  unfold drawFrame
  rw [isOpen]
  dsimp only
  rw [if_neg Bool.false_ne_true]
  split
  · exact .unsynced rfl (List.forall_mem_append.mp before).1
  · split
    · have ended : ∀ c ∈ [Call.endWindow], c.IsQuiet :=
        List.forall_mem_singleton.mpr ⟨fun _ => rfl, rfl⟩
      refine .drawn _ between [] [.endWindow] ?_ (List.forall_mem_append.mpr
        ⟨List.forall_mem_append.mpr ⟨entered, quiet⟩, ended⟩) (.inr ⟨rfl, _, rfl⟩) nofun
      simp [opening, unwindowed, panel]
    · next changed done =>
      have drawn := Panel.drawControls_of_draw done
      have around := List.forall_mem_append.mpr ⟨List.forall_mem_append.mpr ⟨entered, quiet⟩, left⟩
      split
      · refine .drawn _ between (buttonRow d) _ ?_ around (.inl rfl) fun _ _ => ⟨changed, drawn⟩
        simp [opening, unwindowed, panel, buttonRow]
      · refine .drawn _ between (buttonRow d) _ ?_ around (.inl rfl) fun _ _ => ⟨changed, drawn⟩
        simp [opening, unwindowed, panel, buttonRow]

/-- The digits at the end of a list behind a mark are found again, whatever stands before it. -/
theorem eq_of_mark {α : Type} {isDigit : α → Bool} {mark : α} (other : isDigit mark = false)
    {front front' run run' : List α} (digits : ∀ c ∈ run, isDigit c)
    (digits' : ∀ c ∈ run', isDigit c) (same : front ++ mark :: run = front' ++ mark :: run') :
    run = run' := by
  have ending {front run : List α} (digits : ∀ c ∈ run, isDigit c) :
      (front ++ mark :: run).reverse.takeWhile isDigit = run.reverse := by
    rw [List.reverse_append, List.reverse_cons, List.append_assoc,
      List.takeWhile_append_of_pos (by simpa using digits)]
    simp [other]
  have taken := congrArg (fun list => list.reverse.takeWhile isDigit) same
  rw [← List.reverse_inj, ← ending digits, ← ending digits']
  exact taken

/-- The glyphs of a label in the row: the digits of the index stand behind a letter. -/
theorem glyphs_buttonLabel (i : Nat) (b : Button) : (Panel.buttonLabel i b).glyphs =
    (b.label.glyphs ++ "##butto".toList.map .char) ++
      .char 'n' :: (Nat.toDigits 10 i).map .char := by
  simp [Panel.buttonLabel]

def isDigitGlyph : Glyph → Bool
  | .char c => c.isDigit
  | .lone _ => false

/-- A label that ends like the label of another button does not become it. -/
theorem index_of_buttonLabel {i j : Nat} {b b' : Button}
    (same : Panel.buttonLabel i b = Panel.buttonLabel j b') : i = j := by
  have whole := congrArg Text.glyphs same
  rw [glyphs_buttonLabel, glyphs_buttonLabel] at whole
  have digits (n : Nat) : ∀ g ∈ (Nat.toDigits 10 n).map Glyph.char, isDigitGlyph g :=
    List.forall_mem_map.mpr Digit.isDigit_toDigits
  have run := eq_of_mark rfl (digits i) (digits j) whole
  have spelt := (List.map_inj_right fun _ _ => Glyph.char.inj).mp run
  rw [← Digit.toNat_toDigits i, spelt, Digit.toNat_toDigits]

/-- Calls that show nothing play no part. -/
theorem identities_around {before middle between row after : List Call}
    (silent : ∀ c : Call, c.label? = none → naming c = none)
    (quiet : ∀ c ∈ before ++ between ++ after, c.IsQuiet)
    (kept : middle.foldl Call.idsAfter ids = ids) (still : ∀ c ∈ row, c.IsStill) :
    identities naming ids (before ++ middle ++ between ++ row ++ after) =
      identities naming ids middle ++ identities naming ids row := by
  have nothing {calls : List Call} (quiet : ∀ c ∈ calls, c.IsQuiet) :
      identities naming ids calls = [] :=
    identities_silent fun c member => silent c (quiet c member).silent
  have stays {calls : List Call} (quiet : ∀ c ∈ calls, c.IsQuiet) :
      calls.foldl Call.idsAfter ids = ids :=
    ids_of_still fun c member => (quiet c member).still
  rw [List.forall_mem_append, List.forall_mem_append] at quiet
  obtain ⟨⟨quietBefore, quietBetween⟩, quietAfter⟩ := quiet
  simp only [identities_append, List.foldl_append, stays quietBefore, stays quietBetween, kept,
    ids_of_still still, nothing quietBefore, nothing quietBetween, nothing quietAfter,
    List.nil_append, List.append_nil]

theorem still_buttonRow (d : Dialog) : ∀ c ∈ buttonRow d, c.IsStill :=
  fun c member => (Call.flat_of_inRow (calls_buttonRow d c member).1).still

theorem identities_buttonRow (d : Dialog) (ids : List String) :
    identities Call.button? ids (buttonRow d) =
      if d.usesButtons then d.buttons.mapIdx fun i b => ⟨ids, Panel.buttonLabel i b⟩ else [] := by
  rw [identities_of_still (still_buttonRow d)]
  unfold buttonRow
  split
  · rw [button?_rowCalls]
    exact List.ext_getElem (by simp) (by simp)
  · rfl

namespace Presents

/-- What the identities of a frame are made of. -/
structure Parts (d : Dialog) (ids : List String) (s : Step) : Prop where
  /-- The widgets of the controls come first, and then the buttons. -/
  all : identities Call.label? ids s.calls =
    identities Call.widget? ids s.calls ++ identities Call.button? ids s.calls
  widgets : ∃ count ≤ d.controls.length, (identities Call.widget? ids s.calls).map Identity.ids =
      (List.range count).map (fun i => toString i :: ids) ∧
    ∀ pressed, s.outcome = .ok pressed → count = d.controls.length
  buttons : identities Call.button? ids s.calls = identities Call.button? ids (buttonRow d) ∨
    identities Call.button? ids s.calls = [] ∧ ∃ fault, s.outcome = .error fault

theorem parts (made : Presents g d frame s) (ids : List String) : Parts d ids s := by
  have noWidget (c : Call) (silent : c.label? = none) := (Call.label?_eq_none_iff.mp silent).2
  have noButton (c : Call) (silent : c.label? = none) := (Call.label?_eq_none_iff.mp silent).1
  cases made with
  | unsynced failed quiet =>
    have none (naming : Call → Option Text)
        (silent : ∀ c : Call, c.label? = none → naming c = none) :
        identities naming ids s.calls = [] :=
      identities_silent fun c member => silent c (quiet c member).silent
    refine ⟨?_, ⟨0, Nat.zero_le _, ?_, fun pressed done => ?_⟩, .inr ⟨none _ noButton, _, failed⟩⟩
    · rw [none _ fun _ => id, none _ noWidget, none _ noButton]
      rfl
    · rw [none _ noWidget]
      rfl
    · cases failed.symm.trans done
  | drawn before between row after whole quiet rowed drawn =>
    have inRow : ∀ c ∈ row, c.inRow := by
      rcases rowed with rfl | ⟨rfl, _⟩
      · exact fun c member => (calls_buttonRow d c member).1
      · exact List.forall_mem_nil _
    have around {naming : Call → Option Text}
        (silent : ∀ c : Call, c.label? = none → naming c = none) :=
      identities_around silent quiet (Panel.ids_drawControls frame g.cell ids d.controls 0)
        fun c member => (Call.flat_of_inRow (inRow c member)).still
    have noButtons : ∀ c ∈ (Panel.drawControls frame g.cell 0 d.controls).calls, c.button? = none :=
      Panel.button?_drawControls frame g.cell d.controls 0
    have noWidgets : ∀ c ∈ row, c.widget? = none :=
      fun c member => Call.widget?_of_inRow (inRow c member)
    have widgets : identities Call.widget? ids s.calls =
        identities Call.widget? ids (Panel.drawControls frame g.cell 0 d.controls).calls := by
      rw [whole, around noWidget, identities_silent noWidgets, List.append_nil]
    have buttons : identities Call.button? ids s.calls = identities Call.button? ids row := by
      rw [whole, around noButton, identities_silent noButtons, List.nil_append]
    refine ⟨?_, ?_, ?_⟩
    · rw [widgets, buttons, whole, around fun _ => id]
      congr 1
      · refine identities_congr fun c member => ?_
        rw [Call.label?, noButtons c member]
        rfl
      · refine identities_congr fun c member => ?_
        rw [Call.label?, noWidgets c member]
        exact Option.or_none
    · obtain ⟨count, few, places, all⟩ :=
        Panel.identities_drawControls frame g.cell ids d.controls 0
      refine ⟨count, few, ?_, fun pressed done => ?_⟩
      · rw [widgets, places, List.range_eq_range']
      · obtain ⟨changed, finished⟩ := drawn pressed done
        exact all changed finished
    · rw [buttons]
      rcases rowed with rfl | ⟨rfl, failed⟩
      · exact .inl rfl
      · exact .inr ⟨rfl, failed⟩

/-- Different controls stand behind different ids. -/
theorem Parts.nodup_widgets (parts : Parts d ids s) :
    (identities Call.widget? ids s.calls).Nodup := by
  obtain ⟨count, _, places, _⟩ := parts.widgets
  have indices : (((List.range count).map toString).map (· :: ids)).Nodup :=
    (nodup_indices count).map fun _ _ same => (List.cons.inj same).1
  refine List.Nodup.of_map Identity.ids ?_
  rw [List.map_map] at indices
  rw [places]
  exact indices

/-- Different buttons are shown by different strings. -/
theorem Parts.nodup_labels (parts : Parts d ids s) : (s.calls.filterMap Call.button?).Nodup := by
  rw [← labels_identities Call.button? ids]
  rcases parts.buttons with same | ⟨none, _⟩
  · rw [same, labels_identities]
    unfold buttonRow
    split
    · rw [button?_rowCalls]
      exact nodup_mapIdx (fun _ _ _ _ same => index_of_buttonLabel same) _
    · exact .nil
  · rw [none]
    exact .nil

theorem Parts.nodup_buttons (parts : Parts d ids s) :
    (identities Call.button? ids s.calls).Nodup := by
  refine List.Nodup.of_map Identity.label ?_
  rw [labels_identities]
  exact parts.nodup_labels

/-- A control has an id more around it than a button. -/
theorem Parts.disjoint (parts : Parts d ids s) :
    (identities Call.widget? ids s.calls).Disjoint (identities Call.button? ids s.calls) := by
  intro i widget button
  have around : ∃ id, i.ids = id :: ids := by
    obtain ⟨count, _, places, _⟩ := parts.widgets
    have place : i.ids ∈ (identities Call.widget? ids s.calls).map Identity.ids :=
      List.mem_map_of_mem widget
    rw [places] at place
    obtain ⟨n, _, same⟩ := List.mem_map.mp place
    exact ⟨toString n, same.symm⟩
  have bare : i.ids = ids := by
    rcases parts.buttons with same | ⟨none, _⟩
    · rw [same] at button
      exact ids_of_mem (still_buttonRow d) i button
    · rw [none] at button
      cases button
  obtain ⟨id, same⟩ := around
  exact List.cons_ne_self id ids (same.symm.trans bare)

end Presents

/-- No two widgets of a frame have the same ids around them and the same string, whatever the
controls, the labels of the buttons and the answers of the toolkit are, and also when the frame
fails. When it comes to its end there is one widget for each control, with the index of the control
around it, and one for each button. -/
theorem drawFrame_distinct (g : Gui) (d : Dialog) (frame : Frame) (now : Double)
    (ids : List String) :
    let s := g.drawFrame d frame now
    (identities Call.label? ids s.calls).Nodup ∧
      (s.calls.filterMap Call.button?).Nodup ∧
      (identities Call.widget? ids s.calls).Disjoint (identities Call.button? ids s.calls) ∧
      (g.closed = false → ∀ pressed, s.outcome = .ok pressed →
        (identities Call.widget? ids s.calls).map Identity.ids =
            (List.range d.controls.length).map (fun i => toString i :: ids) ∧
          identities Call.button? ids s.calls = if d.usesButtons then
            d.buttons.mapIdx fun i b => ⟨ids, b.label ++ ("##button" ++ toString i : String)⟩
          else []) := by
  cases closed : g.closed with
  | true =>
    have idle : g.drawFrame d frame now = ⟨g, d, [], [], .ok false⟩ := by
      rw [drawFrame, closed]
      rfl
    rw [idle]
    exact ⟨.nil, .nil, List.disjoint_nil_left _,
      fun isOpen => absurd isOpen Bool.false_ne_true.symm⟩
  | false =>
    have parts := (g.presents d frame now closed).parts ids
    refine ⟨?_, parts.nodup_labels, parts.disjoint, fun _ pressed done => ⟨?_, ?_⟩⟩
    · rw [parts.all]
      exact parts.nodup_widgets.append parts.nodup_buttons parts.disjoint
    · obtain ⟨count, _, places, all⟩ := parts.widgets
      rw [places, all pressed done]
    · rcases parts.buttons with same | ⟨_, fault, failed⟩
      · rw [same, identities_buttonRow]
        rfl
      · cases failed.symm.trans done

/-- Controls of one name, and buttons whose labels are equal or end like those of others. -/
def imitating : Dialog :=
  ⟨[⟨.text "a", .text "", .int 0, .int 0, .int 1, .int 1, .edit false (.text "")⟩,
    ⟨.text "a", .text "", .int 0, .int 1, .int 1, .int 1,
      .checkbox (.text "A##button1") (.bool true)⟩],
    [⟨none, "A"⟩, ⟨none, "A"⟩, ⟨none, "A##button1"⟩], true, none⟩

theorem drawFrame_distinct_imitating :
    let s := (shown false).drawFrame imitating (choice 0) .zero
    (shown false).closed = false ∧ s.outcome = .ok false ∧
      (identities Call.label? [] s.calls).Nodup ∧
      (identities Call.widget? [] s.calls).map Identity.ids = [["0"], ["1"]] ∧
      (identities Call.button? [] s.calls).map Identity.label =
        ["A##button0", "A##button1", "A##button1##button2"] := by
  have done : ((shown false).drawFrame imitating (choice 0) .zero).outcome = .ok false :=
    Success.of_toOption (by decide +kernel)
  obtain ⟨distinct, _, _, ended⟩ := (shown false).drawFrame_distinct imitating (choice 0) .zero []
  obtain ⟨widgets, buttons⟩ := ended rfl false done
  refine ⟨rfl, done, distinct, ?_, ?_⟩
  · rw [widgets]
    rfl
  · rw [buttons]
    rfl

end ScriptDialog.Gui
