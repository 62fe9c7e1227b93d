import ScriptDialog.Proofs.Gui.Scopes

/-! What the toolkit tells the widgets of a frame apart by: the ids around a widget and the string
it is shown by. A control shows one widget at most, behind its index, and leaves the ids as they
were. -/
namespace ScriptDialog

namespace Call

/-- The string that a button is shown by. -/
def button? : Call → Option Text
  | .button label => some label
  | _ => none

/-- The string that the widget of a control is shown by. -/
def widget? : Call → Option Text
  | .text label | .disabledText label | .inputText label _ | .inputTextArea label ..
  | .inputInt label _ | .inputFloat label .. | .combo label .. | .checkbox label _
  | .colorEdit label .. => some label
  | _ => none

/-- The string that anything is shown by. -/
def label? (c : Call) : Option Text := c.button?.or c.widget?

/-- The ids around the next call, the innermost first. -/
def idsAfter (ids : List String) : Call → List String
  | .pushId id => id :: ids
  | .popId => ids.tail
  | _ => ids

end Call

/-- What the toolkit tells widgets apart by. -/
structure Identity where
  ids : List String
  label : Text

/-- The identities of the widgets that calls show, by the strings that are asked for. -/
def identities (naming : Call → Option Text) : List String → List Call → List Identity
  | _, [] => []
  | ids, c :: calls =>
    ((naming c).map (Identity.mk ids)).toList ++ identities naming (c.idsAfter ids) calls

variable {naming naming' : Call → Option Text} {ids : List String} {calls calls' : List Call}

theorem identities_append : identities naming ids (calls ++ calls') =
    identities naming ids calls ++ identities naming (calls.foldl Call.idsAfter ids) calls' := by
  induction calls generalizing ids with
  | nil => rfl
  | cons c calls ih =>
    simp only [List.cons_append, identities, ih, List.foldl_cons, List.append_assoc]

theorem identities_congr (same : ∀ c ∈ calls, naming c = naming' c) :
    identities naming ids calls = identities naming' ids calls := by
  induction calls generalizing ids with
  | nil => rfl
  | cons c calls ih =>
    obtain ⟨here, later⟩ := List.forall_mem_cons.mp same
    simp only [identities, here, ih later]

/-- The ids around it are those around the next call. -/
def Call.IsStill (c : Call) : Prop := ∀ ids, c.idsAfter ids = ids

theorem ids_of_still (still : ∀ c ∈ calls, c.IsStill) : calls.foldl Call.idsAfter ids = ids := by
  induction calls with
  | nil => rfl
  | cons c calls ih =>
    obtain ⟨here, later⟩ := List.forall_mem_cons.mp still
    rw [List.foldl_cons, here ids, ih later]

theorem identities_of_still (still : ∀ c ∈ calls, c.IsStill) :
    identities naming ids calls = (calls.filterMap naming).map (Identity.mk ids) := by
  induction calls with
  | nil => rfl
  | cons c calls ih =>
    obtain ⟨here, later⟩ := List.forall_mem_cons.mp still
    rw [identities, here ids, ih later, List.filterMap_cons]
    cases naming c <;> rfl

theorem identities_silent (silent : ∀ c ∈ calls, naming c = none) :
    identities naming ids calls = [] := by
  induction calls generalizing ids with
  | nil => rfl
  | cons c calls ih =>
    obtain ⟨here, later⟩ := List.forall_mem_cons.mp silent
    rw [identities, here, ih later]
    rfl

/-- Apart from the ids, identities are the strings that things are shown by. -/
theorem labels_identities (naming : Call → Option Text) (ids : List String) (calls : List Call) :
    (identities naming ids calls).map Identity.label = calls.filterMap naming := by
  induction calls generalizing ids with
  | nil => rfl
  | cons c calls ih =>
    rw [identities, List.map_append, ih, List.filterMap_cons]
    cases naming c <;> rfl

theorem ids_of_mem (still : ∀ c ∈ calls, c.IsStill) :
    ∀ i ∈ identities naming ids calls, i.ids = ids := by
  intro i member
  rw [identities_of_still still] at member
  obtain ⟨label, _, rfl⟩ := List.mem_map.mp member
  rfl

/-- One more id is around what stands between a push and its pop. -/
theorem identities_scope (id : String) (still : ∀ c ∈ calls, c.IsStill)
    (push : naming (.pushId id) = none) (pop : naming Call.popId = none) :
    identities naming ids (.pushId id :: calls ++ [.popId]) =
      (calls.filterMap naming).map (Identity.mk (id :: ids)) := by
  rw [List.cons_append, identities, push, identities_append, Call.idsAfter,
    identities_of_still still, ids_of_still still]
  simp [identities, pop]

theorem ids_scope (id : String) (still : ∀ c ∈ calls, c.IsStill) :
    (.pushId id :: calls ++ [Call.popId]).foldl Call.idsAfter ids = ids := by
  rw [List.cons_append, List.foldl_cons, List.foldl_append, Call.idsAfter, ids_of_still still]
  rfl

namespace Call

variable {c : Call}

theorem IsFlat.still (flat : c.IsFlat) : c.IsStill := by
  obtain ⟨opens, closes⟩ := flat
  cases c <;> first | exact fun _ => rfl | simp [opens?, closes?] at opens closes

theorem still_of_inControl (inside : c.inControl) : c.IsStill := by
  cases c <;> first | exact fun _ => rfl | cases inside

theorem silent_of_syncs (syncs : c.syncs) : c.label? = none := by
  cases c <;> first | rfl | cases syncs

theorem widget?_of_inRow (inside : c.inRow) : c.widget? = none := by
  cases c <;> first | rfl | cases inside

/-- What shows nothing shows neither a button nor the widget of a control. -/
theorem label?_eq_none_iff : c.label? = none ↔ c.button? = none ∧ c.widget? = none :=
  Option.or_eq_none_iff

end Call

/-- Shows nothing, and leaves the ids as they are. -/
structure Call.IsQuiet (c : Call) : Prop where
  still : c.IsStill
  silent : c.label? = none

namespace Performed

variable {ε α β : Type} {p : Performed ε α} {f : α → Performed ε β}

/-- One widget of a control is shown, or none if something fails before. -/
structure ShowsOne (p : Performed ε α) : Prop where
  few : (p.calls.filterMap Call.widget?).length ≤ 1
  one : ∀ a, p.outcome = .ok a → (p.calls.filterMap Call.widget?).length = 1

namespace ShowsOne

theorem fail (fault : ε) : (fail fault : Performed ε α).ShowsOne := ⟨Nat.zero_le 1, nofun⟩

theorem behind (silent : p.Makes (·.widget? = none)) (rest : ∀ a, (f a).ShowsOne) :
    (p >>= f).ShowsOne := by
  have none : p.calls.filterMap Call.widget? = [] := List.filterMap_eq_nil_iff.mpr silent
  cases done : p.outcome with
  | error fault =>
    rw [bind_of_error done]
    exact ⟨by simp [none], nofun⟩
  | ok a =>
    rw [bind_of_ok done]
    refine ⟨?_, fun b finished => ?_⟩
    · rw [List.filterMap_append, none]
      exact (rest a).few
    · rw [List.filterMap_append, none]
      exact (rest a).one b finished

theorem before (first : p.ShowsOne) (silent : ∀ a, (f a).Makes (·.widget? = none)) :
    (p >>= f).ShowsOne := by
  cases done : p.outcome with
  | error fault =>
    rw [bind_of_error done]
    exact ⟨first.few, nofun⟩
  | ok a =>
    have none : (f a).calls.filterMap Call.widget? = [] := List.filterMap_eq_nil_iff.mpr (silent a)
    rw [bind_of_ok done]
    refine ⟨?_, fun b _ => ?_⟩
    · rw [List.filterMap_append, none, List.append_nil]
      exact first.few
    · rw [List.filterMap_append, none, List.append_nil]
      exact first.one a done

theorem bracket {opening closing : Call} (unshown : opening.widget? = none)
    (unshown' : closing.widget? = none) (inner : p.ShowsOne) :
    (bracket opening closing p).ShowsOne := by
  have same : (Performed.bracket opening closing p).calls.filterMap Call.widget? =
      p.calls.filterMap Call.widget? := by
    simp [unshown, unshown']
  exact ⟨same ▸ inner.few, same ▸ inner.one⟩

end ShowsOne

end Performed

namespace Widget

open Performed

theorem showsOne_ask (cue : Cue) {c : Call} {label : Text} (shows : c.widget? = some label) :
    (ask cue c).ShowsOne := by
  have alone : [c].filterMap Call.widget? = [label] := by rw [List.filterMap_cons, shows]; rfl
  refine ⟨?_, fun a _ => ?_⟩
  · exact (congrArg List.length alone).le
  · exact congrArg List.length alone

theorem showsOne_draw (cue : Cue) (c : Control) (width height : Double) :
    (draw cue c width height).ShowsOne := by
  obtain ⟨name, hint, x, y, w, h, kind⟩ := c
  cases kind with
  | bare => exact .fail _
  | unformed => exact .fail _
  | label text =>
    exact .behind (makes_fitNumber _) fun text =>
      .before (showsOne_ask _ rfl) fun _ => makes_pure _
  | edit multiline value =>
    refine .behind (makes_fitNumber _) fun text => .before ?_ fun _ => makes_pure _
    cases multiline <;> exact showsOne_ask _ rfl
  | intEdit value min max =>
    refine .behind (makes_fitNumber _) fun current => .before (showsOne_ask _ rfl) fun _ => ?_
    split
    · exact .bind (makes_fitNumber _) fun _ => makes_pure _
    · exact makes_pure _
  | floatEdit value min max step =>
    refine .behind ?_ fun size => .behind (makes_fitNumber _) fun current =>
      .before (showsOne_ask _ rfl) fun _ => ?_
    · refine .bind (makes_fit _) fun positive => ?_
      split
      · exact makes_fitNumber _
      · exact makes_pure _
    · split
      · exact .bind (makes_fitNumber _) fun _ => makes_pure _
      · exact makes_pure _
  | dropdown value items =>
    refine .behind (makes_fit _) fun index => ?_
    split
    · exact .behind (makes_fitNumber _) fun text =>
        .before (showsOne_ask _ rfl) fun _ => makes_pure _
    · refine .behind (makes_fit _) fun choices => .before (showsOne_ask _ rfl) fun _ => ?_
      split
      · exact .bind (makes_fitNumber _) fun _ => .bind (makes_fit _) fun _ => makes_pure _
      · exact makes_pure _
  | checkbox label value =>
    exact .behind (makes_fitNumber _) fun text =>
      .before (showsOne_ask _ rfl) fun _ => makes_pure _
  | color declared value alpha =>
    refine .behind (makes_fit _) fun base => .behind (makes_fitNumber _) fun channels =>
      .before (showsOne_ask _ rfl) fun _ => ?_
    split
    · exact .bind (makes_fit _) fun _ => .bind (makes_ofExcept _) fun _ => makes_pure _
    · exact makes_pure _

end Widget

namespace Panel

open Performed

variable (frame : Frame) (cell : Value) (ids : List String)

theorem makes_tooltip_silent (cue : Cue) (hint : Value) :
    (tooltip cue hint).Makes (·.widget? = none) :=
  makes_tooltip cue rfl rfl

theorem showsOne_drawControl (index : Nat) (c : Control) :
    (drawControl frame cell index c).ShowsOne := by
  refine .behind (makes_ofExcept _) fun rect => .bracket rfl rfl ?_
  refine .behind (makes_ofExcept _) fun x => .behind (makes_ofExcept _) fun y =>
    .behind ((makes_call _).mpr rfl) fun _ => .before ?_ fun kind? =>
      .bind (makes_tooltip_silent _ _) fun _ => makes_pure _
  exact .bracket rfl rfl (Widget.showsOne_draw _ _ _ _)

/-- A control has its index as the innermost id around its widget. -/
theorem identities_drawControl (index : Nat) (c : Control) :
    ∃ labels : List Text, labels.length ≤ 1 ∧
      identities Call.widget? ids (drawControl frame cell index c).calls =
        labels.map (Identity.mk (toString index :: ids)) ∧
      ∀ kind?, (drawControl frame cell index c).outcome = .ok kind? → labels.length = 1 := by
  have shows := showsOne_drawControl frame cell index c
  rcases calls_drawControl frame cell index c with ⟨none, fault, failed⟩ | ⟨inner, whole, inside⟩
  · refine ⟨[], Nat.zero_le 1, by rw [none]; rfl, fun kind? done => ?_⟩
    cases failed.symm.trans done
  · have still : ∀ call ∈ inner, call.IsStill :=
      fun call member => Call.still_of_inControl (inside call member)
    have labels : (drawControl frame cell index c).calls.filterMap Call.widget? =
        inner.filterMap Call.widget? := by
      rw [whole, List.filterMap_append]
      exact List.append_nil _
    refine ⟨inner.filterMap Call.widget?, labels ▸ shows.few, ?_, labels ▸ shows.one⟩
    rw [whole]
    exact identities_scope _ still rfl rfl

theorem ids_drawControl (index : Nat) (c : Control) :
    (drawControl frame cell index c).calls.foldl Call.idsAfter ids = ids := by
  rcases calls_drawControl frame cell index c with ⟨none, _⟩ | ⟨inner, whole, inside⟩
  · rw [none]
    rfl
  · rw [whole]
    exact ids_scope _ fun call member => Call.still_of_inControl (inside call member)

theorem ids_drawControls (controls : List Control) (index : Nat) :
    (drawControls frame cell index controls).calls.foldl Call.idsAfter ids = ids := by
  induction controls generalizing index with
  | nil => rfl
  | cons c controls ih =>
    unfold drawControls
    dsimp only
    split
    · exact ids_drawControl frame cell ids index c
    · rw [List.foldl_append, ids_drawControl, ih (index + 1)]

theorem identities_drawControls (controls : List Control) (index : Nat) :
    ∃ count ≤ controls.length,
      (identities Call.widget? ids
        (drawControls frame cell index controls).calls).map Identity.ids =
        (List.range' index count).map (fun i => toString i :: ids) ∧
      ∀ changed, (drawControls frame cell index controls).outcome = .ok changed →
        count = controls.length := by
  induction controls generalizing index with
  | nil => exact ⟨0, le_rfl, rfl, fun _ _ => rfl⟩
  | cons c controls ih =>
    obtain ⟨count, few, later, all⟩ := ih (index + 1)
    obtain ⟨labels, one, here, drawn⟩ := identities_drawControl frame cell ids index c
    unfold drawControls
    dsimp only
    split
    · next fault failed =>
      -- the widget may or may not be there; no later control is drawn either way
      refine ⟨labels.length, one.trans (Nat.succ_pos _), ?_, nofun⟩
      rw [here]
      match labels, one with
      | [], _ => rfl
      | [label], _ => rfl
    · next kind? done =>
      obtain ⟨label, rfl⟩ := List.length_eq_one_iff.mp (drawn kind? done)
      refine ⟨count + 1, Nat.succ_le_succ few, ?_, fun changed finished => ?_⟩
      · rw [identities_append, ids_drawControl, List.map_append, here, later, List.range'_succ]
        rfl
      · obtain ⟨rest, finished, _⟩ := Success.of_map finished
        rw [all rest finished, List.length_cons]

/-- Around the calls for its controls a panel shows nothing. -/
theorem calls_draw_around (controls : List Control) :
    ∃ after : List Call, (∀ c ∈ after, c.IsQuiet) ∧ (draw frame cell controls).calls =
      [.getCursor] ++ (drawControls frame cell 0 controls).calls ++ after := by
  unfold draw
  dsimp only
  split
  · exact ⟨[], List.forall_mem_nil _, by simp⟩
  · split
    · exact ⟨[], List.forall_mem_nil _, by simp⟩
    · exact ⟨[.setCursor _ _], List.forall_mem_singleton.mpr ⟨fun _ => rfl, rfl⟩, rfl⟩

theorem button?_drawControls (controls : List Control) (index : Nat) :
    ∀ c ∈ (drawControls frame cell index controls).calls, c.button? = none := by
  intro c member
  have looped : c.inLoop false := calls_drawControls controls index c member
  cases c <;> first | rfl | exact nomatch looped

end Panel

end ScriptDialog
