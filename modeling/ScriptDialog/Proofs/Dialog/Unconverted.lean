import ScriptDialog.Dialog.Build
import ScriptDialog.Proofs.Control.Misread

/-! What building a dialog cannot cope with. It makes a dialog, or says what is wrong with the
definition, unless the first thing in its way is a value that a conversion fails on. -/
namespace ScriptDialog

namespace Value

/-- Text, or a number with a double. -/
def Textual (v : Value) : Prop :=
  (∃ t, v = .text t) ∨ (∃ x, v = .float x) ∨ ∃ n, v = .int n ∧ n.natAbs < Double.wideFrom

/-- Neither taken for text nor refused: an integer without a double, or a value of another kind
that a message cannot show. -/
def Unconverted (v : Value) : Prop :=
  (∃ n, v = .int n ∧ Double.wideFrom ≤ n.natAbs) ∨
    ((∀ t, v ≠ .text t) ∧ v.plainNumber? = none ∧ v.writable = false)

end Value

namespace Dialog

/-- What becomes of a value that has to be text. -/
inductive TextOutcome (part : TextPart) : Value → Except BuildFault Text → Prop where
  | text (t : Text) : TextOutcome part (.text t) (.ok t)
  | float (x : Double) : TextOutcome part (.float x) (.ok (String.ofList (Decimal.plainText x)))
  | narrow {n : Int} (narrow : n.natAbs < Double.wideFrom) {t : Text} :
      TextOutcome part (.int n) (.ok t)
  | wide {n : Int} (wide : Double.wideFrom ≤ n.natAbs) :
      TextOutcome part (.int n) (.error (.unfit (.number .tooWide)))
  | other {v : Value} (noText : ∀ t, v ≠ .text t) (noNumber : v.plainNumber? = none) :
      TextOutcome part v (.error (.showing v (.notText part v)))

theorem textOf_int (part : TextPart) (n : Int) : textOf part (.int n) =
    (Text.whole <$> (fun x => String.ofList (Decimal.plainText x)) <$> Double.ofInt n).mapError
      fun fault => .unfit (.number fault) := rfl

theorem textOf_wide {n : Int} (wide : Double.wideFrom ≤ n.natAbs) (part : TextPart) :
    textOf part (.int n) = .error (.unfit (.number .tooWide)) := by
  rw [textOf_int, Double.ofInt, (Double.ofInt?_eq_none_iff n).mpr wide]
  rfl

theorem textOutcome_int (part : TextPart) (n : Int) :
    TextOutcome part (.int n) (textOf part (.int n)) := by
  by_cases wide : Double.wideFrom ≤ n.natAbs
  · rw [textOf_wide wide]
    exact .wide wide
  · cases found : Double.ofInt? n with
    | none => exact absurd ((Double.ofInt?_eq_none_iff n).mp found) wide
    | some x =>
      rw [textOf_int, Double.ofInt, found]
      exact .narrow (Nat.not_le.mp wide)

theorem textOutcome (part : TextPart) (v : Value) : TextOutcome part v (textOf part v) := by
  cases v with
  | atom a =>
    cases a with
    | text t => exact .text t
    | float x => exact .float x
    | int n => exact textOutcome_int part n
    | null | bool | bytes | exotic => exact .other (by rintro _ ⟨⟩) rfl
  | list | tuple | map | color => exact .other (by rintro _ ⟨⟩) rfl

namespace TextOutcome

variable {part : TextPart} {v : Value} {made : Except BuildFault Text}

theorem ok_iff (outcome : TextOutcome part v made) : (∃ t, made = .ok t) ↔ v.Textual := by
  cases outcome with
  | text t => exact iff_of_true ⟨_, rfl⟩ (.inl ⟨t, rfl⟩)
  | float x => exact iff_of_true ⟨_, rfl⟩ (.inr (.inl ⟨x, rfl⟩))
  | narrow narrow => exact iff_of_true ⟨_, rfl⟩ (.inr (.inr ⟨_, rfl, narrow⟩))
  | wide wide =>
    refine iff_of_false (by rintro ⟨_, ⟨⟩⟩) ?_
    rintro (⟨_, ⟨⟩⟩ | ⟨_, ⟨⟩⟩ | ⟨_, ⟨⟩, narrow⟩)
    exact Nat.not_le.mpr narrow wide
  | other noText noNumber =>
    refine iff_of_false (by rintro ⟨_, ⟨⟩⟩) ?_
    rintro (⟨t, rfl⟩ | ⟨x, rfl⟩ | ⟨n, rfl, _⟩)
    · exact noText t rfl
    · cases noNumber
    · cases noNumber

theorem foreign_iff (outcome : TextOutcome part v made) :
    Fails BuildFault.Foreign made ↔ v.Unconverted := by
  cases outcome with
  | text t =>
    refine iff_of_false Fails.ok_iff.mp ?_
    rintro (⟨_, ⟨⟩, _⟩ | ⟨noText, _⟩)
    exact noText t rfl
  | float x =>
    refine iff_of_false Fails.ok_iff.mp ?_
    rintro (⟨_, ⟨⟩, _⟩ | ⟨_, ⟨⟩, _⟩)
  | narrow narrow =>
    refine iff_of_false Fails.ok_iff.mp ?_
    rintro (⟨_, ⟨⟩, wide⟩ | ⟨_, ⟨⟩, _⟩)
    exact Nat.not_le.mpr narrow wide
  | wide wide => exact iff_of_true ⟨_, rfl, trivial⟩ (.inl ⟨_, rfl, wide⟩)
  | other noText noNumber =>
    rw [Fails.error_iff, BuildFault.foreign_showing id]
    constructor
    · exact fun wide => .inr ⟨noText, noNumber, wide⟩
    · rintro (⟨n, rfl, _⟩ | ⟨_, _, wide⟩)
      · cases noNumber
      · exact wide

end TextOutcome

theorem textOf_ok_iff (part : TextPart) (v : Value) :
    (∃ t, textOf part v = .ok t) ↔ v.Textual :=
  (textOutcome part v).ok_iff

theorem textOf_foreign_iff (part : TextPart) (v : Value) :
    Fails BuildFault.Foreign (textOf part v) ↔ v.Unconverted :=
  (textOutcome part v).foreign_iff

/-- An entry with a name and a label. -/
def IsPair (entry : Value) : Prop := ∃ name label, entry.items? = some [name, label]

theorem idPair_ok_iff (entry : Value) : (∃ pair, idPair entry = .ok pair) ↔ IsPair entry := by
  unfold idPair IsPair
  split
  · next name label items => exact iff_of_true ⟨_, rfl⟩ ⟨name, label, items⟩
  · next other => exact iff_of_false (by rintro ⟨_, ⟨⟩⟩) fun ⟨name, label, items⟩ => other _ _ items

theorem idPair_foreign_iff (entry : Value) :
    Fails BuildFault.Foreign (idPair entry) ↔ ¬ IsPair entry ∧ entry.writable = false := by
  unfold idPair IsPair
  split
  · next name label items =>
    exact iff_of_false Fails.ok_iff.mp fun ⟨noPair, _⟩ => noPair ⟨name, label, items⟩
  · next other =>
    rw [Fails.error_iff, BuildFault.foreign_showing id]
    exact (and_iff_right fun ⟨name, label, items⟩ => other _ _ items).symm

theorem idPairs_foreign_iff (ids : Value) : Fails BuildFault.Foreign (idPairs ids) ↔
    ∃ entries, ids.items? = some entries ∧
      First IsPair (fun entry => ¬ IsPair entry ∧ entry.writable = false) entries := by
  unfold idPairs
  split
  · exact iff_of_false Fails.ok_iff.mp (by rintro ⟨_, ⟨⟩, _⟩)
  · split
    · next entries listed =>
      rw [Fails.mapM_iff, first_congr idPair_ok_iff idPair_foreign_iff, listed]
      simp
    · next none =>
      exact iff_of_false Fails.ok_iff.mp (by rw [none]; rintro ⟨_, ⟨⟩, _⟩)

theorem labelButtons_foreign_iff (labels : Value) : Fails BuildFault.Foreign (labelButtons labels) ↔
    ∃ items, labels.items? = some items ∧ First Value.Textual Value.Unconverted items := by
  unfold labelButtons
  split
  · next items listed =>
    have made (label : Value) :
        (∃ b, (Button.mk none ·) <$> textOf .label label = .ok b) ↔ label.Textual :=
      Success.map_iff.trans (textOf_ok_iff .label label)
    have fails (label : Value) :
        Fails BuildFault.Foreign ((Button.mk none ·) <$> textOf .label label) ↔
          label.Unconverted :=
      Fails.map_iff.trans (textOf_foreign_iff .label label)
    rw [Fails.mapM_iff, first_congr made fails, listed]
    simp
  · next none =>
    exact iff_of_false Fails.ok_iff.mp (by rw [none]; rintro ⟨_, ⟨⟩, _⟩)

theorem buildControls_foreign_iff (controls : Value) :
    Fails BuildFault.Foreign (buildControls controls) ↔
      ∃ records, controls.items? = some records ∧
        First Control.Buildable Control.Unconverted records := by
  unfold buildControls
  split
  · next none =>
    rw [Fails.error_iff, none]
    exact iff_of_false id (by rintro ⟨_, ⟨⟩, _⟩)
  · next records listed =>
    rw [Fails.mapM_iff, first_congr Control.ofRecord_ok_iff Control.ofRecord_foreign_iff, listed]
    simp

/-- Giving a meaning to a button leaves the labels as they are. -/
theorem labels_assignId? {id : Option ButtonId} {label : Text} {buttons buttons' : List Button}
    (assigned : assignId? id label buttons = some buttons') :
    buttons'.map Button.label = buttons.map Button.label := by
  induction buttons generalizing buttons' with
  | nil => cases assigned
  | cons b buttons ih =>
    rw [assignId?] at assigned
    split at assigned
    · cases assigned
      rfl
    · obtain ⟨rest, later, rfl⟩ := Option.map_eq_some_iff.mp assigned
      rw [List.map_cons, List.map_cons, ih later]

theorem assignId?_eq_none_iff {id : Option ButtonId} {label : Text} {buttons : List Button} :
    assignId? id label buttons = none ↔ label ∉ buttons.map Button.label := by
  induction buttons with
  | nil => simp [assignId?]
  | cons b buttons ih =>
    rw [assignId?, List.map_cons, List.mem_cons, not_or, ← ih]
    split
    · next same => simp [same]
    · next other => simp [Ne.symm other]

/-- The pair has a name, and a label that is declared. -/
def Assignable (labels : List Text) (pair : Value × Value) : Prop :=
  pair.1.Textual ∧ ∃ label, textOf .label pair.2 = .ok label ∧ label ∈ labels

/-- A conversion fails in the pair, first in its name and then in its label. -/
def PairUnconverted (pair : Value × Value) : Prop :=
  pair.1.Unconverted ∨ pair.1.Textual ∧ pair.2.Unconverted

/-- What becomes of the buttons at a pair whose name and label are text. -/
theorem assignPair_of_text {buttons : List Button} {pair : Value × Value} {name label : Text}
    (named : textOf .idName pair.1 = .ok name) (labelled : textOf .label pair.2 = .ok label) :
    assignPair buttons pair =
      match assignId? (ButtonId.ofName? name) label buttons with
      | some buttons => .ok buttons
      | none => .error (.undeclaredLabel name) := by
  unfold assignPair
  rw [named, labelled]
  dsimp only [bind, Except.bind]
  cases assignId? (ButtonId.ofName? name) label buttons <;> rfl

theorem assignPair_ok_iff (buttons : List Button) (pair : Value × Value) :
    (∃ buttons', assignPair buttons pair = .ok buttons') ↔
      Assignable (buttons.map Button.label) pair := by
  constructor
  · rintro ⟨buttons', assigned⟩
    obtain ⟨name, named, done⟩ := Success.of_bind assigned
    obtain ⟨label, labelled, _⟩ := Success.of_bind done
    refine ⟨(textOf_ok_iff .idName pair.1).mp ⟨name, named⟩, label, labelled, ?_⟩
    rw [assignPair_of_text named labelled] at assigned
    by_contra undeclared
    rw [assignId?_eq_none_iff.mpr undeclared] at assigned
    cases assigned
  · rintro ⟨textual, label, labelled, declared⟩
    obtain ⟨name, named⟩ := (textOf_ok_iff .idName pair.1).mpr textual
    rw [assignPair_of_text named labelled]
    cases found : assignId? (ButtonId.ofName? name) label buttons with
    | none => exact absurd declared (assignId?_eq_none_iff.mp found)
    | some buttons' => exact ⟨buttons', rfl⟩

theorem assignPair_foreign_iff (buttons : List Button) (pair : Value × Value) :
    Fails BuildFault.Foreign (assignPair buttons pair) ↔ PairUnconverted pair := by
  unfold PairUnconverted
  rw [← textOf_foreign_iff .idName, ← textOf_foreign_iff .label, ← textOf_ok_iff .idName]
  cases named : textOf .idName pair.1 with
  | error fault =>
    have failed : assignPair buttons pair = .error fault := by
      unfold assignPair
      rw [named]
      rfl
    rw [failed, Fails.error_iff, Fails.error_iff]
    exact (or_iff_left (by rintro ⟨⟨_, ⟨⟩⟩, _⟩)).symm
  | ok name =>
    rw [Fails.ok_iff, false_or, and_iff_right ⟨name, rfl⟩]
    cases labelled : textOf .label pair.2 with
    | error fault =>
      have failed : assignPair buttons pair = .error fault := by
        unfold assignPair
        rw [named, labelled]
        rfl
      rw [failed, Fails.error_iff, Fails.error_iff]
    | ok label =>
      rw [assignPair_of_text named labelled, Fails.ok_iff]
      refine iff_of_false ?_ id
      split
      · exact Fails.ok_iff.mp
      · exact Fails.error_iff.mp

theorem labels_assignPair {buttons buttons' : List Button} {pair : Value × Value}
    (assigned : assignPair buttons pair = .ok buttons') :
    buttons'.map Button.label = buttons.map Button.label := by
  obtain ⟨name, named, done⟩ := Success.of_bind assigned
  obtain ⟨label, labelled, _⟩ := Success.of_bind done
  rw [assignPair_of_text named labelled] at assigned
  split at assigned
  · next found =>
    cases assigned
    exact labels_assignId? found
  · cases assigned

/-- The labels stay, so each pair meets those that were declared. -/
theorem assignPairs_foreign_iff (pairs : List (Value × Value)) (buttons : List Button) :
    Fails BuildFault.Foreign (pairs.foldlM assignPair buttons) ↔
      First (Assignable (buttons.map Button.label)) PairUnconverted pairs := by
  induction pairs generalizing buttons with
  | nil => exact iff_of_false Fails.ok_iff.mp first_nil
  | cons pair pairs ih =>
    rw [List.foldlM_cons, Fails.bind_iff, first_cons, assignPair_foreign_iff, ← assignPair_ok_iff]
    refine or_congr_right ?_
    constructor
    · rintro ⟨buttons', assigned, later⟩
      rw [ih, labels_assignPair assigned] at later
      exact ⟨⟨buttons', assigned⟩, later⟩
    · rintro ⟨⟨buttons', assigned⟩, later⟩
      refine ⟨buttons', assigned, ?_⟩
      rw [ih, labels_assignPair assigned]
      exact later

/-- The first thing in the way of building is a value that a conversion fails on: in a record, in a
label, in an entry that is no pair, or in a pair, each after all before it was in order. -/
inductive Unconverted (controls labels ids : Value) (includeButtons : Bool) : Prop where
  | record {records : List Value} (listed : controls.items? = some records)
      (first : First Control.Buildable Control.Unconverted records)
  | label {made : List Control} {items : List Value} (built : buildControls controls = .ok made)
      (buttons : includeButtons = true) (listed : labels.items? = some items)
      (first : First Value.Textual Value.Unconverted items)
  | entry {made : List Control} {declared : List Button} {entries : List Value}
      (built : buildControls controls = .ok made) (buttons : includeButtons = true)
      (labelled : labelButtons labels = .ok declared) (listed : ids.items? = some entries)
      (first : First IsPair (fun entry => ¬ IsPair entry ∧ entry.writable = false) entries)
  | pair {made : List Control} {declared : List Button} {pairs : List (Value × Value)}
      (built : buildControls controls = .ok made) (buttons : includeButtons = true)
      (labelled : labelButtons labels = .ok declared) (paired : idPairs ids = .ok pairs)
      (first : First (Assignable (declared.map Button.label)) PairUnconverted pairs)

theorem buildButtons_foreign_iff (labels ids : Value) :
    Fails BuildFault.Foreign (buildButtons labels ids true) ↔
      Fails BuildFault.Foreign (labelButtons labels) ∨
        ∃ declared, labelButtons labels = .ok declared ∧
          (Fails BuildFault.Foreign (idPairs ids) ∨
            ∃ pairs, idPairs ids = .ok pairs ∧
              Fails BuildFault.Foreign (pairs.foldlM assignPair declared)) := by
  unfold buildButtons
  simp only [if_true, Fails.bind_iff, Fails.pure_iff, and_false, exists_false, or_false]

theorem build_fails_iff {sort : BuildFault → Prop} (controls labels ids : Value)
    (includeButtons : Bool) :
    Fails sort (build controls labels ids includeButtons) ↔ Fails sort (buildControls controls) ∨
      ∃ made, buildControls controls = .ok made ∧
        Fails sort (buildButtons labels ids includeButtons) := by
  unfold build
  simp only [Fails.bind_iff, Fails.pure_iff, and_false, exists_false, or_false]

theorem build_foreign_iff (controls labels ids : Value) (includeButtons : Bool) :
    Fails BuildFault.Foreign (build controls labels ids includeButtons) ↔
      Unconverted controls labels ids includeButtons := by
  rw [build_fails_iff, buildControls_foreign_iff]
  constructor
  · rintro (⟨records, listed, first⟩ | ⟨made, built, fails⟩)
    · exact .record listed first
    · cases includeButtons with
      | false => exact absurd fails Fails.ok_iff.mp
      | true =>
        rw [buildButtons_foreign_iff, labelButtons_foreign_iff] at fails
        rcases fails with ⟨items, listed, first⟩ | ⟨declared, labelled, fails⟩
        · exact .label built rfl listed first
        · rw [idPairs_foreign_iff] at fails
          rcases fails with ⟨entries, listed, first⟩ | ⟨pairs, paired, fails⟩
          · exact .entry built rfl labelled listed first
          · exact .pair built rfl labelled paired
              ((assignPairs_foreign_iff pairs declared).mp fails)
  · intro unconverted
    cases unconverted with
    | record listed first => exact .inl ⟨_, listed, first⟩
    | label built buttons listed first =>
      subst buttons
      refine .inr ⟨_, built, (buildButtons_foreign_iff labels ids).mpr (.inl ?_)⟩
      exact (labelButtons_foreign_iff labels).mpr ⟨_, listed, first⟩
    | entry built buttons labelled listed first =>
      subst buttons
      refine .inr ⟨_, built,
        (buildButtons_foreign_iff labels ids).mpr (.inr ⟨_, labelled, .inl ?_⟩)⟩
      exact (idPairs_foreign_iff ids).mpr ⟨_, listed, first⟩
    | pair built buttons labelled paired first =>
      subst buttons
      refine .inr ⟨_, built,
        (buildButtons_foreign_iff labels ids).mpr (.inr ⟨_, labelled, .inr ?_⟩)⟩
      exact ⟨_, paired, (assignPairs_foreign_iff _ _).mpr first⟩

/-- For every definition: a dialog is built, or a fault says what is wrong with the definition, just
unless a value that a conversion fails on comes first. -/
theorem build_settled_iff (controls labels ids : Value) (includeButtons : Bool) :
    ((∃ d, build controls labels ids includeButtons = .ok d) ∨
      ∃ fault, build controls labels ids includeButtons = .error fault ∧ ¬ fault.Foreign) ↔
      ¬ Unconverted controls labels ids includeButtons := by
  rw [← build_foreign_iff]
  cases build controls labels ids includeButtons with
  | error fault =>
    rw [Fails.error_iff]
    constructor
    · rintro (⟨_, ⟨⟩⟩ | ⟨_, ⟨⟩, own⟩)
      exact own
    · exact fun own => .inr ⟨fault, rfl, own⟩
  | ok d => exact iff_of_true (.inl ⟨d, rfl⟩) Fails.ok_iff.mp

/-- A record of an integer edit with a value. -/
def intRecord (value : String) : Value :=
  .map [(.text "class", .text "intedit"), (.text "value", .text value)]

/-- A label without a double, a numeral behind a separator, and a record that is only refused in a
message, which cannot show it. -/
theorem build_unsettled :
    build (.list []) (.list [.int (Nat.pow 10 400)]) .null true =
        .error (.unfit (.number .tooWide)) ∧
      build (.list [intRecord "\x1c1"]) .null .null true =
        .error (.unfit (.number (.unreadable "'\\x1c1'"))) ∧
      build (.list [.int (Nat.pow 10 digitLimit)]) .null .null true =
        .error (.unfit (.number .tooWideToWrite)) := by
  refine ⟨?_, ?_, ?_⟩
  · have wide : Double.wideFrom ≤ (Nat.pow 10 400 : Int).natAbs := by decide +kernel
    have labelled : labelButtons (.list [.int (Nat.pow 10 400)]) =
        .error (.unfit (.number .tooWide)) := by
      have one (v : Value) : labelButtons (.list [v]) =
        [v].mapM fun label => (Button.mk none ·) <$> textOf .label label := rfl
      rw [one, List.mapM_cons, textOf_wide wide]
      rfl
    unfold build buildButtons
    rw [labelled]
    rfl
  · rfl
  · have wide : (Value.int (Nat.pow 10 digitLimit)).writable = false := by decide +kernel
    have refused (n : Int) : Control.ofRecord (.int n) =
      .error (.showing (.int n) (.recordNoMapping (.int n))) := rfl
    have one (v : Value) : buildControls (.list [v]) = [v].mapM Control.ofRecord := rfl
    unfold build
    rw [one, List.mapM_cons, refused, BuildFault.showing, wide]
    rfl

end Dialog

end ScriptDialog
