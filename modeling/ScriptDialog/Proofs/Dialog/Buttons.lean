import ScriptDialog.Proofs.Dialog.Unconverted
import ScriptDialog.Proofs.Field.Settled

/-! The buttons of a dialog: one for each declared label, in order. Pairs give the buttons their
meanings; the first button with a label has the meaning of the last pair with it, and every later
button with the label has none. -/
namespace ScriptDialog.Dialog

/-- The texts of a pair. -/
def ShowsPair (pair : Value × Value) (shown : Text × Text) : Prop :=
  Field.Shows pair.1 shown.1 ∧ Field.Shows pair.2 shown.2

/-- The items of a list; anything else has none. -/
def listed (v : Value) : List Value := v.items?.getD []

/-- The pairs that stand in a value: the entries of a mapping, and otherwise the items of a list,
all of them two-element lists. -/
inductive PairsOf : Value → List (Value × Value) → Prop where
  | mapping (entries : Entries) :
      PairsOf (.map entries) (entries.map fun entry => (.atom entry.1, entry.2))
  | list {ids : Value} {pairs : List (Value × Value)} (noMapping : ids.entries? = none)
      (paired : List.Forall₂ (fun item pair => item.items? = some [pair.1, pair.2]) (listed ids)
        pairs) : PairsOf ids pairs

/-- A name and a label that stand together in a value. -/
inductive HasPair : (ids name label : Value) → Prop where
  | entry {entries : Entries} {key : Atom} {label : Value} (member : (key, label) ∈ entries) :
      HasPair (.map entries) (.atom key) label
  | item {ids item name label : Value} (member : item ∈ listed ids)
      (paired : item.items? = some [name, label]) : HasPair ids name label

/-- The meaning that the last pair with the label names. -/
def idUnder (pairs : List (Text × Text)) (label : Text) : Option ButtonId :=
  (pairs.filter fun pair => pair.2 == label).getLast?.bind fun pair => ButtonId.ofName? pair.1

/-- One button for each text, in order. The first one with a text has the meaning of the last pair
with that label; the others have none. -/
structure Assigned (texts : List Text) (pairs : List (Text × Text)) (buttons : List Button) :
    Prop where
  labels : buttons.map Button.label = texts
  ids : ∀ i b, buttons[i]? = some b →
    b.id = if b.label ∈ texts.take i then none else idUnder pairs b.label

variable {texts : List Text} {pairs : List (Text × Text)} {buttons buttons' : List Button}
  {name label : Text}

@[simp] theorem idUnder_nil (label : Text) : idUnder [] label = none := rfl

theorem idUnder_concat (pairs : List (Text × Text)) (name label other : Text) :
    idUnder (pairs ++ [(name, label)]) other =
      if label = other then ButtonId.ofName? name else idUnder pairs other := by
  by_cases same : label = other <;> simp [idUnder, same]

theorem toOption_textOf (part : TextPart) (v : Value) :
    (textOf part v).toOption = Field.text? v := by
  cases v with
  | atom a =>
    cases a with
    | text s => rfl
    | float x => rfl
    | int n =>
      rw [← Value.int, textOf_int, Field.text?_int, ← Field.toOption_ofInt]
      cases Double.ofInt n <;> rfl
    | null | bool | bytes | exotic => rfl
  | list | tuple | map | color => rfl

theorem textOf_eq_ok_iff {part : TextPart} {v : Value} {s : Text} :
    textOf part v = .ok s ↔ Field.Shows v s := by
  rw [← Success.toOption_iff, toOption_textOf, Field.text?_eq_some_iff]

/-- Only the first button with the label takes the meaning. -/
theorem ids_of_assignId? {id : Option ButtonId}
    (assigned : assignId? id label buttons = some buttons')
    {i : Nat} {b' : Button} (place : buttons'[i]? = some b') :
    ∃ b, buttons[i]? = some b ∧ b'.label = b.label ∧
      b'.id = if b.label = label ∧ label ∉ (buttons.map Button.label).take i then id else b.id := by
  induction buttons generalizing buttons' i with
  | nil => cases assigned
  | cons first buttons ih =>
    rw [assignId?] at assigned
    by_cases here : first.label = label
    · rw [if_pos here] at assigned
      cases assigned
      cases i with
      | zero =>
        cases place
        exact ⟨first, rfl, rfl, by simp [here]⟩
      | succ i =>
        -- the label stands before every later button
        refine ⟨b', by simpa using place, rfl, ?_⟩
        simp [here]
    · rw [if_neg here] at assigned
      obtain ⟨rest, later, rfl⟩ := Option.map_eq_some_iff.mp assigned
      cases i with
      | zero =>
        cases place
        exact ⟨_, rfl, rfl, by simp [here]⟩
      | succ i =>
        obtain ⟨b, before, labelled, meaning⟩ := ih later (by simpa using place)
        refine ⟨b, by simpa using before, labelled, ?_⟩
        simp [meaning, Ne.symm here]

theorem Assigned.assignId? (assigned : Assigned texts pairs buttons)
    (step : Dialog.assignId? (ButtonId.ofName? name) label buttons = some buttons') :
    Assigned texts (pairs ++ [(name, label)]) buttons' where
  labels := (labels_assignId? step).trans assigned.labels
  ids := by
    intro i b' place
    obtain ⟨b, before, labelled, meaning⟩ := ids_of_assignId? step place
    rw [meaning, labelled, assigned.labels, assigned.ids i b before, idUnder_concat]
    -- the new pair is the last one for its label, and only the first button of the label meets it
    by_cases here : b.label = label
    · subst here
      by_cases repeated : b.label ∈ texts.take i <;> simp [repeated]
    · simp [here, Ne.symm here]

theorem Assigned.assignPair {pair : Value × Value} (assigned : Assigned texts pairs buttons)
    (step : Dialog.assignPair buttons pair = .ok buttons') :
    ∃ shown, ShowsPair pair shown ∧ Assigned texts (pairs ++ [shown]) buttons' := by
  obtain ⟨name, named, rest⟩ := Success.of_bind step
  obtain ⟨label, labelled, _⟩ := Success.of_bind rest
  refine ⟨(name, label), ⟨textOf_eq_ok_iff.mp named, textOf_eq_ok_iff.mp labelled⟩, ?_⟩
  rw [assignPair_of_text named labelled] at step
  split at step
  · next found =>
    cases step
    exact assigned.assignId? found
  · cases step

theorem Assigned.assignPairs {entries : List (Value × Value)}
    (assigned : Assigned texts pairs buttons)
    (run : entries.foldlM Dialog.assignPair buttons = .ok buttons') :
    ∃ shown, List.Forall₂ ShowsPair entries shown ∧ Assigned texts (pairs ++ shown) buttons' := by
  induction entries generalizing pairs buttons with
  | nil =>
    cases run
    exact ⟨[], .nil, by simpa using assigned⟩
  | cons entry entries ih =>
    rw [List.foldlM_cons] at run
    obtain ⟨_, step, run⟩ := Success.of_bind run
    obtain ⟨first, here, assigned⟩ := assigned.assignPair step
    obtain ⟨rest, later, assigned⟩ := ih assigned run
    refine ⟨first :: rest, .cons here later, ?_⟩
    simpa using assigned

/-! The pairs and the labels of a definition. -/

theorem idPair_eq_ok_iff {entry : Value} {pair : Value × Value} :
    idPair entry = .ok pair ↔ entry.items? = some [pair.1, pair.2] := by
  unfold idPair
  split
  · next name label items =>
    rw [items]
    constructor
    · intro made
      cases made
      rfl
    · intro same
      cases same
      rfl
  · next other => exact iff_of_false (by rintro ⟨⟩) (other _ _)

theorem pairsOf_of_idPairs {ids : Value} {entries : List (Value × Value)}
    (made : idPairs ids = .ok entries) : PairsOf ids entries := by
  unfold idPairs at made
  split at made
  · cases made
    exact .mapping _
  · next other =>
    have noMapping : ids.entries? = none := by
      cases ids with
      | map entries => exact absurd rfl (other entries)
      | atom | list | tuple | color => rfl
    apply PairsOf.list noMapping
    unfold listed
    split at made
    · next items found =>
      rw [found]
      exact (Success.forall₂_of_mapM made).imp fun _ _ => idPair_eq_ok_iff.mp
    · next none =>
      cases made
      rw [none]
      exact .nil

theorem labelButtons_eq (labels : Value) : labelButtons labels =
    (listed labels).mapM fun label => (Button.mk none ·) <$> textOf .label label := by
  unfold labelButtons listed
  cases labels.items? <;> rfl

/-- The declared buttons, before any pair is met. -/
theorem assigned_of_labelButtons {labels : Value} (made : labelButtons labels = .ok buttons) :
    ∃ texts, List.Forall₂ Field.Shows (listed labels) texts ∧ Assigned texts [] buttons := by
  rw [labelButtons_eq] at made
  refine ⟨buttons.map Button.label, ?_, rfl, ?_⟩
  · apply List.forall₂_map_right_iff.mpr
    refine (Success.forall₂_of_mapM made).imp fun item b step => ?_
    obtain ⟨text, shown, rfl⟩ := Success.of_map step
    exact textOf_eq_ok_iff.mp shown
  · intro i b place
    have plain : b.id = none := by
      obtain ⟨item, _, step⟩ := Success.of_mapM made b (List.mem_of_getElem? place)
      obtain ⟨text, _, rfl⟩ := Success.of_map step
      rfl
    simp [plain]

theorem PairsOf.mem_iff {ids name label : Value} {entries : List (Value × Value)}
    (pairsOf : PairsOf ids entries) : (name, label) ∈ entries ↔ HasPair ids name label := by
  cases pairsOf with
  | mapping entries =>
    constructor
    · intro member
      obtain ⟨⟨key, label⟩, place, same⟩ := List.mem_map.mp member
      cases same
      exact .entry place
    · intro pair
      cases pair with
      | entry member => exact List.mem_map.mpr ⟨_, member, rfl⟩
      | item member => cases member
  | list noMapping paired =>
    constructor
    · intro member
      obtain ⟨item, place, items⟩ := left_of_forall₂ paired member
      exact .item place items
    · intro pair
      cases pair with
      | entry => cases noMapping
      | item place items =>
        obtain ⟨pair, member, items'⟩ := right_of_forall₂ paired place
        cases items.symm.trans items'
        exact member

theorem idPairs_ok_iff (ids : Value) :
    (∃ entries, idPairs ids = .ok entries) ↔ ∀ entry ∈ listed ids, IsPair entry := by
  unfold idPairs
  split
  · exact iff_of_true ⟨_, rfl⟩ (by simp [listed, Value.items?])
  · split
    · next items found =>
      rw [Success.mapM_iff, listed, found]
      simp only [idPair_ok_iff, Option.getD_some]
    · next none => exact iff_of_true ⟨[], rfl⟩ (by simp [listed, none])

theorem assignPairs_ok_iff (entries : List (Value × Value)) (buttons : List Button) :
    (∃ buttons', entries.foldlM assignPair buttons = .ok buttons') ↔
      ∀ entry ∈ entries, Assignable (buttons.map Button.label) entry := by
  induction entries generalizing buttons with
  | nil => exact iff_of_true ⟨buttons, rfl⟩ (by simp)
  | cons entry entries ih =>
    rw [List.foldlM_cons, Success.bind_iff, List.forall_mem_cons, ← assignPair_ok_iff]
    constructor
    · rintro ⟨buttons', step, run⟩
      refine ⟨⟨buttons', step⟩, ?_⟩
      rw [← labels_assignPair step]
      exact (ih buttons').mp run
    · rintro ⟨⟨buttons', step⟩, rest⟩
      refine ⟨buttons', step, (ih buttons').mpr ?_⟩
      rw [labels_assignPair step]
      exact rest

/-! What stands in the way of building. -/

/-- A definition without a flaw: the records are those of controls, the labels are texts, what gives
meanings to buttons consists of pairs, and each of these names a declared label. -/
structure WellFormed (controls labels ids : Value) : Prop where
  records : ∃ records, controls.items? = some records ∧
    ∀ record ∈ records, Control.Buildable record
  texts : ∀ label ∈ listed labels, label.Textual
  paired : ∀ entry ∈ listed ids, IsPair entry
  declared : ∀ name label, HasPair ids name label → name.Textual ∧
    ∃ text, Field.Shows label text ∧ ∃ declared ∈ listed labels, Field.Shows declared text

theorem buildControls_ok_iff (controls : Value) : (∃ made, buildControls controls = .ok made) ↔
    ∃ records, controls.items? = some records ∧
      ∀ record ∈ records, Control.Buildable record := by
  unfold buildControls
  cases controls.items? with
  | none => simp
  | some records => simp [Success.mapM_iff, Control.ofRecord_ok_iff]

theorem labelButtons_ok_iff (labels : Value) : (∃ made, labelButtons labels = .ok made) ↔
    ∀ label ∈ listed labels, label.Textual := by
  simp only [labelButtons_eq, Success.mapM_iff, Success.map_iff, textOf_ok_iff]

/-- A pair can be met just when its name is text and its label is a declared one. -/
theorem assignable_iff {items : List Value} {pair : Value × Value}
    (displayed : List.Forall₂ Field.Shows items texts) :
    Assignable texts pair ↔ pair.1.Textual ∧
      ∃ text, Field.Shows pair.2 text ∧ ∃ declared ∈ items, Field.Shows declared text := by
  have known (text : Text) : text ∈ texts ↔ ∃ declared ∈ items, Field.Shows declared text := by
    constructor
    · exact left_of_forall₂ displayed
    · rintro ⟨declared, place, shown⟩
      obtain ⟨text', member, shown'⟩ := right_of_forall₂ displayed place
      cases shown.unique shown'
      exact member
  simp only [Assignable, textOf_eq_ok_iff, known]

theorem buildButtons_ok_iff (labels ids : Value) :
    (∃ buttons, buildButtons labels ids true = .ok buttons) ↔
      ∃ declared, labelButtons labels = .ok declared ∧ ∃ entries, idPairs ids = .ok entries ∧
        ∀ entry ∈ entries, Assignable (declared.map Button.label) entry := by
  have last (buttons : List Button) : ∃ made, (pure (if buttons.isEmpty then Button.defaults
      else buttons) : Except BuildFault (List Button)) = .ok made := ⟨_, rfl⟩
  unfold buildButtons
  simp only [if_true, Success.bind_iff, last, and_true, assignPairs_ok_iff]

theorem build_ok_iff (controls labels ids : Value) :
    (∃ d, build controls labels ids true = .ok d) ↔ WellFormed controls labels ids := by
  have whole : (∃ d, build controls labels ids true = .ok d) ↔
      (∃ made, buildControls controls = .ok made) ∧
        ∃ buttons, buildButtons labels ids true = .ok buttons :=
    Success.bind_iff_and fun made => Success.map_iff
  rw [whole, buildControls_ok_iff, buildButtons_ok_iff]
  constructor
  · rintro ⟨records, declared, labelled, entries, paired, met⟩
    obtain ⟨texts, displayed, assigned⟩ := assigned_of_labelButtons labelled
    refine ⟨records, (labelButtons_ok_iff labels).mp ⟨_, labelled⟩,
      (idPairs_ok_iff ids).mp ⟨_, paired⟩, ?_⟩
    intro name label pair
    have member := (pairsOf_of_idPairs paired).mem_iff.mpr pair
    rw [assigned.labels] at met
    exact (assignable_iff displayed).mp (met _ member)
  · intro wellFormed
    obtain ⟨declared, labelled⟩ := (labelButtons_ok_iff labels).mpr wellFormed.texts
    obtain ⟨entries, paired⟩ := (idPairs_ok_iff ids).mpr wellFormed.paired
    obtain ⟨texts, displayed, assigned⟩ := assigned_of_labelButtons labelled
    refine ⟨wellFormed.records, declared, labelled, entries, paired, ?_⟩
    rintro ⟨name, label⟩ member
    rw [assigned.labels, assignable_iff displayed]
    exact wellFormed.declared name label ((pairsOf_of_idPairs paired).mem_iff.mp member)

/-- The buttons of a dialog with declared labels. -/
theorem assigned_of_build {controls labels ids : Value} {d : Dialog}
    (built : build controls labels ids true = .ok d) (declared : listed labels ≠ []) :
    ∃ texts entries pairs, List.Forall₂ Field.Shows (listed labels) texts ∧ PairsOf ids entries ∧
      List.Forall₂ ShowsPair entries pairs ∧ Assigned texts pairs d.buttons := by
  obtain ⟨made, _, built⟩ := Success.of_bind built
  obtain ⟨buttons, isButtons, built⟩ := Success.of_bind built
  cases built
  obtain ⟨plain, labelled, isButtons⟩ := Success.of_bind isButtons
  obtain ⟨entries, paired, isButtons⟩ := Success.of_bind isButtons
  obtain ⟨met, run, isButtons⟩ := Success.of_bind isButtons
  cases isButtons
  obtain ⟨texts, displayed, assigned⟩ := assigned_of_labelButtons labelled
  obtain ⟨pairs, shown, assigned⟩ := assigned.assignPairs run
  refine ⟨texts, entries, pairs, displayed, pairsOf_of_idPairs paired, shown, ?_⟩
  have nonempty : met ≠ [] := by
    rintro rfl
    have none : texts = [] := assigned.labels.symm
    exact declared (List.forall₂_nil_right_iff.mp (none ▸ displayed))
  simpa [nonempty] using assigned

/-- Controls that can be built, and nothing but texts as labels and in pairs. -/
structure Verbatim (controls labels ids : Value) : Prop where
  records : ∃ records, controls.items? = some records ∧
    ∀ record ∈ records, Control.Buildable record
  labels : ∀ label ∈ listed labels, ∃ s, label = .text s
  pairs : ∀ name label, HasPair ids name label → (∃ s, name = .text s) ∧ ∃ s, label = .text s

theorem shows_text_iff {s t : Text} : Field.Shows (.text s) t ↔ s = t := by
  constructor
  · intro shown
    exact Field.Shows.unique (.text s) shown
  · rintro rfl
    exact .text s

/-- Among texts, a declared label is one that stands in the list. -/
theorem Verbatim.wellFormed_iff {controls labels ids : Value}
    (verbatim : Verbatim controls labels ids) : WellFormed controls labels ids ↔
      (∀ entry ∈ listed ids, IsPair entry) ∧
        ∀ name label, HasPair ids name label → label ∈ listed labels := by
  constructor
  · intro wellFormed
    refine ⟨wellFormed.paired, fun name label pair => ?_⟩
    obtain ⟨_, text, shown, declared, member, shown'⟩ := wellFormed.declared name label pair
    obtain ⟨_, s, rfl⟩ := verbatim.pairs name label pair
    obtain ⟨s', rfl⟩ := verbatim.labels declared member
    cases shows_text_iff.mp shown
    cases shows_text_iff.mp shown'
    exact member
  · rintro ⟨paired, known⟩
    refine ⟨verbatim.records, ?_, paired, ?_⟩
    · intro label member
      exact .inl (verbatim.labels label member)
    · intro name label pair
      obtain ⟨isText, s, rfl⟩ := verbatim.pairs name label pair
      exact ⟨.inl isText, s, .text s, .text s, known name (.text s) pair, .text s⟩

/-- For every definition. With declared labels there is one button for each, and the first one with
a label has the meaning of the last pair with it. Among texts, building fails just at an entry that
is no pair and at a pair with an undeclared label; a pair has one wherever no list of labels is
given. Without buttons, labels and pairs make no difference. -/
theorem build_buttons (controls labels ids : Value) :
    (∀ d, build controls labels ids true = .ok d → listed labels ≠ [] →
      ∃ texts entries pairs, List.Forall₂ Field.Shows (listed labels) texts ∧
        PairsOf ids entries ∧ List.Forall₂ ShowsPair entries pairs ∧
          Assigned texts pairs d.buttons) ∧
    (Verbatim controls labels ids →
      ((∃ fault, build controls labels ids true = .error fault) ↔
        (∃ entry ∈ listed ids, ¬ IsPair entry) ∨
          ∃ name label, HasPair ids name label ∧ label ∉ listed labels)) ∧
    (labels.items? = none → ∀ name label, HasPair ids name label →
      ∃ fault, build controls labels ids true = .error fault) ∧
    ∀ labels' ids', build controls labels ids false = build controls labels' ids' false := by
  refine ⟨fun d built declared => assigned_of_build built declared, ?_, ?_, fun _ _ => rfl⟩
  · intro verbatim
    rw [Success.error_iff, build_ok_iff, verbatim.wellFormed_iff, not_and_or]
    simp
  · intro noLabels name label pair
    rw [Success.error_iff, build_ok_iff]
    intro wellFormed
    obtain ⟨_, _, _, declared, member, _⟩ := wellFormed.declared name label pair
    have empty : listed labels = [] := by rw [listed, noLabels]; rfl
    rw [empty] at member
    cases member

/-- Two buttons with one label. -/
def twins : Value := .list [.text "Go", .text "Stop", .text "Go"]

/-- Two pairs for each label, the last one with an unknown name. -/
def meanings : Value :=
  .list [.list [.text "ok", .text "Go"], .list [.text "cancel", .text "Stop"],
    .tuple [.text "YES", .text "Go"], .list [.text "halt", .text "Stop"]]

/-- A label that no button has. -/
def stray : Value := .map [(.text "ok", .text "Wait")]

theorem verbatim_stray : Verbatim (.list []) twins stray where
  records := ⟨[], rfl, by simp⟩
  labels := by simp [twins, listed, Value.items?]
  pairs := by
    intro name label pair
    cases pair with
    | entry member =>
      cases List.mem_singleton.mp member
      exact ⟨⟨_, rfl⟩, _, rfl⟩
    | item member => cases member

theorem build_buttons_twins :
    (∃ d, build (.list []) twins meanings true = .ok d ∧ listed twins ≠ [] ∧
      d.buttons = [⟨some .yes, "Go"⟩, ⟨none, "Stop"⟩, ⟨none, "Go"⟩] ∧
      ∃ texts entries pairs, List.Forall₂ Field.Shows (listed twins) texts ∧
        PairsOf meanings entries ∧ List.Forall₂ ShowsPair entries pairs ∧
          Assigned texts pairs d.buttons) ∧
    (Verbatim (.list []) twins stray ∧ ∃ fault, build (.list []) twins stray true = .error fault) ∧
    ∃ fault, build (.list []) .null stray true = .error fault := by
  have waits : HasPair stray (.text "ok") (.text "Wait") := .entry (by simp)
  have nonempty : listed twins ≠ [] := by simp [twins, listed, Value.items?]
  refine ⟨⟨_, rfl, nonempty, rfl, ?_⟩, ⟨verbatim_stray, ?_⟩, ?_⟩
  · exact (build_buttons (.list []) twins meanings).1 _ rfl nonempty
  · apply ((build_buttons (.list []) twins stray).2.1 verbatim_stray).mpr
    refine .inr ⟨_, _, waits, ?_⟩
    simp [twins, listed, Value.items?, Value.text]
  · exact (build_buttons (.list []) .null stray).2.2.1 rfl _ _ waits

end ScriptDialog.Dialog
