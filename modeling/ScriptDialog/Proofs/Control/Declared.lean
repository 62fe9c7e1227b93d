import ScriptDialog.Control.Record
import ScriptDialog.Proofs.Control.Receive
import ScriptDialog.Proofs.Success

/-! Controls that were made from records. Whatever the records are, every field of a control has its
type, and a colour keeps its transparency just as its class says. -/
namespace ScriptDialog

/-- A kind all of whose fields have their types. -/
inductive Kind.Declared : Kind → Prop where
  | label (text : Text) : Declared (.label (.text text))
  | edit (multiline : Bool) (t : Text) : Declared (.edit multiline (.text t))
  | intEdit (n min max : Int) : Declared (.intEdit (.int n) (.int min) (.int max))
  | floatEdit (x min max step : Double) :
      Declared (.floatEdit (.float x) (.float min) (.float max) (.float step))
  | dropdown (t : Text) (items : List Text) :
      Declared (.dropdown (.text t) (.tuple (items.map .text)))
  | checkbox (label : Text) (b : Bool) : Declared (.checkbox (.text label) (.bool b))
  | color (alpha : Bool) (c : Color) : Declared (.color alpha (.color c) (.bool alpha))

/-- A control all of whose fields have their types. -/
inductive Control.Declared : Control → Prop where
  | mk (name hint : Text) (x y width height : Int) {kind : Kind} (declared : kind.Declared) :
      Declared ⟨.text name, .text hint, .int x, .int y, .int width, .int height, kind⟩

theorem Control.Declared.name {c : Control} (declared : c.Declared) :
    ∃ name, c.name = .text name := by
  cases declared
  exact ⟨_, rfl⟩

theorem Control.Declared.kind {c : Control} (declared : c.Declared) : c.kind.Declared := by
  cases declared
  assumption

theorem Value.any_same_text (t : Text) (items : List Text) :
    (items.map text).any (text t).same = items.contains t := by
  induction items with
  | nil => rfl
  | cons item items ih => rw [List.map_cons, List.any_cons, same_text, ih, List.contains_cons]

/-- A new dropdown has one of its items as its value, if it has any. -/
theorem Kind.settle_dropdown (t : Text) (items : List Text) :
    ∃ t', settle (.dropdown (.text t) (.tuple (items.map .text))) =
      .ok (.dropdown (.text t') (.tuple (items.map .text))) ∧ (items ≠ [] → t' ∈ items) := by
  cases items with
  | nil => exact ⟨t, rfl, by simp⟩
  | cons first rest =>
    have made : settle (.dropdown (.text t) (.tuple ((first :: rest).map .text))) =
        .ok (.dropdown (if ((first :: rest).map .text).any (Value.text t).same then .text t
          else .text first) (.tuple ((first :: rest).map .text))) := rfl
    rw [Value.any_same_text] at made
    by_cases known : (first :: rest).contains t
    · rw [if_pos known] at made
      exact ⟨t, made, fun _ => List.contains_iff_mem.mp known⟩
    · rw [if_neg known] at made
      exact ⟨first, made, fun _ => List.mem_cons_self⟩

theorem Kind.Declared.settle {kind kind' : Kind} (declared : kind.Declared)
    (settled : kind.settle = .ok kind') : kind'.Declared := by
  cases declared with
  | intEdit n min max =>
    rw [settle_intEdit] at settled
    cases settled
    split
    · exact .intEdit ..
    · exact .intEdit ..
  | floatEdit x min max step =>
    obtain ⟨ordered, _, done⟩ := Success.of_bind settled
    cases done
    split
    · exact .floatEdit ..
    · exact .floatEdit ..
  | dropdown t items =>
    obtain ⟨t', made, _⟩ := settle_dropdown t items
    cases made.symm.trans settled
    exact .dropdown t' items
  | label | edit | checkbox | color => cases settled; constructor

/-- A kind of each class, without anything in it. -/
def Kind.empty (className : String) : Kind :=
  match className with
  | "label" => .label .null
  | "edit" => .edit false .null
  | "textbox" => .edit true .null
  | "intedit" => .intEdit .null .null .null
  | "floatedit" => .floatEdit .null .null .null .null
  | "dropdown" => .dropdown .null .null
  | "checkbox" => .checkbox .null .null
  | "color" => .color false .null (.bool false)
  | "coloralpha" => .color true .null (.bool true)
  | _ => .bare

theorem Kind.Declared.like_empty {kind : Kind} (declared : kind.Declared) (v : Value) :
    (kind.withValue v).Like (empty kind.className) := by
  cases declared with
  | label => exact .label ..
  | edit multiline => cases multiline <;> exact .edit ..
  | intEdit => exact .intEdit ..
  | floatEdit => exact .floatEdit ..
  | dropdown => exact .dropdown ..
  | checkbox => exact .checkbox ..
  | color alpha => cases alpha <;> exact .color ..

/-- The class alone says what two declared kinds have in common, whatever their values are. -/
theorem Kind.Declared.like {kind kind' : Kind} (declared : kind.Declared)
    (declared' : kind'.Declared) (same : kind.className = kind'.className) (v v' : Value) :
    (kind.withValue v).Like (kind'.withValue v') := by
  have first := declared.like_empty v
  have second := declared'.like_empty v'
  rw [← same] at second
  exact first.trans second.symm

namespace Control

variable {record : Value} {kind : Kind}

theorem declared_of_intEditKind (read : intEditKind record = .ok kind) : kind.Declared := by
  obtain ⟨n, _, read⟩ := Success.of_bind read
  obtain ⟨min, _, read⟩ := Success.of_bind read
  obtain ⟨max, _, read⟩ := Success.of_bind read
  cases read
  exact .intEdit n min max

theorem declared_of_floatEditKind (read : floatEditKind record = .ok kind) : kind.Declared := by
  obtain ⟨x, _, read⟩ := Success.of_bind read
  obtain ⟨min, _, read⟩ := Success.of_bind read
  obtain ⟨max, _, read⟩ := Success.of_bind read
  obtain ⟨step, _, read⟩ := Success.of_bind read
  cases read
  exact .floatEdit x min max step

theorem declared_of_colorKind {alpha : Bool} (read : colorKind alpha record = .ok kind) :
    kind.Declared := by
  obtain ⟨c, _, read⟩ := Success.of_bind read
  cases read
  exact .color alpha c

/-- The readers of all classes give their fields the types. -/
theorem declared_of_reader {reader : Text × (Value → Except NumberFault Kind)}
    (known : reader ∈ readers) (read : reader.2 record = .ok kind) : kind.Declared := by
  simp only [readers, List.mem_cons, List.not_mem_nil, or_false] at known
  rcases known with rfl | rfl | rfl | rfl | rfl | rfl | rfl | rfl | rfl
  · cases read; exact .label _
  · cases read; exact .edit false _
  · cases read; exact .edit true _
  · exact declared_of_intEditKind read
  · exact declared_of_floatEditKind read
  · cases read; exact .dropdown _ _
  · cases read; exact .checkbox _ _
  · exact declared_of_colorKind read
  · exact declared_of_colorKind read

/-- Behind a control that was made from a record stands the reader of its class. -/
theorem reader_of_ofRecord {c : Control} (made : ofRecord record = .ok c) :
    ∃ reader ∈ readers, ∃ kind, reader.2 record = .ok kind ∧ kind.settle = .ok c.kind ∧
      ∃ name hint : Text, ∃ x y width height : Int,
        c = ⟨.text name, .text hint, .int x, .int y, .int width, .int height, c.kind⟩ := by
  unfold ofRecord at made
  split at made
  · cases made
  · split at made
    · cases made
    · next reader found =>
      obtain ⟨before, after, listed, _⟩ := List.lookup_eq_some_iff.mp found
      have known : (recordClass record, reader) ∈ readers := by simp [listed]
      obtain ⟨control, shared, made⟩ := Success.of_bind (Success.of_mapError made)
      obtain ⟨kind, read, made⟩ := Success.of_bind made
      obtain ⟨kind', settled, made⟩ := Success.of_bind made
      obtain ⟨x, _, shared⟩ := Success.of_bind (Success.of_mapError shared)
      obtain ⟨y, _, shared⟩ := Success.of_bind shared
      obtain ⟨width, _, shared⟩ := Success.of_bind shared
      obtain ⟨height, _, shared⟩ := Success.of_bind shared
      cases shared
      cases made
      exact ⟨_, known, kind, Success.of_mapError read, settled, _, _, x, y, width, height, rfl⟩

theorem declared_of_ofRecord {c : Control} (made : ofRecord record = .ok c) : c.Declared := by
  obtain ⟨reader, known, kind, read, settled, name, hint, x, y, width, height, same⟩ :=
    reader_of_ofRecord made
  rw [same]
  exact .mk name hint x y width height ((declared_of_reader known read).settle settled)

end Control

end ScriptDialog
