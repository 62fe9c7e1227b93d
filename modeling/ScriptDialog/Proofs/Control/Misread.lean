import ScriptDialog.Proofs.Control.Sound
import ScriptDialog.Proofs.Failure
import ScriptDialog.Proofs.Number.Limits

/-! Which records become controls, and which make a conversion fail. A number field fails on a
numeral next to a separator, a colour on a channel of too many digits, and a record that is no
mapping on an integer that its literal cannot show; every other record is a control or is
refused. -/
namespace ScriptDialog

namespace BuildFault

/-- A fault that says nothing about a definition: it comes from a conversion. -/
def Foreign : BuildFault → Prop
  | .unfit _ => True
  | _ => False

theorem foreign_showing {fault : BuildFault} (own : ¬ fault.Foreign) (v : Value) :
    (showing v fault).Foreign ↔ v.writable = false := by
  unfold showing
  split
  · next writable => exact iff_of_false own (by simp [writable])
  · next wide => exact iff_of_true trivial (Bool.eq_false_iff.mpr wide)

end BuildFault

namespace Field

/-- A text that is taken for a number but refused. -/
def Misread (v : Value) : Prop := ∃ s : String, v = .text s ∧ Numeral.Separated s.toList

/-- The record has such a text in the field. -/
def MisreadAt (record : Value) (key : String) : Prop :=
  ∃ v, value? record key = some v ∧ Misread v

theorem double?_ok_iff (v : Value) : (∃ x, double? v = .ok x) ↔ ¬ Misread v := by
  unfold double? Misread
  split
  · next s =>
    rw [Numeral.read?_ok_iff]
    constructor
    · rintro clean ⟨_, ⟨⟩, separated⟩
      exact clean separated
    · exact fun clean separated => clean ⟨s, rfl, separated⟩
  · next other =>
    refine iff_of_true ⟨_, rfl⟩ ?_
    rintro ⟨s, rfl, _⟩
    exact other s rfl

variable {α : Type} {record : Value} {key : String}

/-- A field is read where it is absent, and where what it holds is no such text. -/
theorem ok_iff_of_value? {read : Value → Except NumberFault α} {default : α}
    (reads : ∀ v, (∃ a, read v = .ok a) ↔ ¬ Misread v) :
    (∃ a, (match value? record key with
      | none => .ok default
      | some v => read v : Except NumberFault α) = .ok a) ↔ ¬ MisreadAt record key := by
  unfold MisreadAt
  cases value? record key with
  | none => exact iff_of_true ⟨default, rfl⟩ (by rintro ⟨_, ⟨⟩, _⟩)
  | some v =>
    dsimp only
    rw [reads]
    constructor
    · rintro clean ⟨_, ⟨⟩, misread⟩
      exact clean misread
    · exact fun clean misread => clean ⟨v, rfl, misread⟩

theorem double_ok_iff (default : Double) :
    (∃ x, double record key default = .ok x) ↔ ¬ MisreadAt record key :=
  ok_iff_of_value? fun v => Success.map_iff.trans (double?_ok_iff v)

theorem int_ok_iff (default : Int) :
    (∃ n, int record key default = .ok n) ↔ ¬ MisreadAt record key :=
  ok_iff_of_value? fun v =>
    Success.map_iff.trans (Success.map_iff.trans (double?_ok_iff v))

end Field

/-- The kind of a control is settled whatever its fields are. -/
theorem Kind.Declared.settles {kind : Kind} (declared : kind.Declared) :
    ∃ kind', kind.settle = .ok kind' := by
  cases declared with
  | intEdit => exact ⟨_, settle_intEdit ..⟩
  | floatEdit => exact ⟨_, settle_floatEdit ..⟩
  | dropdown t items =>
    obtain ⟨t', settled, _⟩ := settle_dropdown t items
    exact ⟨_, settled⟩
  | label | edit | checkbox | color => exact ⟨_, rfl⟩

namespace Control

/-- The fields of all classes that are read as numbers. -/
def placeFields : List String := ["x", "y", "width", "height"]

/-- The fields of a class that are read as numbers. -/
def numberFields : (className : Text) → List String
  | "intedit" => ["value", "min", "max"]
  | "floatedit" => ["value", "min", "max", "step"]
  | _ => []

/-- A conversion fails in a field of the class. -/
def KindMisread (className : Text) (record : Value) : Prop :=
  (∃ key ∈ numberFields className, Field.MisreadAt record key) ∨
    ((className = "color" ∨ className = "coloralpha") ∧
      Color.Refused (Field.text record "value" ""))

/-- A conversion fails in a field of the record. -/
def Misread (record : Value) : Prop :=
  (∃ key ∈ placeFields, Field.MisreadAt record key) ∨ KindMisread (recordClass record) record

/-- A control can be made from the record. -/
def Buildable (record : Value) : Prop :=
  (∃ entries, record.entries? = some entries) ∧ recordClass record ∈ readers.map Prod.fst ∧
    ¬ Misread record

/-- A record that is neither made a control nor refused for what it is. -/
def Unconverted (record : Value) : Prop :=
  (record.entries? = none ∧ record.writable = false) ∨
    ((∃ entries, record.entries? = some entries) ∧ recordClass record ∈ readers.map Prod.fst ∧
      Misread record)

variable {record : Value}

theorem common_ok_iff (kind : Kind) :
    (∃ c, common record kind = .ok c) ↔ ¬ ∃ key ∈ placeFields, Field.MisreadAt record key := by
  have all : (¬ ∃ key ∈ placeFields, Field.MisreadAt record key) ↔
      ¬ Field.MisreadAt record "x" ∧ ¬ Field.MisreadAt record "y" ∧
        ¬ Field.MisreadAt record "width" ∧ ¬ Field.MisreadAt record "height" ∧ True := by
    simp [placeFields]
  rw [all, ← Field.int_ok_iff 0, ← Field.int_ok_iff 0, ← Field.int_ok_iff 1, ← Field.int_ok_iff 1]
  unfold common
  iterate 4 refine Success.bind_iff_and fun _ => ?_
  exact iff_of_true ⟨_, rfl⟩ trivial

theorem intEditKind_ok_iff : (∃ kind, intEditKind record = .ok kind) ↔
    ¬ Field.MisreadAt record "value" ∧ ¬ Field.MisreadAt record "min" ∧
      ¬ Field.MisreadAt record "max" ∧ True := by
  rw [← Field.int_ok_iff 0, ← Field.int_ok_iff Numeral.int32Min,
    ← Field.int_ok_iff Numeral.int32Max]
  unfold intEditKind
  iterate 3 refine Success.bind_iff_and fun _ => ?_
  exact iff_of_true ⟨_, rfl⟩ trivial

theorem floatEditKind_ok_iff : (∃ kind, floatEditKind record = .ok kind) ↔
    ¬ Field.MisreadAt record "value" ∧ ¬ Field.MisreadAt record "min" ∧
      ¬ Field.MisreadAt record "max" ∧ ¬ Field.MisreadAt record "step" ∧ True := by
  rw [← Field.double_ok_iff .zero, ← Field.double_ok_iff (.neg .largest),
    ← Field.double_ok_iff .largest, ← Field.double_ok_iff .zero]
  unfold floatEditKind
  iterate 4 refine Success.bind_iff_and fun _ => ?_
  exact iff_of_true ⟨_, rfl⟩ trivial

theorem colorKind_ok_iff (alpha : Bool) : (∃ kind, colorKind alpha record = .ok kind) ↔
    ¬ Color.Refused (Field.text record "value" "") ∧ True := by
  rw [← Color.ofText_ok_iff]
  unfold colorKind
  refine Success.bind_iff_and fun _ => ?_
  exact iff_of_true ⟨_, rfl⟩ trivial

/-- The reader of each class fails just where a conversion in one of its fields does. -/
theorem reader_ok_iff {reader : Text × (Value → Except NumberFault Kind)}
    (known : reader ∈ readers) :
    (∃ kind, reader.2 record = .ok kind) ↔ ¬ KindMisread reader.1 record := by
  have plain {className : Text} {kind : Kind} (noNumbers : numberFields className = [])
      (noColor : ¬ (className = "color" ∨ className = "coloralpha")) :
      (∃ kind', (.ok kind : Except NumberFault Kind) = .ok kind') ↔
        ¬ KindMisread className record := by
    refine iff_of_true ⟨kind, rfl⟩ ?_
    rintro (⟨key, field, _⟩ | ⟨color, _⟩)
    · rw [noNumbers] at field
      cases field
    · exact noColor color
  simp only [readers, List.mem_cons, List.not_mem_nil, or_false] at known
  rcases known with rfl | rfl | rfl | rfl | rfl | rfl | rfl | rfl | rfl
  · exact plain rfl (by decide)
  · exact plain rfl (by decide)
  · exact plain rfl (by decide)
  · rw [intEditKind_ok_iff]
    simp [KindMisread, numberFields]
  · rw [floatEditKind_ok_iff]
    simp [KindMisread, numberFields]
  · exact plain rfl (by decide)
  · exact plain rfl (by decide)
  · rw [colorKind_ok_iff]
    simp [KindMisread, numberFields]
  · rw [colorKind_ok_iff]
    simp [KindMisread, numberFields]

theorem readAs_ok_iff {reader : Text × (Value → Except NumberFault Kind)}
    (known : reader ∈ readers) (named : reader.1 = recordClass record) :
    (∃ c, readAs reader.2 record = .ok c) ↔ ¬ Misread record := by
  have settled (control : Control) :
      (∃ c, (do
        let kind ← (reader.2 record).mapError ValueFault.number
        let kind ← kind.settle
        return { control with kind := kind } : Except ValueFault Control) = .ok c) ↔
        ¬ KindMisread reader.1 record := by
    rw [← reader_ok_iff known, Success.bind_iff]
    constructor
    · rintro ⟨kind, read, _⟩
      exact ⟨kind, Success.of_mapError read⟩
    · rintro ⟨kind, read⟩
      obtain ⟨kind', settled⟩ := (declared_of_reader known read).settles
      refine ⟨kind, by rw [read]; rfl, { control with kind := kind' }, ?_⟩
      rw [settled]
      rfl
  unfold readAs Misread
  rw [not_or, ← named, Success.bind_iff_and settled, Success.mapError_iff, common_ok_iff]

/-- The reader of a class is found under its name. -/
theorem lookup_readers (className : Text) :
    (className ∉ readers.map Prod.fst ∧ readers.lookup className = none) ∨
      ∃ reader ∈ readers, reader.1 = className ∧ readers.lookup className = some reader.2 := by
  cases found : readers.lookup className with
  | none =>
    refine .inl ⟨fun known => ?_, rfl⟩
    obtain ⟨reader, member, rfl⟩ := List.mem_map.mp known
    have differs := List.lookup_eq_none_iff.mp found reader member
    simp at differs
  | some reader =>
    obtain ⟨before, after, listed, _⟩ := List.lookup_eq_some_iff.mp found
    exact .inr ⟨(className, reader), by simp [listed], rfl, rfl⟩

/-- What becomes of a record. -/
inductive Outcome (record : Value) : Except BuildFault Control → Prop where
  | noMapping (none : record.entries? = none) :
      Outcome record (.error (.showing record (.recordNoMapping record)))
  | unknownClass {entries : Entries} (mapping : record.entries? = some entries)
      (unknown : recordClass record ∉ readers.map Prod.fst) :
      Outcome record (.error (.unknownClass (recordClass record)))
  | read {entries : Entries} {reader : Text × (Value → Except NumberFault Kind)}
      (mapping : record.entries? = some entries) (known : reader ∈ readers)
      (named : reader.1 = recordClass record) :
      Outcome record ((readAs reader.2 record).mapError .unfit)

theorem outcome_ofRecord (record : Value) : Outcome record (ofRecord record) := by
  unfold ofRecord
  cases entries : record.entries? with
  | none => exact .noMapping entries
  | some found =>
    rcases lookup_readers (recordClass record) with ⟨unknown, none⟩ | ⟨reader, known, named, some⟩
    · rw [none]
      exact .unknownClass entries unknown
    · rw [some]
      exact .read entries known named

namespace Outcome

variable {made : Except BuildFault Control}

theorem ok_iff (outcome : Outcome record made) : (∃ c, made = .ok c) ↔ Buildable record := by
  cases outcome with
  | noMapping none =>
    refine iff_of_false (by rintro ⟨_, ⟨⟩⟩) ?_
    rintro ⟨⟨entries, mapping⟩, _⟩
    cases none.symm.trans mapping
  | unknownClass mapping unknown =>
    exact iff_of_false (by rintro ⟨_, ⟨⟩⟩) fun buildable => unknown buildable.2.1
  | read mapping known named =>
    have listed : recordClass record ∈ readers.map Prod.fst :=
      List.mem_map.mpr ⟨_, known, named⟩
    rw [Success.mapError_iff, readAs_ok_iff known named]
    exact ⟨fun converted => ⟨⟨_, mapping⟩, listed, converted⟩, fun buildable => buildable.2.2⟩

theorem foreign_iff (outcome : Outcome record made) :
    Fails BuildFault.Foreign made ↔ Unconverted record := by
  cases outcome with
  | noMapping none =>
    rw [Fails.error_iff, BuildFault.foreign_showing id]
    constructor
    · exact fun wide => .inl ⟨none, wide⟩
    · rintro (⟨_, wide⟩ | ⟨⟨entries, mapping⟩, _⟩)
      · exact wide
      · cases none.symm.trans mapping
  | unknownClass mapping unknown =>
    rw [Fails.error_iff]
    refine iff_of_false id ?_
    rintro (⟨none, _⟩ | ⟨_, known, _⟩)
    · cases none.symm.trans mapping
    · exact unknown known
  | read mapping known named =>
    have listed : recordClass record ∈ readers.map Prod.fst :=
      List.mem_map.mpr ⟨_, known, named⟩
    rw [Fails.mapError_iff fun _ => trivial, readAs_ok_iff known named, not_not]
    constructor
    · exact fun misread => .inr ⟨⟨_, mapping⟩, listed, misread⟩
    · rintro (⟨none, _⟩ | ⟨_, _, misread⟩)
      · cases none.symm.trans mapping
      · exact misread

end Outcome

/-- A record becomes a control just when it is a mapping with a known class whose fields can be
converted. -/
theorem ofRecord_ok_iff (record : Value) : (∃ c, ofRecord record = .ok c) ↔ Buildable record :=
  (outcome_ofRecord record).ok_iff

/-- A record fails with a foreign fault just when a conversion fails, be it of a field or of the
record itself into the literal that its refusal shows. -/
theorem ofRecord_foreign_iff (record : Value) :
    Fails BuildFault.Foreign (ofRecord record) ↔ Unconverted record :=
  (outcome_ofRecord record).foreign_iff

end Control

end ScriptDialog
