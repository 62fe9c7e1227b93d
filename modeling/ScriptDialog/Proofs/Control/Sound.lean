import ScriptDialog.Proofs.Control.Declared

/-! Controls whose values and bounds are in their ranges. Every control made from a record is such,
whatever the record holds, and a token cannot take a value out of its range. -/
namespace ScriptDialog

/-- The bounds leave room between them, an integer has 32 bits, and the channels of a colour are
bytes. -/
inductive Kind.Sound : Kind → Prop where
  | label (text : Text) : Sound (.label (.text text))
  | edit (multiline : Bool) (t : Text) : Sound (.edit multiline (.text t))
  | intEdit {n min max : Int} (value : Narrow n) (lower : Narrow min) (upper : Narrow max)
      (room : min < max) : Sound (.intEdit (.int n) (.int min) (.int max))
  | floatEdit (x : Double) {min max : Double} (room : min.lt max) (step : Double) :
      Sound (.floatEdit (.float x) (.float min) (.float max) (.float step))
  | dropdown (t : Text) (items : List Text) :
      Sound (.dropdown (.text t) (.tuple (items.map .text)))
  | checkbox (label : Text) (b : Bool) : Sound (.checkbox (.text label) (.bool b))
  | color (alpha : Bool) {c : Color} (inRange : c.InRange) :
      Sound (.color alpha (.color c) (.bool alpha))

/-- The value of a dropdown is one of its items, if it has any. -/
def Kind.Chosen : Kind → Prop
  | .dropdown value (.tuple items) => items ≠ [] → value ∈ items
  | _ => True

theorem narrow_bounds : Narrow Numeral.int32Min ∧ Narrow Numeral.int32Max := by decide

theorem Numeral.narrow_toInt32 (n : Int) : Narrow (toInt32 n) := by
  simp only [Narrow, toInt32, int32Min, int32Max]
  omega

theorem Numeral.narrow_readIntStart (text : List Char) : Narrow (readIntStart text) := by
  simp only [readIntStart]
  split
  · split
    · exact narrow_bounds.1
    · exact narrow_bounds.2
  · exact narrow_toInt32 _

namespace Double

/-- Nothing is less than what is no number, nor is that less than anything. -/
theorem numbers_of_lt {x y : Double} (less : x.lt y) : ¬ x.isNaN ∧ ¬ y.isNaN := by
  cases x <;> cases y <;> simp_all [lt, isNaN]

theorem holds_less (x y : Double) :
    Value.holds .less (.float x) (.float y) = .ok (x.lt y) := by
  rw [Value.holds_float]
  by_cases less : x.lt y
  · simp [Number.compare?, Number.whole?, less, Comparison.holds]
  · by_cases greater : y.lt x
    · simp [Number.compare?, Number.whole?, less, greater, Comparison.holds]
    · by_cases equal : x.eq y <;>
        simp [Number.compare?, Number.whole?, less, greater, equal, Comparison.holds]

end Double

theorem Double.largest_room : (Double.neg .largest).lt .largest := by decide +kernel

/-- Doubles as bounds never keep a control from being made. -/
theorem Kind.settle_floatEdit (value step : Value) (min max : Double) :
    settle (.floatEdit value (.float min) (.float max) step) =
      .ok (if min.lt max then .floatEdit value (.float min) (.float max) step
        else .floatEdit value (.float (.neg .largest)) (.float .largest) step) := by
  rw [settle, Double.holds_less]
  rfl

theorem Field.narrow_int {record : Value} {key : String} {default n : Int} (fit : Narrow default)
    (read : int record key default = .ok n) : Narrow n := by
  unfold int at read
  split at read
  · cases read
    exact fit
  · obtain ⟨n?, number, read⟩ := Success.of_map read
    obtain ⟨x?, _, narrowed⟩ := Success.of_map number
    subst read narrowed
    cases x? with
    | none => exact fit
    | some x =>
      simp only [Option.bind_some, narrow?]
      split
      · split
        · next inside => exact inside
        · exact fit
      · exact fit

namespace Kind.Sound

variable {kind kind' : Kind} {record : Value}

theorem of_intEdit (read : Control.intEditKind record = .ok kind)
    (settled : kind.settle = .ok kind') : kind'.Sound := by
  obtain ⟨n, value, read⟩ := Success.of_bind read
  obtain ⟨min, lower, read⟩ := Success.of_bind read
  obtain ⟨max, upper, read⟩ := Success.of_bind read
  cases read
  rw [settle_intEdit] at settled
  cases settled
  have narrow := Field.narrow_int (by decide) value
  split
  · exact .intEdit narrow narrow_bounds.1 narrow_bounds.2 (by decide)
  · next room =>
    exact .intEdit narrow (Field.narrow_int narrow_bounds.1 lower)
      (Field.narrow_int narrow_bounds.2 upper) (Int.not_le.mp room)

theorem of_floatEdit (read : Control.floatEditKind record = .ok kind)
    (settled : kind.settle = .ok kind') : kind'.Sound := by
  obtain ⟨x, _, read⟩ := Success.of_bind read
  obtain ⟨min, _, read⟩ := Success.of_bind read
  obtain ⟨max, _, read⟩ := Success.of_bind read
  obtain ⟨step, _, read⟩ := Success.of_bind read
  cases read
  rw [settle_floatEdit] at settled
  cases settled
  by_cases room : min.lt max
  · rw [if_pos room]
    exact .floatEdit x room step
  · rw [if_neg room]
    exact .floatEdit x Double.largest_room step

theorem of_color {alpha : Bool} (read : Control.colorKind alpha record = .ok kind)
    (settled : kind.settle = .ok kind') : kind'.Sound := by
  obtain ⟨c, value, same⟩ := Success.of_bind read
  cases same
  cases settled
  exact .color alpha (Color.ofText_inRange value)

/-- Every reader gives a kind that is sound once the control is made. -/
theorem of_reader {reader : Text × (Value → Except NumberFault Kind)}
    (known : reader ∈ Control.readers) (read : reader.2 record = .ok kind)
    (settled : kind.settle = .ok kind') : kind'.Sound := by
  simp only [Control.readers, List.mem_cons, List.not_mem_nil, or_false] at known
  rcases known with rfl | rfl | rfl | rfl | rfl | rfl | rfl | rfl | rfl
  · cases read; cases settled; exact .label _
  · cases read; cases settled; exact .edit false _
  · cases read; cases settled; exact .edit true _
  · exact of_intEdit read settled
  · exact of_floatEdit read settled
  · cases read
    obtain ⟨t', made, _⟩ :=
        settle_dropdown (Field.text record "value" "") (Field.texts record "items")
    cases made.symm.trans settled
    exact .dropdown t' _
  · cases read; cases settled; exact .checkbox _ _
  · exact of_color read settled
  · exact of_color read settled

end Kind.Sound

theorem Kind.Declared.chosen {kind kind' : Kind} (declared : kind.Declared)
    (settled : kind.settle = .ok kind') : kind'.Chosen := by
  cases declared with
  | dropdown t items =>
    obtain ⟨t', made, member⟩ := settle_dropdown t items
    cases made.symm.trans settled
    intro nonempty
    exact List.mem_map_of_mem (member (by simpa using nonempty))
  | intEdit n min max =>
    rw [settle_intEdit] at settled
    cases settled
    split <;> trivial
  | floatEdit x min max step =>
    obtain ⟨ordered, _, done⟩ := Success.of_bind settled
    cases done
    split <;> trivial
  | label | edit | checkbox | color => cases settled; trivial

namespace Control

variable {record : Value} {c c' : Control} {t : Text} {texts : String → Prop}

/-- Every control made from a record has its types, its ranges, and an item chosen. -/
theorem sound_of_ofRecord (made : ofRecord record = .ok c) :
    c.Declared ∧ c.kind.Sound ∧ c.kind.Chosen := by
  obtain ⟨reader, known, kind, read, settled, _⟩ := reader_of_ofRecord made
  exact ⟨declared_of_ofRecord made, .of_reader known read settled,
    (declared_of_reader known read).chosen settled⟩

theorem sound_of_receive (sound : c.kind.Sound) (received : c.receive t = .ok c') :
    c'.kind.Sound := by
  obtain ⟨kind', taken, rfl⟩ := Success.of_map received
  obtain ⟨name, hint, x, y, width, height, kind⟩ := c
  cases sound with
  | label => cases taken
  | edit multiline =>
    obtain ⟨s, _, rfl⟩ := Success.of_map taken
    exact .edit multiline s
  | intEdit _ lower upper room =>
    cases taken
    exact .intEdit (Numeral.narrow_readIntStart _) lower upper room
  | floatEdit _ room step =>
    simp only [kindFrom] at taken
    split at taken <;> cases taken
    exact .floatEdit _ room step
  | dropdown _ items =>
    obtain ⟨s, _, rfl⟩ := Success.of_map taken
    exact .dropdown s items
  | checkbox label => cases taken; exact .checkbox label _
  | color alpha =>
    simp only [kindFrom] at taken
    split at taken
    · cases taken
    · split at taken <;> cases taken
      next read => exact .color alpha (Color.ofText_inRange read)

/-- A sound value is one that can be saved and read back, unless it is a torn text. -/
theorem holds_of_sound (sound : c.kind.Sound) (whole : ∀ t, c.value? ≠ some (.text (.torn t)))
    (fit : ∀ s : String, c.value? = some (.text s) → texts s) : c.kind.Holds texts Narrow := by
  obtain ⟨name, hint, x, y, width, height, kind⟩ := c
  cases sound with
  | label => exact .label _
  | edit multiline t =>
    cases t with
    | whole s => exact .edit multiline (fit s rfl)
    | torn t => exact absurd rfl (whole t)
  | intEdit value => exact .intEdit value _ _
  | floatEdit x => exact .floatEdit x _ _ _
  | dropdown t =>
    cases t with
    | whole s => exact .dropdown (fit s rfl) _
    | torn t => exact absurd rfl (whole t)
  | checkbox _ b => exact .checkbox _ b
  | color alpha inRange => exact .color alpha inRange _

/-- No token stands for a torn text. -/
theorem token_torn {t : Torn} (sound : c.kind.Sound) (value : c.value? = some (.text (.torn t))) :
    c.token = .error (.torn t) := by
  obtain ⟨name, hint, x, y, width, height, kind⟩ := c
  cases sound with
  | edit | dropdown => cases value; rfl
  | label | intEdit | floatEdit | checkbox | color => cases value

theorem readBack_of_sound (sound : c.kind.Sound) : ∃ v, c.readBack = .ok v := by
  obtain ⟨name, hint, x, y, width, height, kind⟩ := c
  cases sound <;> exact ⟨_, rfl⟩

end Control

end ScriptDialog
