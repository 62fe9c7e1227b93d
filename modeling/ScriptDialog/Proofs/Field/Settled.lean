import ScriptDialog.Proofs.Control.Misread
import ScriptDialog.Proofs.Control.Receive
import ScriptDialog.Proofs.Number.Surrounded

/-! What a field of a dynamic record gives. The default says which kind of value is wanted, and a
value of that kind comes out: what is held, if it can be read so, and the default in every other
case. Only a text that is taken for a number and then refused stands in the way of a number. -/
namespace ScriptDialog.Field

/-- A number, or a text that denotes one, and the double it is taken for. -/
inductive Measures : Value → Double → Prop where
  | float (x : Double) : Measures (.float x) x
  | int {n : Int} {x : Double} (nearest : Double.ofInt? n = some x) : Measures (.int n) x
  | text {s : String} {x : Double} (spelt : Numeral.Spelt s.toList x) : Measures (.text s) x

/-- A text, or a number in its plain form. -/
inductive Shows : Value → Text → Prop where
  | text (t : Text) : Shows (.text t) t
  | float (x : Double) : Shows (.float x) (String.ofList (Decimal.plainText x))
  | int {n : Int} {x : Double} (nearest : Double.ofInt? n = some x) :
      Shows (.int n) (String.ofList (Decimal.plainText x))

/-- What a held value is for a default: the value of the default's kind that it can be read as. -/
inductive Reads : (default held read : Value) → Prop where
  | flag (d b : Bool) : Reads (.bool d) (.bool b) (.bool b)
  | int (d : Int) {held : Value} {x : Double} {n : Int} (measures : Measures held x)
      (whole : x.truncate = .ok n) (narrow : Narrow n) : Reads (.int d) held (.int n)
  | float (d : Double) {held : Value} {x : Double} (measures : Measures held x) :
      Reads (.float d) held (.float x)
  | text (d : Text) {held : Value} {t : Text} (shows : Shows held t) :
      Reads (.text d) held (.text t)

/-- Two values of one of the four kinds that a field can have. -/
inductive SameKind : Value → Value → Prop where
  | flag (a b : Bool) : SameKind (.bool a) (.bool b)
  | int (a b : Int) : SameKind (.int a) (.int b)
  | float (a b : Double) : SameKind (.float a) (.float b)
  | text (a b : Text) : SameKind (.text a) (.text b)

/-- A default that asks for a number. -/
def Numeric (default : Value) : Prop := (∃ n, default = .int n) ∨ ∃ x, default = .float x

/-- Held values that are not what the default asks for. -/
inductive Unfit : (default held : Value) → Prop where
  /-- An integer without a double, whatever is asked for. -/
  | wide {default : Value} {n : Int} (wide : Double.wideFrom ≤ n.natAbs) : Unfit default (.int n)
  | nan (d : Int) : Unfit (.int d) (.float .nan)
  | infinite (d : Int) (minus : Bool) : Unfit (.int d) (.float (.infinite minus))
  /-- A number, or a text that denotes one, beyond 32 bits. -/
  | outside (d : Int) {held : Value} {x : Double} {n : Int} (measures : Measures held x)
      (whole : x.truncate = .ok n) (outside : ¬ Narrow n) : Unfit (.int d) held
  /-- A text that is converted neither to a double nor from base sixteen. -/
  | refused {default : Value} {s : String} (numeric : Numeric default)
      (refused : ∀ literal x, Numeral.readDouble literal s.toList ≠ .ok x)
      (noPrefixed : Numeral.hexadecimal? s.toList = none) : Unfit default (.text s)
  /-- No number holds a surrogate. -/
  | torn {default : Value} (t : Torn) (numeric : Numeric default) : Unfit default (.text (.torn t))
  | noFlag (d : Bool) {held : Value} (other : ∀ b, held ≠ .bool b) : Unfit (.bool d) held
  | alien {default held : Value} (asked : ∀ b, default ≠ .bool b) (noText : ∀ t, held ≠ .text t)
      (noNumber : held.plainNumber? = none) : Unfit default held

/-- The texts of the items that have one, in order. -/
inductive Listed : List Value → List Text → Prop where
  | nil : Listed [] []
  | shown {item : Value} {items : List Value} {t : Text} {texts : List Text}
      (shows : Shows item t) (rest : Listed items texts) : Listed (item :: items) (t :: texts)
  | skipped {item : Value} {items : List Value} {texts : List Text}
      (silent : ∀ t, ¬ Shows item t) (rest : Listed items texts) : Listed (item :: items) texts

/-- The items of the list in a field; none where it holds no list. -/
def items (record : Value) (key : String) : List Value :=
  ((record.entries?.bind fun entries => entries.get? (.text key)).bind Value.items?).getD []

variable {default held v : Value} {record : Value} {key : String} {x : Double} {n : Int}

theorem plainNumber?_int {α : Type} (f : Number → Option α) (n : Int) :
    (Value.int n).plainNumber?.bind f = f (.int n) := rfl

theorem toOption_ofInt (n : Int) : (Double.ofInt n).toOption = Double.ofInt? n := by
  unfold Double.ofInt
  generalize Double.ofInt? n = nearest
  cases nearest <;> rfl

theorem double?_int (n : Int) : double? (.int n) = .ok (Double.ofInt? n) := by
  have number : double? (.int n) =
    .ok ((Value.int n).plainNumber?.bind fun n => n.toDouble.toOption) := rfl
  rw [number, plainNumber?_int, Number.toDouble, toOption_ofInt]

theorem text?_int (n : Int) :
    text? (.int n) = (Double.ofInt? n).map fun x => .whole
      (String.ofList (Decimal.plainText x)) := by
  have number : text? (.int n) =
    (Value.int n).plainNumber?.bind fun n => n.plainText.toOption.map Text.whole := rfl
  rw [number, plainNumber?_int, Number.plainText, Number.toDouble, ← toOption_ofInt]
  generalize Double.ofInt n = converted
  cases converted <;> rfl

theorem Measures.double? (measures : Measures held x) : double? held = .ok (some x) := by
  cases measures with
  | float => rfl
  | int nearest => rw [double?_int, nearest]
  | text spelt => exact Numeral.read?_some_iff.mpr spelt

theorem Measures.unique {y : Double} (measures : Measures held x) (other : Measures held y) :
    x = y := by
  have same := measures.double?.symm.trans other.double?
  exact Option.some.inj (Except.ok.inj same)

theorem measures_of_double? (read : Field.double? held = .ok (some x)) : Measures held x := by
  cases held with
  | atom a =>
    cases a with
    | text t =>
      cases t with
      | whole s => exact .text (Numeral.read?_some_iff.mp read)
      | torn t => cases read
    | int n => exact .int (Except.ok.inj ((double?_int n).symm.trans read))
    | float y =>
      cases read
      exact .float x
    | null | bool | bytes | exotic => cases read
  | list | tuple | map | color => cases read

/-- What becomes of a value where a double is asked for. -/
inductive DoubleOutcome (held : Value) : Except NumberFault (Option Double) → Prop where
  | misread {fault : NumberFault} (misread : Misread held) : DoubleOutcome held (.error fault)
  | measured {x : Double} (clean : ¬ Misread held) (measures : Measures held x) :
      DoubleOutcome held (.ok (some x))
  | unmeasured (clean : ¬ Misread held) (blank : ∀ x, ¬ Measures held x) :
      DoubleOutcome held (.ok none)

theorem doubleOutcome (held : Value) : DoubleOutcome held (double? held) := by
  cases read : double? held with
  | error fault =>
    apply DoubleOutcome.misread
    by_contra clean
    obtain ⟨_, ok⟩ := (double?_ok_iff held).mpr clean
    cases read.symm.trans ok
  | ok found =>
    have clean := (double?_ok_iff held).mp ⟨found, read⟩
    cases found with
    | some x => exact .measured clean (measures_of_double? read)
    | none =>
      refine .unmeasured clean fun x measures => ?_
      cases read.symm.trans measures.double?

theorem text?_eq_some_iff {t : Text} : text? held = some t ↔ Shows held t := by
  constructor
  · intro shown
    cases held with
    | atom a =>
      cases a with
      | text t' =>
        cases shown
        exact .text t
      | int n =>
        obtain ⟨x, nearest, written⟩ := Option.map_eq_some_iff.mp ((text?_int n).symm.trans shown)
        exact written ▸ .int nearest
      | float y =>
        cases shown
        exact .float y
      | null | bool | bytes | exotic => cases shown
    | list | tuple | map | color => cases shown
  · intro shows
    cases shows with
    | text => rfl
    | float => rfl
    | int nearest => rw [text?_int, nearest, Option.map_some]

theorem Shows.unique {t t' : Text} (shows : Shows held t) (other : Shows held t') : t = t' := by
  have same := (text?_eq_some_iff.mpr shows).symm.trans (text?_eq_some_iff.mpr other)
  exact Option.some.inj same

theorem narrow?_eq_some_iff : narrow? x = some n ↔ x.truncate = .ok n ∧ Narrow n := by
  unfold narrow? Narrow
  cases whole : x.truncate with
  | error fault => simp
  | ok m =>
    dsimp only
    constructor
    · intro read
      obtain ⟨narrow, rfl⟩ := Option.ite_some_none_eq_some.mp read
      exact ⟨rfl, narrow⟩
    · rintro ⟨⟨⟩, narrow⟩
      rw [if_pos narrow]

/-- What becomes of a field. -/
inductive Outcome (default : Value) : Option Value → Except NumberFault Value → Prop where
  | absent : Outcome default none (.ok default)
  | misread {held : Value} {fault : NumberFault} (numeric : Numeric default)
      (misread : Misread held) : Outcome default (some held) (.error fault)
  | read {held v : Value} (clean : ¬ (Numeric default ∧ Misread held))
      (reads : Reads default held v) : Outcome default (some held) (.ok v)
  | unread {held : Value} (clean : ¬ (Numeric default ∧ Misread held))
      (blank : ∀ v, ¬ Reads default held v) : Outcome default (some held) (.ok default)

theorem flag_not_numeric (d : Bool) : ¬ Numeric (.bool d) := by
  rintro (⟨_, ⟨⟩⟩ | ⟨_, ⟨⟩⟩)

theorem text_not_numeric (d : Text) : ¬ Numeric (.text d) := by
  rintro (⟨_, ⟨⟩⟩ | ⟨_, ⟨⟩⟩)

theorem outcome_flag (record : Value) (key : String) (d : Bool) :
    Outcome (.bool d) (value? record key) (like record key (.bool d)) := by
  have unasked (held : Value) : ¬ (Numeric (.bool d) ∧ Misread held) :=
    fun both => flag_not_numeric d both.1
  show Outcome _ _ (.ok (.bool (((value? record key).bind flag?).getD d)))
  cases value? record key with
  | none => exact .absent
  | some held =>
    rw [Option.bind_some]
    cases found : flag? held with
    | some b =>
      refine .read (unasked held) ?_
      unfold flag? at found
      split at found
      · cases found
        exact .flag d b
      · cases found
    | none =>
      refine .unread (unasked held) ?_
      rintro _ ⟨_, b⟩
      cases found

theorem outcome_text (record : Value) (key : String) (d : Text) :
    Outcome (.text d) (value? record key) (like record key (.text d)) := by
  have unasked (held : Value) : ¬ (Numeric (.text d) ∧ Misread held) :=
    fun both => text_not_numeric d both.1
  show Outcome _ _ (.ok ((((value? record key).bind text?).map Value.text).getD (.text d)))
  cases value? record key with
  | none => exact .absent
  | some held =>
    rw [Option.bind_some]
    cases shown : text? held with
    | some t => exact .read (unasked held) (.text d (text?_eq_some_iff.mp shown))
    | none =>
      refine .unread (unasked held) ?_
      rintro _ (_ | _ | _ | ⟨_, shows⟩)
      cases shown.symm.trans (text?_eq_some_iff.mpr shows)

theorem outcome_float (record : Value) (key : String) (d : Double) :
    Outcome (.float d) (value? record key) (like record key (.float d)) := by
  have asked : Numeric (.float d) := .inr ⟨d, rfl⟩
  show Outcome _ _ (Value.float <$> double record key d)
  unfold double
  cases value? record key with
  | none => exact .absent
  | some held =>
    have outcome := doubleOutcome held
    dsimp only
    generalize double? held = made at outcome ⊢
    cases outcome with
    | misread misread => exact .misread asked misread
    | measured clean measures => exact .read (fun both => clean both.2) (.float d measures)
    | unmeasured clean blank =>
      refine .unread (fun both => clean both.2) ?_
      rintro _ (_ | _ | ⟨_, measures⟩)
      exact blank _ measures

theorem outcome_int (record : Value) (key : String) (d : Int) :
    Outcome (.int d) (value? record key) (like record key (.int d)) := by
  have asked : Numeric (.int d) := .inl ⟨d, rfl⟩
  show Outcome _ _ (Value.int <$> int record key d)
  unfold int int?
  cases value? record key with
  | none => exact .absent
  | some held =>
    have outcome := doubleOutcome held
    dsimp only
    generalize double? held = made at outcome ⊢
    cases outcome with
    | misread misread => exact .misread asked misread
    | @measured x clean measures =>
      show Outcome _ _ (.ok (.int ((narrow? x).getD d)))
      cases narrowed : narrow? x with
      | some n =>
        obtain ⟨whole, narrow⟩ := narrow?_eq_some_iff.mp narrowed
        exact .read (fun both => clean both.2) (.int d measures whole narrow)
      | none =>
        refine .unread (fun both => clean both.2) ?_
        rintro _ (_ | ⟨_, other, whole, narrow⟩)
        cases measures.unique other
        cases narrowed.symm.trans (narrow?_eq_some_iff.mpr ⟨whole, narrow⟩)
    | unmeasured clean blank =>
      refine .unread (fun both => clean both.2) ?_
      rintro _ (_ | ⟨_, measures, _, _⟩)
      exact blank _ measures

theorem outcome_like (scalar : SameKind default default) (record : Value) (key : String) :
    Outcome default (value? record key) (like record key default) := by
  cases scalar with
  | flag d => exact outcome_flag record key d
  | int d => exact outcome_int record key d
  | float d => exact outcome_float record key d
  | text d => exact outcome_text record key d

theorem Reads.sameKind (reads : Reads default held v) : SameKind default v := by
  cases reads with
  | flag d b => exact .flag d b
  | int d => exact .int d _
  | float d => exact .float d _
  | text d => exact .text d _

theorem Shows.nearest {t : Text} (shows : Shows (.int n) t) : ∃ x, Double.ofInt? n = some x := by
  cases shows with
  | int nearest => exact ⟨_, nearest⟩

theorem Measures.nearest (measures : Measures (.int n) x) : Double.ofInt? n = some x := by
  cases measures with
  | int nearest => exact nearest

/-- The conversion of the whole text takes every decimal numeral that is read. -/
theorem not_spelt_of_refused {text : List Char}
    (refused : ∀ literal x, Numeral.readDouble literal text ≠ .ok x)
    (noPrefixed : Numeral.hexadecimal? text = none) (x : Double) : ¬ Numeral.Spelt text x := by
  rintro (⟨between, denotes⟩ | ⟨between, spells, _⟩)
  · exact refused "" x (Numeral.readDouble_of_denotes "" between denotes)
  · cases noPrefixed.symm.trans (Numeral.hexadecimal?_iff.mpr ⟨_, between, spells⟩)

theorem Unfit.unread (unfit : Unfit default held) : ¬ Reads default held v := by
  intro reads
  cases unfit with
  | @wide _ n wide =>
    have beyond := (Double.ofInt?_eq_none_iff n).mpr wide
    cases reads with
    | int d measures => cases beyond.symm.trans measures.nearest
    | float d measures => cases beyond.symm.trans measures.nearest
    | text d shows =>
      obtain ⟨x, nearest⟩ := shows.nearest
      cases beyond.symm.trans nearest
  | nan =>
    cases reads with
    | int d measures whole =>
      cases measures
      cases whole
  | infinite =>
    cases reads with
    | int d measures whole =>
      cases measures
      cases whole
  | outside d measures whole outside =>
    cases reads with
    | int d other whole' narrow =>
      cases measures.unique other
      cases whole.symm.trans whole'
      exact outside narrow
  | refused numeric refused noPrefixed =>
    cases reads with
    | int d measures =>
      cases measures with
      | text spelt => exact not_spelt_of_refused refused noPrefixed _ spelt
    | float d measures =>
      cases measures with
      | text spelt => exact not_spelt_of_refused refused noPrefixed _ spelt
    | text d => exact text_not_numeric d numeric
  | torn t numeric =>
    cases reads with
    | int d measures | float d measures => cases measures
    | text d => exact text_not_numeric d numeric
  | noFlag d other =>
    cases reads with
    | flag d b => exact other b rfl
  | alien asked noText noNumber =>
    have unmeasured (x : Double) : ¬ Measures held x := by
      rintro (_ | _ | _)
      · cases noNumber
      · cases noNumber
      · exact noText _ rfl
    cases reads with
    | flag d b => exact asked d rfl
    | int d measures => exact unmeasured _ measures
    | float d measures => exact unmeasured _ measures
    | text d shows =>
      cases shows with
      | float | int => cases noNumber
      | text => exact noText _ rfl

theorem listed_filterMap (items : List Value) : Listed items (items.filterMap text?) := by
  induction items with
  | nil => exact .nil
  | cons item items ih =>
    cases shown : text? item with
    | some t =>
      rw [List.filterMap_cons_some shown]
      exact .shown (text?_eq_some_iff.mp shown) ih
    | none =>
      rw [List.filterMap_cons_none shown]
      refine .skipped (fun t shows => ?_) ih
      cases shown.symm.trans (text?_eq_some_iff.mpr shows)

theorem listed_texts (record : Value) (key : String) :
    Listed (items record key) (texts record key) := by
  unfold items texts
  split
  · next found listed =>
    rw [listed]
    exact listed_filterMap found
  · next none =>
    rw [none]
    exact .nil

namespace Outcome

variable {found : Option Value} {made : Except NumberFault Value}

theorem ok_iff (outcome : Outcome default found made) : (∃ v, made = .ok v) ↔
    ¬ (Numeric default ∧ ∃ held, found = some held ∧ Misread held) := by
  cases outcome with
  | absent =>
    refine iff_of_true ⟨_, rfl⟩ ?_
    rintro ⟨_, _, ⟨⟩, _⟩
  | misread numeric misread =>
    refine iff_of_false ?_ (not_not.mpr ⟨numeric, _, rfl, misread⟩)
    rintro ⟨_, ⟨⟩⟩
  | read clean =>
    refine iff_of_true ⟨_, rfl⟩ ?_
    rintro ⟨numeric, _, ⟨⟩, misread⟩
    exact clean ⟨numeric, misread⟩
  | unread clean =>
    refine iff_of_true ⟨_, rfl⟩ ?_
    rintro ⟨numeric, _, ⟨⟩, misread⟩
    exact clean ⟨numeric, misread⟩

theorem sameKind (outcome : Outcome default found (.ok v)) (scalar : SameKind default default) :
    SameKind default v := by
  cases outcome with
  | absent => exact scalar
  | read clean reads => exact reads.sameKind
  | unread => exact scalar

theorem eq_default_of_none (outcome : Outcome default none (.ok v)) : v = default := by
  cases outcome
  rfl

theorem eq_default_of_unfit (outcome : Outcome default (some held) (.ok v))
    (unfit : Unfit default held) : v = default := by
  cases outcome with
  | read clean reads => exact absurd reads unfit.unread
  | unread => rfl

theorem reads_or_default (outcome : Outcome default (some held) (.ok v)) :
    Reads default held v ∨ v = default ∧ ∀ w, ¬ Reads default held w := by
  cases outcome with
  | read clean reads => exact .inl reads
  | unread clean blank => exact .inr ⟨rfl, blank⟩

end Outcome

theorem misreadAt_iff : MisreadAt record key ↔
    ∃ s : String, value? record key = some (.text s) ∧ Numeral.Interrupted s.toList := by
  constructor
  · rintro ⟨_, found, s, rfl, separated⟩
    exact ⟨s, found, Numeral.separated_iff.mp separated⟩
  · rintro ⟨s, found, interrupted⟩
    exact ⟨_, found, s, rfl, Numeral.separated_iff.mpr interrupted⟩

/-- A field is read unless a number is asked for and a numeral with a separator beside it is held.
What comes out is of the default's kind: what the held value can be read as, and the default where
nothing is held or where it can be read as nothing, as every unfit one. The texts of a list are
those of its items. -/
theorem like_settled_iff (scalar : SameKind default default) (record : Value) (key : String) :
    ((∃ v, like record key default = .ok v) ↔ ¬ (Numeric default ∧
        ∃ s : String, value? record key = some (.text s) ∧ Numeral.Interrupted s.toList)) ∧
      (∀ v, like record key default = .ok v → SameKind default v ∧
        (value? record key = none → v = default) ∧
        ∀ held, value? record key = some held → (Unfit default held → v = default) ∧
          (Reads default held v ∨ v = default ∧ ∀ w, ¬ Reads default held w)) ∧
      Listed (items record key) (texts record key) := by
  have outcome := outcome_like scalar record key
  rw [← misreadAt_iff]
  refine ⟨outcome.ok_iff, fun v made => ?_, listed_texts record key⟩
  rw [made] at outcome
  refine ⟨outcome.sameKind scalar, fun absent => ?_, fun held found => ?_⟩
  · rw [absent] at outcome
    exact outcome.eq_default_of_none
  · rw [found] at outcome
    exact ⟨outcome.eq_default_of_unfit, outcome.reads_or_default⟩

/-- No number, where an integer is asked for. -/
theorem like_settled_nan : SameKind (.int 7) (.int 7) ∧
    like (.map [(.text "k", .float .nan)]) "k" (.int 7) = .ok (.int 7) := by
  have scalar := SameKind.int 7 7
  obtain ⟨read, settled, _⟩ := like_settled_iff scalar (.map [(.text "k", .float .nan)]) "k"
  have held : value? (.map [(.text "k", .float .nan)]) "k" = some (.float .nan) := rfl
  have made : ∃ v, like (.map [(.text "k", .float .nan)]) "k" (.int 7) = .ok v := by
    apply read.mpr
    rintro ⟨_, s, found, _⟩
    cases held.symm.trans found
  obtain ⟨v, made⟩ := made
  obtain ⟨_, _, fits⟩ := settled v made
  obtain rfl := (fits _ held).1 (.nan 7)
  exact ⟨scalar, made⟩

/-- A separator before a digit, where an integer is asked for. -/
theorem like_unsettled : like (.map [(.text "k", .text "\x1c1")]) "k" (.int 0) =
    .error (.unreadable "'\\x1c1'") :=
  rfl

end ScriptDialog.Field
