import ScriptDialog.Control.Saved
import ScriptDialog.Proofs.Color
import ScriptDialog.Proofs.Number.RoundTrip
import ScriptDialog.Proofs.Text.Token

/-! Controls whose value has the type of their class. Each of them that can be saved has a token,
and a control of the same class reads its value back from it. -/
namespace ScriptDialog

/-- The value has the type of the kind. Its text, which is whole, or its integer is within
limits. -/
inductive Kind.Holds (texts : String → Prop) (ints : Int → Prop) : Kind → Prop where
  | bare : Holds texts ints .bare
  | label (text : Value) : Holds texts ints (.label text)
  | edit (multiline : Bool) {s : String} (fit : texts s) :
      Holds texts ints (.edit multiline (.text s))
  | intEdit {n : Int} (fit : ints n) (min max : Value) :
      Holds texts ints (.intEdit (.int n) min max)
  | floatEdit (x : Double) (min max step : Value) :
      Holds texts ints (.floatEdit (.float x) min max step)
  | dropdown {s : String} (fit : texts s) (items : Value) :
      Holds texts ints (.dropdown (.text s) items)
  | checkbox (label : Value) (b : Bool) : Holds texts ints (.checkbox label (.bool b))
  | color (declared : Bool) {c : Color} (inRange : c.InRange) (alpha : Value) :
      Holds texts ints (.color declared (.color c) alpha)

theorem Kind.Holds.imp {texts texts' : String → Prop} {ints : Int → Prop} {kind : Kind}
    (wider : ∀ s, texts s → texts' s) (held : kind.Holds texts ints) : kind.Holds texts' ints := by
  cases held with
  | bare => exact .bare
  | label text => exact .label text
  | edit multiline fit => exact .edit multiline (wider _ fit)
  | intEdit fit min max => exact .intEdit fit min max
  | floatEdit x min max step => exact .floatEdit x min max step
  | dropdown fit items => exact .dropdown (wider _ fit) items
  | checkbox label b => exact .checkbox label b
  | color declared inRange alpha => exact .color declared inRange alpha

/-- The token of a value that has its type. -/
inductive Kind.Writes : Kind → String → Prop where
  | edit (multiline : Bool) (s : String) : Writes (.edit multiline (.text s)) (Token.encode s)
  | intEdit (n : Int) (min max : Value) : Writes (.intEdit (.int n) min max) (toString n)
  | floatEdit (x : Double) (min max step : Value) :
      Writes (.floatEdit (.float x) min max step) (String.ofList (Decimal.exactText x))
  | dropdown (s : String) (items : Value) : Writes (.dropdown (.text s) items) (Token.encode s)
  | checkbox (label : Value) (b : Bool) :
      Writes (.checkbox label (.bool b)) (if b then "1" else "0")
  | color (declared : Bool) (c : Color) (alpha : Value) :
      Writes (.color declared (.color c) alpha) (Token.encode (c.hex alpha.truthy))

namespace Numeral

/-- Integers whose digits are not too many to be written. -/
def Writable (n : Int) : Prop := n.natAbs < Nat.pow 10 digitLimit

theorem writable_ok {n : Int} (fit : Writable n) : writable n = .ok n := if_pos fit

theorem writable_error {n : Int} (wide : ¬ Writable n) : writable n = .error .tooWideToWrite :=
  if_neg wide

theorem writable_of_lt {n : Int} (small : n.natAbs < 10 ^ 10) : Writable n := by
  have wide {k : Nat} (digits : 10 ≤ k) : 10 ^ 10 ≤ Nat.pow 10 k :=
    Nat.pow_le_pow_right (by decide) digits
  exact Nat.lt_of_lt_of_le small (wide (by decide))

theorem forall_mem_toString {p : Char → Prop} (marks : Decimal.Marks p) (n : Int) :
    ∀ c ∈ (toString n).toList, p c := by
  intro c member
  rw [toList_toString] at member
  rcases List.mem_append.mp member with sign | digit
  · split at sign
    · cases List.mem_singleton.mp sign
      exact marks.minus
    · cases sign
  · exact marks.digit (Digit.isDigit_toDigits c digit)

end Numeral

/-- Neither the name nor the value is a torn text. -/
structure Control.Whole (c : Control) : Prop where
  name : ∀ t, c.name ≠ .text (.torn t)
  value : ∀ t, c.value? ≠ some (.text (.torn t))

theorem Control.not_whole_iff {c : Control} : ¬ c.Whole ↔
    ∃ t, c.name = .text (.torn t) ∨ c.value? = some (.text (.torn t)) := by
  constructor
  · intro torn
    refine Classical.byContradiction fun none => torn ⟨fun t name => ?_, fun t value => ?_⟩
    · exact none ⟨t, .inl name⟩
    · exact none ⟨t, .inr value⟩
  · rintro ⟨t, name | value⟩ whole
    · exact whole.name t name
    · exact whole.value t value

theorem Control.Whole.spelt {c : Control} (whole : c.Whole) {t : Text} (isText : c.name = .text t) :
    ∃ name : String, c.name = .text name := by
  cases t with
  | whole name => exact ⟨name, isText⟩
  | torn t => exact absurd isText (whole.name t)

namespace Control

attribute [local irreducible] Numeral.writable

variable {texts : String → Prop} {ints : Int → Prop} {c : Control}

theorem shownToken_int {n : Int} (fit : Numeral.Writable n) :
    shownToken (.int n) = .ok (toString n) := by
  have shown : (Value.int n).display = toString n := congrArg Text.whole String.ofList_toList
  have written : shownToken (.int n) =
      ((Numeral.writable n).map (fun n => (Value.int n).display)).mapError (.unfit ∘ .number) := rfl
  rw [written, Numeral.writable_ok fit, ← shown]
  rfl

/-- A control on the first place of the grid. -/
def first (name : String) (kind : Kind) : Control :=
  ⟨.text name, .text "", .int 0, .int 0, .int 1, .int 1, kind⟩

/-- Each value of its type has its token. -/
theorem token_writes (held : c.kind.Holds texts ints) (limit : ∀ n, ints n → Numeral.Writable n)
    (persists : c.persists) : ∃ t : String, c.token = .ok t ∧ c.kind.Writes t := by
  obtain ⟨name, hint, x, y, width, height, kind⟩ := c
  cases held with
  | bare => cases persists
  | label => cases persists
  | edit multiline => exact ⟨_, rfl, .edit ..⟩
  | @intEdit n fit => exact ⟨_, shownToken_int (limit n fit), .intEdit ..⟩
  | floatEdit x => exact ⟨String.ofList (Decimal.exactText x), rfl, .floatEdit ..⟩
  | dropdown => exact ⟨_, rfl, .dropdown ..⟩
  | checkbox label b => exact ⟨_, rfl, .checkbox label b⟩
  | color declared _ alpha => exact ⟨_, rfl, .color ..⟩

theorem writes_of_token (held : c.kind.Holds texts ints) (limit : ∀ n, ints n → Numeral.Writable n)
    (persists : c.persists) {t : String} (token : c.token = .ok t) : c.kind.Writes t := by
  obtain ⟨t', token', writes⟩ := token_writes held limit persists
  cases token.symm.trans token'
  exact writes

end Control

theorem Kind.Writes.written {kind : Kind} {t : String} (writes : kind.Writes t) :
    Token.Written t.toList := by
  cases writes with
  | edit | dropdown | color => exact Token.written_encode _
  | intEdit n => exact .of_plain (Numeral.forall_mem_toString Decimal.marks_plain n)
  | floatEdit x =>
    rw [String.toList_ofList]
    exact .of_plain (Decimal.exactText_plain x)
  | checkbox _ b =>
    refine .of_plain fun c member => ?_
    cases b <;> cases List.mem_singleton.mp member <;> decide

end ScriptDialog
