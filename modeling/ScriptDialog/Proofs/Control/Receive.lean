import ScriptDialog.Proofs.Control.Held
import ScriptDialog.Proofs.Number.Clamped

/-! What a token does to a control: it sets the value and nothing else, whatever value was there
before. A control of the same class as the token's own reads back the same. -/
namespace ScriptDialog

/-- The kind with another value in the place of its own. -/
def Kind.withValue (v : Value) : Kind → Kind
  | .edit multiline _ => .edit multiline v
  | .intEdit _ min max => .intEdit v min max
  | .floatEdit _ min max step => .floatEdit v min max step
  | .dropdown _ items => .dropdown v items
  | .checkbox text _ => .checkbox text v
  | .color declared _ alpha => .color declared v alpha
  | kind => kind

namespace Control

def withValue (c : Control) (v : Value) : Control := { c with kind := c.kind.withValue v }

variable {c c' : Control} {t : Text}

@[simp] theorem name_withValue (v : Value) : (c.withValue v).name = c.name := rfl

@[simp] theorem isNamed_withValue (v : Value) (name : String) :
    (c.withValue v).isNamed name = c.isNamed name := rfl

@[simp] theorem persists_withValue (v : Value) : (c.withValue v).persists = c.persists := by
  obtain ⟨name, hint, x, y, width, height, kind⟩ := c
  cases kind <;> rfl

@[simp] theorem className_withValue (v : Value) : (c.withValue v).className = c.className := by
  obtain ⟨name, hint, x, y, width, height, kind⟩ := c
  cases kind with
  | edit multiline => cases multiline <;> rfl
  | color declared => cases declared <;> rfl
  | _ => rfl

@[simp] theorem receive_withValue (v : Value) : (c.withValue v).receive t = c.receive t := by
  obtain ⟨name, hint, x, y, width, height, kind⟩ := c
  cases kind <;> rfl

theorem withValue_withValue (c : Control) (v w : Value) :
    (c.withValue v).withValue w = c.withValue w := by
  obtain ⟨name, hint, x, y, width, height, kind⟩ := c
  cases kind <;> rfl

theorem withValue_self (c : Control) : ∃ v, c = c.withValue v := by
  obtain ⟨name, hint, x, y, width, height, kind⟩ := c
  cases kind with
  | edit _ value | dropdown value | checkbox _ value | color _ value => exact ⟨value, rfl⟩
  | intEdit value | floatEdit value => exact ⟨value, rfl⟩
  | bare | unformed | label => exact ⟨.null, rfl⟩

/-- A control that takes a token keeps everything but its value, and can be read back. -/
theorem taken_of_receive (received : c.receive t = .ok c') :
    ∃ v shown, c' = c.withValue v ∧ c'.readBack = .ok shown := by
  obtain ⟨name, hint, x, y, width, height, kind⟩ := c
  cases kind with
  | bare => cases received
  | unformed => cases received
  | label => cases received
  | intEdit | checkbox => cases received; exact ⟨_, _, rfl, rfl⟩
  | edit | dropdown =>
    -- a torn token is refused
    cases t <;> cases received
    exact ⟨_, _, rfl, rfl⟩
  | floatEdit =>
    simp only [receive, kindFrom] at received
    split at received <;> cases received
    exact ⟨_, _, rfl, rfl⟩
  | color =>
    simp only [receive, kindFrom] at received
    split at received
    · cases received
    · split at received <;> cases received
      exact ⟨_, _, rfl, rfl⟩

end Control

/-- Text that controls of every class can read as a token. -/
structure Token.Readable (t : String) : Prop where
  printable : ∀ c ∈ t.toList, 0x20 ≤ c.toNat ∧ c.toNat ≤ 0x7F
  short : (Token.decode t).length ≤ digitLimit ∨ '(' ∉ (Token.decode t).toList

/-- Texts that hold no more characters than digits are converted. -/
def Short (s : String) : Prop := s.length ≤ digitLimit

instance (s : String) : Decidable (Short s) := inferInstanceAs (Decidable (_ ≤ _))

/-- Texts that no colour refuses: without a parenthesis nothing is converted. -/
def Uncalled (s : String) : Prop := s.length ≤ digitLimit ∨ '(' ∉ s.toList

/-- Integers of 32 bits. -/
def Narrow (n : Int) : Prop := Numeral.int32Min ≤ n ∧ n ≤ Numeral.int32Max

instance (n : Int) : Decidable (Narrow n) := inferInstanceAs (Decidable (_ ∧ _))

theorem Narrow.writable {n : Int} (narrow : Narrow n) : Numeral.Writable n := by
  apply Numeral.writable_of_lt
  simp only [Narrow, Numeral.int32Min, Numeral.int32Max] at narrow
  omega

theorem Narrow.toInt32 {n : Int} (narrow : Narrow n) : Numeral.toInt32 n = n := by
  simp only [Narrow, Numeral.toInt32] at *
  omega

/-- Two kinds of one class, which may differ in what is not saved. -/
inductive Kind.Like : Kind → Kind → Prop where
  | label (a b : Value) : Like (.label a) (.label b)
  | edit (multiline : Bool) (a b : Value) : Like (.edit multiline a) (.edit multiline b)
  | intEdit (a b min min' max max' : Value) : Like (.intEdit a min max) (.intEdit b min' max')
  | floatEdit (a b min min' max max' step step' : Value) :
      Like (.floatEdit a min max step) (.floatEdit b min' max' step')
  | dropdown (a b items items' : Value) : Like (.dropdown a items) (.dropdown b items')
  | checkbox (a b label label' : Value) : Like (.checkbox label a) (.checkbox label' b)
  | color (declared : Bool) (a b alpha : Value) :
      Like (.color declared a alpha) (.color declared b alpha)

namespace Kind.Like

variable {a b c : Kind}

theorem symm (like : a.Like b) : b.Like a := by
  cases like <;> constructor

theorem trans (first : a.Like b) (second : b.Like c) : a.Like c := by
  cases first <;> cases second <;> constructor

theorem formed (like : a.Like b) : b ≠ .unformed := by
  cases like <;> simp

end Kind.Like

namespace Control

variable {c c' : Control} {t : String}

theorem persists_of_like (like : c.kind.Like c'.kind) : c'.persists = c.persists := by
  obtain ⟨name, hint, x, y, width, height, kind⟩ := c
  obtain ⟨name', hint', x', y', width', height', kind'⟩ := c'
  cases like <;> rfl

/-- Controls that are not saved all read back the same. -/
theorem readBack_of_like (like : c.kind.Like c'.kind) (persists : ¬ c.persists) :
    c.readBack = .ok .null ∧ c'.readBack = .ok .null := by
  obtain ⟨name, hint, x, y, width, height, kind⟩ := c
  obtain ⟨name', hint', x', y', width', height', kind'⟩ := c'
  cases like with
  | label => exact ⟨rfl, rfl⟩
  | _ => exact absurd rfl persists

theorem receive_readable (readable : Token.Readable t) (persists : c.persists)
    (formed : c.kind ≠ .unformed) : ∃ c', c.receive t = .ok c' := by
  obtain ⟨name, hint, x, y, width, height, kind⟩ := c
  cases kind with
  | bare => cases persists
  | label => cases persists
  | unformed => exact absurd rfl formed
  | edit | intEdit | dropdown | checkbox => exact ⟨_, rfl⟩
  | floatEdit =>
    simp only [receive, kindFrom, Text.start_whole, Numeral.readStart_printable readable.printable]
    exact ⟨_, rfl⟩
  | color =>
    obtain ⟨value, read⟩ := Color.ofText_ok readable.short
    simp only [receive, kindFrom, decoded_whole, read]
    exact ⟨_, rfl⟩

end Control

/-- Numbers hold no parenthesis, so none of them is the call of a colour. -/
theorem marks_noCall : Decimal.Marks (· ≠ '(') where
  digit digit same := absurd (same ▸ digit) (by decide)
  point := by decide
  letter := by decide
  plus := by decide
  minus := by decide
  word := by decide

namespace Kind.Writes

variable {kind : Kind} {t : String}

/-- The token of a value within limits can be read by controls of every class. -/
theorem readable (writes : kind.Writes t) (held : kind.Holds Uncalled Narrow) :
    Token.Readable t := by
  refine ⟨writes.written.printable, ?_⟩
  cases writes with
  | edit multiline s =>
    cases held with
    | edit _ fit => rwa [Token.decode_encode]
  | intEdit n =>
    rw [Token.decode_plain (Numeral.forall_mem_toString Decimal.marks_plain n)]
    exact .inr fun paren => Numeral.forall_mem_toString marks_noCall n _ paren rfl
  | floatEdit x =>
    rw [Token.decode_plain (by simpa using Decimal.exactText_plain x), String.toList_ofList]
    exact .inr fun paren => Decimal.forall_mem_exactText marks_noCall x _ paren rfl
  | dropdown s =>
    cases held with
    | dropdown fit => rwa [Token.decode_encode]
  | checkbox _ b => cases b <;> exact .inr (by decide +kernel)
  | color _ c alpha =>
    cases held with
    | color _ inRange =>
      rw [Token.decode_encode]
      exact .inl (Nat.le_trans (Color.length_hex_le inRange _) (by decide))

end Kind.Writes

/-- The value that the kind's token stands for: a transparency that is not in use is not saved. -/
def Kind.saved : Kind → Value
  | .bare | .unformed | .label _ => .null
  | .color _ (.color value) alpha => .color (value.shown alpha.truthy)
  | .edit _ value | .intEdit value .. | .floatEdit value .. | .dropdown value _ |
    .checkbox _ value | .color _ value _ => value

namespace Control

variable {texts : String → Prop} {c c' : Control} {t : String}

/-- A control of the same class takes from the token the value that was saved. -/
theorem receive_saved (writes : c.kind.Writes t) (held : c.kind.Holds texts Narrow)
    (like : c.kind.Like c'.kind) : c'.receive t = .ok (c'.withValue c.kind.saved) := by
  obtain ⟨name, hint, x, y, width, height, kind⟩ := c
  obtain ⟨name', hint', x', y', width', height', kind'⟩ := c'
  cases writes with
  | edit multiline s =>
    cases like
    simp only [receive, kindFrom, decoded_whole, Token.decode_encode]
    rfl
  | intEdit n =>
    cases held with
    | intEdit fit =>
      cases like
      have read := Numeral.readIntStart_append n Numeral.stops_nil
      rw [List.append_nil, fit.toInt32] at read
      simp only [receive, kindFrom, Text.start_whole, read]
      rfl
  | floatEdit x =>
    cases like
    simp only [receive, kindFrom, Text.start_whole, String.toList_ofList,
      Decimal.readStart_exactText]
    rfl
  | dropdown s =>
    cases like
    simp only [receive, kindFrom, decoded_whole, Token.decode_encode]
    rfl
  | checkbox _ b =>
    cases like
    cases b <;> rfl
  | color declared value alpha =>
    cases held with
    | color _ inRange =>
      cases like
      simp only [receive, kindFrom, decoded_whole, Token.decode_encode, Color.ofText_hex inRange]
      rfl

/-- What was saved is read back as what it was saved from. -/
theorem readBack_saved (writes : c.kind.Writes t) (like : c.kind.Like c'.kind) :
    ∃ shown, c.readBack = .ok shown ∧ (c'.withValue c.kind.saved).readBack = .ok shown := by
  obtain ⟨name, hint, x, y, width, height, kind⟩ := c
  obtain ⟨name', hint', x', y', width', height', kind'⟩ := c'
  cases writes with
  | color declared value alpha =>
    cases like
    refine ⟨.text (value.hex alpha.truthy), rfl, ?_⟩
    exact congrArg (fun text : String => Except.ok (Value.text text)) (value.hex_shown alpha.truthy)
  | _ =>
    cases like
    exact ⟨_, rfl, rfl⟩

/-- A control of the same class takes a value from the token that it reads back the same. -/
theorem readBack_receive (writes : c.kind.Writes t) (held : c.kind.Holds Short Narrow)
    (like : c.kind.Like c'.kind) :
    ∃ v shown, c'.receive t = .ok (c'.withValue v) ∧ c.readBack = .ok shown ∧
      (c'.withValue v).readBack = .ok shown := by
  obtain ⟨shown, read, read'⟩ := readBack_saved writes like
  exact ⟨_, shown, receive_saved writes held like, read, read'⟩

end Control

end ScriptDialog
