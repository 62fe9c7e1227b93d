import ScriptDialog.Control.Basic
import ScriptDialog.Text.Token
import ScriptDialog.Value.Numeric

/-! The value of a control as a script reads it, and as the token under which it is saved. -/
namespace ScriptDialog

inductive ControlFault where
  /-- The kind leaves the operation open. -/
  | undefined
  /-- A control of the class has no value to save. -/
  | noSavedValue (className : String)
  /-- A text that no bytes stand for. -/
  | torn (text : Torn)
  | unfit (fault : ValueFault)

def ControlFault.message : ControlFault → String
  | .undefined => ""
  | .noSavedValue className => className ++ " control has no persistable value"
  | .torn text => text.message
  | .unfit fault => fault.message

namespace Control

/-- The token of a value that has to be text. -/
def textToken (v : Value) : Except ControlFault String :=
  match v with
  | .atom (.text (.whole s)) => .ok (Token.encode s)
  | .atom (.text (.torn t)) => .error (.torn t)
  | v => .error (.unfit (.noMember v.kindName "encode"))

/-- The text form of a value that has to be a colour. -/
def hexText (v alpha : Value) : Except ControlFault String :=
  match v with
  | .color c => .ok (c.hex alpha.truthy)
  | v => .error (.unfit (.noMember v.kindName "hex_formatted"))

/-- The exact text of a value that has to denote a double. -/
def doubleToken (v : Value) : Except ControlFault String :=
  match v.toDouble with
  | .ok x => .ok (String.ofList (Decimal.exactText x))
  | .error fault => .error (.unfit (.number fault))

/-- The value as it is shown; an integer must not be too wide to be written. -/
def shownToken (v : Value) : Except ControlFault Text :=
  match v with
  | .atom (.int n) =>
    (Numeral.writable n).map (fun n => (Value.int n).display) |>.mapError (.unfit ∘ .number)
  | v => .ok v.display

/-- What a script gets: the value as it is held, a flag for a checkbox, and the text form of a
colour. -/
def readBack (c : Control) : Except ControlFault Value :=
  match c.kind with
  | .bare | .unformed => .error .undefined
  | .label _ => .ok .null
  | .edit _ value | .intEdit value .. | .floatEdit value .. | .dropdown value _ => .ok value
  | .checkbox _ value => .ok (.bool value.truthy)
  | .color _ value alpha => (Value.text ·) <$> hexText value alpha

/-- The token of the value. -/
def token (c : Control) : Except ControlFault Text :=
  match c.kind with
  | .bare | .label _ => .error (.noSavedValue c.className)
  | .unformed => .error .undefined
  | .edit _ value | .dropdown value _ => Text.whole <$> textToken value
  | .intEdit value .. => shownToken value
  | .floatEdit value .. => Text.whole <$> doubleToken value
  | .checkbox _ value => .ok (.whole (if value.truthy then "1" else "0"))
  | .color _ value alpha => (Text.whole ∘ Token.encode) <$> hexText value alpha

/-- The text that a token stands for. -/
def decoded : Text → Except ControlFault String
  | .whole token => .ok (Token.decode token)
  | .torn t => .error (.torn t)

@[simp] theorem decoded_whole (token : String) : decoded token = .ok (Token.decode token) := rfl

/-- The kind with the value that the token stands for. A number is read from the start of the token,
and no number goes on past a surrogate. -/
def kindFrom (kind : Kind) (token : Text) : Except ControlFault Kind :=
  match kind with
  | .bare | .label _ => .error (.noSavedValue kind.className)
  | .unformed => .error .undefined
  | .edit multiline _ => (fun s => .edit multiline (.text s)) <$> decoded token
  | .intEdit _ min max => .ok (.intEdit (.int (Numeral.readIntStart token.start)) min max)
  | .floatEdit _ min max step =>
    match Numeral.readStart token.start with
    | .ok x => .ok (.floatEdit (.float x) min max step)
    | .error fault => .error (.unfit (.number fault))
  | .dropdown _ items => (fun s => .dropdown (.text s) items) <$> decoded token
  | .checkbox label _ => .ok (.checkbox label (.bool (token != "0")))
  | .color declared _ alpha =>
    match decoded token with
    | .error fault => .error fault
    | .ok text =>
      match Color.ofText text with
      | .ok value => .ok (.color declared (.color value) alpha)
      | .error fault => .error (.unfit (.number fault))

def receive (c : Control) (token : Text) : Except ControlFault Control :=
  (fun kind => { c with kind := kind }) <$> kindFrom c.kind token

end Control

end ScriptDialog
