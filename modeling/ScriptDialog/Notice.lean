import ScriptDialog.Dialog.Build

/-! Notices: what a dialog tells the log of its host, and when. -/
namespace ScriptDialog

inductive Severity where
  | debug
  | info
  | warning
  | error
  deriving DecidableEq, Repr

def Severity.rank : Severity → Nat
  | .debug => 0
  | .info => 1
  | .warning => 2
  | .error => 3

inductive Notice where
  | controlMade (control : Control)
  | buttonMade (label : Text) (index : Nat)
  | outOfRange (index : Value)
  | cancelled
  | answered (label : Text)
  | brokenStates (path : String)
  | closedUnpressed

namespace Notice

def severity : Notice → Severity
  | .controlMade _ | .buttonMade .. => .debug
  | .outOfRange _ => .error
  | .brokenStates _ => .warning
  | .cancelled | .answered _ | .closedUnpressed => .info

def message : Notice → Text
  | .controlMade c =>
    "コントロールを作成しました: " ++ c.name.literalText ++ " (" ++ c.x.display ++ "," ++ c.y.display ++ ")(" ++
      c.width.display ++ "," ++ c.height.display ++ ") hint=" ++ c.hint.literalText
  | .buttonMade label index => "ボタンを作成しました: " ++ label ++ " (" ++ toString index ++ ")"
  | .outOfRange index => "ボタン " ++ index.literalText ++ " は範囲外です。キャンセル扱いにします"
  | .cancelled => "キャンセルを返します"
  | .answered label => "ボタン " ++ Literal.ofText label ++ " を返します"
  | .brokenStates path => "ダイアログ値ファイルが壊れているため無視します: " ++ path
  | .closedUnpressed => "ボタンが押されずにダイアログが閉じられました"

end Notice

namespace Dialog

/-- Each control is announced until one fails. -/
def controlNotices : List Value → List Notice
  | [] => []
  | record :: rest =>
    match Control.ofRecord record with
    | .ok control => .controlMade control :: controlNotices rest
    | .error _ => []

/-- Buttons are announced once the dialog stands. -/
def buildNotices (controls labels ids : Value) (includeButtons : Bool) : List Notice :=
  controlNotices (controls.items?.getD []) ++
    match build controls labels ids includeButtons with
    | .ok d => d.buttons.mapIdx fun i b => .buttonMade b.label i
    | .error _ => []

/-- A value that is neither an index nor null is out of range. -/
def pushNotices (d : Dialog) (v : Value) : List Notice :=
  match v, d.index? v with
  | .atom .null, _ | _, some _ => []
  | v, none => [.outOfRange v]

def readBackNotices (d : Dialog) : List Notice :=
  match d.readBack with
  | .error _ => []
  | .ok reading =>
    match reading.answer with
    | none => []
    | some none => [.cancelled]
    | some (some label) => [.answered label]

end Dialog

end ScriptDialog
