import ScriptDialog.Document.Reader
import ScriptDialog.Document.Writer

/-! Saved states: the line of values of each dialog under the dialog's key, and the text of the
file that holds them. -/
namespace ScriptDialog

abbrev States := List (Text × Text)

namespace States

def get? (states : States) (key : Text) : Option Text := states.lookup key

def put (states : States) (key value : Text) : States := Document.putMember key value states

/-- The text members of the member `dialogs`; any other document holds no states. -/
def ofDocument (d : Document) : States :=
  match d.member? "dialogs" with
  | some (.object members) =>
    members.filterMap fun (key, value) =>
      match value with
      | .quoted t => some (key, t)
      | _ => none
  | _ => []

/-- The states in a file's text; nothing when it is malformed. -/
def ofChars? (text : List Char) : Except NumberFault (Option States) :=
  match Document.ofChars text with
  | .ok d => .ok (some (ofDocument d))
  | .error .malformed => .ok none
  | .error (.number fault) => .error fault

/-- In the order of the code points of their keys. -/
def sorted (states : States) : States := states.mergeSort fun a b => decide (a.1 ≤ b.1)

/-- The version of the file's form. -/
def version : Nat := 1

/-- A file's text: one line. -/
def toText (states : States) : Text :=
  .whole ("\x7b\"version\": " ++ toString version ++ ", \"dialogs\": ") ++
    .ofGlyphs (Document.writeTexts states.sorted) ++ .whole "\x7d\n"

end States

end ScriptDialog
