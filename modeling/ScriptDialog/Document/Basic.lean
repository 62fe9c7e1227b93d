import ScriptDialog.Number.Fault
import ScriptDialog.Text

/-! Documents in the object notation of saved states. Numbers keep their spelling. -/
namespace ScriptDialog

inductive Document where
  | null
  | bool (b : Bool)
  | number (spelling : List Char)
  | quoted (t : Text)
  | list (items : List Document)
  | object (members : List (Text × Document))

instance : Inhabited Document := ⟨.null⟩

inductive DocumentFault where
  | malformed
  /-- An integer with too many digits. -/
  | number (fault : NumberFault)

namespace Document

/-- Replaces the value of a member, which keeps its place, or adds one. -/
def putMember {α : Type} (key : Text) (value : α) : List (Text × α) → List (Text × α)
  | [] => [(key, value)]
  | (k, v) :: rest =>
    if k = key then (k, value) :: rest else (k, v) :: putMember key value rest

def member? (key : Text) : Document → Option Document
  | .object members => members.lookup key
  | _ => none

end Document

end ScriptDialog
