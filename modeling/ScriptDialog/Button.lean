import ScriptDialog.Text.Lower

/-! The buttons of a dialog and the meanings a button can have. -/
namespace ScriptDialog

inductive ButtonId where
  | ok
  | yes
  | save
  | apply
  | close
  | no
  | cancel
  | help
  | contextHelp
  deriving DecidableEq, Repr

namespace ButtonId

/-- In the order of their numbers. -/
def all : List ButtonId := [.ok, .yes, .save, .apply, .close, .no, .cancel, .help, .contextHelp]

def name : ButtonId → String
  | .ok => "ok"
  | .yes => "yes"
  | .save => "save"
  | .apply => "apply"
  | .close => "close"
  | .no => "no"
  | .cancel => "cancel"
  | .help => "help"
  | .contextHelp => "context_help"

def number : ButtonId → Nat
  | .ok => 0
  | .yes => 1
  | .save => 2
  | .apply => 3
  | .close => 4
  | .no => 5
  | .cancel => 6
  | .help => 7
  | .contextHelp => 8

/-- The meaning with this name, in any mixture of cases. -/
def ofName? (text : Text) : Option ButtonId :=
  all.find? fun id => (id.name : Text) == Lower.ofText text

end ButtonId

/-- A button without an id has no meaning beyond its label. -/
structure Button where
  id : Option ButtonId
  label : Text
  deriving DecidableEq, Repr

/-- The buttons of a dialog that declares none. -/
def Button.defaults : List Button := [⟨some .ok, "OK"⟩, ⟨some .cancel, "Cancel"⟩]

end ScriptDialog
