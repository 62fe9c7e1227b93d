import ScriptDialog.Dialog.Basic
import ScriptDialog.Text.Pieces

/-! The values of a dialog as one line of text: a piece `name:token` for each control that can be
saved, and a bar between the pieces. -/
namespace ScriptDialog.Dialog

/-- The name's token and the value's token of each control that can be saved. -/
def savedPairs : List Control → Except ControlFault (List (String × Text))
  | [] => .ok []
  | c :: rest =>
    if c.persists then do
      let name ← Control.textToken c.name
      let token ← c.token
      let pairs ← savedPairs rest
      return (name, token) :: pairs
    else savedPairs rest

def piece (pair : String × Text) : List Glyph :=
  pair.1.toList.map .char ++ .char ':' :: pair.2.glyphs

def serialize (d : Dialog) : Except ControlFault Text := do
  let pairs ← savedPairs d.controls
  return .ofGlyphs (Pieces.join [.char '|'] (pairs.map piece))

/-- What stands before the first colon and after it, in each piece that holds a colon. -/
def rawPieces (text : Text) : List (Text × Text) :=
  (Pieces.split (.char '|') text.glyphs).filterMap fun part =>
    (Pieces.cut? (.char ':') part).map fun (name, token) => (.ofGlyphs name, .ofGlyphs token)

/-- Pieces with their names decoded, up to one whose name cannot be. -/
structure Named where
  pieces : List (String × Text)
  fault : Option ControlFault

def decodeNames : List (Text × Text) → Named
  | [] => ⟨[], none⟩
  | (name, token) :: rest =>
    match Control.decoded name with
    | .error fault => ⟨[], some fault⟩
    | .ok name =>
      let after := decodeNames rest
      ⟨(name, token) :: after.pieces, after.fault⟩

/-- The name and the token of each piece of a text. -/
def pieces (text : Text) : Named := decodeNames (rawPieces text)

/-- The controls after a change that a fault may have cut short. -/
structure Restored where
  controls : List Control
  fault : Option ControlFault

/-- Gives a token to every control of the name that can be saved, up to the first fault. -/
def deliver (name : String) (token : Text) : List Control → Restored
  | [] => ⟨[], none⟩
  | c :: rest =>
    if c.isNamed name && c.persists then
      match c.receive token with
      | .error fault => ⟨c :: rest, some fault⟩
      | .ok c' =>
        let after := deliver name token rest
        ⟨c' :: after.controls, after.fault⟩
    else
      let after := deliver name token rest
      ⟨c :: after.controls, after.fault⟩

def deliverAll : List (String × Text) → List Control → Restored
  | [], controls => ⟨controls, none⟩
  | (name, token) :: rest, controls =>
    let after := deliver name token controls
    match after.fault with
    | some fault => ⟨after.controls, some fault⟩
    | none => deliverAll rest after.controls

/-- Restores the values that the text names. What was restored before a fault stays, and so does
what stands before a name that cannot be decoded. -/
def deserialize (d : Dialog) (text : Text) : Dialog × Option ControlFault :=
  let named := pieces text
  let after := deliverAll named.pieces d.controls
  ({ d with controls := after.controls }, after.fault.or named.fault)

end ScriptDialog.Dialog
