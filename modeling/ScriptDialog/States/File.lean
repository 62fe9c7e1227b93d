import ScriptDialog.Dialog.Saved
import ScriptDialog.Files.Environment
import ScriptDialog.Notice
import ScriptDialog.States.Basic

/-! Saved states in a file: a dialog's values are stored under a key and restored from it. -/
namespace ScriptDialog.States

inductive StatesFault where
  | file (fault : FileFault)
  | number (fault : NumberFault)
  | control (fault : ControlFault)

/-- What a file holds. -/
inductive Contents where
  | states (states : States)
  /-- The file is no document of states. -/
  | broken

/-- A file that cannot be opened holds nothing. -/
def contents (f : Files) (p : Path) : Except StatesFault Contents :=
  match f.readText p with
  | .error fault => if fault.isSystem then .ok (.states []) else .error (.file fault)
  | .ok text =>
    match ofChars? text with
    | .error fault => .error (.number fault)
    | .ok none => .ok .broken
    | .ok (some states) => .ok (.states states)

/-- The states in a file; a broken one has none. -/
def load (f : Files) (p : Path) : Except StatesFault States := do
  match ← contents f p with
  | .states states => return states
  | .broken => return []

/-- A broken file is announced. -/
def loadNotices (f : Files) (p : Path) : List Notice :=
  match contents f p with
  | .ok .broken => [.brokenStates p.text]
  | _ => []

/-- Writes the states and makes the directories above the file. -/
def save (f : Files) (p : Path) (states : States) : Files.Changed :=
  f.writeText p states.toText

/-- The files after a dialog was stored, or why it was not. -/
structure Stored where
  files : Files
  fault : Option StatesFault

/-- Puts the dialog's values beside the states that the file already holds. -/
def store (f : Files) (p : Path) (key : Text) (d : Dialog) : Stored :=
  match load f p with
  | .error fault => ⟨f, some fault⟩
  | .ok states =>
    match d.serialize with
    | .error fault => ⟨f, some (.control fault)⟩
    | .ok line =>
      let saved := save f p (states.put key line)
      ⟨saved.files, saved.fault.map .file⟩

/-- A dialog after its values were looked for. -/
structure Restored where
  dialog : Dialog
  /-- Whether values were found. -/
  outcome : Except StatesFault Bool

/-- Restores the dialog's values if the file holds any under the key. -/
def restore (f : Files) (p : Path) (key : Text) (d : Dialog) : Restored :=
  match load f p with
  | .error fault => ⟨d, .error fault⟩
  | .ok states =>
    match states.get? key with
    | none => ⟨d, .ok false⟩
    | some line =>
      match d.deserialize line with
      | (d, some fault) => ⟨d, .error (.control fault)⟩
      | (d, none) => ⟨d, .ok true⟩

end ScriptDialog.States
