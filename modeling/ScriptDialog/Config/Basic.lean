import ScriptDialog.Config.Merge
import ScriptDialog.Files.Environment
import ScriptDialog.Value.Numeric

/-! The settings of a host: where states are saved, and the measures of dialog windows. -/
namespace ScriptDialog

structure Config where
  /-- The file that the settings come from, the packaged ones apart. -/
  path : Option Path
  stateDir : Path
  windowSize : Int × Int
  windowPos : Int × Int
  cellSize : Int × Int

inductive ConfigFault where
  /-- The explicit file is missing. -/
  | missing (path : Path)
  /-- The home of another user is asked for. -/
  | noHome
  | unparsable (source : Path)
  | noMapping (source : Path)
  | versionNoInt (value : Value)
  | unknownVersion (version : Int)
  | sectionNoMapping (name : String) (value : Value)
  | noPair (name : String) (value : Value)
  | pairNoInts (name : String) (value : Value)
  | emptyPath (name : String)
  | noRoom (width height : Int)
  | number (fault : NumberFault)
  /-- A fault of the reader that is none of its notation. -/
  | reader (message : String)
  | file (fault : FileFault)

namespace ConfigFault

def pairText (a b : Int) : String := "(" ++ toString a ++ ", " ++ toString b ++ ")"

/-- A fault that shows a value in its message; a value that cannot be written is a fault itself. -/
def showing (value : Value) (fault : ConfigFault) : ConfigFault :=
  if value.writable then fault else .number .tooWideToWrite

/-- What is said about a fault that the operating system does not report. -/
def message? : ConfigFault → Option String
  | .missing path => some ("config.yaml が見つかりません: " ++ path.text)
  | .noHome => some "Could not determine home directory."
  | .unparsable source => some ("config.yaml を解釈できません: source=" ++ source.text)
  | .noMapping source =>
    some ("config.yaml の最上位は mapping である必要があります: source=" ++ source.text)
  | .versionNoInt value =>
    some ("config.yaml の version は整数である必要があります: got=" ++ value.literalText)
  | .unknownVersion version => some ("未対応の config.yaml version です: got=" ++ toString version)
  | .sectionNoMapping name value =>
    some (name ++ " は mapping である必要があります: got=" ++ value.literalText)
  | .noPair name value =>
    some (name ++ " は [a, b] の配列である必要があります: got=" ++ value.literalText)
  | .pairNoInts name value =>
    some (name ++ " の要素は整数である必要があります: got=" ++ value.literalText)
  | .emptyPath name => some (name ++ " が空です（同梱 default_config.yaml を確認してください）")
  | .noRoom width height =>
    some ("ui.dialog.cell_size は正の値である必要があります: got=" ++ pairText width height)
  | .number fault => some fault.message
  | .reader message => some message
  | .file fault => fault.message?

end ConfigFault

namespace Config

/-- An integer is wanted: an infinity stays a fault of its own. -/
def intOr (fault : ConfigFault) (v : Value) : Except ConfigFault Int :=
  match v.toInt with
  | .ok n => .ok n
  | .error .infinite => .error (.number .infinite)
  | .error _ => .error fault

/-- The value under a name, null when there is none. -/
def valueOf (entries : Entries) (name : String) : Value := (entries.field? name).getD .null

/-- A section that is absent is empty. -/
def sectionOf (entries : Entries) (name dotted : String) : Except ConfigFault Entries :=
  match entries.field? name with
  | none => .ok []
  | some (.map inner) => .ok inner
  | some v => .error (.showing v (.sectionNoMapping dotted v))

/-- A list of two integers. -/
def intPair (entries : Entries) (name dotted : String) : Except ConfigFault (Int × Int) :=
  let v := valueOf entries name
  match v.items? with
  | some [a, b] => do
    let a ← intOr (.showing v (.pairNoInts dotted v)) a
    let b ← intOr (.showing v (.pairNoInts dotted v)) b
    return (a, b)
  | _ => .error (.showing v (.noPair dotted v))

/-- The characters of a path without blanks around them. Null, zero and whatever is empty have
none. -/
def pathText (v : Value) : Except ConfigFault (List Char) :=
  if v.truthy then (fun text => Blank.trim text.chars) <$> v.asText.mapError .number else .ok []

/-- A path that may begin with the home directory and mention variables. No user has a null
character in the name. -/
def pathOf (env : Environment) (entries : Entries) (name dotted : String) :
    Except ConfigFault Path := do
  let text ← pathText (valueOf entries name)
  if text = [] then .error (.emptyPath dotted)
  else if '\x00' ∈ Environment.userName text then .error (.file .nullInPath)
  else .ok (Path.ofChars (env.expandVariables 0 (env.expandHome text)))

/-- The settings have one version so far. -/
def checkVersion (payload : Entries) : Except ConfigFault Unit := do
  let v := valueOf payload "version"
  let n ← intOr (.showing v (.versionNoInt v)) v
  if n = 1 then .ok () else .error (.showing (.int n) (.unknownVersion n))

/-- The entries about dialogs. -/
def dialogOf (payload : Entries) : Except ConfigFault Entries := do
  let ui ← sectionOf payload "ui" "ui"
  sectionOf ui "dialog" "ui.dialog"

/-- The size of a cell, which has room on both sides. -/
def cellSizeOf (dialog : Entries) : Except ConfigFault (Int × Int) := do
  let (width, height) ← intPair dialog "cell_size" "ui.dialog.cell_size"
  if min width height ≤ 0 then
    .error (.showing (.pair (.int width) (.int height)) (.noRoom width height))
  else .ok (width, height)

/-- The settings that the merged entries spell out. -/
def build (env : Environment) (payload : Entries) (path : Option Path) :
    Except ConfigFault Config := do
  checkVersion payload
  let paths ← sectionOf payload "paths" "paths"
  let dialog ← dialogOf payload
  let cellSize ← cellSizeOf dialog
  let stateDir ← pathOf env paths "state_dir" "paths.state_dir"
  let windowSize ← intPair dialog "window_size" "ui.dialog.window_size"
  let windowPos ← intPair dialog "window_pos" "ui.dialog.window_pos"
  return ⟨path, stateDir, windowSize, windowPos, cellSize⟩

/-- A list of two integers as a value. -/
def pairValue (a b : Int) : Value := .list [.int a, .int b]

/-- What the packaged settings say. -/
def defaults : Entries := [
  (.text "version", .int 1),
  (.text "paths", .map [(.text "state_dir", .text "data/dialog_state")]),
  (.text "ui", .map [(.text "dialog", .map [
    (.text "window_size", pairValue 560 360),
    (.text "window_pos", pairValue 120 120),
    (.text "cell_size", pairValue 110 30)])])]

end Config

end ScriptDialog
