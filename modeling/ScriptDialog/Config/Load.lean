import ScriptDialog.Config.Basic

/-! Finding and reading settings: the file that was set explicitly goes before one that is found,
and the settings once read are kept until another file is set. -/
namespace ScriptDialog.Config

/-- The file of settings in the working directory. -/
def nearPath (env : Environment) : Path :=
  ⟨1, env.files.workingDirectory ++ [".autodialog", "config.yaml"]⟩

/-- The file of settings in the home directory. -/
def homePath (env : Environment) : Except ConfigFault Path :=
  match env.expandPath? (.ofText "~") with
  | some home => .ok ⟨home.root, home.parts ++ [".config", "autodialog", "config.yaml"]⟩
  | none => .error .noHome

def isFile (env : Environment) (p : Path) : Except ConfigFault Bool :=
  (env.files.isFile p).mapError .file

/-- The first of the usual places that holds a file. -/
def discover (env : Environment) : Except ConfigFault (Option Path) := do
  let home ← homePath env
  if ← isFile env (nearPath env) then return some (nearPath env)
  if ← isFile env home then return some home
  return none

/-- The entries of a text, which comes from `source`; an empty one has none. -/
def readEntries (env : Environment) (text : List Char) (source : Path) :
    Except ConfigFault Entries :=
  match env.readNotation text with
  | .error .malformed => .error (.unparsable source)
  | .error (.number fault) => .error (.number fault)
  | .error (.other message) => .error (.reader message)
  | .ok (.map entries) => .ok entries
  | .ok (.atom .null) => .ok []
  | .ok _ => .error (.noMapping source)

/-- Where the packaged settings come from. -/
def packagedSource : Path := .ofText "autodialog/resource/default_config.yaml"

/-- The text of the packaged settings, below all others. -/
def packagedText : List Char :=
  [
    "# autodialog の同梱デフォルト設定。",
    "# `./.autodialog/config.yaml` / `~/.config/autodialog/config.yaml` / `set_config_path()` で上書きできる。",
    "version: 1",
    "",
    "paths:",
    "  # ダイアログ値（直列化文字列）の保存先。",
    "  state_dir: \"data/dialog_state\"",
    "",
    "ui:",
    "  dialog:",
    "    window_size: [560, 360]",
    "    window_pos: [120, 120]",
    "    # グリッド 1 セルあたりのピクセルサイズ [幅, 高さ]。",
    "    cell_size: [110, 30]"
  ].flatMap fun line => line.toList ++ ['\n']

/-- The entries of a file. -/
def readLayer (env : Environment) (p : Path) : Except ConfigFault Entries := do
  let text ← (env.files.readText p).mapError .file
  readEntries env text p

/-- The entries with those of a file over them, if there is a file. -/
def addLayer (env : Environment) (payload : Entries) : Option Path → Except ConfigFault Entries
  | none => .ok payload
  | some p => (merge payload ·) <$> readLayer env p

/-- Reads the settings anew. -/
def load (env : Environment) (explicit : Option Path) : Except ConfigFault Config := do
  match explicit with
  | some p => if !(← isFile env p) then throw (.missing p)
  | none => pure ()
  let discovered ← discover env
  let packaged ← readEntries env packagedText packagedSource
  let payload ← addLayer env packaged discovered
  let payload ← addLayer env payload explicit
  build env payload (explicit.or discovered)

/-- Which file was set, and the settings if they were read since. -/
structure Source where
  explicit : Option Path
  cached : Option Config

def Source.initial : Source := ⟨none, none⟩

/-- The path that a value stands for, with the home directory put in. -/
def expandedPath (env : Environment) (path : Value) : Except ConfigFault Path := do
  let text ← path.asText.mapError .number
  let p := Path.ofChars text.chars
  if p.root = 0 ∧ '\x00' ∈ Environment.userName (p.parts.headD "").toList then
    throw (.file .nullInPath)
  match env.expandPath? p with
  | some p => return p
  | none => throw .noHome

/-- Sets the file of settings, null for the usual places, and forgets what was read. -/
def Source.setPath (env : Environment) (path : Value) : Except ConfigFault Source :=
  match path with
  | .atom .null => .ok .initial
  | path => (fun p => ⟨some p, none⟩) <$> expandedPath env path

/-- The settings, read only if need be. A fault leaves the source as it was. -/
def Source.get (s : Source) (env : Environment) : Except ConfigFault Config × Source :=
  match s.cached with
  | some config => (.ok config, s)
  | none =>
    match load env s.explicit with
    | .ok config => (.ok config, { s with cached := some config })
    | .error fault => (.error fault, s)

end ScriptDialog.Config
