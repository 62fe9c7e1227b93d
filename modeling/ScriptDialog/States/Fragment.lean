import ScriptDialog.Config.Load

/-! File names made from the names of scripts, and where the states of a script are. -/
namespace ScriptDialog

namespace Fragment

/-- Letters and digits of ASCII, the dot, the underscore and the hyphen. -/
def isKept (c : Char) : Bool := c.isAlphanum || c == '.' || c == '_' || c == '-'

/-- Characters that a fragment neither starts nor ends with. -/
def isEdge (c : Char) : Bool := c == '.' || c == '_' || c == '-'

/-- Each run of other characters becomes one underscore. -/
def collapse : (inRun : Bool) → List Char → List Char
  | _, [] => []
  | inRun, c :: rest =>
    if isKept c then c :: collapse false rest
    else if inRun then collapse true rest
    else '_' :: collapse true rest

def trimEdges (text : List Char) : List Char :=
  ((text.dropWhile isEdge).reverse.dropWhile isEdge).reverse

/-- A part of a file name made from any text. -/
def ofText (text : Text) : String :=
  let kept := trimEdges (collapse false text.chars)
  if kept = [] then "unknown" else String.ofList kept

/-- A part of a file name made from the text of any value. -/
def ofValue (v : Value) : Except NumberFault String := ofText <$> v.asText

/-- The file of a script in a directory. -/
def statePath (directory : Path) (script : Value) : Except NumberFault Path :=
  (fun fragment => directory.child (fragment ++ ".json")) <$> ofValue script

end Fragment

/-- The file of a script in the directory of states that the settings name. -/
def Config.Source.statePath (s : Source) (env : Environment) (script : Value) :
    Except ConfigFault Path × Source :=
  match s.get env with
  | (.error fault, s) => (.error fault, s)
  | (.ok config, s) => ((Fragment.statePath config.stateDir script).mapError .number, s)

end ScriptDialog
