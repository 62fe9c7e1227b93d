import ScriptDialog.Files.Environment
import ScriptDialog.Yaml.Node
import ScriptDialog.Yaml.Scalar

/-! The value of a configuration text: a reader for part of the notation, without anchors, tags,
block scalars and dates. -/
namespace ScriptDialog.Yaml

/-- The scalars that have a meaning only as keys. -/
def isKeyOnly (text : List Char) (plain : Bool) : Bool :=
  plain && (text == ['<', '<'] || text == ['='])

def scalarAtom (text : List Char) (plain : Bool) : Except NotationFault Atom :=
  if plain then (plainValue text).mapError .number else .ok (.text (String.ofList text))

/-- A key is a scalar. -/
def keyAtom : Node → Except NotationFault Atom
  | .scalar text plain => scalarAtom text plain
  | _ => .error .malformed

/-- The entries that `<<` brings in before all others. -/
def mergedEntries (value : Value) : Except NotationFault Entries :=
  match value with
  | .map entries => .ok entries
  | .list items => do
    let parts ← items.mapM fun item =>
      match item with
      | .map entries => .ok entries
      | _ => .error NotationFault.malformed
    return parts.reverse.flatten
  | _ => .error .malformed

/-- Later entries win over earlier ones with an equal key. -/
def putAll (entries : Entries) : Entries :=
  entries.foldl (fun all (key, value) => Entries.put key value all) []

mutual

def nodeValue : Node → Except NotationFault Value
  | .scalar text plain =>
    if isKeyOnly text plain then .error .malformed else Value.atom <$> scalarAtom text plain
  | .list items => Value.list <$> itemValues items
  | .map entries => do
    let (merged, own) ← entryValues entries
    return .map (putAll (merged ++ own))

def itemValues : List Node → Except NotationFault (List Value)
  | [] => .ok []
  | item :: items => do
    let value ← nodeValue item
    let values ← itemValues items
    return value :: values

/-- The entries that `<<` brings in, and the mapping's own. -/
def entryValues : List (Node × Node) → Except NotationFault (Entries × Entries)
  | [] => .ok ([], [])
  | (key, node) :: rest =>
    match key with
    | .scalar ['<', '<'] true => do
      let value ← nodeValue node
      let merged ← mergedEntries value
      let (more, own) ← entryValues rest
      return (merged ++ more, own)
    | key => do
      let atom ← keyAtom key
      let value ← nodeValue node
      let (merged, own) ← entryValues rest
      return (merged, (atom, value) :: own)

end

/-- The value of the text; null when it holds nothing. -/
def load (text : List Char) : Except NotationFault Value :=
  match (tokens? text).bind Node.ofTokens? with
  | none => .error .malformed
  | some none => .ok .null
  | some (some node) => nodeValue node

end ScriptDialog.Yaml
