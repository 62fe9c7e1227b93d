import ScriptDialog.Files.Basic
import ScriptDialog.Value

/-! What surrounds a dialog: files, variables that paths may mention, and the reader of the notation
in which settings are written. -/
namespace ScriptDialog

/-- What a reader of a notation says of a text that it does not read. -/
inductive NotationFault where
  /-- The text does not follow the notation. -/
  | malformed
  | number (fault : NumberFault)
  /-- Any other fault, with what is said about it. -/
  | other (message : String)

structure Environment where
  files : Files
  bindings : List (String × String)
  /-- The value of a text of settings. The notation is none of the library's own. -/
  readNotation : List Char → Except NotationFault Value

namespace Environment

/-- The home directory, without slashes at the end. -/
def home (e : Environment) : List Char :=
  let text := ((e.bindings.lookup "HOME").getD "").toList
  (text.reverse.dropWhile (· = '/')).reverse

/-- The name of the user after a tilde at the start, empty for the host's own user. -/
def userName (text : List Char) : List Char :=
  match text with
  | '~' :: rest => rest.takeWhile (· != '/')
  | _ => []

/-- Puts the home directory for a lone tilde at the start. Other users are not known. -/
def expandHome (e : Environment) (text : List Char) : List Char :=
  match text with
  | '~' :: rest =>
    if rest = [] ∨ rest.head? = some '/' then
      let expanded := e.home ++ rest
      if expanded = [] then ['/'] else expanded
    else text
  | text => text

/-- A path whose first name may be a tilde; nothing when it names a user. -/
def expandPath? (e : Environment) (p : Path) : Option Path :=
  match p.root, p.parts with
  | 0, first :: rest =>
    if first.toList.head? = some '~' then
      let expanded := e.expandHome first.toList
      if expanded.head? = some '~' then none
      else
        let base := Path.ofChars expanded
        some ⟨base.root, base.parts ++ rest⟩
    else some p
  | _, _ => some p

/-- Letters, digits and the underscore. -/
def isNameChar (c : Char) : Bool := c.isAlphanum || c == '_'

/-- The name of a variable after a dollar sign, and its length in the text. -/
def variableAt? (text : List Char) : Option (String × Nat) :=
  match text with
  | '\x7b' :: rest =>
    let name := rest.takeWhile (· != '\x7d')
    if name.length < rest.length then some (String.ofList name, name.length + 2) else none
  | text =>
    let name := text.takeWhile isNameChar
    if name = [] then none else some (String.ofList name, name.length)

/-- Puts the values of variables into a text; a variable that is not set stays as it is. -/
def expandVariables (e : Environment) : (skip : Nat) → List Char → List Char
  | _, [] => []
  | skip + 1, _ :: rest => expandVariables e skip rest
  | 0, c :: rest =>
    if c = '$' then
      match variableAt? rest with
      | none => c :: expandVariables e 0 rest
      | some (name, length) =>
        match e.bindings.lookup name with
        | some value => value.toList ++ expandVariables e length rest
        | none => c :: rest.take length ++ expandVariables e length rest
    else c :: expandVariables e 0 rest

end Environment

end ScriptDialog
