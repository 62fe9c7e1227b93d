import ScriptDialog.Files.Path
import ScriptDialog.Text
import ScriptDialog.Text.Utf8

/-! A tree of files and directories, and a directory from which relative paths start. -/
namespace ScriptDialog

/-- The names from the root down. -/
abbrev Location := List String

inductive FileNode where
  | directory
  | file (bytes : List UInt8)

structure Files where
  workingDirectory : Location
  nodes : List (Location × FileNode)

inductive FileFault where
  | missing
  | exists
  | notDirectory
  | isDirectory
  | nameTooLong
  /-- A path holds a null character. -/
  | nullInPath
  | undecodable (part : Utf8.Undecodable)
  /-- No bytes stand for a text. -/
  | torn (text : Torn)
  deriving DecidableEq, Repr

namespace FileFault

/-- Whether the operating system reports the fault. -/
def isSystem : FileFault → Bool
  | .nullInPath | .undecodable _ | .torn _ => false
  | _ => true

def flawText : Utf8.Flaw → String
  | .badStart => "invalid start byte"
  | .badContinuation => "invalid continuation byte"
  | .cutShort => "unexpected end of data"

/-- The ill-formed part and what is wrong with it. -/
def undecodableText (u : Utf8.Undecodable) : String :=
  let place :=
    if u.size = 1 then
      "byte 0x" ++ String.ofList (Hex.padded 2 u.byte.toNat) ++ " in position " ++
        toString u.position
    else "bytes in position " ++ toString u.position ++ "-" ++ toString (u.position + u.size - 1)
  "'utf-8' codec can't decode " ++ place ++ ": " ++ flawText u.flaw

/-- What is said about a fault that the operating system does not report. -/
def message? : FileFault → Option String
  | .nullInPath => some "embedded null byte"
  | .undecodable u => some (undecodableText u)
  | .torn t => some t.message
  | _ => none

end FileFault

namespace Files

/-- The root is a directory without an entry of its own. -/
def node? (f : Files) (l : Location) : Option FileNode :=
  if l = [] then some .directory else f.nodes.lookup l

def put (f : Files) (l : Location) (n : FileNode) : Files :=
  { f with nodes := (l, n) :: f.nodes.filter (·.1 != l) }

/-- Names hold at most 255 bytes. -/
def isLongName (name : String) : Bool := 255 < (Utf8.encode name.toList).length

/-- Paths hold at most 4095 bytes. -/
def isLongPath (p : Path) : Bool := 4095 < (Utf8.encode p.text.toList).length

/-- Follows the names from a directory. All but the last must be directories. -/
def follow (f : Files) : Location → List String → Except FileFault Location
  | here, [] => .ok here
  | here, name :: rest =>
    if isLongName name then .error .nameTooLong
    else
      let next := if name = ".." then here.dropLast else here ++ [name]
      if rest = [] then .ok next
      else match f.node? next with
        | some .directory => follow f next rest
        | some (.file _) => .error .notDirectory
        | none => .error .missing

/-- Where a path leads. -/
def locate (f : Files) (p : Path) : Except FileFault Location :=
  if p.parts.any fun part => part.toList.contains '\x00' then .error .nullInPath
  else if isLongPath p then .error .nameTooLong
  else f.follow (if p.isAbsolute then [] else f.workingDirectory) p.parts

def read (f : Files) (p : Path) : Except FileFault (List UInt8) := do
  let l ← f.locate p
  match f.node? l with
  | some (.file bytes) => return bytes
  | some .directory => throw .isDirectory
  | none => throw .missing

/-- Line ends of all kinds become line feeds. -/
def oneLineEnd : List Char → List Char
  | '\r' :: '\n' :: rest => '\n' :: oneLineEnd rest
  | '\r' :: rest => '\n' :: oneLineEnd rest
  | c :: rest => c :: oneLineEnd rest
  | [] => []

def readText (f : Files) (p : Path) : Except FileFault (List Char) := do
  let bytes ← f.read p
  match Utf8.decode? bytes with
  | .ok text => return oneLineEnd text
  | .error part => throw (.undecodable part)

def write (f : Files) (p : Path) (bytes : List UInt8) : Except FileFault Files := do
  let l ← f.locate p
  match f.node? l with
  | some .directory => throw .isDirectory
  | _ => return f.put l (.file bytes)

/-- Whether a file lies at the path; a name that is too long is a fault. -/
def isFile (f : Files) (p : Path) : Except FileFault Bool :=
  match f.locate p with
  | .error .nameTooLong => .error .nameTooLong
  | .error _ => .ok false
  | .ok l =>
    match f.node? l with
    | some (.file _) => .ok true
    | _ => .ok false

def isDirectory (f : Files) (p : Path) : Bool :=
  match f.locate p with
  | .error _ => false
  | .ok l =>
    match f.node? l with
    | some .directory => true
    | _ => false

def makeDirectory (f : Files) (p : Path) : Except FileFault Files := do
  let l ← f.locate p
  match f.node? l with
  | some _ => throw .exists
  | none => return f.put l .directory

/-- The files after a change that a fault may have cut short. -/
structure Changed where
  files : Files
  fault : Option FileFault

/-- An existing directory is as good as a new one. -/
def orPresent (f : Files) (p : Path) (fault : FileFault) : Changed :=
  ⟨f, if fault.isSystem && f.isDirectory p then none else some fault⟩

/-- Makes a directory and those above it that are missing, at most `depth` of them. -/
def makeDirectories (f : Files) : (depth : Nat) → Path → Changed
  | 0, p =>
    match f.makeDirectory p with
    | .ok f => ⟨f, none⟩
    | .error fault => orPresent f p fault
  | depth + 1, p =>
    match f.makeDirectory p with
    | .ok f => ⟨f, none⟩
    | .error .missing =>
      let above := makeDirectories f depth p.parent
      match above.fault with
      | some _ => above
      | none =>
        match above.files.makeDirectory p with
        | .ok f => ⟨f, none⟩
        | .error fault => orPresent above.files p fault
    | .error fault => orPresent f p fault

/-- Makes a directory and all above it. -/
def makePath (f : Files) (p : Path) : Changed := f.makeDirectories p.parts.length p

/-- Writes a file and makes the directories above it. -/
def writeUnder (f : Files) (p : Path) (bytes : List UInt8) : Changed :=
  let made := f.makePath p.parent
  match made.fault with
  | some _ => made
  | none =>
    match made.files.write p bytes with
    | .ok files => ⟨files, none⟩
    | .error fault => ⟨made.files, some fault⟩

/-- Writes a text under a path. The file is opened, and with that emptied, before it shows that no
bytes stand for a torn text. -/
def writeText (f : Files) (p : Path) (text : Text) : Changed :=
  match text with
  | .whole s => f.writeUnder p (Utf8.encode s.toList)
  | .torn t =>
    let opened := f.writeUnder p []
    ⟨opened.files, opened.fault.or (some (.torn t))⟩

def remove (f : Files) (p : Path) : Except FileFault Files := do
  let l ← f.locate p
  match f.node? l with
  | some (.file _) => return { f with nodes := f.nodes.filter (·.1 != l) }
  | some .directory => throw .isDirectory
  | none => throw .missing

end Files

end ScriptDialog
