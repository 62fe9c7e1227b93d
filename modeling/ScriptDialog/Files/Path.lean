import ScriptDialog.Text.Pieces

/-! Paths as lists of names. Empty names and single dots are dropped, two dots stay. -/
namespace ScriptDialog

structure Path where
  /-- The number of slashes at the start: none, one, or exactly two. -/
  root : Nat
  parts : List String
  deriving DecidableEq, Repr

namespace Path

def isAbsolute (p : Path) : Bool := p.root != 0

/-- A name that counts. -/
def isPart (part : List Char) : Bool := part != [] && part != ['.']

def ofChars (text : List Char) : Path :=
  let slashes := (text.takeWhile (· = '/')).length
  let root := if slashes = 0 then 0 else if slashes = 2 then 2 else 1
  ⟨root, ((Pieces.split '/' text).filter isPart).map String.ofList⟩

def ofText (text : String) : Path := ofChars text.toList

/-- The text of a path; a dot when there is nothing else. -/
def text (p : Path) : String :=
  if p.root = 0 ∧ p.parts = [] then "."
  else String.ofList (List.replicate p.root '/' ++ Pieces.join ['/'] (p.parts.map String.toList))

/-- The path `q` seen from `p`. -/
def join (p q : Path) : Path := if q.isAbsolute then q else ⟨p.root, p.parts ++ q.parts⟩

def child (p : Path) (name : String) : Path := p.join (ofText name)

/-- The path without its last name. -/
def parent (p : Path) : Path := ⟨p.root, p.parts.dropLast⟩

end Path

end ScriptDialog
