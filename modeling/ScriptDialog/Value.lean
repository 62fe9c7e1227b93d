import ScriptDialog.Color
import ScriptDialog.Number

/-! The dynamic values of a script: scalars, sequences, mappings with scalar keys, and colours. -/
namespace ScriptDialog

/-- A value of any other kind, such as a day in settings. It is no number, has no parts and no place
in an order; only what is shown of it counts, and whether it counts as false. -/
structure Exotic where
  kind : String
  text : String
  literal : String
  truthy : Bool
  deriving DecidableEq

inductive Atom where
  | null
  | bool (b : Bool)
  | int (n : Int)
  | float (x : Double)
  | text (t : Text)
  | bytes (b : List UInt8)
  | exotic (e : Exotic)
  deriving DecidableEq

inductive Value where
  | atom (a : Atom)
  | list (items : List Value)
  | tuple (items : List Value)
  | map (entries : List (Atom × Value))
  | color (c : Color)

instance : Inhabited Value := ⟨.atom .null⟩

abbrev Entries := List (Atom × Value)

namespace Atom

def number? : Atom → Option Number
  | .bool b => some (.flag b)
  | .int n => some (.int n)
  | .float x => some (.float x)
  | _ => none

/-- Equality of keys: numbers are equal by value, whatever their kind. -/
def sameKey (a b : Atom) : Bool :=
  match a.number?, b.number? with
  | some m, some n => m.eq n
  | none, none => a == b
  | _, _ => false

def truthy : Atom → Bool
  | .null => false
  | .text t => t != ""
  | .bytes b => !b.isEmpty
  | .exotic e => e.truthy
  | a => (a.number?.map Number.isNonzero).getD true

def literal : Atom → List Char
  | .null => "None".toList
  | .text t => Literal.shown t
  | .bytes b => Literal.ofBytes b
  | .exotic e => e.literal.toList
  | a => (a.number?.map Number.literal).getD []

/-- Whether the literal can be written: an integer must not be too wide. -/
def writable : Atom → Bool
  | .int n => n.natAbs < Nat.pow 10 digitLimit
  | _ => true

end Atom

namespace Entries

/-- The value under an equal key. -/
def get? (entries : Entries) (key : Atom) : Option Value :=
  (entries.find? fun entry => entry.1.sameKey key).map Prod.snd

/-- Replaces the value under an equal key, which keeps its place and spelling, or adds an entry. -/
def put (key : Atom) (value : Value) : Entries → Entries
  | [] => [(key, value)]
  | entry :: rest =>
    if entry.1.sameKey key then (entry.1, value) :: rest else entry :: put key value rest

/-- The value under a name; a null counts as absent. -/
def field? (entries : Entries) (name : String) : Option Value :=
  match get? entries (.text name) with
  | some (.atom .null) => none
  | found => found

end Entries

namespace Value

def null : Value := .atom .null

def text (t : Text) : Value := .atom (.text t)

def int (n : Int) : Value := .atom (.int n)

def bool (b : Bool) : Value := .atom (.bool b)

def float (x : Double) : Value := .atom (.float x)

/-- Two values side by side. -/
def pair (a b : Value) : Value := .tuple [a, b]

/-- The items of a sequence that is neither text nor bytes. -/
def items? : Value → Option (List Value)
  | .list items | .tuple items => some items
  | _ => none

def entries? : Value → Option Entries
  | .map entries => some entries
  | _ => none

/-- A number of any kind. -/
def number? : Value → Option Number
  | .atom a => a.number?
  | _ => none

/-- A number that is no flag. -/
def plainNumber? : Value → Option Number
  | .atom (.int n) => some (.int n)
  | .atom (.float x) => some (.float x)
  | _ => none

/-- Null, zero and whatever is empty are false. -/
def truthy : Value → Bool
  | .atom a => a.truthy
  | .list items | .tuple items => !items.isEmpty
  | .map entries => !entries.isEmpty
  | .color _ => true

def colorLiteral (c : Color) : List Char :=
  s!"Color(r={c.r}, g={c.g}, b={c.b}, a={c.a})".toList

/-- Parts with a comma and a space between them. -/
def commaJoined : List (List Char) → List Char
  | [] => []
  | [part] => part
  | part :: parts => part ++ ',' :: ' ' :: commaJoined parts

mutual

/-- The literal that denotes the value, as messages show it. -/
def literal : Value → List Char
  | .atom a => a.literal
  | .list items => '[' :: commaJoined (itemLiterals items) ++ [']']
  | .tuple [item] => '(' :: literal item ++ [',', ')']
  | .tuple items => '(' :: commaJoined (itemLiterals items) ++ [')']
  | .map entries => '{' :: commaJoined (entryLiterals entries) ++ ['}']
  | .color c => colorLiteral c

def itemLiterals : List Value → List (List Char)
  | [] => []
  | item :: items => literal item :: itemLiterals items

def entryLiterals : List (Atom × Value) → List (List Char)
  | [] => []
  | (key, value) :: entries => (key.literal ++ ':' :: ' ' :: literal value) :: entryLiterals entries

end

def literalText (v : Value) : String := String.ofList v.literal

mutual

/-- Whether the literal can be written: no integer in the value may be too wide. -/
def writable : Value → Bool
  | .atom a => a.writable
  | .list items | .tuple items => itemsWritable items
  | .map entries => entriesWritable entries
  | .color c => [c.r, c.g, c.b, c.a].all fun n => (Atom.int n).writable

def itemsWritable : List Value → Bool
  | [] => true
  | item :: items => writable item && itemsWritable items

def entriesWritable : List (Atom × Value) → Bool
  | [] => true
  | (key, value) :: entries => key.writable && writable value && entriesWritable entries

end

/-- Text as it is, anything else as its literal, unless its kind has a text of its own. -/
def display : Value → Text
  | .atom (.text t) => t
  | .atom (.exotic e) => e.text
  | v => v.literalText

/-- The text of a value, if it can be written. -/
def asText (v : Value) : Except NumberFault Text :=
  if v.writable then .ok v.display else .error .tooWideToWrite

theorem asText_eq_ok_iff {v : Value} {t : Text} :
    v.asText = .ok t ↔ v.writable ∧ t = v.display := by
  unfold asText
  by_cases writable : v.writable
  · rw [if_pos writable]
    exact ⟨fun same => ⟨writable, (Except.ok.inj same).symm⟩, fun ⟨_, same⟩ => congrArg _ same.symm⟩
  · rw [if_neg writable]
    exact iff_of_false nofun fun both => writable both.1

/-- The kind of a value, as messages name it. -/
def kindName : Value → String
  | .atom .null => "NoneType"
  | .atom (.bool _) => "bool"
  | .atom (.int _) => "int"
  | .atom (.float _) => "float"
  | .atom (.text _) => "str"
  | .atom (.bytes _) => "bytes"
  | .atom (.exotic e) => e.kind
  | .list _ => "list"
  | .tuple _ => "tuple"
  | .map _ => "dict"
  | .color _ => "Color"

end Value

end ScriptDialog
