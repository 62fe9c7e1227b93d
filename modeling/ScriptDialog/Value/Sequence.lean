import ScriptDialog.Value.Order

/-! Values as sequences: lists and tuples of their items, text of its characters, bytes of numbers,
mappings of their keys. -/
namespace ScriptDialog.Value

/-- The parts of a value in order. -/
def parts : Value → Except ValueFault (List Value)
  | .list items | .tuple items => .ok items
  | .atom (.text t) => .ok (t.glyphs.map fun g => .text (.ofGlyphs [g]))
  | .atom (.bytes b) => .ok (b.map fun byte => .int byte.toNat)
  | .map entries => .ok (entries.map fun entry => .atom entry.1)
  | v => .error (.noParts v.kindName)

@[simp] theorem parts_tuple (items : List Value) : parts (.tuple items) = .ok items := rfl

/-- The part of a list at an index; negative ones count from the end. -/
def pick? {α : Type} (items : List α) (index : Int) : Option α :=
  let index := if index < 0 then index + items.length else index
  if index < 0 then none else items[index.toNat]?

/-- The word for a sequence of the value's kind that messages on its indices begin with. -/
def sequenceWord : Value → String
  | .atom (.text _) => "string "
  | .atom (.bytes _) => ""
  | v => v.kindName ++ " "

/-- An index of 64 bits. -/
def isIndex (n : Int) : Bool := -(Nat.pow 2 63 : Int) ≤ n && n < Nat.pow 2 63

/-- The part at an index, or the value under it in a mapping. -/
def itemAt (v : Value) (index : Int) : Except ValueFault Value :=
  match v with
  | .map entries =>
    match Entries.get? entries (.int index) with
    | some w => .ok w
    | none => .error (.noKey (toString index))
  | v =>
    match v.parts with
    | .error _ => .error (.noPlaces v.kindName)
    | .ok items =>
      if isIndex index then
        match pick? items index with
        | some w => .ok w
        | none => .error (.outOfRange v.sequenceWord)
      else .error .indexTooWide

/-- Where `needle` first stands in a list. -/
def place? {α : Type} [BEq α] (needle : List α) : List α → Option Nat
  | [] => if needle.isEmpty then some 0 else none
  | a :: as =>
    if needle.isPrefixOf (a :: as) then some 0 else (place? needle as).map (· + 1)

/-- The place of a value in a sequence, none when it is not there. A text is looked for in a text,
bytes or one of them in bytes. -/
def placeIn? (sequence v : Value) : Except ValueFault (Option Nat) :=
  match sequence, v with
  | .list items, v | .tuple items, v => .ok (items.findIdx? (same v))
  | .atom (.text s), .atom (.text t) => .ok (place? t.glyphs s.glyphs)
  | .atom (.text _), v => .error (.notInText v.kindName)
  | .atom (.bytes b), .atom (.bytes part) => .ok (place? part b)
  | .atom (.bytes b), v =>
    match v.number?.bind Number.whole? with
    | some n => .ok (b.findIdx? fun byte => (byte.toNat : Int) == n)
    | none => .error (.notInBytes v.kindName)
  | sequence, _ => .error (.noMember sequence.kindName "index")

mutual

/-- The kind of the first part that keeps a value from being a key. -/
def keyless? : Value → Option String
  | .list _ => some "list"
  | .map _ => some "dict"
  | .tuple items => keylessItem? items
  | _ => none

def keylessItem? : List Value → Option String
  | [] => none
  | v :: vs => (keyless? v).or (keylessItem? vs)

end

/-- The value, if it can be a key. -/
def asKey (v : Value) : Except ValueFault Value :=
  match v.keyless? with
  | some kind => .error (.noKeyKind kind)
  | none => .ok v

/-- Replaces what stands under an equal key, which keeps its place and spelling, or adds a pair. -/
def putUnder (key v : Value) : List (Value × Value) → List (Value × Value)
  | [] => [(key, v)]
  | entry :: rest =>
    if same entry.1 key then (entry.1, v) :: rest else entry :: putUnder key v rest

end ScriptDialog.Value
