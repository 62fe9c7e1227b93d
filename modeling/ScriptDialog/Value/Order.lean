import ScriptDialog.Value
import ScriptDialog.Value.Fault

/-! Equality and order of values. Numbers are compared by value, whatever their kind; text and bytes
position by position; lists with lists and tuples with tuples by their first difference. -/
namespace ScriptDialog

/-- The order of lists by their first difference, a shorter one first. -/
def compareLists {α : Type} (compare : α → α → Ordering) : List α → List α → Ordering
  | [], [] => .eq
  | [], _ :: _ => .lt
  | _ :: _, [] => .gt
  | a :: as, b :: bs =>
    match compare a b with
    | .eq => compareLists compare as bs
    | o => o

namespace Value

mutual

/-- Equality: not a number equals nothing, and the order of a mapping does not matter. -/
def same : Value → Value → Bool
  | .atom a, .atom b => a.sameKey b
  | .list items, .list others | .tuple items, .tuple others => sameItems items others
  | .map entries, .map others => entries.length == others.length && sameEntries entries others
  | .color c, .color d => c == d
  | _, _ => false

def sameItems : List Value → List Value → Bool
  | [], [] => true
  | v :: vs, w :: ws => same v w && sameItems vs ws
  | _, _ => false

/-- Whether every entry has its equal among the others. -/
def sameEntries : List (Atom × Value) → Entries → Bool
  | [], _ => true
  | (key, v) :: entries, others =>
    (match others.get? key with
      | some w => same v w
      | none => false) && sameEntries entries others

end

/-- Two values without an order, by their kinds. -/
structure Unordered where
  left : String
  right : String

mutual

/-- The order of two values; none when one of them is not a number. -/
def compare? : Value → Value → Except Unordered (Option Ordering)
  | .atom (.text s), .atom (.text t) =>
    .ok (some (compareLists (fun a b : Glyph => compare a.toNat b.toNat) s.glyphs t.glyphs))
  | .atom (.bytes a), .atom (.bytes b) =>
    .ok (some (compareLists (fun c d : UInt8 => compare c.toNat d.toNat) a b))
  | .list items, .list others | .tuple items, .tuple others => compareItems items others
  | v, w =>
    match v.number?, w.number? with
    | some m, some n => .ok (m.compare? n)
    | _, _ => .error ⟨v.kindName, w.kindName⟩

def compareItems : List Value → List Value → Except Unordered (Option Ordering)
  | [], [] => .ok (some .eq)
  | [], _ :: _ => .ok (some .lt)
  | _ :: _, [] => .ok (some .gt)
  | v :: vs, w :: ws => if same v w then compareItems vs ws else compare? v w

end

/-- Whether two values stand in the order; nothing does with what is not a number. -/
def holds (comparison : Comparison) (v w : Value) : Except ValueFault Bool :=
  match compare? v w with
  | .ok (some o) => .ok (comparison.holds o)
  | .ok none => .ok false
  | .error kinds => .error (.unordered comparison kinds.left kinds.right)

/-- Text equals the same text only. -/
@[simp] theorem same_text (s t : Text) : same (.text s) (.text t) = (s == t) := by
  rw [Bool.eq_iff_iff]
  simp [same, text, Atom.sameKey, Atom.number?]

/-- Integers always have an order. -/
@[simp] theorem holds_int (comparison : Comparison) (m n : Int) :
    holds comparison (.int m) (.int n) = .ok (comparison.holds (compare m n)) := rfl

/-- So have doubles, and nothing holds of what is not a number. -/
@[simp] theorem holds_float (comparison : Comparison) (x y : Double) :
    holds comparison (.float x) (.float y) =
      .ok (((Number.float x).compare? (.float y)).any comparison.holds) := by
  cases order : (Number.float x).compare? (.float y) <;>
    simp [holds, compare?, float, number?, Atom.number?, order]

end Value

end ScriptDialog
