import ScriptDialog.Number

/-! What can go wrong when a dynamic value is used as something that it is not. Kinds are named as
messages name them. -/
namespace ScriptDialog

/-- The four ways to compare by order. -/
inductive Comparison where
  | less
  | atMost
  | greater
  | atLeast
  deriving DecidableEq, Repr

namespace Comparison

def sign : Comparison → String
  | .less => "<"
  | .atMost => "<="
  | .greater => ">"
  | .atLeast => ">="

/-- Whether the comparison holds of values in this order. -/
def holds : Comparison → Ordering → Bool
  | .less, o => o == .lt
  | .atMost, o => o != .gt
  | .greater, o => o == .gt
  | .atLeast, o => o != .lt

@[simp] theorem holds_atLeast_int (m n : Int) :
    atLeast.holds (compare m n) = decide (n ≤ m) := by
  rw [Bool.eq_iff_iff]
  simp [holds, Std.compare_eq_lt]

end Comparison

inductive ValueFault where
  | number (fault : NumberFault)
  /-- Values of these kinds have no order. -/
  | unordered (comparison : Comparison) (left right : String)
  /-- Values of these kinds have no sum or no product. -/
  | noOperation (sign left right : String)
  /-- A double after a sequence of the kind. -/
  | doubleAfter (kind : String)
  /-- A value of the kind has no parts. -/
  | noParts (kind : String)
  /-- A value of the kind has no parts to count. -/
  | noPlaces (kind : String)
  /-- No part of the sequence has the index. -/
  | outOfRange (sequence : String)
  /-- An index beyond 64 bits. -/
  | indexTooWide
  /-- A mapping without the key, as a literal. -/
  | noKey (literal : String)
  /-- A value of the kind is looked for in a text. -/
  | notInText (kind : String)
  /-- A value of the kind is looked for in bytes. -/
  | notInBytes (kind : String)
  /-- A value of the kind cannot be a key. -/
  | noKeyKind (kind : String)
  /-- Values of the kind have no part of this name. -/
  | noMember (kind name : String)
  deriving DecidableEq, Repr

/-- What is said about a fault. -/
def ValueFault.message : ValueFault → String
  | .number fault => fault.message
  | .unordered comparison left right =>
    "'" ++ comparison.sign ++ "' not supported between instances of '" ++ left ++ "' and '" ++
      right ++ "'"
  | .noOperation sign left right =>
    "unsupported operand type(s) for " ++ sign ++ ": '" ++ left ++ "' and '" ++ right ++ "'"
  | .doubleAfter "bytes" => "can't concat float to bytes"
  | .doubleAfter kind => "can only concatenate " ++ kind ++ " (not \"float\") to " ++ kind
  | .noParts kind => "'" ++ kind ++ "' object is not iterable"
  | .noPlaces kind => "'" ++ kind ++ "' object is not subscriptable"
  | .outOfRange sequence => sequence ++ "index out of range"
  | .indexTooWide => "cannot fit 'int' into an index-sized integer"
  | .noKey literal => literal
  | .notInText kind => "must be str, not " ++ kind
  | .notInBytes kind =>
    "argument should be integer or bytes-like object, not '" ++ kind ++ "'"
  | .noKeyKind kind => "unhashable type: '" ++ kind ++ "'"
  | .noMember kind name => "'" ++ kind ++ "' object has no attribute '" ++ name ++ "'"

end ScriptDialog
