/-! What can go wrong between numbers of different kinds, and between numbers and text. -/
namespace ScriptDialog

inductive NumberFault where
  /-- An integer beyond every finite double. -/
  | tooWide
  /-- An infinity where an integer is needed. -/
  | infinite
  /-- Not a number where an integer is needed. -/
  | notANumber
  /-- Text or bytes that are no number, as a literal. -/
  | unreadable (literal : String)
  /-- Text or bytes that are no integer in the base, as a literal. -/
  | unreadableInt (base : Nat) (literal : String)
  /-- A decimal integer with more digits than are converted. -/
  | tooManyDigits (count : Nat)
  /-- An integer with more digits than are written. -/
  | tooWideToWrite
  /-- A value of the kind, which denotes no integer, where one is needed. -/
  | noInteger (kind : String)
  /-- A value of the kind, which denotes no double, where one is needed. -/
  | noDouble (kind : String)
  /-- A value of the kind, which is no number, where one is to be written. -/
  | noNumber (kind : String)
  deriving DecidableEq, Repr

/-- Decimal integers with more digits than this are neither read nor written. -/
def digitLimit : Nat := 4300

end ScriptDialog
