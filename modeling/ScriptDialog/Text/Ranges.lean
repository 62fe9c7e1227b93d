/-! Sets of characters given as inclusive ranges of code points. -/
namespace ScriptDialog

abbrev Ranges := List (Nat × Nat)

def Ranges.contains (ranges : Ranges) (c : Char) : Bool :=
  ranges.any fun (first, last) => first ≤ c.toNat && c.toNat ≤ last

end ScriptDialog
