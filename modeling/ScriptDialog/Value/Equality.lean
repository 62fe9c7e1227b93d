import ScriptDialog.Value

/-! Values are compared as they stand: what is equal is the same value, kind and spelling
included. -/
namespace ScriptDialog.Value

mutual

def identical : Value → Value → Bool
  | .atom a, .atom b => a == b
  | .list items, .list others | .tuple items, .tuple others => identicalItems items others
  | .map entries, .map others => identicalEntries entries others
  | .color c, .color d => c == d
  | _, _ => false

def identicalItems : List Value → List Value → Bool
  | [], [] => true
  | v :: vs, w :: ws => identical v w && identicalItems vs ws
  | _, _ => false

def identicalEntries : List (Atom × Value) → List (Atom × Value) → Bool
  | [], [] => true
  | (key, v) :: entries, (other, w) :: others =>
    key == other && identical v w && identicalEntries entries others
  | _, _ => false

end

mutual

theorem identical_iff : {v w : Value} → (identical v w = true ↔ v = w)
  | .atom a, .atom b => by simp [identical]
  | .list items, .list others => by simp [identical, identicalItems_iff]
  | .tuple items, .tuple others => by simp [identical, identicalItems_iff]
  | .map entries, .map others => by simp [identical, identicalEntries_iff]
  | .color c, .color d => by simp [identical]
  | .atom _, .list _ | .atom _, .tuple _ | .atom _, .map _ | .atom _, .color _
  | .list _, .atom _ | .list _, .tuple _ | .list _, .map _ | .list _, .color _
  | .tuple _, .atom _ | .tuple _, .list _ | .tuple _, .map _ | .tuple _, .color _
  | .map _, .atom _ | .map _, .list _ | .map _, .tuple _ | .map _, .color _
  | .color _, .atom _ | .color _, .list _ | .color _, .tuple _ | .color _, .map _ => by
    simp [identical]

theorem identicalItems_iff : {vs ws : List Value} → (identicalItems vs ws = true ↔ vs = ws)
  | [], [] => by simp [identicalItems]
  | v :: vs, w :: ws => by
    simp [identicalItems, identical_iff, @identicalItems_iff vs ws]
  | [], _ :: _ | _ :: _, [] => by simp [identicalItems]

theorem identicalEntries_iff :
    {es fs : List (Atom × Value)} → (identicalEntries es fs = true ↔ es = fs)
  | [], [] => by simp [identicalEntries]
  | (key, v) :: es, (other, w) :: fs => by
    simp [identicalEntries, identical_iff, identicalEntries_iff, and_assoc]
  | [], _ :: _ | _ :: _, [] => by simp [identicalEntries]

end

instance : DecidableEq Value := fun _ _ => decidable_of_iff _ identical_iff

end ScriptDialog.Value
