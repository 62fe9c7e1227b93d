import ScriptDialog.Value

/-! Layers of settings: the entries of one mapping over those of another. -/
namespace ScriptDialog.Config

mutual

/-- The upper value, unless both are mappings, which are merged. -/
def mergeValue (lower : Value) : Value → Value
  | .map upper =>
    match lower with
    | .map lower => .map (merge lower upper)
    | _ => .map upper
  | upper => upper

/-- The lower entries with the upper ones put over them. -/
def merge (lower : Entries) : List (Atom × Value) → Entries
  | [] => lower
  | (key, value) :: rest =>
    let value := match lower.get? key with
      | some old => mergeValue old value
      | none => value
    merge (lower.put key value) rest

end

end ScriptDialog.Config
