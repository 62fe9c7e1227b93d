/-! Cutting a line of characters at marks. -/
namespace ScriptDialog.Pieces

variable {α : Type} [DecidableEq α]

/-- The parts between the marks: one more than there are marks. -/
def split (mark : α) : List α → List (List α)
  | [] => [[]]
  | c :: rest =>
    if c = mark then [] :: split mark rest
    else match split mark rest with
      | [] => [[c]]
      | part :: parts => (c :: part) :: parts

/-- The parts before and after the first mark. -/
def cut? (mark : α) : List α → Option (List α × List α)
  | [] => none
  | c :: rest =>
    if c = mark then some ([], rest)
    else (cut? mark rest).map fun (before, after) => (c :: before, after)

/-- The inverse of `split` on a list that has a part. -/
def join {α : Type} (mark : List α) : List (List α) → List α
  | [] => []
  | [part] => part
  | part :: parts => part ++ mark ++ join mark parts

end ScriptDialog.Pieces
