import ScriptDialog.Proofs.Files.Writing

/-! Other content in a file: every path leads where it led, and every other file is read as
before. -/
namespace ScriptDialog.Files

variable {f : Files} {l l' here : Location} {old bytes : List UInt8} {p : Path}

theorem ne_root_of_file (file : f.node? l = some (.file old)) : l ≠ [] :=
  ne_root (f := f) (by simp [file])

theorem follow_put_file (file : f.node? l = some (.file old)) (here : Location)
    (names : List String) : (f.put l (.file bytes)).follow here names = f.follow here names := by
  induction names generalizing here with
  | nil => rfl
  | cons name names ih =>
    unfold follow
    dsimp only
    generalize (if name = ".." then here.dropLast else here ++ [name]) = next
    by_cases same : next = l
    · subst same
      rw [node?_put_self (ne_root_of_file file), file]
    · rw [node?_put_other same]
      simp only [ih]

theorem locate_put_file (file : f.node? l = some (.file old)) (p : Path) :
    (f.put l (.file bytes)).locate p = f.locate p := by
  unfold locate
  rw [follow_put_file file]
  rfl

theorem isFile_put_file (file : f.node? l = some (.file old)) (p : Path) :
    (f.put l (.file bytes)).isFile p = f.isFile p := by
  unfold isFile
  rw [locate_put_file file]
  cases f.locate p with
  | error fault => cases fault <;> rfl
  | ok l' =>
    by_cases same : l' = l
    · subst same
      simp only [node?_put_self (ne_root_of_file file), file]
    · simp only [node?_put_other same]

theorem readText_put_file (file : f.node? l = some (.file old)) (other : f.locate p ≠ .ok l) :
    (f.put l (.file bytes)).readText p = f.readText p := by
  have same : (f.put l (.file bytes)).read p = f.read p := by
    unfold read
    rw [locate_put_file file]
    cases place : f.locate p with
    | error fault => rfl
    | ok l' =>
      have apart : l' ≠ l := by
        rintro rfl
        exact other place
      simp only [bind, Except.bind, node?_put_other apart]
  rw [readText, readText, same]

theorem last_of_follow {name : String} (down : name ≠ "..")
    (found : f.follow here [name] = .ok l) : l = here ++ [name] := by
  rw [follow, if_neg down] at found
  split at found
  · cases found
  · cases found
    rfl

/-- On the way to a place, the first name leads to a directory. -/
theorem follow_cons {name : String} {names : List String} (more : names ≠ [])
    (found : f.follow here (name :: names) = .ok l) :
    f.follow (if name = ".." then here.dropLast else here ++ [name]) names = .ok l := by
  rw [follow] at found
  dsimp only at found
  rw [if_neg more] at found
  split at found
  · cases found
  · split at found
    · exact found
    · cases found
    · cases found

/-- A path that ends in two names leads to a place that does. -/
theorem ends_of_follow {names : List String} {above name : String} (down : above ≠ "..")
    (down' : name ≠ "..") (found : f.follow here (names ++ [above, name]) = .ok l) :
    ∃ start, l = start ++ [above, name] := by
  induction names generalizing here with
  | nil =>
    have inner := follow_cons (by simp) found
    rw [if_neg down] at inner
    exact ⟨here, by simp [last_of_follow down' inner]⟩
  | cons first names ih => exact ih (follow_cons (by simp) found)

theorem ends_of_locate {root : Nat} {names : List String} {above name : String}
    (down : above ≠ "..") (down' : name ≠ "..")
    (found : f.locate ⟨root, names ++ [above, name]⟩ = .ok l) :
    ∃ start, l = start ++ [above, name] := by
  unfold locate at found
  split at found
  · cases found
  · split at found
    · cases found
    · exact ends_of_follow down down' found

end ScriptDialog.Files
