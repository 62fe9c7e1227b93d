/-! Looking up a key in a list of pairs. -/
namespace ScriptDialog.Lookup

variable {κ α : Type}

/-- Leaving pairs out, and changing values, adds no key. -/
theorem keys_filterMap {β : Type} {g : κ × α → Option (κ × β)}
    (same : ∀ pair pair', g pair = some pair' → pair'.1 = pair.1) (pairs : List (κ × α)) :
    ((pairs.filterMap g).map Prod.fst).Sublist (pairs.map Prod.fst) := by
  induction pairs with
  | nil => exact .slnil
  | cons pair pairs ih =>
    cases image : g pair with
    | none =>
      rw [List.filterMap_cons_none image]
      exact ih.cons _
    | some pair' =>
      rw [List.filterMap_cons_some image, List.map_cons, List.map_cons, same pair pair' image]
      exact ih.cons_cons _

variable [BEq κ] [LawfulBEq κ] [DecidableEq κ]

theorem lookup_cons (k k' : κ) (v : α) (pairs : List (κ × α)) :
    ((k', v) :: pairs).lookup k = if k = k' then some v else pairs.lookup k := by
  rw [List.lookup_cons]
  by_cases same : k = k'
  · simp [same]
  · simp [beq_false_of_ne same, same]

/-- Pairs with another key may be left out. -/
theorem lookup_filter {k k' : κ} (other : k ≠ k') (pairs : List (κ × α)) :
    (pairs.filter (·.1 != k')).lookup k = pairs.lookup k := by
  induction pairs with
  | nil => rfl
  | cons first pairs ih =>
    obtain ⟨k'', v⟩ := first
    by_cases dropped : k'' = k'
    · subst dropped
      rw [List.filter_cons_of_neg (by simp), ih, lookup_cons, if_neg other]
    · rw [List.filter_cons_of_pos (by simpa using dropped), lookup_cons, lookup_cons, ih]

end ScriptDialog.Lookup
