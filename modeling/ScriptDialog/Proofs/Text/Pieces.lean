import ScriptDialog.Text.Pieces

/-! Cutting undoes joining. Parts that are free of the mark come back from the joined line, and the
first mark cuts a part at one place only. Nothing else is joined to the same line, and nothing else
is cut so. -/
namespace ScriptDialog.Pieces

variable {α β : Type}

theorem join_cons {mark part : List α} {parts : List (List α)} (nonempty : parts ≠ []) :
    join mark (part :: parts) = part ++ mark ++ join mark parts := by
  cases parts with
  | nil => contradiction
  | cons next parts => rfl

theorem mem_join {c : α} {mark : List α} {parts : List (List α)}
    (member : c ∈ join mark parts) : c ∈ mark ∨ ∃ part ∈ parts, c ∈ part := by
  induction parts with
  | nil => simp [join] at member
  | cons part parts ih =>
    cases parts with
    | nil => exact .inr ⟨part, by simp, by simpa [join] using member⟩
    | cons next parts =>
      simp only [join, List.append_assoc, List.mem_append] at member
      rcases member with first | between | later
      · exact .inr ⟨part, by simp, first⟩
      · exact .inl between
      · rcases ih later with between | ⟨found, place, inside⟩
        · exact .inl between
        · exact .inr ⟨found, List.mem_cons_of_mem _ place, inside⟩

theorem mem_join_of_mem {c : α} {mark part : List α} {parts : List (List α)}
    (place : part ∈ parts) (member : c ∈ part) : c ∈ join mark parts := by
  induction parts with
  | nil => cases place
  | cons first parts ih =>
    by_cases last : parts = []
    · subst last
      rcases List.mem_singleton.mp place with rfl
      exact member
    · rw [join_cons last, List.append_assoc, List.mem_append, List.mem_append]
      rcases List.mem_cons.mp place with rfl | place
      · exact .inl member
      · exact .inr (.inr (ih place))

theorem join_map (f : α → β) (mark : List α) (parts : List (List α)) :
    join (mark.map f) (parts.map (List.map f)) = (join mark parts).map f := by
  induction parts with
  | nil => rfl
  | cons part parts ih =>
    cases parts with
    | nil => rfl
    | cons next parts =>
      have more : next :: parts ≠ [] := List.cons_ne_nil _ _
      rw [List.map_cons, join_cons (by simp), ih, join_cons more, List.map_append, List.map_append]

variable [DecidableEq α] [DecidableEq β]

theorem split_free {mark : α} {part : List α} (free : mark ∉ part) :
    split mark part = [part] := by
  induction part with
  | nil => rfl
  | cons c rest ih =>
    have differs : c ≠ mark := fun same => free (by simp [same])
    have later : mark ∉ rest := fun member => free (List.mem_cons_of_mem _ member)
    simp [split, differs, ih later]

theorem split_append {mark : α} {part : List α} (free : mark ∉ part) (rest : List α) :
    split mark (part ++ mark :: rest) = part :: split mark rest := by
  induction part with
  | nil => simp [split]
  | cons c part ih =>
    have differs : c ≠ mark := fun same => free (by simp [same])
    have later : mark ∉ part := fun member => free (List.mem_cons_of_mem _ member)
    simp [split, differs, ih later]

/-- At least one part is needed: no parts and one empty part are joined to the same line. -/
theorem split_join {mark : α} {parts : List (List α)} (nonempty : parts ≠ [])
    (free : ∀ part ∈ parts, mark ∉ part) : split mark (join [mark] parts) = parts := by
  induction parts with
  | nil => contradiction
  | cons part parts ih =>
    have first : mark ∉ part := free part (by simp)
    cases parts with
    | nil => exact split_free first
    | cons next parts =>
      have later := ih (by simp) fun part member => free part (List.mem_cons_of_mem _ member)
      simp only [join, List.append_assoc, List.singleton_append]
      rw [split_append first, later]

theorem cut?_append {mark : α} {before : List α} (free : mark ∉ before)
    (after : List α) : cut? mark (before ++ mark :: after) = some (before, after) := by
  induction before with
  | nil => simp [cut?]
  | cons c before ih =>
    have differs : c ≠ mark := fun same => free (by simp [same])
    have later : mark ∉ before := fun member => free (List.mem_cons_of_mem _ member)
    simp [cut?, differs, ih later]

theorem split_ne_nil (mark : α) (line : List α) : split mark line ≠ [] := by
  cases line with
  | nil => simp [split]
  | cons c rest =>
    rw [split]
    split
    · simp
    · split <;> simp

/-- The parts of a line are free of the mark, and the line is these parts joined. -/
theorem join_split (mark : α) (line : List α) :
    join [mark] (split mark line) = line ∧ ∀ part ∈ split mark line, mark ∉ part := by
  induction line with
  | nil => simp [split, join]
  | cons c rest ih =>
    obtain ⟨joined, free⟩ := ih
    rw [split]
    split
    · next here =>
      rw [join_cons (split_ne_nil mark rest), joined, here]
      exact ⟨rfl, List.forall_mem_cons.mpr ⟨List.not_mem_nil, free⟩⟩
    · next other =>
      cases parts : split mark rest with
      | nil => exact absurd parts (split_ne_nil mark rest)
      | cons part parts' =>
        rw [parts] at joined free
        obtain ⟨first, later⟩ := List.forall_mem_cons.mp free
        refine ⟨?_, List.forall_mem_cons.mpr ⟨?_, later⟩⟩
        · rw [← joined]
          cases parts' <;> rfl
        · exact List.not_mem_cons_of_ne_of_not_mem (Ne.symm other) first

theorem cut?_free {mark : α} {part : List α} (free : mark ∉ part) : cut? mark part = none := by
  induction part with
  | nil => rfl
  | cons c rest ih =>
    obtain ⟨other, later⟩ := List.ne_and_not_mem_of_not_mem_cons free
    rw [cut?, if_neg (Ne.symm other), ih later]
    rfl

theorem split_map {f : α → β} (injective : Function.Injective f) (mark : α) (line : List α) :
    split (f mark) (line.map f) = (split mark line).map (List.map f) := by
  induction line with
  | nil => rfl
  | cons c rest ih =>
    rw [List.map_cons, split, split, ih]
    by_cases here : c = mark
    · rw [if_pos here, if_pos (congrArg f here)]
      rfl
    · rw [if_neg here, if_neg (injective.ne here)]
      cases split mark rest <;> rfl

theorem cut?_map {f : α → β} (injective : Function.Injective f) (mark : α) (part : List α) :
    cut? (f mark) (part.map f) = (cut? mark part).map (Prod.map (List.map f) (List.map f)) := by
  induction part with
  | nil => rfl
  | cons c rest ih =>
    rw [List.map_cons, cut?, cut?, ih]
    by_cases here : c = mark
    · rw [if_pos here, if_pos (congrArg f here)]
      rfl
    · rw [if_neg here, if_neg (injective.ne here)]
      cases cut? mark rest <;> rfl

end ScriptDialog.Pieces
