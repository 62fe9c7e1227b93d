import ScriptDialog.Proofs.States.Store

/-! Saving and loading. A file that was saved holds the same map, each key once and in the order of
the code points, and saving what was loaded from it writes the same text again. -/
namespace ScriptDialog

/-- A file can be written at the path, the directories above it included. -/
def Files.Writable (f : Files) (p : Path) : Prop := (f.writeUnder p []).fault = none

instance (f : Files) (p : Path) : Decidable (f.Writable p) :=
  inferInstanceAs (Decidable ((f.writeUnder p []).fault = none))

namespace States

variable {f : Files} {p : Path} {states loaded : States}

/-- Each key stands once, so that in the sorted states no key stands beside its own equal. -/
theorem sorted_ascending (unique : states.Unique) :
    states.sorted.Pairwise fun a b => a.1 < b.1 := by
  have different : states.sorted.Pairwise fun a b => a.1 ≠ b.1 :=
    List.pairwise_map.mp (sorted_unique unique)
  refine (sorted_pairwise states).imp₂ ?_ different
  intro a b below other
  by_contra above
  exact other (Text.le_antisymm below (Text.not_lt.mp above))

/-- What is loaded from a file to which the states were saved. -/
structure Regained (f : Files) (p : Path) (states loaded : States) : Prop where
  load : load (save f p states).files p = .ok loaded
  entries : loaded.Perm states
  lines : ∀ key, loaded.get? key = states.get? key
  ascending : loaded.Pairwise fun a b => a.1 < b.1
  text : ∃ text : List Char, states.toText = String.ofList text ∧
    (save f p states).files.readText p = .ok text
  textAgain : loaded.toText = states.toText
  saveAgain : save (save f p states).files p loaded = save f p states

/-- For every map of whole texts and every place where a file can be written: saving succeeds,
loading gives the same map with its keys in ascending order, and saving this writes the identical
text. -/
theorem load_saved (unique : states.Unique) (whole : states.Whole) (writable : f.Writable p) :
    (save f p states).fault = none ∧ ∃ loaded, Regained f p states loaded := by
  have fine := save_fine writable whole
  have same := get?_sorted unique
  obtain ⟨text, written, opened, _⟩ := readText_save unique fine
  refine ⟨fine, states.sorted, load_save unique fine, List.mergeSort_perm _ _, same,
    sorted_ascending unique, ⟨text, written, opened⟩,
    toText_congr (sorted_unique unique) unique same, ?_⟩
  have again : save (save f p states).files p states.sorted = save f p states.sorted :=
    Files.writeText_again fine _
  rw [again, save_sorted unique]

/-- Empty texts, quotes, line ends of three kinds and characters beyond the first plane. -/
def unusual : States := [("\r\n", "\u2028\x00"), ("", "\"\\\x7f"), ("𝄞\"", ""), ("é", "\r𝄞")]

theorem load_saved_unusual :
    unusual.Unique ∧ unusual.Whole ∧ (⟨[], []⟩ : Files).Writable notesPath ∧
      (save ⟨[], []⟩ notesPath unusual).fault = none ∧
      ∃ loaded, Regained ⟨[], []⟩ notesPath unusual loaded := by
  have unique : unusual.Unique := by
    unfold Unique
    decide
  have whole : unusual.Whole := by
    intro s member
    simp only [unusual, List.mem_cons, List.not_mem_nil, or_false] at member
    rcases member with rfl | rfl | rfl | rfl <;> exact ⟨⟨_, rfl⟩, _, rfl⟩
  have writable : (⟨[], []⟩ : Files).Writable notesPath := by decide +kernel
  exact ⟨unique, whole, writable, load_saved unique whole writable⟩

end States

end ScriptDialog
