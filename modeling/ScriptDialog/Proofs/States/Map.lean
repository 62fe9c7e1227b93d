import Mathlib.Data.List.Nodup
import ScriptDialog.Proofs.Document.Keys
import ScriptDialog.Proofs.Lookup
import ScriptDialog.Proofs.States.Written

/-! States as a map from keys to lines. A key that is put has its line, the others keep theirs, and
the sorted states, and so the text of the file, are the same for states that are the same map. -/
namespace ScriptDialog

namespace Document

open Lookup (lookup_cons)

theorem lookup_putMember {α : Type} (key : Text) (value : α) (members : List (Text × α))
    (k : Text) : (putMember key value members).lookup k =
      if k = key then some value else members.lookup k := by
  induction members with
  | nil => rw [putMember, lookup_cons]
  | cons first members ih =>
    obtain ⟨k', v⟩ := first
    rw [putMember]
    by_cases here : k' = key
    · subst here
      rw [if_pos rfl, lookup_cons, lookup_cons]
      by_cases same : k = k' <;> simp [same]
    · rw [if_neg here, lookup_cons, lookup_cons, ih]
      by_cases same : k = k'
      · subst same
        simp [here]
      · simp [same]

end Document

namespace States

variable {states states' : States} {key k line : Text}

theorem get?_put (states : States) (key line k : Text) :
    (states.put key line).get? k = if k = key then some line else states.get? k :=
  Document.lookup_putMember key line states k

theorem put_unique (unique : states.Unique) (key line : Text) : (states.put key line).Unique :=
  Document.nodup_putMember unique

theorem get?_eq_some_iff (unique : states.Unique) :
    states.get? k = some line ↔ (k, line) ∈ states := by
  induction states with
  | nil => simp [get?]
  | cons first states ih =>
    obtain ⟨k', line'⟩ := first
    obtain ⟨new, later⟩ := List.nodup_cons.mp unique
    have rest := ih later
    unfold get? at rest ⊢
    rw [Lookup.lookup_cons, List.mem_cons]
    by_cases same : k = k'
    · subst same
      have absent : (k, line) ∉ states := fun member =>
        new (List.mem_map.mpr ⟨(k, line), member, rfl⟩)
      simp [absent, eq_comm]
    · simp [same, rest]

theorem nodup_of_unique (unique : states.Unique) : states.Nodup := List.Nodup.of_map Prod.fst unique

theorem perm_of_get? (unique : states.Unique) (unique' : states'.Unique)
    (same : ∀ k, states.get? k = states'.get? k) : states.Perm states' := by
  rw [List.perm_ext_iff_of_nodup (nodup_of_unique unique) (nodup_of_unique unique')]
  rintro ⟨k, line⟩
  rw [← get?_eq_some_iff unique, ← get?_eq_some_iff unique', same]

theorem get?_sorted (unique : states.Unique) (k : Text) : states.sorted.get? k = states.get? k := by
  apply Option.ext
  intro line
  rw [get?_eq_some_iff (sorted_unique unique), get?_eq_some_iff unique]
  exact List.mem_mergeSort

theorem sorted_pairwise (states : States) : states.sorted.Pairwise fun a b => a.1 ≤ b.1 := by
  refine (List.pairwise_mergeSort ?_ ?_ states).imp of_decide_eq_true
  · intro a b c first second
    exact decide_eq_true (Text.le_trans (of_decide_eq_true first) (of_decide_eq_true second))
  · intro a b
    simpa using Text.le_total a.1 b.1

/-- States that are the same map are sorted into the same list. -/
theorem sorted_congr (unique : states.Unique) (unique' : states'.Unique)
    (same : ∀ k, states.get? k = states'.get? k) : states.sorted = states'.sorted := by
  have perm : states.sorted.Perm states'.sorted :=
    ((List.mergeSort_perm _ _).trans (perm_of_get? unique unique' same)).trans
      (List.mergeSort_perm _ _).symm
  refine List.Perm.eq_of_pairwise ?_ (sorted_pairwise states) (sorted_pairwise states') perm
  rintro ⟨k, line⟩ ⟨k', line'⟩ member member' below above
  cases Text.le_antisymm below above
  have first := (get?_eq_some_iff (sorted_unique unique')).mpr (perm.subset member)
  have second := (get?_eq_some_iff (sorted_unique unique')).mpr member'
  cases first.symm.trans second
  rfl

/-- The text of the file depends on the map alone. -/
theorem toText_congr (unique : states.Unique) (unique' : states'.Unique)
    (same : ∀ k, states.get? k = states'.get? k) : states.toText = states'.toText := by
  unfold toText
  rw [sorted_congr unique unique' same]

end States

end ScriptDialog
