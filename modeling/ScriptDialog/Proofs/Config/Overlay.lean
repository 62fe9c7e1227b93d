import Mathlib.Data.List.Basic
import ScriptDialog.Proofs.Config.Merge

/-! A merge of nested mappings, path by path. Under each path it says what the upper mapping says,
over what the lower one says there; merging the same mapping again changes nothing, and the keys of
the lower mapping keep their places in front of the new ones. -/
namespace ScriptDialog

variable {name : Text} {key : Atom} {v : Value} {entries lower upper : Entries}

namespace Entries

/-- The keys of a mapping are names, and so are those of the mappings in it. -/
inductive Named : Entries → Prop where
  | intro {entries : Entries} (names : ∀ e ∈ entries, ∃ name, e.1 = .text name)
      (inner : ∀ e ∈ entries, ∀ m, e.2 = .map m → Named m) : Named entries

/-- A mapping with names as keys at every depth, no two of them equal in one mapping. -/
structure Nested (entries : Entries) : Prop where
  tidy : (Value.map entries).Tidy
  named : Named entries

/-- An entry with a name as its key is found under it. -/
theorem get?_of_mem (distinct : entries.Distinct) (member : (.text name, v) ∈ entries) :
    entries.get? (.text name) = some v := by
  induction entries with
  | nil => cases member
  | cons entry entries ih =>
    obtain ⟨others, rest⟩ := List.pairwise_cons.mp distinct
    rw [get?_cons]
    rcases List.mem_cons.mp member with rfl | later
    · exact if_pos rfl
    · have other : entry.1 ≠ .text name := by
        intro same
        have apart := others (.text name) (List.mem_map_of_mem later)
        rw [same, Atom.sameKey_text.mpr rfl] at apart
        cases apart
      rw [if_neg other]
      exact ih rest later

/-- The value that is there already may be put again. -/
theorem put_of_get? (found : entries.get? key = some v) : entries.put key v = entries := by
  induction entries with
  | nil => cases found
  | cons entry entries ih =>
    rw [get?, List.find?_cons] at found
    unfold put
    split
    · next same =>
      rw [same] at found
      cases found
      rfl
    · next differs =>
      rw [Bool.not_eq_true] at differs
      rw [differs] at found
      exact congrArg (entry :: ·) (ih found)

end Entries

namespace Config

open Entries (Named Nested)

/-- A mapping that holds whatever the upper one would put into it is left as it is. -/
theorem merge_eq_self (held : ∀ e ∈ upper, ∃ old, lower.get? e.1 = some old ∧
    layered (some old) e.2 = old) : merge lower upper = lower := by
  induction upper with
  | nil => rw [merge]
  | cons entry upper ih =>
    obtain ⟨⟨old, found, same⟩, rest⟩ := List.forall_mem_cons.mp held
    have kept : mergeValue old entry.2 = old := same
    rw [merge, found]
    dsimp only
    rw [kept, Entries.put_of_get? found]
    exact ih rest

theorem layered_self (inner : ∀ m, v = .map m → merge m m = m) : layered (some v) v = v := by
  rcases layered_eq_or (some v) v with same | ⟨m, _, here, rfl⟩
  · exact same
  · cases here
    rw [layered_map_map, inner m rfl]

theorem merge_self (nested : Nested entries) : merge entries entries = entries := by
  obtain ⟨tidy, named⟩ := nested
  induction named with
  | @intro entries names inner ih =>
    apply merge_eq_self
    rintro ⟨key, v⟩ member
    obtain ⟨name, rfl⟩ := names _ member
    have found := Entries.get?_of_mem (Entries.distinct_of_tidy tidy) member
    refine ⟨v, found, layered_self ?_⟩
    rintro m rfl
    exact ih _ member m rfl (Entries.tidy_get? tidy found)

theorem layered_again {old? : Option Value} (inner : ∀ m, v = .map m → Nested m)
    (deeper : ∀ l m, old? = some (.map l) → v = .map m → merge (merge l m) m = merge l m) :
    layered (some (layered old? v)) v = layered old? v := by
  rcases layered_eq_or old? v with same | ⟨l, m, rfl, rfl⟩
  · rw [same]
    exact layered_self fun m here => merge_self (inner m here)
  · rw [layered_map_map, layered_map_map, deeper l m rfl rfl]

/-- A mapping changes nothing where it was merged before. -/
theorem merge_again (nested : Nested upper) (lower : Entries) :
    merge (merge lower upper) upper = merge lower upper := by
  obtain ⟨tidy, named⟩ := nested
  induction named generalizing lower with
  | @intro upper names inner ih =>
    have distinct := Entries.distinct_of_tidy tidy
    apply merge_eq_self
    rintro ⟨key, v⟩ member
    obtain ⟨name, rfl⟩ := names _ member
    have found := Entries.get?_of_mem distinct member
    refine ⟨layered (lower.get? (.text name)) v, ?_, layered_again ?_ ?_⟩
    · rw [get?_merge distinct, found]
    · rintro m rfl
      exact ⟨Entries.tidy_get? tidy found, inner _ member m rfl⟩
    · rintro l m _ rfl
      exact ih _ member m rfl l (Entries.tidy_get? tidy found)

theorem keys_put_name (name : Text) (v : Value) (entries : Entries) :
    (entries.put (.text name) v).map Prod.fst =
      if .text name ∈ entries.map Prod.fst then entries.map Prod.fst
      else entries.map Prod.fst ++ [.text name] := by
  induction entries with
  | nil => rfl
  | cons entry entries ih =>
    unfold Entries.put
    split
    · next same =>
      rw [Atom.sameKey_text] at same
      simp [same]
    · next differs =>
      rw [Atom.sameKey_text] at differs
      rw [List.map_cons, ih, List.map_cons]
      by_cases known : Atom.text name ∈ entries.map Prod.fst
      · simp [known]
      · simp [known, Ne.symm differs]

/-- The lower keys come first, and the new ones after them, in the order of the upper mapping. -/
theorem keys_merge (names : ∀ e ∈ upper, ∃ name, e.1 = .text name) (distinct : upper.Distinct)
    (lower : Entries) : (merge lower upper).map Prod.fst =
      lower.map Prod.fst ++ (upper.map Prod.fst).filter (· ∉ lower.map Prod.fst) := by
  induction upper generalizing lower with
  | nil => simp [merge]
  | cons entry upper ih =>
    obtain ⟨key, v⟩ := entry
    obtain ⟨⟨name, rfl⟩, rest⟩ := List.forall_mem_cons.mp names
    obtain ⟨others, distinct⟩ := List.pairwise_cons.mp distinct
    rw [merge, ih rest distinct, keys_put_name, List.map_cons]
    by_cases known : Atom.text name ∈ lower.map Prod.fst
    · rw [if_pos known, List.filter_cons_of_neg (by simpa using known)]
    · have apart : ∀ k ∈ upper.map Prod.fst, k ≠ .text name := by
        rintro k member rfl
        have differs := others _ member
        rw [Atom.sameKey_text.mpr rfl] at differs
        cases differs
      have same : (upper.map Prod.fst).filter (· ∉ lower.map Prod.fst ++ [.text name]) =
          (upper.map Prod.fst).filter (· ∉ lower.map Prod.fst) :=
        List.filter_congr fun k member => by simp [apart k member]
      rw [if_neg known, List.filter_cons_of_pos (by simpa using known), List.append_assoc, same]
      rfl

/-- What a merge says under each path, next to what the two mappings say there. -/
structure Overlaid (lower upper merged : Entries) : Prop where
  /-- What is no mapping is the upper one's. -/
  value : ∀ place name v, upper.valueAt? place name = some v → v.entries? = none →
    merged.valueAt? place name = some v
  /-- Nothing is left behind it. -/
  blocked : ∀ place name, upper.Blocks place → merged.valueAt? place name = none
  /-- Two mappings are merged in turn. -/
  both : ∀ place name l u, lower.valueAt? place name = some (.map l) →
    upper.valueAt? place name = some (.map u) →
    merged.valueAt? place name = some (.map (merge l u))
  /-- A mapping takes the place of anything else. -/
  opened : ∀ place name u, upper.valueAt? place name = some (.map u) →
    (∀ l, lower.valueAt? place name ≠ some (.map l)) →
    merged.valueAt? place name = some (.map u)
  /-- Where the upper mapping says nothing, the lower one does. -/
  kept : ∀ place name, upper.valueAt? place name = none → ¬ upper.Blocks place →
    merged.valueAt? place name = lower.valueAt? place name

theorem overlaid_merge (tidy : (Value.map upper).Tidy) (lower : Entries) :
    Overlaid lower upper (merge lower upper) where
  value place name v found noMap := by
    rw [valueAt?_merge_of_upper tidy found, layered_of_noMap noMap]
  blocked place name blocked := valueAt?_merge_of_blocked tidy blocked lower name
  both place name l u below found := by
    rw [valueAt?_merge_of_upper tidy found, below, layered_map_map]
  opened place name u found noMap := by
    rw [valueAt?_merge_of_upper tidy found]
    rcases layered_eq_or (lower.valueAt? place name) (.map u) with same | ⟨l, _, below, _⟩
    · rw [same]
    · exact absurd below (noMap l)
  kept place name silent free := valueAt?_merge_of_free tidy silent free

/-- What two nested mappings give together under each path, that each of them may come again without
a change, and in which order the keys stand. -/
theorem merge_settles (lower upper : Entries) (nested : Nested lower) (nested' : Nested upper) :
    Overlaid lower upper (merge lower upper) ∧
      merge (merge lower upper) upper = merge lower upper ∧ merge lower lower = lower ∧
      (merge lower upper).map Prod.fst =
        lower.map Prod.fst ++ (upper.map Prod.fst).filter (· ∉ lower.map Prod.fst) := by
  obtain ⟨names, _⟩ := nested'.named
  have distinct := Entries.distinct_of_tidy nested'.tidy
  exact ⟨overlaid_merge nested'.tidy lower, merge_again nested' lower, merge_self nested,
    keys_merge names distinct lower⟩

theorem nested_of_values (names : ∀ e ∈ entries, ∃ name, e.1 = .text name)
    (distinct : entries.Distinct)
    (values : ∀ e ∈ entries, (∃ a, e.2 = .atom a) ∨ ∃ m, e.2 = .map m ∧ Nested m) :
    Nested entries := by
  refine ⟨.map distinct fun e member => ?_, .intro names fun e member m here => ?_⟩
  · rcases values e member with ⟨a, same⟩ | ⟨m, same, nested⟩
    · exact same ▸ .atom a
    · exact same ▸ nested.tidy
  · rcases values e member with ⟨a, same⟩ | ⟨m', same, nested⟩
    · cases here.symm.trans same
    · cases here.symm.trans same
      exact nested.named

/-- A mapping over a mapping, one over a number, and a number over a mapping. -/
theorem merge_settles_crossing :
    let lower : Entries := [(.text "a", .map [(.text "x", .int 1), (.text "y", .int 2)]),
      (.text "b", .int 3), (.text "c", .map [(.text "z", .int 4)])]
    let upper : Entries := [(.text "d", .null), (.text "c", .int 5),
      (.text "a", .map [(.text "y", .map [])])]
    Nested lower ∧ Nested upper ∧
      (merge lower upper).valueAt? ["a"] "x" = some (.int 1) ∧
      (merge lower upper).valueAt? ["a"] "y" = some (.map []) ∧
      (merge lower upper).valueAt? ["c"] "z" = none ∧
      merge (merge lower upper) upper = merge lower upper ∧
      (merge lower upper).map Prod.fst = [.text "a", .text "b", .text "c", .text "d"] := by
  intro lower upper
  have empty : Nested [] := nested_of_values (by simp) (by decide) (by simp)
  have numbers : Nested [(.text "x", .int 1), (.text "y", .int 2)] :=
    nested_of_values (by simp) (by decide) (by simp [Value.int])
  have number : Nested [(.text "z", .int 4)] :=
    nested_of_values (by simp) (by decide) (by simp [Value.int])
  have inner : Nested [(.text "y", .map [])] :=
    nested_of_values (by simp) (by decide) (by simp [empty])
  have nested : Nested lower :=
    nested_of_values (by simp [lower]) (by decide)
      (by simpa [lower, Value.int] using And.intro numbers number)
  have nested' : Nested upper :=
    nested_of_values (by simp [upper]) (by decide)
      (by simp [upper, Value.int, Value.null, inner])
  obtain ⟨overlaid, again, _, keys⟩ := merge_settles lower upper nested nested'
  have free : ¬ upper.Blocks ["a"] := by
    rw [Entries.blocks_cons]
    rintro (⟨v, found, noMap⟩ | ⟨inner, _, blocked⟩)
    · cases found
      cases noMap
    · exact Entries.not_blocks_nil blocked
  refine ⟨nested, nested', ?_, ?_, ?_, again, keys⟩
  · exact overlaid.kept ["a"] "x" rfl free
  · exact overlaid.opened ["a"] "y" [] rfl (by rintro l ⟨⟩)
  · exact overlaid.blocked ["c"] "z" ⟨[], "c", [], _, rfl, rfl, rfl⟩

end Config

end ScriptDialog
