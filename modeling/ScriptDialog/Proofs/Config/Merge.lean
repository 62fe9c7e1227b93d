import ScriptDialog.Config.Merge

/-! What a merge of mappings holds under a name: the upper value, over the lower one where both are
mappings, and the lower one where the upper mapping has none. Deeper, at a place in the mappings, an
upper value on the way that is no mapping hides all that the lower one says there. -/
namespace ScriptDialog

variable {name name' : Text} {a key : Atom} {v value old : Value}

namespace Atom

theorem sameKey_text : a.sameKey (.text name) = true ↔ a = .text name := by
  cases a with
  | bool _ | int _ | float _ => exact iff_of_false Bool.false_ne_true nofun
  | null | text _ | bytes _ | exotic _ => exact beq_iff_eq

theorem text_sameKey : (text name).sameKey a = true ↔ a = .text name := by
  cases a with
  | bool _ | int _ | float _ => exact iff_of_false Bool.false_ne_true nofun
  | null | text _ | bytes _ | exotic _ => exact beq_iff_eq.trans eq_comm

end Atom

namespace Entries

variable {entries lower upper : Entries}

/-- No two keys are equal. -/
def Distinct (entries : Entries) : Prop :=
  (entries.map Prod.fst).Pairwise fun k k' => k.sameKey k' = false

instance (entries : Entries) : Decidable entries.Distinct :=
  inferInstanceAs (Decidable (List.Pairwise _ _))

@[simp] theorem get?_nil : get? [] key = none := rfl

theorem get?_cons (entry : Atom × Value) (entries : Entries) (name : Text) :
    get? (entry :: entries) (.text name) =
      if entry.1 = .text name then some entry.2 else get? entries (.text name) := by
  unfold get?
  rw [List.find?_cons]
  by_cases here : entry.1 = .text name
  · rw [if_pos here, Atom.sameKey_text.mpr here]
    rfl
  · rw [if_neg here, Bool.eq_false_iff.mpr (mt Atom.sameKey_text.mp here)]

theorem get?_put (key : Atom) (value : Value) (entries : Entries) (name : Text) :
    get? (entries.put key value) (.text name) =
      if key = .text name then some value else get? entries (.text name) := by
  induction entries with
  | nil => rw [put, get?_cons]
  | cons entry entries ih =>
    unfold put
    split
    · next same =>
      rw [get?_cons, get?_cons]
      by_cases wanted : key = .text name
      · subst wanted
        simp [Atom.sameKey_text.mp same]
      · have other : entry.1 ≠ .text name := by
          intro this
          rw [this, Atom.text_sameKey] at same
          exact wanted same
        simp [wanted, other]
    · next differs =>
      rw [get?_cons, ih, get?_cons]
      by_cases wanted : key = .text name
      · subst wanted
        have other : entry.1 ≠ .text name := mt Atom.sameKey_text.mpr differs
        simp [other]
      · simp [wanted]

theorem get?_of_distinct (distinct : Distinct ((.text name, value) :: entries)) :
    get? entries (.text name) = none := by
  obtain ⟨others, -⟩ := List.pairwise_cons.mp distinct
  rw [get?, Option.map_eq_none_iff, List.find?_eq_none]
  intro entry member same
  have other := others entry.1 (List.mem_map_of_mem member)
  rw [Atom.text_sameKey.mpr (Atom.sameKey_text.mp same)] at other
  cases other

/-- A value under an equal key keeps the key in its place; a new key comes last. -/
theorem keys_put (key : Atom) (value : Value) (entries : Entries) :
    (entries.put key value).map Prod.fst = entries.map Prod.fst ∨
      (∀ e ∈ entries, e.1.sameKey key = false) ∧
        (entries.put key value).map Prod.fst = entries.map Prod.fst ++ [key] := by
  induction entries with
  | nil => exact .inr ⟨by simp, rfl⟩
  | cons entry entries ih =>
    unfold put
    split
    · exact .inl rfl
    · next differs =>
      rcases ih with kept | ⟨others, added⟩
      · exact .inl (by simp [kept])
      · exact .inr ⟨List.forall_mem_cons.mpr ⟨by simpa using differs, others⟩, by simp [added]⟩

theorem distinct_put (distinct : Distinct entries) (key : Atom) (value : Value) :
    Distinct (entries.put key value) := by
  unfold Distinct at distinct ⊢
  rcases keys_put key value entries with kept | ⟨others, added⟩
  · rw [kept]
    exact distinct
  · rw [added, List.pairwise_append]
    refine ⟨distinct, List.pairwise_singleton _ _, fun k member k' last => ?_⟩
    obtain ⟨entry, place, rfl⟩ := List.mem_map.mp member
    cases List.mem_singleton.mp last
    exact others entry place

end Entries

theorem Value.entries?_eq_some_iff {entries : Entries} :
    v.entries? = some entries ↔ v = .map entries := by
  cases v <;> simp [entries?]

/-- The mappings in a value have no two equal keys. -/
inductive Value.Tidy : Value → Prop where
  | atom (a : Atom) : Tidy (.atom a)
  | color (c : Color) : Tidy (.color c)
  | list {items : List Value} (all : ∀ v ∈ items, Tidy v) : Tidy (.list items)
  | tuple {items : List Value} (all : ∀ v ∈ items, Tidy v) : Tidy (.tuple items)
  | map {entries : Entries} (distinct : entries.Distinct) (values : ∀ e ∈ entries, Tidy e.2) :
      Tidy (.map entries)

namespace Entries

variable {entries : Entries}

theorem mem_of_get? (found : get? entries key = some v) : ∃ entry ∈ entries, entry.2 = v := by
  obtain ⟨entry, here, rfl⟩ := Option.map_eq_some_iff.mp found
  exact ⟨entry, List.mem_of_find?_eq_some here, rfl⟩

theorem tidy_get? (tidy : (Value.map entries).Tidy) (found : get? entries key = some v) :
    v.Tidy := by
  obtain ⟨entry, member, rfl⟩ := mem_of_get? found
  cases tidy with
  | map _ values => exact values entry member

theorem distinct_of_tidy (tidy : (Value.map entries).Tidy) : entries.Distinct := by
  cases tidy
  assumption

/-- The entries of a section; what is no mapping is none. -/
def sectionOf? (entries : Entries) (name : Text) : Option Entries :=
  (get? entries (.text name)).bind Value.entries?

/-- The value under a name in a section of sections. -/
def valueAt? (entries : Entries) : List Text → Text → Option Value
  | [], name => get? entries (.text name)
  | outer :: inner, name => (sectionOf? entries outer).bind (valueAt? · inner name)

/-- On the way to the place stands a value that is no mapping. -/
def Blocks (entries : Entries) (place : List Text) : Prop :=
  ∃ front outer rest v, place = front ++ outer :: rest ∧
    valueAt? entries front outer = some v ∧ v.entries? = none

theorem sectionOf?_eq_some_iff {inner : Entries} :
    sectionOf? entries name = some inner ↔ get? entries (.text name) = some (.map inner) := by
  simp [sectionOf?, Option.bind_eq_some_iff, Value.entries?_eq_some_iff]

theorem not_blocks_nil : ¬ Blocks entries [] := by
  rintro ⟨front, outer, rest, v, whole, _⟩
  simp at whole

theorem blocks_cons {outer : Text} {place : List Text} : Blocks entries (outer :: place) ↔
    (∃ v, get? entries (.text outer) = some v ∧ v.entries? = none) ∨
      ∃ inner, sectionOf? entries outer = some inner ∧ Blocks inner place := by
  constructor
  · rintro ⟨front, name, rest, v, whole, found, noMap⟩
    cases front with
    | nil =>
      cases whole
      exact .inl ⟨v, found, noMap⟩
    | cons first front =>
      cases whole
      obtain ⟨inner, here, found⟩ := Option.bind_eq_some_iff.mp found
      exact .inr ⟨inner, here, front, name, rest, v, rfl, found, noMap⟩
  · rintro (⟨v, found, noMap⟩ | ⟨inner, here, front, name, rest, v, rfl, found, noMap⟩)
    · exact ⟨[], outer, place, v, rfl, found, noMap⟩
    · exact ⟨outer :: front, name, rest, v, rfl, Option.bind_eq_some_iff.mpr ⟨inner, here, found⟩,
        noMap⟩

theorem sectionOf?_of_noMap (found : get? entries (.text name) = some v)
    (noMap : v.entries? = none) :
    sectionOf? entries name = none := by
  rw [sectionOf?, found]
  exact noMap

/-- Nothing is said beyond a value that is no mapping. -/
theorem valueAt?_of_blocks {place : List Text} (blocked : Blocks entries place) (name : Text) :
    valueAt? entries place name = none := by
  induction place generalizing entries with
  | nil => exact absurd blocked not_blocks_nil
  | cons outer place ih =>
    rw [valueAt?, Option.bind_eq_none_iff]
    intro inner here
    rcases blocks_cons.mp blocked with ⟨v, found, noMap⟩ | ⟨inner', here', blocked⟩
    · cases here.symm.trans (sectionOf?_of_noMap found noMap)
    · cases here.symm.trans here'
      exact ih blocked

theorem tidy_sectionOf? {inner : Entries} (tidy : (Value.map entries).Tidy)
    (found : sectionOf? entries name = some inner) : (Value.map inner).Tidy :=
  tidy_get? tidy (sectionOf?_eq_some_iff.mp found)

end Entries

namespace Config

variable {lower upper : Entries}

/-- A value over what lies below it. -/
def layered (lower : Option Value) (upper : Value) : Value :=
  match lower with
  | some old => mergeValue old upper
  | none => upper

theorem get?_merge (distinct : upper.Distinct) (lower : Entries) (name : Text) :
    (merge lower upper).get? (.text name) =
      match upper.get? (.text name) with
      | some value => some (layered (lower.get? (.text name)) value)
      | none => lower.get? (.text name) := by
  induction upper generalizing lower with
  | nil => rw [merge]; rfl
  | cons entry upper ih =>
    obtain ⟨key, value⟩ := entry
    have rest := (List.pairwise_cons.mp distinct).2
    rw [merge, ih rest, Entries.get?_cons, Entries.get?_put]
    by_cases here : key = .text name
    · subst here
      rw [Entries.get?_of_distinct distinct, if_pos rfl, if_pos rfl]
      rfl
    · rw [if_neg here, if_neg here]

/-- Only a mapping over a mapping is not left as it is. -/
theorem layered_eq_or (old? : Option Value) (v : Value) : layered old? v = v ∨
    ∃ lower upper, old? = some (.map lower) ∧ v = .map upper := by
  cases old? with
  | none => exact .inl rfl
  | some old =>
    cases v with
    | map upper =>
      cases old with
      | map lower => exact .inr ⟨lower, upper, rfl, rfl⟩
      | atom | list | tuple | color =>
        rw [layered, mergeValue]
        · exact .inl rfl
        · nofun
    | atom | list | tuple | color =>
      rw [layered, mergeValue]
      · exact .inl rfl
      · nofun

@[simp] theorem layered_map_map (lower upper : Entries) :
    layered (some (.map lower)) (.map upper) = .map (merge lower upper) := by
  rw [layered, mergeValue]

theorem layered_of_noMap {old? : Option Value} (noMap : v.entries? = none) :
    layered old? v = v := by
  rcases layered_eq_or old? v with same | ⟨_, _, _, rfl⟩
  · exact same
  · cases noMap

theorem layered_over_noMap (noMap : old.entries? = none) : layered (some old) v = v := by
  rcases layered_eq_or (some old) v with same | ⟨_, _, isMap, _⟩
  · exact same
  · cases isMap
    cases noMap

theorem eq_of_layered {old? : Option Value} (same : layered old? value = v)
    (noMap : v.entries? = none) : value = v := by
  rcases layered_eq_or old? value with kept | ⟨_, _, rfl, rfl⟩
  · exact kept.symm.trans same
  · rw [layered_map_map] at same
    subst same
    cases noMap

/-- A mapping has its entries over those of a mapping below it. -/
theorem entries?_layered (old? : Option Value) (entries : Entries) :
    (layered old? (.map entries)).entries? = some (match old?.bind Value.entries? with
      | some lower => merge lower entries
      | none => entries) := by
  cases isMap : old?.bind Value.entries? with
  | none =>
    rcases layered_eq_or old? (.map entries) with same | ⟨_, _, rfl, _⟩
    · rw [same]
      rfl
    · cases isMap
  | some lower =>
    obtain ⟨old, rfl, isMap⟩ := Option.bind_eq_some_iff.mp isMap
    rw [Value.entries?_eq_some_iff.mp isMap, layered_map_map]
    rfl

theorem sectionOf?_merge_of_upper {inner : Entries} (distinct : upper.Distinct)
    (found : upper.sectionOf? name = some inner) :
    (merge lower upper).sectionOf? name = some (match lower.sectionOf? name with
      | some below => merge below inner
      | none => inner) := by
  rw [Entries.sectionOf?_eq_some_iff] at found
  rw [Entries.sectionOf?, get?_merge distinct, found]
  exact entries?_layered _ inner

/-- The section of a merge where the upper mapping has none. -/
theorem sectionOf?_merge_of_silent (distinct : upper.Distinct)
    (silent : upper.sectionOf? name = none) : (merge lower upper).sectionOf? name =
      if (upper.get? (.text name)).isSome then none else lower.sectionOf? name := by
  rw [Entries.sectionOf?, get?_merge distinct]
  cases here : upper.get? (.text name) with
  | none => rfl
  | some v =>
    rw [Entries.sectionOf?, here] at silent
    dsimp only [Option.bind_some] at silent ⊢
    rw [layered_of_noMap silent, silent]
    rfl

/-- What the upper mapping says is said by the merge, over what lies below it. -/
theorem valueAt?_merge_of_upper {place : List Text} (tidy : (Value.map upper).Tidy)
    (found : upper.valueAt? place name = some v) :
    (merge lower upper).valueAt? place name = some (layered (lower.valueAt? place name) v) := by
  induction place generalizing lower upper with
  | nil =>
    unfold Entries.valueAt? at found ⊢
    rw [get?_merge (Entries.distinct_of_tidy tidy), found]
  | cons outer place ih =>
    obtain ⟨inner, here, found⟩ := Option.bind_eq_some_iff.mp found
    have tidy' := Entries.tidy_sectionOf? tidy here
    unfold Entries.valueAt?
    rw [sectionOf?_merge_of_upper (Entries.distinct_of_tidy tidy) here]
    cases lower.sectionOf? outer with
    | some below => exact ih tidy' found
    | none => exact found

/-- A value of the upper mapping that is no mapping hides whatever is below it. -/
theorem valueAt?_merge_of_blocked {place : List Text} (tidy : (Value.map upper).Tidy)
    (blocked : upper.Blocks place) (lower : Entries) (name : Text) :
    (merge lower upper).valueAt? place name = none := by
  induction place generalizing lower upper with
  | nil => exact absurd blocked Entries.not_blocks_nil
  | cons outer place ih =>
    have distinct := Entries.distinct_of_tidy tidy
    rw [Entries.valueAt?, Option.bind_eq_none_iff]
    intro inner found
    rcases Entries.blocks_cons.mp blocked with ⟨v, here, noMap⟩ | ⟨inner', here, blocked⟩
    · have silent := Entries.sectionOf?_of_noMap here noMap
      rw [sectionOf?_merge_of_silent distinct silent, here] at found
      cases found
    · have tidy' := Entries.tidy_sectionOf? tidy here
      rw [sectionOf?_merge_of_upper distinct here, Option.some.injEq] at found
      subst found
      cases lower.sectionOf? outer with
      | none => exact Entries.valueAt?_of_blocks blocked name
      | some below => exact ih tidy' blocked below

/-- Where the upper mapping is silent, the merge says what the lower one does. -/
theorem valueAt?_merge_of_free {place : List Text} (tidy : (Value.map upper).Tidy)
    (silent : upper.valueAt? place name = none) (free : ¬ upper.Blocks place) :
    (merge lower upper).valueAt? place name = lower.valueAt? place name := by
  induction place generalizing lower upper with
  | nil =>
    unfold Entries.valueAt? at silent ⊢
    rw [get?_merge (Entries.distinct_of_tidy tidy), silent]
  | cons outer place ih =>
    have distinct := Entries.distinct_of_tidy tidy
    rw [Entries.blocks_cons, not_or, not_exists, not_exists] at free
    obtain ⟨clear, free⟩ := free
    unfold Entries.valueAt? at silent ⊢
    cases here : upper.sectionOf? outer with
    | none =>
      have absent : upper.get? (.text outer) = none := by
        rw [Option.eq_none_iff_forall_ne_some]
        intro v found
        rw [Entries.sectionOf?, found] at here
        exact clear v ⟨found, here⟩
      rw [sectionOf?_merge_of_silent distinct here, absent]
      rfl
    | some inner =>
      rw [here] at silent
      rw [sectionOf?_merge_of_upper distinct here]
      have deeper : ¬ inner.Blocks place := fun blocked => free inner ⟨here, blocked⟩
      cases lower.sectionOf? outer with
      | none => exact silent
      | some below => exact ih (Entries.tidy_sectionOf? tidy here) silent deeper

/-- Where the upper mapping is silent, nothing is said that the lower one does not say. -/
theorem valueAt?_merge_of_lower {place : List Text} (tidy : (Value.map upper).Tidy)
    (silent : upper.valueAt? place name = none)
    (found : (merge lower upper).valueAt? place name = some v) :
    lower.valueAt? place name = some v := by
  by_cases blocked : upper.Blocks place
  · rw [valueAt?_merge_of_blocked tidy blocked] at found
    cases found
  · rwa [valueAt?_merge_of_free tidy silent blocked] at found

end Config

end ScriptDialog
