import ScriptDialog.Proofs.Success
import ScriptDialog.Document.Reader

/-! The keys of the objects that are read: however often a text repeats a key, it stands once. -/
namespace ScriptDialog.Document

/-- Each key stands once, also in the values below. -/
inductive Unique : Document → Prop where
  | null : Unique .null
  | bool (b : Bool) : Unique (.bool b)
  | number (spelling : List Char) : Unique (.number spelling)
  | quoted (t : Text) : Unique (.quoted t)
  | list {items : List Document} (all : ∀ item ∈ items, Unique item) : Unique (.list items)
  | object {members : List (Text × Document)} (keys : (members.map Prod.fst).Nodup)
      (all : ∀ m ∈ members, Unique m.2) : Unique (.object members)

/-- Members with different keys and such values. -/
def UniqueMembers (members : List (Text × Document)) : Prop :=
  (members.map Prod.fst).Nodup ∧ ∀ m ∈ members, Unique m.2

section putMember

variable {α : Type} {key : Text} {value : α} {members : List (Text × α)}

theorem mem_keys_putMember {k : Text} :
    k ∈ (putMember key value members).map Prod.fst ↔ k = key ∨ k ∈ members.map Prod.fst := by
  induction members with
  | nil => simp [putMember]
  | cons first members ih =>
    obtain ⟨k', v⟩ := first
    rw [putMember]
    split
    · next same =>
      subst same
      simp
    · rw [List.map_cons, List.mem_cons, ih, List.map_cons, List.mem_cons]
      exact or_left_comm

theorem mem_putMember_self (key : Text) (value : α) (members : List (Text × α)) :
    (key, value) ∈ putMember key value members := by
  induction members with
  | nil => exact List.mem_cons_self
  | cons first members ih =>
    rw [putMember]
    split
    · next same =>
      subst same
      exact List.mem_cons_self
    · exact List.mem_cons_of_mem _ ih

theorem mem_putMember {m : Text × α} (member : m ∈ putMember key value members) :
    m = (key, value) ∨ m ∈ members := by
  induction members with
  | nil => exact .inl (List.mem_singleton.mp member)
  | cons first members ih =>
    rw [putMember] at member
    split at member
    · next same =>
      subst same
      exact (List.mem_cons.mp member).imp_right (List.mem_cons_of_mem _)
    · rcases List.mem_cons.mp member with rfl | later
      · exact .inr List.mem_cons_self
      · exact (ih later).imp_right (List.mem_cons_of_mem _)

theorem nodup_putMember (unique : (members.map Prod.fst).Nodup) :
    ((putMember key value members).map Prod.fst).Nodup := by
  induction members with
  | nil => simp [putMember]
  | cons first members ih =>
    obtain ⟨k, v⟩ := first
    obtain ⟨new, later⟩ := List.nodup_cons.mp unique
    rw [putMember]
    split
    · exact unique
    · next other =>
      refine List.nodup_cons.mpr ⟨?_, ih later⟩
      rw [mem_keys_putMember, not_or]
      exact ⟨other, new⟩

theorem forall_mem_putMember {p : α → Prop} (here : p value) (all : ∀ m ∈ members, p m.2) :
    ∀ m ∈ putMember key value members, p m.2 := by
  induction members with
  | nil => simpa [putMember] using here
  | cons first members ih =>
    obtain ⟨front, later⟩ := List.forall_mem_cons.mp all
    rw [putMember]
    split
    · exact List.forall_mem_cons.mpr ⟨here, later⟩
    · exact List.forall_mem_cons.mpr ⟨front, ih later⟩

end putMember

theorem UniqueMembers.nil : UniqueMembers [] := ⟨List.nodup_nil, by simp⟩

theorem UniqueMembers.put {value : Document} {members : List (Text × Document)}
    (unique : UniqueMembers members) (here : value.Unique) (key : Text) :
    UniqueMembers (putMember key value members) :=
  ⟨nodup_putMember unique.1, forall_mem_putMember here unique.2⟩

theorem unique_of_words {value : Document} {text rest : List Char}
    (found : readWord? text = some (value, rest)) : value.Unique := by
  obtain ⟨⟨word, value⟩, known, done⟩ := List.exists_of_findSome?_eq_some found
  obtain ⟨rest, _, same⟩ := Option.map_eq_some_iff.mp done
  cases same
  simp only [words, List.mem_cons, List.not_mem_nil, or_false, Prod.mk.injEq] at known
  rcases known with ⟨_, rfl⟩ | ⟨_, rfl⟩ | ⟨_, rfl⟩ | ⟨_, rfl⟩ | ⟨_, rfl⟩ | ⟨_, rfl⟩ <;> constructor

theorem unique_of_readNumber {value : Document} {text rest : List Char}
    (read : readNumber text = .ok (value, rest)) : value.Unique := by
  unfold readNumber at read
  dsimp only at read
  split at read
  · cases read
  · split at read
    · cases read
    · cases read
      exact .number _

/-- What each reader gives at some amount of fuel has different keys. -/
structure ReadsUnique (fuel : Nat) : Prop where
  value : ∀ {text value rest}, readValue fuel text = .ok (value, rest) → value.Unique
  items : ∀ {text items rest}, readItems fuel text = .ok (items, rest) →
    ∀ item ∈ items, item.Unique
  members : ∀ {text before members rest}, UniqueMembers before →
    readMembers fuel text before = .ok (members, rest) → UniqueMembers members

variable {fuel : Nat} {text rest : List Char}

theorem unique_of_readValue (below : ReadsUnique fuel) {value : Document}
    (read : readValue (fuel + 1) text = .ok (value, rest)) : value.Unique := by
  rw [readValue.eq_def] at read
  dsimp only at read
  split at read
  · split at read
    · cases read
    · cases read
      exact .quoted _
  · split at read
    · cases read
      exact .list (by simp)
    · split at read
      · cases read
      · next inner =>
        cases read
        exact .list (below.items inner)
  · split at read
    · cases read
      exact .object List.nodup_nil (by simp)
    · split at read
      · cases read
      · next inner =>
        cases read
        have unique := below.members .nil inner
        exact .object unique.1 unique.2
  · split at read
    · next found =>
      cases read
      exact unique_of_words found
    · exact unique_of_readNumber read

theorem unique_of_readItems (below : ReadsUnique fuel) {items : List Document}
    (read : readItems (fuel + 1) text = .ok (items, rest)) : ∀ item ∈ items, item.Unique := by
  rw [readItems.eq_def] at read
  dsimp only at read
  split at read
  · cases read
  · next first =>
    have here := below.value first
    split at read
    · cases read
      simpa using here
    · split at read
      · cases read
      · next later =>
        cases read
        exact List.forall_mem_cons.mpr ⟨here, below.items later⟩
    · cases read

theorem unique_of_readMembers (below : ReadsUnique fuel) {before members : List (Text × Document)}
    (unique : UniqueMembers before)
    (read : readMembers (fuel + 1) text before = .ok (members, rest)) : UniqueMembers members := by
  rw [readMembers.eq_def] at read
  dsimp only at read
  split at read
  · split at read
    · cases read
    · split at read
      · split at read
        · cases read
        · next value =>
          have put := unique.put (below.value value)
          split at read
          · cases read
            exact put _
          · exact below.members (put _) read
          · cases read
      · cases read
  · cases read

/-- Each reader takes its parts from readers with less fuel. -/
theorem reads_unique (fuel : Nat) : ReadsUnique fuel := by
  induction fuel with
  | zero =>
    constructor
    · intro text value rest read
      rw [readValue] at read
      cases read
    · intro text items rest read
      rw [readItems] at read
      cases read
    · intro text before members rest _ read
      rw [readMembers] at read
      cases read
  | succ fuel below =>
    exact ⟨unique_of_readValue below, unique_of_readItems below, unique_of_readMembers below⟩

theorem unique_of_ofChars {d : Document} (read : ofChars text = .ok d) : d.Unique := by
  unfold ofChars at read
  split at read
  · cases read
  · next value =>
    split at read
    · cases read
      exact (reads_unique _).value value
    · cases read

end ScriptDialog.Document
