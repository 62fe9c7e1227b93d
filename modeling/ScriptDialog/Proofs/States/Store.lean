import ScriptDialog.Proofs.Control.Held
import ScriptDialog.Proofs.Files.Writing
import ScriptDialog.Proofs.States.Map
import ScriptDialog.States.File

/-! Runs of stores into one file. Whatever the file held, it then holds, as a map, what it held
before overridden by the last line under each stored key; and its bytes depend on that map alone,
not on the order in which different keys were stored. -/
namespace ScriptDialog.States

/-- Stores dialogs under their keys, one after the other, up to the first fault. -/
def storeAll (f : Files) (p : Path) : List (Text × Dialog) → Stored
  | [] => ⟨f, none⟩
  | (key, d) :: rest =>
    let stored := store f p key d
    match stored.fault with
    | some _ => stored
    | none => storeAll stored.files p rest

/-- The last dialog under a key. -/
def lastStored? (stores : List (Text × Dialog)) (key : Text) : Option Dialog :=
  (stores.filter fun s => s.1 == key).getLast?.map Prod.snd

/-- The last line under each stored key, and what was there before under every other one. -/
def Overridden (before : States) (stores : List (Text × Dialog)) (after : States) : Prop :=
  ∀ key, match lastStored? stores key with
    | some d => ∃ line, d.serialize = .ok line ∧ after.get? key = some line
    | none => after.get? key = before.get? key

/-- The same stores under each key, in the same order. -/
def Reordered (stores stores' : List (Text × Dialog)) : Prop :=
  ∀ key : Text, (stores.filter fun s => s.1 == key) = stores'.filter fun s => s.1 == key

variable {f : Files} {p : Path} {before after states : States} {key line : Text} {d : Dialog}
  {stores stores' : List (Text × Dialog)}

theorem ofDocument_unique {d : Document} (unique : d.Unique) : (ofDocument d).Unique := by
  unfold ofDocument
  split
  · next members found =>
    cases unique with
    | object keys all =>
      obtain ⟨front, back, whole, _⟩ := List.lookup_eq_some_iff.mp found
      have inner := all ("dialogs", .object members) (by simp [whole])
      cases inner with
      | object keys _ =>
        refine (Lookup.keys_filterMap ?_ members).nodup keys
        rintro ⟨key, value⟩ pair text
        cases value with
        | quoted s => cases text; rfl
        | _ => cases text
    | _ => cases found
  · exact List.nodup_nil

/-- Whatever the file is, each key stands once in what is loaded from it. -/
theorem unique_of_load (loaded : load f p = .ok states) : states.Unique := by
  obtain ⟨held, found, loaded⟩ := Success.of_bind loaded
  cases held with
  | broken =>
    cases loaded
    exact List.nodup_nil
  | states states' =>
    cases loaded
    unfold contents at found
    split at found
    · split at found
      · cases found
        exact List.nodup_nil
      · cases found
    · split at found
      · cases found
      · cases found
      · next read =>
        cases found
        unfold ofChars? at read
        split at read
        · next document =>
          cases read
          exact ofDocument_unique (Document.unique_of_ofChars document)
        · cases read
        · cases read

/-- A file that cannot be opened holds nothing. -/
theorem load_absent {fault : FileFault} (absent : f.readText p = .error fault)
    (loaded : load f p = .ok states) : states = [] := by
  obtain ⟨held, found, loaded⟩ := Success.of_bind loaded
  unfold contents at found
  rw [absent] at found
  dsimp only at found
  split at found
  · cases found
    cases loaded
    rfl
  · cases found

theorem load_broken {text : List Char} (opened : f.readText p = .ok text)
    (broken : ofChars? text = .ok none) : load f p = .ok [] := by
  have held : contents f p = .ok .broken := by
    unfold contents
    rw [opened]
    simp only [broken]
  rw [load, held]
  rfl

/-- Whole states can be saved where a file can be written. -/
theorem save_fine (writable : (f.writeUnder p []).fault = none) (whole : states.Whole) :
    (save f p states).fault = none := by
  obtain ⟨text, written⟩ := toText_whole_iff.mpr whole
  rw [save, written]
  exact Files.writeUnder_any writable _

/-- States that were saved have no torn text. -/
theorem whole_of_save (fine : (save f p states).fault = none) : states.Whole := by
  obtain ⟨text, whole, _⟩ := Files.exists_whole_of_writeText fine
  exact toText_whole_iff.mp ⟨text, whole⟩

/-- States that were saved, and the characters that are read from their file. -/
theorem readText_save (unique : states.Unique) (fine : (save f p states).fault = none) :
    ∃ text : List Char, states.toText = String.ofList text ∧
      (save f p states).files.readText p = .ok text ∧
      ofChars? text = .ok (some states.sorted) := by
  obtain ⟨text, written, plain, read⟩ := exists_chars unique (whole_of_save fine)
  have bytes : save f p states = f.writeUnder p (Utf8.encode text) := by
    rw [save, written, Files.writeText, String.toList_ofList]
  rw [bytes] at fine ⊢
  exact ⟨text, written, Files.readText_writeUnder fine plain, read⟩

theorem load_save (unique : states.Unique) (fine : (save f p states).fault = none) :
    load (save f p states).files p = .ok states.sorted := by
  obtain ⟨text, _, opened, read⟩ := readText_save unique fine
  have held : contents (save f p states).files p = .ok (.states states.sorted) := by
    unfold contents
    rw [opened]
    simp only [read]
  rw [load, held]
  rfl

/-- One store: the dialog's line is put beside the states of the file, and these are written. -/
theorem saved_of_store (loaded : load f p = .ok states) (fine : (store f p key d).fault = none) :
    ∃ line, d.serialize = .ok line ∧ (save f p (states.put key line)).fault = none ∧
      store f p key d = ⟨(save f p (states.put key line)).files, none⟩ := by
  unfold store at fine ⊢
  rw [loaded] at fine ⊢
  cases serialized : d.serialize with
  | error fault => simp [serialized] at fine
  | ok line =>
    simp only [serialized, Option.map_eq_none_iff] at fine
    exact ⟨line, rfl, fine, by simp [fine]⟩

theorem store_of_saved (loaded : load f p = .ok states) (serialized : d.serialize = .ok line)
    (fine : (save f p (states.put key line)).fault = none) :
    store f p key d = ⟨(save f p (states.put key line)).files, none⟩ := by
  unfold store
  simp [loaded, serialized, fine]

theorem save_sorted (unique : states.Unique) : save f p states.sorted = save f p states := by
  unfold save
  rw [toText_congr (sorted_unique unique) unique (get?_sorted unique)]

theorem lastStored?_cons (stores : List (Text × Dialog)) (key k : Text) (d : Dialog) :
    lastStored? ((key, d) :: stores) k =
      (lastStored? stores k).or (if key = k then some d else none) := by
  unfold lastStored?
  by_cases same : key = k
  · rw [List.filter_cons_of_pos (by simpa using same), List.getLast?_cons, if_pos same]
    cases (stores.filter fun s => s.1 == k).getLast? <;> rfl
  · rw [List.filter_cons_of_neg (by simpa using same), if_neg same, Option.or_none]

/-- A store before others: where its key is stored again, its line leaves no trace. -/
theorem overridden_cons (serialized : d.serialize = .ok line)
    (put : ∀ k, states.get? k = if k = key then some line else before.get? k)
    (later : Overridden states stores after) : Overridden before ((key, d) :: stores) after := by
  intro k
  have last := later k
  rw [lastStored?_cons]
  cases stored : lastStored? stores k with
  | some d' =>
    rw [stored] at last
    exact last
  | none =>
    rw [stored] at last
    dsimp only at last
    rw [put] at last
    by_cases same : key = k
    · rw [if_pos same.symm] at last
      rw [if_pos same]
      exact ⟨line, serialized, last⟩
    · rw [if_neg (Ne.symm same)] at last
      rw [if_neg same]
      exact last

/-- The first store of a run that succeeds, and the run from the file that it has written. -/
theorem store_first (loaded : load f p = .ok before)
    (fine : (storeAll f p ((key, d) :: stores)).fault = none) :
    ∃ line, d.serialize = .ok line ∧ (save f p (before.put key line)).fault = none ∧
      storeAll f p ((key, d) :: stores) =
        storeAll (save f p (before.put key line)).files p stores := by
  have here : (store f p key d).fault = none := by
    cases fault : (store f p key d).fault with
    | none => rfl
    | some fault' => simp [storeAll, fault] at fine
  obtain ⟨line, serialized, saved, stored⟩ := saved_of_store loaded here
  exact ⟨line, serialized, saved, by simp [storeAll, stored]⟩

/-- A run of stores leaves what one save of the overridden states would have left. -/
theorem saved_of_storeAll (loaded : load f p = .ok before)
    (fine : (storeAll f p stores).fault = none) :
    ∃ after, load (storeAll f p stores).files p = .ok after ∧ Overridden before stores after ∧
      (stores ≠ [] → (save f p after).fault = none ∧
        storeAll f p stores = ⟨(save f p after).files, none⟩) := by
  induction stores generalizing f before with
  | nil => exact ⟨before, loaded, fun key => rfl, fun nonempty => absurd rfl nonempty⟩
  | cons first stores ih =>
    obtain ⟨key, d⟩ := first
    obtain ⟨line, serialized, saved, rest⟩ := store_first loaded fine
    have unique := put_unique (unique_of_load loaded) key line
    rw [rest] at fine ⊢
    obtain ⟨after, loaded', overridden, last⟩ := ih (load_save unique saved) fine
    refine ⟨after, loaded', overridden_cons serialized ?_ overridden, fun _ => ?_⟩
    · intro k
      rw [get?_sorted unique, get?_put]
    · -- the file of the last store replaces that of this one, if there is a later one
      by_cases more : stores = []
      · subst more
        cases loaded'.symm.trans (load_save unique saved)
        rw [save_sorted unique]
        exact ⟨saved, rfl⟩
      · obtain ⟨fine', files⟩ := last more
        have again : save (save f p (before.put key line)).files p after = save f p after :=
          Files.writeText_again saved _
        rw [again] at fine' files
        exact ⟨fine', files⟩

theorem put_whole (whole : states.Whole) (isKey : key.Whole) (isLine : line.Whole) :
    (states.put key line).Whole := by
  intro s member
  rcases Document.mem_putMember member with rfl | kept
  · exact ⟨isKey, isLine⟩
  · exact whole s kept

theorem whole_of_put (whole : (states.put key line).Whole) : key.Whole ∧ line.Whole :=
  whole (key, line) (Document.mem_putMember_self key line states)

/-- A run succeeds where each dialog can be serialized, no text is torn and the file can be
written. -/
theorem storeAll_fine (loaded : load f p = .ok before) (whole : before.Whole)
    (serialized : ∀ s ∈ stores, s.1.Whole ∧ ∃ line, s.2.serialize = .ok line ∧ line.Whole)
    (writable : (f.writeUnder p []).fault = none) : (storeAll f p stores).fault = none := by
  induction stores generalizing f before with
  | nil => rfl
  | cons first stores ih =>
    obtain ⟨key, d⟩ := first
    obtain ⟨⟨isKey, line, here, isLine⟩, later⟩ := List.forall_mem_cons.mp serialized
    have whole' := put_whole whole isKey isLine
    have saved := save_fine writable whole'
    have unique := put_unique (unique_of_load loaded) key line
    have rest : storeAll f p ((key, d) :: stores) =
        storeAll (save f p (before.put key line)).files p stores := by
      simp [storeAll, store_of_saved loaded here saved]
    rw [rest]
    refine ih (load_save unique saved) (sorted_whole_iff.mpr whole') later ?_
    obtain ⟨s, text, written⟩ := Files.exists_whole_of_writeText saved
    rw [save, text, Files.writeText, Files.writeUnder_again written]
    exact writable

theorem serialized_of_storeAll (loaded : load f p = .ok before)
    (fine : (storeAll f p stores).fault = none) :
    ∀ s ∈ stores, s.1.Whole ∧ ∃ line, s.2.serialize = .ok line ∧ line.Whole := by
  induction stores generalizing f before with
  | nil => simp
  | cons first stores ih =>
    obtain ⟨key, d⟩ := first
    obtain ⟨line, serialized, saved, rest⟩ := store_first loaded fine
    rw [rest] at fine
    have unique := put_unique (unique_of_load loaded) key line
    have whole := whole_of_put (whole_of_save saved)
    exact List.forall_mem_cons.mpr
      ⟨⟨whole.1, line, serialized, whole.2⟩, ih (load_save unique saved) fine⟩

theorem Reordered.symm (reordered : Reordered stores stores') : Reordered stores' stores :=
  fun key => (reordered key).symm

theorem Reordered.mem (reordered : Reordered stores stores') {s : Text × Dialog}
    (member : s ∈ stores') : s ∈ stores := by
  have kept : s ∈ stores'.filter fun t => t.1 == s.1 := List.mem_filter.mpr ⟨member, by simp⟩
  rw [← reordered] at kept
  exact (List.mem_filter.mp kept).1

theorem Reordered.eq_nil (reordered : Reordered [] stores) : stores = [] :=
  List.eq_nil_iff_forall_not_mem.mpr fun _ member => List.not_mem_nil (reordered.mem member)

theorem Reordered.overridden (reordered : Reordered stores stores')
    (overridden : Overridden before stores' after) : Overridden before stores after := by
  intro key
  have last := overridden key
  rw [lastStored?, ← reordered] at last
  exact last

theorem Overridden.same (first : Overridden before stores after)
    (second : Overridden before stores states) (key : Text) :
    after.get? key = states.get? key := by
  have here := first key
  have there := second key
  cases last : lastStored? stores key with
  | none =>
    rw [last] at here there
    exact here.trans there.symm
  | some d =>
    rw [last] at here there
    obtain ⟨line, serialized, held⟩ := here
    obtain ⟨line', serialized', held'⟩ := there
    cases serialized.symm.trans serialized'
    exact held.trans held'.symm

/-- Stores under different keys can change places. -/
theorem storeAll_reordered (loaded : load f p = .ok before) (whole : before.Whole)
    (fine : (storeAll f p stores).fault = none) (reordered : Reordered stores stores') :
    storeAll f p stores' = storeAll f p stores := by
  by_cases empty : stores = []
  · subst empty
    rw [reordered.eq_nil]
  · obtain ⟨after, loaded', overridden, last⟩ := saved_of_storeAll loaded fine
    obtain ⟨saved, files⟩ := last empty
    have writable : (f.writeUnder p []).fault = none := by
      obtain ⟨s, _, written⟩ := Files.exists_whole_of_writeText saved
      exact Files.writeUnder_any written []
    have fine' : (storeAll f p stores').fault = none :=
      storeAll_fine loaded whole
        (fun s member => serialized_of_storeAll loaded fine s (reordered.mem member)) writable
    have nonempty' : stores' ≠ [] := by
      rintro rfl
      exact empty reordered.symm.eq_nil
    obtain ⟨after', loaded'', overridden', last'⟩ := saved_of_storeAll loaded fine'
    obtain ⟨_, files'⟩ := last' nonempty'
    have text : after'.toText = after.toText :=
      toText_congr (unique_of_load loaded'') (unique_of_load loaded')
        (Overridden.same (reordered.overridden overridden') overridden)
    rw [files, files', save, save, text]

/-- What is restored is what is deserialized from the line under the key. -/
theorem restore_of_load (loaded : load f p = .ok states) (key : Text) (d : Dialog) :
    restore f p key d =
      match states.get? key with
      | none => ⟨d, .ok false⟩
      | some line => ⟨(d.deserialize line).1,
          match (d.deserialize line).2 with
          | none => .ok true
          | some fault => .error (.control fault)⟩ := by
  unfold restore
  rw [loaded]
  dsimp only
  cases states.get? key with
  | none => rfl
  | some line =>
    dsimp only
    cases d.deserialize line with
    | mk d fault => cases fault <;> rfl

/-- What a file holds after a run of stores, as far as anyone can tell. -/
structure Holds (f : Files) (p : Path) (before : States) (stores : List (Text × Dialog))
    (after : States) : Prop where
  load : load (storeAll f p stores).files p = .ok after
  unique : after.Unique
  overridden : Overridden before stores after
  restore : ∀ key d, restore (storeAll f p stores).files p key d =
    match after.get? key with
    | none => ⟨d, .ok false⟩
    | some line => ⟨(d.deserialize line).1,
        match (d.deserialize line).2 with
        | none => .ok true
        | some fault => .error (.control fault)⟩
  bytes : stores ≠ [] → ∀ states : States, states.Unique →
    (∀ key, states.get? key = after.get? key) →
    ∃ text : String, states.toText = text ∧
      (storeAll f p stores).files.read p = .ok (Utf8.encode text.toList)
  reordered : before.Whole → ∀ stores', Reordered stores stores' →
    storeAll f p stores' = storeAll f p stores

/-- For every file, whether it is absent, broken or holds states, and every run of stores that
succeeds: the file then holds, as a map, what it held before overridden by the last line under each
stored key; a dialog is restored from its line in this map, and left alone if there is none; and the
bytes of the file are those of the map, in whatever order different keys were stored, unless a torn
text that the file held before stands in the way of another order. -/
theorem storeAll_holds (loaded : load f p = .ok before)
    (fine : (storeAll f p stores).fault = none) :
    (∀ fault, f.readText p = .error fault → before = []) ∧
      (∀ text, f.readText p = .ok text → ofChars? text = .ok none → before = []) ∧
      ∃ after, Holds f p before stores after := by
  refine ⟨fun fault absent => load_absent absent loaded, fun text opened broken => ?_, ?_⟩
  · cases (load_broken opened broken).symm.trans loaded
    rfl
  · obtain ⟨after, loaded', overridden, last⟩ := saved_of_storeAll loaded fine
    refine ⟨after, loaded', unique_of_load loaded', overridden, restore_of_load loaded', ?_, ?_⟩
    · intro nonempty states unique same
      obtain ⟨saved, files⟩ := last nonempty
      obtain ⟨text, whole, written⟩ := Files.exists_whole_of_writeText saved
      rw [toText_congr unique (unique_of_load loaded') same]
      refine ⟨text, whole, ?_⟩
      rw [files, save, whole]
      exact Files.read_writeUnder written
    · exact fun whole stores' reordered => storeAll_reordered loaded whole fine reordered

/-- A path in a directory that is not there at first. -/
def notesPath : Path := ⟨1, ["state", "notes.json"]⟩

/-- One line. -/
def noted : States := [("x", "old")]

def notes : Files := (save ⟨[], []⟩ notesPath noted).files

/-- A dialog of one edit. -/
def note (s : String) : Dialog where
  controls := [Control.first "a" (.edit false (.text s))]
  buttons := Button.defaults
  usesButtons := false
  pressed := none

/-- One key is stored twice, another one in between. -/
def noteStores : List (Text × Dialog) := [("y", note "1"), ("x", note "2"), ("y", note "3")]

theorem storeAll_holds_notes :
    load notes notesPath = .ok noted ∧ (storeAll notes notesPath noteStores).fault = none ∧
      ∃ after, Holds notes notesPath noted noteStores after ∧
        after.get? "x" = some (.whole "a:2") ∧ after.get? "y" = some (.whole "a:3") := by
  have unique : noted.Unique := List.nodup_singleton _
  have whole : noted.Whole := by
    intro s member
    cases List.mem_singleton.mp member
    exact ⟨⟨_, rfl⟩, _, rfl⟩
  have empty : ((⟨[], []⟩ : Files).writeUnder notesPath []).fault = none := by decide +kernel
  have saved := save_fine empty whole
  have loaded : load notes notesPath = .ok noted := by
    have one : noted.sorted = noted := List.mergeSort_singleton _
    rw [← one]
    exact load_save unique saved
  have serialized : ∀ s ∈ noteStores, s.1.Whole ∧ ∃ line, s.2.serialize = .ok line ∧
      line.Whole := by
    intro s member
    simp only [noteStores, List.mem_cons, List.not_mem_nil, or_false] at member
    rcases member with rfl | rfl | rfl
    · exact ⟨⟨_, rfl⟩, _, rfl, ⟨_, rfl⟩⟩
    · exact ⟨⟨_, rfl⟩, _, rfl, ⟨_, rfl⟩⟩
    · exact ⟨⟨_, rfl⟩, _, rfl, ⟨_, rfl⟩⟩
  have writable : (notes.writeUnder notesPath []).fault = none := by
    obtain ⟨s, text, written⟩ := Files.exists_whole_of_writeText saved
    rw [notes, save, text, Files.writeText, Files.writeUnder_again written]
    exact empty
  have fine := storeAll_fine loaded whole serialized writable
  obtain ⟨_, _, after, holds⟩ := storeAll_holds loaded fine
  refine ⟨loaded, fine, after, holds, ?_, ?_⟩
  · obtain ⟨line, written, held⟩ := holds.overridden "x"
    have spelt : (note "2").serialize = .ok (.whole "a:2") := rfl
    cases spelt.symm.trans written
    exact held
  · obtain ⟨line, written, held⟩ := holds.overridden "y"
    have spelt : (note "3").serialize = .ok (.whole "a:3") := rfl
    cases spelt.symm.trans written
    exact held

end ScriptDialog.States
