import ScriptDialog.Proofs.Document.Overlong
import ScriptDialog.Proofs.States.Saved
import ScriptDialog.Proofs.Text.Decoded

/-! Loading from a file with any bytes. It succeeds, and the next store writes a sound file, unless
the bytes are no text or the text comes to an integer of too many digits; such a file is never
written again. -/
namespace ScriptDialog

namespace Document

/-- The bytes are a text, and reading it never comes to an integer of too many digits. -/
def Legible (bytes : List UInt8) : Prop :=
  ∃ text, Utf8.encode text = bytes ∧ ∀ count, ¬ ReachesOverlong (Files.oneLineEnd text) count

/-- The bytes spell a document whose member `dialogs` is an object with this text under the key. -/
def Spells (bytes : List UInt8) (key line : Text) : Prop :=
  ∃ text document dialogs, Utf8.encode text = bytes ∧
    ofChars (Files.oneLineEnd text) = .ok document ∧
    document.member? "dialogs" = some (.object dialogs) ∧ (key, .quoted line) ∈ dialogs

end Document

namespace Files

variable {f : Files} {p : Path} {bytes : List UInt8} {text : List Char}

theorem readText_of_encode (read : f.read p = .ok bytes) (encoded : Utf8.encode text = bytes) :
    f.readText p = .ok (oneLineEnd text) := by
  rw [readText, read]
  simp [bind, Except.bind, Utf8.decode?_eq_ok_iff.mpr encoded, pure, Except.pure]

theorem readText_of_undecodable {part : Utf8.Undecodable} (read : f.read p = .ok bytes)
    (undecodable : Utf8.decode? bytes = .error part) :
    f.readText p = .error (.undecodable part) := by
  rw [readText, read]
  simp [bind, Except.bind, undecodable, throw, throwThe, MonadExceptOf.throw]

end Files

namespace States

open Document (Legible Spells ReachesOverlong)

variable {f : Files} {p : Path} {bytes : List UInt8} {text : List Char} {states : States}
  {fault : StatesFault}

/-- What becomes of a text: its states, none where it is malformed, or the number that is
refused. -/
theorem load_of_text (opened : f.readText p = .ok text) :
    load f p = match Document.ofChars text with
      | .ok document => .ok (ofDocument document)
      | .error .malformed => .ok []
      | .error (.number fault) => .error (.number fault) := by
  unfold load contents ofChars?
  rw [opened]
  dsimp only
  rcases Document.ofChars text with (_ | fault) | document <;> rfl

theorem load_undecodable {part : Utf8.Undecodable} (read : f.read p = .ok bytes)
    (undecodable : Utf8.decode? bytes = .error part) :
    load f p = .error (.file (.undecodable part)) := by
  unfold load contents
  rw [Files.readText_of_undecodable read undecodable]
  rfl

theorem mem_ofDocument {document : Document} {key line : Text} :
    (key, line) ∈ ofDocument document ↔
      ∃ dialogs, document.member? "dialogs" = some (.object dialogs) ∧
        (key, .quoted line) ∈ dialogs := by
  unfold ofDocument
  split
  · next dialogs found =>
    rw [List.mem_filterMap]
    constructor
    · rintro ⟨⟨key', value⟩, member, image⟩
      cases value with
      | quoted s =>
        cases image
        exact ⟨dialogs, found, member⟩
      | _ => cases image
    · rintro ⟨dialogs', found', member⟩
      cases found.symm.trans found'
      exact ⟨_, member, rfl⟩
  · next other =>
    constructor
    · intro member
      cases member
    · rintro ⟨dialogs, found, _⟩
      exact absurd found (other dialogs)

/-- A fault of loading is one of two: a part that is no text, or an integer of too many digits. -/
theorem load_error_iff (read : f.read p = .ok bytes) : load f p = .error fault ↔
    (∃ part, Utf8.decode? bytes = .error part ∧ fault = .file (.undecodable part)) ∨
      ∃ text count, Utf8.encode text = bytes ∧ ReachesOverlong (Files.oneLineEnd text) count ∧
        fault = .number (.tooManyDigits count) := by
  cases decoded : Utf8.decode? bytes with
  | error part =>
    rw [load_undecodable read decoded]
    constructor
    · rintro ⟨rfl⟩
      exact .inl ⟨part, rfl, rfl⟩
    · rintro (⟨part', same, rfl⟩ | ⟨text, _, encoded, _⟩)
      · cases same
        rfl
      · cases decoded.symm.trans (Utf8.decode?_eq_ok_iff.mpr encoded)
  | ok text =>
    have encoded := Utf8.decode?_eq_ok_iff.mp decoded
    rw [load_of_text (Files.readText_of_encode read encoded)]
    constructor
    · intro failed
      split at failed
      · cases failed
      · cases failed
      · next refused =>
        cases failed
        obtain ⟨count, reached, rfl⟩ := Document.ofChars_number_iff.mp refused
        exact .inr ⟨text, count, encoded, reached, rfl⟩
    · rintro (⟨part, same, _⟩ | ⟨text', count, encoded', reached, rfl⟩)
      · cases same
      · cases decoded.symm.trans (Utf8.decode?_eq_ok_iff.mpr encoded')
        rw [Document.ofChars_number_iff.mpr ⟨count, reached, rfl⟩]

theorem load_ok_iff (read : f.read p = .ok bytes) :
    (∃ states, load f p = .ok states) ↔ Legible bytes := by
  constructor
  · rintro ⟨states, loaded⟩
    cases decoded : Utf8.decode? bytes with
    | error part => cases loaded.symm.trans (load_undecodable read decoded)
    | ok text =>
      have encoded := Utf8.decode?_eq_ok_iff.mp decoded
      refine ⟨text, encoded, fun count reached => ?_⟩
      have failed := (load_error_iff read).mpr (.inr ⟨text, count, encoded, reached, rfl⟩)
      cases loaded.symm.trans failed
  · rintro ⟨text, encoded, legible⟩
    cases loaded : load f p with
    | ok states => exact ⟨states, rfl⟩
    | error fault =>
      rcases (load_error_iff read).mp loaded with ⟨part, undecodable, _⟩ |
        ⟨text', count, encoded', reached, _⟩
      · cases undecodable.symm.trans (Utf8.decode?_eq_ok_iff.mpr encoded)
      · have same := (Utf8.decode?_eq_ok_iff.mpr encoded').symm.trans
          (Utf8.decode?_eq_ok_iff.mpr encoded)
        cases same
        exact absurd reached (legible count)

/-- What is loaded is what the bytes spell: the texts, and nothing that is of another shape. -/
theorem mem_of_load (read : f.read p = .ok bytes) (loaded : load f p = .ok states)
    {key line : Text} : (key, line) ∈ states ↔ Spells bytes key line := by
  obtain ⟨text, encoded, legible⟩ := (load_ok_iff read).mp ⟨states, loaded⟩
  have decoded := Utf8.decode?_eq_ok_iff.mpr encoded
  rw [load_of_text (Files.readText_of_encode read encoded)] at loaded
  have one {document : Document}
      (spelled : Document.ofChars (Files.oneLineEnd text) = .ok document) :
      Spells bytes key line ↔ (key, line) ∈ ofDocument document := by
    rw [mem_ofDocument]
    constructor
    · rintro ⟨text', document', dialogs, encoded', spelled', found, member⟩
      cases decoded.symm.trans (Utf8.decode?_eq_ok_iff.mpr encoded')
      cases spelled.symm.trans spelled'
      exact ⟨dialogs, found, member⟩
    · rintro ⟨dialogs, found, member⟩
      exact ⟨text, document, dialogs, encoded, spelled, found, member⟩
  split at loaded
  · next spelled =>
    cases loaded
    exact (one spelled).symm
  · next broken =>
    cases loaded
    constructor
    · intro member
      cases member
    · rintro ⟨text', document, dialogs, encoded', spelled, _⟩
      cases decoded.symm.trans (Utf8.decode?_eq_ok_iff.mpr encoded')
      cases broken.symm.trans spelled
  · cases loaded

/-- A file from which states were loaded: they are what it spells, and a store makes it sound. Where
a torn text is left among them, the store fails and leaves a file without states, and the next one
makes it sound. -/
structure Healed (f : Files) (p : Path) (bytes : List UInt8) (states : States) : Prop where
  unique : states.Unique
  lines : ∀ key line, states.get? key = some line ↔ Spells bytes key line
  sound : f.Writable p → ∀ key (d : Dialog) line, d.serialize = .ok line →
    (states.put key line).Whole → (store f p key d).fault = none ∧
      load (store f p key d).files p = .ok (states.put key line).sorted
  torn : f.Writable p → ∀ key (d : Dialog) line, d.serialize = .ok line →
    ¬ (states.put key line).Whole →
      (∃ t, (store f p key d).fault = some (.file (.torn t))) ∧
      load (store f p key d).files p = .ok [] ∧ (store f p key d).files.Writable p

/-- A torn text is not written, but the file is emptied for it. -/
theorem store_torn {key line : Text} {d : Dialog} (loaded : load f p = .ok states)
    (serialized : d.serialize = .ok line) (writable : f.Writable p)
    (torn : ¬ (states.put key line).Whole) :
    ∃ t, store f p key d = ⟨(f.writeUnder p []).files, some (.file (.torn t))⟩ := by
  obtain ⟨t, written⟩ := Text.not_whole_iff.mp (mt toText_whole_iff.mp torn)
  have fine : (f.writeUnder p []).fault = none := writable
  have saved : save f p (states.put key line) =
      ⟨(f.writeUnder p []).files, some (.torn t)⟩ := by
    simp only [save, written, Files.writeText, fine, Option.none_or]
  refine ⟨t, ?_⟩
  unfold store
  simp [loaded, serialized, saved]

/-- An emptied file holds no states. -/
theorem load_emptied (writable : f.Writable p) : load (f.writeUnder p []).files p = .ok [] := by
  have opened : (f.writeUnder p (Utf8.encode [])).files.readText p = .ok [] :=
    Files.readText_writeUnder writable List.not_mem_nil
  exact load_broken opened rfl

theorem healed_of_load (read : f.read p = .ok bytes) (loaded : load f p = .ok states) :
    Healed f p bytes states := by
  have unique := unique_of_load loaded
  refine ⟨unique, fun key line => ?_, fun writable key d line serialized whole => ?_,
    fun writable key d line serialized torn => ?_⟩
  · rw [get?_eq_some_iff unique]
    exact mem_of_load read loaded
  · have fine := save_fine writable whole
    rw [store_of_saved loaded serialized fine]
    exact ⟨rfl, load_save (put_unique unique key line) fine⟩
  · obtain ⟨t, stored⟩ := store_torn loaded serialized writable torn
    rw [stored]
    refine ⟨⟨t, rfl⟩, load_emptied writable, ?_⟩
    rw [Files.Writable, Files.writeUnder_again writable]
    exact writable

/-- The files after dialogs were stored under their keys, whether or not the stores before had
succeeded. -/
def attempts (f : Files) (p : Path) (stores : List (Text × Dialog)) : Files :=
  stores.foldl (fun f s => (store f p s.1 s.2).files) f

/-- A file from which nothing can be loaded: no store gets past it, however often it is tried. -/
structure Stuck (f : Files) (p : Path) (fault : StatesFault) : Prop where
  store : ∀ key d, store f p key d = ⟨f, some fault⟩
  attempts : ∀ stores, attempts f p stores = f

theorem store_of_fault (failed : load f p = .error fault) (key : Text) (d : Dialog) :
    store f p key d = ⟨f, some fault⟩ := by
  unfold store
  rw [failed]

theorem stuck_of_fault (failed : load f p = .error fault) : Stuck f p fault := by
  refine ⟨store_of_fault failed, fun stores => ?_⟩
  induction stores with
  | nil => rfl
  | cons first stores ih =>
    rw [attempts, List.foldl_cons, store_of_fault failed]
    exact ih

/-- A file in the working directory. -/
def single (bytes : List UInt8) : Files := ⟨[], [(["notes.json"], .file bytes)]⟩

def singlePath : Path := ⟨0, ["notes.json"]⟩

theorem read_single (bytes : List UInt8) : (single bytes).read singlePath = .ok bytes := by
  have place : (single bytes).locate singlePath = .ok ["notes.json"] := rfl
  rw [Files.read, place]
  rfl

/-- Not every line is a text. -/
def misshapen : List Char := "\x7b\"dialogs\": \x7b\"k\": 1, \"l\": \"x\"\x7d\x7d".toList

/-- Digits alone are reached at once. -/
theorem reaches_digits {count : Nat} (long : digitLimit < count) :
    ReachesOverlong (List.replicate count '1') count := by
  obtain ⟨more, rfl⟩ : ∃ more, count = more + 1 := ⟨count - 1, by omega⟩
  have dense : Document.skipSpace (List.replicate (more + 1) '1') =
      [] ++ List.replicate (more + 1) '1' ++ [] := by
    rw [List.replicate_succ, List.nil_append, List.append_nil]
    rfl
  have digits : ∀ c ∈ List.replicate (more + 1) '1', Document.isAsciiDigit c := by
    intro c member
    rw [List.eq_of_mem_replicate member]
    rfl
  refine ⟨[], List.replicate (more + 1) '1', [], dense ▸ .start,
    ⟨.inl rfl, digits, ?_, by simp, rfl, rfl, ?_⟩, List.length_replicate⟩
  · rw [List.replicate_succ]
    simp
  · rw [List.length_replicate]
    exact long

theorem load_digits {count : Nat} (long : digitLimit < count) :
    load (single (Utf8.encode (List.replicate count '1'))) singlePath =
      .error (.number (.tooManyDigits count)) := by
  have plain : '\r' ∉ List.replicate count '1' := by simp
  have reached := reaches_digits long
  rw [← Files.oneLineEnd_of_plain plain] at reached
  exact (load_error_iff (read_single _)).mpr (.inr ⟨_, _, rfl, reached, rfl⟩)

end States

end ScriptDialog
