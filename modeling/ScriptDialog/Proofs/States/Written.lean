import ScriptDialog.Proofs.Document.Written
import ScriptDialog.States.Basic

/-! The text of a file of states, and the states that are read from it. States with a torn text have
a torn text, which is never written; all others are read back. -/
namespace ScriptDialog.States

open Document

/-- Each key stands once. -/
def Unique (states : States) : Prop := (states.map Prod.fst).Nodup

/-- No key and no line is torn. -/
def Whole (states : States) : Prop := ∀ s ∈ states, s.1.Whole ∧ s.2.Whole

variable {states : States} {members : List (String × String)}

theorem exists_members (whole : states.Whole) : ∃ members, states = wholeMembers members := by
  induction states with
  | nil => exact ⟨[], rfl⟩
  | cons first states ih =>
    obtain ⟨⟨⟨key, isKey⟩, line, isLine⟩, later⟩ := List.forall_mem_cons.mp whole
    obtain ⟨members, rfl⟩ := ih later
    exact ⟨(key, line) :: members, congrArg (· :: _) (Prod.ext isKey isLine)⟩

theorem sorted_unique (unique : states.Unique) : states.sorted.Unique :=
  ((List.mergeSort_perm _ _).map Prod.fst).nodup_iff.mpr unique

theorem sorted_whole_iff : states.sorted.Whole ↔ states.Whole :=
  forall_congr' fun _ => imp_congr_left List.mem_mergeSort

/-- The text is whole just when all keys and lines are. -/
theorem toText_whole_iff : states.toText.Whole ↔ states.Whole := by
  rw [toText, Text.whole_append_iff, Text.whole_append_iff, whole_writeTexts]
  refine ⟨fun whole => sorted_whole_iff.mp whole.1.2, fun whole => ⟨⟨⟨_, rfl⟩, ?_⟩, ⟨_, rfl⟩⟩⟩
  exact sorted_whole_iff.mpr whole

/-- The characters of the text, an object of two members, with the states of the second one. -/
def fileChars (members : List (String × String)) : List Char :=
  '\x7b' :: (quoteChars "version".toList ++ ':' :: ' ' :: ('1' :: ',' :: ' ' ::
    (quoteChars "dialogs".toList ++ ':' :: ' ' :: (objectChars members ++ ['\x7d', '\n']))))

theorem toText_eq (written : states.sorted = wholeMembers members) :
    states.toText = .whole (String.ofList (fileChars members)) := by
  have start : ("\x7b\"version\": " ++ toString version ++ ", \"dialogs\": ").toList =
      '\x7b' :: (quoteChars "version".toList ++ ':' :: ' ' :: '1' :: ',' :: ' ' ::
        (quoteChars "dialogs".toList ++ [':', ' '])) := by
    decide +kernel
  rw [toText, written, writeTexts_whole, Text.ofGlyphs_map_char, Text.whole_append,
    Text.whole_append]
  refine congrArg Text.whole (String.toList_inj.mp ?_)
  rw [String.toList_append, String.toList_append, start, fileChars]
  simp only [String.toList_ofList, List.cons_append, List.append_assoc, List.nil_append]
  rfl

theorem readValue_version {fuel : Nat} {rest : List Char} :
    readValue (fuel + 1) ('1' :: ',' :: rest) = .ok (.number ['1'], ',' :: rest) := rfl

theorem document_fileChars (unique : Unique (wholeMembers members)) :
    Document.ofChars (fileChars members) =
      .ok (.object [("version", .number ['1']), ("dialogs", .object (quotedMembers members))]) := by
  have long := length_objectChars members
  have length : (fileChars members).length = _ := congrArg List.length (fileChars.eq_1 members)
  simp only [List.length_cons, List.length_append] at length
  obtain ⟨fuel, fits⟩ : ∃ k, 2 * (fileChars members).length = k + 3 :=
    ⟨2 * (fileChars members).length - 3, by omega⟩
  have dialogs : readValue (fuel + 1) (objectChars members ++ ['\x7d', '\n']) =
      .ok (.object (quotedMembers members), ['\x7d', '\n']) :=
    readValue_texts (by omega) unique
  have both : readMembers (fuel + 3) (quoteChars "version".toList ++ ':' :: ' ' ::
      ('1' :: ',' :: ' ' :: (quoteChars "dialogs".toList ++ ':' :: ' ' ::
        (objectChars members ++ ['\x7d', '\n'])))) [] =
      .ok ([("version", .number ['1']), ("dialogs", .object (quotedMembers members))],
        ['\n']) := by
    have dense : skipSpace (objectChars members ++ ['\x7d', '\n']) =
        objectChars members ++ ['\x7d', '\n'] := by
      rw [objectChars_append]
      rfl
    rw [readMembers_next rfl readValue_version (skipSpace_text _ _), readMembers_last dense dialogs]
    rfl
  have dense : skipSpace (fileChars members) = fileChars members := rfl
  rw [quoteChars_append] at both
  rw [Document.ofChars, dense, fits, fileChars, quoteChars_append, readValue_object both]
  rfl

theorem ofDocument_quoted (members : List (String × String)) :
    ofDocument (.object [("version", .number ['1']),
      ("dialogs", .object (quotedMembers members))]) =
      wholeMembers members := by
  change (quotedMembers members).filterMap _ = _
  rw [quotedMembers, List.filterMap_map]
  exact congrFun List.filterMap_eq_map' members

theorem return_fileChars (members : List (String × String)) : '\r' ∉ fileChars members := by
  simp [fileChars, return_quoteChars, return_objectChars]

/-- Whole states have a text without carriage returns, and are read back from it in the order of
their keys. -/
theorem exists_chars (unique : states.Unique) (whole : states.Whole) :
    ∃ text : List Char, states.toText = String.ofList text ∧ '\r' ∉ text ∧
      ofChars? text = .ok (some states.sorted) := by
  obtain ⟨members, written⟩ := exists_members (sorted_whole_iff.mpr whole)
  refine ⟨fileChars members, toText_eq written, return_fileChars members, ?_⟩
  have unique' : Unique (wholeMembers members) := written ▸ sorted_unique unique
  rw [ofChars?, document_fileChars unique', written]
  exact congrArg (fun states => Except.ok (some states)) (ofDocument_quoted members)

end ScriptDialog.States
