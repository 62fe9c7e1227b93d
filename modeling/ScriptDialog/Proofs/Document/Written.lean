import ScriptDialog.Document.Reader
import ScriptDialog.Document.Writer
import ScriptDialog.Proofs.Text.Glyphs
import ScriptDialog.Proofs.Text.Pieces

/-! Reading what was written: a whole text comes back from between its quotes, whatever it holds,
and an object of such texts comes back with its members in order. -/
namespace ScriptDialog.Document

variable {fuel : Nat} {c : Char} {key : String} {text rest after : List Char} {glyphs : List Glyph}
  {acc : List (Text × Document)}

/-- The characters of a whole text between its quotes. -/
def quoteChars (text : List Char) : List Char := '"' :: text.flatMap escapeChar ++ ['"']

theorem writeText_whole (s : String) : writeText s = (quoteChars s.toList).map .char := by
  have escaped : (s.toList.map Glyph.char).flatMap escapeGlyph =
      (s.toList.flatMap escapeChar).map .char := by
    rw [List.flatMap_map, List.map_flatMap]
    rfl
  rw [writeText, Text.glyphs_whole, escaped, quoteChars, List.map_append, List.map_cons]
  rfl

/-- A member with a whole text. -/
def memberChars (m : String × String) : List Char :=
  quoteChars m.1.toList ++ ':' :: ' ' :: quoteChars m.2.toList

def joinChars (parts : List (List Char)) : List Char := Pieces.join [',', ' '] parts

/-- The characters of an object of whole texts. -/
def objectChars (members : List (String × String)) : List Char :=
  '\x7b' :: joinChars (members.map memberChars) ++ ['\x7d']

/-- Whole texts as members. -/
def wholeMembers (members : List (String × String)) : List (Text × Text) :=
  members.map fun m => (.whole m.1, .whole m.2)

theorem writeTexts_whole (members : List (String × String)) :
    writeTexts (wholeMembers members) = (objectChars members).map .char := by
  have joined := Pieces.join_map Glyph.char [',', ' '] (members.map memberChars)
  rw [objectChars, List.map_append, List.map_cons, joinChars, ← joined]
  simp only [writeTexts, wholeMembers, List.map_map, Function.comp_def, writeText_whole,
    memberChars, List.map_append, List.map_cons]
  rfl

theorem lone_writeText {s : Surrogate} {t : Text} :
    .lone s ∈ writeText t ↔ .lone s ∈ t.glyphs := by
  have escaped (g : Glyph) : .lone s ∈ escapeGlyph g ↔ .lone s = g := by
    cases g <;> simp [escapeGlyph]
  simp [writeText, quote, escaped]

/-- An object is written as a whole text just when all of its texts are whole. -/
theorem whole_writeTexts {members : List (Text × Text)} :
    (Text.ofGlyphs (writeTexts members)).Whole ↔ ∀ m ∈ members, m.1.Whole ∧ m.2.Whole := by
  rw [Text.whole_ofGlyphs]
  simp only [Text.whole_iff]
  constructor
  · intro none m place
    have part {s : Surrogate} (inside : .lone s ∈ writeText m.1 ∨ .lone s ∈ writeText m.2) :
        .lone s ∈ writeTexts members := by
      refine List.mem_append_left _ (List.mem_cons_of_mem _ ?_)
      refine Pieces.mem_join_of_mem (List.mem_map_of_mem place) ?_
      simpa using inside
    exact ⟨fun s inside => none s (part (.inl (lone_writeText.mpr inside))),
      fun s inside => none s (part (.inr (lone_writeText.mpr inside)))⟩
  · intro whole s inside
    rcases List.mem_append.mp inside with inside | brace
    · rcases List.mem_cons.mp inside with ⟨⟨⟩⟩ | inside
      rcases Pieces.mem_join inside with mark | ⟨part, place, inside⟩
      · simp at mark
      · obtain ⟨m, listed, rfl⟩ := List.mem_map.mp place
        obtain ⟨key, value⟩ := whole m listed
        simp only [List.mem_append, List.mem_cons, reduceCtorEq, false_or, lone_writeText] at inside
        exact inside.elim (key s) (value s)
    · simp at brace

/-- Four digits say which control character it is. -/
theorem padded_control {n : Nat} (control : n < 0x20) :
    ∃ a b c d, Hex.padded 4 n = [a, b, c, d] ∧ [a, b, c, d].all Hex.isDigit ∧
      Hex.toNat [a, b, c, d] = n := by
  have four : ∀ n < 0x20, (Hex.padded 4 n).length = 4 ∧ (Hex.padded 4 n).all Hex.isDigit ∧
      Hex.toNat (Hex.padded 4 n) = n := by
    decide +kernel
  obtain ⟨length, digits, value⟩ := four n control
  generalize Hex.padded 4 n = written at *
  match written, length with
  | [a, b, c, d], _ => exact ⟨a, b, c, d, rfl, digits, value⟩

theorem codeEscape?_padded (control : c.toNat < 0x20) (rest : List Char) :
    codeEscape? (Hex.padded 4 c.toNat ++ rest) = some (.char c, rest) := by
  obtain ⟨x, y, z, w, written, digits, value⟩ := padded_control control
  have high : ¬ (0xD800 ≤ c.toNat ∧ c.toNat ≤ 0xDBFF) := by omega
  have paired : ¬ (0xD800 ≤ c.toNat ∧ c.toNat < 0xE000) := by omega
  rw [written, codeEscape?]
  simp only [List.cons_append, List.nil_append, unit?, digits, value, if_true, high, if_false,
    glyphOf, paired, dite_false, Char.ofNat_toNat]

/-- A character is written as it is, or as a backslash and a code that stands for it. -/
theorem escapeChar_cases (c : Char) :
    (escapeChar c = [c] ∧ c ≠ '"' ∧ c ≠ '\\' ∧ ¬ c.toNat < 0x20) ∨
      ∃ code, escapeChar c = '\\' :: code ∧
        ∀ rest, escape? (code ++ rest) = some (.char c, rest) := by
  unfold escapeChar
  split
  · next same => subst same; exact .inr ⟨_, rfl, fun _ => rfl⟩
  split
  · next same => subst same; exact .inr ⟨_, rfl, fun _ => rfl⟩
  split
  · next same => subst same; exact .inr ⟨_, rfl, fun _ => rfl⟩
  split
  · next same => subst same; exact .inr ⟨_, rfl, fun _ => rfl⟩
  split
  · next same => subst same; exact .inr ⟨_, rfl, fun _ => rfl⟩
  split
  · next same => subst same; exact .inr ⟨_, rfl, fun _ => rfl⟩
  split
  · next same => subst same; exact .inr ⟨_, rfl, fun _ => rfl⟩
  split
  · next control => exact .inr ⟨_, rfl, fun rest => codeEscape?_padded control rest⟩
  · next quote backslash _ _ _ _ _ visible => exact .inl ⟨rfl, quote, backslash, visible⟩

theorem readText_escapeChar (read : readText fuel rest = .ok (glyphs, after)) :
    readText (fuel + 1) (escapeChar c ++ rest) = .ok (.char c :: glyphs, after) := by
  rcases escapeChar_cases c with ⟨plain, quote, backslash, visible⟩ | ⟨code, escaped, known⟩
  · simp [plain, readText, quote, backslash, visible, read]
  · simp [escaped, readText, known, read]

/-- A text is read up to its closing quote. -/
theorem readText_written (enough : text.length < fuel) :
    readText fuel (text.flatMap escapeChar ++ '"' :: rest) = .ok (text.map .char, rest) := by
  induction text generalizing fuel with
  | nil =>
    cases fuel with
    | zero => cases enough
    | succ fuel => simp [readText]
  | cons c text ih =>
    cases fuel with
    | zero => cases enough
    | succ fuel =>
      rw [List.flatMap_cons, List.append_assoc]
      exact readText_escapeChar (ih (Nat.lt_of_succ_lt_succ enough))

theorem length_written (text : List Char) : text.length ≤ (text.flatMap escapeChar).length := by
  induction text with
  | nil => simp
  | cons c text ih =>
    rw [List.flatMap_cons, List.length_append, List.length_cons]
    have one : 1 ≤ (escapeChar c).length := by
      rcases escapeChar_cases c with ⟨plain, _⟩ | ⟨code, escaped, _⟩
      · simp [plain]
      · simp [escaped]
    omega

theorem quoteChars_append (text rest : List Char) :
    quoteChars text ++ rest = '"' :: (text.flatMap escapeChar ++ '"' :: rest) := by
  simp [quoteChars]

/-- The fuel of a text is the length of all that follows, which is enough. -/
theorem readText_rest (text rest : List Char) :
    readText ((text.flatMap escapeChar ++ '"' :: rest).length + 1)
      (text.flatMap escapeChar ++ '"' :: rest) = .ok (text.map .char, rest) := by
  apply readText_written
  have long := length_written text
  rw [List.length_append]
  omega

theorem readValue_text (value : String) (rest : List Char) :
    readValue (fuel + 1) (quoteChars value.toList ++ rest) = .ok (.quoted value, rest) := by
  rw [quoteChars_append, readValue]
  simp only [readText_rest, Text.ofGlyphs_map_char, String.ofList_toList]

theorem skipSpace_text (text rest : List Char) :
    skipSpace (quoteChars text ++ rest) = quoteChars text ++ rest := by
  simp [quoteChars_append, skipSpace, isSpace]

/-- The last member is read: its key, and the value after the colon and the space. -/
theorem readMembers_last {value : Document} (dense : skipSpace text = text)
    (read : readValue fuel text = .ok (value, '\x7d' :: rest)) :
    readMembers (fuel + 1) (quoteChars key.toList ++ ':' :: ' ' :: text) acc =
      .ok (putMember key value acc, rest) := by
  have colon : skipSpace (':' :: ' ' :: text) = ':' :: ' ' :: text := rfl
  have space : skipSpace (' ' :: text) = text := dense
  have brace : skipSpace ('\x7d' :: rest) = '\x7d' :: rest := rfl
  rw [quoteChars_append, readMembers]
  simp only [readText_rest, colon, space, read, brace, Text.ofGlyphs_map_char, String.ofList_toList]

theorem readMembers_next {value : Document} (dense : skipSpace text = text)
    (read : readValue fuel text = .ok (value, ',' :: ' ' :: rest))
    (dense' : skipSpace rest = rest) :
    readMembers (fuel + 1) (quoteChars key.toList ++ ':' :: ' ' :: text) acc =
      readMembers fuel rest (putMember key value acc) := by
  have colon : skipSpace (':' :: ' ' :: text) = ':' :: ' ' :: text := rfl
  have space : skipSpace (' ' :: text) = text := dense
  have comma : skipSpace (',' :: ' ' :: rest) = ',' :: ' ' :: rest := rfl
  have space' : skipSpace (' ' :: rest) = rest := dense'
  rw [quoteChars_append, readMembers]
  simp only [readText_rest, colon, space, read, comma, space', Text.ofGlyphs_map_char,
    String.ofList_toList]

theorem putMember_new {α : Type} {key : Text} {value : α} {members : List (Text × α)}
    (new : key ∉ members.map Prod.fst) :
      putMember key value members = members ++ [(key, value)] := by
  induction members with
  | nil => rfl
  | cons first members ih =>
    obtain ⟨other, new⟩ := List.ne_and_not_mem_of_not_mem_cons new
    rw [putMember, if_neg (Ne.symm other), ih new, List.cons_append]

/-- The members as they are read. -/
def quotedMembers (members : List (String × String)) : List (Text × Document) :=
  members.map fun m => (.whole m.1, .quoted m.2)

theorem memberChars_append (m : String × String) (rest : List Char) :
    memberChars m ++ rest =
      quoteChars m.1.toList ++ ':' :: ' ' :: (quoteChars m.2.toList ++ rest) := by
  simp [memberChars]

theorem joinChars_cons_cons (part next : List Char) (parts : List (List Char)) :
    joinChars (part :: next :: parts) = part ++ ',' :: ' ' :: joinChars (next :: parts) := by
  rw [joinChars, Pieces.join_cons (List.cons_ne_nil _ _), List.append_assoc]
  rfl

theorem joinChars_single (part : List Char) : joinChars [part] = part := rfl

/-- Members begin with the quote of the first key. -/
theorem exists_quote (first : String × String) (members : List (String × String))
    (rest : List Char) :
    ∃ text, joinChars ((first :: members).map memberChars) ++ rest = '"' :: text := by
  cases members with
  | nil =>
    rw [List.map_cons, List.map_nil, joinChars_single, memberChars_append, quoteChars_append]
    exact ⟨_, rfl⟩
  | cons second members =>
    rw [List.map_cons, List.map_cons, joinChars_cons_cons, List.append_assoc, memberChars_append,
      quoteChars_append]
    exact ⟨_, rfl⟩

theorem skipSpace_members (first : String × String) (members : List (String × String))
    (rest : List Char) : skipSpace (joinChars ((first :: members).map memberChars) ++ rest) =
      joinChars ((first :: members).map memberChars) ++ rest := by
  obtain ⟨text, written⟩ := exists_quote first members rest
  rw [written]
  rfl

theorem new_key {first : String × String} {members : List (String × String)}
    (unique : (acc.map Prod.fst ++ (wholeMembers (first :: members)).map Prod.fst).Nodup) :
    .whole first.1 ∉ acc.map Prod.fst := by
  obtain ⟨_, _, apart⟩ := List.nodup_append.mp unique
  intro known
  exact apart _ known _ List.mem_cons_self rfl

/-- Members of different keys are read in order. -/
theorem readMembers_written {first : String × String} {members : List (String × String)}
    (enough : members.length + 1 < fuel)
    (unique : (acc.map Prod.fst ++ (wholeMembers (first :: members)).map Prod.fst).Nodup) :
    readMembers fuel (joinChars ((first :: members).map memberChars) ++ '\x7d' :: rest) acc =
      .ok (acc ++ quotedMembers (first :: members), rest) := by
  -- two steps of fuel are spent at once: one on the member, one on its value
  induction members generalizing fuel first acc with
  | nil =>
    obtain ⟨fuel, rfl⟩ : ∃ k, fuel = k + 2 := ⟨fuel - 2, by omega⟩
    rw [List.map_cons, List.map_nil, joinChars_single, memberChars_append,
      readMembers_last (skipSpace_text _ _) (readValue_text _ _), putMember_new (new_key unique)]
    rfl
  | cons second members ih =>
    obtain ⟨fuel, rfl⟩ : ∃ k, fuel = k + 2 := ⟨fuel - 2, by omega⟩
    have unique' : ((acc ++ [(Text.whole first.1, quoted first.2)]).map Prod.fst ++
        (wholeMembers (second :: members)).map Prod.fst).Nodup := by
      simpa [wholeMembers] using unique
    rw [List.map_cons, List.map_cons, joinChars_cons_cons, ← List.map_cons, List.append_assoc,
      List.cons_append, List.cons_append, memberChars_append,
      readMembers_next (skipSpace_text _ _) (readValue_text _ _) (skipSpace_members _ _ _),
      putMember_new (new_key unique), ih (by simpa using enough) unique']
    simp [quotedMembers]

theorem objectChars_append (members : List (String × String)) (rest : List Char) :
    objectChars members ++ rest =
      '\x7b' :: (joinChars (members.map memberChars) ++ '\x7d' :: rest) := by
  simp [objectChars]

/-- An object whose first key follows its brace. -/
theorem readValue_object {members : List (Text × Document)}
    (read : readMembers fuel ('"' :: text) [] = .ok (members, rest)) :
    readValue (fuel + 1) ('\x7b' :: '"' :: text) = .ok (.object members, rest) := by
  have dense : skipSpace ('"' :: text) = '"' :: text := rfl
  rw [readValue]
  simp [dense, read]

/-- An object of texts under different keys is read back. -/
theorem readValue_texts {members : List (String × String)} (enough : members.length < fuel)
    (unique : ((wholeMembers members).map Prod.fst).Nodup) :
    readValue (fuel + 1) (objectChars members ++ rest) =
      .ok (.object (quotedMembers members), rest) := by
  rw [objectChars_append]
  cases members with
  | nil => rfl
  | cons first members =>
    obtain ⟨text, written⟩ := exists_quote first members ('\x7d' :: rest)
    have read : readMembers fuel (joinChars ((first :: members).map memberChars) ++
        '\x7d' :: rest) [] = .ok (quotedMembers (first :: members), rest) :=
      readMembers_written enough (by simpa using unique)
    rw [written] at read ⊢
    exact readValue_object read

theorem length_objectChars (members : List (String × String)) :
    members.length + 2 ≤ (objectChars members).length := by
  have parts : members.length ≤ (joinChars (members.map memberChars)).length := by
    induction members with
    | nil => simp
    | cons first members ih =>
      have one : 1 ≤ (memberChars first).length := by simp [memberChars, quoteChars]
      cases members with
      | nil => simpa [joinChars_single] using one
      | cons second members =>
        rw [List.map_cons, List.map_cons, joinChars_cons_cons, ← List.map_cons]
        simp only [List.length_append, List.length_cons] at ih ⊢
        omega
  have whole := congrArg List.length (objectChars_append members [])
  simp only [List.length_append, List.length_cons, List.length_nil] at whole
  omega

theorem return_escapeChar (c : Char) : '\r' ∉ escapeChar c := by
  have control : ∀ n < 0x20, '\r' ∉ Hex.padded 4 n := by decide +kernel
  unfold escapeChar
  split; · decide
  split; · decide
  split; · decide
  split; · decide
  split; · decide
  split; · decide
  split; · decide
  split
  · next below => simpa using control c.toNat below
  · next visible =>
    intro member
    cases List.mem_singleton.mp member
    exact visible (by decide)

theorem return_quoteChars (text : List Char) : '\r' ∉ quoteChars text := by
  simp [quoteChars, return_escapeChar]

theorem mem_joinChars {parts : List (List Char)} (member : c ∈ joinChars parts) :
    c = ',' ∨ c = ' ' ∨ ∃ part ∈ parts, c ∈ part := by
  induction parts with
  | nil => cases member
  | cons part parts ih =>
    cases parts with
    | nil => exact .inr (.inr ⟨part, List.mem_cons_self, member⟩)
    | cons next parts =>
      rw [joinChars_cons_cons, List.mem_append, List.mem_cons, List.mem_cons] at member
      rcases member with here | comma | space | later
      · exact .inr (.inr ⟨part, List.mem_cons_self, here⟩)
      · exact .inl comma
      · exact .inr (.inl space)
      · rcases ih later with comma | space | ⟨part, place, inside⟩
        · exact .inl comma
        · exact .inr (.inl space)
        · exact .inr (.inr ⟨part, List.mem_cons_of_mem _ place, inside⟩)

/-- Carriage returns are escaped, so that no line end in a written object is changed by reading. -/
theorem return_objectChars (members : List (String × String)) : '\r' ∉ objectChars members := by
  have inner : '\r' ∉ joinChars (members.map memberChars) := by
    intro member
    rcases mem_joinChars member with comma | space | ⟨part, place, inside⟩
    · cases comma
    · cases space
    · obtain ⟨m, _, rfl⟩ := List.mem_map.mp place
      simp [memberChars, return_quoteChars] at inside
  have whole := objectChars_append members []
  rw [List.append_nil] at whole
  simp [whole, inner]

end ScriptDialog.Document
