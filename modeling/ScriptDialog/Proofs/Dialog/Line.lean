import Mathlib.Data.List.Forall2
import ScriptDialog.Dialog.Saved
import ScriptDialog.Proofs.Control.Held
import ScriptDialog.Proofs.Dialog.Pieces

/-! The line of a saved dialog. It is put together from the names and tokens of the controls that
can be saved, and these can be told from it: no delimiter stands in a name or in a token. -/
namespace ScriptDialog.Dialog

/-- Each control that can be saved has a whole text as its name and a value of its type. -/
def Savable (d : Dialog) : Prop :=
  ∀ c ∈ d.controls, c.persists →
    (∃ name : String, c.name = .text name) ∧ c.kind.Holds (fun _ => True) Numeral.Writable

/-- No control that can be saved has a torn text as its name or value. -/
def Whole (d : Dialog) : Prop := ∀ c ∈ d.controls, c.persists → c.Whole

/-- The names and the tokens of the controls that can be saved, in order. -/
def Lists (controls : List Control) (named : List (String × String)) : Prop :=
  (controls.filter Control.persists).map (fun c => (c.name, c.token)) =
    named.map fun p => (Value.text p.1, Except.ok (Text.whole p.2))

/-- The part of a line for a name and a token. -/
def part (p : String × String) : List Char := (Token.encode p.1).toList ++ ':' :: p.2.toList

/-- The line for names and tokens. -/
def line (named : List (String × String)) : String :=
  String.ofList (Pieces.join ['|'] (named.map part))

variable {controls : List Control} {named named' : List (String × String)} {p : String × String}

theorem Lists.unique (lists : Lists controls named) (lists' : Lists controls named') :
    named = named' := by
  refine (List.map_inj_right ?_).mp (lists.symm.trans lists')
  rintro ⟨name, token⟩ ⟨name', token'⟩ same
  cases same
  rfl

theorem lists_cons_of_persists {c : Control} {name token : String} (persists : c.persists)
    (isText : c.name = .text name) (written : c.token = .ok (.whole token))
    (rest : Lists controls named) :
    Lists (c :: controls) ((name, token) :: named) := by
  rw [Lists, List.filter_cons_of_pos persists, List.map_cons, List.map_cons, isText, written]
  exact congrArg _ rest

theorem exists_lists {texts : String → Prop} {ints : Int → Prop}
    (limit : ∀ n, ints n → Numeral.Writable n)
    (savable : ∀ c ∈ controls, c.persists →
      (∃ name : String, c.name = .text name) ∧ c.kind.Holds texts ints) :
    ∃ named, Lists controls named ∧ ∀ p ∈ named, Token.Written p.2.toList := by
  induction controls with
  | nil => exact ⟨[], rfl, by simp⟩
  | cons c controls ih =>
    obtain ⟨here, later⟩ := List.forall_mem_cons.mp savable
    obtain ⟨named, lists, written⟩ := ih later
    by_cases persists : c.persists
    · obtain ⟨⟨name, isText⟩, held⟩ := here persists
      obtain ⟨t, token, writes⟩ := Control.token_writes held limit persists
      refine ⟨(name, t) :: named, lists_cons_of_persists persists isText token lists, ?_⟩
      exact List.forall_mem_cons.mpr ⟨writes.written, written⟩
    · refine ⟨named, ?_, written⟩
      rw [Lists, List.filter_cons_of_neg persists]
      exact lists

theorem Lists.here {c : Control} (lists : Lists (c :: controls) named) (persists : c.persists) :
    ∃ name token rest, named = (name, token) :: rest ∧ c.name = .text name ∧
      c.token = .ok (.whole token) ∧ Lists controls rest := by
  rw [Lists, List.filter_cons_of_pos persists] at lists
  cases named with
  | nil => cases lists
  | cons p rest =>
    obtain ⟨first, later⟩ := List.cons.inj lists
    obtain ⟨name, token⟩ := Prod.mk.inj first
    exact ⟨p.1, p.2, rest, rfl, name, token, later⟩

theorem Lists.later {c : Control} (lists : Lists (c :: controls) named) (persists : ¬ c.persists) :
    Lists controls named := by
  rw [Lists, List.filter_cons_of_neg persists] at lists
  exact lists

theorem Lists.control (lists : Lists controls named) (member : p ∈ named) :
    ∃ c ∈ controls, c.persists ∧ c.name = .text p.1 ∧ c.token = .ok (.whole p.2) := by
  have listed : (Value.text p.1, Except.ok (Text.whole p.2)) ∈
      (controls.filter Control.persists).map fun c => (c.name, c.token) := by
    rw [lists]
    exact List.mem_map_of_mem member
  obtain ⟨c, kept, same⟩ := List.mem_map.mp listed
  obtain ⟨place, persists⟩ := List.mem_filter.mp kept
  obtain ⟨name, token⟩ := Prod.mk.inj same
  exact ⟨c, place, persists, name, token⟩

theorem piece_eq (p : String × String) :
    piece (Token.encode p.1, .whole p.2) = (part p).map .char := by
  simp [piece, part]

theorem savedPairs_of_lists (lists : Lists controls named) :
    savedPairs controls = .ok (named.map fun p => (Token.encode p.1, .whole p.2)) := by
  induction controls generalizing named with
  | nil =>
    cases named with
    | nil => rfl
    | cons p named => cases lists
  | cons c controls ih =>
    unfold savedPairs
    by_cases persists : c.persists
    · obtain ⟨name, token, rest, rfl, isText, written, later⟩ := lists.here persists
      rw [if_pos persists, isText, written, ih later]
      rfl
    · rw [if_neg persists, ih (lists.later persists)]

theorem serialize_of_lists {d : Dialog} (lists : Lists d.controls named) :
    d.serialize = .ok (line named) := by
  have parts : (named.map fun p => (Token.encode p.1, Text.whole p.2)).map piece =
      (named.map part).map (List.map .char) := by
    simp only [List.map_map, Function.comp_def, piece_eq]
  unfold serialize
  rw [savedPairs_of_lists lists]
  change Except.ok (Text.ofGlyphs (Pieces.join (['|'].map .char) _)) = _
  rw [parts, Pieces.join_map, Text.ofGlyphs_map_char]
  rfl

theorem part_eq (p : String × String) :
    part p = Token.encodeChars p.1.toList ++ ':' :: p.2.toList := by
  rw [part, Token.encode, String.toList_ofList]

theorem bar_part (written : Token.Written p.2.toList) : '|' ∉ part p := by
  have free := (Token.written_encodeChars p.1.toList).free.2
  rw [part_eq]
  simp [free, written.free.2]

theorem split_line (nonempty : named ≠ []) (written : ∀ p ∈ named, Token.Written p.2.toList) :
    Pieces.split '|' (line named).toList = named.map part := by
  rw [line, String.toList_ofList]
  apply Pieces.split_join (by simpa using nonempty)
  intro whole member
  obtain ⟨p, place, rfl⟩ := List.mem_map.mp member
  exact bar_part (written p place)

theorem cut?_part (p : String × String) :
    Pieces.cut? ':' (part p) = some (Token.encodeChars p.1.toList, p.2.toList) := by
  rw [part_eq]
  exact Pieces.cut?_append (Token.written_encodeChars _).free.1 _

/-- The pieces of a line of names and tokens. -/
def wholes (named : List (String × String)) : List (String × Text) :=
  named.map fun p => (p.1, .whole p.2)

/-- Names and tokens come back from their line. -/
theorem pieces_line (written : ∀ p ∈ named, Token.Written p.2.toList) :
    pieces (line named) = ⟨wholes named, none⟩ := by
  cases named with
  | nil => rfl
  | cons first rest =>
    rw [pieces_whole, wholePieces, split_line (by simp) written, List.filterMap_map,
      List.map_filterMap]
    congr 1
    refine (List.filterMap_congr fun p _ => ?_).trans (congrFun List.filterMap_eq_map' _)
    rw [Function.comp_apply, cut?_part, Option.map_some, String.ofList_toList]
    exact congrArg (fun name => some (name, Text.whole p.2)) (Token.decode_encode p.1)

theorem wholes_injective : Function.Injective wholes := by
  refine List.map_injective_iff.mpr ?_
  intro p p' same
  obtain ⟨name, token⟩ := Prod.mk.inj same
  exact Prod.ext name (Text.whole.inj token)

/-- A piece of a line: a part that is decoded to the name, the only colon, and the token. -/
def Frames (p : String × String) (whole : List Char) : Prop :=
  whole.count ':' = 1 ∧
    ∃ name : String, whole = name.toList ++ ':' :: p.2.toList ∧ Token.decode name = p.1

theorem frames_part (written : Token.Written p.2.toList) : Frames p (part p) := by
  refine ⟨?_, Token.encode p.1, rfl, Token.decode_encode p.1⟩
  have name := List.count_eq_zero.mpr (Token.written_encodeChars p.1.toList).free.1
  have token := List.count_eq_zero.mpr written.free.1
  rw [part_eq, List.count_append, List.count_cons_self, name, token]

theorem line_printable (written : ∀ p ∈ named, Token.Written p.2.toList) :
    ∀ c ∈ (line named).toList, 0x20 ≤ c.toNat ∧ c.toNat ≤ 0x7F := by
  intro c member
  rw [line, String.toList_ofList] at member
  rcases Pieces.mem_join member with bar | ⟨whole, place, inside⟩
  · cases List.mem_singleton.mp bar
    decide
  · obtain ⟨p, named_, rfl⟩ := List.mem_map.mp place
    rw [part_eq] at inside
    simp only [List.mem_append, List.mem_cons] at inside
    rcases inside with name | rfl | token
    · exact (Token.written_encodeChars _).printable c name
    · decide
    · exact (written p named_).printable c token

/-- A saved dialog is one line of printable ASCII that is unambiguous: its pieces are the names and
tokens of the controls that can be saved, in order, and no other dialog has the same line unless it
has the same names and tokens. -/
theorem serialize_unambiguous {d : Dialog} (savable : d.Savable) :
    ∃ (named : _) (text : String), Lists d.controls named ∧ d.serialize = .ok text ∧
      (named = [] → text = "") ∧
      (named ≠ [] → List.Forall₂ Frames named (Pieces.split '|' text.toList)) ∧
      (∀ c ∈ text.toList, 0x20 ≤ c.toNat ∧ c.toNat ≤ 0x7F) ∧
      ∀ d' : Dialog, d'.Savable → d'.serialize = .ok text → Lists d'.controls named := by
  obtain ⟨named, lists, written⟩ := exists_lists (fun _ fit => fit) savable
  refine ⟨named, line named, lists, serialize_of_lists lists, ?_, ?_, line_printable written, ?_⟩
  · rintro rfl
    rfl
  · intro nonempty
    rw [split_line nonempty written, List.forall₂_map_right_iff, List.forall₂_same]
    exact fun p member => frames_part (written p member)
  · intro d' savable' same
    obtain ⟨named', lists', written'⟩ := exists_lists (fun _ fit => fit) savable'
    have text := Except.ok.inj ((serialize_of_lists lists').symm.trans same)
    have equal := congrArg pieces text
    rw [pieces_line written', pieces_line written] at equal
    exact wholes_injective (Named.mk.inj equal).1 ▸ lists'

/-- A name and a text with delimiters, no name, a colour, and a label. -/
def delimited : Dialog where
  controls := [Control.first "x|" (.edit true (.text "1:#")),
    Control.first "" (.floatEdit (.float .nan) .null .null .null),
    Control.first ":" (.color true (.color ⟨255, 0, 9, 7⟩) (.bool true)),
    Control.first "x|" (.label .null)]
  buttons := []
  usesButtons := true
  pressed := none

theorem delimited_savable : delimited.Savable := by
  intro c member persists
  simp only [delimited, List.mem_cons, List.not_mem_nil, or_false] at member
  rcases member with rfl | rfl | rfl | rfl
  · exact ⟨⟨_, rfl⟩, .edit true trivial⟩
  · exact ⟨⟨_, rfl⟩, .floatEdit ..⟩
  · exact ⟨⟨_, rfl⟩, .color true (by decide) _⟩
  · cases persists

theorem serialize_unambiguous_delimited :
    delimited.Savable ∧ ∃ (named : _) (text : String), Lists delimited.controls named ∧
      delimited.serialize = .ok text ∧
      (named ≠ [] → List.Forall₂ Frames named (Pieces.split '|' text.toList)) := by
  obtain ⟨named, text, lists, line, _, framed, _⟩ := serialize_unambiguous delimited_savable
  exact ⟨delimited_savable, named, text, lists, line, framed⟩

end ScriptDialog.Dialog
