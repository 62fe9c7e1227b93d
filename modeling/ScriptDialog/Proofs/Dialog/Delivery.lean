import ScriptDialog.Proofs.Dialog.Reachable

/-! The line of one dialog read into another one of any other shape. Whatever classes meet under a
name, no token is refused, and a control reads the token of the last control of its name. -/
namespace ScriptDialog.Dialog

open Control

/-- The last control of a name that can be saved. -/
def lastWriter? (controls : List Control) (name : String) : Option Control :=
  ((controls.filter persists).filter fun c => c.isNamed name).getLast?

/-- What becomes of a control: it reads the token of the last writer of its name in its own way; one
that cannot be saved, or whose name is torn or no writer's, is as it was. -/
inductive TakesOver (writers : List Control) (c : Control) : Control → Prop where
  | read {name : String} {token : Text} {writer c' : Control} (persists : c.persists)
      (isText : c.name = .text name) (last : lastWriter? writers name = some writer)
      (written : writer.token = .ok token) (received : c.receive token = .ok c') :
      TakesOver writers c c'
  | kept {t : Text} (isText : c.name = .text t)
      (unwritten : c.persists → ∀ name : String, t = name → lastWriter? writers name = none) :
      TakesOver writers c c

variable {controls : List Control} {named : List (String × String)} {src dst d : Dialog}

/-- Whether the value is the name. -/
def isName (name : String) : Value → Bool
  | .atom (.text t) => t == name
  | _ => false

theorem isName_text (name s : String) : isName name (.text s) = (s == name) := by
  have spelt : (Text.whole s == Text.whole name) = (s == name) := by
    rw [Bool.eq_iff_iff, beq_iff_eq, beq_iff_eq, Text.whole.injEq]
  exact spelt

/-- The last piece of a name comes from the last control of the name. -/
theorem Lists.last (lists : Lists controls named) (name : String) :
    (lastWriter? controls name).map (fun c => (c.name, c.token)) =
      (named.filter fun p => p.1 == name).getLast?.map fun p => (.text p.1, .ok (.whole p.2)) := by
  -- whether an entry has the name shows in its first part, so the filter goes through the lists
  have entries := congrArg
    (fun entries => (entries.filter fun entry => isName name entry.1).getLast?) lists
  simp only [List.filter_map, List.getLast?_map, Function.comp_def, isName_text] at entries
  exact entries

theorem lastToken?_of_lists {c : Control} {name : String} (lists : Lists controls named)
    (isText : c.name = .text name) (persists : c.persists) :
    (∃ (writer : Control) (token : String), lastWriter? controls name = some writer ∧
      writer.token = .ok (.whole token) ∧ c.lastToken? (wholes named) = some (.whole token)) ∨
    (lastWriter? controls name = none ∧ c.lastToken? (wholes named) = none) := by
  have last := lists.last name
  have same : ((wholes named).filter fun p => c.isNamed p.1) =
      wholes (named.filter fun p => p.1 == name) := by
    rw [wholes, List.filter_map]
    refine congrArg _ (List.filter_congr fun p _ => ?_)
    rw [Function.comp_apply, isNamed_text isText, Bool.beq_comm]
  rw [lastToken?, if_pos persists, same, wholes, List.getLast?_map]
  cases found : lastWriter? controls name with
  | none =>
    rw [found] at last
    refine .inr ⟨rfl, ?_⟩
    rw [Option.map_eq_none_iff, Option.map_eq_none_iff]
    exact Option.map_eq_none_iff.mp last.symm
  | some writer =>
    rw [found] at last
    obtain ⟨p, place, entry⟩ := Option.map_eq_some_iff.mp last.symm
    exact .inl ⟨writer, p.2, rfl, (congrArg Prod.snd entry).symm, by rw [place]; rfl⟩

theorem takesOver_of_settled {c c' : Control} {t : Text} (lists : Lists controls named)
    (isText : c.name = .text t) (settled : c.Settled (wholes named) c') :
    TakesOver controls c c' := by
  by_cases persists : c.persists
  · cases t with
    | whole name =>
      rcases lastToken?_of_lists lists isText persists with
        ⟨writer, token, last, written, found⟩ | ⟨unwritten, unaddressed⟩
      · exact .read persists isText last written (settled.received found)
      · cases settled.idle unaddressed
        exact .kept isText fun _ _ same => Text.whole.inj same ▸ unwritten
    | torn t =>
      have unaddressed : c.lastToken? (wholes named) = none :=
        lastToken?_unnamed fun p _ => by simp [isNamed_torn isText]
      cases settled.idle unaddressed
      exact .kept isText fun _ _ same => nomatch same
  · have unaddressed : c.lastToken? (wholes named) = none := by rw [lastToken?, if_neg persists]
    cases settled.idle unaddressed
    exact .kept isText fun persists' => absurd persists' persists

theorem Reachable.made (reachable : d.Reachable) : d.Made := by
  obtain ⟨records, labels, ids, includeButtons, built, written, isBuilt, reached⟩ := reachable
  have holds := (Invariant.of_build isBuilt).of_reached reached
  exact ⟨records, labels, ids, includeButtons, built, isBuilt, holds.edited⟩

theorem Reachable.sound (reachable : d.Reachable) : ∀ c ∈ d.controls, c.kind.Sound := by
  obtain ⟨_, _, _, _, _, _, isBuilt, reached⟩ := reachable
  exact ((Invariant.of_build isBuilt).of_reached reached).sound

theorem Reachable.usable (reachable : d.Reachable) : d.Usable := by
  obtain ⟨_, _, _, _, _, _, isBuilt, reached⟩ := id reachable
  exact ((Invariant.of_build isBuilt).of_reached reached).usable reachable.made.isText

/-- A control that can be saved has a whole text as its name and a value within limits. -/
theorem Reachable.savable (reachable : d.Reachable) (whole : d.Whole) {texts : String → Prop}
    (fit : ∀ c ∈ d.controls, ∀ s : String, c.value? = some (.text s) → texts s) :
    ∀ c ∈ d.controls, c.persists →
      (∃ name : String, c.name = .text name) ∧ c.kind.Holds texts Narrow := by
  intro c member persists
  obtain ⟨t, isText⟩ := reachable.made.isText c member
  have unbroken := whole c member persists
  exact ⟨unbroken.spelt isText,
    holds_of_sound (reachable.sound c member) unbroken.value (fit c member)⟩

/-- For every two dialogs in any states that built dialogs reach, the first with texts of no more
characters than digits are converted: its line is read by the other one without a fault, and each
control takes over, in its own way, what the last control of its name has written. There is no line
only where the first dialog has a torn text as a name or value. -/
theorem deserialize_serialized (srcReachable : src.Reachable) (dstReachable : dst.Reachable)
    (short : ∀ c ∈ src.controls, ∀ s : String, c.value? = some (.text s) → Short s) :
    (src.Whole → ∃ line : String, src.serialize = .ok line ∧ (dst.deserialize line).2 = none ∧
      List.Forall₂ (TakesOver src.controls) dst.controls (dst.deserialize line).1.controls) ∧
    (¬ src.Whole → ∃ t, src.serialize = .error (.torn t)) := by
  refine ⟨fun whole => ?_, srcReachable.usable.torn⟩
  have savable := srcReachable.savable whole short
  obtain ⟨named, lists, written⟩ := exists_lists (fun _ => Narrow.writable) savable
  -- no class refuses what is written, so the run settles every control; the rest is to see that the
  -- last token of a name is the one of the last writer
  have calm := deliverAll_calm_of_lists lists
      (fun c member persists => (savable c member persists).2)
    fun c place => dstReachable.made.formed place
  have settled := deliverAll_settled calm
  refine ⟨line named, serialize_of_lists lists, ?_⟩
  rw [deserialize, pieces_line written]
  refine ⟨Option.or_eq_none_iff.mpr ⟨calm, rfl⟩, ?_⟩
  have texts := List.forall₂_and_left _ _ |>.mpr ⟨dstReachable.made.isText, settled⟩
  refine texts.imp fun c c' both => ?_
  obtain ⟨⟨t, isText⟩, here⟩ := both
  exact takesOver_of_settled lists isText here

/-- Two edits, one with the text of a colour, the other with digits that are not ASCII. -/
def texts : Dialog where
  controls := [first "a" (.edit false (.text "rgb(1,2,3)")), first "b" (.edit false (.text "１２"))]
  buttons := Button.defaults
  usesButtons := false
  pressed := none

theorem texts_reachable : texts.Reachable :=
  ⟨.list [editRecord "a" "rgb(1,2,3)", editRecord "b" "１２"], .null, .null, false, texts,
    fun _ => False, rfl, .built⟩

/-- A colour and an integer edit. -/
def others : Dialog where
  controls := [first "a" (.color true (.color ⟨0, 0, 0, 0⟩) (.bool true)),
    first "b" (.intEdit (.int 0) (.int Numeral.int32Min) (.int Numeral.int32Max))]
  buttons := Button.defaults
  usesButtons := false
  pressed := none

theorem others_reachable : others.Reachable :=
  ⟨.list [shortRecord "coloralpha" "a", shortRecord "intedit" "b"], .null, .null, false, others,
    fun _ => False, rfl, .built⟩

theorem texts_short :
    ∀ c ∈ texts.controls, ∀ s : String, c.value? = some (.text s) → Short s := by
  intro c member s held
  simp only [texts, List.mem_cons, List.not_mem_nil, or_false] at member
  rcases member with rfl | rfl
  · cases held
    decide
  · cases held
    decide

theorem texts_whole : texts.Whole := by
  intro c member _
  simp only [texts, List.mem_cons, List.not_mem_nil, or_false] at member
  rcases member with rfl | rfl <;> constructor <;> rintro t ⟨⟩

theorem texts_lists :
    Lists texts.controls [("a", "rgb(1#2C2#2C3)"), ("b", "#EF#BC#91#EF#BC#92")] := by
  refine lists_cons_of_persists rfl rfl rfl ?_
  exact lists_cons_of_persists rfl rfl rfl rfl

/-- The colour reads the text of a colour; no digit that is not ASCII reaches the integer edit. -/
theorem deserialize_serialized_others :
    texts.Reachable ∧ others.Reachable ∧ texts.Whole ∧
      (∀ c ∈ texts.controls, ∀ s : String, c.value? = some (.text s) → Short s) ∧
      ∃ line : String, texts.serialize = .ok line ∧ (others.deserialize line).2 = none ∧
        List.Forall₂ (TakesOver texts.controls) others.controls
          (others.deserialize line).1.controls ∧
        (others.deserialize line).1.controls =
          [first "a" (.color true (.color ⟨1, 2, 3, 0⟩) (.bool true)),
            first "b" (.intEdit (.int 0) (.int Numeral.int32Min) (.int Numeral.int32Max))] := by
  obtain ⟨line, written, calm, taken⟩ :=
    (deserialize_serialized texts_reachable others_reachable texts_short).1 texts_whole
  refine ⟨texts_reachable, others_reachable, texts_whole, texts_short, line, written, calm, taken,
    ?_⟩
  cases (serialize_of_lists texts_lists).symm.trans written
  obtain ⟨_, lists, separate⟩ :=
    exists_lists (fun _ => Narrow.writable) (texts_reachable.savable texts_whole texts_short)
  cases texts_lists.unique lists
  have painted : (first "a" (.color true (.color ⟨0, 0, 0, 0⟩) (.bool true))).Takes "a"
      "rgb(1#2C2#2C3)" (first "a" (.color true (.color ⟨1, 2, 3, 0⟩) (.bool true))) := by
    refine takes_of_received rfl ?_
    have decoded : Token.decode "rgb(1#2C2#2C3)" = "rgb(1,2,3)" := by decide +kernel
    have read : Color.ofText "rgb(1,2,3)" = .ok ⟨1, 2, 3, 0⟩ := rfl
    simp only [receive, first, kindFrom, decoded_whole, decoded, read]
    rfl
  have front := deliver_cons_of_takes painted
    [first "b" (.intEdit (.int 0) (.int Numeral.int32Min) (.int Numeral.int32Max))]
  rw [deserialize, pieces_line separate, wholes, List.map_cons, others,
    deliverAll_cons (by rw [front]; rfl), front]
  rfl

/-- An edit whose value is a surrogate on its own. -/
def unsaved : Dialog where
  controls := [first "a" (.edit false (.text (.torn .alone)))]
  buttons := Button.defaults
  usesButtons := false
  pressed := none

/-- Its texts are short, and there is still no line for another dialog to read. -/
theorem serialize_unsaved : unsaved.Reachable ∧
    (∀ c ∈ unsaved.controls, ∀ t : Text, c.value? = some (.text t) → t.glyphs.length ≤ 1) ∧
    unsaved.serialize = .error (.torn .alone) := by
  refine ⟨⟨.list [editRecord "a" (.torn .alone)], .null, .null, false, unsaved, fun _ => False,
    rfl, .built⟩, ?_, rfl⟩
  intro c member t held
  cases List.mem_singleton.mp member
  cases held
  decide

end ScriptDialog.Dialog
