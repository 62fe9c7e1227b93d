import ScriptDialog.Proofs.Success
import ScriptDialog.Proofs.Text.Blank
import ScriptDialog.Proofs.Text.Pieces
import ScriptDialog.States.Fragment

/-! The file of a script. Whatever the script is called, its file is right inside the directory of
states, under a name of plain characters; texts that are such names already stay as they are. -/
namespace ScriptDialog

namespace Path

/-- A name without slashes leads to an entry of the directory itself, unless it is empty or a
dot. -/
theorem child_of_free {name : String} (free : '/' ∉ name.toList) (given : isPart name.toList)
    (p : Path) : p.child name = ⟨p.root, p.parts ++ [name]⟩ := by
  have slashes : name.toList.takeWhile (· = '/') = [] := by
    cases chars : name.toList with
    | nil => rfl
    | cons c rest =>
      have other : c ≠ '/' := fun same => free (by simp [chars, same])
      simp [other]
  have relative : ofText name = ⟨0, [name]⟩ := by
    simp [ofText, ofChars, slashes, Pieces.split_free free, given]
  rw [child, relative, join]
  rfl

end Path

namespace Fragment

/-- The three characters that a name may hold besides letters and digits. -/
def IsMark (c : Char) : Prop := c = '.' ∨ c = '_' ∨ c = '-'

def IsLetterOrDigit (c : Char) : Prop :=
  ('A' ≤ c ∧ c ≤ 'Z') ∨ ('a' ≤ c ∧ c ≤ 'z') ∨ ('0' ≤ c ∧ c ≤ '9')

/-- A text that names a file as it is: letters and digits, between which marks may stand. -/
structure Fit (text : String) : Prop where
  given : text ≠ ""
  plain : ∀ c ∈ text.toList, IsLetterOrDigit c ∨ IsMark c
  first : ∀ c ∈ text.toList.head?, ¬ IsMark c
  last : ∀ c ∈ text.toList.getLast?, ¬ IsMark c

theorem isEdge_iff (c : Char) : isEdge c ↔ IsMark c := by
  simp [isEdge, IsMark, or_assoc]

theorem isAlphanum_iff (c : Char) : c.isAlphanum ↔ IsLetterOrDigit c := by
  have within (low high : Char) :
      (decide (c.val ≥ low.val) && decide (c.val ≤ high.val)) = true ↔ low ≤ c ∧ c ≤ high :=
    Bool.and_eq_true_iff.trans (and_congr decide_eq_true_iff decide_eq_true_iff)
  have upper : c.isUpper ↔ 'A' ≤ c ∧ c ≤ 'Z' := decide_eq_true_iff
  have letter : c.isAlpha ↔ ('A' ≤ c ∧ c ≤ 'Z') ∨ ('a' ≤ c ∧ c ≤ 'z') :=
    Bool.or_eq_true_iff.trans (or_congr upper (within 'a' 'z'))
  exact (Bool.or_eq_true_iff.trans (or_congr letter (within '0' '9'))).trans or_assoc

theorem isKept_iff (c : Char) : isKept c ↔ IsLetterOrDigit c ∨ IsMark c := by
  simp only [isKept, IsMark, ← isAlphanum_iff, Bool.or_eq_true, beq_iff_eq, or_assoc]

theorem isKept_collapse (inRun : Bool) (text : List Char) :
    ∀ c ∈ collapse inRun text, isKept c := by
  induction text generalizing inRun with
  | nil => nofun
  | cons c rest ih =>
    rw [collapse]
    split
    · next kept => exact List.forall_mem_cons.mpr ⟨kept, ih false⟩
    · split
      · exact ih true
      · exact List.forall_mem_cons.mpr ⟨rfl, ih true⟩

/-- Nothing is replaced in a text of such characters alone. -/
theorem collapse_eq_self {text : List Char} (kept : ∀ c ∈ text, isKept c) :
    collapse false text = text := by
  induction text with
  | nil => rfl
  | cons c rest ih =>
    obtain ⟨here, later⟩ := List.forall_mem_cons.mp kept
    rw [collapse, if_pos here, ih later]

theorem trimEdges_eq (text : List Char) : trimEdges text = Blank.inner isEdge text := rfl

/-- The conditions as they are checked. -/
theorem fit_iff (text : String) : Fit text ↔ text ≠ "" ∧ (∀ c ∈ text.toList, isKept c) ∧
    (∀ c ∈ text.toList.head?, isEdge c = false) ∧ ∀ c ∈ text.toList.getLast?, isEdge c = false := by
  simp only [isKept_iff, ← Bool.not_eq_true, isEdge_iff]
  exact ⟨fun ⟨given, plain, first, last⟩ => ⟨given, plain, first, last⟩,
    fun ⟨given, plain, first, last⟩ => ⟨given, plain, first, last⟩⟩

theorem fit_unknown : Fit "unknown" := by
  have chars : "unknown".toList = ['u', 'n', 'k', 'n', 'o', 'w', 'n'] := rfl
  rw [fit_iff, chars]
  exact ⟨by simp, List.all_eq_true.mp rfl, by rintro c ⟨⟩; rfl, by rintro c ⟨⟩; rfl⟩

theorem fit_ofText (text : Text) : Fit (ofText text) := by
  unfold ofText
  rw [trimEdges_eq]
  dsimp only
  generalize whole : collapse false text.chars = collapsed
  split
  · exact fit_unknown
  · next given =>
    rw [fit_iff, String.toList_ofList]
    -- the ends are clear of marks by the trimming, whatever the runs were collapsed to
    refine ⟨by simpa using given, ?_, Blank.head?_inner isEdge _, Blank.getLast?_inner isEdge _⟩
    intro c member
    have place := (Blank.between_inner isEdge collapsed).isInfix.subset member
    rw [← whole] at place
    exact isKept_collapse false _ c place

/-- Just the fit texts stay as they are: a fragment made again is the same. -/
theorem ofText_eq_self_iff (text : String) : ofText text = text ↔ Fit text := by
  constructor
  · intro same
    rw [← same]
    exact fit_ofText text
  · intro fit
    obtain ⟨given, kept, first, last⟩ := (fit_iff text).mp fit
    unfold ofText
    rw [trimEdges_eq, Text.chars_whole, collapse_eq_self kept, Blank.inner_eq_self first last]
    simp [given]

/-- The file is right inside the directory, since a fit fragment has no slash. -/
theorem child_of_fit {fragment : String} (fit : Fit fragment) (directory : Path) :
    directory.child (fragment ++ ".json") =
      ⟨directory.root, directory.parts ++ [fragment ++ ".json"]⟩ := by
  obtain ⟨_, kept, _⟩ := (fit_iff fragment).mp fit
  apply Path.child_of_free
  · rw [String.toList_append, List.mem_append]
    rintro (inside | ending)
    · exact absurd (kept '/' inside) (by decide)
    · exact absurd ending (by decide)
  · have long : (fragment ++ ".json").toList.length = fragment.toList.length + 5 := by
      rw [String.toList_append, List.length_append]
      rfl
    cases chars : (fragment ++ ".json").toList with
    | nil => simp [chars] at long
    | cons c rest =>
      have more : rest ≠ [] := by
        rintro rfl
        simp [chars] at long
      simp [Path.isPart, more]

theorem ofValue_of_writable {script : Value} (writable : script.writable) :
    ofValue script = .ok (ofText script.display) := by
  rw [ofValue, Value.asText, if_pos writable]
  rfl

theorem ofValue_of_wide {script : Value} (wide : script.writable = false) :
    ofValue script = .error .tooWideToWrite := by
  rw [ofValue, Value.asText, wide]
  rfl

theorem statePath_of_get {source : Config.Source} {env : Environment} {config : Config}
    (known : (source.get env).1 = .ok config) (script : Value) :
    (source.statePath env script).1 =
      (Fragment.statePath config.stateDir script).mapError .number := by
  unfold Config.Source.statePath
  generalize source.get env = got at known
  obtain ⟨answer, source'⟩ := got
  subst known
  rfl

/-- For every script whose text can be written there is a fragment fit for a name, from which none
other is made, and once settings are known the file of the script is right inside their directory of
states. For the others there is neither. A text is a fragment of its own just when it is fit. -/
theorem statePath_contained (script : Value) (source : Config.Source) (env : Environment)
    (text : String) :
    (script.writable → ∃ fragment, ofValue script = .ok fragment ∧ Fit fragment ∧
      ofValue (.text fragment) = .ok fragment ∧
      ∀ config, (source.get env).1 = .ok config → (source.statePath env script).1 =
        .ok ⟨config.stateDir.root, config.stateDir.parts ++ [fragment ++ ".json"]⟩) ∧
      (script.writable = false → ofValue script = .error .tooWideToWrite ∧
        ∀ config, (source.get env).1 = .ok config →
          (source.statePath env script).1 = .error (.number .tooWideToWrite)) ∧
      (ofValue (.text text) = .ok text ↔ Fit text) := by
  have again (s : String) : ofValue (.text s) = .ok s ↔ Fit s := by
    rw [ofValue_of_writable rfl, Except.ok.injEq]
    exact ofText_eq_self_iff s
  refine ⟨fun writable => ?_, fun wide => ?_, again text⟩
  · have made := ofValue_of_writable writable
    have fit := fit_ofText script.display
    refine ⟨_, made, fit, (again _).mpr fit, fun config known => ?_⟩
    rw [statePath_of_get known, statePath, made, ← child_of_fit fit]
    rfl
  · have failed := ofValue_of_wide wide
    refine ⟨failed, fun config known => ?_⟩
    rw [statePath_of_get known, statePath, failed]
    rfl

/-- Settings that are known already, with a directory of states. -/
def knownSource : Config.Source :=
  ⟨none, some ⟨none, ⟨1, ["states"]⟩, (560, 360), (120, 120), (110, 30)⟩⟩

/-- A name that climbs out of the directory, with a letter that is not of ASCII. -/
theorem statePath_contained_climbing :
    (Value.text "../é/../evil name").writable ∧
      ofValue (.text "../é/../evil name") = .ok "evil_name" ∧
      (knownSource.statePath ⟨⟨[], []⟩, [], fun _ => .ok .null⟩ (.text "../é/../evil name")).1 =
        .ok ⟨1, ["states", "evil_name.json"]⟩ := by
  obtain ⟨plain, _⟩ :=
    statePath_contained (.text "../é/../evil name") knownSource
      ⟨⟨[], []⟩, [], fun _ => .ok .null⟩ "evil_name"
  obtain ⟨fragment, made, _, _, placed⟩ := plain rfl
  have named : ofValue (.text "../é/../evil name") = .ok "evil_name" := by decide +kernel
  cases named.symm.trans made
  exact ⟨rfl, named, placed _ rfl⟩

/-- A script called by an integer of one digit too many has no fragment. -/
theorem ofValue_unwritable :
    ofValue (.int (Nat.pow 10 digitLimit)) = .error .tooWideToWrite :=
  ofValue_of_wide (by decide +kernel)

end Fragment

end ScriptDialog
