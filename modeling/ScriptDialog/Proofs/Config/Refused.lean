import ScriptDialog.Proofs.Config.Layers
import ScriptDialog.Proofs.Failure

/-! What becomes of entries that are no settings. They are refused with what is wrong about them,
unless the first thing in the way is an infinity where an integer belongs, an integer that a message
or a path cannot show, or a user whose name holds a null character. -/
namespace ScriptDialog

namespace Value

def IsInfinite (v : Value) : Prop := ∃ negative, v = .float (.infinite negative)

theorem infinite_of_truncate {x : Double} (failed : x.truncate = .error .infinite) :
    ∃ negative, x = .infinite negative := by
  cases x with
  | nan => cases failed
  | infinite negative => exact ⟨negative, rfl⟩
  | finite => cases failed

theorem readInt_ne_infinite (literal : String) (text : List Char) :
    Numeral.readInt literal text ≠ .error .infinite := by
  unfold Numeral.readInt
  intro failed
  dsimp only at failed
  split at failed
  · cases failed
  · split at failed <;> cases failed

/-- Only an infinity itself fails as one: no text reads as an infinite integer. -/
theorem toInt_infinite_iff (v : Value) : v.toInt = .error .infinite ↔ v.IsInfinite := by
  constructor
  · intro failed
    cases v with
    | atom a =>
      cases a with
      | float x =>
        obtain ⟨negative, rfl⟩ := infinite_of_truncate failed
        exact ⟨negative, rfl⟩
      | text t =>
        cases t with
        | whole s => exact absurd failed (readInt_ne_infinite _ _)
        | torn t => cases failed
      | bytes b =>
        unfold toInt at failed
        dsimp only at failed
        split at failed
        · exact absurd failed (readInt_ne_infinite _ _)
        · cases failed
      | null | bool | int | exotic => cases failed
    | list | tuple | map | color => cases failed
  · rintro ⟨negative, rfl⟩
    rfl

/-- Stands for some integer. -/
def IsInteger (v : Value) : Prop := ∃ n, v.toInt = .ok n

/-- No integer, and not refused as such: it is infinite, or the value that the refusal shows is too
wide to write. -/
def Uncounted (v shown : Value) : Prop :=
  v.IsInfinite ∨ ¬ v.IsInteger ∧ shown.writable = false

end Value

namespace ConfigFault

/-- A fault that says what is wrong with the entries: their version, their shape, or a cell with a
side that is not positive. -/
def Explains : ConfigFault → Prop
  | .versionNoInt _ | .unknownVersion _ | .sectionNoMapping .. | .noPair .. | .pairNoInts ..
  | .emptyPath _ => True
  | .noRoom width height => width < 1 ∨ height < 1
  | _ => False

/-- A fault that says nothing about the entries: it comes from a conversion. -/
def Foreign (fault : ConfigFault) : Prop := ¬ fault.Explains

theorem foreign_showing (fault : ConfigFault) (explains : fault.Explains) (shown : Value) :
    (fault.showing shown).Foreign ↔ shown.writable = false := by
  unfold showing
  cases shown.writable with
  | false => exact iff_of_true id rfl
  | true => exact iff_of_false (not_not_intro explains) nofun

end ConfigFault

namespace Config

open ConfigFault (Foreign)

variable {env : Environment} {payload : Entries}

theorem intOr_eq_ok_iff (fault : ConfigFault) (v : Value) (n : Int) :
    intOr fault v = .ok n ↔ v.toInt = .ok n := by
  constructor
  · exact toInt_of_intOr
  · intro same
    rw [intOr, same]

theorem intOr_foreign_iff (fault : ConfigFault) (explains : fault.Explains) (shown v : Value) :
    Fails Foreign (intOr (fault.showing shown) v) ↔ v.Uncounted shown := by
  unfold intOr Value.Uncounted Value.IsInteger
  rw [← Value.toInt_infinite_iff]
  split
  · next n same =>
    rw [same]
    exact iff_of_false Fails.ok_iff.mp (by simp)
  · next same =>
    rw [same]
    exact iff_of_true ⟨_, rfl, id⟩ (.inl rfl)
  · next other finite same =>
    rw [same, Fails.error_iff, ConfigFault.foreign_showing fault explains]
    constructor
    · exact fun wide => .inr ⟨by rintro ⟨_, ⟨⟩⟩, wide⟩
    · rintro (infinite | ⟨_, wide⟩)
      · exact absurd (Except.error.inj infinite) finite
      · exact wide

/-- A version without an integer that is not told so, or one too wide to be shown. -/
def VersionUnconverted (v : Value) : Prop :=
  v.Uncounted v ∨ ∃ n, v.toInt = .ok n ∧ (Value.int n).writable = false

theorem checkVersion_foreign_iff (payload : Entries) :
    Fails Foreign (checkVersion payload) ↔ VersionUnconverted (valueOf payload "version") := by
  have known (n : Int) : Fails Foreign (if n = 1 then (.ok () : Except ConfigFault Unit)
      else .error (.showing (.int n) (.unknownVersion n))) ↔ (Value.int n).writable = false := by
    split
    · next one =>
      subst one
      exact iff_of_false Fails.ok_iff.mp (by decide +kernel)
    · rw [Fails.error_iff, ConfigFault.foreign_showing (.unknownVersion n) trivial]
  unfold checkVersion VersionUnconverted
  dsimp only
  simp only [Fails.bind_iff, known, intOr_eq_ok_iff,
    intOr_foreign_iff (.versionNoInt (valueOf payload "version")) trivial]

/-- A section that is no mapping and cannot be shown. -/
def SectionUnconverted (entries : Entries) (name : String) : Prop :=
  ∃ v, entries.field? name = some v ∧ v.entries? = none ∧ v.writable = false

theorem sectionOf_foreign_iff (entries : Entries) (name dotted : String) :
    Fails Foreign (sectionOf entries name dotted) ↔ SectionUnconverted entries name := by
  unfold sectionOf SectionUnconverted
  split
  · next absent =>
    rw [absent]
    exact iff_of_false Fails.ok_iff.mp (by rintro ⟨_, ⟨⟩, _⟩)
  · next inner found =>
    rw [found]
    exact iff_of_false Fails.ok_iff.mp (by rintro ⟨_, ⟨⟩, ⟨⟩, _⟩)
  · next v noMap found =>
    have none : v.entries? = none := by
      cases v with
      | map inner => exact absurd rfl (noMap inner)
      | atom | list | tuple | color => rfl
    rw [Fails.error_iff, ConfigFault.foreign_showing (.sectionNoMapping dotted v) trivial,
      found]
    simp [none]

/-- A conversion fails on a value that has to be a list of two integers: it is none and cannot be
shown, or one of its items is no integer and not refused as such. -/
inductive PairUnconverted (v : Value) : Prop where
  | shape (noPair : ∀ a b, v.items? ≠ some [a, b]) (wide : v.writable = false)
  | first {a b : Value} (items : v.items? = some [a, b]) (here : a.Uncounted v)
  | second {a b : Value} (items : v.items? = some [a, b]) (before : a.IsInteger)
      (here : b.Uncounted v)

theorem intPair_foreign_iff (entries : Entries) (name dotted : String) :
    Fails Foreign (intPair entries name dotted) ↔ PairUnconverted (valueOf entries name) := by
  unfold intPair
  dsimp only
  generalize valueOf entries name = v
  split
  · next a b items =>
    simp only [Fails.bind_iff, Fails.pure_iff, and_false, exists_false, or_false,
      intOr_foreign_iff (.pairNoInts dotted v) trivial, exists_and_right, intOr_eq_ok_iff]
    constructor
    · rintro (here | ⟨before, here⟩)
      · exact .first items here
      · exact .second items before here
    · rintro (⟨noPair, _⟩ | ⟨items', here⟩ | ⟨items', before, here⟩)
      · exact absurd items (noPair a b)
      · cases items.symm.trans items'
        exact .inl here
      · cases items.symm.trans items'
        exact .inr ⟨before, here⟩
  · next noPair =>
    rw [Fails.error_iff, ConfigFault.foreign_showing (.noPair dotted v) trivial]
    constructor
    · exact .shape noPair
    · rintro (⟨_, wide⟩ | ⟨items, _⟩ | ⟨items, _⟩)
      · exact wide
      · exact absurd items (noPair _ _)
      · exact absurd items (noPair _ _)

/-- A cell whose size makes a conversion fail, or one without room whose sides cannot be shown. -/
def CellUnconverted (dialog : Entries) : Prop :=
  PairUnconverted (valueOf dialog "cell_size") ∨ ∃ width height,
    intPair dialog "cell_size" "ui.dialog.cell_size" = .ok (width, height) ∧
      (width < 1 ∨ height < 1) ∧ (Value.pair (.int width) (.int height)).writable = false

theorem cellSizeOf_foreign_iff (dialog : Entries) :
    Fails Foreign (cellSizeOf dialog) ↔ CellUnconverted dialog := by
  have known (width height : Int) :
      Fails Foreign (if min width height ≤ 0 then
        .error (.showing (.pair (.int width) (.int height)) (.noRoom width height))
        else (.ok (width, height) : Except ConfigFault (Int × Int))) ↔
      (width < 1 ∨ height < 1) ∧ (Value.pair (.int width) (.int height)).writable = false := by
    split
    · have low : width < 1 ∨ height < 1 := by omega
      rw [Fails.error_iff, ConfigFault.foreign_showing (.noRoom width height) low,
        and_iff_right low]
    · exact iff_of_false Fails.ok_iff.mp (by omega)
  unfold cellSizeOf CellUnconverted
  simp only [Fails.bind_iff, intPair_foreign_iff, known, Prod.exists]

/-- A path that has a text, which either cannot be written or begins with a user whose name holds a
null character. -/
def PathUnconverted (v : Value) : Prop :=
  v.truthy ∧ (v.writable = false ∨ '\x00' ∈ Environment.userName (Blank.trim v.display.chars))

theorem pathText_foreign_iff (v : Value) :
    Fails Foreign (pathText v) ↔ v.truthy ∧ v.writable = false := by
  unfold pathText Value.asText
  split
  · next truthy =>
    rw [and_iff_right truthy, Fails.map_iff]
    split
    · next writable => exact iff_of_false Fails.ok_iff.mp (by rw [writable]; nofun)
    · next wide => exact iff_of_true ⟨_, rfl, id⟩ (Bool.not_eq_true _ ▸ wide)
  · next empty => exact iff_of_false Fails.ok_iff.mp fun both => empty both.1

theorem pathText_of_writable {v : Value} (truthy : v.truthy) (writable : v.writable) :
    pathText v = .ok (Blank.trim v.display.chars) := by
  unfold pathText Value.asText
  rw [if_pos truthy, if_pos writable]
  rfl

theorem pathOf_foreign_iff (env : Environment) (entries : Entries) (name dotted : String) :
    Fails Foreign (pathOf env entries name dotted) ↔ PathUnconverted (valueOf entries name) := by
  have known (text : List Char) : Fails Foreign (if text = [] then .error (.emptyPath dotted)
      else if '\x00' ∈ Environment.userName text then .error (.file .nullInPath)
      else .ok (Path.ofChars (env.expandVariables 0 (env.expandHome text)))) ↔
      '\x00' ∈ Environment.userName text := by
    split
    · next empty =>
      subst empty
      exact iff_of_false (Fails.error_iff.not.mpr (not_not_intro trivial)) List.not_mem_nil
    · split
      · next null => exact iff_of_true ⟨_, rfl, id⟩ null
      · next clear => exact iff_of_false Fails.ok_iff.mp clear
  unfold pathOf PathUnconverted
  generalize valueOf entries name = v
  simp only [Fails.bind_iff, pathText_foreign_iff, known]
  constructor
  · rintro (⟨truthy, wide⟩ | ⟨text, read, null⟩)
    · exact ⟨truthy, .inl wide⟩
    · -- an empty text has no user in it
      have given : text ≠ [] := by
        rintro rfl
        cases null
      obtain ⟨truthy, _, rfl⟩ := pathText_ok read given
      exact ⟨truthy, .inr null⟩
  · rintro ⟨truthy, wide | null⟩
    · exact .inl ⟨truthy, wide⟩
    · cases writable : v.writable with
      | false => exact .inl ⟨truthy, rfl⟩
      | true => exact .inr ⟨_, pathText_of_writable truthy writable, null⟩

/-- One of the nested sections about dialogs cannot be shown. -/
def DialogUnconverted (payload : Entries) : Prop :=
  SectionUnconverted payload "ui" ∨
    ∃ ui, sectionOf payload "ui" "ui" = .ok ui ∧ SectionUnconverted ui "dialog"

theorem dialogOf_foreign_iff (payload : Entries) :
    Fails Foreign (dialogOf payload) ↔ DialogUnconverted payload := by
  unfold dialogOf DialogUnconverted
  simp only [Fails.bind_iff, sectionOf_foreign_iff]

/-- What is left of building once the sections are known. -/
def measured (env : Environment) (paths dialog : Entries) (path : Option Path) :
    Except ConfigFault Config := do
  let cellSize ← cellSizeOf dialog
  let stateDir ← pathOf env paths "state_dir" "paths.state_dir"
  let windowSize ← intPair dialog "window_size" "ui.dialog.window_size"
  let windowPos ← intPair dialog "window_pos" "ui.dialog.window_pos"
  return ⟨path, stateDir, windowSize, windowPos, cellSize⟩

/-- The first setting in the way is a value that a conversion fails on. -/
inductive MeasureUnconverted (env : Environment) (paths dialog : Entries) : Prop where
  | cellSize (here : CellUnconverted dialog)
  | stateDir {cell : Int × Int} (cellSize : cellSizeOf dialog = .ok cell)
      (here : PathUnconverted (valueOf paths "state_dir"))
  | windowSize {cell : Int × Int} {dir : Path} (cellSize : cellSizeOf dialog = .ok cell)
      (stateDir : pathOf env paths "state_dir" "paths.state_dir" = .ok dir)
      (here : PairUnconverted (valueOf dialog "window_size"))
  | windowPos {cell size : Int × Int} {dir : Path} (cellSize : cellSizeOf dialog = .ok cell)
      (stateDir : pathOf env paths "state_dir" "paths.state_dir" = .ok dir)
      (windowSize : intPair dialog "window_size" "ui.dialog.window_size" = .ok size)
      (here : PairUnconverted (valueOf dialog "window_pos"))

theorem measured_foreign_iff (env : Environment) (paths dialog : Entries) (path : Option Path) :
    Fails Foreign (measured env paths dialog path) ↔ MeasureUnconverted env paths dialog := by
  unfold measured
  simp only [Fails.bind_iff, Fails.pure_iff, and_false, exists_false, or_false,
    cellSizeOf_foreign_iff,
    pathOf_foreign_iff, intPair_foreign_iff]
  constructor
  · rintro (here | ⟨cell, cellSize, here | ⟨dir, stateDir, here | ⟨size, windowSize, here⟩⟩⟩)
    · exact .cellSize here
    · exact .stateDir cellSize here
    · exact .windowSize cellSize stateDir here
    · exact .windowPos cellSize stateDir windowSize here
  · rintro (here | ⟨cellSize, here⟩ | ⟨cellSize, stateDir, here⟩ |
      ⟨cellSize, stateDir, windowSize, here⟩)
    · exact .inl here
    · exact .inr ⟨_, cellSize, .inl here⟩
    · exact .inr ⟨_, cellSize, .inr ⟨_, stateDir, .inl here⟩⟩
    · exact .inr ⟨_, cellSize, .inr ⟨_, stateDir, .inr ⟨_, windowSize, here⟩⟩⟩

/-- The first thing in the way of the settings is a value that a conversion fails on: the version, a
section, or a setting, each after all before it was in order. -/
inductive Unconverted (env : Environment) (payload : Entries) : Prop where
  | version (here : VersionUnconverted (valueOf payload "version"))
  | paths (version : checkVersion payload = .ok ()) (here : SectionUnconverted payload "paths")
  | dialog {paths : Entries} (version : checkVersion payload = .ok ())
      (inPaths : sectionOf payload "paths" "paths" = .ok paths) (here : DialogUnconverted payload)
  | measure {paths dialog : Entries} (version : checkVersion payload = .ok ())
      (inPaths : sectionOf payload "paths" "paths" = .ok paths)
      (inDialog : dialogOf payload = .ok dialog) (here : MeasureUnconverted env paths dialog)

theorem build_steps (env : Environment) (payload : Entries) (path : Option Path) :
    build env payload path =
      (do
        checkVersion payload
        let paths ← sectionOf payload "paths" "paths"
        let dialog ← dialogOf payload
        measured env paths dialog path) :=
  rfl

theorem build_foreign_iff (env : Environment) (payload : Entries) (path : Option Path) :
    Fails Foreign (build env payload path) ↔ Unconverted env payload := by
  rw [build_steps]
  simp only [Fails.bind_iff, checkVersion_foreign_iff, sectionOf_foreign_iff, dialogOf_foreign_iff,
    measured_foreign_iff]
  constructor
  · rintro (here | ⟨_, version, here | ⟨paths, inPaths, here | ⟨dialog, inDialog, here⟩⟩⟩)
    · exact .version here
    · exact .paths version here
    · exact .dialog version inPaths here
    · exact .measure version inPaths inDialog here
  · rintro (here | ⟨version, here⟩ | ⟨version, inPaths, here⟩ | ⟨version, inPaths, inDialog, here⟩)
    · exact .inl here
    · exact .inr ⟨(), version, .inl here⟩
    · exact .inr ⟨(), version, .inr ⟨_, inPaths, .inl here⟩⟩
    · exact .inr ⟨(), version, .inr ⟨_, inPaths, .inr ⟨_, inDialog, here⟩⟩⟩

/-- In the settings that are built a cell has room. -/
theorem room_of_build {path : Option Path} {config : Config}
    (done : build env payload path = .ok config) :
    1 ≤ config.cellSize.1 ∧ 1 ≤ config.cellSize.2 := by
  obtain ⟨paths, dialog, read⟩ := read_of_build done
  exact (cellSizeOf_ok read.cellSize).2

/-- A version other than the known one is refused, if it can be shown. -/
theorem build_of_version {n : Int} (other : n ≠ 1) (path : Option Path) :
    build env [(.text "version", .int n)] path =
      .error (.showing (.int n) (.unknownVersion n)) := by
  have read : checkVersion [(.text "version", .int n)] =
      if n = 1 then .ok () else .error (.showing (.int n) (.unknownVersion n)) := rfl
  rw [build_steps, read, if_neg other]
  rfl

end Config

end ScriptDialog
