import ScriptDialog.Config.Load
import ScriptDialog.Proofs.Config.Merge
import ScriptDialog.Proofs.Success

/-! What stands behind settings that were loaded: the files that were found and read, their entries
over the packaged ones, and the values from which each setting was made. -/
namespace ScriptDialog.Config

/-- What is relied on of the reader of the notation. -/
structure Reads (env : Environment) : Prop where
  packaged : env.readNotation packagedText = .ok (.map defaults)
  /-- No mapping that is read has two equal keys. -/
  tidy : ∀ text v, env.readNotation text = .ok v → v.Tidy

/-- The file that is found, if any: the one in the working directory before the one at home. -/
inductive Discovers (env : Environment) : Option Path → Prop where
  | near (isNear : env.files.isFile (nearPath env) = .ok true) :
      Discovers env (some (nearPath env))
  | home {home : Path} (known : homePath env = .ok home)
      (notNear : env.files.isFile (nearPath env) = .ok false)
      (isHome : env.files.isFile home = .ok true) : Discovers env (some home)
  | nowhere {home : Path} (known : homePath env = .ok home)
      (notNear : env.files.isFile (nearPath env) = .ok false)
      (notHome : env.files.isFile home = .ok false) : Discovers env none

variable {env : Environment} {explicit discovered : Option Path} {config : Config}

theorem discovers (found : discover env = .ok discovered) : Discovers env discovered := by
  obtain ⟨home, known, found⟩ := Success.of_bind found
  obtain ⟨isNear, near, found⟩ := Success.of_bind found
  have near := Success.of_mapError near
  cases isNear with
  | true =>
    cases found
    exact .near near
  | false =>
    obtain ⟨isHome, there, found⟩ := Success.of_bind found
    have there := Success.of_mapError there
    cases isHome with
    | true =>
      cases found
      exact .home known near there
    | false =>
      cases found
      exact .nowhere known near there

theorem tidy_readEntries {text : List Char} {source : Path} {entries : Entries} (reads : Reads env)
    (read : readEntries env text source = .ok entries) : (Value.map entries).Tidy := by
  unfold readEntries at read
  split at read
  · cases read
  · cases read
  · cases read
  · next loaded =>
    cases read
    exact reads.tidy _ _ loaded
  · cases read
    exact .map .nil (by simp)
  · cases read

theorem tidy_readLayer {p : Path} {entries : Entries} (reads : Reads env)
    (read : readLayer env p = .ok entries) : (Value.map entries).Tidy := by
  obtain ⟨text, _, read⟩ := Success.of_bind read
  exact tidy_readEntries reads read

theorem readEntries_packaged (reads : Reads env) :
    readEntries env packagedText packagedSource = .ok defaults := by
  rw [readEntries, reads.packaged]

/-- The entries of files, from the highest, over those of a base. -/
def stacked (files : List Entries) (base : Entries) : Entries :=
  files.foldr (fun upper lower => merge lower upper) base

theorem addLayer_ok {base payload : Entries} {file : Option Path}
    (added : addLayer env base file = .ok payload) :
    ∃ files, file.toList.mapM (readLayer env) = .ok files ∧ payload = stacked files base := by
  cases file with
  | none =>
    cases added
    exact ⟨[], rfl, rfl⟩
  | some p =>
    obtain ⟨entries, read, rfl⟩ := Success.of_map added
    refine ⟨[entries], ?_, rfl⟩
    rw [Option.toList_some, List.mapM_cons, read]
    rfl

/-- What is left of a load once the explicit file is known to be there. -/
def loadLayers (env : Environment) (explicit : Option Path) : Except ConfigFault Config := do
  let discovered ← discover env
  let packaged ← readEntries env packagedText packagedSource
  let payload ← addLayer env packaged discovered
  let payload ← addLayer env payload explicit
  build env payload (explicit.or discovered)

theorem load_some (env : Environment) (p : Path) : load env (some p) =
    isFile env p >>= fun present =>
      if present then loadLayers env (some p) else .error (.missing p) := by
  unfold load
  dsimp only
  rcases isFile env p with fault | (_ | _) <;> rfl

theorem load_steps (loaded : load env explicit = .ok config) :
    ∃ discovered packaged files, Discovers env discovered ∧
      readEntries env packagedText packagedSource = .ok packaged ∧
      (explicit.toList ++ discovered.toList).mapM (readLayer env) = .ok files ∧
      build env (stacked files packaged) (explicit.or discovered) = .ok config := by
  have steps : loadLayers env explicit = .ok config := by
    cases explicit with
    | none => exact loaded
    | some p =>
      rw [load_some] at loaded
      obtain ⟨present, _, loaded⟩ := Success.of_bind loaded
      cases present with
      | true => exact loaded
      | false => cases loaded
  obtain ⟨discovered, found, steps⟩ := Success.of_bind steps
  obtain ⟨packaged, base, steps⟩ := Success.of_bind steps
  obtain ⟨payload, lower, steps⟩ := Success.of_bind steps
  obtain ⟨payload', upper, built⟩ := Success.of_bind steps
  obtain ⟨files, read, rfl⟩ := addLayer_ok lower
  obtain ⟨files', read', rfl⟩ := addLayer_ok upper
  refine ⟨discovered, packaged, files' ++ files, discovers found, base, ?_, ?_⟩
  · rw [List.mapM_append, read', read]
    rfl
  · rw [stacked, List.foldr_append]
    exact built

/-- A list of two numbers that stand for these integers. -/
def IsPair (v : Value) (pair : Int × Int) : Prop :=
  ∃ a b, v.items? = some [a, b] ∧ a.toInt = .ok pair.1 ∧ b.toInt = .ok pair.2

/-- The text of the value, trimmed, with the home directory and variables put in, is this path. -/
def IsPath (env : Environment) (v : Value) (p : Path) : Prop :=
  v.truthy ∧ Blank.trim v.display.chars ≠ [] ∧
    p = Path.ofChars (env.expandVariables 0 (env.expandHome (Blank.trim v.display.chars)))

variable {payload : Entries} {name dotted : String} {v : Value}

theorem noMap_of_isPair {pair : Int × Int} (isPair : IsPair v pair) : v.entries? = none := by
  obtain ⟨a, b, items, _⟩ := isPair
  cases v with
  | map entries => cases items
  | atom | list | tuple | color => rfl

theorem get?_of_field? (found : payload.field? name = some v) :
    payload.get? (.text name) = some v := by
  unfold Entries.field? at found
  split at found
  · cases found
  · exact found

theorem get?_of_valueOf (given : valueOf payload name ≠ .null) :
    payload.get? (.text name) = some (valueOf payload name) := by
  unfold valueOf at given ⊢
  cases found : payload.field? name with
  | none =>
    rw [found] at given
    exact absurd rfl given
  | some v => exact get?_of_field? found

theorem toInt_of_intOr {fault : ConfigFault} {n : Int} (read : intOr fault v = .ok n) :
    v.toInt = .ok n := by
  unfold intOr at read
  split at read
  · next same =>
    cases read
    exact same
  · cases read
  · cases read

theorem intPair_ok {pair : Int × Int} (read : intPair payload name dotted = .ok pair) :
    ∃ v, payload.get? (.text name) = some v ∧ IsPair v pair := by
  unfold intPair at read
  dsimp only at read
  split at read
  · next a b items =>
    have given : valueOf payload name ≠ .null := by
      intro null
      rw [null] at items
      cases items
    obtain ⟨m, first, read⟩ := Success.of_bind read
    obtain ⟨n, second, read⟩ := Success.of_bind read
    cases read
    exact ⟨_, get?_of_valueOf given, a, b, items, toInt_of_intOr first, toInt_of_intOr second⟩
  · cases read

theorem pathText_ok {text : List Char} (read : pathText v = .ok text) (given : text ≠ []) :
    v.truthy ∧ v.writable ∧ text = Blank.trim v.display.chars := by
  unfold pathText at read
  split at read
  · next truthy =>
    obtain ⟨s, shown, rfl⟩ := Success.of_map read
    obtain ⟨writable, rfl⟩ := Value.asText_eq_ok_iff.mp (Success.of_mapError shown)
    exact ⟨truthy, writable, rfl⟩
  · cases read
    exact absurd rfl given

theorem pathOf_ok {p : Path} (read : pathOf env payload name dotted = .ok p) :
    ∃ v, payload.get? (.text name) = some v ∧ IsPath env v p := by
  obtain ⟨text, shown, read⟩ := Success.of_bind read
  split at read
  · cases read
  · next given =>
    split at read
    · cases read
    · cases read
      obtain ⟨truthy, _, rfl⟩ := pathText_ok shown given
      refine ⟨_, get?_of_valueOf ?_, truthy, given, rfl⟩
      intro null
      rw [null] at truthy
      cases truthy

theorem sectionOf?_of_sectionOf {inner : Entries} {key : String}
    (read : sectionOf payload name dotted = .ok inner) (found : inner.get? (.text key) = some v) :
    payload.sectionOf? name = some inner := by
  unfold sectionOf at read
  split at read
  · cases read
    cases found
  · next here =>
    cases read
    exact Entries.sectionOf?_eq_some_iff.mpr (get?_of_field? here)
  · cases read

/-- Where the merged entries give the settings. -/
structure Built (env : Environment) (payload : Entries) (config : Config) : Prop where
  stateDir : ∃ v, payload.valueAt? ["paths"] "state_dir" = some v ∧ IsPath env v config.stateDir
  windowSize : ∃ v, payload.valueAt? ["ui", "dialog"] "window_size" = some v ∧
    IsPair v config.windowSize
  windowPos : ∃ v, payload.valueAt? ["ui", "dialog"] "window_pos" = some v ∧
    IsPair v config.windowPos
  cellSize : ∃ v, payload.valueAt? ["ui", "dialog"] "cell_size" = some v ∧
    IsPair v config.cellSize

theorem valueAt?_of_dialog {dialog : Entries} (inDialog : dialogOf payload = .ok dialog)
    (found : dialog.get? (.text name) = some v) :
    payload.valueAt? ["ui", "dialog"] name = some v := by
  obtain ⟨ui, inUi, inDialog⟩ := Success.of_bind inDialog
  have inner := sectionOf?_of_sectionOf inDialog found
  have outer := sectionOf?_of_sectionOf inUi (Entries.sectionOf?_eq_some_iff.mp inner)
  simpa [Entries.valueAt?, outer, inner] using found

/-- A cell has room, and its sides are those of the pair that is given. -/
theorem cellSizeOf_ok {dialog : Entries} {cell : Int × Int} (read : cellSizeOf dialog = .ok cell) :
    intPair dialog "cell_size" "ui.dialog.cell_size" = .ok cell ∧ 1 ≤ cell.1 ∧ 1 ≤ cell.2 := by
  obtain ⟨⟨width, height⟩, pair, read⟩ := Success.of_bind read
  dsimp only at read
  split at read
  · cases read
  · next room =>
    cases read
    exact ⟨pair, by omega, by omega⟩

/-- What was read for the settings, from these two sections. -/
structure Read (env : Environment) (payload paths dialog : Entries) (path : Option Path)
    (config : Config) : Prop where
  inPaths : sectionOf payload "paths" "paths" = .ok paths
  inDialog : dialogOf payload = .ok dialog
  path : config.path = path
  cellSize : cellSizeOf dialog = .ok config.cellSize
  stateDir : pathOf env paths "state_dir" "paths.state_dir" = .ok config.stateDir
  windowSize : intPair dialog "window_size" "ui.dialog.window_size" = .ok config.windowSize
  windowPos : intPair dialog "window_pos" "ui.dialog.window_pos" = .ok config.windowPos

theorem read_of_build {path : Option Path} (done : build env payload path = .ok config) :
    ∃ paths dialog, Read env payload paths dialog path config := by
  obtain ⟨_, _, done⟩ := Success.of_bind done
  obtain ⟨paths, inPaths, done⟩ := Success.of_bind done
  obtain ⟨dialog, inDialog, done⟩ := Success.of_bind done
  obtain ⟨cellSize, readCell, done⟩ := Success.of_bind done
  obtain ⟨stateDir, readDir, done⟩ := Success.of_bind done
  obtain ⟨windowSize, readSize, done⟩ := Success.of_bind done
  obtain ⟨windowPos, readPos, done⟩ := Success.of_bind done
  cases done
  exact ⟨paths, dialog, inPaths, inDialog, rfl, readCell, readDir, readSize, readPos⟩

theorem built {path : Option Path} (done : build env payload path = .ok config) :
    config.path = path ∧ Built env payload config := by
  obtain ⟨paths, dialog, inPaths, inDialog, path, readCell, readDir, readSize, readPos⟩ :=
    read_of_build done
  obtain ⟨dir, dirHere, isDir⟩ := pathOf_ok readDir
  obtain ⟨size, sizeHere, isSize⟩ := intPair_ok readSize
  obtain ⟨pos, posHere, isPos⟩ := intPair_ok readPos
  obtain ⟨cell, cellHere, isCell⟩ := intPair_ok (cellSizeOf_ok readCell).1
  have inner := sectionOf?_of_sectionOf inPaths dirHere
  exact ⟨path, ⟨dir, by simpa [Entries.valueAt?, inner] using dirHere, isDir⟩,
    ⟨size, valueAt?_of_dialog inDialog sizeHere, isSize⟩,
    ⟨pos, valueAt?_of_dialog inDialog posHere, isPos⟩,
    ⟨cell, valueAt?_of_dialog inDialog cellHere, isCell⟩⟩

end ScriptDialog.Config
