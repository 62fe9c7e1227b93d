import ScriptDialog.Proofs.Config.Rewritten
import ScriptDialog.Proofs.Yaml.Tidy

/-! Which file decides a setting: the highest one that gives it, the file set explicitly before the
one that is found, and the packaged settings last. Files are found in the working directory first;
what the home directory holds does not matter then. -/
namespace ScriptDialog.Config

variable {env : Environment} {explicit discovered : Option Path} {config : Config} {v : Value}
  {name : Text}

/-- The value in the highest of the layers that give one. -/
def highest? (layers : List Entries) (place : List Text) (name : Text) : Option Value :=
  layers.findSome? (·.valueAt? place name)

/-- What the layers give together is what the highest gives, unless it is a mapping. -/
theorem highest?_of_stacked {files : List Entries} {base : Entries} {place : List Text}
    (tidy : ∀ layer ∈ files, (Value.map layer).Tidy) (noMap : v.entries? = none)
    (found : (stacked files base).valueAt? place name = some v) :
    highest? (files ++ [base]) place name = some v := by
  induction files with
  | nil => simpa [highest?, stacked] using found
  | cons layer files ih =>
    obtain ⟨here, lower⟩ := List.forall_mem_cons.mp tidy
    rw [stacked, List.foldr_cons] at found
    unfold highest?
    rw [List.cons_append, List.findSome?_cons]
    cases said : layer.valueAt? place name with
    | none => exact ih lower (valueAt?_merge_of_lower here said found)
    | some w =>
      rw [valueAt?_merge_of_upper here said] at found
      exact congrArg some (eq_of_layered (Option.some.inj found) noMap)

/-- Both files give the directory of states as a mapping. -/
def GiveMappings (files : List Entries) (upper lower : Entries) : Prop :=
  files.map (·.valueAt? ["paths"] "state_dir") = [some (.map upper), some (.map lower)]

variable {file upper lower : Entries}

theorem stateDir_of_defaults :
    defaults.valueAt? ["paths"] "state_dir" = some (.text "data/dialog_state") :=
  rfl

theorem stateDir_over_defaults (tidy : (Value.map file).Tidy)
    (said : file.valueAt? ["paths"] "state_dir" = some v) :
    (merge defaults file).valueAt? ["paths"] "state_dir" = some v := by
  rw [valueAt?_merge_of_upper tidy said, stateDir_of_defaults, layered_over_noMap rfl]

theorem stateDir_of_one (tidy : (Value.map file).Tidy)
    (found : (merge defaults file).valueAt? ["paths"] "state_dir" = some v) :
    highest? [file, defaults] ["paths"] "state_dir" = some v := by
  cases said : file.valueAt? ["paths"] "state_dir" with
  | none => simp [highest?, said, valueAt?_merge_of_lower tidy said found]
  | some w =>
    rw [stateDir_over_defaults tidy said] at found
    simpa [highest?, said] using found

theorem stateDir_of_mappings {entries entries' : Entries} (tidy : (Value.map upper).Tidy)
    (tidy' : (Value.map lower).Tidy) (both : GiveMappings [upper, lower] entries entries') :
    (merge (merge defaults lower) upper).valueAt? ["paths"] "state_dir" =
      some (.map (merge entries' entries)) := by
  simp only [GiveMappings, List.map_cons, List.map_nil, List.cons.injEq, and_true] at both
  rw [valueAt?_merge_of_upper tidy both.1, stateDir_over_defaults tidy' both.2, layered_map_map]

theorem stateDir_of_two (tidy : (Value.map upper).Tidy) (tidy' : (Value.map lower).Tidy)
    (found : (merge (merge defaults lower) upper).valueAt? ["paths"] "state_dir" = some v)
    (single : ¬ ∃ entries entries', GiveMappings [upper, lower] entries entries') :
    highest? [upper, lower, defaults] ["paths"] "state_dir" = some v := by
  cases said : upper.valueAt? ["paths"] "state_dir" with
  | none =>
    have decided := stateDir_of_one tidy' (valueAt?_merge_of_lower tidy said found)
    simpa [highest?, said] using decided
  | some w =>
    rw [valueAt?_merge_of_upper tidy said] at found
    have same : w = v := by
      rcases layered_eq_or ((merge defaults lower).valueAt? ["paths"] "state_dir") w with
        same | ⟨entries', entries, below, rfl⟩
      · rw [same] at found
        exact Option.some.inj found
      · -- the packaged value is a text, so a mapping below comes from the lower file
        refine absurd ⟨entries, entries', ?_⟩ single
        have decided := stateDir_of_one tidy' below
        cases said' : lower.valueAt? ["paths"] "state_dir" with
        | none => simp [highest?, said', stateDir_of_defaults, Value.text] at decided
        | some w' =>
          simp only [highest?, List.findSome?_cons, said'] at decided
          simp [GiveMappings, said, said', decided]
    subst same
    simp [highest?, said]

/-- Which layers the settings of a load come from. -/
structure Decided (env : Environment) (explicit discovered : Option Path) (files : List Entries)
    (config : Config) : Prop where
  discovers : Discovers env discovered
  /-- The entries of the files, from the highest. -/
  read : (explicit.toList ++ discovered.toList).mapM (readLayer env) = .ok files
  path : config.path = explicit.or discovered
  windowSize : ∃ v, highest? (files ++ [defaults]) ["ui", "dialog"] "window_size" = some v ∧
    IsPair v config.windowSize
  windowPos : ∃ v, highest? (files ++ [defaults]) ["ui", "dialog"] "window_pos" = some v ∧
    IsPair v config.windowPos
  cellSize : ∃ v, highest? (files ++ [defaults]) ["ui", "dialog"] "cell_size" = some v ∧
    IsPair v config.cellSize
  stateDir : (¬ ∃ upper lower, GiveMappings files upper lower) →
    ∃ v, highest? (files ++ [defaults]) ["paths"] "state_dir" = some v ∧
      IsPath env v config.stateDir
  /-- Two mappings are put together, entry by entry. -/
  mergedStateDir : ∀ upper lower, GiveMappings files upper lower →
    IsPath env (.map (merge lower upper)) config.stateDir

/-- One file is set at most, and one is found at most. -/
theorem length_files {files : List Entries}
    (read : (explicit.toList ++ discovered.toList).mapM (readLayer env) = .ok files) :
    files.length ≤ 2 := by
  rw [Success.length_of_mapM read]
  cases explicit <;> cases discovered <;> simp

theorem decided {files : List Entries} (reads : Reads env) (found : Discovers env discovered)
    (read : (explicit.toList ++ discovered.toList).mapM (readLayer env) = .ok files)
    (done : build env (stacked files defaults) (explicit.or discovered) = .ok config) :
    Decided env explicit discovered files config := by
  obtain ⟨path, dir, size, pos, cell⟩ := built done
  -- the case split over the files would work out the settings in it
  clear done
  have tidy : ∀ layer ∈ files, (Value.map layer).Tidy := by
    intro layer member
    obtain ⟨p, _, read⟩ := Success.of_mapM read layer member
    exact tidy_readLayer reads read
  have pair {name : String} {m : Int × Int}
      (given : ∃ v, (stacked files defaults).valueAt? ["ui", "dialog"] name = some v ∧ IsPair v m) :
      ∃ v, highest? (files ++ [defaults]) ["ui", "dialog"] name = some v ∧ IsPair v m := by
    obtain ⟨v, here, isPair⟩ := given
    exact ⟨v, highest?_of_stacked tidy (noMap_of_isPair isPair) here, isPair⟩
  obtain ⟨v, here, isPath⟩ := dir
  refine ⟨found, read, path, pair size, pair pos, pair cell, fun single => ⟨v, ?_, isPath⟩, ?_⟩
  · match files, length_files read with
    | [], _ => simpa [highest?, stacked] using here
    | [file], _ => exact stateDir_of_one (tidy file (by simp)) here
    | [upper, lower], _ =>
      exact stateDir_of_two (tidy upper (by simp)) (tidy lower (by simp)) here single
  · intro entries entries' both
    obtain ⟨upper, rest, rfl, _, more⟩ := List.map_eq_cons_iff.mp both
    obtain ⟨lower, rest, rfl, _, more⟩ := List.map_eq_cons_iff.mp more
    cases List.map_eq_nil_iff.mp more
    have merged := stateDir_of_mappings (tidy upper (by simp)) (tidy lower (by simp)) both
    cases here.symm.trans merged
    exact isPath

theorem get_fresh (explicit : Option Path) (env : Environment) :
    (Source.get ⟨explicit, none⟩ env).1 = load env explicit := by
  unfold Source.get
  cases load env explicit <;> rfl

/-- Each setting comes from the highest layer that gives it, and with a file in the working
directory the content of the one at home does not matter. -/
theorem load_decided (env : Environment) (explicit : Option Path) (config : Config)
    (reads : Reads env) (loaded : (Source.get ⟨explicit, none⟩ env).1 = .ok config) :
    (∃ discovered files, Decided env explicit discovered files config) ∧
    ∀ home l old bytes, homePath env = .ok home → env.files.locate home = .ok l →
      env.files.node? l = some (.file old) → env.files.isFile (nearPath env) = .ok true →
      (∀ p ∈ explicit, env.files.locate p ≠ .ok l) →
      (Source.get ⟨explicit, none⟩ (rewritten env l bytes)).1 = .ok config := by
  rw [get_fresh] at loaded
  refine ⟨?_, fun home l old bytes known place file near other => ?_⟩
  · obtain ⟨discovered, packaged, files, found, base, read, done⟩ := load_steps loaded
    cases (readEntries_packaged reads).symm.trans base
    exact ⟨discovered, files, decided reads found read done⟩
  · rw [get_fresh, load_rewritten known place file near other, loaded]

/-- A file in the working directory and one at home, and another one that can be set explicitly. -/
def furnished (near home other : String) : Environment :=
  ⟨⟨["work"], [(["work"], .directory), (["work", ".autodialog"], .directory),
    (["work", ".autodialog", "config.yaml"], .file (Utf8.encode near.toList)),
    (["work", "other.yaml"], .file (Utf8.encode other.toList)), (["home"], .directory),
    (["home", ".config"], .directory), (["home", ".config", "autodialog"], .directory),
    (["home", ".config", "autodialog", "config.yaml"], .file (Utf8.encode home.toList))]⟩,
    [("HOME", "/home")], Yaml.load⟩

def otherPath : Path := ⟨0, ["other.yaml"]⟩

def homeLocation : Location := ["home", ".config", "autodialog", "config.yaml"]

/-- What is given anew, with the packaged settings put in for their text. -/
theorem get_of_reads {p : Path} (reads : Reads env) (present : isFile env p = .ok true) :
    (Source.get ⟨some p, none⟩ env).1 = discover env >>= fun discovered =>
      addLayer env defaults discovered >>= fun payload =>
        addLayer env payload (some p) >>= fun payload => build env payload (some p) := by
  rw [get_fresh, load_some, present]
  change loadLayers env (some p) = _
  simp only [loadLayers, readEntries_packaged reads]
  rfl

/-- Each of three layers decides one measure, whatever is at home. -/
theorem load_decided_layers :
    let env := furnished "ui: \x7bdialog: \x7bwindow_size: [1, 2], window_pos: [3, 4]\x7d\x7d"
      "ui: 0" "ui: \x7bdialog: \x7bwindow_size: [5, 6]\x7d\x7d"
    ∃ config, (Source.get ⟨some otherPath, none⟩ env).1 = .ok config ∧
      (config.windowSize, config.windowPos, config.cellSize) = ((5, 6), (3, 4), (110, 30)) ∧
      (∃ discovered files, Decided env (some otherPath) discovered files config) ∧
      ∀ bytes, (Source.get ⟨some otherPath, none⟩ (rewritten env homeLocation bytes)).1 =
        .ok config := by
  intro env
  have reads : Reads env := Yaml.reads_load env.files env.bindings
  have present : isFile env otherPath = .ok true := Success.of_toOption (by decide +kernel)
  have settled : ((Source.get ⟨some otherPath, none⟩ env).1.toOption.map fun config =>
      (config.windowSize, config.windowPos, config.cellSize)) =
        some ((5, 6), (3, 4), (110, 30)) := by
    rw [get_of_reads reads present]
    decide +kernel
  obtain ⟨config, loaded, measures⟩ := Option.map_eq_some_iff.mp settled
  have loaded := Success.of_toOption loaded
  obtain ⟨decided, ignored⟩ := load_decided env (some otherPath) config reads loaded
  have other : env.files.locate otherPath = .ok ["work", "other.yaml"] :=
    Success.of_toOption (by decide +kernel)
  refine ⟨config, loaded, measures, decided, fun bytes => ?_⟩
  refine ignored ⟨1, homeLocation⟩ homeLocation _ bytes
    (Success.of_toOption (by decide +kernel)) (Success.of_toOption (by decide +kernel)) rfl
    (Success.of_toOption (by decide +kernel)) ?_
  rintro p ⟨⟩ same
  have names := other.symm.trans same
  simp [homeLocation] at names

/-- Two mappings of one directory of states are merged, and the merged one is shown. -/
theorem stateDir_merged :
    let env := furnished "paths: \x7bstate_dir: \x7bb: 2\x7d\x7d" ""
      "paths: \x7bstate_dir: \x7ba: 1\x7d\x7d"
    ∃ config files v, (Source.get ⟨some otherPath, none⟩ env).1 = .ok config ∧
      [otherPath, nearPath env].mapM (readLayer env) = .ok files ∧
      (∀ layer ∈ files, (layer.sectionOf? "paths").isSome ∧ (layer.get? (.text "ui")).isNone) ∧
      highest? (files ++ [defaults]) ["paths"] "state_dir" = some v ∧
      ¬ IsPath env v config.stateDir := by
  intro env
  have reads : Reads env := Yaml.reads_load env.files env.bindings
  have present : isFile env otherPath = .ok true := Success.of_toOption (by decide +kernel)
  have settled : ((Source.get ⟨some otherPath, none⟩ env).1.toOption.map Config.stateDir) =
      some ⟨0, ["\x7b'b': 2, 'a': 1\x7d"]⟩ := by
    rw [get_of_reads reads present]
    decide +kernel
  have shapes : (([otherPath, nearPath env].mapM (readLayer env)).toOption.map fun files =>
      (files.all fun layer =>
          (layer.sectionOf? "paths").isSome && (layer.get? (.text "ui")).isNone,
        (highest? (files ++ [defaults]) ["paths"] "state_dir").map Value.display)) =
      some (true, some (.whole "\x7b'a': 1\x7d")) := by
    decide +kernel
  obtain ⟨config, loaded, dir⟩ := Option.map_eq_some_iff.mp settled
  obtain ⟨files, read, shape⟩ := Option.map_eq_some_iff.mp shapes
  obtain ⟨sections, highest⟩ := Prod.mk.inj shape
  obtain ⟨v, highest, text⟩ := Option.map_eq_some_iff.mp highest
  refine ⟨config, files, v, Success.of_toOption loaded, Success.of_toOption read, ?_, highest, ?_⟩
  · simpa [List.all_eq_true] using sections
  · rintro ⟨_, _, same⟩
    rw [dir, text] at same
    revert same
    decide +kernel

/-- The file at home is read where the explicit path leads to it, whatever file is nearer. -/
theorem stateDir_rewritten :
    let env := furnished "paths: \x7bstate_dir: \x7bb: 2\x7d\x7d" ""
      "paths: \x7bstate_dir: \x7ba: 1\x7d\x7d"
    let atHome : Source := ⟨some ⟨1, homeLocation⟩, none⟩
    ∃ bytes config config', homePath env = .ok ⟨1, homeLocation⟩ ∧
      env.files.isFile (nearPath env) = .ok true ∧ (atHome.get env).1 = .ok config ∧
      (atHome.get (rewritten env homeLocation bytes)).1 = .ok config' ∧
      config.stateDir ≠ config'.stateDir := by
  intro env atHome
  have reads : Reads env := Yaml.reads_load env.files env.bindings
  let later := rewritten env homeLocation (Utf8.encode "paths: \x7bstate_dir: x\x7d".toList)
  have reads' : Reads later := Yaml.reads_load later.files later.bindings
  have present : isFile env ⟨1, homeLocation⟩ = .ok true :=
    Success.of_toOption (by decide +kernel)
  have present' : isFile later ⟨1, homeLocation⟩ = .ok true :=
    Success.of_toOption (by decide +kernel)
  have before : ((atHome.get env).1.toOption.map Config.stateDir) =
      some ⟨0, ["\x7b'b': 2\x7d"]⟩ := by
    rw [get_of_reads reads present]
    decide +kernel
  have after : ((atHome.get later).1.toOption.map Config.stateDir) = some ⟨0, ["x"]⟩ := by
    rw [get_of_reads reads' present']
    decide +kernel
  obtain ⟨config, loaded, dir⟩ := Option.map_eq_some_iff.mp before
  obtain ⟨config', loaded', dir'⟩ := Option.map_eq_some_iff.mp after
  refine ⟨_, config, config', Success.of_toOption (by decide +kernel),
    Success.of_toOption (by decide +kernel), Success.of_toOption loaded,
    Success.of_toOption loaded', ?_⟩
  rw [dir, dir']
  decide

/-- The two exceptions. Where both files give a mapping, what comes out is the text of neither; and
a file at home that is set explicitly does matter. -/
theorem load_decided_exceptions :
    let env := furnished "paths: \x7bstate_dir: \x7bb: 2\x7d\x7d" ""
      "paths: \x7bstate_dir: \x7ba: 1\x7d\x7d"
    let atHome : Source := ⟨some ⟨1, homeLocation⟩, none⟩
    (∃ config files v, (Source.get ⟨some otherPath, none⟩ env).1 = .ok config ∧
      [otherPath, nearPath env].mapM (readLayer env) = .ok files ∧
      (∀ layer ∈ files, (layer.sectionOf? "paths").isSome ∧ (layer.get? (.text "ui")).isNone) ∧
      highest? (files ++ [defaults]) ["paths"] "state_dir" = some v ∧
      ¬ IsPath env v config.stateDir) ∧
    ∃ bytes config config', homePath env = .ok ⟨1, homeLocation⟩ ∧
      env.files.isFile (nearPath env) = .ok true ∧ (atHome.get env).1 = .ok config ∧
      (atHome.get (rewritten env homeLocation bytes)).1 = .ok config' ∧
      config.stateDir ≠ config'.stateDir :=
  ⟨stateDir_merged, stateDir_rewritten⟩

end ScriptDialog.Config
