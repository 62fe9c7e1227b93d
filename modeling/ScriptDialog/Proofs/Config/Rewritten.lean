import ScriptDialog.Proofs.Config.Layers
import ScriptDialog.Proofs.Files.Content

/-! Other content in the file of settings at home. With a file in the working directory nobody reads
it, unless it is set explicitly. -/
namespace ScriptDialog.Config

variable {env : Environment} {explicit : Option Path} {l : Location} {old bytes : List UInt8}
  {home p : Path}

/-- The surroundings with other content in a file. -/
def rewritten (env : Environment) (l : Location) (bytes : List UInt8) : Environment :=
  { env with files := env.files.put l (.file bytes) }

theorem expandVariables_rewritten (skip : Nat) (text : List Char) :
    (rewritten env l bytes).expandVariables skip text = env.expandVariables skip text := by
  induction text generalizing skip with
  | nil => simp only [Environment.expandVariables]
  | cons c rest ih =>
    cases skip with
    | zero =>
      simp only [Environment.expandVariables, ih]
      rfl
    | succ skip => simp only [Environment.expandVariables, ih]

theorem build_rewritten (payload : Entries) (path : Option Path) :
    build (rewritten env l bytes) payload path = build env payload path := by
  have same (entries : Entries) (name dotted : String) :
      pathOf (rewritten env l bytes) entries name dotted = pathOf env entries name dotted := by
    simp only [pathOf, expandVariables_rewritten]
    rfl
  simp only [build, same]

theorem isFile_rewritten (file : env.files.node? l = some (.file old)) (p : Path) :
    isFile (rewritten env l bytes) p = isFile env p :=
  congrArg (Except.mapError ConfigFault.file) (Files.isFile_put_file file p)

theorem readEntries_rewritten (text : List Char) (source : Path) :
    readEntries (rewritten env l bytes) text source = readEntries env text source :=
  rfl

theorem readLayer_rewritten (file : env.files.node? l = some (.file old))
    (other : env.files.locate p ≠ .ok l) :
    readLayer (rewritten env l bytes) p = readLayer env p := by
  have same : (rewritten env l bytes).files.readText p = env.files.readText p :=
    Files.readText_put_file file other
  rw [readLayer, readLayer, same]
  simp only [readEntries_rewritten]

/-- The two usual places are never one file. -/
theorem near_ne_home (known : homePath env = .ok home) (place : env.files.locate home = .ok l) :
    env.files.locate (nearPath env) ≠ .ok l := by
  intro near
  obtain ⟨start, rfl⟩ := Files.ends_of_locate (by decide) (by decide) near
  unfold homePath at known
  split at known
  · next base _ =>
    cases known
    have split : base.parts ++ [".config", "autodialog", "config.yaml"] =
      (base.parts ++ [".config"]) ++ ["autodialog", "config.yaml"] := by simp
    rw [split] at place
    obtain ⟨start', same⟩ := Files.ends_of_locate (by decide) (by decide) place
    -- the one directory has a dot before its name
    have ends := (List.append_inj' same rfl).2
    simp at ends
  · cases known

theorem loadLayers_of_near (env : Environment) (explicit : Option Path)
    (known : homePath env = .ok home) (near : env.files.isFile (nearPath env) = .ok true) :
    loadLayers env explicit =
      readEntries env packagedText packagedSource >>= fun packaged =>
        addLayer env packaged (some (nearPath env)) >>= fun payload =>
          addLayer env payload explicit >>= fun payload =>
            build env payload (explicit.or (some (nearPath env))) := by
  have isNear : isFile env (nearPath env) = .ok true := congrArg (Except.mapError _) near
  have found : discover env = .ok (some (nearPath env)) := by
    rw [discover, known, isNear]
    rfl
  rw [loadLayers, found]
  rfl

/-- What the file at home holds does not matter to those who do not read it. -/
theorem load_rewritten (known : homePath env = .ok home) (place : env.files.locate home = .ok l)
    (file : env.files.node? l = some (.file old))
    (near : env.files.isFile (nearPath env) = .ok true)
    (other : ∀ p ∈ explicit, env.files.locate p ≠ .ok l) :
    load (rewritten env l bytes) explicit = load env explicit := by
  have near' : (rewritten env l bytes).files.isFile (nearPath (rewritten env l bytes)) = .ok true :=
    (Files.isFile_put_file file _).trans near
  have lower (packaged : Entries) :
      addLayer (rewritten env l bytes) packaged (some (nearPath (rewritten env l bytes))) =
        addLayer env packaged (some (nearPath env)) :=
    congrArg (merge packaged <$> ·) (readLayer_rewritten file (near_ne_home known place))
  have upper (payload : Entries) : addLayer (rewritten env l bytes) payload explicit =
      addLayer env payload explicit := by
    cases explicit with
    | none => rfl
    | some p => rw [addLayer, addLayer, readLayer_rewritten file (other p rfl)]
  have layers : loadLayers (rewritten env l bytes) explicit = loadLayers env explicit := by
    rw [loadLayers_of_near env explicit known near,
      loadLayers_of_near (rewritten env l bytes) explicit known near']
    simp only [lower, upper, build_rewritten, readEntries_rewritten]
    rfl
  cases explicit with
  | none => exact layers
  | some p => rw [load_some, load_some, isFile_rewritten file, layers]

end ScriptDialog.Config
