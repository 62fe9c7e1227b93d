import ScriptDialog.Config.Load
import ScriptDialog.Proofs.Success

/-! A host that is asked for its settings while the file of settings is set anew and everything
around it changes. Settings once given are given again until a file is set; until they are given,
each answer is what a load says at that moment; and what fails leaves no trace. -/
namespace ScriptDialog.Config

/-- What surrounds the settings, and where they come from. -/
structure Host where
  env : Environment
  source : Source

inductive Act where
  | setPath (path : Value)
  | ask
  /-- Files, variables and the working directory become others. -/
  | change (env : Environment)

inductive Outcome where
  | done
  | settings (config : Config)
  | failed (fault : ConfigFault)

def Outcome.ofLoad : Except ConfigFault Config → Outcome
  | .ok config => .settings config
  | .error fault => .failed fault

abbrev Event := Act × Outcome

namespace Event

/-- A file of settings was set. -/
def sets : Event → Bool
  | (.setPath _, .done) => true
  | _ => false

def gives : Event → Bool
  | (_, .settings _) => true
  | _ => false

def fails : Event → Bool
  | (_, .failed _) => true
  | _ => false

end Event

namespace Host

/-- No file was set, and nothing was read. -/
def start (env : Environment) : Host := ⟨env, .initial⟩

def step (h : Host) : Act → Outcome × Host
  | .setPath path =>
    match Source.setPath h.env path with
    | .ok source => (.done, { h with source := source })
    | .error fault => (.failed fault, h)
  | .ask => (.ofLoad (h.source.get h.env).1, { h with source := (h.source.get h.env).2 })
  | .change env => (.done, { h with env := env })

/-- The host after acts, one after the other. -/
def after (h : Host) : List Act → Host
  | [] => h
  | act :: acts => (h.step act).2.after acts

/-- Each act with its outcome. -/
def trace (h : Host) : List Act → List Event
  | [] => []
  | act :: acts => (act, (h.step act).1) :: (h.step act).2.trace acts

/-- Nothing is kept: the host has just started, or a file was just set. -/
def Forgotten (h : Host) : Prop :=
  (∃ env, h = start env) ∨
    ∃ (before : Host) (path : Value), before.step (.setPath path) = (.done, h)

/-- The acts that do not fail. -/
def unfailing (h : Host) (acts : List Act) : List Act :=
  ((h.trace acts).filter (!·.fails)).map Prod.fst

variable {h next : Host} {act : Act} {acts : List Act} {outcome : Outcome} {config : Config}

/-- What a step can do. -/
inductive Steps (h : Host) : Act → Outcome → Host → Prop where
  | set (path : Value) (explicit : Option Path) :
      Steps h (.setPath path) .done ⟨h.env, ⟨explicit, none⟩⟩
  | kept {config : Config} (kept : h.source.cached = some config) :
      Steps h .ask (.settings config) h
  | loaded {config : Config} (empty : h.source.cached = none)
      (loaded : load h.env h.source.explicit = .ok config) :
      Steps h .ask (.settings config) ⟨h.env, ⟨h.source.explicit, some config⟩⟩
  | changed (env : Environment) : Steps h (.change env) .done ⟨env, h.source⟩
  | failed (act : Act) (fault : ConfigFault) : Steps h act (.failed fault) h

theorem steps (h : Host) (act : Act) : Steps h act (h.step act).1 (h.step act).2 := by
  obtain ⟨env, explicit, cached⟩ := h
  cases act with
  | setPath path =>
    unfold step Source.setPath
    dsimp only
    split
    · next set =>
      split at set
      · cases set
        exact .set _ none
      · obtain ⟨p, _, rfl⟩ := Success.of_map set
        exact .set _ (some p)
    · exact .failed _ _
  | ask =>
    unfold step Source.get
    cases cached with
    | some config => exact .kept rfl
    | none =>
      dsimp only
      cases loaded : load env explicit with
      | ok config => exact .loaded rfl loaded
      | error fault => exact .failed .ask fault
  | change env => exact .changed env

namespace Steps

theorem keeps (did : Steps h act outcome next) (kept : h.source.cached = some config)
    (unset : Event.sets (act, outcome) = false) : next.source.cached = some config := by
  cases did with
  | set => cases unset
  | kept => exact kept
  | loaded empty => cases empty.symm.trans kept
  | changed => exact kept
  | failed => exact kept

theorem kept_of_ask (did : Steps h .ask (.settings config) next) :
    next.source.cached = some config := by
  cases did with
  | kept kept => exact kept
  | loaded => rfl

theorem source_eq (did : Steps h act outcome next) (unset : Event.sets (act, outcome) = false)
    (ungiven : Event.gives (act, outcome) = false) : next.source = h.source := by
  cases did with
  | set => cases unset
  | kept => rfl
  | loaded => cases ungiven
  | changed => rfl
  | failed => rfl

theorem eq_of_failed {fault : ConfigFault} (did : Steps h act (.failed fault) next) : next = h := by
  cases did
  rfl

theorem empty_of_set {path : Value} (did : Steps h (.setPath path) .done next) :
    next.source.cached = none := by
  cases did
  rfl

end Steps

/-- An ask gives what is kept, or what a load says. -/
theorem step_ask (h : Host) : (h.step .ask).1 =
    match h.source.cached with
    | some config => .settings config
    | none => .ofLoad (load h.env h.source.explicit) := by
  unfold step Source.get
  cases h.source.cached with
  | some config => rfl
  | none =>
    dsimp only
    cases load h.env h.source.explicit <;> rfl

/-- What is kept stays until a file is set. -/
theorem keeps_after (kept : h.source.cached = some config)
    (unset : ∀ e ∈ h.trace acts, e.sets = false) : (h.after acts).source.cached = some config := by
  induction acts generalizing h with
  | nil => exact kept
  | cons act acts ih =>
    obtain ⟨here, later⟩ := List.forall_mem_cons.mp unset
    exact ih ((steps h act).keeps kept here) later

/-- Only settings that are given and files that are set leave something behind. -/
theorem source_after (quiet : ∀ e ∈ h.trace acts, e.sets = false ∧ e.gives = false) :
    (h.after acts).source = h.source := by
  induction acts generalizing h with
  | nil => rfl
  | cons act acts ih =>
    obtain ⟨⟨unset, ungiven⟩, later⟩ := List.forall_mem_cons.mp quiet
    exact (ih later).trans ((steps h act).source_eq unset ungiven)

theorem kept_of_step (given : (h.step .ask).1 = .settings config) :
    (h.step .ask).2.source.cached = some config := by
  have did := steps h .ask
  rw [given] at did
  exact did.kept_of_ask

theorem step_failed {fault : ConfigFault} (failed : (h.step act).1 = .failed fault) :
    (h.step act).2 = h := by
  have did := steps h act
  rw [failed] at did
  exact did.eq_of_failed

theorem fails_iff :
    Event.fails (act, outcome) = true ↔ ∃ fault, outcome = .failed fault := by
  cases outcome <;> simp [Event.fails]

/-- A run goes on as if what failed had not been tried. -/
theorem run_unfailing (h : Host) (acts : List Act) :
    h.trace (h.unfailing acts) = (h.trace acts).filter (!·.fails) ∧
      h.after (h.unfailing acts) = h.after acts := by
  induction acts generalizing h with
  | nil => exact ⟨rfl, rfl⟩
  | cons act acts ih =>
    obtain ⟨events, last⟩ := ih (h.step act).2
    by_cases fails : Event.fails (act, (h.step act).1) = true
    · obtain ⟨fault, failed⟩ := fails_iff.mp fails
      have same := step_failed failed
      have rest : h.unfailing (act :: acts) = h.unfailing acts := by
        simp [unfailing, trace, fails, same]
      rw [same] at events last
      rw [rest, trace, after, List.filter_cons_of_neg (by simp [fails]), same]
      exact ⟨events, last⟩
    · have rest : h.unfailing (act :: acts) = act :: (h.step act).2.unfailing acts := by
        simp [unfailing, trace, fails]
      rw [rest]
      simp [trace, after, fails, events, last]

theorem empty_of_forgotten (forgotten : h.Forgotten) : h.source.cached = none := by
  rcases forgotten with ⟨env, rfl⟩ | ⟨before, path, set⟩
  · rfl
  · have did := steps before (.setPath path)
    rw [set] at did
    exact did.empty_of_set

/-- What the answers of a host depend on. -/
structure Remembers (h : Host) : Prop where
  /-- Settings that were given are given again until a file is set, whatever changes. -/
  same : ∀ config between, (h.step .ask).1 = .settings config →
    (∀ e ∈ (h.step .ask).2.trace between, e.sets = false) →
    (((h.step .ask).2.after between).step .ask).1 = .settings config
  /-- Before that, each answer is that of a load from all that is there at that moment. -/
  fresh : h.Forgotten → ∀ between, (∀ e ∈ h.trace between, e.sets = false ∧ e.gives = false) →
    (h.after between).source.explicit = h.source.explicit ∧
      ((h.after between).step .ask).1 = .ofLoad (load (h.after between).env h.source.explicit)
  failedAsk : ∀ fault, (h.step .ask).1 = .failed fault → (h.step .ask).2 = h
  failedSet : ∀ path fault, (h.step (.setPath path)).1 = .failed fault →
    (h.step (.setPath path)).2 = h
  /-- A run has the same outcomes, and the same end, without the acts that fail in it. -/
  untraced : ∀ acts, h.trace (h.unfailing acts) = (h.trace acts).filter (!·.fails) ∧
    h.after (h.unfailing acts) = h.after acts

theorem remembers (h : Host) : h.Remembers where
  same config between given unset := by
    rw [step_ask, keeps_after (kept_of_step given) unset]
  fresh forgotten between quiet := by
    have source := source_after quiet
    rw [step_ask, source, empty_of_forgotten forgotten]
    exact ⟨rfl, rfl⟩
  failedAsk _ failed := step_failed failed
  failedSet _ _ failed := step_failed failed
  untraced := h.run_unfailing

/-- No file of settings is anywhere. -/
def bare : Environment := ⟨⟨[], []⟩, [("HOME", "/home")], fun _ => .ok (.map defaults)⟩

def packaged : Config := ⟨none, ⟨0, ["data", "dialog_state"]⟩, (560, 360), (120, 120), (110, 30)⟩

/-- The packaged settings were given, and stay. -/
theorem remembers_packaged : ((start bare).step .ask).1 = .settings packaged ∧
    ∀ env, ((((start bare).step .ask).2.after [.change env]).step .ask).1 = .settings packaged := by
  have given : ((start bare).step .ask).1 = .settings packaged := by
    rfl
  refine ⟨given, fun env => (remembers (start bare)).same packaged [.change env] given ?_⟩
  simp [trace, step, Event.sets]

end Host

end ScriptDialog.Config
