import ScriptDialog.Proofs.Dialog.Values
import ScriptDialog.Proofs.Gui.Stale

/-! What a run answers: the highest button with a click in the last frame that has one, whatever was
pressed before the run. -/
namespace ScriptDialog

theorem Call.inRow_of_inLoop {c : Call} (here : c.inLoop false) : c.inRow = false := by
  unfold inRow
  split <;> simp [inLoop] at here ⊢

namespace Dialog

variable {d : Dialog}

/-- Reading back is no push: it never says that an index was out of range. -/
theorem inRange_readBackNotices (v : Value) : .outOfRange v ∉ d.readBackNotices := by
  unfold readBackNotices
  split
  · simp
  · split <;> simp

end Dialog

namespace Running

/-- The last frame that came to its end with a click, and the highest button it reports. -/
def LastClick (d : Dialog) (drawn : List Shown) (i : Nat) : Prop :=
  ∃ before s after, drawn = before ++ s :: after ∧ s.Completed ∧ Gui.Highest d s.frame i ∧
    ∀ s' ∈ after, s'.Completed → ∀ j, ¬ Gui.Reports d s'.frame j

variable {r r' : Running} {d : Dialog} {event : Event} {events : List Event} {drawn : List Shown}
  {i : Nat}

theorem LastClick.used (last : LastClick d drawn i) : d.usesButtons := by
  obtain ⟨_, _, _, _, _, highest, _⟩ := last
  exact highest.used

theorem handle_calm (calm : ∀ text, event ≠ .fail text)
    (done : ∀ s ∈ r.shows event, s.Completed) : (r.handle event).2 = none := by
  cases event with
  | fail text => exact absurd rfl (calm text)
  | close detach => rfl
  | tick detach frame dt broken? =>
    by_cases attached : (r.attached && !detach)
    · rw [shows, if_pos attached] at done
      obtain ⟨pressed, completed⟩ := done _ rfl
      dsimp only at completed
      simp only [handle, drawTick, detachIf, log, attached, if_true, completed]
    · simp only [handle, drawTick, detachIf, log, attached]
      rfl

/-- Only a frame that fails, or the event loop itself, can end the loop with a fault. -/
theorem loop_calm (events : List Event) (calm : ∀ text, .fail text ∉ events)
    (done : ∀ s ∈ r.frames events, s.Completed) : (r.loop events).2 = none := by
  induction events generalizing r with
  | nil => rfl
  | cons event events ih =>
    rw [frames, List.forall_mem_append] at done
    have handled : (r.handle event).2 = none :=
      handle_calm (fun text same => calm text (by simp [same])) (by simpa using done.1)
    rw [loop_cons, handled]
    rw [handled] at done
    exact ih (fun text member => calm text (List.mem_cons_of_mem _ member)) done.2

theorem dialog_finish : r.finish.1.dialog.buttons = r.dialog.buttons ∧
    r.finish.1.dialog.usesButtons = r.dialog.usesButtons ∧
    r.finish.1.dialog.pressed = if r.gui.finished then r.dialog.pressed else none := by
  unfold finish
  cases r.gui.finished <;> exact ⟨rfl, rfl, rfl⟩

theorem notices_finish : r.finish.1.notices = r.notices ++
    if r.gui.finished then [] else [.closedUnpressed] := by
  rw [finish, closingNotices]
  cases r.gui.finished <;> rfl

theorem LastClick.unique {j : Nat} (last : LastClick d drawn i) (last' : LastClick d drawn j) :
    i = j := by
  obtain ⟨before, s, after, split, completed, highest, silent⟩ := last
  obtain ⟨before', s', after', split', completed', highest', silent'⟩ := last'
  rw [split] at split'
  rcases List.append_eq_append_iff.mp split' with ⟨between, rfl, same⟩ | ⟨between, rfl, same⟩
  · cases between with
    | nil =>
      cases same
      exact highest.unique highest'
    | cons first between =>
      obtain ⟨-, rfl⟩ := List.cons.inj same
      exact absurd highest'.toReports (silent s' (by simp) completed' j)
  · cases between with
    | nil =>
      cases same
      exact highest.unique highest'
    | cons first between =>
      obtain ⟨-, rfl⟩ := List.cons.inj same
      exact absurd highest.toReports (silent' s (by simp) completed i)

/-- Leaving the loop makes the last click the pressed button. -/
theorem Ends.pressed_finish (ends : r.Ends drawn r') (unfinished : r.gui.finished = false)
    (i : Nat) :
    r'.finish.1.dialog.pressed = some i ↔ LastClick r.dialog drawn i := by
  rw [dialog_finish.2.2]
  cases ends with
  | unpressed finished pressed unclicked =>
    rw [if_neg (by simp [finished, unfinished])]
    refine iff_of_false nofun ?_
    rintro ⟨before, s, after, rfl, completed, highest, -⟩
    exact Gui.clicked?_eq_none_iff.mp (unclicked s (by simp) completed) i highest.toReports
  | @pressed before s j after split completed clicked unclicked finished holds =>
    rw [if_pos finished, holds]
    have last : LastClick r.dialog drawn j :=
      ⟨before, s, after, split, completed, Gui.clicked?_eq_some_iff.mp clicked,
        fun s member done => Gui.clicked?_eq_none_iff.mp (unclicked s member done)⟩
    constructor
    · rintro ⟨⟩
      exact last
    · intro last'
      rw [last.unique last']

end Running

namespace Run

/-- The frames that a run draws. -/
def frames (config : Config) (host : Host) (d : Dialog) (title : String) (fps : Value)
    (now : Double) (events : List Event) : List Running.Shown :=
  let started := start config host d title fps now
  match started.outcome with
  | .error _ => []
  | .ok gui => (entered gui d now started.calls).frames events

/-- What a script is answered after frames of its dialog. -/
structure Answered (d : Dialog) (drawn : List Running.Shown) (answer : Option (Option Text)) :
    Prop where
  /-- Without buttons there is no answer. -/
  absent : answer = none ↔ d.usesButtons = false
  /-- None was clicked, or it cancels. -/
  cancelled : answer = some none ↔ d.usesButtons ∧
    ∀ i b, Running.LastClick d drawn i → d.buttons[i]? = some b → b.id = some .cancel
  label : ∀ label, answer = some (some label) ↔ ∃ i b, Running.LastClick d drawn i ∧
    d.buttons[i]? = some b ∧ b.id ≠ some .cancel ∧ b.label = label

/-- What a run over these events leaves and returns, once it has drawn these frames. -/
structure Settles (host : Host) (d : Dialog) (events : List Event) (drawn : List Running.Shown)
    (result : Result) : Prop where
  pressed : ∀ i, result.dialog.pressed = some i ↔ Running.LastClick d drawn i
  /-- No index was out of range. -/
  inRange : ∀ v, .outOfRange v ∉ result.notices
  /-- Without buttons none is drawn, and none is pressed. -/
  buttonless : d.usesButtons = false →
    result.dialog.pressed = none ∧ ∀ c ∈ result.calls, c.inRow = false
  /-- Unless the loop, a frame or the closing fails, the dialog is read back. -/
  returns : (∀ text, .fail text ∉ events) → (∀ s ∈ drawn, s.Completed) →
    host.Calm (Gui.closing host) → result.outcome = result.dialog.readBack.mapError .control
  returned : ∀ reading, result.outcome = .ok reading →
    result.dialog.readBack = .ok reading ∧ Answered d drawn reading.answer

theorem makes_start (config : Config) (host : Host) (d : Dialog) (title : String) (fps : Value)
    (now : Double) : (start config host d title fps now).Makes (·.inRow = false) := by
  rw [start_eq]
  refine .bind (Performed.makes_ofExcept _) fun size => ?_
  rw [Window.create_of_ints]
  refine .bind ((Performed.makes_mapFault _).mpr ?_) fun window => ?_
  · exact .bind (Host.makes_call rfl) fun _ => .bind (Host.makes_call rfl) fun _ =>
      Performed.makes_pure _
  · refine makes_setUp config host title fps now window ?_ rfl rfl fun _ => rfl
    rw [List.forall_mem_append]
    exact ⟨by simp [Gui.contextCalls, Call.inRow], fun c => Gui.inRow_of_rendererCalls⟩

theorem answered {d d' : Dialog} {drawn : List Running.Shown} {reading : Reading}
    (buttons : d'.buttons = d.buttons) (usesButtons : d'.usesButtons = d.usesButtons)
    (pressed : ∀ i, d'.pressed = some i ↔ Running.LastClick d drawn i)
    (readBack : d'.readBack = .ok reading) : Answered d drawn reading.answer := by
  obtain ⟨values, _, done⟩ := Success.of_bind readBack
  cases done
  rw [usesButtons]
  by_cases uses : d.usesButtons
  · rw [if_pos uses]
    refine ⟨by simp [uses], ?_, fun label => ?_⟩
    · rw [Option.some_inj, Dialog.answer_eq_none_iff, buttons]
      simp only [pressed, uses, true_and]
    · rw [Option.some_inj, Dialog.answer_eq_some_iff, buttons]
      simp only [pressed]
  · rw [if_neg uses]
    refine ⟨by simpa using uses, by simp [uses], fun label => ?_⟩
    refine iff_of_false nofun ?_
    rintro ⟨i, b, last, -⟩
    exact uses last.used

variable {r : Running} {fault? : Option RunFault}

theorem inRange_result (inRange : ∀ v, .outOfRange v ∉ r.finish.1.notices)
    (fault? : Option RunFault) (v : Value) : .outOfRange v ∉ (result r fault?).notices := by
  unfold result
  dsimp only
  split
  · exact inRange v
  · exact inRange v
  · rw [List.mem_append, not_or]
    exact ⟨inRange v, Dialog.inRange_readBackNotices v⟩

theorem outcome_result (closed : r.finish.2 = .ok ()) :
    (result r none).outcome = r.finish.1.dialog.readBack.mapError .control := by
  simp only [result, closed]

theorem readBack_of_result {reading : Reading} (outcome : (result r fault?).outcome = .ok reading) :
    r.finish.1.dialog.readBack = .ok reading := by
  unfold result at outcome
  dsimp only at outcome
  split at outcome
  · cases outcome
  · cases outcome
  · exact Success.of_mapError outcome

/-- No row of buttons is drawn in the loop of a dialog without buttons. -/
theorem inRow_finish {d : Dialog} {gui : Gui} {now : Double} {calls : List Call} {r : Running}
    (kept : (entered gui d now calls).Keeps r) (isOpen : gui.closed = false)
    (before : ∀ c ∈ calls, c.inRow = false) (unused : d.usesButtons = false) :
    ∀ c ∈ r.finish.1.calls, c.inRow = false := by
  obtain ⟨made, whole, inside⟩ := kept.calls
  have entering : ∀ c ∈ (entered gui d now calls).calls, c.inRow = false :=
    List.forall_mem_append.mpr ⟨before, List.forall_mem_singleton.mpr rfl⟩
  have looped : ∀ c ∈ made, c.inRow = false :=
    fun c member => Call.inRow_of_inLoop (unused ▸ inside c member)
  have closing : ∀ c ∈ Gui.closing r.gui.host, c.inRow = false := by
    unfold Gui.closing
    cases r.gui.host.shutsDown <;> simp [Call.inRow]
  rw [(Running.calls_finish (kept.closed.trans isOpen)).1, whole]
  exact List.forall_mem_append.mpr ⟨List.forall_mem_append.mpr ⟨entering, looped⟩,
    List.forall_mem_cons.mpr ⟨rfl, Host.makes_calls closing⟩⟩

/-- What the loop leaves settles the run, when it ends in the pressed button that its frames tell. -/
theorem settles_result {host : Host} {d : Dialog} {gui : Gui} {now : Double} {calls : List Call}
    {events : List Event} {drawn : List Running.Shown} (kept : (entered gui d now calls).Keeps r)
    (sameHost : gui.host = host) (isOpen : gui.closed = false)
    (before : ∀ c ∈ calls, c.inRow = false)
    (pressed : ∀ i, r.finish.1.dialog.pressed = some i ↔ Running.LastClick d drawn i)
    (calm : (∀ text, .fail text ∉ events) → (∀ s ∈ drawn, s.Completed) → fault? = none) :
    Settles host d events drawn (result r fault?) := by
  obtain ⟨buttons, usesButtons, -⟩ := Running.dialog_finish (r := r)
  rw [kept.buttons] at buttons
  rw [kept.usesButtons] at usesButtons
  have inRange (v : Value) : .outOfRange v ∉ r.finish.1.notices := by
    rw [Running.notices_finish, kept.notices]
    split <;> simp [entered]
  constructor
  · rwa [dialog_result]
  · exact inRange_result inRange fault?
  · intro unused
    rw [dialog_result, calls_result]
    refine ⟨?_, inRow_finish kept isOpen before unused⟩
    rw [Option.eq_none_iff_forall_ne_some]
    intro i here
    have used := ((pressed i).mp here).used
    cases unused.symm.trans used
  · intro none done closes
    have closed : r.finish.2 = .ok () := by
      rw [(Running.calls_finish (kept.closed.trans isOpen)).2, kept.host.trans sameHost,
        Host.calls_of_calm closes]
    rw [dialog_result, calm none done]
    exact outcome_result closed
  · intro reading outcome
    have readBack := readBack_of_result outcome
    rw [dialog_result]
    exact ⟨readBack, answered buttons usesButtons pressed readBack⟩

/-- A run leaves the last click pressed and answers it, whatever was pressed before. -/
theorem dialog_settles (config : Config) (host : Host) (d : Dialog) (title : String) (fps : Value)
    (now : Double) (events : List Event)
    (began : (start config host d title fps now).outcome.isOk) :
    Settles host d events (frames config host d title fps now events)
      (dialog config host d title fps now events) ∧
    ∀ pressed, dialog config host (d.withPressed pressed) title fps now events =
      dialog config host d title fps now events := by
  refine ⟨?_, fun pressed => dialog_withPressed config host d title fps now events pressed began⟩
  have starts := starts config host d title fps now
  have makes := makes_start config host d title fps now
  generalize started : start config host d title fps now = p at starts makes began
  cases starts with
  | unopened | unready => cases began
  | @started calls gui size sized opens ready acquired sameHost isOpen unfinished =>
    have drawn : frames config host d title fps now events =
        (entered gui d now calls).frames events := by
      rw [frames, started]
    rw [drawn, dialog_of_started started]
    obtain ⟨kept, ends⟩ := Running.loop_ends (r := entered gui d now calls) isOpen events
    exact settles_result kept sameHost isOpen makes (ends.pressed_finish unfinished)
      (Running.loop_calm (r := entered gui d now calls) events)

/-- Both buttons are clicked in the second frame and the first one in the third, which comes after
the loop was asked to end; the fourth fails behind its clicks. The first button was pressed before
the run. -/
theorem dialog_settles_crowded :
    let config : Config := ⟨none, ⟨0, []⟩, (560, 360), (120, 120), (110, 30)⟩
    let d : Dialog := ⟨[], Button.defaults, true, some 0⟩
    let still : Frame := ⟨(.float .zero, .float .zero), fun _ => .idle, fun _ => false, none⟩
    let both : Frame := { still with clicked := fun _ => true }
    let first : Frame := { still with clicked := fun i => i == 0 }
    let standing : List Event := [.tick false still (.int 0) none, .tick false both (.int 0) none]
    let broken : List Event :=
      [.tick false first (.int 0) none, .tick false both (.int 0) (some (15, "lost"))]
    let run := dialog config .usual d "Dialog" (.int 60) .zero
    Settles .usual d (standing ++ broken)
        (frames config .usual d "Dialog" (.int 60) .zero (standing ++ broken))
        (run (standing ++ broken)) ∧
      (run standing).dialog.pressed = some 1 ∧
      (run standing).outcome.toOption.map Reading.answer = some (some none) ∧
      (run (standing ++ broken)).dialog.pressed = some 0 ∧
      (run (standing ++ broken)).outcome.isOk = false :=
  ⟨(dialog_settles _ _ _ _ _ _ _ (by decide +kernel)).1, by decide +kernel, by decide +kernel,
    by decide +kernel, by decide +kernel⟩

end Run

end ScriptDialog
