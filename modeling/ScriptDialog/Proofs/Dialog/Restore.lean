import ScriptDialog.Dialog.Saved
import ScriptDialog.Proofs.Control.Receive
import ScriptDialog.Proofs.Dialog.Pieces
import ScriptDialog.Proofs.Related

/-! What a text does to a dialog. Pieces are delivered one after the other, each to every control of
its name; whatever a control had before, the last token under its name decides. -/
namespace ScriptDialog

namespace Control

/-- The token of the last piece under the name of a control that can be saved. -/
def lastToken? (found : List (String × Text)) (c : Control) : Option Text :=
  if c.persists then ((found.filter fun p => c.isNamed p.1).getLast?).map Prod.snd else none

variable {found : List (String × Text)} {c c' : Control} {name : String} {token : Text}

@[simp] theorem lastToken?_withValue (v : Value) :
    (c.withValue v).lastToken? found = c.lastToken? found := by
  simp [lastToken?]

theorem lastToken?_cons_of_addressed (addressed : (c.isNamed name && c.persists) = true) :
    c.lastToken? ((name, token) :: found) = some ((c.lastToken? found).getD token) := by
  obtain ⟨named, persists⟩ := Bool.and_eq_true_iff.mp addressed
  simp only [lastToken?, persists, if_true, List.filter_cons, named, List.getLast?_cons,
    Option.map_some]
  cases (found.filter fun p => c.isNamed p.1).getLast? <;> rfl

theorem lastToken?_cons_of_other (other : (c.isNamed name && c.persists) = false) :
    c.lastToken? ((name, token) :: found) = c.lastToken? found := by
  rcases Bool.and_eq_false_iff.mp other with named | persists
  · simp [lastToken?, named]
  · simp [lastToken?, persists]

theorem isNamed_text {s : String} (isText : c.name = .text s) : c.isNamed name = (s == name) := by
  have spelt : (Text.whole s == Text.whole name) = (s == name) := by
    rw [Bool.eq_iff_iff, beq_iff_eq, beq_iff_eq, Text.whole.injEq]
  rw [isNamed, isText]
  exact spelt

theorem isNamed_torn {t : Torn} (isTorn : c.name = .text (.torn t)) : c.isNamed name = false := by
  have apart : (Text.torn t == Text.whole name) = false := beq_false_of_ne nofun
  rw [isNamed, isTorn]
  exact apart

theorem lastToken?_unnamed (unnamed : ∀ p ∈ found, ¬ c.isNamed p.1) :
    c.lastToken? found = none := by
  unfold lastToken?
  rw [List.filter_eq_nil_iff.mpr unnamed]
  split <;> rfl

theorem lastToken?_append (found found' : List (String × Text)) :
    c.lastToken? (found ++ found') = (c.lastToken? found').or (c.lastToken? found) := by
  unfold lastToken?
  split
  · rw [List.filter_append, List.getLast?_append]
    cases (found'.filter fun p => c.isNamed p.1).getLast? <;> rfl
  · rfl

/-- What a control has become: its last token decides, whatever its value was, and without a token
it is as it was. Only the value is another one. -/
def Settled (found : List (String × Text)) (c c' : Control) : Prop :=
  (∃ v, c' = c.withValue v) ∧
    match c.lastToken? found with
    | some t => ∀ v, (c.withValue v).receive t = .ok c'
    | none => c' = c

/-- One delivery: a control that is addressed takes the token. -/
def Takes (name : String) (token : Text) (c c' : Control) : Prop :=
  if c.isNamed name && c.persists then c.receive token = .ok c' else c' = c

theorem takes_or_refuses (c : Control) (name : String) (token : Text) :
    (∃ c', c.Takes name token c') ∨
    ∃ fault, (c.isNamed name && c.persists) = true ∧ c.receive token = .error fault := by
  unfold Takes
  split
  · next addressed =>
    cases received : c.receive token with
    | error fault => exact .inr ⟨fault, addressed, rfl⟩
    | ok c' => exact .inl ⟨c', rfl⟩
  · exact .inl ⟨c, rfl⟩

theorem takes_of_received (addressed : (c.isNamed name && c.persists) = true)
    (received : c.receive token = .ok c') : c.Takes name token c' := by
  rwa [Takes, if_pos addressed]

theorem Takes.withValue (takes : c.Takes name token c') : ∃ v, c' = c.withValue v := by
  unfold Takes at takes
  split at takes
  · obtain ⟨v, _, same, _⟩ := taken_of_receive takes
    exact ⟨v, same⟩
  · obtain ⟨v, same⟩ := c.withValue_self
    exact ⟨v, takes.trans same⟩

/-- One delivery before others: where a later token follows, the earlier one leaves no trace. -/
theorem Takes.settled {c₁ : Control} (takes : c.Takes name token c₁)
    (later : c₁.Settled found c') : c.Settled ((name, token) :: found) c' := by
  obtain ⟨v₁, rfl⟩ := takes.withValue
  obtain ⟨⟨v, rfl⟩, last⟩ := later
  rw [lastToken?_withValue] at last
  refine ⟨⟨v, c.withValue_withValue v₁ v⟩, ?_⟩
  unfold Takes at takes
  split at takes
  · next addressed =>
    rw [lastToken?_cons_of_addressed addressed]
    cases written : c.lastToken? found with
    | none =>
      rw [written] at last
      intro v'
      rw [last, receive_withValue]
      exact takes
    | some t =>
      -- the later token is taken from any value, so also from the one before this delivery
      rw [written] at last
      exact fun v' => by simpa using last v'
  · next other =>
    rw [lastToken?_cons_of_other (Bool.eq_false_of_not_eq_true other)]
    cases written : c.lastToken? found with
    | none =>
      rw [written] at last
      exact last.trans takes
    | some t =>
      rw [written] at last
      exact fun v' => by simpa using last v'

theorem Settled.idle (settled : c.Settled found c') (unaddressed : c.lastToken? found = none) :
    c' = c := by
  obtain ⟨-, last⟩ := settled
  rwa [unaddressed] at last

/-- A settled control has read its last token. -/
theorem Settled.received (settled : c.Settled found c') (last : c.lastToken? found = some token) :
    c.receive token = .ok c' := by
  obtain ⟨-, taken⟩ := settled
  rw [last] at taken
  rw [← receive_withValue .null]
  exact taken .null

/-- Nothing more happens to a control that has settled. -/
theorem Settled.again {c'' : Control} (first : c.Settled found c') (again : c'.Settled found c'') :
    c'' = c' := by
  obtain ⟨⟨v, rfl⟩, last⟩ := first
  obtain ⟨-, last'⟩ := again
  rw [lastToken?_withValue] at last'
  cases written : c.lastToken? found with
  | none =>
    rw [written] at last'
    exact last'
  | some t =>
    rw [written] at last last'
    have received := last' v
    rw [withValue_withValue] at received
    exact Except.ok.inj (received.symm.trans (last v))

end Control

/-- Controls of which only the values have changed. -/
def Edited (before after : List Control) : Prop :=
  List.Forall₂ (fun c c' => ∃ v, c' = Control.withValue c v) before after

theorem Edited.origin {before after : List Control} (edited : Edited before after) :
    ∀ c' ∈ after, ∃ c ∈ before, ∃ v, c' = Control.withValue c v := by
  intro c' member
  obtain ⟨c, place, same⟩ := left_of_forall₂ edited member
  exact ⟨c, place, same⟩

/-- What does not depend on the value holds of controls whose values have changed. -/
theorem Edited.forall_mem {p : Control → Prop} (same : ∀ c v, p (Control.withValue c v) ↔ p c)
    {before after : List Control} (edited : Edited before after) :
    (∀ c ∈ after, p c) ↔ ∀ c ∈ before, p c := by
  induction edited with
  | nil => simp
  | cons here _ ih =>
    obtain ⟨v, rfl⟩ := here
    rw [List.forall_mem_cons, List.forall_mem_cons, same, ih]

namespace Dialog

variable {name : String} {token : Text} {found : List (String × Text)} {controls : List Control}

theorem deliver_cons_of_takes {c c' : Control} (takes : c.Takes name token c')
    (controls : List Control) : deliver name token (c :: controls) =
      ⟨c' :: (deliver name token controls).controls, (deliver name token controls).fault⟩ := by
  unfold Control.Takes at takes
  split at takes
  · next addressed => simp [deliver, addressed, takes]
  · next other => simp [deliver, other, takes]

theorem deliver_cons_of_refused {c : Control} {fault : ControlFault}
    (addressed : (c.isNamed name && c.persists) = true) (refused : c.receive token = .error fault)
    (controls : List Control) :
    deliver name token (c :: controls) = ⟨c :: controls, some fault⟩ := by
  simp [deliver, addressed, refused]

theorem deliver_takes (calm : (deliver name token controls).fault = none) :
    List.Forall₂ (Control.Takes name token) controls (deliver name token controls).controls := by
  induction controls with
  | nil => exact .nil
  | cons c controls ih =>
    rcases c.takes_or_refuses name token with ⟨c', takes⟩ | ⟨fault, addressed, refused⟩
    · rw [deliver_cons_of_takes takes] at calm ⊢
      exact .cons takes (ih calm)
    · rw [deliver_cons_of_refused addressed refused] at calm
      cases calm

theorem deliver_calm_iff : (deliver name token controls).fault = none ↔
    ∀ c ∈ controls, (c.isNamed name && c.persists) = true → ∃ c', c.receive token = .ok c' := by
  induction controls with
  | nil => simp [deliver]
  | cons c controls ih =>
    rw [List.forall_mem_cons, ← ih]
    rcases c.takes_or_refuses name token with ⟨c', takes⟩ | ⟨fault, addressed, refused⟩
    · have able : (c.isNamed name && c.persists) = true → ∃ c', c.receive token = .ok c' := by
        intro addressed
        rw [Control.Takes, if_pos addressed] at takes
        exact ⟨c', takes⟩
      rw [deliver_cons_of_takes takes]
      exact (and_iff_right able).symm
    · rw [deliver_cons_of_refused addressed refused]
      refine iff_of_false (by simp) ?_
      rintro ⟨able, _⟩
      obtain ⟨c', received⟩ := able addressed
      cases refused.symm.trans received

theorem deliverAll_cons (calm : (deliver name token controls).fault = none) :
    deliverAll ((name, token) :: found) controls =
      deliverAll found (deliver name token controls).controls := by
  rw [deliverAll]
  simp only [calm]

theorem calm_of_deliverAll (calm : (deliverAll ((name, token) :: found) controls).fault = none) :
    (deliver name token controls).fault = none := by
  rw [deliverAll] at calm
  cases fault : (deliver name token controls).fault with
  | none => rfl
  | some fault' => simp [fault] at calm

/-- A run without a fault settles every control. -/
theorem deliverAll_settled (calm : (deliverAll found controls).fault = none) :
    List.Forall₂ (Control.Settled found) controls (deliverAll found controls).controls := by
  induction found generalizing controls with
  | nil =>
    rw [deliverAll, List.forall₂_same]
    exact fun c _ => ⟨c.withValue_self, by simp [Control.lastToken?]⟩
  | cons piece found ih =>
    obtain ⟨name, token⟩ := piece
    have first := calm_of_deliverAll calm
    rw [deliverAll_cons first] at calm ⊢
    refine forall₂_comp (fun _ _ _ takes later => ?_) (deliver_takes first) (ih calm)
    exact Control.Takes.settled takes later

/-- A run has no fault exactly when every control can take each token under its name. -/
theorem deliverAll_calm_iff : (deliverAll found controls).fault = none ↔
    ∀ c ∈ controls, ∀ p ∈ found, (c.isNamed p.1 && c.persists) = true →
      ∃ c', c.receive p.2 = .ok c' := by
  induction found generalizing controls with
  | nil => simp [deliverAll]
  | cons piece found ih =>
    obtain ⟨name, token⟩ := piece
    -- what a control can take does not depend on the value that the first piece gave it
    have later (first : (deliver name token controls).fault = none) :=
      Edited.forall_mem (p := fun c => ∀ p ∈ found, (c.isNamed p.1 && c.persists) = true →
        ∃ c', c.receive p.2 = .ok c') (by simp)
        ((deliver_takes first).imp fun _ _ => Control.Takes.withValue)
    constructor
    · intro calm c member
      have first := calm_of_deliverAll calm
      rw [deliverAll_cons first, ih, later first] at calm
      exact List.forall_mem_cons.mpr ⟨deliver_calm_iff.mp first c member, calm c member⟩
    · intro able
      have first := deliver_calm_iff.mpr fun c member => (List.forall_mem_cons.mp (able c member)).1
      rw [deliverAll_cons first, ih, later first]
      exact fun c member => (List.forall_mem_cons.mp (able c member)).2

theorem settled_again {after after' : List Control}
    (first : List.Forall₂ (Control.Settled found) controls after)
    (again : List.Forall₂ (Control.Settled found) after after') : after' = after := by
  induction first generalizing after' with
  | nil => cases again; rfl
  | cons here _ ih =>
    cases again with
    | cons here' later => rw [here.again here', ih later]

theorem deliverAll_again (calm : (deliverAll found controls).fault = none) :
    deliverAll found (deliverAll found controls).controls =
      ⟨(deliverAll found controls).controls, none⟩ := by
  have settled := deliverAll_settled calm
  have calm' : (deliverAll found (deliverAll found controls).controls).fault = none := by
    rw [deliverAll_calm_iff] at calm ⊢
    exact (Edited.forall_mem (by simp) (settled.imp fun _ _ settled => settled.1)).mpr calm
  have same := settled_again settled (deliverAll_settled calm')
  generalize deliverAll found (deliverAll found controls).controls = after at same calm' ⊢
  cases after
  cases same
  cases calm'
  rfl

/-- A restore has no fault exactly when no control refuses a token and every name can be decoded. -/
theorem deserialize_calm {d : Dialog} {text : Text} : (d.deserialize text).2 = none ↔
    (deliverAll (pieces text).pieces d.controls).fault = none ∧ (pieces text).fault = none :=
  Option.or_eq_none_iff

/-- For every dialog and every text of which no control refuses a token: the last token under its
name decides about each control that can be saved, whatever its value was before; every other
control, every other field, the buttons and the pressed one are as they were; and the text does
nothing more when it is read again. The tokens are those of all pieces up to the first name that
cannot be decoded, and such a name is a fault. -/
theorem deserialize_settles {d : Dialog} {text : Text}
    (taken : ∀ c ∈ d.controls, ∀ p ∈ (pieces text).pieces, (c.isNamed p.1 && c.persists) = true →
      ∃ c', c.receive p.2 = .ok c') :
    (∃ parts, Divides parts text ∧ Gives parts (pieces text)) ∧
      List.Forall₂ (Control.Settled (pieces text).pieces) d.controls
        (d.deserialize text).1.controls ∧
      (d.deserialize text).2 = (pieces text).fault ∧
      (d.deserialize text).1.buttons = d.buttons ∧
      (d.deserialize text).1.usesButtons = d.usesButtons ∧
      (d.deserialize text).1.pressed = d.pressed ∧
      (d.deserialize text).1.deserialize text = d.deserialize text := by
  have calm := deliverAll_calm_iff.mpr taken
  have fault : (d.deserialize text).2 = (pieces text).fault := by
    rw [deserialize, calm, Option.none_or]
  refine ⟨exists_gives text, deliverAll_settled calm, fault, rfl, rfl, rfl, ?_⟩
  have again : (d.deserialize text).1.deserialize text =
      ((d.deserialize text).1, (pieces text).fault) := by
    simp only [deserialize, deliverAll_again calm, Option.none_or]
  rw [again, ← fault]

/-- Two controls and a label of one name, and a control of another name. -/
def crowded : Dialog where
  controls := [Control.first "a" (.edit false (.text "old")),
    Control.first "a" (.intEdit (.int 5) (.int 0) (.int 9)), Control.first "a" (.label .null),
    Control.first "b" (.checkbox .null (.bool true))]
  buttons := []
  usesButtons := true
  pressed := none

theorem crowded_takes {c : Control} (member : c ∈ crowded.controls) (token : String)
    (persists : c.persists = true) : ∃ c', c.receive token = .ok c' := by
  simp only [crowded, List.mem_cons, List.not_mem_nil, or_false] at member
  rcases member with rfl | rfl | rfl | rfl
  · exact ⟨_, rfl⟩
  · exact ⟨_, rfl⟩
  · cases persists
  · exact ⟨_, rfl⟩

theorem pieces_crowded :
    pieces "a:1||x|#61:7:8|b" = ⟨[("a", .whole "1"), ("a", .whole "7:8")], none⟩ := by
  have parts : wholePieces "a:1||x|#61:7:8|b" =
      ["a:1", "#61:7:8"].filterMap (Pieces.cut? ':' ·.toList) := by decide +kernel
  have plain : Token.decode "a" = "a" := by decide +kernel
  have escaped : Token.decode "#61" = "a" := by decide +kernel
  calc pieces "a:1||x|#61:7:8|b"
    _ = ⟨[(Token.decode "a", .whole "1"), (Token.decode "#61", .whole "7:8")], none⟩ := by
      rw [pieces_whole, parts]
      rfl
    _ = ⟨[("a", .whole "1"), ("a", .whole "7:8")], none⟩ := by rw [plain, escaped]

/-- A text with a name in two spellings, an empty piece, and pieces without a colon. -/
theorem deserialize_settles_crowded :
    (∀ c ∈ crowded.controls, ∀ p ∈ (pieces "a:1||x|#61:7:8|b").pieces,
      (c.isNamed p.1 && c.persists) = true → ∃ c', c.receive p.2 = .ok c') ∧
      pieces "a:1||x|#61:7:8|b" = ⟨[("a", .whole "1"), ("a", .whole "7:8")], none⟩ ∧
      (crowded.deserialize "a:1||x|#61:7:8|b").2 = none ∧
      (crowded.deserialize "a:1||x|#61:7:8|b").1.controls =
        [Control.first "a" (.edit false (.text "7:8")),
          Control.first "a" (.intEdit (.int 7) (.int 0) (.int 9)), Control.first "a" (.label .null),
          Control.first "b" (.checkbox .null (.bool true))] := by
  have taken : ∀ c ∈ crowded.controls, ∀ p ∈ (pieces "a:1||x|#61:7:8|b").pieces,
      (c.isNamed p.1 && c.persists) = true → ∃ c', c.receive p.2 = .ok c' := by
    intro c member p listed addressed
    have persists := (Bool.and_eq_true_iff.mp addressed).2
    rw [pieces_crowded] at listed
    rcases List.mem_pair.mp listed with rfl | rfl
    · exact crowded_takes member "1" persists
    · exact crowded_takes member "7:8" persists
  obtain ⟨-, -, fault, -⟩ := deserialize_settles taken
  refine ⟨taken, pieces_crowded, by rw [fault, pieces_crowded], ?_⟩
  have last : Token.decode "7:8" = "7:8" := by decide +kernel
  calc (crowded.deserialize "a:1||x|#61:7:8|b").1.controls
    _ = [Control.first "a" (.edit false (.text (Token.decode "7:8"))),
        Control.first "a" (.intEdit (.int 7) (.int 0) (.int 9)), Control.first "a" (.label .null),
        Control.first "b" (.checkbox .null (.bool true))] := by
      rw [deserialize, pieces_crowded]
      rfl
    _ = _ := by rw [last]

/-- A piece whose name is a surrogate on its own, and one for an edit. -/
def tornName : Text := .torn .alone ++ ":1|a:5"

/-- A name that cannot be decoded keeps the pieces after it from a control that would take them. -/
theorem deserialize_stops_at_name :
    let c := Control.first "a" (.edit false (.text "old"))
    let d : Dialog := ⟨[c], [], true, none⟩
    Divides [[.lone 0, .char ':', .char '1'], [.char 'a', .char ':', .char '5']] tornName ∧
      (∀ token : String, ∃ c', c.receive token = .ok c') ∧
      c.receive "5" = .ok (Control.first "a" (.edit false (.text "5"))) ∧
      (d.deserialize tornName).1.controls = [c] ∧
      (d.deserialize tornName).2 = some (.torn .alone) := by
  have token : Token.decode "5" = "5" := by decide +kernel
  refine ⟨⟨by simp, by decide, by decide⟩, fun token => ⟨_, rfl⟩, ?_, rfl, rfl⟩
  exact congrArg (fun s => Except.ok (Control.first "a" (.edit false (.text (.whole s))))) token

end Dialog

end ScriptDialog
