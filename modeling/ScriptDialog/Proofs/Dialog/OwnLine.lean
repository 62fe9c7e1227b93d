import Mathlib.Data.List.Nodup
import ScriptDialog.Proofs.Dialog.Delivery

/-! A dialog that reads its own line. Controls of several classes may share a name: all of them take
the token of the last one. That token is what the last control writes again once it has read it, so
nothing happens when the dialog reads its own line a second time. -/
namespace ScriptDialog

theorem Kind.Writes.like {kind : Kind} {t : String} (writes : kind.Writes t) : kind.Like kind := by
  cases writes <;> constructor

namespace Control

open Dialog (wholes)

/-- The control as its own token restores it: a transparency that is not in use becomes zero. -/
def asSaved (c : Control) : Control :=
  match c.kind with
  | .color declared (.color value) alpha =>
    { c with kind := .color declared (.color (value.shown alpha.truthy)) alpha }
  | _ => c

variable {texts : String → Prop} {ints : Int → Prop} {c c' : Control} {t : String} {token : Text}

theorem asSaved_eq (c : Control) : c.asSaved = c.withValue c.kind.saved := by
  obtain ⟨name, hint, x, y, width, height, kind⟩ := c
  cases kind with
  | color declared value alpha => cases value <;> rfl
  | _ => rfl

/-- A control that reads its own token. -/
theorem receive_own (writes : c.kind.Writes t) (held : c.kind.Holds texts Narrow) :
    c.receive t = .ok c.asSaved := by
  rw [asSaved_eq]
  exact receive_saved writes held writes.like

/-- A control that has read its own token has that token still. -/
theorem token_asSaved (c : Control) : c.asSaved.token = c.token := by
  obtain ⟨name, hint, x, y, width, height, kind⟩ := c
  cases kind with
  | color declared value alpha =>
    cases value with
    | color value =>
      exact congrArg (fun text => Except.ok (Text.whole (Token.encode text)))
        (value.hex_shown alpha.truthy)
    | _ => rfl
  | _ => rfl

theorem asSaved_of_unsaved (unsaved : ¬ c.persists) : c.asSaved = c := by
  obtain ⟨name, hint, x, y, width, height, kind⟩ := c
  cases kind with
  | color => exact absurd rfl unsaved
  | _ => rfl

/-- A text that a control has taken is the one that the token stands for. -/
theorem text_of_receive (received : c.receive token = .ok c') {s : Text}
    (value : c'.value? = some (.text s)) : ∃ t : String, token = t ∧ s = Token.decode t := by
  obtain ⟨kind', taken, rfl⟩ := Success.of_map received
  obtain ⟨name, hint, x, y, width, height, kind⟩ := c
  cases kind with
  | bare | unformed | label => cases taken
  | edit | dropdown =>
    cases token with
    | torn t => cases taken
    | whole t =>
      cases taken
      cases value
      exact ⟨t, rfl, rfl⟩
  | intEdit | checkbox =>
    cases taken
    cases value
  | floatEdit =>
    simp only [kindFrom] at taken
    split at taken <;> cases taken
    cases value
  | color =>
    simp only [kindFrom] at taken
    split at taken
    · cases taken
    · split at taken <;> cases taken
      cases value

theorem mem_of_lastToken? {found : List (String × Text)}
    (last : c.lastToken? found = some token) : ∃ p ∈ found, p.2 = token := by
  unfold lastToken? at last
  split at last
  · obtain ⟨p, place, same⟩ := Option.map_eq_some_iff.mp last
    exact ⟨p, (List.mem_filter.mp (List.mem_of_getLast? place)).1, same⟩
  · cases last

/-- What a control may hold after it has settled: a text that it had, or one of the tokens. -/
theorem Settled.text {found : List (String × Text)} (settled : c.Settled found c') {s : Text}
    (value : c'.value? = some (.text s)) : c.value? = some (.text s) ∨
      ∃ p ∈ found, ∃ t : String, p.2 = t ∧ s = Token.decode t := by
  cases written : c.lastToken? found with
  | none =>
    cases settled.idle written
    exact .inl value
  | some token =>
    obtain ⟨p, place, rfl⟩ := mem_of_lastToken? written
    exact .inr ⟨p, place, text_of_receive (settled.received written) value⟩

/-- Delimited tokens put no torn text into a control. -/
theorem Settled.whole {found : List (String × Text)} (settled : c.Settled found c')
    (whole : c.Whole) : c'.Whole := by
  refine ⟨?_, fun t value => ?_⟩
  · obtain ⟨⟨v, rfl⟩, _⟩ := settled
    exact whole.name
  · rcases settled.text value with kept | ⟨p, _, s, _, ⟨⟩⟩
    exact whole.value t kept

theorem Settled.uncalled {named : List (String × String)} (settled : c.Settled (wholes named) c')
    (readable : ∀ p ∈ named, Token.Readable p.2)
    (short : ∀ s : String, c.value? = some (.text s) → Short s) {s : String}
    (value : c'.value? = some (.text s)) : Uncalled s := by
  rcases settled.text value with kept | ⟨p, place, t, same, decoded⟩
  · exact .inl (short s kept)
  · obtain ⟨q, listed, rfl⟩ := List.mem_map.mp place
    cases same
    cases decoded
    exact (readable q listed).short

end Control

namespace Dialog

open Control

/-- The dialog after it has read its own line. -/
def reread (d : Dialog) : Except ControlFault Dialog := do
  let text ← d.serialize
  match (d.deserialize text).2 with
  | none => return (d.deserialize text).1
  | some fault => throw fault

variable {controls after : List Control} {named named' : List (String × String)} {c w : Control}
  {found : List (String × Text)} {name : String} {d : Dialog}

theorem Reachable.restore (reachable : d.Reachable) (text : Text) :
    (d.deserialize text).1.Reachable := by
  obtain ⟨records, labels, ids, includeButtons, built, written, isBuilt, reached⟩ := reachable
  exact ⟨records, labels, ids, includeButtons, built, _, isBuilt, reached.restore text⟩

theorem reread_of_restored {text : Text} (written : d.serialize = .ok text)
    (calm : (d.deserialize text).2 = none) : d.reread = .ok (d.deserialize text).1 := by
  rw [reread, written]
  simp only [bind, Except.bind, calm]
  rfl

theorem lastWriter?_cons (c : Control) (controls : List Control) (name : String) :
    lastWriter? (c :: controls) name =
      (lastWriter? controls name).or (if c.persists && c.isNamed name then some c else none) := by
  unfold lastWriter?
  rw [List.filter_filter, List.filter_filter, List.filter_cons]
  split
  · next both =>
    rw [List.getLast?_cons, Bool.and_comm, both]
    cases (controls.filter fun c => c.isNamed name && c.persists).getLast? <;> rfl
  · next other =>
    rw [Bool.and_comm, if_neg other, Option.or_none]

/-- The last writer of a name stays the same control. -/
theorem lastWriter?_settled (settled : List.Forall₂ (Settled found) controls after)
    (name : String) :
    Option.Rel (Settled found) (lastWriter? controls name) (lastWriter? after name) := by
  induction settled with
  | nil => exact .none
  | @cons c c' controls after here _ ih =>
    obtain ⟨v, rfl⟩ := here.1
    rw [lastWriter?_cons, lastWriter?_cons, persists_withValue, isNamed_withValue]
    generalize lastWriter? controls name = last, lastWriter? after name = last' at ih
    cases ih with
    | some both => exact .some both
    | none =>
      split
      · exact .some here
      · exact .none

theorem mem_of_lastWriter? (last : lastWriter? controls name = some w) :
    w ∈ controls ∧ w.persists ∧ w.isNamed name := by
  have member := List.mem_of_getLast? last
  simp only [List.mem_filter] at member
  exact ⟨member.1.1, member.1.2, member.2⟩

/-- A last writer reads its own token, and so has the same token afterwards. -/
theorem token_of_settled {w' : Control} (lists : Lists controls named)
    (savable : ∀ c ∈ controls, c.persists →
      (∃ name : String, c.name = .text name) ∧ c.kind.Holds Short Narrow)
    (isText : w.name = .text name) (last : lastWriter? controls name = some w)
    (settled : w.Settled (wholes named) w') : w' = w.asSaved ∧ w'.token = w.token := by
  obtain ⟨member, persists, _⟩ := mem_of_lastWriter? last
  have held := (savable w member persists).2
  have same : w' = w.asSaved := by
    rcases lastToken?_of_lists lists isText persists with
      ⟨writer, token, last', written, found⟩ | ⟨unwritten, _⟩
    · cases last.symm.trans last'
      have writes := writes_of_token held (fun _ => Narrow.writable) persists written
      exact Except.ok.inj ((settled.received found).symm.trans (receive_own writes held))
    · cases last.symm.trans unwritten
  exact ⟨same, same ▸ token_asSaved w⟩

theorem lastToken?_unpersisted (unsaved : ¬ c.persists) : c.lastToken? found = none := by
  rw [lastToken?, if_neg unsaved]

/-- The line that a dialog writes after it has read its own has the same last tokens. -/
theorem lastToken?_again (lists : Lists controls named) (lists' : Lists after named')
    (settled : List.Forall₂ (Settled (wholes named)) controls after)
    (savable : ∀ c ∈ controls, c.persists →
      (∃ name : String, c.name = .text name) ∧ c.kind.Holds Short Narrow)
    (spelt : c.persists → ∃ name : String, c.name = .text name) :
    c.lastToken? (wholes named') = c.lastToken? (wholes named) := by
  by_cases persists : c.persists
  · obtain ⟨name, isText⟩ := spelt persists
    have writers := lastWriter?_settled settled name
    rcases lastToken?_of_lists lists isText persists with
      ⟨w, token, last, written, found⟩ | ⟨last, found⟩
    all_goals rcases lastToken?_of_lists lists' isText persists with
      ⟨w', token', last', written', found'⟩ | ⟨last', found'⟩
    all_goals rw [last, last'] at writers
    · cases writers with
      | some both =>
        obtain ⟨member, persists', named_⟩ := mem_of_lastWriter? last
        obtain ⟨name', isText'⟩ := (savable w member persists').1
        rw [isNamed_text isText', beq_iff_eq] at named_
        obtain ⟨_, same⟩ := token_of_settled lists savable (named_ ▸ isText') last both
        rw [same, written] at written'
        rw [found, found', Except.ok.inj written']
    · cases writers
    · cases writers
    · rw [found, found']
  · rw [lastToken?_unpersisted persists, lastToken?_unpersisted persists]

/-- Where no two names are the same, each control is the last writer of its name. -/
theorem lastWriter?_of_distinct (distinct : ((controls.filter persists).map Control.name).Nodup)
    (member : c ∈ controls) (persists : c.persists) (isText : c.name = .text name) :
    lastWriter? controls name = some c := by
  have place : c ∈ controls.filter Control.persists := List.mem_filter.mpr ⟨member, persists⟩
  have addressed : c ∈ (controls.filter Control.persists).filter fun c => c.isNamed name := by
    rw [List.mem_filter, isNamed_text isText]
    exact ⟨place, by simp⟩
  cases last : lastWriter? controls name with
  | none =>
    rw [lastWriter?, List.getLast?_eq_none_iff] at last
    rw [last] at addressed
    cases addressed
  | some w =>
    obtain ⟨place', named_⟩ := List.mem_filter.mp (List.mem_of_getLast? last)
    have same : w.name = c.name := by
      unfold isNamed at named_
      split at named_
      · next s isText' =>
        rw [isText', isText]
        exact congrArg Value.text (beq_iff_eq.mp named_)
      · cases named_
    rw [List.inj_on_of_nodup_map distinct place' place same]

/-- Where no two names are the same, each control reads its own token. -/
theorem asSaved_of_distinct (lists : Lists controls named)
    (settled : List.Forall₂ (Settled (wholes named)) controls after)
    (savable : ∀ c ∈ controls, c.persists →
      (∃ name : String, c.name = .text name) ∧ c.kind.Holds Short Narrow)
    (distinct : ((controls.filter persists).map Control.name).Nodup) :
    after = controls.map asSaved := by
  rw [← List.forall₂_eq_eq_eq, List.forall₂_map_right_iff]
  refine (List.forall₂_and_left _ _ |>.mpr ⟨fun c member => member, settled⟩).flip.imp ?_
  rintro c' c ⟨member, here⟩
  by_cases persists : c.persists
  · obtain ⟨name, isText⟩ := (savable c member persists).1
    have last := lastWriter?_of_distinct distinct member persists isText
    exact (token_of_settled lists savable isText last here).1
  · rw [here.idle (lastToken?_unpersisted persists), asSaved_of_unsaved persists]

/-- What a dialog with texts that no colour refuses does with its own line. -/
theorem exists_reread (reachable : d.Reachable) (whole : d.Whole)
    (fit : ∀ c ∈ d.controls, ∀ s : String, c.value? = some (.text s) → Uncalled s) :
    ∃ (named : List (String × String)) (line : String), Lists d.controls named ∧
      (∀ p ∈ named, Token.Readable p.2) ∧ d.reread = .ok (d.deserialize line).1 ∧
      List.Forall₂ (Settled (wholes named)) d.controls (d.deserialize line).1.controls := by
  have savable := reachable.savable whole fit
  obtain ⟨named, lists, written⟩ := exists_lists (fun _ => Narrow.writable) savable
  have readable := lists.readable fun c member persists => (savable c member persists).2
  have calm := deliverAll_calm_of_readable readable fun c member => reachable.made.formed member
  have restored : d.deserialize (line named) =
      ({ d with controls := (deliverAll (wholes named) d.controls).controls }, none) := by
    simp only [deserialize, pieces_line written, calm, Option.or_none]
  refine ⟨named, line named, lists, readable, ?_, ?_⟩
  · exact reread_of_restored (serialize_of_lists lists) (by rw [restored])
  · rw [restored]
    exact deliverAll_settled calm

theorem whole_of_settled (settled : List.Forall₂ (Settled found) d.controls after)
    (whole : d.Whole) : ∀ c ∈ after, c.persists → c.Whole := by
  intro c' member persists
  obtain ⟨c, place, here⟩ := left_of_forall₂ settled member
  obtain ⟨⟨v, rfl⟩, _⟩ := id here
  exact here.whole (whole c place (by simpa using persists))

/-- In every state that a dialog reaches, with texts of no more characters than digits are
converted: reading its own line succeeds, whichever controls share a name, and reading it again
leaves everything as it is. Where no two names are the same, the first reading too changes nothing
but the transparency of colours that do not use it. A dialog with a torn text as a name or value has
no line to read, and stays as it is. -/
theorem reread_settles (reachable : d.Reachable)
    (short : ∀ c ∈ d.controls, ∀ s : String, c.value? = some (.text s) → Short s) :
    (d.Whole → ∃ after, d.reread = .ok after ∧ after.reread = .ok after ∧
      (((d.controls.filter persists).map Control.name).Nodup →
        after = { d with controls := d.controls.map asSaved })) ∧
    (¬ d.Whole → ∃ t, d.serialize = .error (.torn t)) := by
  refine ⟨fun whole => ?_, reachable.usable.torn⟩
  have savable := reachable.savable whole short
  obtain ⟨named, line, lists, readable, read, settled⟩ :=
    exists_reread reachable whole fun c member s value => .inl (short c member s value)
  -- the texts that are taken over may be longer, but no colour refuses them
  have fit : ∀ c ∈ (d.deserialize line).1.controls, ∀ s : String, c.value? = some (.text s) →
      Uncalled s := by
    intro c' member s value
    obtain ⟨c, place, here⟩ := left_of_forall₂ settled member
    exact here.uncalled readable (short c place) value
  have reachable' := reachable.restore line
  have whole' : (d.deserialize line).1.Whole := whole_of_settled settled whole
  obtain ⟨named', line', lists', _, read', settled'⟩ := exists_reread reachable' whole' fit
  refine ⟨_, read, ?_, fun distinct => ?_⟩
  · have again : List.Forall₂ (Settled (wholes named)) (d.deserialize line).1.controls
        ((d.deserialize line).1.deserialize line').1.controls := by
      have both := List.forall₂_and_left _ _ |>.mpr
        ⟨fun c member persists => ((reachable'.savable whole' fit) c member persists).1, settled'⟩
      refine both.imp fun c c' ⟨spelt, here⟩ => ?_
      rwa [Settled, lastToken?_again lists lists' settled savable spelt] at here
    rw [read']
    exact congrArg (fun controls => Except.ok { d with controls := controls })
      (settled_again settled again)
  · exact congrArg (fun controls => { d with controls := controls })
      (asSaved_of_distinct lists settled savable distinct)

/-- An integer edit, an edit and a colour of one name; the colour has a transparency that it does
not use. -/
def clashing : Dialog where
  controls := [first "a" (.intEdit (.int 0) (.int Numeral.int32Min) (.int Numeral.int32Max)),
    first "a" (.edit false (.text "rgb(1,2,3)")),
    first "a" (.color false (.color ⟨1, 2, 3, 4⟩) (.bool false))]
  buttons := Button.defaults
  usesButtons := true
  pressed := none

def colorRecord (name value : String) : Value :=
  .map [(.text "class", .text "color"), (.text "name", .text name), (.text "value", .text value)]

theorem clashing_reachable : clashing.Reachable :=
  ⟨.list [shortRecord "intedit" "a", editRecord "a" "rgb(1,2,3)", colorRecord "a" "#01020304"],
    .null, .null, true, clashing, fun _ => False, rfl, .built⟩

theorem clashing_short :
    ∀ c ∈ clashing.controls, ∀ s : String, c.value? = some (.text s) → Short s := by
  intro c member s held
  simp only [clashing, List.mem_cons, List.not_mem_nil, or_false] at member
  rcases member with rfl | rfl | rfl <;> cases held
  decide

theorem clashing_whole : clashing.Whole := by
  intro c member _
  simp only [clashing, List.mem_cons, List.not_mem_nil, or_false] at member
  rcases member with rfl | rfl | rfl <;> constructor <;> rintro t ⟨⟩

theorem clashing_lists :
    Lists clashing.controls [("a", "0"), ("a", "rgb(1#2C2#2C3)"), ("a", "#23010203")] := by
  have zero : (first "a"
      (.intEdit (.int 0) (.int Numeral.int32Min) (.int Numeral.int32Max))).token =
        .ok (.whole "0") := by
    simp only [first, token]
    rw [shownToken_int (Narrow.writable (n := 0) (by decide))]
    rfl
  refine lists_cons_of_persists rfl rfl zero ?_
  refine lists_cons_of_persists rfl rfl rfl ?_
  exact lists_cons_of_persists rfl rfl rfl rfl

/-- The edit takes over the text of the colour, and the integer edit its zero. -/
theorem reread_settles_clashing :
    clashing.Reachable ∧
      (∀ c ∈ clashing.controls, ∀ s : String, c.value? = some (.text s) → Short s) ∧
      clashing.Whole ∧ ∃ after, clashing.reread = .ok after ∧ after.reread = .ok after ∧
        after.controls =
          [first "a" (.intEdit (.int 0) (.int Numeral.int32Min) (.int Numeral.int32Max)),
            first "a" (.edit false (.text "#010203")),
            first "a" (.color false (.color ⟨1, 2, 3, 0⟩) (.bool false))] := by
  obtain ⟨after, once, again, _⟩ :=
    (reread_settles clashing_reachable clashing_short).1 clashing_whole
  refine ⟨clashing_reachable, clashing_short, clashing_whole, after, once, again, ?_⟩
  obtain ⟨named, line, lists, _, read, settled⟩ := exists_reread clashing_reachable clashing_whole
    fun c member s value => .inl (clashing_short c member s value)
  cases clashing_lists.unique lists
  cases read.symm.trans once
  -- each of the three reads the token of the colour, whatever it has read before
  have spelt : Token.decode "#23010203" = "#010203" := by decide +kernel
  have color : Color.ofText "#010203" = .ok ⟨1, 2, 3, 0⟩ := rfl
  generalize (clashing.deserialize line).1.controls = controls at settled
  rcases settled with _ | ⟨int, _ | ⟨edit, _ | ⟨painted, ⟨⟩⟩⟩⟩
  have int : receive _ "#23010203" = .ok _ := int.received rfl
  have edit : receive _ "#23010203" = .ok _ := edit.received rfl
  have painted : receive _ "#23010203" = .ok _ := painted.received rfl
  simp only [receive, first, kindFrom, decoded_whole, spelt, color] at int edit painted
  cases int
  cases edit
  cases painted
  rfl

end Dialog

end ScriptDialog
