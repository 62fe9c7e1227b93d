import Mathlib.Data.List.Induction
import ScriptDialog.Dialog.Basic
import ScriptDialog.Proofs.Related

/-! What a script reads back: the values by the names of the controls, every name once, in the order
of first use, and under it the value of the last control with the name; and the label of the pressed
button. -/
namespace ScriptDialog.Dialog

/-- The last value under a name. -/
def lastUnder (rows : List (Text × Value)) (name : Text) : Value :=
  ((rows.filter fun row => row.1 == name).getLast?.map Prod.snd).getD .null

/-- Each name once, with its last value. -/
def table (rows : List (Text × Value)) : List (Value × Value) :=
  (rows.map Prod.fst).eraseDups.map fun name => (.text name, lastUnder rows name)

/-- The name of a control and the value that it reads back. -/
def Shows (c : Control) (row : Text × Value) : Prop :=
  c.name = .text row.1 ∧ c.readBack = .ok row.2

variable {rows rows' : List (Text × Value)} {name name' : Text} {v : Value}

theorem eraseDups_concat (names : List Text) (name : Text) :
    (names ++ [name]).eraseDups =
      if name ∈ names then names.eraseDups else names.eraseDups ++ [name] := by
  rw [List.eraseDups_append, List.cons_removeAll]
  by_cases known : name ∈ names <;> simp [known, List.eraseDups_cons]

theorem nodup_eraseDups (names : List Text) : names.eraseDups.Nodup := by
  induction names using List.reverseRecOn with
  | nil => simp
  | append_singleton names name ih =>
    rw [eraseDups_concat]
    split
    · exact ih
    · next new =>
      rw [List.nodup_append]
      refine ⟨ih, by simp, ?_⟩
      intro a inside b here same
      cases List.mem_singleton.mp here
      exact new (List.mem_eraseDups.mp (same ▸ inside))

theorem lastUnder_concat_self : lastUnder (rows ++ [(name, v)]) name = v := by
  simp [lastUnder]

theorem lastUnder_concat_other (other : name ≠ name') :
    lastUnder (rows ++ [(name, v)]) name' = lastUnder rows name' := by
  simp [lastUnder, other]

/-- A value put under a name of the list takes the place there. -/
theorem putUnder_known {names : List Text} {f : Text → Value} (unique : names.Nodup)
    (known : name ∈ names) :
    Value.putUnder (.text name) v (names.map fun n => (.text n, f n)) =
      names.map fun n => (.text n, if n = name then v else f n) := by
  induction names with
  | nil => cases known
  | cons n names ih =>
    obtain ⟨new, unique⟩ := List.nodup_cons.mp unique
    rw [List.map_cons, Value.putUnder, Value.same_text]
    by_cases here : n = name
    · subst here
      rw [if_pos (beq_self_eq_true n), List.map_cons, if_pos rfl]
      congr 1
      refine List.map_congr_left fun m member => ?_
      rw [if_neg (by rintro rfl; exact new member)]
    · rw [if_neg (by simpa using here), List.map_cons, if_neg here,
        ih unique ((List.mem_cons.mp known).resolve_left (Ne.symm here))]

theorem putUnder_new {names : List Text} {f : Text → Value} (new : name ∉ names) :
    Value.putUnder (.text name) v (names.map fun n => (.text n, f n)) =
      (names.map fun n => (.text n, f n)) ++ [(.text name, v)] := by
  induction names with
  | nil => rfl
  | cons n names ih =>
    obtain ⟨other, new⟩ := List.ne_and_not_mem_of_not_mem_cons new
    rw [List.map_cons, Value.putUnder, Value.same_text, if_neg (by simpa using Ne.symm other),
      ih new]
    rfl

theorem putUnder_table :
    Value.putUnder (.text name) v (table rows) = table (rows ++ [(name, v)]) := by
  unfold table
  rw [List.map_append, List.map_cons, List.map_nil, eraseDups_concat]
  by_cases known : name ∈ rows.map Prod.fst
  · rw [if_pos known, putUnder_known (nodup_eraseDups _) (List.mem_eraseDups.mpr known)]
    refine List.map_congr_left fun n _ => ?_
    by_cases here : n = name
    · rw [if_pos here, here, lastUnder_concat_self]
    · rw [if_neg here, lastUnder_concat_other (Ne.symm here)]
  · rw [if_neg known, putUnder_new (mt List.mem_eraseDups.mp known), List.map_append,
      List.map_cons, List.map_nil, lastUnder_concat_self]
    congr 1
    refine List.map_congr_left fun n member => ?_
    rw [lastUnder_concat_other]
    rintro rfl
    exact known (List.mem_eraseDups.mp member)

theorem values_of_shows {controls : List Control}
    (displayed : List.Forall₂ Shows controls rows) : values controls = .ok (table rows) := by
  -- the fold is at the table of the rows before, so the induction is for any of these
  have general (before : List (Text × Value)) : controls.foldlM (fun found c => do
      let value ← c.readBack
      let name ← c.name.asKey.mapError .unfit
      return Value.putUnder name value found) (table before) = .ok (table (before ++ rows)) := by
    induction displayed generalizing before with
    | nil => rw [List.append_nil]; rfl
    | @cons c row controls rows here _ ih =>
      obtain ⟨name, value⟩ := here
      rw [List.foldlM_cons, value, name]
      have next := ih (before ++ [row])
      rw [List.append_assoc, ← putUnder_table] at next
      exact next
  exact general []

theorem readBack_of_shows {d : Dialog} (displayed : List.Forall₂ Shows d.controls rows) :
    ∃ reading, d.readBack = .ok reading ∧ reading.values = table rows := by
  refine ⟨⟨if d.usesButtons then some d.answer else none, table rows⟩, ?_, rfl⟩
  rw [readBack, values_of_shows displayed]
  rfl

theorem names_of_shows {controls : List Control} (displayed : List.Forall₂ Shows controls rows) :
    controls.map Control.name = rows.map fun row => .text row.1 :=
  map_eq_of_forall₂ (fun _ _ here => here.1) displayed

theorem lastUnder_cons (row : Text × Value) (rows : List (Text × Value)) (name : Text) :
    lastUnder (row :: rows) name =
      if row.1 = name ∧ name ∉ rows.map Prod.fst then row.2 else lastUnder rows name := by
  have empty : (rows.filter fun row => row.1 == name) = [] ↔ name ∉ rows.map Prod.fst := by
    rw [List.filter_eq_nil_iff, List.mem_map]
    simp only [beq_iff_eq]
    exact ⟨fun all ⟨row, place, same⟩ => all row place same,
      fun none row place same => none ⟨row, place, same⟩⟩
  unfold lastUnder
  by_cases here : row.1 = name
  · rw [List.filter_cons_of_pos (by simpa using here), List.getLast?_cons]
    by_cases later : name ∈ rows.map Prod.fst
    · rw [if_neg fun both => both.2 later,
        List.getLast?_eq_some_getLast (mt empty.mp (not_not_intro later))]
      rfl
    · rw [if_pos ⟨here, later⟩, empty.mpr later]
      rfl
  · rw [List.filter_cons_of_neg (by simpa using here), if_neg fun both => here both.1]

/-- Rows of the same names have the same last values when every row that is the last of its name
has the same value. -/
theorem lastUnder_cons_congr {v' : Value} (names : rows.map Prod.fst = rows'.map Prod.fst)
    (last : ∀ name, lastUnder rows name = lastUnder rows' name)
    (here : name ∉ rows.map Prod.fst → v = v') (name' : Text) :
    lastUnder ((name, v) :: rows) name' = lastUnder ((name, v') :: rows') name' := by
  rw [lastUnder_cons, lastUnder_cons, last, ← names]
  split
  · next final =>
    obtain ⟨rfl, new⟩ := final
    exact here new
  · rfl

/-- Tables of the same names are equal when the last values are. -/
theorem table_congr (names : rows.map Prod.fst = rows'.map Prod.fst)
    (last : ∀ name, lastUnder rows name = lastUnder rows' name) : table rows = table rows' := by
  unfold table
  rw [names]
  exact List.map_congr_left fun name _ => by rw [last]

variable {d : Dialog}

theorem answer_eq_some_iff {label : Text} : d.answer = some label ↔
    ∃ i b, d.pressed = some i ∧ d.buttons[i]? = some b ∧ b.id ≠ some .cancel ∧ b.label = label := by
  simp only [answer, pressedButton, Option.bind_eq_some_iff, Option.ite_none_left_eq_some,
    Option.some_inj]
  constructor
  · rintro ⟨b, ⟨i, pressed, here⟩, wanted⟩
    exact ⟨i, b, pressed, here, wanted⟩
  · rintro ⟨i, b, pressed, here, wanted⟩
    exact ⟨b, ⟨i, pressed, here⟩, wanted⟩

theorem answer_eq_none_iff : d.answer = none ↔
    ∀ i b, d.pressed = some i → d.buttons[i]? = some b → b.id = some .cancel := by
  rw [Option.eq_none_iff_forall_ne_some]
  simp only [ne_eq, answer_eq_some_iff]
  constructor
  · intro silent i b pressed here
    exact Decidable.byContradiction fun wanted => silent b.label ⟨i, b, pressed, here, wanted, rfl⟩
  · rintro cancels label ⟨i, b, pressed, here, wanted, -⟩
    exact wanted (cancels i b pressed here)

end ScriptDialog.Dialog
