import ScriptDialog.Proofs.Layout.Place
import ScriptDialog.Proofs.Related

/-! The columns and rows of a grid. Each is the furthest end of the controls' stretches along its
side, none of which counts when it lies before the grid. So the grid is the least one that reaches
behind every control, whatever their order. -/
namespace ScriptDialog

namespace Layout

variable {ends ends' : List Int} {e n : Int}

/-- The furthest of the ends that lie on the grid. -/
def furthest (ends : List Int) : Int := ends.foldl max 0

theorem foldl_max_le_iff (first : Int) :
    ends.foldl max first ≤ n ↔ first ≤ n ∧ ∀ e ∈ ends, e ≤ n := by
  induction ends generalizing first with
  | nil => simp
  | cons e ends ih =>
    rw [List.foldl_cons, ih, Int.max_le, List.forall_mem_cons, and_assoc]

theorem furthest_le_iff : furthest ends ≤ n ↔ 0 ≤ n ∧ ∀ e ∈ ends, e ≤ n := foldl_max_le_iff 0

theorem furthest_nonneg (ends : List Int) : 0 ≤ furthest ends :=
  (furthest_le_iff.mp (Int.le_refl _)).1

theorem le_furthest (member : e ∈ ends) : e ≤ furthest ends :=
  (furthest_le_iff.mp (Int.le_refl _)).2 e member

theorem furthest_mono (sub : ends ⊆ ends') : furthest ends ≤ furthest ends' :=
  furthest_le_iff.mpr ⟨furthest_nonneg ends', fun _ member => le_furthest (sub member)⟩

theorem foldl_max_mem (first : Int) : ends.foldl max first ∈ first :: ends := by
  induction ends generalizing first with
  | nil => simp
  | cons e ends ih =>
    rw [List.foldl_cons]
    rcases List.mem_cons.mp (ih (max first e)) with largest | later
    · rw [largest]
      rcases Int.le_total first e with behind | before
      · rw [Int.max_eq_right behind]
        simp
      · rw [Int.max_eq_left before]
        simp
    · exact List.mem_cons_of_mem _ (List.mem_cons_of_mem _ later)

/-- It is one of the ends, or the start of the grid. -/
theorem furthest_mem (ends : List Int) : furthest ends ∈ 0 :: ends := foldl_max_mem 0

def columns (places : List Place) : Int := furthest (places.map (·.columns.stop))

def rows (places : List Place) : Int := furthest (places.map (·.rows.stop))

/-- How far the grid reaches with one control more. -/
def reach (far : Int × Int) (c : Control) : Except ValueFault (Int × Int) := do
  let column ← cellEnd c.x c.width
  let row ← cellEnd c.y c.height
  return (max far.1 column, max far.2 row)

theorem reach_at {c : Control} {p : Place} (placed : c.At p) (far : Int × Int) :
    reach far c = .ok (max far.1 p.columns.stop, max far.2 p.rows.stop) := by
  rw [reach, placed.x, placed.y, placed.width, placed.height, cellEnd_int, cellEnd_int]
  rfl

variable {controls : List Control} {places : List Place}

theorem foldlM_reach (placed : List.Forall₂ Control.At controls places) (far : Int × Int) :
    controls.foldlM reach far =
      .ok ((places.map (·.columns.stop)).foldl max far.1,
        (places.map (·.rows.stop)).foldl max far.2) := by
  induction placed generalizing far with
  | nil => rfl
  | cons here _ ih =>
    rw [List.foldlM_cons, reach_at here, Success.ok_bind, ih]
    rfl

theorem gridExtent_eq (placed : List.Forall₂ Control.At controls places) :
    gridExtent controls = .ok (columns places, rows places) :=
  foldlM_reach placed (0, 0)

/-! The grid among all that hold the controls. -/

/-- A grid of so many columns and rows, counted from its corner, reaches behind every control. -/
structure Encloses (size : Int × Int) (controls : List Control) : Prop where
  columns : 0 ≤ size.1
  rows : 0 ≤ size.2
  ends : ∀ c ∈ controls, ∀ p, c.At p → p.columns.stop ≤ size.1 ∧ p.rows.stop ≤ size.2

/-- Every control's geometry is made of integers. -/
def Integral (controls : List Control) : Prop := ∀ c ∈ controls, ∃ p, c.At p

variable {size : Int × Int} {others more : List Control}

theorem Encloses.subset (encloses : Encloses size controls) (sub : others ⊆ controls) :
    Encloses size others :=
  ⟨encloses.columns, encloses.rows, fun c member => encloses.ends c (sub member)⟩

theorem encloses_append :
    Encloses size (controls ++ more) ↔ Encloses size controls ∧ Encloses size more := by
  constructor
  · intro both
    exact ⟨both.subset (List.subset_append_left _ _), both.subset (List.subset_append_right _ _)⟩
  · rintro ⟨first, second⟩
    refine ⟨first.columns, first.rows, fun c member => ?_⟩
    rcases List.mem_append.mp member with front | back
    · exact first.ends c front
    · exact second.ends c back

theorem encloses_perm (perm : others.Perm controls) :
    Encloses size others ↔ Encloses size controls :=
  ⟨fun encloses => encloses.subset perm.symm.subset, fun encloses => encloses.subset perm.subset⟩

/-- The places' ends are the controls' ends, so the furthest of them bounds all such grids. -/
theorem le_iff_encloses (placed : List.Forall₂ Control.At controls places) :
    (columns places, rows places) ≤ size ↔ Encloses size controls := by
  rw [Prod.mk_le_mk, columns, rows, furthest_le_iff, furthest_le_iff, List.forall_mem_map,
    List.forall_mem_map]
  constructor
  · rintro ⟨⟨left, across⟩, top, down⟩
    refine ⟨left, top, fun c member p here => ?_⟩
    obtain ⟨p', place, here'⟩ := right_of_forall₂ placed member
    rw [here.unique here']
    exact ⟨across p' place, down p' place⟩
  · intro encloses
    have ends (p : Place) (place : p ∈ places) :
        p.columns.stop ≤ size.1 ∧ p.rows.stop ≤ size.2 := by
      obtain ⟨c, member, here⟩ := left_of_forall₂ placed place
      exact encloses.ends c member p here
    exact ⟨⟨encloses.columns, fun p place => (ends p place).1⟩,
      encloses.rows, fun p place => (ends p place).2⟩

theorem exists_gridExtent (integral : Integral controls) :
    ∃ size, gridExtent controls = .ok size ∧ ∀ other, size ≤ other ↔ Encloses other controls := by
  obtain ⟨places, placed⟩ := exists_forall₂ integral
  exact ⟨_, gridExtent_eq placed, fun _ => le_iff_encloses placed⟩

/-- A side of the grid ends where a control does, unless all of them lie before its start. -/
theorem exists_stop (placed : List.Forall₂ Control.At controls places) (side : Place → Stretch) :
    furthest (places.map fun p => (side p).stop) = 0 ∨
      ∃ c ∈ controls, ∃ p, c.At p ∧
        (side p).stop = furthest (places.map fun p => (side p).stop) := by
  rcases List.mem_cons.mp (furthest_mem (places.map fun p => (side p).stop)) with start | stop
  · exact .inl start
  · obtain ⟨p, place, same⟩ := List.mem_map.mp stop
    obtain ⟨c, member, here⟩ := left_of_forall₂ placed place
    exact .inr ⟨c, member, p, here, same⟩

/-- The columns and rows are the fewest that hold all controls, whatever their order, and those of
two lists one behind the other are the larger ones of both. -/
theorem gridExtent_isLeast (integral : Integral controls) :
    ∃ size, gridExtent controls = .ok size ∧ IsLeast {other | Encloses other controls} size ∧
      (size.1 = 0 ∨ ∃ c ∈ controls, ∃ p, c.At p ∧ p.columns.stop = size.1) ∧
      (size.2 = 0 ∨ ∃ c ∈ controls, ∃ p, c.At p ∧ p.rows.stop = size.2) ∧
      (∀ others, others.Perm controls → gridExtent others = .ok size) ∧
      ∀ more, Integral more → ∃ size', gridExtent more = .ok size' ∧
        gridExtent (controls ++ more) = .ok (max size.1 size'.1, max size.2 size'.2) := by
  obtain ⟨places, placed⟩ := exists_forall₂ integral
  have least (other : Int × Int) :
      (columns places, rows places) ≤ other ↔ Encloses other controls :=
    le_iff_encloses placed
  refine ⟨_, gridExtent_eq placed, ⟨(least _).mp le_rfl, fun other => (least other).mpr⟩,
    exists_stop placed (·.columns), exists_stop placed (·.rows), fun others perm => ?_,
    fun more integral' => ?_⟩
  · have integral' : Integral others := fun c member => integral c (perm.subset member)
    obtain ⟨size, extent, least'⟩ := exists_gridExtent integral'
    rw [extent]
    refine congrArg _ (eq_of_forall_ge_iff fun other => ?_)
    rw [least', encloses_perm perm, least]
  · have joined : Integral (controls ++ more) := List.forall_mem_append.mpr ⟨integral, integral'⟩
    obtain ⟨size', extent', least'⟩ := exists_gridExtent integral'
    obtain ⟨size, extent, both⟩ := exists_gridExtent joined
    refine ⟨size', extent', ?_⟩
    rw [extent]
    refine congrArg _ (eq_of_forall_ge_iff fun other => ?_)
    rw [both, encloses_append, ← least, ← least']
    exact sup_le_iff.symm

/-- Each control lies before the grid on one side of it. -/
theorem gridExtent_isLeast_scattered :
    let controls := [.bareAt (-5) 0 2 0, .bareAt 3 (-7) (-4) 3]
    gridExtent controls = .ok (4, 1) ∧ IsLeast {other | Encloses other controls} (4, 1) ∧
      gridExtent controls.reverse = .ok (4, 1) ∧
      gridExtent (controls ++ [.bareAt (-9) 2 1 2]) = .ok (4, 4) := by
  intro controls
  have integral : Integral controls :=
    List.forall_mem_cons.mpr ⟨⟨_, Control.at_bareAt (-5) 0 2 0⟩,
      List.forall_mem_singleton.mpr ⟨_, Control.at_bareAt 3 (-7) (-4) 3⟩⟩
  obtain ⟨size, extent, least, _, _, reordered, joined⟩ := gridExtent_isLeast integral
  obtain rfl : (4, 1) = size := Except.ok.inj extent
  obtain ⟨size', extent', both⟩ :=
    joined [.bareAt (-9) 2 1 2] (List.forall_mem_singleton.mpr ⟨_, Control.at_bareAt (-9) 2 1 2⟩)
  obtain rfl : (0, 4) = size' := Except.ok.inj extent'
  exact ⟨extent, least, reordered _ (List.reverse_perm controls), both⟩

end Layout

end ScriptDialog
