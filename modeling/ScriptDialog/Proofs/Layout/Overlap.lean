import Mathlib
import ScriptDialog.Proofs.Layout.Place

/-! Controls on different cells are drawn apart. On one side of the grid the stretches of both lie
one behind the other; each keeps the padding from its ends, and one without room for that has no
inside. -/
namespace ScriptDialog

open Double (Representable)

namespace Stretch

variable {s s' : Stretch} {cell q : ℚ}

def cells (s : Stretch) : Set ℤ := Set.Ico s.start s.stop

/-- What is drawn of it, without its ends. -/
def inner (s : Stretch) (cell padding : ℚ) : Set ℝ :=
  Set.Ioo (s.edge cell padding : ℝ) (s.edge cell padding + s.extent cell padding)

theorem inner_eq_empty (narrow : s.count * cell ≤ 2 * q) : s.inner cell q = ∅ := by
  rw [inner, extent, max_eq_left (sub_nonpos.mpr narrow), Rat.cast_zero, add_zero, Set.Ioo_self]

theorem edge_add_extent_le_edge (positive : 0 < cell) (nonneg : 0 ≤ q) (before : s.stop ≤ s'.start)
    (roomy : 2 * q ≤ s.count * cell) : s.edge cell q + s.extent cell q ≤ s'.edge cell q := by
  have cells : (s.stop : ℚ) * cell ≤ s'.start * cell :=
    mul_le_mul_of_nonneg_right (Int.cast_le.mpr before) positive.le
  calc s.edge cell q + s.extent cell q = s.stop * cell - q := edge_add_extent roomy
    _ ≤ s.stop * cell + q := by linarith
    _ ≤ s'.start * cell + q := by linarith
    _ = s'.edge cell q := rfl

theorem disjoint_inner_of_le (positive : 0 < cell) (nonneg : 0 ≤ q) (before : s.stop ≤ s'.start) :
    Disjoint (s.inner cell q) (s'.inner cell q) := by
  rcases le_total (s.count * cell) (2 * q) with narrow | roomy
  · rw [inner_eq_empty narrow]
    exact Set.empty_disjoint _
  · have apart := edge_add_extent_le_edge positive nonneg before roomy
    have cast : (s.edge cell q + s.extent cell q : ℝ) ≤ s'.edge cell q := by exact_mod_cast apart
    exact Set.Ioo_disjoint_Ioo.mpr ((min_le_left _ _).trans (cast.trans (le_max_right _ _)))

theorem disjoint_inner (positive : 0 < cell) (nonneg : 0 ≤ q) (apart : Disjoint s.cells s'.cells) :
    Disjoint (s.inner cell q) (s'.inner cell q) := by
  have ends : min s.stop s'.stop ≤ max s.start s'.start := Set.Ico_disjoint_Ico.mp apart
  have nonempty := s.start_lt_stop
  have nonempty' := s'.start_lt_stop
  have order : s.stop ≤ s'.start ∨ s'.stop ≤ s.start := by omega
  rcases order with before | behind
  · exact disjoint_inner_of_le positive nonneg before
  · exact (disjoint_inner_of_le positive nonneg behind).symm

end Stretch

/-- The cells of the grid that a control occupies. -/
def Place.cells (p : Place) : Set (ℤ × ℤ) := p.columns.cells ×ˢ p.rows.cells

namespace Rect

variable {r : Rect} {p : Place} {width height q : ℚ}

/-- The points of a rectangle. -/
def region (r : Rect) : Set (ℝ × ℝ) :=
  Set.Icc (r.x.value : ℝ) (r.x.value + r.width.value) ×ˢ
    Set.Icc (r.y.value : ℝ) (r.y.value + r.height.value)

theorem Covers.interior (covers : r.Covers p width height q) :
    interior r.region = p.columns.inner width q ×ˢ p.rows.inner height q := by
  rw [region, interior_prod_eq, interior_Icc, interior_Icc, covers.x.value, covers.y.value,
    covers.width.value, covers.height.value]
  rfl

end Rect

namespace Layout

/-- Two controls on the grid are drawn in what the padding leaves of their cells. These rectangles
are not turned inside out, whatever the padding, and share no inner point unless the controls share
a cell. -/
theorem cellRect_disjoint {cell padding : Value} {width height : Int} {q : ℚ} {c c' : Control}
    {p p' : Place} (sides : Sides cell width height) (wide : 0 < width) (tall : 0 < height)
    (adds : padding.Adds q) (nonneg : 0 ≤ q) (placed : c.At p) (placed' : c'.At p')
    (exact : p.Unrounded width height q) (exact' : p'.Unrounded width height q) :
    ∃ r r', cellRect cell padding c = .ok r ∧ cellRect cell padding c' = .ok r' ∧
      r.Covers p width height q ∧ r'.Covers p' width height q ∧ r.Proper ∧ r'.Proper ∧
      (Disjoint p.cells p'.cells → Disjoint (interior r.region) (interior r'.region)) := by
  obtain ⟨r, drawn, covers⟩ := cellRect_covers sides adds placed exact
  obtain ⟨r', drawn', covers'⟩ := cellRect_covers sides adds placed' exact'
  refine ⟨r, r', drawn, drawn', covers, covers', covers.proper, covers'.proper, fun apart => ?_⟩
  rw [covers.interior, covers'.interior]
  have positive : (0 : ℚ) < width := Int.cast_pos.mpr wide
  have positive' : (0 : ℚ) < height := Int.cast_pos.mpr tall
  rcases Set.disjoint_prod.mp apart with columns | rows
  · exact Set.disjoint_prod.mpr (.inl (Stretch.disjoint_inner positive nonneg columns))
  · exact Set.disjoint_prod.mpr (.inr (Stretch.disjoint_inner positive' nonneg rows))

/-- One of the two is too narrow for its padding, and before the grid. -/
theorem cellRect_disjoint_narrow :
    ∃ r r', cellRect (.pair (.int 10) (.int 10)) (.float (.whole 7)) (.bareAt (-2) 0 0 (-3)) =
      .ok r ∧
      cellRect (.pair (.int 10) (.int 10)) (.float (.whole 7)) (.bareAt (-1) 0 2 1) = .ok r' ∧
      r.width.value = 0 ∧ r'.width.value = 6 ∧ r.Proper ∧ r'.Proper ∧
      Disjoint (interior r.region) (interior r'.region) := by
  have ten : Representable (10 : Int) := Double.representable_of_lt (by decide)
  have seven := Double.is_whole (n := 7) (by decide)
  rw [← Int.cast_natCast] at seven
  have short (start length : Int) (near : (start * 10).natAbs < 100) (far : length < 100) :
      (Stretch.mk start length).Unrounded (10 : Int) (7 : Int) :=
    Stretch.unrounded_of_lt (by decide) (by decide) (by dsimp only; omega)
      (by unfold Stretch.count; dsimp only; omega) (by decide)
  obtain ⟨r, r', drawn, drawn', covers, covers', proper, proper', disjoint⟩ :=
    cellRect_disjoint (sides_pair ten ten) (by decide) (by decide) (Value.adds_float seven)
      (by positivity) (Control.at_bareAt (-2) 0 0 (-3)) (Control.at_bareAt (-1) 0 2 1)
      ⟨short (-2) 0 (by decide) (by decide), short 0 (-3) (by decide) (by decide)⟩
      ⟨short (-1) 2 (by decide) (by decide), short 0 1 (by decide) (by decide)⟩
  refine ⟨r, r', drawn, drawn', ?_, ?_, proper, proper', disjoint (Set.disjoint_prod.mpr (.inl ?_))⟩
  · rw [covers.width.value]
    norm_num [Stretch.extent, Stretch.count]
  · rw [covers'.width.value]
    norm_num [Stretch.extent, Stretch.count]
  · exact Set.Ico_disjoint_Ico.mpr (by decide)

end Layout

end ScriptDialog
