import ScriptDialog.Layout
import ScriptDialog.Proofs.Number.Value
import ScriptDialog.Proofs.Success

/-! Where a control is drawn. Along each side of the grid it takes a stretch of cells, one at least,
and keeps a padding from both of its ends; a stretch too short for that is drawn without length. -/
namespace ScriptDialog

open Double (Representable)

/-- What a control takes of one side of the grid, by the numbers that it is given. -/
structure Stretch where
  start : Int
  length : Int

namespace Stretch

def count (s : Stretch) : Int := max 1 s.length

/-- The first cell behind it. -/
def stop (s : Stretch) : Int := s.start + s.count

def edge (s : Stretch) (cell padding : ℚ) : ℚ := s.start * cell + padding

def extent (s : Stretch) (cell padding : ℚ) : ℚ := max 0 (s.count * cell - 2 * padding)

/-- Every number that comes up along the side is a double, so nothing is rounded. -/
structure Unrounded (s : Stretch) (cell padding : ℚ) : Prop where
  start : Representable s.start
  offset : Representable (s.start * cell)
  edge : Representable (s.start * cell + padding)
  count : Representable s.count
  size : Representable (s.count * cell)
  paddings : Representable (2 * padding)
  extent : Representable (s.count * cell - 2 * padding)

theorem one_le_count (s : Stretch) : 1 ≤ s.count := Int.le_max_left _ _

theorem start_lt_stop (s : Stretch) : s.start < s.stop := by
  have := s.one_le_count
  unfold stop
  omega

theorem extent_nonneg (s : Stretch) (cell padding : ℚ) : 0 ≤ s.extent cell padding :=
  le_max_left _ _

/-- A stretch with room for its paddings ends before its last cell does. -/
theorem edge_add_extent {s : Stretch} {cell q : ℚ} (roomy : 2 * q ≤ s.count * cell) :
    s.edge cell q + s.extent cell q = s.stop * cell - q := by
  rw [extent, max_eq_right (sub_nonneg.mpr roomy), edge, stop]
  push_cast
  ring

/-- Integers of 53 bits are not rounded. -/
theorem unrounded_of_lt {s : Stretch} {cell padding : Int} (pos : 0 < cell) (nonneg : 0 ≤ padding)
    (near : (s.start * cell).natAbs + padding < 2 ^ 53) (far : s.count * cell < 2 ^ 53)
    (thin : 2 * padding < 2 ^ 53) : s.Unrounded cell padding := by
  have one := s.one_le_count
  have size : s.count ≤ s.count * cell := le_mul_of_one_le_right (by omega) pos
  have offset : s.start.natAbs ≤ (s.start * cell).natAbs := by
    rw [Int.natAbs_mul]
    exact Nat.le_mul_of_pos_right _ (by omega)
  have whole {q : ℚ} (n : Int) (small : n.natAbs < 2 ^ 53) (same : q = n) : Representable q :=
    same ▸ Double.representable_of_lt small
  generalize sizes : s.count * cell = a at *
  generalize offsets : s.start * cell = b at *
  exact
    { start := whole s.start (by omega) rfl
      offset := whole b (by omega) (by rw [← offsets]; push_cast; rfl)
      edge := whole (b + padding) (by omega) (by rw [← offsets]; push_cast; rfl)
      count := whole s.count (by omega) rfl
      size := whole a (by omega) (by rw [← sizes]; push_cast; rfl)
      paddings := whole (2 * padding) (by omega) (by push_cast; rfl)
      extent := whole (a - 2 * padding) (by omega) (by rw [← sizes]; push_cast; rfl) }

end Stretch

structure Place where
  columns : Stretch
  rows : Stretch

structure Place.Unrounded (p : Place) (width height padding : ℚ) : Prop where
  columns : p.columns.Unrounded width padding
  rows : p.rows.Unrounded height padding

/-- The control's geometry is made of these integers. -/
structure Control.At (c : Control) (p : Place) : Prop where
  x : c.x = .int p.columns.start
  y : c.y = .int p.rows.start
  width : c.width = .int p.columns.length
  height : c.height = .int p.rows.length

theorem Control.At.unique {c : Control} {p p' : Place} (here : c.At p) (here' : c.At p') :
    p = p' := by
  obtain ⟨⟨x, width⟩, y, height⟩ := p
  obtain ⟨⟨x', width'⟩, y', height'⟩ := p'
  cases here.x.symm.trans here'.x
  cases here.y.symm.trans here'.y
  cases here.width.symm.trans here'.width
  cases here.height.symm.trans here'.height
  rfl

/-- A control without a value at these integers. -/
def Control.bareAt (x y width height : Int) : Control :=
  ⟨.text "", .text "", .int x, .int y, .int width, .int height, .bare⟩

theorem Control.at_bareAt (x y width height : Int) :
    (bareAt x y width height).At ⟨⟨x, width⟩, ⟨y, height⟩⟩ := ⟨rfl, rfl, rfl, rfl⟩

/-- A value that counts as this number when it is added. -/
def Value.Adds (v : Value) (q : ℚ) : Prop := ∃ x, v.addend = .ok x ∧ x.Is q

theorem Value.adds_float {x : Double} {q : ℚ} (is : x.Is q) : (Value.float x).Adds q := ⟨x, rfl, is⟩

namespace Rect

variable {r : Rect} {p : Place} {width height q : ℚ}

/-- All numbers of the rectangle are finite, and it is not turned inside out. -/
structure Proper (r : Rect) : Prop where
  finite : ∀ side ∈ [r.x, r.y, r.width, r.height], ∃ q, side.Is q
  width : 0 ≤ r.width.value
  height : 0 ≤ r.height.value

/-- The rectangle of a place, with these numbers for the size of a cell and the padding. -/
structure Covers (r : Rect) (p : Place) (width height padding : ℚ) : Prop where
  x : r.x.Is (p.columns.edge width padding)
  y : r.y.Is (p.rows.edge height padding)
  width : r.width.Is (p.columns.extent width padding)
  height : r.height.Is (p.rows.extent height padding)

theorem Covers.proper (covers : r.Covers p width height q) : r.Proper where
  finite side member := by
    simp only [List.mem_cons, List.not_mem_nil, or_false] at member
    rcases member with rfl | rfl | rfl | rfl
    · exact ⟨_, covers.x⟩
    · exact ⟨_, covers.y⟩
    · exact ⟨_, covers.width⟩
    · exact ⟨_, covers.height⟩
  width := by
    rw [covers.width.value]
    exact Stretch.extent_nonneg _ _ _
  height := by
    rw [covers.height.value]
    exact Stretch.extent_nonneg _ _ _

end Rect

namespace Layout

variable {s : Stretch} {p : Place} {c : Control} {cell padding : Value} {size : Double}
  {width height q : ℚ}

/-- Cells of this width and this height. -/
structure Sides (cell : Value) (width height : ℚ) : Prop where
  width : ∃ x, side cell 0 = .ok x ∧ x.Is width
  height : ∃ x, side cell 1 = .ok x ∧ x.Is height

theorem side_pair (width height : Int) :
    side (.pair (.int width) (.int height)) 0 = (Double.ofInt width).mapError .number ∧
    side (.pair (.int width) (.int height)) 1 = (Double.ofInt height).mapError .number := by
  have picked (place n : Int)
      (here : (Value.pair (.int width) (.int height)).itemAt place = .ok (.int n)) :
      side (.pair (.int width) (.int height)) place = (Double.ofInt n).mapError .number := by
    rw [side, here, Success.ok_bind, Value.toDouble_int]
  exact ⟨picked 0 width rfl, picked 1 height rfl⟩

/-- Integers that are doubles are such a size themselves. -/
theorem sides_pair {width height : Int} (wide : Representable width) (tall : Representable height) :
    Sides (.pair (.int width) (.int height)) width height := by
  obtain ⟨x, madeX, isX⟩ := Double.is_ofInt wide
  obtain ⟨y, madeY, isY⟩ := Double.is_ofInt tall
  refine ⟨⟨x, ?_, isX⟩, ⟨y, ?_, isY⟩⟩
  · rw [(side_pair width height).1, madeX, Success.mapError_ok]
  · rw [(side_pair width height).2, madeY, Success.mapError_ok]

theorem edge_is (isSize : size.Is width) (adds : padding.Adds q) (exact : s.Unrounded width q) :
    ∃ x, edge (.int s.start) size padding = .ok x ∧ x.Is (s.edge width q) := by
  obtain ⟨pad, padded, isPad⟩ := adds
  obtain ⟨start, made, isStart⟩ := Double.is_ofInt exact.start
  refine ⟨(start.mul size).add pad, ?_, (isStart.mul isSize exact.offset).add isPad exact.edge⟩
  rw [edge, Value.toDouble_int, made, padded]
  rfl

theorem extent_is (isSize : size.Is width) (adds : padding.Adds q) (exact : s.Unrounded width q) :
    ∃ x, extent (.int s.length) size padding = .ok x ∧ x.Is (s.extent width q) := by
  obtain ⟨pad, padded, isPad⟩ := adds
  obtain ⟨count, made, isCount⟩ := Double.is_ofInt exact.count
  have twice := Double.is_two.mul isPad exact.paddings
  refine ⟨_, ?_, ((isCount.mul isSize exact.size).sub twice exact.extent).larger_zero⟩
  rw [Stretch.count] at made
  rw [extent, span_int, padded, Success.ok_bind, made]
  rfl

theorem cellRect_covers (sides : Sides cell width height) (adds : padding.Adds q) (placed : c.At p)
    (exact : p.Unrounded width height q) :
    ∃ r, cellRect cell padding c = .ok r ∧ r.Covers p width height q := by
  obtain ⟨cw, gotWidth, isWidth⟩ := sides.width
  obtain ⟨ch, gotHeight, isHeight⟩ := sides.height
  obtain ⟨x, madeX, isX⟩ := edge_is isWidth adds exact.columns
  obtain ⟨y, madeY, isY⟩ := edge_is isHeight adds exact.rows
  obtain ⟨w, madeW, isW⟩ := extent_is isWidth adds exact.columns
  obtain ⟨h, madeH, isH⟩ := extent_is isHeight adds exact.rows
  refine ⟨⟨x, y, w, h⟩, ?_, isX, isY, isW, isH⟩
  rw [cellRect, gotWidth, Success.ok_bind, gotHeight, Success.ok_bind, placed.x, madeX,
    Success.ok_bind, placed.y, madeY, Success.ok_bind, placed.width, madeW, Success.ok_bind,
    placed.height, madeH, Success.ok_bind]
  rfl

example : (cellRect (.pair (.int 100) (.int 30)) (.float (.whole 5)) (.bareAt 2 1 3 2)).toOption =
    some ⟨.whole 205, .whole 35, .whole 290, .whole 50⟩ := by
  decide +kernel

end Layout

end ScriptDialog
