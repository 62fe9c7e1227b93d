import ScriptDialog.Control.Basic
import ScriptDialog.Value.Numeric

/-! The place of controls in a window: each takes a rectangle of grid cells, at least one, and the
window holds them all with a margin around and a row of buttons below. A size is a pair of values:
the width at place 0 and the height at place 1. -/
namespace ScriptDialog

structure Rect where
  x : Double
  y : Double
  width : Double
  height : Double
  deriving DecidableEq

namespace Layout

def defaultPadding : Double := .whole 4

def margin : Double := .whole 16

def buttonRowHeight : Double := .whole 40

/-- The width (`place` 0) or the height (`place` 1) of a size, as a double. -/
def side (size : Value) (place : Int) : Except ValueFault Double := do
  let v ← size.itemAt place
  v.toDouble.mapError .number

/-- A control covers one cell at least. -/
def span (v : Value) : Except ValueFault Int := max 1 <$> v.toInt.mapError .number

@[simp] theorem span_int (n : Int) : span (.int n) = .ok (max 1 n) := rfl

/-- The position of the first edge: the cell's edge and the padding. -/
def edge (v : Value) (size : Double) (padding : Value) : Except ValueFault Double := do
  let count ← v.toDouble.mapError .number
  let padding ← padding.addend
  return (count.mul size).add padding

/-- The length between paddings on both sides, never negative. -/
def extent (v : Value) (size : Double) (padding : Value) : Except ValueFault Double := do
  let count ← span v
  let count ← (Double.ofInt count).mapError .number
  let padding ← padding.addend
  return Double.larger .zero ((count.mul size).sub ((Double.whole 2).mul padding))

/-- The rectangle in which a control is drawn. -/
def cellRect (cell padding : Value) (c : Control) : Except ValueFault Rect := do
  let cw ← side cell 0
  let ch ← side cell 1
  let x ← edge c.x cw padding
  let y ← edge c.y ch padding
  let width ← extent c.width cw padding
  let height ← extent c.height ch padding
  return ⟨x, y, width, height⟩

/-- The cell after the last one that a control covers. -/
def cellEnd (start size : Value) : Except ValueFault Int := do
  let n ← start.toInt.mapError .number
  let length ← span size
  return n + length

@[simp] theorem cellEnd_int (start size : Int) :
    cellEnd (.int start) (.int size) = .ok (start + max 1 size) := rfl

/-- The columns and rows that hold all controls. -/
def gridExtent (controls : List Control) : Except ValueFault (Int × Int) :=
  controls.foldlM (fun (columns, rows) c => do
    let column ← cellEnd c.x c.width
    let row ← cellEnd c.y c.height
    return (max columns column, max rows row)) (0, 0)

/-- Cells of one size with a margin on both sides. -/
def framed (count : Int) (size : Value) : Except ValueFault Double :=
  size.multiplePlus count ((Double.whole 2).mul margin)

/-- The larger of a given length and a needed one, both without fractions. -/
def atLeast (given : Value) (needed : Double) : Except ValueFault Int := do
  let given ← given.toInt.mapError .number
  let needed ← needed.truncate.mapError .number
  return max given needed

/-- The size of a window for the controls, not below `least`. -/
def windowSize (controls : List Control) (cell least : Value) (withButtons : Bool) :
    Except ValueFault (Int × Int) := do
  let (columns, rows) ← gridExtent controls
  let width ← framed columns (← cell.itemAt 0)
  let height ← framed rows (← cell.itemAt 1)
  let height := if withButtons then height.add buttonRowHeight else height
  let width ← atLeast (← least.itemAt 0) width
  let height ← atLeast (← least.itemAt 1) height
  return (width, height)

end Layout

end ScriptDialog
