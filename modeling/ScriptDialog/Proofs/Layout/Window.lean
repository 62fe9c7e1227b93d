import ScriptDialog.Panel
import ScriptDialog.Proofs.Layout.Extent
import ScriptDialog.Proofs.Number.Sum

/-! The window of a dialog holds its controls. It has the margins and the row of buttons more than
the grid has pixels; where such a sum needs more than 53 bits it is rounded, and the padding of the
controls makes up for what that takes away. -/
namespace ScriptDialog

open Double (Representable)

namespace Stretch

/-- From the start of the grid on, and short enough for exact numbers. -/
structure Fits (s : Stretch) (cell : Int) : Prop where
  start : 0 ≤ s.start
  stop : s.stop * cell < 2 ^ 53

variable {s : Stretch} {cell : Int}

theorem Fits.pixels (fits : s.Fits cell) (wide : 8 ≤ cell) :
    0 ≤ s.start * cell ∧ s.start * cell + s.count * cell < 2 ^ 53 ∧ cell ≤ s.count * cell := by
  have start := fits.start
  have size : 1 * cell ≤ s.count * cell := Int.mul_le_mul_of_nonneg_right s.one_le_count (by omega)
  have stop := fits.stop
  rw [Stretch.stop, Int.add_mul] at stop
  exact ⟨Int.mul_nonneg start (by omega), stop, by omega⟩

theorem Fits.unrounded (fits : s.Fits cell) (wide : 8 ≤ cell) : s.Unrounded cell 4 := by
  obtain ⟨start, stop, size⟩ := fits.pixels wide
  have exact : s.Unrounded cell (4 : Int) :=
    unrounded_of_lt (by omega) (by omega) (by omega) (by omega) (by omega)
  rwa [Int.cast_ofNat] at exact

/-- It is drawn behind the start of the grid, and ends a padding before its last cell does. -/
theorem Fits.bounds (fits : s.Fits cell) (wide : 8 ≤ cell) :
    0 ≤ s.edge cell 4 ∧ s.edge cell 4 + s.extent cell 4 = s.stop * cell - 4 := by
  obtain ⟨start, stop, size⟩ := fits.pixels wide
  have roomy : (8 : Int) ≤ s.count * cell := by omega
  constructor
  · have front : (0 : ℚ) ≤ s.start * cell := by exact_mod_cast start
    unfold edge
    linarith
  · apply edge_add_extent
    have cast : (8 : ℚ) ≤ s.count * cell := by exact_mod_cast roomy
    linarith

end Stretch

/-- Both stretches of the place fit. -/
structure Place.Fits (p : Place) (width height : Int) : Prop where
  columns : p.columns.Fits width
  rows : p.rows.Fits height

/-- On an area of this size, counted from its corner. -/
structure Rect.Inside (r : Rect) (width height : ℚ) : Prop where
  left : 0 ≤ r.x.value
  top : 0 ≤ r.y.value
  right : r.x.value + r.width.value ≤ width
  bottom : r.y.value + r.height.value ≤ height

namespace Layout

theorem defaultPadding_is : defaultPadding.Is 4 := by
  have is := Double.is_whole (n := 4) (by decide)
  rwa [Nat.cast_ofNat] at is

theorem margin_is : margin.Is 16 := by
  have is := Double.is_whole (n := 16) (by decide)
  rwa [Nat.cast_ofNat] at is

theorem buttonRowHeight_is : buttonRowHeight.Is 40 := by
  have is := Double.is_whole (n := 40) (by decide)
  rwa [Nat.cast_ofNat] at is

/-! The pixels of a window. -/

/-- So many pixels with the margins on both sides, rounded. -/
def framedPixels (n : Nat) : Nat := Magnitude.nearest (n + 32) 1

/-- So many pixels with a row of buttons more, if there is one, rounded. -/
def rowedPixels (withButtons : Bool) (n : Nat) : Nat :=
  if withButtons then Magnitude.nearest (n + 40) 1 else n

variable {m n : Nat} {count size : Int} {withButtons : Bool} {x : Double}

theorem framedPixels_mono (le : m ≤ n) : framedPixels m ≤ framedPixels n :=
  Magnitude.nearest_mono (Nat.add_le_add_right le 32)

theorem rowedPixels_mono (le : m ≤ n) : rowedPixels withButtons m ≤ rowedPixels withButtons n := by
  unfold rowedPixels
  split
  · exact Magnitude.nearest_mono (Nat.add_le_add_right le 40)
  · exact le

theorem le_framedPixels (small : n < 2 ^ 53) : n + 32 ≤ framedPixels n + 1 :=
  Magnitude.le_nearest_add_one (by omega)

theorem framedPixels_le (small : n < 2 ^ 53) : framedPixels n ≤ n + 34 :=
  Magnitude.nearest_le_add_two (by omega)

theorem le_rowedPixels (withButtons : Bool) (small : n < 2 ^ 53 + 34) :
    n + (if withButtons then 40 else 0) ≤ rowedPixels withButtons n + 1 := by
  unfold rowedPixels
  split
  · exact Magnitude.le_nearest_add_one (by omega)
  · omega

/-- Rounding takes less away than the padding leaves. -/
theorem le_rowedPixels_framedPixels (withButtons : Bool) (small : n < 2 ^ 53) :
    n + 32 + (if withButtons then 40 else 0) ≤ rowedPixels withButtons (framedPixels n) + 2 := by
  have frame := le_framedPixels small
  have above := framedPixels_le small
  have row := le_rowedPixels withButtons (n := framedPixels n) (by omega)
  omega

theorem multiplePlus_int (made : Double.ofInt (count * size) = .ok x) (y : Double) :
    (Value.int size).multiplePlus count y = .ok (x.add y) := by
  have number : (Value.int size).number? = some (.int size) := rfl
  have product : Number.scale count (.int size) = .ok (.int (count * size)) := rfl
  have total : (Number.int (count * size)).toDouble = .ok x := made
  -- step by step, so that no rounding of the product is worked out
  unfold Value.multiplePlus
  simp only [Value.int] at number ⊢
  rw [number]
  dsimp only
  rw [product, Success.mapError_ok, Success.ok_bind, total]
  rfl

theorem margins_is : ((Double.whole 2).mul margin).Is (32 : Nat) := by
  have twice : (2 : ℚ) * 16 = (32 : Nat) := by norm_num
  have exact : Representable (2 * 16) := by
    rw [twice]
    exact ⟨_, Double.is_whole (by decide)⟩
  have is := Double.is_two.mul margin_is exact
  rwa [twice] at is

theorem framed_is (pixels : count * size = n) (small : n < 2 ^ 53) :
    ∃ x, framed count (.int size) = .ok x ∧ x.Is (framedPixels n) := by
  have whole : Representable (n : Int) := Double.representable_of_lt (by omega)
  obtain ⟨x, made, is⟩ := Double.is_ofInt whole
  rw [← pixels] at made
  rw [Int.cast_natCast] at is
  exact ⟨_, multiplePlus_int made _, is.add_whole margins_is (by omega)⟩

theorem rowed_is (is : x.Is n) (small : n < 2 ^ 53 + 34) :
    (if withButtons then x.add buttonRowHeight else x).Is (rowedPixels withButtons n) := by
  have row : buttonRowHeight.Is (40 : Nat) := by
    rw [Nat.cast_ofNat]
    exact buttonRowHeight_is
  unfold rowedPixels
  split
  · exact is.add_whole row (by omega)
  · exact is

theorem atLeast_is {least : Int} (is : x.Is n) : atLeast (.int least) x = .ok (max least n) := by
  rw [← Int.cast_natCast] at is
  rw [atLeast, Value.toInt_int, Success.mapError_ok, Success.ok_bind, is.truncate]
  rfl

variable {controls : List Control} {places : List Place} {width height : Int} {least least' : Int}

theorem windowSize_eq (placed : List.Forall₂ Control.At controls places)
    (across : columns places * width = m) (down : rows places * height = n) (narrow : m < 2 ^ 53)
    (low : n < 2 ^ 53) (least least' : Int) (withButtons : Bool) :
    windowSize controls (.pair (.int width) (.int height)) (.pair (.int least) (.int least'))
      withButtons =
        .ok (max least (framedPixels m),
          max least' (rowedPixels withButtons (framedPixels n))) := by
  obtain ⟨x, madeX, isX⟩ := framed_is across narrow
  obtain ⟨y, madeY, isY⟩ := framed_is down low
  have above := framedPixels_le low
  have first (a b : Int) : (Value.pair (.int a) (.int b)).itemAt 0 = .ok (.int a) := rfl
  have second (a b : Int) : (Value.pair (.int a) (.int b)).itemAt 1 = .ok (.int b) := rfl
  rw [windowSize, gridExtent_eq placed, Success.ok_bind]
  dsimp only
  rw [first, Success.ok_bind, madeX, Success.ok_bind, second, Success.ok_bind, madeY,
    Success.ok_bind, first, Success.ok_bind, atLeast_is isX, Success.ok_bind, second,
    Success.ok_bind, atLeast_is (rowed_is isY (by omega)), Success.ok_bind]
  rfl

example : (windowSize [.bareAt 1 1 1 1] (.pair (.int 100) (.int 30)) (.pair (.int 0) (.int 0))
    true).toOption = some (232, 132) := by
  decide +kernel

theorem exists_pixels {ends : List Int} {size : Int} (pos : 0 < size)
    (fit : ∀ e ∈ ends, e * size < 2 ^ 53) : ∃ n : Nat, furthest ends * size = n ∧ n < 2 ^ 53 := by
  have nonneg : 0 ≤ furthest ends * size := Int.mul_nonneg (furthest_nonneg ends) (by omega)
  have small : furthest ends * size < 2 ^ 53 := by
    rcases List.mem_cons.mp (furthest_mem ends) with start | member
    · rw [start, Int.zero_mul]
      decide
    · exact fit _ member
  exact ⟨(furthest ends * size).toNat, (Int.toNat_of_nonneg nonneg).symm, by omega⟩

/-- The pixels of the grid of places that fit. -/
theorem exists_extent (wide : 8 ≤ width) (tall : 8 ≤ height)
    (fits : ∀ p ∈ places, p.Fits width height) : ∃ m n : Nat, columns places * width = m ∧
      rows places * height = n ∧ m < 2 ^ 53 ∧ n < 2 ^ 53 := by
  obtain ⟨m, across, narrow⟩ := exists_pixels (show 0 < width by omega)
    (List.forall_mem_map.mpr fun p member => (fits p member).columns.stop)
  obtain ⟨n, down, low⟩ := exists_pixels (show 0 < height by omega)
    (List.forall_mem_map.mpr fun p member => (fits p member).rows.stop)
  exact ⟨m, n, across, down, narrow, low⟩

theorem pixels_mono {ends ends' : List Int} {size : Int} (sub : ends ⊆ ends') (pos : 0 < size)
    (less : furthest ends * size = m) (more : furthest ends' * size = n) : m ≤ n := by
  have cells := Int.mul_le_mul_of_nonneg_right (furthest_mono sub) (Int.le_of_lt pos)
  rw [less, more] at cells
  exact Int.ofNat_le.mp cells

theorem cells_le {ends : List Int} {e size : Int} (member : e ∈ ends) (pos : 0 < size)
    (pixels : furthest ends * size = n) : (e : ℚ) * size ≤ n := by
  have cells := Int.mul_le_mul_of_nonneg_right (le_furthest member) (Int.le_of_lt pos)
  rw [pixels] at cells
  exact_mod_cast cells

/-- Between its margins a window is no narrower than the grid without the last padding. -/
theorem right_bound (small : m < 2 ^ 53) (least : Int) :
    (m : ℚ) - 4 ≤ (max least (framedPixels m) : Int) - 2 * margin.value := by
  have pixels := le_framedPixels small
  have wide : (m : Int) + 31 ≤ max least (framedPixels m) := by omega
  have cast : (m : ℚ) + 31 ≤ (max least (framedPixels m) : Int) := by exact_mod_cast wide
  rw [margin_is.value]
  linarith

/-- Above its row of buttons it is no lower than the grid without the last padding. -/
theorem bottom_bound (small : n < 2 ^ 53) (least : Int) (withButtons : Bool) :
    (n : ℚ) - 4 ≤ (max least (rowedPixels withButtons (framedPixels n)) : Int) -
      2 * margin.value - if withButtons then buttonRowHeight.value else 0 := by
  have pixels := le_rowedPixels_framedPixels withButtons small
  have tall : (n : Int) + 30 + (if withButtons then 40 else 0 : Nat) ≤
      max least (rowedPixels withButtons (framedPixels n)) := by omega
  have cast : (n : ℚ) + 30 + (if withButtons then 40 else 0 : Nat) ≤
      (max least (rowedPixels withButtons (framedPixels n)) : Int) := by exact_mod_cast tall
  rw [margin_is.value, buttonRowHeight_is.value]
  cases withButtons with
  | false =>
    simp only [Bool.false_eq_true, if_false, Nat.cast_zero] at cast ⊢
    linarith
  | true =>
    simp only [if_true, Nat.cast_ofNat] at cast ⊢
    linarith

/-- The control's rectangle lies on an area of this size, and not below the line at which the panel
of all the controls starts its row of buttons. -/
def Housed (c : Control) (controls : List Control) (cell : Value) (width height line : ℚ) : Prop :=
  ∃ r start, cellRect cell (.float defaultPadding) c = .ok r ∧ r.Proper ∧ r.Inside width height ∧
    (∀ frame, Panel.below frame cell controls = frame.cursor.2.plus start) ∧ start.Is line ∧
    r.y.value + r.height.value ≤ line

theorem below_eq {cell : Value} {height : Int} (placed : List.Forall₂ Control.At controls places)
    (sides : Sides cell width height) (down : rows places * height = n) (pos : 0 < height)
    (low : n < 2 ^ 53) : ∃ start, start.Is (rows places * height) ∧
      ∀ frame, Panel.below frame cell controls = frame.cursor.2.plus start := by
  obtain ⟨ch, gotHeight, isHeight⟩ := sides.height
  have nonneg : 0 ≤ rows places := furthest_nonneg _
  have fewer : rows places * 1 ≤ rows places * height := Int.mul_le_mul_of_nonneg_left pos nonneg
  obtain ⟨count, made, isCount⟩ := Double.is_ofInt (n := rows places)
    (Double.representable_of_lt (by omega))
  have exact : Representable (rows places * height) := by
    have whole := Double.representable_of_lt (n := rows places * height) (by omega)
    rwa [Int.cast_mul] at whole
  refine ⟨count.mul ch, isCount.mul isHeight exact, fun frame => ?_⟩
  rw [Panel.below, gridExtent_eq placed, Success.ok_bind]
  dsimp only
  rw [gotHeight, Success.ok_bind, made, Success.mapError_ok, Success.ok_bind]

/-- A rectangle that ends a padding before its last cells is on the window's area. -/
theorem housed {c : Control} {p : Place} {cell : Value}
    (placed : List.Forall₂ Control.At controls places) (here : c.At p) (member : p ∈ places)
    (fits : p.Fits width height) (wide : 8 ≤ width) (tall : 8 ≤ height)
    (sides : Sides cell width height) (across : columns places * width = m)
    (down : rows places * height = n) (low : n < 2 ^ 53) {right bottom : ℚ}
    (rightmost : (m : ℚ) - 4 ≤ right) (lowest : (n : ℚ) - 4 ≤ bottom) :
    Housed c controls cell right bottom (rows places * height) := by
  obtain ⟨r, drawn, covers⟩ := cellRect_covers sides (Value.adds_float defaultPadding_is) here
    ⟨fits.columns.unrounded wide, fits.rows.unrounded tall⟩
  obtain ⟨start, isStart, below⟩ := below_eq placed sides down (by omega) low
  obtain ⟨left, endX⟩ := fits.columns.bounds wide
  obtain ⟨top, endY⟩ := fits.rows.bounds tall
  have column := cells_le (List.mem_map_of_mem (f := fun q : Place => q.columns.stop) member)
    (by omega) across
  have row := cells_le (List.mem_map_of_mem (f := fun q : Place => q.rows.stop) member)
    (by omega) down
  have line : (rows places : ℚ) * height = n := by exact_mod_cast down
  refine ⟨r, start, drawn, covers.proper, ⟨?_, ?_, ?_, ?_⟩, below, isStart, ?_⟩
  · rw [covers.x.value]
    exact left
  · rw [covers.y.value]
    exact top
  · rw [covers.x.value, covers.width.value, endX]
    linarith
  · rw [covers.y.value, covers.height.value, endY]
    linarith
  · rw [covers.y.value, covers.height.value, endY, line]
    linarith

/-- Cells with room for the padding. -/
theorem roomy_iff : 2 * defaultPadding.value ≤ size ↔ 8 ≤ size := by
  rw [defaultPadding_is.value]
  constructor
  · intro roomy
    have cast : (8 : ℚ) ≤ size := by linarith
    exact_mod_cast cast
  · intro wide
    have cast : (8 : ℚ) ≤ size := by exact_mod_cast wide
    linarith

/-- The window of any controls, on cells with room for the padding, holds the rectangle of each of
them between its margins and above its row of buttons. It is as large as demanded, and not smaller
than the window of some of the controls alone. -/
theorem windowSize_holds {controls : List Control} {places : List Place} {width height : Int}
    (wide : 2 * defaultPadding.value ≤ width) (tall : 2 * defaultPadding.value ≤ height)
    (placed : List.Forall₂ Control.At controls places) (fits : ∀ p ∈ places, p.Fits width height)
    (least least' : Int) (withButtons : Bool) :
    ∃ w h columns rows : Int,
      windowSize controls (.pair (.int width) (.int height)) (.pair (.int least) (.int least'))
        withButtons = .ok (w, h) ∧
      gridExtent controls = .ok (columns, rows) ∧ least ≤ w ∧ least' ≤ h ∧
      (∀ c ∈ controls, Sides (.pair (.int width) (.int height)) width height ∧
        ∀ cell, Sides cell width height →
          Housed c controls cell (w - 2 * margin.value)
            (h - 2 * margin.value - if withButtons then buttonRowHeight.value else 0)
            (rows * height)) ∧
      ∀ fewer, fewer.Sublist controls → ∃ w' h' : Int,
        windowSize fewer (.pair (.int width) (.int height)) (.pair (.int least) (.int least'))
          withButtons = .ok (w', h') ∧ w' ≤ w ∧ h' ≤ h := by
  rw [roomy_iff] at wide tall
  obtain ⟨m, n, across, down, narrow, low⟩ := exists_extent wide tall fits
  refine ⟨_, _, _, _, windowSize_eq placed across down narrow low least least' withButtons,
    gridExtent_eq placed, Int.le_max_left _ _, Int.le_max_left _ _, fun c member => ?_, ?_⟩
  · obtain ⟨p, place, here⟩ := right_of_forall₂ placed member
    have columns := (fits p place).columns.pixels wide
    have rows := (fits p place).rows.pixels tall
    refine ⟨sides_pair (Double.representable_of_lt (by omega))
      (Double.representable_of_lt (by omega)),
      fun cell sides => ?_⟩
    exact housed placed here place (fits p place) wide tall sides across down low
      (right_bound narrow least) (bottom_bound low least' withButtons)
  · intro fewer sub
    obtain ⟨places', sub', placed'⟩ := exists_sublist_of_forall₂ sub placed
    obtain ⟨m', n', across', down', narrow', low'⟩ :=
      exists_extent wide tall fun p member => fits p (sub'.subset member)
    have columns : m' ≤ m := pixels_mono (sub'.map _).subset (by omega) across' across
    have rows : n' ≤ n := pixels_mono (sub'.map _).subset (by omega) down' down
    refine ⟨_, _, windowSize_eq placed' across' down' narrow' low' least least' withButtons, ?_, ?_⟩
    · exact max_le_max_left _ (Int.ofNat_le.mpr (framedPixels_mono columns))
    · exact max_le_max_left _ (Int.ofNat_le.mpr (rowedPixels_mono (framedPixels_mono rows)))

/-- Two controls, one of them with spans of zero and one below zero. -/
def uneven : List Control := [.bareAt 0 0 2 0, .bareAt 3 1 (-5) 3]

theorem windowSize_holds_uneven : ∃ w h : Int,
    windowSize uneven (.pair (.int 100) (.int 30)) (.pair (.int 0) (.int 180)) true = .ok (w, h) ∧
      180 ≤ h ∧ ∀ c ∈ uneven, Housed c uneven (.pair (.int 100) (.int 30)) (w - 2 * margin.value)
        (h - 2 * margin.value - buttonRowHeight.value) 120 := by
  have wide : 2 * defaultPadding.value ≤ (100 : Int) := roomy_iff.mpr (by decide)
  have high : 2 * defaultPadding.value ≤ (30 : Int) := roomy_iff.mpr (by decide)
  obtain ⟨w, h, columns, rows, sized, extent, _, tall, each, _⟩ :=
    windowSize_holds wide high
      (.cons (Control.at_bareAt 0 0 2 0) (.cons (Control.at_bareAt 3 1 (-5) 3) .nil))
      (List.forall_mem_cons.mpr ⟨⟨⟨by decide, by decide⟩, ⟨by decide, by decide⟩⟩,
        List.forall_mem_singleton.mpr ⟨⟨by decide, by decide⟩, ⟨by decide, by decide⟩⟩⟩) 0 180 true
  have four : rows = 4 := by
    cases extent
    rfl
  refine ⟨w, h, sized, tall, fun c member => ?_⟩
  obtain ⟨sides, held⟩ := each c member
  have here := held _ sides
  rw [four, if_pos rfl] at here
  have line : ((4 : Int) : ℚ) * ((30 : Int) : ℚ) = 120 := by norm_num
  rwa [line] at here

end Layout

end ScriptDialog
