import ScriptDialog.Proofs.Control.Receive
import ScriptDialog.Proofs.Toolkit.Performed
import ScriptDialog.Widget

/-! What a widget takes over from the user. It shows a value in a form of its own, which is not the
value itself: an integer within 32 bits, the place of an item, the fractions of a colour. While it
reports no change the value stays as it is; what it reports is converted and becomes the value. -/
namespace ScriptDialog

open Performed (outcome_of_bind outcome_pure of_ofExcept)

/-- The user can change something in the kind's widget. A label has nothing to change, nor has the
text in the place of a dropdown without items. -/
def Kind.Editable : Kind → Prop
  | .bare | .unformed | .label _ => False
  | .dropdown _ items => items.truthy
  | _ => True

namespace Widget

/-- The colour that fractions stand for, beside the one that was there. -/
inductive Paints (base : Color) : List Value → Color → Prop where
  /-- Without a fourth fraction the transparency stays. -/
  | kept {r g b : Value} {red green blue : Int} (isRed : toByte r = .ok red)
      (isGreen : toByte g = .ok green) (isBlue : toByte b = .ok blue) :
      Paints base [r, g, b] ⟨red, green, blue, base.a⟩
  | set {r g b o : Value} {rest : List Value} {red green blue opacity : Int}
      (isRed : toByte r = .ok red) (isGreen : toByte g = .ok green) (isBlue : toByte b = .ok blue)
      (isOpacity : toByte o = .ok opacity) :
      Paints base (r :: g :: b :: o :: rest) ⟨red, green, blue, 255 - opacity⟩

/-- What the widget of a kind is given to show. -/
inductive Shows : Kind → Value → Prop where
  | edit {multiline : Bool} {value : Value} {t : Text} (written : value.asText = .ok t) :
      Shows (.edit multiline value) (.text t)
  | intEdit {value min max : Value} {n : Int} (counted : value.toInt = .ok n) :
      Shows (.intEdit value min max) (.int (Numeral.toInt32 n))
  | floatEdit {value min max step : Value} {x : Double} (measured : value.toDouble = .ok x) :
      Shows (.floatEdit value min max step) (.float x)
  /-- A value that is none of the items is shown as the first. -/
  | dropdown {value items : Value} {place : Option Nat}
      (placed : items.placeIn? value = .ok place) :
      Shows (.dropdown value items) (.int (place.getD 0 : Nat))
  | checkbox (label value : Value) : Shows (.checkbox label value) (.bool value.truthy)
  | color {declared : Bool} {base : Color} {alpha : Value} {channels : List Double}
      (split : toFractions base alpha.truthy = .ok channels) :
      Shows (.color declared (.color base) alpha) (.list (channels.map .float))

/-- The value that comes of an answer: a number within the bounds, an item at a place, a truth
value, a colour. -/
inductive Takes (answer : Value) : Kind → Value → Prop where
  | edit (multiline : Bool) (value : Value) : Takes answer (.edit multiline value) answer
  | intEdit {value min max : Value} {n lo hi : Int} (counted : answer.toInt = .ok n)
      (lower : min.toInt = .ok lo) (upper : max.toInt = .ok hi) :
      Takes answer (.intEdit value min max) (.int (Max.max lo (Min.min hi n)))
  | nan {value min max step : Value} {x lo : Double} (measured : answer.toDouble = .ok x)
      (noNumber : x.isNaN) (lower : min.toDouble = .ok lo) :
      Takes answer (.floatEdit value min max step) (.float lo)
  | floatEdit {value min max step : Value} {x lo hi : Double} (measured : answer.toDouble = .ok x)
      (number : ¬ x.isNaN) (lower : min.toDouble = .ok lo) (upper : max.toDouble = .ok hi) :
      Takes answer (.floatEdit value min max step) (.float (lo.larger (hi.smaller x)))
  | dropdown {value items item : Value} {place : Int} (counted : answer.toInt = .ok place)
      (chosen : items.itemAt place = .ok item) : Takes answer (.dropdown value items) item
  | checkbox (label value : Value) : Takes answer (.checkbox label value) (.bool answer.truthy)
  | color {declared : Bool} {base c : Color} {alpha : Value} {fractions : List Value}
      (listed : answer.parts = .ok fractions) (paints : Paints base fractions c) :
      Takes answer (.color declared (.color base) alpha) (.color c)

/-- The widget reports a change. -/
def Reports (cue : Cue) (kind : Kind) : Prop := cue.changed ∧ kind.Editable

/-- What a widget gives that does not fail: nothing, or the kind with the value taken over. -/
inductive Gives (cue : Cue) (kind : Kind) : Option Kind → Prop where
  | silent (unreported : ¬ Reports cue kind) : Gives cue kind none
  | taken {shown v : Value} (reported : Reports cue kind) (shows : Shows kind shown)
      (takes : Takes (reply cue shown) kind v) : Gives cue kind (some (kind.withValue v))

section Conversions

variable {v lo hi : Value}

theorem clampInt_ok {n : Int} (clamped : clampInt v lo hi = .ok n) :
    ∃ m lower upper, v.toInt = .ok m ∧ lo.toInt = .ok lower ∧ hi.toInt = .ok upper ∧
      n = max lower (min upper m) := by
  obtain ⟨lower, isLower, clamped⟩ := Success.of_bind clamped
  obtain ⟨upper, isUpper, clamped⟩ := Success.of_bind clamped
  obtain ⟨m, counted, clamped⟩ := Success.of_bind clamped
  cases clamped
  exact ⟨m, lower, upper, counted, isLower, isUpper, rfl⟩

theorem clampDouble_ok {y : Double} (clamped : clampDouble v lo hi = .ok y) :
    ∃ x lower, v.toDouble = .ok x ∧ lo.toDouble = .ok lower ∧
      (x.isNaN ∧ y = lower ∨
        ¬ x.isNaN ∧ ∃ upper, hi.toDouble = .ok upper ∧ y = lower.larger (upper.smaller x)) := by
  obtain ⟨x, measured, clamped⟩ := Success.of_bind clamped
  obtain ⟨lower, isLower, clamped⟩ := Success.of_bind clamped
  refine ⟨x, lower, measured, isLower, ?_⟩
  by_cases noNumber : x.isNaN
  · rw [if_pos noNumber] at clamped
    cases clamped
    exact .inl ⟨noNumber, rfl⟩
  · rw [if_neg noNumber] at clamped
    obtain ⟨upper, isUpper, clamped⟩ := Success.of_bind clamped
    cases clamped
    exact .inr ⟨noNumber, upper, isUpper, rfl⟩

theorem colorOf_ok {base : Color} (isColor : colorOf v = .ok base) : v = .color base := by
  unfold colorOf at isColor
  split at isColor <;> cases isColor
  rfl

theorem paints_of_ofFractions {fractions : List Value} {base c : Color}
    (read : ofFractions fractions base = .ok c) : Paints base fractions c := by
  obtain ⟨bytes, channels, read⟩ := Success.of_bind read
  have related := Success.forall₂_of_mapM (Success.of_mapError channels)
  split at read
  · next red green blue =>
    match fractions, related with
    | [r, g, b], .cons isRed (.cons isGreen (.cons isBlue .nil)) =>
      cases read
      exact .kept isRed isGreen isBlue
    | r :: g :: b :: o :: rest, .cons isRed (.cons isGreen (.cons isBlue .nil)) =>
      obtain ⟨opacity, isOpacity, read⟩ := Success.of_bind read
      cases read
      exact .set isRed isGreen isBlue (Success.of_mapError isOpacity)
  · cases read

end Conversions

section Outcomes

variable {α : Type} {a : α}

theorem outcome_of_fit {x : Except ValueFault α} (done : (fit x).outcome = .ok a) : x = .ok a :=
  Success.of_mapError done

theorem outcome_of_fitNumber {x : Except NumberFault α} (done : (fitNumber x).outcome = .ok a) :
    x = .ok a :=
  Success.of_mapError (outcome_of_fit done)

end Outcomes

variable {cue : Cue} {kind? : Option Kind}

theorem gives_drawEdit {multiline : Bool} {value : Value} {width height : Double}
    (done : (drawEdit cue multiline value width height).outcome = .ok kind?) :
    Gives cue (.edit multiline value) kind? := by
  rw [drawEdit] at done
  obtain ⟨s, written, done⟩ := outcome_of_bind done
  obtain ⟨_, _, done⟩ := outcome_of_bind done
  cases done
  split
  · next changed =>
    exact .taken ⟨changed, trivial⟩ (.edit (outcome_of_fitNumber written)) (.edit multiline value)
  · next unchanged => exact .silent fun reported => unchanged reported.1

theorem gives_drawInt {value min max : Value}
    (done : (drawInt cue value min max).outcome = .ok kind?) :
    Gives cue (.intEdit value min max) kind? := by
  rw [drawInt] at done
  obtain ⟨current, shown, done⟩ := outcome_of_bind done
  obtain ⟨_, _, done⟩ := outcome_of_bind done
  split at done
  · next changed =>
    obtain ⟨n, taken, done⟩ := outcome_of_bind done
    cases done
    obtain ⟨m, _, _, counted, ⟨⟩, ⟨⟩, rfl⟩ := clampInt_ok (outcome_of_fitNumber shown)
    obtain ⟨k, lo, hi, answered, lower, upper, rfl⟩ := clampInt_ok (outcome_of_fitNumber taken)
    exact .taken ⟨changed, trivial⟩ (.intEdit counted) (.intEdit answered lower upper)
  · next unchanged =>
    cases done
    exact .silent fun reported => unchanged reported.1

theorem gives_drawFloat {value min max step : Value}
    (done : (drawFloat cue value min max step).outcome = .ok kind?) :
    Gives cue (.floatEdit value min max step) kind? := by
  rw [drawFloat] at done
  obtain ⟨size, _, done⟩ := outcome_of_bind done
  obtain ⟨current, shown, done⟩ := outcome_of_bind done
  obtain ⟨_, _, done⟩ := outcome_of_bind done
  split at done
  · next changed =>
    obtain ⟨x, taken, done⟩ := outcome_of_bind done
    cases done
    have shows : Shows (.floatEdit value min max step) (.float current) :=
      .floatEdit (outcome_of_fitNumber shown)
    obtain ⟨y, lo, measured, lower, ⟨noNumber, rfl⟩ | ⟨number, hi, upper, rfl⟩⟩ :=
      clampDouble_ok (outcome_of_fitNumber taken)
    · exact .taken ⟨changed, trivial⟩ shows (.nan measured noNumber lower)
    · exact .taken ⟨changed, trivial⟩ shows (.floatEdit measured number lower upper)
  · next unchanged =>
    cases done
    exact .silent fun reported => unchanged reported.1

/-- The place of a dropdown without items is below all others. -/
theorem dropdownIndex_ok {value items : Value} {index : Int}
    (placed : dropdownIndex value items = .ok index) :
    (index < 0 ∧ ¬ items.truthy) ∨ (¬ index < 0 ∧ items.truthy ∧
      ∃ place : Option Nat, items.placeIn? value = .ok place ∧ index = (place.getD 0 : Nat)) := by
  unfold dropdownIndex at placed
  split at placed
  · next items =>
    obtain ⟨place, found, rfl⟩ := Success.of_map placed
    exact .inr ⟨by omega, items, place, found, rfl⟩
  · next none =>
    cases placed
    exact .inl ⟨by decide, none⟩

theorem gives_drawDropdown {value items : Value}
    (done : (drawDropdown cue value items).outcome = .ok kind?) :
    Gives cue (.dropdown value items) kind? := by
  rw [drawDropdown] at done
  obtain ⟨index, shown, done⟩ := outcome_of_bind done
  obtain ⟨below, empty⟩ | ⟨inside, editable, place, placed, rfl⟩ :=
    dropdownIndex_ok (outcome_of_fit shown)
  · rw [if_pos below] at done
    obtain ⟨_, _, done⟩ := outcome_of_bind done
    obtain ⟨_, _, done⟩ := outcome_of_bind done
    cases done
    exact .silent fun reported => empty reported.2
  · rw [if_neg inside] at done
    obtain ⟨choices, _, done⟩ := outcome_of_bind done
    obtain ⟨_, _, done⟩ := outcome_of_bind done
    split at done
    · next changed =>
      obtain ⟨choice, counted, done⟩ := outcome_of_bind done
      obtain ⟨item, chosen, done⟩ := outcome_of_bind done
      cases done
      exact .taken ⟨changed, editable⟩ (.dropdown placed)
        (.dropdown (outcome_of_fitNumber counted) (outcome_of_fit chosen))
    · next unchanged =>
      cases done
      exact .silent fun reported => unchanged reported.1

theorem gives_drawCheckbox {label value : Value}
    (done : (drawCheckbox cue label value).outcome = .ok kind?) :
    Gives cue (.checkbox label value) kind? := by
  rw [drawCheckbox] at done
  obtain ⟨_, _, done⟩ := outcome_of_bind done
  obtain ⟨_, _, done⟩ := outcome_of_bind done
  cases done
  split
  · next changed =>
    exact .taken ⟨changed, trivial⟩ (.checkbox label value) (.checkbox label value)
  · next unchanged => exact .silent fun reported => unchanged reported.1

theorem gives_drawColor {declared : Bool} {value alpha : Value}
    (done : (drawColor cue declared value alpha).outcome = .ok kind?) :
    Gives cue (.color declared value alpha) kind? := by
  rw [drawColor] at done
  obtain ⟨base, isColor, done⟩ := outcome_of_bind done
  obtain ⟨channels, shown, done⟩ := outcome_of_bind done
  obtain ⟨_, _, done⟩ := outcome_of_bind done
  split at done
  · next changed =>
    obtain ⟨fractions, listed, done⟩ := outcome_of_bind done
    obtain ⟨c, read, done⟩ := outcome_of_bind done
    cases done
    obtain rfl := colorOf_ok (outcome_of_fit isColor)
    exact .taken ⟨changed, trivial⟩ (.color (outcome_of_fitNumber shown))
      (.color (outcome_of_fit listed) (paints_of_ofFractions (of_ofExcept read)))
  · next unchanged =>
    cases done
    exact .silent fun reported => unchanged reported.1

/-- A widget that comes to its end gives nothing unless it reports a change, and then the value
taken from its answer. -/
theorem gives_of_draw {c : Control} {width height : Double}
    (done : (draw cue c width height).outcome = .ok kind?) : Gives cue c.kind kind? := by
  obtain ⟨name, hint, x, y, w, h, kind⟩ := c
  cases kind with
  | bare => cases done
  | unformed => cases done
  | label text =>
    obtain ⟨_, _, done⟩ := outcome_of_bind done
    obtain ⟨_, _, done⟩ := outcome_of_bind done
    cases done
    exact .silent fun reported => reported.2
  | edit => exact gives_drawEdit done
  | intEdit => exact gives_drawInt done
  | floatEdit => exact gives_drawFloat done
  | dropdown => exact gives_drawDropdown done
  | checkbox => exact gives_drawCheckbox done
  | color => exact gives_drawColor done

end Widget

end ScriptDialog
