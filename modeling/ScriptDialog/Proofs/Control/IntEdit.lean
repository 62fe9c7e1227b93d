import ScriptDialog.Proofs.Control.Receive

/-! An integer that one edit writes and another reads, whatever comes behind its token. It arrives
as it is within 32 bits, and as the nearer bound when it is beyond them. -/
namespace ScriptDialog.Control

open Numeral (int32Min int32Max Writable Stops)

attribute [local irreducible] Numeral.writable

variable {c d : Control} {v : Int} {old min max min' max' : Value} {t w : Text}

theorem shownToken_wide (wide : ¬ Writable v) :
    shownToken (.int v) = .error (.unfit (.number .tooWideToWrite)) := by
  have written : shownToken (.int v) =
      ((Numeral.writable v).map (fun n => (Value.int n).display)).mapError (.unfit ∘ .number) := rfl
  rw [written, Numeral.writable_error wide]
  rfl

/-- The token of an integer is its text, and one that is too wide to be written has none. -/
theorem token_intEdit_iff (held : c.kind = .intEdit (.int v) min max) :
    c.token = .ok t ↔ Writable v ∧ t = (toString v : String) := by
  have token : c.token = shownToken (.int v) := by rw [Control.token, held]
  rw [token]
  by_cases fit : Writable v
  · rw [shownToken_int fit, Except.ok.injEq, eq_comm]
    simp [fit]
  · rw [shownToken_wide fit]
    simp [fit]

theorem receive_intEdit (target : d.kind = .intEdit old min max) (t : Text) :
    d.receive t = .ok (d.withValue (.int (Numeral.readIntStart t.start))) := by
  rw [receive, withValue, target]
  rfl

/-- An edit takes the token of an integer within 32 bits, whatever comes behind it, as long as that
goes on with no digit. -/
theorem receive_token_append (held : c.kind = .intEdit (.int v) min max)
    (target : d.kind = .intEdit old min' max') (stop : Stops w.start) :
    (∀ t, c.token = .ok t ↔ Writable v ∧ t = (toString v : String)) ∧
      ∃ n, d.receive (toString v ++ w) = .ok (d.withValue (.int n)) ∧
        n = Max.max int32Min (Min.min int32Max v) ∧ (Narrow v → n = v) ∧
        (v < int32Min → n = int32Min) ∧ (int32Max < v → n = int32Max) := by
  refine ⟨fun t => token_intEdit_iff held, Numeral.toInt32 v, ?_, rfl, Narrow.toInt32, ?_, ?_⟩
  · rw [receive_intEdit target, Text.start_append, Numeral.readIntStart_append v stop]
  · intro below
    simp only [Numeral.toInt32, int32Min, int32Max] at below ⊢
    omega
  · intro above
    simp only [Numeral.toInt32, int32Min, int32Max] at above ⊢
    omega

/-- The least integer but one of those below 32 bits, held where the bounds are no integers. -/
theorem receive_token_append_below :
    let c := first "n" (.intEdit (.int (-2147483650)) .null .null)
    let d := first "m" (.intEdit (.int 7) (.int 0) (.int 9))
    c.token = .ok "-2147483650" ∧
      d.receive "-2147483650e3" = .ok (d.withValue (.int (-2147483648))) := by
  intro c d
  have stop : Stops "e3".toList := Numeral.stops_cons (c := 'e') (by decide) ['3']
  have text : toString (-2147483650 : Int) = "-2147483650" := by decide
  obtain ⟨token, n, received, _, _, below, _⟩ :=
    receive_token_append (c := c) (d := d) (w := "e3") rfl rfl stop
  rw [text] at token received
  refine ⟨(token _).mpr ⟨Numeral.writable_of_lt (by decide), rfl⟩, ?_⟩
  rw [below (by decide)] at received
  exact received

end ScriptDialog.Control
