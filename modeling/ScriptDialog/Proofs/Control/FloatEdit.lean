import ScriptDialog.Proofs.Control.Receive
import ScriptDialog.Proofs.Number.Longest

/-! The number that a float edit takes from a token. Of a printable token it is the longest number
in front, behind spaces, as the conversion of this part alone has it; of the token that another edit
writes it is the whole. -/
namespace ScriptDialog.Control

open Numeral (Longest Spaced Starts)

variable {c d : Control} {x : Double} {old min max step min' max' step' : Value} {t : String}

theorem receive_floatEdit (target : d.kind = .floatEdit old min max step)
    (read : Numeral.readStart t.toList = .ok x) : d.receive t = .ok (d.withValue (.float x)) := by
  rw [receive, withValue, target, kindFrom, Text.start_whole, read]
  rfl

theorem token_floatEdit (held : c.kind = .floatEdit (.float x) min max step) :
    c.token = .ok (String.ofList (Decimal.exactText x)) := by
  rw [token, held]
  rfl

/-- An edit takes what stands at the start of a printable token, and zero where no number does. The
token of a number is such a start as a whole, and is taken as that number. -/
theorem receive_longest (target : d.kind = .floatEdit old min max step) :
    (∀ t : String, (∀ ch ∈ t.toList, 0x20 ≤ ch.toNat ∧ ch.toNat < 0x7F) →
      ∃ x, d.receive t = .ok (d.withValue (.float x)) ∧ ∀ y, Starts t.toList y ↔ y = x) ∧
    ∀ (c : Control) (x : Double) (min' max' step' : Value),
      c.kind = .floatEdit (.float x) min' max' step' →
        ∃ t : String, c.token = .ok t ∧ Longest Spaced t.toList t.toList ∧
          d.receive t = .ok (d.withValue (.float x)) := by
  constructor
  · intro t printable
    obtain ⟨x, read, starts⟩ := Numeral.readStart_starts printable
    refine ⟨x, receive_floatEdit target read, fun y => ⟨fun other => other.unique starts, ?_⟩⟩
    rintro rfl
    exact starts
  · intro c x min' max' step' held
    refine ⟨_, token_floatEdit held, ?_, receive_floatEdit target ?_⟩
    · rw [String.toList_ofList]
      exact Numeral.longest_self (Numeral.figure_exactText x).spaced
    · rw [String.toList_ofList]
      exact Decimal.readStart_exactText x

/-- The start of a longer word, and the number that is furthest from zero. -/
theorem receive_longest_unfinished :
    let d := first "f" (.floatEdit (.int 7) .null .null .null)
    let c := first "g" (.floatEdit (.float (.neg .largest)) (.float .zero) (.float .zero) .null)
    (d.receive " -iNFinit" = .ok (d.withValue (.float (.infinite true))) ∧
      Starts " -iNFinit".toList (.infinite true)) ∧
    ∃ t : String, c.token = .ok t ∧ Longest Spaced t.toList t.toList ∧
      d.receive t = .ok (d.withValue (.float (.neg .largest))) := by
  intro d c
  obtain ⟨printable, written⟩ := receive_longest (d := d) rfl
  have ascii : " -iNFinit".toList.all fun ch => 0x20 ≤ ch.toNat && ch.toNat < 0x7F := by decide
  obtain ⟨x, received, starts⟩ := printable " -iNFinit" fun ch member => by
    simpa using List.all_eq_true.mp ascii ch member
  have read : Numeral.readStart " -iNFinit".toList = .ok (.infinite true) := rfl
  have same := (receive_floatEdit (d := d) rfl read).symm.trans received
  obtain rfl : .infinite true = x := by
    cases same
    rfl
  exact ⟨⟨received, (starts _).mpr rfl⟩, written c _ _ _ _ rfl⟩

end ScriptDialog.Control
