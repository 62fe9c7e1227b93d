import ScriptDialog.Proofs.Success

/-! When a computation fails, and with which faults. Its steps run in order: it fails with the first
fault of one of them, and a list of steps fails at the first item that is not done. -/
namespace ScriptDialog

namespace Success

variable {ε δ α β : Type} {x : Except ε α} {f : α → Except ε β}

theorem bind_iff : (∃ b, x >>= f = .ok b) ↔ ∃ a, x = .ok a ∧ ∃ b, f a = .ok b := by
  constructor
  · rintro ⟨b, done⟩
    obtain ⟨a, first, rest⟩ := of_bind done
    exact ⟨a, first, b, rest⟩
  · rintro ⟨a, rfl, b, rest⟩
    exact ⟨b, rest⟩

/-- A first step whose result the second one does not depend on in whether it succeeds. -/
theorem bind_iff_and {rest : Prop} (second : ∀ a, (∃ b, f a = .ok b) ↔ rest) :
    (∃ b, x >>= f = .ok b) ↔ (∃ a, x = .ok a) ∧ rest := by
  rw [bind_iff]
  constructor
  · rintro ⟨a, first, done⟩
    exact ⟨⟨a, first⟩, (second a).mp done⟩
  · rintro ⟨⟨a, first⟩, done⟩
    exact ⟨a, first, (second a).mpr done⟩

theorem map_iff {f : α → β} : (∃ b, f <$> x = .ok b) ↔ ∃ a, x = .ok a := by
  cases x with
  | error fault => exact iff_of_false (by rintro ⟨_, ⟨⟩⟩) (by rintro ⟨_, ⟨⟩⟩)
  | ok a => exact iff_of_true ⟨f a, rfl⟩ ⟨a, rfl⟩

theorem mapError_iff {f : ε → δ} : (∃ a, x.mapError f = .ok a) ↔ ∃ a, x = .ok a := by
  cases x with
  | error fault => exact iff_of_false (by rintro ⟨_, ⟨⟩⟩) (by rintro ⟨_, ⟨⟩⟩)
  | ok a => exact iff_of_true ⟨a, rfl⟩ ⟨a, rfl⟩

/-- A computation that has no result has a fault. -/
theorem error_iff : (∃ fault, x = .error fault) ↔ ¬ ∃ a, x = .ok a := by
  cases x with
  | error fault => exact iff_of_true ⟨fault, rfl⟩ (by rintro ⟨_, ⟨⟩⟩)
  | ok a => exact iff_of_false (by rintro ⟨_, ⟨⟩⟩) (not_not_intro ⟨a, rfl⟩)

/-- A list of steps succeeds just when every step does. -/
theorem mapM_iff {xs : List α} : (∃ ys, xs.mapM f = .ok ys) ↔ ∀ x ∈ xs, ∃ y, f x = .ok y := by
  induction xs with
  | nil => exact iff_of_true ⟨[], rfl⟩ (by simp)
  | cons x xs ih =>
    rw [List.mapM_cons, List.forall_mem_cons, ← ih, bind_iff_and]
    intro y
    constructor
    · intro done
      obtain ⟨rest, later, _⟩ := bind_iff.mp done
      exact ⟨rest, later⟩
    · rintro ⟨rest, later⟩
      exact bind_iff.mpr ⟨rest, later, y :: rest, rfl⟩

end Success

/-- A computation fails with a fault of this sort. -/
def Fails {ε α : Type} (sort : ε → Prop) (x : Except ε α) : Prop :=
  ∃ fault, x = .error fault ∧ sort fault

/-- The first item that is not good is bad. -/
def First {α : Type} (good bad : α → Prop) (items : List α) : Prop :=
  ∃ before item after, items = before ++ item :: after ∧ (∀ i ∈ before, good i) ∧ bad item

theorem first_nil {α : Type} {good bad : α → Prop} : ¬ First good bad [] := by
  rintro ⟨before, item, after, none, _⟩
  cases before <;> cases none

theorem first_cons {α : Type} {good bad : α → Prop} {item : α} {items : List α} :
    First good bad (item :: items) ↔ bad item ∨ good item ∧ First good bad items := by
  constructor
  · rintro ⟨before, i, after, whole, all, here⟩
    cases before with
    | nil =>
      cases whole
      exact .inl here
    | cons j before =>
      cases whole
      obtain ⟨first, rest⟩ := List.forall_mem_cons.mp all
      exact .inr ⟨first, before, i, after, rfl, rest, here⟩
  · rintro (here | ⟨first, before, i, after, rfl, rest, here⟩)
    · exact ⟨[], item, items, rfl, by simp, here⟩
    · exact ⟨item :: before, i, after, rfl, List.forall_mem_cons.mpr ⟨first, rest⟩, here⟩

theorem first_congr {α : Type} {good good' bad bad' : α → Prop} (goods : ∀ i, good i ↔ good' i)
    (bads : ∀ i, bad i ↔ bad' i) (items : List α) :
      First good bad items ↔ First good' bad' items := by
  simp only [First, goods, bads]

namespace Fails

variable {ε δ α β : Type} {sort : ε → Prop} {x : Except ε α}

theorem ok_iff {a : α} : Fails sort (.ok a : Except ε α) ↔ False :=
  iff_of_false (by rintro ⟨_, ⟨⟩, _⟩) id

theorem pure_iff {a : α} : Fails sort (pure a : Except ε α) ↔ False := ok_iff

theorem error_iff {fault : ε} : Fails sort (.error fault : Except ε α) ↔ sort fault := by
  constructor
  · rintro ⟨_, ⟨⟩, here⟩
    exact here
  · exact fun here => ⟨fault, rfl, here⟩

theorem bind_iff {f : α → Except ε β} :
    Fails sort (x >>= f) ↔ Fails sort x ∨ ∃ a, x = .ok a ∧ Fails sort (f a) := by
  cases x with
  | error fault =>
    have same : (.error fault >>= f : Except ε β) = .error fault := rfl
    rw [same, error_iff, error_iff]
    simp
  | ok a =>
    have same : (.ok a >>= f : Except ε β) = f a := rfl
    rw [same, ok_iff]
    simp

theorem map_iff {f : α → β} : Fails sort (f <$> x) ↔ Fails sort x := by
  cases x with
  | error fault =>
    have same : (f <$> .error fault : Except ε β) = .error fault := rfl
    rw [same, error_iff, error_iff]
  | ok a =>
    have same : (f <$> .ok a : Except ε β) = .ok (f a) := rfl
    rw [same, ok_iff, ok_iff]

/-- Where all faults become such, failing is not succeeding. -/
theorem mapError_iff {f : δ → ε} {x : Except δ α} (all : ∀ fault, sort (f fault)) :
    Fails sort (x.mapError f) ↔ ¬ ∃ a, x = .ok a := by
  cases x with
  | error fault => exact iff_of_true ⟨f fault, rfl, all fault⟩ (by rintro ⟨_, ⟨⟩⟩)
  | ok a => exact iff_of_false (by rintro ⟨_, ⟨⟩, _⟩) (fun none => none ⟨a, rfl⟩)

theorem mapM_iff {f : α → Except ε β} (items : List α) :
    Fails sort (items.mapM f) ↔
      First (fun item => ∃ b, f item = .ok b) (fun item => Fails sort (f item)) items := by
  induction items with
  | nil => exact iff_of_false (by rintro ⟨_, ⟨⟩, _⟩) first_nil
  | cons item items ih =>
    rw [List.mapM_cons, bind_iff, first_cons, ← ih]
    refine or_congr_right ?_
    constructor
    · rintro ⟨b, here, later⟩
      rw [bind_iff] at later
      refine ⟨⟨b, here⟩, ?_⟩
      rcases later with later | ⟨_, _, ⟨_, ⟨⟩, _⟩⟩
      exact later
    · rintro ⟨⟨b, here⟩, later⟩
      exact ⟨b, here, bind_iff.mpr (.inl later)⟩

end Fails

end ScriptDialog
