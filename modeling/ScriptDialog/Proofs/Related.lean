import Mathlib.Data.List.Forall2

/-! Lists whose items are related one by one. -/
namespace ScriptDialog

variable {α β γ : Type}

theorem forall₂_comp {r : α → β → Prop} {s : β → γ → Prop} {t : α → γ → Prop}
    (step : ∀ a b c, r a b → s b c → t a c) {as : List α} {bs : List β} {cs : List γ}
    (first : List.Forall₂ r as bs) (second : List.Forall₂ s bs cs) : List.Forall₂ t as cs := by
  induction first generalizing cs with
  | nil => cases second; exact .nil
  | cons here _ ih =>
    cases second with
    | cons here' later => exact .cons (step _ _ _ here here') (ih later)

/-- Every item of the second list comes from one of the first. -/
theorem left_of_forall₂ {r : α → β → Prop} {as : List α} {bs : List β} {b : β}
    (related : List.Forall₂ r as bs) (member : b ∈ bs) : ∃ a ∈ as, r a b := by
  induction related with
  | nil => cases member
  | cons here _ ih =>
    rcases List.mem_cons.mp member with rfl | member
    · exact ⟨_, by simp, here⟩
    · obtain ⟨a, place, later⟩ := ih member
      exact ⟨a, List.mem_cons_of_mem _ place, later⟩

/-- A list whose items each have a counterpart is related to the list of these. -/
theorem exists_forall₂ {r : α → β → Prop} {as : List α} (each : ∀ a ∈ as, ∃ b, r a b) :
    ∃ bs, List.Forall₂ r as bs := by
  induction as with
  | nil => exact ⟨[], .nil⟩
  | cons a as ih =>
    obtain ⟨⟨b, here⟩, later⟩ := List.forall_mem_cons.mp each
    obtain ⟨bs, rest⟩ := ih later
    exact ⟨b :: bs, .cons here rest⟩

theorem right_of_forall₂ {r : α → β → Prop} {as : List α} {bs : List β} {a : α}
    (related : List.Forall₂ r as bs) (member : a ∈ as) : ∃ b ∈ bs, r a b :=
  left_of_forall₂ related.flip member

theorem map_eq_of_forall₂ {r : α → β → Prop} {f : α → γ} {g : β → γ}
    (same : ∀ a b, r a b → f a = g b) {as : List α} {bs : List β}
    (related : List.Forall₂ r as bs) : as.map f = bs.map g := by
  induction related with
  | nil => rfl
  | cons here _ ih => rw [List.map_cons, List.map_cons, same _ _ here, ih]

/-- One item is replaced, all the others stay. -/
theorem forall₂_set {r : α → α → Prop} (refl : ∀ a, r a a) {as : List α} {i : Nat} {a b : α}
    (place : as[i]? = some a) (here : r a b) : List.Forall₂ r as (as.set i b) := by
  induction as generalizing i with
  | nil => cases place
  | cons first as ih =>
    cases i with
    | zero =>
      cases place
      exact .cons here (List.forall₂_same.mpr fun a _ => refl a)
    | succ i => exact .cons (refl first) (ih place)

/-- Some items of the first list are related to some of the second. -/
theorem exists_sublist_of_forall₂ {r : α → β → Prop} {some as : List α} {bs : List β}
    (sub : some.Sublist as) (related : List.Forall₂ r as bs) :
    ∃ bs', bs'.Sublist bs ∧ List.Forall₂ r some bs' := by
  induction sub generalizing bs with
  | slnil =>
    cases related
    exact ⟨[], .slnil, .nil⟩
  | cons _ _ ih =>
    cases related with
    | cons _ later =>
      obtain ⟨bs', sub, rest⟩ := ih later
      exact ⟨bs', .cons _ sub, rest⟩
  | cons_cons _ _ ih =>
    cases related with
    | cons here later =>
      obtain ⟨bs', sub, rest⟩ := ih later
      exact ⟨_ :: bs', .cons_cons _ sub, .cons here rest⟩

end ScriptDialog
