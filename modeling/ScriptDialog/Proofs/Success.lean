import ScriptDialog.Proofs.Related

/-! What stands behind a computation that has succeeded: each step of it has succeeded too. -/
namespace ScriptDialog.Success

variable {ε δ α β : Type}

theorem of_bind {x : Except ε α} {f : α → Except ε β} {b : β} (done : x >>= f = .ok b) :
    ∃ a, x = .ok a ∧ f a = .ok b := by
  cases x with
  | error fault => cases done
  | ok a => exact ⟨a, rfl, done⟩

theorem of_map {f : α → β} {x : Except ε α} {b : β} (done : f <$> x = .ok b) :
    ∃ a, x = .ok a ∧ f a = b := by
  cases x with
  | error fault => cases done
  | ok a => exact ⟨a, rfl, Except.ok.inj done⟩

theorem of_mapError {f : ε → δ} {x : Except ε α} {a : α} (done : x.mapError f = .ok a) :
    x = .ok a := by
  cases x with
  | error fault => cases done
  | ok a' => exact congrArg _ (Except.ok.inj done)

theorem ok_bind (a : α) (f : α → Except ε β) : (Except.ok a >>= f) = f a := rfl

theorem mapError_ok (f : ε → δ) (a : α) : (Except.ok a).mapError f = .ok a := rfl

theorem of_toOption {x : Except ε α} {a : α} (done : x.toOption = some a) : x = .ok a := by
  cases x with
  | error fault => cases done
  | ok a' => exact congrArg _ (Option.some.inj done)

theorem error_of_toOption {x : Except ε α} (none : x.toOption = none) :
    ∃ fault, x = .error fault := by
  cases x with
  | error fault => exact ⟨fault, rfl⟩
  | ok a => cases none

theorem toOption_iff {x : Except ε α} {a : α} : x.toOption = some a ↔ x = .ok a :=
  ⟨of_toOption, by rintro rfl; rfl⟩

/-- The results of a list of steps are those of its steps. -/
theorem forall₂_of_mapM {f : α → Except ε β} {xs : List α} {ys : List β}
    (done : xs.mapM f = .ok ys) : List.Forall₂ (fun x y => f x = .ok y) xs ys := by
  induction xs generalizing ys with
  | nil =>
    cases done
    exact .nil
  | cons x xs ih =>
    rw [List.mapM_cons] at done
    obtain ⟨y, here, done⟩ := of_bind done
    obtain ⟨rest, later, done⟩ := of_bind done
    cases done
    exact .cons here (ih later)

/-- Every result of a list of steps comes from one of them. -/
theorem of_mapM {f : α → Except ε β} {xs : List α} {ys : List β} (done : xs.mapM f = .ok ys) :
    ∀ y ∈ ys, ∃ x ∈ xs, f x = .ok y := by
  intro y member
  obtain ⟨x, place, made⟩ := left_of_forall₂ (forall₂_of_mapM done) member
  exact ⟨x, place, made⟩

theorem length_of_mapM {f : α → Except ε β} {xs : List α} {ys : List β}
    (done : xs.mapM f = .ok ys) : ys.length = xs.length :=
  (forall₂_of_mapM done).length_eq.symm

end ScriptDialog.Success
