import ScriptDialog.Gui.Window

/-! What stands behind drawing that has succeeded: each step of it has succeeded too. And what sort
of calls a computation makes, whether it succeeds or not; calls on a host are made one after the
other until one fails. -/
namespace ScriptDialog.Performed

variable {ε ε' α β : Type}

theorem outcome_of_bind {p : Performed ε α} {f : α → Performed ε β} {b : β}
    (done : (p >>= f).outcome = .ok b) : ∃ a, p.outcome = .ok a ∧ (f a).outcome = .ok b := by
  have unfolded : (Performed.bind p f).outcome = .ok b := done
  cases result : p.outcome with
  | error fault => simp [Performed.bind, result] at unfolded
  | ok a => exact ⟨a, rfl, by simpa [Performed.bind, result] using unfolded⟩

@[simp] theorem outcome_pure (a : α) : (pure a : Performed ε α).outcome = .ok a := rfl

@[simp] theorem calls_mapFault (f : ε → ε') (p : Performed ε α) : (p.mapFault f).calls = p.calls :=
  rfl

theorem bind_of_ok {p : Performed ε α} {a : α} (done : p.outcome = .ok a)
    (f : α → Performed ε β) : p >>= f = ⟨p.calls ++ (f a).calls, (f a).outcome⟩ := by
  change Performed.bind p f = _
  simp only [Performed.bind, done]

theorem bind_of_error {p : Performed ε α} {fault : ε} (failed : p.outcome = .error fault)
    (f : α → Performed ε β) : p >>= f = ⟨p.calls, .error fault⟩ := by
  change Performed.bind p f = _
  simp only [Performed.bind, failed]

@[simp] theorem ofExcept_ok_bind (a : α) (f : α → Performed ε β) : ofExcept (.ok a) >>= f = f a :=
  rfl

@[simp] theorem ofExcept_error_bind (fault : ε) (f : α → Performed ε β) :
    ofExcept (.error fault) >>= f = ⟨[], .error fault⟩ :=
  rfl

theorem of_ofExcept {x : Except ε α} {a : α} (done : (ofExcept x).outcome = .ok a) : x = .ok a :=
  done

/-- All calls are of this sort. -/
def Makes (sort : Call → Prop) (p : Performed ε α) : Prop := ∀ c ∈ p.calls, sort c

variable {sort : Call → Prop} {p : Performed ε α}

@[simp] theorem makes_pure (a : α) : (pure a : Performed ε α).Makes sort :=
  fun _ member => nomatch member

@[simp] theorem makes_fail (fault : ε) : (fail fault : Performed ε α).Makes sort :=
  fun _ member => nomatch member

@[simp] theorem makes_ofExcept (x : Except ε α) : (ofExcept x).Makes sort :=
  fun _ member => nomatch member

@[simp] theorem makes_call (c : Call) : (call c : Performed ε Unit).Makes sort ↔ sort c :=
  List.forall_mem_singleton

@[simp] theorem makes_bracket (opening closing : Call) :
    (bracket opening closing p).Makes sort ↔ sort opening ∧ p.Makes sort ∧ sort closing := by
  rw [Makes, calls_bracket, List.cons_append, List.forall_mem_cons, List.forall_mem_append,
    List.forall_mem_singleton]
  rfl

@[simp] theorem makes_mapFault (f : ε → ε') : (p.mapFault f).Makes sort ↔ p.Makes sort := Iff.rfl

theorem Makes.imp {sort' : Call → Prop} (makes : p.Makes sort) (all : ∀ c, sort c → sort' c) :
    p.Makes sort' :=
  fun c member => all c (makes c member)

theorem Makes.bind_of_ok {f : α → Performed ε β} (first : p.Makes sort)
    (rest : ∀ a, p.outcome = .ok a → (f a).Makes sort) : (p >>= f).Makes sort := by
  change (Performed.bind p f).Makes sort
  unfold Performed.bind
  split
  · exact first
  · next a done => exact List.forall_mem_append.mpr ⟨first, rest a done⟩

theorem Makes.bind {f : α → Performed ε β} (first : p.Makes sort) (rest : ∀ a, (f a).Makes sort) :
    (p >>= f).Makes sort :=
  first.bind_of_ok fun a _ => rest a

end ScriptDialog.Performed

namespace ScriptDialog.Host

open Performed

variable {host : Host} {c : Call} {calls : List Call} {sort : Call → Prop}

/-- None of the calls fails. -/
def Calm (host : Host) (calls : List Call) : Prop := ∀ c ∈ calls, host.failure? c = none

/-- What becomes of calls on a host: all are made, or those in front of one that fails. -/
inductive Performs (host : Host) (calls : List Call) : Performed GuiFault Unit → Prop where
  | all (calm : host.Calm calls) : Performs host calls ⟨calls, .ok ()⟩
  | broken (before : List Call) {c : Call} (after : List Call) {text : String}
      (split : calls = before ++ c :: after) (failed : host.failure? c = some text) :
      Performs host calls ⟨before, .error (.toolkit text)⟩

theorem call_of_calm (calm : host.failure? c = none) : host.call c = ⟨[c], .ok ()⟩ := by
  rw [call, calm]
  rfl

theorem call_of_failure {text : String} (failed : host.failure? c = some text) :
    host.call c = ⟨[], .error (.toolkit text)⟩ := by
  rw [call, failed]
  rfl

theorem performs (host : Host) (calls : List Call) : host.Performs calls (host.calls calls) := by
  induction calls with
  | nil => exact .all (List.forall_mem_nil _)
  | cons c calls ih =>
    rw [Host.calls]
    cases failed : host.failure? c with
    | some text =>
      rw [call_of_failure failed, bind_of_error rfl]
      exact .broken [] calls rfl failed
    | none =>
      rw [call_of_calm failed, bind_of_ok rfl]
      generalize host.calls calls = done at ih ⊢
      cases ih with
      | all calm => exact .all (List.forall_mem_cons.mpr ⟨failed, calm⟩)
      | broken before after split failed' =>
        exact .broken (c :: before) after (congrArg _ split) failed'

theorem calls_of_calm (calm : host.Calm calls) : host.calls calls = ⟨calls, .ok ()⟩ := by
  have did := host.performs calls
  generalize host.calls calls = done at did ⊢
  cases did with
  | all => rfl
  | broken before after split failed =>
    cases failed.symm.trans (calm _ (by simp [split]))

theorem Performs.not_calm {fault : GuiFault} {made : List Call}
    (did : host.Performs calls ⟨made, .error fault⟩) : ¬ host.Calm calls := by
  cases did with
  | broken before after split failed =>
    intro calm
    cases failed.symm.trans (calm _ (by simp [split]))

theorem makes_call (made : sort c) : (host.call c).Makes sort := by
  unfold call
  split
  · exact (Performed.makes_call c).mpr made
  · exact makes_fail _

theorem makes_calls (all : ∀ c ∈ calls, sort c) : (host.calls calls).Makes sort := by
  induction calls with
  | nil => exact makes_pure _
  | cons c calls ih =>
    obtain ⟨here, rest⟩ := List.forall_mem_cons.mp all
    exact .bind (makes_call here) fun _ => ih rest

end ScriptDialog.Host
