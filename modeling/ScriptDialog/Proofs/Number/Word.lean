import ScriptDialog.Proofs.Number.Grammar
import ScriptDialog.Proofs.Related

/-! The words for infinity and for no number, and the reader against them. A word is spelled in any
mixture of cases; in ASCII these spellings are all that the reader takes, and of a word that begins
another one it takes the longer one where that stands. -/
namespace ScriptDialog.Numeral

/-- The word with each letter as it is or as a capital. -/
def Cased (word text : List Char) : Prop :=
  List.Forall₂ (fun w c => c = w ∨ c = w.toUpper) word text

/-- A word with an optional sign, and what it stands for. -/
inductive Names : List Char → Double → Prop where
  | infinite {sign word : List Char} {minus : Bool} (signed : Signed sign minus)
      (spelled : Cased ['i', 'n', 'f'] word ∨
        Cased ['i', 'n', 'f', 'i', 'n', 'i', 't', 'y'] word) :
      Names (sign ++ word) (.infinite minus)
  | nan {sign word : List Char} {minus : Bool} (signed : Signed sign minus)
      (spelled : Cased ['n', 'a', 'n'] word) : Names (sign ++ word) .nan

def letters : List Char := ['i', 'n', 'f', 't', 'y', 'a']

variable {word text taken body rest : List Char} {w c : Char} {minus : Bool} {x : Double}

/-! Letters. -/

theorem toUpper_letter (known : w ∈ letters) : w.toUpper.toNat + 0x20 = w.toNat := by
  simp only [letters, List.mem_cons, List.not_mem_nil, or_false] at known
  rcases known with rfl | rfl | rfl | rfl | rfl | rfl <;> rfl

theorem isLetter_of_cased (known : w ∈ letters) (cased : c = w ∨ c = w.toUpper) : isLetter w c := by
  rcases cased with rfl | rfl
  · simp [isLetter]
  · simp [isLetter, toUpper_letter known]

/-- The false spellings are not in ASCII. -/
theorem cased_of_isLetter (known : w ∈ letters) (ascii : c.toNat < 0x80) (letter : isLetter w c) :
    c = w ∨ c = w.toUpper := by
  simp only [isLetter, Bool.or_eq_true, Bool.and_eq_true, beq_iff_eq] at letter
  rcases letter with (same | capital) | ⟨_, rfl | rfl⟩
  · exact .inl same
  · right
    rw [← toUpper_letter known] at capital
    exact Char.toNat_inj.mp (Nat.add_right_cancel capital)
  · exact absurd ascii (by decide)
  · exact absurd ascii (by decide)

theorem Cased.isLetter (known : word ⊆ letters) (cased : Cased word text) :
    List.Forall₂ (fun w c => isLetter w c) word text := by
  induction cased with
  | nil => exact .nil
  | cons here _ ih =>
    obtain ⟨letter, later⟩ := List.cons_subset.mp known
    exact .cons (isLetter_of_cased letter here) (ih later)

theorem cased_of_forall₂ (known : word ⊆ letters) (ascii : ∀ c ∈ text, c.toNat < 0x80)
    (spelled : List.Forall₂ (fun w c => isLetter w c) word text) : Cased word text := by
  induction spelled with
  | nil => exact .nil
  | cons here _ ih =>
    obtain ⟨letter, known⟩ := List.cons_subset.mp known
    obtain ⟨low, ascii⟩ := List.forall_mem_cons.mp ascii
    exact .cons (cased_of_isLetter letter low here) (ih known ascii)

/-- The letters in both cases. -/
def spellings : List Char := letters ++ letters.map Char.toUpper

theorem mem_spellings (known : w ∈ letters) (cased : c = w ∨ c = w.toUpper) : c ∈ spellings := by
  rcases cased with rfl | rfl
  · exact List.mem_append_left _ known
  · exact List.mem_append_right _ (List.mem_map_of_mem known)

/-! One word. -/

/-- A word is read off letter by letter. -/
theorem word?_iff : word? word text = some rest ↔
    ∃ taken, text = taken ++ rest ∧ List.Forall₂ (fun w c => isLetter w c) word taken := by
  induction word generalizing text with
  | nil =>
    constructor
    · intro read
      exact ⟨[], Option.some.inj read, .nil⟩
    · rintro ⟨_, rfl, _ | _⟩
      rfl
  | cons w word ih =>
    cases text with
    | nil =>
      refine iff_of_false nofun ?_
      rintro ⟨taken, whole, spelled⟩
      obtain ⟨rfl, _⟩ := List.append_eq_nil_iff.mp whole.symm
      cases spelled
    | cons c text =>
      rw [word?]
      split
      · next letter =>
        rw [ih]
        constructor
        · rintro ⟨taken, rfl, spelled⟩
          exact ⟨c :: taken, rfl, .cons letter spelled⟩
        · rintro ⟨_, whole, _ | ⟨_, spelled⟩⟩
          exact ⟨_, (List.cons.inj whole).2, spelled⟩
      · next other =>
        refine iff_of_false nofun ?_
        rintro ⟨_, whole, _ | ⟨letter, _⟩⟩
        exact other ((List.cons.inj whole).1 ▸ letter)

theorem Cased.read (known : word ⊆ letters) (cased : Cased word taken) (rest : List Char) :
    word? word (taken ++ rest) = some rest :=
  word?_iff.mpr ⟨taken, rfl, cased.isLetter known⟩

theorem cased_of_word? (known : word ⊆ letters) (ascii : ∀ c ∈ text, c.toNat < 0x80)
    (read : word? word text = some rest) : ∃ taken, text = taken ++ rest ∧ Cased word taken := by
  obtain ⟨taken, rfl, spelled⟩ := word?_iff.mp read
  exact ⟨taken, rfl, cased_of_forall₂ known (fun c member => ascii c (by simp [member])) spelled⟩

/-- A word in two parts is read one part after the other. -/
theorem word?_append (word more text : List Char) :
    word? (word ++ more) text = (word? word text).bind (word? more) := by
  induction word generalizing text with
  | nil => rfl
  | cons w word ih =>
    cases text with
    | nil => rfl
    | cons c text =>
      rw [List.cons_append, word?, word?]
      split
      · exact ih text
      · rfl

theorem length_of_word? (read : word? word text = some rest) : rest.length ≤ text.length := by
  obtain ⟨taken, rfl, _⟩ := word?_iff.mp read
  simp

/-! A word with its sign. -/

/-- No letter is a sign. -/
theorem Cased.sign_append {mark : List Char} (cased : Cased (w :: word) text)
    (known : w ∈ letters) (signed : Signed mark minus) (rest : List Char) :
    sign (mark ++ (text ++ rest)) = (minus, text ++ rest) := by
  have unsigned : spellings.all fun c => c != '-' && c != '+' := by decide
  cases cased with
  | cons here _ =>
    have other := List.all_eq_true.mp unsigned _ (mem_spellings known here)
    exact sign_complete signed (by simpa using other) _

theorem named?_infinite (front : sign text = (minus, body))
    (read : word? ['i', 'n', 'f'] body = some rest) :
    named? text = some (.infinite minus, (word? ['i', 'n', 'i', 't', 'y'] rest).getD rest) := by
  simp only [named?, front, read]

theorem named?_nan (front : sign text = (minus, body))
    (other : word? ['i', 'n', 'f'] body = none) :
    named? text = (word? ['n', 'a', 'n'] body).map fun rest => (.nan, rest) := by
  simp only [named?, front, other]

/-- What is read is one of the words. -/
theorem names_of_named? (ascii : ∀ c ∈ text, c.toNat < 0x80)
    (read : named? text = some (x, rest)) : ∃ taken, text = taken ++ rest ∧ Names taken x := by
  obtain ⟨mark, whole, signed⟩ := sign_sound text
  have low : ∀ c ∈ (sign text).2, c.toNat < 0x80 := fun c member =>
    ascii c (whole ▸ List.mem_append_right _ member)
  cases inf : word? ['i', 'n', 'f'] (sign text).2 with
  | none =>
    rw [named?_nan rfl inf] at read
    obtain ⟨after, nan, done⟩ := Option.map_eq_some_iff.mp read
    cases done
    obtain ⟨word, body, cased⟩ := cased_of_word? (by decide) low nan
    exact ⟨mark ++ word, by rw [List.append_assoc, ← body, ← whole], .nan signed cased⟩
  | some after =>
    rw [named?_infinite rfl inf] at read
    cases read
    obtain ⟨word, body, cased⟩ := cased_of_word? (by decide) low inf
    have behind : ∀ c ∈ after, c.toNat < 0x80 := fun c member =>
      low c (body ▸ List.mem_append_right _ member)
    cases longer : word? ['i', 'n', 'i', 't', 'y'] after with
    | none =>
      exact ⟨mark ++ word, by rw [List.append_assoc, Option.getD_none, ← body, ← whole],
        .infinite signed (.inl cased)⟩
    | some rest =>
      obtain ⟨word', body', cased'⟩ := cased_of_word? (by decide) behind longer
      refine ⟨mark ++ (word ++ word'), ?_, .infinite signed (.inr (List.rel_append cased cased'))⟩
      rw [List.append_assoc, List.append_assoc, Option.getD_some, ← body', ← body, ← whole]

/-- Behind the short word for infinity, the rest of the long one is taken where it stands. -/
theorem infinity_read (spelled : Cased ['i', 'n', 'f'] word ∨
    Cased ['i', 'n', 'f', 'i', 'n', 'i', 't', 'y'] word) (rest : List Char) :
    ∃ after, word? ['i', 'n', 'f'] (word ++ rest) = some after ∧
      ((word? ['i', 'n', 'i', 't', 'y'] after).getD after).length ≤ rest.length := by
  rcases spelled with short | long
  · refine ⟨rest, short.read (by decide) rest, ?_⟩
    cases longer : word? ['i', 'n', 'i', 't', 'y'] rest with
    | none => exact Nat.le_refl _
    | some after => exact length_of_word? longer
  · have parts := word?_append ['i', 'n', 'f'] ['i', 'n', 'i', 't', 'y'] (word ++ rest)
    obtain ⟨after, inf, longer⟩ :=
      Option.bind_eq_some_iff.mp (parts.symm.trans (long.read (by decide) rest))
    exact ⟨after, inf, by rw [longer, Option.getD_some]⟩

/-- A word is read as what it stands for, with as much behind it as belongs to a longer one. -/
theorem Names.read (names : Names taken x) (rest : List Char) :
    ∃ after, named? (taken ++ rest) = some (x, after) ∧ after.length ≤ rest.length := by
  cases names with
  | @infinite mark word minus signed spelled =>
    have front : sign (mark ++ word ++ rest) = (minus, word ++ rest) := by
      rw [List.append_assoc]
      rcases spelled with short | long
      · exact short.sign_append (by decide) signed rest
      · exact long.sign_append (by decide) signed rest
    obtain ⟨after, inf, shorter⟩ := infinity_read spelled rest
    exact ⟨_, named?_infinite front inf, shorter⟩
  | @nan mark word minus signed spelled =>
    have front : sign (mark ++ word ++ rest) = (minus, word ++ rest) := by
      rw [List.append_assoc]
      exact spelled.sign_append (by decide) signed rest
    have other : word? ['i', 'n', 'f'] (word ++ rest) = none := by
      rcases spelled with _ | ⟨rfl | rfl, _⟩
      · rfl
      · rfl
    refine ⟨rest, ?_, Nat.le_refl _⟩
    rw [named?_nan front other, spelled.read (by decide) rest]
    rfl

/-- Behind its sign, a word begins with a letter. -/
theorem Names.head (names : Names text x) : ∃ mark minus c tail, text = mark ++ c :: tail ∧
    Signed mark minus ∧ c ∈ ['i', 'I', 'n', 'N'] := by
  cases names with
  | infinite signed spelled =>
    rcases spelled with (_ | ⟨rfl | rfl, _⟩) | (_ | ⟨rfl | rfl, _⟩)
    all_goals exact ⟨_, _, _, _, rfl, signed, by decide⟩
  | nan signed spelled =>
    rcases spelled with _ | ⟨rfl | rfl, _⟩
    all_goals exact ⟨_, _, _, _, rfl, signed, by decide⟩

/-- Words hold nothing but signs and the letters of both cases. -/
theorem Names.forall_mem {p : Char → Bool} (marks : (['-', '+'] ++ spellings).all p)
    (names : Names text x) : ∀ c ∈ text, p c := by
  have all := List.all_eq_true.mp marks
  have mark {mark : List Char} {minus : Bool} (signed : Signed mark minus) : ∀ c ∈ mark, p c := by
    cases signed with
    | none => exact List.forall_mem_nil _
    | plus => exact List.forall_mem_singleton.mpr (all '+' (by decide))
    | minus => exact List.forall_mem_singleton.mpr (all '-' (by decide))
  have word {word text : List Char} (known : word ⊆ letters) (cased : Cased word text) :
      ∀ c ∈ text, p c := by
    intro c member
    obtain ⟨w, place, spelled⟩ := left_of_forall₂ cased member
    exact all c (List.mem_append_right _ (mem_spellings (known place) spelled))
  cases names with
  | infinite signed spelled =>
    rcases spelled with short | long
    · exact List.forall_mem_append.mpr ⟨mark signed, word (by decide) short⟩
    · exact List.forall_mem_append.mpr ⟨mark signed, word (by decide) long⟩
  | nan signed spelled => exact List.forall_mem_append.mpr ⟨mark signed, word (by decide) spelled⟩

end ScriptDialog.Numeral
