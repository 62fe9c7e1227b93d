import Mathlib.Data.List.TakeWhile
import ScriptDialog.Text.Blank

/-! Trimming: what stands between blanks at both ends is left, and whatever is no blank is kept. -/
namespace ScriptDialog.Blank

variable {p : Char → Bool} {front body back text : List Char} {c : Char}

theorem dropWhile_front (leading : ∀ c ∈ front, p c) (stop : ∀ c ∈ text.head?, p c = false) :
    (front ++ text).dropWhile p = text := by
  rw [List.dropWhile_append_of_pos leading]
  cases text with
  | nil => rfl
  | cons c rest => simp [stop c rfl]

/-- A body that neither begins nor ends with such a character is left of what stands around it. -/
theorem dropWhile_both (leading : ∀ c ∈ front, p c) (trailing : ∀ c ∈ back, p c)
    (first : ∀ c ∈ body.head?, p c = false) (last : ∀ c ∈ body.getLast?, p c = false) :
    (((front ++ (body ++ back)).dropWhile p).reverse.dropWhile p).reverse = body := by
  cases body with
  | nil =>
    have all : ∀ c ∈ front ++ back, p c := List.forall_mem_append.mpr ⟨leading, trailing⟩
    simp [List.dropWhile_eq_nil_iff.mpr all]
  | cons d body =>
    have opened : (front ++ (d :: body ++ back)).dropWhile p = d :: body ++ back :=
      dropWhile_front leading (by simpa using first)
    have closed : (back.reverse ++ (d :: body).reverse).dropWhile p = (d :: body).reverse :=
      dropWhile_front (by simpa using trailing) fun c front =>
        last c (by rwa [List.head?_reverse] at front)
    rw [opened, List.reverse_append, closed, List.reverse_reverse]

theorem mem_dropWhile (member : c ∈ text) (other : p c = false) : c ∈ text.dropWhile p := by
  rw [← List.takeWhile_append_dropWhile (p := p) (l := text)] at member
  rcases List.mem_append.mp member with taken | left
  · have such := List.mem_takeWhile_imp taken
    simp [other] at such
  · exact left

theorem head?_dropWhile {p : Char → Bool} (text : List Char) :
    ∀ c ∈ (text.dropWhile p).head?, p c = false := by
  intro c front
  have stop := List.head?_dropWhile_not p text
  rw [Option.mem_def.mp front] at stop
  simpa using stop

/-- What is left of a text without such characters at both ends. -/
def inner (p : Char → Bool) (text : List Char) : List Char :=
  ((text.dropWhile p).reverse.dropWhile p).reverse

theorem inner_front (p : Char → Bool) (text : List Char) : inner p text <+: text.dropWhile p := by
  rw [← List.reverse_suffix, inner, List.reverse_reverse]
  exact List.dropWhile_suffix p

theorem head?_inner (p : Char → Bool) (text : List Char) :
    ∀ c ∈ (inner p text).head?, p c = false := by
  intro c front
  obtain ⟨rest, whole⟩ := inner_front p text
  apply head?_dropWhile text c
  rw [← whole, Option.mem_def, List.head?_append, Option.mem_def.mp front]
  rfl

theorem getLast?_inner (p : Char → Bool) (text : List Char) :
    ∀ c ∈ (inner p text).getLast?, p c = false := by
  intro c back
  rw [inner, List.getLast?_reverse] at back
  exact head?_dropWhile _ c back

theorem inner_eq_self (first : ∀ c ∈ text.head?, p c = false)
    (last : ∀ c ∈ text.getLast?, p c = false) : inner p text = text := by
  simpa [inner] using @dropWhile_both p [] text [] nofun nofun first last

theorem trim_front (text : List Char) : trim text <+: text.dropWhile isBlank :=
  inner_front isBlank text

/-- The text is the body between blanks of this kind. -/
def Between (p : Char → Bool) (body text : List Char) : Prop :=
  ∃ front back, text = front ++ (body ++ back) ∧ (∀ c ∈ front, p c) ∧ ∀ c ∈ back, p c

theorem Between.imp {q : Char → Bool} (implies : ∀ c, p c → q c) (between : Between p body text) :
    Between q body text := by
  obtain ⟨front, back, whole, leading, trailing⟩ := between
  exact ⟨front, back, whole, fun c member => implies c (leading c member),
    fun c member => implies c (trailing c member)⟩

theorem between_inner (p : Char → Bool) (text : List Char) : Between p (inner p text) text := by
  refine ⟨text.takeWhile p, ((text.dropWhile p).reverse.takeWhile p).reverse, ?_, ?_, ?_⟩
  · rw [inner, ← List.reverse_append, List.takeWhile_append_dropWhile, List.reverse_reverse,
      List.takeWhile_append_dropWhile]
  · exact fun c member => List.mem_takeWhile_imp member
  · exact fun c member => List.mem_takeWhile_imp (List.mem_reverse.mp member)

theorem between_trim (text : List Char) : Between isBlank (trim text) text :=
  between_inner isBlank text

theorem Between.isInfix (between : Between p body text) : body <:+: text := by
  obtain ⟨front, back, rfl, _⟩ := between
  exact ⟨front, back, by simp⟩

theorem trim_infix (text : List Char) : trim text <:+: text :=
  (between_trim text).isInfix

/-- The body is what is left of a text without the blanks at both ends. -/
structure Stripped (body text : List Char) : Prop where
  between : Between isBlank body text
  first : ∀ c ∈ body.head?, isBlank c = false
  last : ∀ c ∈ body.getLast?, isBlank c = false

theorem trim_eq_iff : trim text = body ↔ Stripped body text := by
  constructor
  · rintro rfl
    exact ⟨between_trim text, head?_inner isBlank text, getLast?_inner isBlank text⟩
  · rintro ⟨⟨front, back, rfl, leading, trailing⟩, first, last⟩
    exact dropWhile_both leading trailing first last

theorem trim_between (between : Between isBlank body text)
    (visible : ∀ c ∈ body, isBlank c = false) : trim text = body :=
  trim_eq_iff.mpr ⟨between, fun c front => visible c (List.mem_of_mem_head? front),
    fun c last => visible c (List.mem_of_getLast? last)⟩

theorem trim_visible (visible : ∀ c ∈ text, isBlank c = false) : trim text = text :=
  trim_between ⟨[], [], by simp, by simp, by simp⟩ visible

theorem trimNumber_between (between : Between aroundNumber body text)
    (visible : ∀ c ∈ body, isBlank c = false) : trimNumber text = body := by
  have around (c : Char) (member : c ∈ body) : aroundNumber c = false := by
    simp [aroundNumber, visible c member]
  obtain ⟨front, back, rfl, leading, trailing⟩ := between
  exact dropWhile_both leading trailing (fun c front => around c (List.mem_of_mem_head? front))
    (fun c last => around c (List.mem_of_getLast? last))

theorem mem_trimNumber (member : c ∈ text) (other : aroundNumber c = false) :
    c ∈ trimNumber text := by
  have front := mem_dropWhile member other
  have both := mem_dropWhile (List.mem_reverse.mpr front) other
  exact List.mem_reverse.mpr both

end ScriptDialog.Blank
