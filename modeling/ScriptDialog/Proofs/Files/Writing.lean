import ScriptDialog.Files.Basic
import ScriptDialog.Proofs.Lookup
import ScriptDialog.Proofs.Success
import ScriptDialog.Proofs.Text.Utf8

/-! Writing a file, and making the directories above it. What was written is read back, whether
writing succeeds does not depend on the bytes, and of several writes the last one alone counts. -/
namespace ScriptDialog.Files

variable {f f' : Files} {l l' here : Location} {n : FileNode} {names : List String} {p : Path}
  {bytes bytes' : List UInt8}

theorem node?_put_self (below : l ≠ []) : (f.put l n).node? l = some n := by
  rw [node?, if_neg below]
  exact (Lookup.lookup_cons l l n _).trans (if_pos rfl)

theorem node?_put_other (other : l' ≠ l) : (f.put l n).node? l' = f.node? l' := by
  unfold node?
  split
  · rfl
  · have kept := (Lookup.lookup_cons l' l n (f.nodes.filter (·.1 != l))).trans (if_neg other)
    exact kept.trans (Lookup.lookup_filter other _)

theorem put_put (f : Files) (l : Location) (n n' : FileNode) :
    (f.put l n).put l n' = f.put l n' := by
  simp [put, List.filter_filter]

/-- What is no directory is on no way: it can be replaced without making another path lead
elsewhere. -/
theorem follow_put (noDirectory : f.node? l ≠ some .directory)
    (found : f.follow here names = .ok l') : (f.put l n).follow here names = .ok l' := by
  induction names generalizing here with
  | nil => exact found
  | cons name names ih =>
    unfold follow at found ⊢
    split
    · next long =>
      rw [if_pos long] at found
      cases found
    · next short =>
      rw [if_neg short] at found
      dsimp only at found ⊢
      split
      · next last =>
        rw [if_pos last] at found
        exact found
      · next more =>
        rw [if_neg more] at found
        split at found
        · next directory =>
          have other : (if name = ".." then here.dropLast else here ++ [name]) ≠ l := by
            intro same
            exact noDirectory (same ▸ directory)
          rw [node?_put_other other, directory]
          exact ih found
        · cases found
        · cases found

theorem locate_put (noDirectory : f.node? l ≠ some .directory) (found : f.locate p = .ok l') :
    (f.put l n).locate p = .ok l' := by
  unfold locate at found ⊢
  split
  · next null =>
    rw [if_pos null] at found
    cases found
  · next clean =>
    rw [if_neg clean] at found
    split
    · next long =>
      rw [if_pos long] at found
      cases found
    · next short =>
      rw [if_neg short] at found
      exact follow_put noDirectory found

/-- Behind a write stands the place where the path leads, which is no directory. -/
theorem place_of_write (written : f.write p bytes = .ok f') :
    ∃ l, f.locate p = .ok l ∧ f.node? l ≠ some .directory ∧ f' = f.put l (.file bytes) := by
  obtain ⟨l, place, written⟩ := Success.of_bind written
  refine ⟨l, place, ?_⟩
  split at written
  · cases written
  · next noDirectory =>
    cases written
    exact ⟨noDirectory, rfl⟩

theorem write_of_place (place : f.locate p = .ok l) (noDirectory : f.node? l ≠ some .directory)
    (bytes : List UInt8) : f.write p bytes = .ok (f.put l (.file bytes)) := by
  unfold write
  rw [place]
  cases node : f.node? l with
  | none => simp [bind, Except.bind, node, pure, Except.pure]
  | some n =>
    cases n with
    | directory => exact absurd node noDirectory
    | file old => simp [bind, Except.bind, node, pure, Except.pure]

theorem ne_root (noDirectory : f.node? l ≠ some .directory) : l ≠ [] := by
  rintro rfl
  exact noDirectory rfl

theorem read_of_write (written : f.write p bytes = .ok f') : f'.read p = .ok bytes := by
  obtain ⟨l, place, noDirectory, rfl⟩ := place_of_write written
  have node := node?_put_self (f := f) (n := .file bytes) (ne_root noDirectory)
  rw [read, locate_put noDirectory place]
  simp [bind, Except.bind, node, pure, Except.pure]

theorem write_again (written : f.write p bytes = .ok f') (bytes' : List UInt8) :
    f'.write p bytes' = f.write p bytes' := by
  obtain ⟨l, place, noDirectory, rfl⟩ := place_of_write written
  have node := node?_put_self (f := f) (n := .file bytes) (ne_root noDirectory)
  have noDirectory' : (f.put l (.file bytes)).node? l ≠ some .directory := by
    rw [node]
    simp
  rw [write_of_place (locate_put noDirectory place) noDirectory', put_put,
    write_of_place place noDirectory]

theorem isDirectory_iff :
    f.isDirectory p ↔ ∃ l, f.locate p = .ok l ∧ f.node? l = some .directory := by
  unfold isDirectory
  cases f.locate p with
  | error fault => simp
  | ok l =>
    cases node : f.node? l with
    | none => simp [node]
    | some n => cases n <;> simp [node]

theorem isDirectory_put (noDirectory : f.node? l ≠ some .directory) (present : f.isDirectory p) :
    (f.put l n).isDirectory p := by
  obtain ⟨l', place, directory⟩ := isDirectory_iff.mp present
  have other : l' ≠ l := by
    rintro rfl
    exact noDirectory directory
  exact isDirectory_iff.mpr
    ⟨l', locate_put noDirectory place, (node?_put_other other).trans directory⟩

theorem isDirectory_of_makeDirectory (made : f.makeDirectory p = .ok f') : f'.isDirectory p := by
  obtain ⟨l, place, made⟩ := Success.of_bind made
  split at made
  · cases made
  · next empty =>
    cases made
    have noDirectory : f.node? l ≠ some .directory := by simp [empty]
    exact isDirectory_iff.mpr
      ⟨l, locate_put noDirectory place, node?_put_self (ne_root noDirectory)⟩

theorem isDirectory_of_orPresent {fault : FileFault} (fine : (orPresent f p fault).fault = none) :
    (orPresent f p fault).files.isDirectory p := by
  unfold orPresent at fine ⊢
  dsimp only at fine ⊢
  split at fine
  · next present => exact (Bool.and_eq_true_iff.mp present).2
  · cases fine

/-- In the end the directory itself was made, or was found to be there. -/
theorem last_of_makeDirectories {depth : Nat} (fine : (f.makeDirectories depth p).fault = none) :
    ∃ g : Files, g.makeDirectory p = .ok (f.makeDirectories depth p).files ∨
      ∃ fault, f.makeDirectories depth p = g.orPresent p fault := by
  cases made : f.makeDirectory p with
  | ok f' =>
    refine ⟨f, .inl (made.trans ?_)⟩
    cases depth <;> simp [makeDirectories, made]
  | error fault =>
    cases depth with
    | zero => exact ⟨f, .inr ⟨fault, by simp [makeDirectories, made]⟩⟩
    | succ depth =>
      by_cases missing : fault = .missing
      · subst missing
        cases above : (f.makeDirectories depth p.parent).fault with
        | some fault => simp [makeDirectories, made, above] at fine
        | none =>
          refine ⟨(f.makeDirectories depth p.parent).files, ?_⟩
          cases last : (f.makeDirectories depth p.parent).files.makeDirectory p with
          | ok f' => exact .inl (by simp [makeDirectories, made, above, last])
          | error fault => exact .inr ⟨fault, by simp [makeDirectories, made, above, last]⟩
      · exact ⟨f, .inr ⟨fault, by cases fault <;> simp_all [makeDirectories]⟩⟩

/-- The directory is there once it was made, whether it was new or not. -/
theorem isDirectory_of_makePath (fine : (f.makePath p).fault = none) :
    (f.makePath p).files.isDirectory p := by
  unfold makePath at fine ⊢
  obtain ⟨g, made | ⟨fault, found⟩⟩ := last_of_makeDirectories fine
  · exact isDirectory_of_makeDirectory made
  · rw [found] at fine ⊢
    exact isDirectory_of_orPresent fine

/-- A directory that is there is not made again. -/
theorem makePath_of_isDirectory (present : f.isDirectory p) : f.makePath p = ⟨f, none⟩ := by
  obtain ⟨l, place, directory⟩ := isDirectory_iff.mp present
  have made : f.makeDirectory p = .error .exists := by
    rw [makeDirectory, place]
    simp [bind, Except.bind, directory, throw, throwThe, MonadExceptOf.throw]
  have found : f.orPresent p .exists = ⟨f, none⟩ := by
    rw [orPresent, present]
    rfl
  unfold makePath
  cases p.parts.length <;> simp [makeDirectories, made, found]

/-- A file that was written: its directory had been made, and the write itself had no fault. -/
theorem writeUnder_fine (fine : (f.writeUnder p bytes).fault = none) :
    ∃ made, f.makePath p.parent = ⟨made, none⟩ ∧
      made.write p bytes = .ok (f.writeUnder p bytes).files := by
  unfold writeUnder at fine ⊢
  cases parent : f.makePath p.parent with
  | mk made fault =>
    rw [parent] at fine
    cases fault with
    | some fault => cases fine
    | none =>
      refine ⟨made, rfl, ?_⟩
      cases written : made.write p bytes with
      | error fault => simp [written] at fine
      | ok f' => simp [written]

theorem writeUnder_of_write {made : Files} (parent : f.makePath p.parent = ⟨made, none⟩)
    (written : made.write p bytes = .ok f') : f.writeUnder p bytes = ⟨f', none⟩ := by
  unfold writeUnder
  simp [parent, written]

theorem read_writeUnder (fine : (f.writeUnder p bytes).fault = none) :
    (f.writeUnder p bytes).files.read p = .ok bytes := by
  obtain ⟨made, _, written⟩ := writeUnder_fine fine
  exact read_of_write written

/-- Other bytes can be written wherever some can. -/
theorem writeUnder_any (fine : (f.writeUnder p bytes).fault = none) (bytes' : List UInt8) :
    (f.writeUnder p bytes').fault = none := by
  obtain ⟨made, parent, written⟩ := writeUnder_fine fine
  obtain ⟨l, place, noDirectory, _⟩ := place_of_write written
  rw [writeUnder_of_write parent (write_of_place place noDirectory bytes')]

/-- After a write, another one leaves what it would have left alone. -/
theorem writeUnder_again (fine : (f.writeUnder p bytes).fault = none) (bytes' : List UInt8) :
    (f.writeUnder p bytes).files.writeUnder p bytes' = f.writeUnder p bytes' := by
  obtain ⟨made, parent, written⟩ := writeUnder_fine fine
  obtain ⟨made', parent', written'⟩ := writeUnder_fine (writeUnder_any fine bytes')
  cases parent.symm.trans parent'
  have present : made.isDirectory p.parent := by
    have there := isDirectory_of_makePath (f := f) (p := p.parent) (by rw [parent])
    rwa [parent] at there
  obtain ⟨l, place, noDirectory, same⟩ := place_of_write written
  have present' : (f.writeUnder p bytes).files.isDirectory p.parent :=
    same ▸ isDirectory_put noDirectory present
  have again := (write_again written bytes').trans written'
  rw [writeUnder_of_write (makePath_of_isDirectory present') again,
    writeUnder_of_write parent written']

/-- Line ends are left alone where no carriage return is. -/
theorem oneLineEnd_of_plain {text : List Char} (plain : '\r' ∉ text) : oneLineEnd text = text := by
  induction text with
  | nil => rfl
  | cons c text ih =>
    obtain ⟨here, later⟩ := List.ne_and_not_mem_of_not_mem_cons plain
    rw [oneLineEnd, ih later]
    · rintro rest rfl
      exact absurd rfl here
    · rintro rfl
      exact absurd rfl here

/-- A text that was written is whole. -/
theorem exists_whole_of_writeText {text : Text} (fine : (f.writeText p text).fault = none) :
    ∃ s : String, text = s ∧ (f.writeUnder p (Utf8.encode s.toList)).fault = none := by
  cases text with
  | whole s => exact ⟨s, rfl, fine⟩
  | torn t => cases (Option.or_eq_none_iff.mp fine).2

theorem writeText_again {text : Text} (fine : (f.writeText p text).fault = none) (text' : Text) :
    (f.writeText p text).files.writeText p text' = f.writeText p text' := by
  obtain ⟨s, rfl, fine⟩ := exists_whole_of_writeText fine
  cases text' with
  | whole s' => exact writeUnder_again fine _
  | torn t => simp only [writeText, writeUnder_again fine []]

theorem readText_writeUnder {text : List Char}
    (fine : (f.writeUnder p (Utf8.encode text)).fault = none) (plain : '\r' ∉ text) :
    (f.writeUnder p (Utf8.encode text)).files.readText p = .ok text := by
  rw [readText, read_writeUnder fine]
  simp [bind, Except.bind, Utf8.decode?_encode, oneLineEnd_of_plain plain, pure, Except.pure]

end ScriptDialog.Files
