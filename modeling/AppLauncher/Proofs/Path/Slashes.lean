import AppLauncher.Configuration
import AppLauncher.InstallDirectory
import AppLauncher.Invocation
import AppLauncher.Proofs.Text.Utf8

/-!
# Where paths have slashes

The name of a launcher has no slash (`slash_notMem_nameOf`), because segments have none. So its
files are relative paths: `Configuration.path_eq` gives the one that holds the command line. An
install directory is absolute (`isAbsolute_of_absolute`), and so is every path that is joined to it.
-/

namespace AppLauncher

namespace Path

/-! ## Segments and names -/

theorem slash_notMem_of_mem_split {b s : Bytes} (segment : s ∈ split b) : slash ∉ s := by
  induction b generalizing s with
  | nil =>
    rw [split, List.mem_singleton] at segment
    simp [segment]
  | cons c rest ih =>
    rw [split] at segment
    by_cases isSlash : c = slash
    · rw [if_pos isSlash] at segment
      rcases List.mem_cons.1 segment with rfl | later
      · simp
      · exact ih later
    · rw [if_neg isSlash] at segment
      cases segments : split rest with
      | nil => exact absurd segments (split_ne_nil rest)
      | cons t more =>
        rw [segments] at ih segment
        rcases List.mem_cons.1 segment with rfl | later
        · simp [Ne.symm isSlash, ih List.mem_cons_self]
        · exact ih (List.mem_cons_of_mem t later)

/-- A component that is a name is a segment. -/
theorem mem_split_of_name {p : Path} {s : Bytes} (component : .name s ∈ p.components) :
    s ∈ split p.bytes := by
  have segment : ∀ {t : Bytes}, Component.ofSegment? t = some (.name s) → t = s := by
    intro t means
    rw [Component.ofSegment?] at means
    split at means
    · cases means
    · split at means
      · cases means
      · exact Component.name.inj (Option.some.inj means)
  rw [components] at component
  cases segments : split p.bytes with
  | nil => exact absurd segments (split_ne_nil _)
  | cons first rest =>
    rw [segments] at component
    rcases List.mem_append.1 component with head | later
    · rw [Option.mem_toList] at head
      split at head
      · cases head
      · split at head
        · cases head
        · rw [segment head]
          exact List.mem_cons_self
    · obtain ⟨t, among, means⟩ := List.mem_filterMap.1 later
      rw [← segment means]
      exact List.mem_cons_of_mem first among

theorem mem_of_mem_stemOf {name : Bytes} {b : UInt8} (among : b ∈ stemOf name) : b ∈ name := by
  rw [stemOf] at among
  split at among
  · exact among
  next before dropped =>
    split at among
    · exact among
    · have kept : b ∈ name.reverse.dropWhile (· ≠ point) := by
        rw [dropped]
        exact List.mem_cons_of_mem _ (List.mem_reverse.1 among)
      exact List.mem_reverse.1 ((List.dropWhile_sublist _).subset kept)

theorem slash_notMem_of_fileStem? {p : Path} {stem : Bytes} (has : p.fileStem? = some stem) :
    slash ∉ stem := by
  obtain ⟨name, file, rfl⟩ := Option.map_eq_some_iff.1 has
  intro among
  have inName := mem_of_mem_stemOf among
  rw [fileName?] at file
  split at file
  next s last =>
    obtain rfl := Option.some.inj file
    exact slash_notMem_of_mem_split (mem_split_of_name (List.mem_of_getLast? last)) inName
  · cases file

/-! ## Absolute paths -/

section Absolute

variable {p q : Path}

theorem isAbsolute_iff : p.isAbsolute = true ↔ ∃ rest, p.bytes = slash :: rest := by
  rw [isAbsolute, beq_iff_eq, List.head?_eq_some_iff]

/-- What is joined to an absolute path is absolute. -/
theorem isAbsolute_join (absolute : p.isAbsolute = true) : (p.join q).isAbsolute = true := by
  obtain ⟨rest, bytes⟩ := isAbsolute_iff.1 absolute
  rw [join]
  split
  · assumption
  · split
    · exact isAbsolute_iff.2 ⟨rest ++ q.bytes, by rw [bytes]; rfl⟩
    · exact isAbsolute_iff.2 ⟨rest ++ slash :: q.bytes, by rw [bytes]; rfl⟩

theorem isAbsolute_push (absolute : p.isAbsolute = true) (c : Component) :
    (p.push c).isAbsolute = true := by
  cases c with
  | root => rfl
  | here | up | name s => exact isAbsolute_join absolute

theorem isAbsolute_foldl_push (absolute : p.isAbsolute = true) (components : List Component) :
    (components.foldl push p).isAbsolute = true := by
  induction components generalizing p with
  | nil => exact absolute
  | cons c rest ih => exact ih (isAbsolute_push absolute c)

/-- The absolute form of a path is absolute, if the directory it is seen from is. -/
theorem isAbsolute_absolute {base : Path}
    (absolute : p.isAbsolute = true ∨ base.isAbsolute = true) :
    (p.absolute base).isAbsolute = true := by
  have start : (if p.hasDoubleRoot then ⟨[slash, slash]⟩ else if p.isAbsolute then ⟨[slash]⟩
      else base : Path).isAbsolute = true := by
    split
    · rfl
    · split
      next relative => rfl
      next relative => exact absolute.resolve_left relative
  rw [Path.absolute]
  split
  · exact isAbsolute_join (isAbsolute_foldl_push start _)
  · exact isAbsolute_foldl_push start _

end Absolute

/-- A text without a slash is a relative path. -/
theorem isAbsolute_ofString {s : String} (noSlash : '/' ∉ s.toList) :
    (ofString s).isAbsolute = false := by
  rw [Bool.eq_false_iff]
  intro absolute
  obtain ⟨rest, bytes⟩ := isAbsolute_iff.1 absolute
  have among : slash ∈ Utf8.encode s.toList := by
    change slash ∈ (ofString s).bytes
    rw [bytes]
    exact List.mem_cons_self
  exact noSlash (Utf8.mem_of_mem_encode (by decide) among)

end Path

/-- The name of a launcher has no slash. -/
theorem Invocation.slash_notMem_nameOf (program : Path) : '/' ∉ (nameOf program).toList := by
  rw [nameOf]
  cases stem : program.fileStem? with
  | none => decide
  | some bytes =>
    dsimp only
    split
    · decide
    · intro among
      exact Path.slash_notMem_of_fileStem? stem
        (Utf8.mem_of_mem_toStringLossy (by decide) (by decide) among)

/-- The file of a launcher is in the directory `lib`. -/
theorem Configuration.path_eq {name : String} (noSlash : '/' ∉ name.toList) :
    path name = .ofString ("lib/" ++ name ++ ".ini") := by
  have relative : (Path.ofString (name ++ ".ini")).isAbsolute = false := by
    refine Path.isAbsolute_ofString ?_
    rw [String.toList_append, List.mem_append, not_or]
    exact ⟨noSlash, by decide⟩
  have openEnd : ¬ ((Path.ofString "lib").bytes = [] ∨
      (Path.ofString "lib").bytes.getLast? = some Path.slash) := by decide
  have lib : Utf8.ofString "lib/" = Utf8.ofString "lib" ++ [Path.slash] := by decide
  rw [path, Path.join, relative, if_neg (by decide), if_neg openEnd]
  simp only [Path.ofString, Utf8.ofString_append, lib, List.append_assoc, List.cons_append,
    List.nil_append]

/-- An install directory is absolute. -/
theorem InstallDirectory.isAbsolute_of_absolute {here : Place} {written directory : Path}
    (is : absolute here written = .ok directory) : directory.isAbsolute = true := by
  rw [absolute] at is
  by_cases isAbsolute : written.isAbsolute = true
  · rw [if_pos isAbsolute] at is
    obtain rfl := Except.ok.inj is
    exact Path.isAbsolute_absolute (.inl isAbsolute)
  · rw [if_neg isAbsolute] at is
    cases base : here.path? with
    | none =>
      rw [base] at is
      cases is
    | some p =>
      rw [base] at is
      obtain rfl := Except.ok.inj is
      refine Path.isAbsolute_absolute (.inr ?_)
      rw [Place.path?] at base
      split at base
      · obtain rfl := Option.some.inj base
        rfl
      · cases base

end AppLauncher
