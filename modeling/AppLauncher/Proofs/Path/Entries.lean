import AppLauncher.LogSink
import AppLauncher.Proofs.Path.Joined

/-!
# One name after a directory

A path that is made by joining an ordinary name to a directory has the components of the directory
and the name after them, whatever the directory is written like (`entry_join`). Its file name is the
name, and a launcher that is called like it is named by what stands before the last point
(`nameOf_entry`).

The files that belong to a launcher are such paths (`Configuration.entry_file`,
`LogSink.entry_pathFor`).
-/

namespace AppLauncher

namespace Path

/-- A path is that of a directory, as it was written, with one ordinary name after it. -/
structure Entry (directory : Path) (s : Bytes) (path : Path) : Prop where
  ordinary : IsOrdinary s
  inside : directory.bytes <+: path.bytes
  components : path.components = directory.components ++ [.name s]

theorem base_of_bytes {p : Path} (filled : p.bytes ≠ []) :
    ∃ before, p.base = before ++ [slash] ∧
      (split p.bytes = split before ∨ split p.bytes = split before ++ [[]]) := by
  unfold base
  by_cases ends : p.bytes.getLast? = some slash
  · obtain ⟨before, bytes⟩ := List.getLast?_eq_some_iff.1 ends
    refine ⟨before, by rw [if_pos (.inr ends), bytes], .inr ?_⟩
    rw [bytes, split_append_slash]
    rfl
  · exact ⟨p.bytes, by rw [if_neg (by simp [filled, ends])], .inl rfl⟩

theorem prefix_base (p : Path) : p.bytes <+: p.base := by
  unfold base
  split
  · exact List.prefix_rfl
  · exact List.prefix_append _ _

/-- What a path is joined to decides whether it is absolute. -/
theorem isAbsolute_join_of_bytes {p q : Path} (filled : p.bytes ≠ [])
    (relative : q.isAbsolute = false) : (p.join q).isAbsolute = p.isAbsolute := by
  obtain ⟨b, rest, bytes⟩ := List.exists_cons_of_ne_nil filled
  obtain ⟨more, text⟩ := prefix_base p
  rw [join_of_relative relative, isAbsolute, isAbsolute, ← text, bytes]
  rfl

/-- A path that is joined to nothing stays as it is. -/
theorem empty_join {q : Path} (relative : q.isAbsolute = false) : (Path.mk []).join q = q := by
  rw [join_of_relative relative]
  rfl

section Join

variable {s : Bytes} {p path : Path}

/-- A name that is joined to a path is one more component. -/
theorem components_join (ordinary : IsOrdinary s) (p : Path) :
    (p.join ⟨s⟩).components = p.components ++ [.name s] := by
  by_cases empty : p.bytes = []
  · obtain ⟨bytes⟩ := p
    subst empty
    have single : Path.components ⟨s⟩ = [.name s] := by
      unfold components
      rw [split_of_slashFree ordinary.slashFree]
      simp [ordinary.relative, ordinary.notDot, ordinary.means]
    rw [empty_join ordinary.relative, single]
    rfl
  · obtain ⟨before, base, segments⟩ := base_of_bytes empty
    obtain ⟨first, rest, cut⟩ := List.exists_cons_of_ne_nil (split_ne_nil before)
    have joined : split (p.join ⟨s⟩).bytes = first :: (rest ++ [s]) := by
      rw [join_of_relative ordinary.relative]
      change split (p.base ++ s) = _
      rw [base, List.append_assoc, List.singleton_append, split_append_slash, cut,
        split_of_slashFree ordinary.slashFree]
      rfl
    have absolute := isAbsolute_join_of_bytes empty ordinary.relative
    have last : [s].filterMap Component.ofSegment? = [.name s] := by
      simp [ordinary.means]
    unfold components
    rw [joined, absolute]
    rcases segments with segments | segments
    · simp [segments, cut, last]
    · have idle : Component.ofSegment? [] = none := rfl
      simp [segments, cut, last, idle]

theorem entry_join (ordinary : IsOrdinary s) (directory : Path) :
    Entry directory s (directory.join ⟨s⟩) := by
  refine ⟨ordinary, ?_, components_join ordinary directory⟩
  rw [join_of_relative ordinary.relative]
  exact (prefix_base directory).trans (List.prefix_append _ _)

theorem Entry.fileName? {directory : Path} (entry : Entry directory s path) :
    path.fileName? = some s := by
  unfold Path.fileName?
  rw [entry.components, List.getLast?_concat]

end Join

/-- What stands before the last point of a name is its stem, unless that is nothing. -/
theorem stemOf_append {stem extension : Bytes} (filled : stem ≠ [])
    (single : point ∉ extension) : stemOf (stem ++ point :: extension) = stem := by
  have dropped : (stem ++ point :: extension).reverse.dropWhile (· ≠ point) =
      point :: stem.reverse := by
    have all : ∀ b ∈ extension.reverse, (decide (b ≠ point)) = true := by
      intro b among
      have apart : b ≠ point := by
        rintro rfl
        exact single (List.mem_reverse.1 among)
      simpa using apart
    rw [List.reverse_append, List.reverse_cons, List.append_assoc,
      List.dropWhile_append_of_pos all]
    simp
  unfold stemOf
  rw [dropped]
  simp [filled]

end Path

/-! ## The files of a launcher -/

section Files

variable {name : String}

theorem Invocation.nameOf_ne_empty (program : Path) : nameOf program ≠ "" := by
  unfold nameOf
  cases program.fileStem? with
  | none => decide
  | some stem =>
    dsimp only
    by_cases nothing : stem = []
    · simp [nothing, defaultName]
    · rw [if_neg (by simpa using nothing)]
      exact Utf8.toStringLossy_ne_empty nothing

/-- A name with something after it is ordinary, if that is long enough. -/
theorem Path.isOrdinary_append {ending : String} (noSlash : '/' ∉ name.toList)
    (slashFree : slash ∉ Utf8.ofString ending) (long : 3 ≤ (Utf8.ofString ending).length) :
    IsOrdinary (Utf8.ofString (name ++ ending)) := by
  have length : 3 ≤ (Utf8.ofString (name ++ ending)).length := by
    rw [Utf8.ofString_append, List.length_append]
    omega
  constructor
  · intro same
    simp [same] at length
  · intro same
    simp [same, dot] at length
  · intro same
    simp [same, dotDot] at length
  · intro among
    rw [Utf8.ofString_append, List.mem_append] at among
    rcases among with among | among
    · exact noSlash (Utf8.mem_of_mem_encode (by decide) among)
    · exact slashFree among

/-- An extension: a point, and at least two bytes after it without another one. -/
structure IsExtension (extension : String) : Prop where
  pointed : (Utf8.ofString extension).head? = some Path.point
  single : Path.point ∉ (Utf8.ofString extension).tail
  slashFree : Path.slash ∉ Utf8.ofString extension
  long : 3 ≤ (Utf8.ofString extension).length

theorem isExtension_ini : IsExtension ".ini" := by
  constructor <;> decide

theorem isExtension_log : IsExtension ".log" := by
  constructor <;> decide

namespace IsExtension

variable {extension : String}

theorem ordinary (is : IsExtension extension) (noSlash : '/' ∉ name.toList) :
    Path.IsOrdinary (Utf8.ofString (name ++ extension)) :=
  Path.isOrdinary_append noSlash is.slashFree is.long

/-- A launcher that is called like the file of another one has the same name. -/
theorem nameOf_entry (is : IsExtension extension) (filled : name ≠ "") {directory path : Path}
    (entry : Path.Entry directory (Utf8.ofString (name ++ extension)) path) :
    Invocation.nameOf path = name := by
  obtain ⟨rest, text⟩ := List.head?_eq_some_iff.1 is.pointed
  have single := is.single
  rw [text, List.tail_cons] at single
  have bytes : Utf8.ofString name ≠ [] := by
    intro nothing
    exact filled (Utf8.ofString_injective nothing)
  have stem : path.fileStem? = some (Utf8.ofString name) := by
    unfold Path.fileStem?
    rw [entry.fileName?, Option.map_some, Utf8.ofString_append, text,
      Path.stemOf_append bytes single]
  unfold Invocation.nameOf
  rw [stem]
  simp [bytes, Utf8.toStringLossy_ofString]

end IsExtension

variable (noSlash : '/' ∉ name.toList)
include noSlash

/-- The file with the command line is an entry of the directory `lib`, seen from the install
directory or from anywhere else. -/
theorem Configuration.entry_path :
    Path.Entry (.ofString "lib") (Utf8.ofString (name ++ ".ini")) (path name) :=
  Path.entry_join (isExtension_ini.ordinary noSlash) _

theorem Configuration.entry_file (directory : Path) :
    Path.Entry (directory.join (.ofString "lib")) (Utf8.ofString (name ++ ".ini"))
      (directory.join (path name)) := by
  have ordinary := isExtension_ini.ordinary noSlash
  have twice : (directory.join (.ofString "lib")).join (.ofString (name ++ ".ini")) =
      directory.join (path name) := Path.join_join rfl ordinary.relative directory
  rw [← twice]
  exact Path.entry_join ordinary _

theorem LogSink.entry_pathFor (profile : Path) :
    Path.Entry profile (Utf8.ofString (name ++ ".log")) (pathFor profile name) :=
  Path.entry_join (isExtension_log.ordinary noSlash) profile

end Files

end AppLauncher
