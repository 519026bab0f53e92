import AppLauncher.Proofs.Path.Entries

/-!
# A program's path by its components

Names and directories are taken from a path as it was written, from its end backwards. They depend
on nothing but the components of the path all the same: a launcher is called by the stem of the last
one (`nameOf_of_name`), and its directory has all the others (`components_derive`). So slashes and
points that mean nothing may be put in anywhere between components or at the end (`Padded`).

**`name_and_directory_of_program`**: what the name and the directory of every program are.
-/

namespace AppLauncher

namespace Path

/-! ## Stems -/

/-- The stem of a name: all of it if there is no point after its first byte, and otherwise what
stands before the last point. -/
inductive IsStem (name : Bytes) : Bytes → Prop where
  | whole (single : point ∉ name.tail) : IsStem name name
  | cut {stem extension : Bytes} (filled : stem ≠ []) (last : point ∉ extension)
      (parts : name = stem ++ point :: extension) : IsStem name stem

section Stem

variable {name stem : Bytes}

theorem stemOf_of_whole (single : point ∉ name.tail) : stemOf name = name := by
  cases name with
  | nil => rfl
  | cons b rest =>
    have dropped : rest.reverse.dropWhile (· ≠ point) = [] := by
      refine List.dropWhile_eq_nil_iff.2 fun c among => ?_
      have apart : c ≠ point := by
        rintro rfl
        exact single (List.mem_reverse.1 among)
      simpa using apart
    rw [stemOf, List.reverse_cons, List.dropWhile_append, dropped]
    by_cases pointed : b = point <;> simp [pointed]

theorem IsStem.eq (is : IsStem name stem) : stemOf name = stem := by
  cases is with
  | whole single => exact stemOf_of_whole single
  | cut filled last parts => rw [parts, stemOf_append filled last]

theorem isStem_stemOf (name : Bytes) : IsStem name (stemOf name) := by
  by_cases pointed : point ∈ name.tail
  · cases name with
    | nil => cases pointed
    | cons b rest =>
      obtain ⟨extension, before, reversed, last⟩ :=
        List.eq_append_cons_of_mem (List.mem_reverse.2 pointed)
      have parts : b :: rest = (b :: before.reverse) ++ point :: extension.reverse := by
        rw [List.tail_cons, List.reverse_eq_iff] at reversed
        rw [reversed]
        simp
      have is : IsStem (b :: rest) (b :: before.reverse) :=
        .cut (List.cons_ne_nil _ _) (by simpa using last) parts
      rwa [is.eq]
  · have whole := IsStem.whole pointed
    rwa [whole.eq]

theorem isStem_iff : IsStem name stem ↔ stemOf name = stem := by
  constructor
  · exact IsStem.eq
  · rintro rfl
    exact isStem_stemOf name

theorem IsStem.filled (is : IsStem name stem) (filled : name ≠ []) : stem ≠ [] := by
  cases is with
  | whole single => exact filled
  | cut filled last parts => exact filled

end Stem

/-! ## Components -/

/-- What the first segment adds to the components of a path. -/
def firstComponents (isAbsolute : Bool) (first : Bytes) : List Component :=
  if isAbsolute then [.root]
  else if first = dot then [.here]
  else (Component.ofSegment? first).toList

section Components

variable {p q : Path} {first last : Bytes} {before rest : List Bytes}

theorem components_eq (segments : split p.bytes = first :: rest) :
    p.components = firstComponents p.isAbsolute first ++ rest.filterMap Component.ofSegment? := by
  rw [components, segments, firstComponents]
  dsimp only
  split_ifs <;> rfl

theorem components_of_empty (empty : p.bytes = []) : p.components = [] := by
  obtain ⟨bytes⟩ := p
  subst empty
  rfl

/-- A segment that is empty starts an absolute path, unless it is the only one. -/
theorem firstComponents_ne_nil (filled : first = [] → p.isAbsolute = true) :
    firstComponents p.isAbsolute first ≠ [] := by
  rw [firstComponents]
  split_ifs with isAbsolute isDot
  · simp
  · simp
  · have isFilled : first ≠ [] := fun nothing => isAbsolute (filled nothing)
    rw [Component.ofSegment?, if_neg (by simp [isFilled, isDot])]
    split_ifs <;> simp

theorem length_firstComponents (isAbsolute : Bool) (first : Bytes) :
    (firstComponents isAbsolute first).length ≤ 1 := by
  rw [firstComponents]
  split_ifs
  · simp
  · simp
  · cases Component.ofSegment? first <;> simp

theorem filled_of_name {s name : Bytes} (means : Component.ofSegment? s = some (.name name)) :
    name ≠ [] := by
  rw [Component.ofSegment?] at means
  split_ifs at means with isIdle isUp
  · cases means
  · obtain rfl := Component.name.inj (Option.some.inj means)
    exact fun nothing => isIdle (.inl nothing)

theorem name_filled {name : Bytes} (among : .name name ∈ p.components) : name ≠ [] := by
  obtain ⟨first, rest, segments⟩ := List.exists_cons_of_ne_nil (split_ne_nil p.bytes)
  rw [components_eq segments, List.mem_append] at among
  rcases among with among | among
  · rw [firstComponents] at among
    split_ifs at among
    · simp at among
    · simp at among
    · exact filled_of_name (Option.mem_toList.1 among)
  · obtain ⟨s, -, means⟩ := List.mem_filterMap.1 among
    exact filled_of_name means

/-- A path is absolute if its first segment is empty and not the only one. -/
theorem isAbsolute_iff_first (segments : split p.bytes = first :: rest) :
    p.isAbsolute = true ↔ first = [] ∧ rest ≠ [] := by
  rw [isAbsolute_iff_split, segments]
  constructor
  · rintro ⟨others, several, same⟩
    obtain ⟨rfl, rfl⟩ := List.cons.inj same
    exact ⟨rfl, several⟩
  · rintro ⟨rfl, several⟩
    exact ⟨rest, several, rfl⟩

theorem Ends.isAbsolute_iff (ends : Ends p first before last) :
    p.isAbsolute = true ↔ first = [] := by
  obtain ⟨-, idle, segments, -⟩ := ends
  rw [isAbsolute_iff_first segments]
  simp

theorem Ends.components_parent (ends : Ends p first before last) :
    (trimmed first before).components =
      firstComponents p.isAbsolute first ++ before.filterMap Component.ofSegment? := by
  have isAbsolute := ends.isAbsolute_iff
  rcases trimmed_cases ends.slashFree with ⟨rfl, nothing, root⟩ | ⟨-, segments⟩
  · have kept := filterMap_rdropWhile before
    rw [nothing] at kept
    rw [root, isAbsolute.2 rfl, ← kept]
    rfl
  · have same : (trimmed first before).isAbsolute = p.isAbsolute := by
      rw [Bool.eq_iff_iff, isAbsolute, isAbsolute_trimmed_iff ends.slashFree]
    rw [components_eq segments, filterMap_rdropWhile, same]

/-- Before the last component of a path stand those of its parent. -/
theorem Ends.components (ends : Ends p first before last) :
    ∃ c, p.components = (trimmed first before).components ++ [c] := by
  rw [ends.components_parent]
  obtain ⟨means, idle, segments, allIdle⟩ := ends
  have nothing : idle.filterMap Component.ofSegment? = [] :=
    List.filterMap_eq_nil_iff.2 fun s among => isIdle_iff.1 (allIdle s among)
  cases meaning : Component.ofSegment? last with
  | none =>
    rw [isIdle_iff.2 meaning] at means
    cases means
  | some c =>
    refine ⟨c, ?_⟩
    rw [components_eq segments, List.filterMap_append, List.filterMap_cons, meaning, nothing,
      List.append_assoc]

theorem Ends.dropLast_components (ends : Ends p first before last) :
    p.components.dropLast = (trimmed first before).components := by
  obtain ⟨c, components⟩ := ends.components
  rw [components, List.dropLast_concat]

theorem Ends.parent_ne_nil (ends : Ends p first before last) :
    (trimmed first before).components ≠ [] := by
  rw [ends.components_parent]
  exact List.append_ne_nil_of_left_ne_nil (firstComponents_ne_nil ends.isAbsolute_iff.2) _

theorem Ends.prefix_parent (ends : Ends p first before last) :
    (trimmed first before).bytes <+: p.bytes := by
  rcases trimmed_cases ends.slashFree with ⟨isEmpty, -, root⟩ | ⟨-, segments⟩
  · obtain ⟨rest, bytes⟩ := Path.isAbsolute_iff.1 (ends.isAbsolute_iff.2 isEmpty)
    rw [root, bytes]
    exact ⟨rest, rfl⟩
  · obtain ⟨-, idle, cut, -⟩ := ends
    have kept : before.rdropWhile isIdle ++ before.rtakeWhile isIdle = before :=
      List.rdropWhile_append_rtakeWhile
    have shape : split p.bytes = (first :: before.rdropWhile isIdle) ++
        (before.rtakeWhile isIdle ++ last :: idle) := by
      rw [cut, List.cons_append, ← List.append_assoc, kept]
    rw [← glue_split p.bytes, shape, glue_append (List.cons_ne_nil _ _) (by simp), ← segments,
      glue_split]
    exact List.prefix_append _ _

/-- A path without a parent has one component at most. -/
theorem dropLast_of_idle (segments : split p.bytes = first :: rest)
    (nothing : rest.rdropWhile isIdle = []) : p.components.dropLast = [] := by
  have kept := filterMap_rdropWhile rest
  rw [nothing] at kept
  rw [components_eq segments, ← kept, List.filterMap_nil, List.append_nil,
    ← List.length_eq_zero_iff, List.length_dropLast]
  have atMost := length_firstComponents p.isAbsolute first
  omega

end Components

/-! ## Padding -/

/-- Two paths of which the second has more segments that mean nothing, at one place between
components or at the end. -/
def Padded (p q : Path) : Prop :=
  ∃ (before : Bytes) (idle : List Bytes) (after : Bytes),
    (∀ s ∈ idle, isIdle s = true) ∧ (after = [] ∨ after.head? = some slash) ∧
    p.bytes = before ++ after ∧ q.bytes = before ++ idle.flatMap (slash :: ·) ++ after

section Padding

variable {p q : Path}

theorem slashFree_of_isIdle {s : Bytes} (idle : isIdle s = true) : slash ∉ s := by
  rw [isIdle, Bool.or_eq_true, List.isEmpty_iff, beq_iff_eq] at idle
  rcases idle with rfl | rfl <;> decide

theorem split_padding (before : Bytes) {idle : List Bytes} (isIdle : ∀ s ∈ idle, isIdle s = true) :
    split (before ++ idle.flatMap (slash :: ·)) = split before ++ idle := by
  induction idle generalizing before with
  | nil => simp
  | cons s rest ih =>
    have slashFree := slashFree_of_isIdle (isIdle s List.mem_cons_self)
    have shape : before ++ (s :: rest).flatMap (slash :: ·) =
        (before ++ slash :: s) ++ rest.flatMap (slash :: ·) := by simp
    rw [shape, ih _ fun t among => isIdle t (List.mem_cons_of_mem s among), split_append_slash,
      split_of_slashFree slashFree, List.append_assoc]
    rfl

/-- Padding adds segments after the first one. -/
theorem Padded.segments (padded : Padded p q) :
    ∃ first before idle after, (∀ s ∈ idle, isIdle s = true) ∧
      split p.bytes = first :: (before ++ after) ∧
      split q.bytes = first :: (before ++ idle ++ after) := by
  obtain ⟨before, idle, after, allIdle, place, bytes, bytes'⟩ := padded
  obtain ⟨first, rest, cut⟩ := List.exists_cons_of_ne_nil (split_ne_nil before)
  rcases place with rfl | place
  · refine ⟨first, rest, idle, [], allIdle, ?_, ?_⟩
    · rw [bytes, List.append_nil, cut, List.append_nil]
    · rw [bytes', List.append_nil, split_padding before allIdle, cut, List.append_nil]
      rfl
  · obtain ⟨more, rfl⟩ := List.head?_eq_some_iff.1 place
    refine ⟨first, rest, idle, split more, allIdle, ?_, ?_⟩
    · rw [bytes, split_append_slash, cut]
      rfl
    · rw [bytes', split_append_slash, split_padding before allIdle, cut]
      rfl

/-- Padding changes no components, but for the empty path, which it makes the root. -/
def SameComponents (p q : Path) : Prop :=
  q.components = p.components ∨ p.components = [] ∧ q.components = [.root]

theorem Padded.sameComponents (padded : Padded p q) : SameComponents p q := by
  obtain ⟨first, before, idle, after, allIdle, segments, segments'⟩ := padded.segments
  have nothing : idle.filterMap Component.ofSegment? = [] :=
    List.filterMap_eq_nil_iff.2 fun s among => isIdle_iff.1 (allIdle s among)
  have components := components_eq segments
  have components' := components_eq segments'
  rw [List.filterMap_append, List.filterMap_append, nothing, List.append_nil,
    ← List.filterMap_append] at components'
  by_cases same : q.isAbsolute = p.isAbsolute
  · exact .inl (by rw [components', same, components])
  · -- Only if nothing stands after the first segment can padding make a path absolute.
    have isAbsolute := isAbsolute_iff_first segments
    have isAbsolute' := isAbsolute_iff_first segments'
    have rooted : q.isAbsolute = true ∧ p.isAbsolute = false ∧ first = [] ∧
        before ++ after = [] := by
      cases h : p.isAbsolute <;> cases h' : q.isAbsolute <;> simp_all
    obtain ⟨isRoot, notRoot, rfl, alone⟩ := rooted
    rw [notRoot, alone] at components
    rw [isRoot, alone] at components'
    exact .inr ⟨components, components'⟩

theorem SameComponents.trans {r : Path} (same : SameComponents p q) (same' : SameComponents q r) :
    SameComponents p r := by
  rcases same with same | ⟨empty, root⟩ <;> rcases same' with same' | ⟨empty', root'⟩
  · exact .inl (same'.trans same)
  · exact .inr ⟨same.symm.trans empty', root'⟩
  · exact .inr ⟨empty, same'.trans root⟩
  · simp [root] at empty'

theorem sameComponents_of_padded (padded : Relation.ReflTransGen Padded p q) :
    SameComponents p q := by
  induction padded with
  | refl => exact .inl rfl
  | tail _ last ih => exact ih.trans last.sameComponents

end Padding

end Path

/-! ## The name -/

namespace Invocation

variable {p q : Path}

/-- A launcher is called by the stem of its last component, if this is a name. -/
theorem nameOf_of_name {name : Bytes} (last : p.components.getLast? = some (.name name)) :
    nameOf p = Utf8.toStringLossy (Path.stemOf name) := by
  have filled := (Path.isStem_stemOf name).filled (Path.name_filled (List.mem_of_getLast? last))
  have stem : p.fileStem? = some (Path.stemOf name) := by
    rw [Path.fileStem?, Path.fileName?, last]
    rfl
  rw [nameOf, stem]
  simp [filled]

theorem nameOf_of_none (none : ∀ name, p.components.getLast? ≠ some (.name name)) :
    nameOf p = defaultName := by
  have noName : p.fileName? = Option.none := by
    rw [Path.fileName?]
    split
    · exact absurd (by assumption) (none _)
    · rfl
  rw [nameOf, Path.fileStem?, noName]
  rfl

theorem nameOf_congr (same : q.components = p.components) : nameOf q = nameOf p := by
  rw [nameOf, nameOf, Path.fileStem?, Path.fileStem?, Path.fileName?, Path.fileName?, same]

theorem nameOf_of_sameComponents (same : Path.SameComponents p q) : nameOf q = nameOf p := by
  rcases same with same | ⟨empty, root⟩
  · exact nameOf_congr same
  · rw [nameOf_of_none (by simp [root]), nameOf_of_none (by simp [empty])]

end Invocation

/-! ## The directory -/

namespace InstallDirectory

variable {p q : Path}

/-- A directory that is taken from a path: the path begins with it, and it has all components of the
path but the last. -/
structure IsDirectoryOf (p directory : Path) : Prop where
  begins : directory.bytes <+: p.bytes
  components : directory.components = p.components.dropLast
  rootOnly : directory.bytes.getLast? = some Path.slash → directory = ⟨[Path.slash]⟩

theorem derive_cases (p : Path) :
    (p.components.dropLast = [] ∧ ∀ executable, derive executable p = executable) ∨
      ∃ parent, parent.components ≠ [] ∧ IsDirectoryOf p parent ∧
        ∀ executable, derive executable p = parent := by
  -- A parent is found if a segment after the first one means something.
  rcases Path.ends_or_idle p with ⟨first, before, last, ends⟩ | ⟨first, rest, segments, nothing⟩
  · refine .inr ⟨_, ends.parent_ne_nil, ⟨ends.prefix_parent, ends.dropLast_components.symm,
      Path.endsInSlash_trimmed ends.slashFree⟩, fun executable => ?_⟩
    have filled : (Path.trimmed first before).bytes ≠ [] := by
      intro empty
      exact ends.parent_ne_nil (Path.components_of_empty empty)
    rw [derive, ends.parent?]
    simp [filled]
  · refine .inl ⟨Path.dropLast_of_idle segments nothing, fun executable => ?_⟩
    rw [derive]
    cases has : p.parent? with
    | none => rfl
    | some parent => simp [Path.parent?_of_idle segments nothing has]

/-- The components of the directory depend on nothing but those of the path. -/
theorem components_derive (executable p : Path) :
    (derive executable p).components =
      if p.components.dropLast = [] then executable.components else p.components.dropLast := by
  rcases derive_cases p with ⟨nothing, derives⟩ | ⟨parent, filled, isDirectory, derives⟩
  · rw [if_pos nothing, derives]
  · rw [if_neg (isDirectory.components ▸ filled), derives, isDirectory.components]

end InstallDirectory

open Invocation (nameOf defaultName)
open InstallDirectory (derive IsDirectoryOf)

/-- **The name and the directory of a program.** Let the components of its path be what `/` parts,
without empty segments and without `.`, a leading one apart. If the last one is an ordinary name,
the launcher is called by its stem, and otherwise by the default name. If there are others, they are
those of the install directory, with which the path begins as it was written, and which ends in no
slash unless it is the root; exactly if there are none, the directory of the executable is taken.
So the install directory is never empty, and no slashes or points that mean nothing make a
difference. -/
theorem name_and_directory_of_program (executable program : Path) :
    let components := program.components
    let directory := derive executable program
    (∀ name, components.getLast? = some (.name name) →
      ∃ stem, (∀ other, Path.IsStem name other ↔ other = stem) ∧
        nameOf program = Utf8.toStringLossy stem) ∧
    ((∀ name, components.getLast? ≠ some (.name name)) → nameOf program = defaultName) ∧
    ((∀ other, derive other program = other) ↔ components.dropLast = []) ∧
    (components.dropLast ≠ [] →
      IsDirectoryOf program directory ∧ ∀ other, derive other program = directory) ∧
    (executable.bytes ≠ [] → directory.bytes ≠ []) ∧
    ∀ padded, Relation.ReflTransGen Path.Padded program padded →
      nameOf padded = nameOf program ∧
        (derive executable padded).components = directory.components := by
  intro components directory
  refine ⟨fun name last => ⟨_, fun other => Path.isStem_iff.trans eq_comm,
      Invocation.nameOf_of_name last⟩, Invocation.nameOf_of_none, ?_, ?_, ?_, ?_⟩
  · rcases InstallDirectory.derive_cases program with
      ⟨nothing, derives⟩ | ⟨parent, filled, isDirectory, derives⟩
    · exact iff_of_true derives nothing
    · -- The parent is not what any executable has for a directory, a longer path for one.
      refine iff_of_false (fun same => ?_) (isDirectory.components ▸ filled)
      have longer := (derives ⟨Path.slash :: parent.bytes⟩).symm.trans (same _)
      simpa using congrArg (fun d => d.bytes.length) longer
  · intro others
    rcases InstallDirectory.derive_cases program with
      ⟨nothing, -⟩ | ⟨parent, -, isDirectory, derives⟩
    · exact absurd nothing others
    · have here : directory = parent := derives executable
      exact ⟨here ▸ isDirectory, fun other => (derives other).trans here.symm⟩
  · intro executableFilled
    rcases InstallDirectory.derive_cases program with
      ⟨-, derives⟩ | ⟨parent, filled, -, derives⟩
    · have here : directory = executable := derives executable
      rwa [here]
    · have here : directory = parent := derives executable
      rw [here]
      rintro empty
      exact filled (Path.components_of_empty empty)
  · intro padded isPadded
    have same := Path.sameComponents_of_padded isPadded
    refine ⟨Invocation.nameOf_of_sameComponents same, ?_⟩
    rw [InstallDirectory.components_derive, InstallDirectory.components_derive]
    rcases same with same | ⟨empty, root⟩
    · rw [same]
    · rw [if_pos (by rw [root]; rfl), if_pos (by rw [empty]; rfl)]

end AppLauncher
