import AppLauncher.InstallDirectory
import AppLauncher.Invocation
import AppLauncher.LogSink
import AppLauncher.Proofs.Path.Rooted

/-!
# Paths seen from a directory

A relative path means the same as what it makes with the directory that it is seen from. The
segments of the two differ by the names on the way to the directory (`split_joined`), so they have
the same file name (`nameOf_joined`), and their parents are one directory as an absolute path
(`absolute_joined`). The way to a file under a relative profile is joined in one step or in two
(`pathFor_joined`).

To make a path absolute means to write its root, then the names on the way to the directory that it
is seen from, if it is relative, and then its own segments without those that mean nothing
(`absolute_eq_rooted`).
-/

namespace AppLauncher

/-! ## Locations -/

/-- A name that a directory can hold. -/
structure IsName (s : Bytes) : Prop where
  filled : s ≠ []
  notDot : s ≠ Path.dot
  notDotDot : s ≠ Path.dotDot
  slashFree : Path.slash ∉ s
  zeroFree : 0 ∉ s
  short : s.length ≤ FileSystem.maxName

namespace IsName

variable {s : Bytes}

theorem ordinary (name : IsName s) : Path.IsOrdinary s :=
  ⟨name.filled, name.notDot, name.notDotDot, name.slashFree⟩

theorem means (name : IsName s) : Path.Component.ofSegment? s = some (.name s) :=
  name.ordinary.means

theorem leg (name : IsName s) : Path.IsLeg s :=
  ⟨by simpa [Path.isIdle] using And.intro name.filled name.notDot, name.slashFree⟩

end IsName

namespace Path

section Joined

variable {l : Location} {p : Path} {first last : Bytes} {before : List Bytes}

theorem filterMap_names (names : ∀ s ∈ l, IsName s) :
    l.filterMap Component.ofSegment? = l.map .name := by
  rw [← List.filterMap_eq_map]
  exact List.filterMap_congr fun s among => (names s among).means

theorem areLegs_of_names (names : ∀ s ∈ l, IsName s) : ∀ s ∈ l, IsLeg s :=
  fun s among => (names s among).leg

/-- A relative path that is seen from a directory has the names on the way there before its own
segments. -/
theorem split_joined (names : ∀ s ∈ l, IsName s) (relative : p.isAbsolute = false) :
    split (l.path.join p).bytes = [] :: (l ++ split p.bytes) :=
  split_join_rooted (.inl rfl) (areLegs_of_names names) relative

theorem steps_joined (names : ∀ s ∈ l, IsName s) (relative : p.isAbsolute = false)
    (filled : p.bytes ≠ []) : (l.path.join p).steps = l ++ p.steps :=
  steps_join_rooted (.inl rfl) (areLegs_of_names names) relative filled

/-- The path of a location has its names for components. -/
theorem foldl_push_names (names : ∀ s ∈ l, IsName s) :
    (l.map Component.name).foldl push ⟨[slash]⟩ = l.path := by
  have areLegs : ∀ s ∈ [] ++ l, IsLeg s := areLegs_of_names names
  rw [← filterMap_names names]
  exact foldl_push_legs (.inl rfl) areLegs

/-! ## The parent and the name -/

theorem Ends.joined (names : ∀ s ∈ l, IsName s) (relative : p.isAbsolute = false)
    (ends : Ends p first before last) : Ends (l.path.join p) [] (l ++ first :: before) last := by
  obtain ⟨means, idle, segments, allIdle⟩ := ends
  refine ⟨means, idle, ?_, allIdle⟩
  rw [split_joined names relative, segments, List.append_assoc, List.cons_append]

theorem hasDoubleRoot_of_relative (relative : p.isAbsolute = false) : p.hasDoubleRoot = false := by
  refine Bool.eq_false_iff.2 fun double => ?_
  rw [hasDoubleRoot] at double
  split at double
  next a b rest text =>
    simp only [Bool.and_eq_true, beq_iff_eq] at double
    have absolute : p.isAbsolute = true := isAbsolute_iff.2 ⟨_, by rw [text, double.1.1]⟩
    rw [relative] at absolute
    cases absolute
  · cases double

theorem hasDoubleRoot_of_split {s : Bytes} {rest : List Bytes}
    (segments : split p.bytes = [] :: s :: rest) (filled : s ≠ []) : p.hasDoubleRoot = false := by
  refine Bool.eq_false_iff.2 fun double => ?_
  rw [hasDoubleRoot] at double
  split at double
  next a b bytes text =>
    simp only [Bool.and_eq_true, beq_iff_eq] at double
    obtain ⟨⟨rfl, rfl⟩, -⟩ := double
    rw [text, split, if_pos rfl, split, if_pos rfl] at segments
    exact filled (List.cons.inj (List.cons.inj segments).2).1.symm
  · cases double

theorem absolute_of_relative (relative : p.isAbsolute = false)
    (openEnd : p.bytes.getLast? ≠ some slash) (from' : Path) :
    p.absolute from' = p.moves.foldl push from' := by
  rw [absolute, filter_components, hasDoubleRoot_of_relative relative, relative, if_neg openEnd]
  rfl

theorem absolute_of_absolute (isAbsolute : p.isAbsolute = true) (single : p.hasDoubleRoot = false)
    (rootOnly : p.bytes.getLast? = some slash → p = ⟨[slash]⟩) (from' : Path) :
    p.absolute from' = p.moves.foldl push ⟨[slash]⟩ := by
  by_cases ends : p.bytes.getLast? = some slash
  · rw [rootOnly ends]
    rfl
  · rw [absolute, filter_components, single, isAbsolute, if_neg ends]
    rfl

theorem isAbsolute_iff_split :
    p.isAbsolute = true ↔ ∃ rest, rest ≠ [] ∧ split p.bytes = [] :: rest := by
  constructor
  · intro absolute
    obtain ⟨rest, text⟩ := isAbsolute_iff.1 absolute
    exact ⟨split rest, split_ne_nil rest, by rw [text, split, if_pos rfl]⟩
  · rintro ⟨rest, several, segments⟩
    refine Classical.byContradiction fun relative => ?_
    by_cases nonempty : p.bytes = []
    · rw [nonempty] at segments
      exact several (List.cons.inj segments).2.symm
    · obtain ⟨s, more, segments', filled⟩ :=
        split_head_of_relative (Bool.eq_false_iff.2 relative) nonempty
      exact filled (List.cons.inj (segments'.symm.trans segments)).1

theorem Ends.filled (ends : Ends p first before last) (relative : p.isAbsolute = false) :
    first ≠ [] := by
  rintro rfl
  obtain ⟨-, idle, segments, -⟩ := ends
  have absolute : p.isAbsolute = true := isAbsolute_iff_split.2 ⟨_, by simp, segments⟩
  rw [relative] at absolute
  cases absolute

theorem Ends.slashFree (ends : Ends p first before last) : ∀ s ∈ first :: before, slash ∉ s := by
  obtain ⟨-, idle, segments, -⟩ := ends
  intro s among
  refine slash_notMem_of_mem_split (b := p.bytes) ?_
  rw [segments, ← List.cons_append]
  exact List.mem_append_left _ among

theorem isAbsolute_trimmed_iff (slashFree : ∀ s ∈ first :: before, slash ∉ s) :
    (trimmed first before).isAbsolute = true ↔ first = [] := by
  rcases trimmed_cases slashFree with ⟨isRoot, -, root⟩ | ⟨notRoot, segments⟩
  · rw [root]
    exact ⟨fun _ => isRoot, fun _ => rfl⟩
  · rw [isAbsolute_iff_split, segments]
    constructor
    · rintro ⟨rest, -, same⟩
      exact (List.cons.inj same).1
    · intro isRoot
      exact ⟨_, notRoot isRoot, by rw [isRoot]⟩

theorem hasDoubleRoot_trimmed {s : Bytes} (slashFree : ∀ t ∈ [] :: s :: before, slash ∉ t)
    (filled : s ≠ []) : (trimmed [] (s :: before)).hasDoubleRoot = false := by
  rcases trimmed_cases slashFree with ⟨-, -, root⟩ | ⟨notRoot, segments⟩
  · rw [root]
    rfl
  · obtain ⟨t, more, kept⟩ := List.exists_cons_of_ne_nil (notRoot rfl)
    have isPrefix := List.rdropWhile_prefix isIdle (s :: before)
    rw [kept] at isPrefix segments
    obtain rfl := (List.cons_prefix_cons.1 isPrefix).1
    exact hasDoubleRoot_of_split segments filled

/-- The parent of a relative path, seen from a directory, is the parent of the joined path. -/
theorem absolute_trimmed (names : ∀ s ∈ l, IsName s) (relative : first ≠ [])
    (slashFree : ∀ s ∈ first :: before, slash ∉ s) (from' : Path) :
    (trimmed [] (l ++ first :: before)).absolute from' =
      (trimmed first before).absolute l.path := by
  have slashFree' : ∀ s ∈ [] :: (l ++ first :: before), slash ∉ s := by
    intro s among
    rcases List.mem_cons.1 among with rfl | among
    · exact List.not_mem_nil
    · rcases List.mem_append.1 among with among | among
      · exact (names s among).slashFree
      · exact slashFree s among
  have isRelative : (trimmed first before).isAbsolute = false :=
    Bool.eq_false_iff.2 fun absolute => relative ((isAbsolute_trimmed_iff slashFree).1 absolute)
  have openEnd : (trimmed first before).bytes.getLast? ≠ some slash := by
    intro ends
    rw [endsInSlash_trimmed slashFree ends] at isRelative
    cases isRelative
  have single : (trimmed [] (l ++ first :: before)).hasDoubleRoot = false := by
    cases l with
    | nil => exact hasDoubleRoot_trimmed slashFree' relative
    | cons s more =>
      exact hasDoubleRoot_trimmed slashFree' (names s List.mem_cons_self).filled
  rw [absolute_of_relative isRelative openEnd,
    absolute_of_absolute ((isAbsolute_trimmed_iff slashFree').2 rfl) single
      (endsInSlash_trimmed slashFree'),
    moves_trimmed slashFree, moves_trimmed slashFree', List.filterMap_cons,
    List.filterMap_append, filterMap_names names]
  -- The names on the way come first, and lead to the directory.
  change List.foldl push _ (_ ++ _) = _
  rw [List.foldl_append, foldl_push_names names]

/-! ## The text of an absolute path -/

theorem isRoot_of_hasDoubleRoot (p : Path) :
    IsRoot (if p.hasDoubleRoot then [slash, slash] else [slash]) := by
  split
  · exact .inr rfl
  · exact .inl rfl

/-- The legs of an absolute path: the way to the directory that a relative one is seen from comes
before its own. -/
def legsFrom (l : Location) (p : Path) : List Bytes :=
  (if p.isAbsolute then [] else l) ++ p.legs

theorem isLeg_of_mem_legsFrom (names : ∀ s ∈ l, IsName s) (p : Path) :
    ∀ s ∈ p.legsFrom l, IsLeg s := by
  intro s among
  rcases List.mem_append.1 among with among | among
  · split at among
    · cases among
    · exact (names s among).leg
  · exact isLeg_of_mem_legs among

/-- An absolute path is not seen from anywhere. -/
theorem absolute_of_isAbsolute (isAbsolute : p.isAbsolute = true) (from' other : Path) :
    p.absolute from' = p.absolute other := by
  rw [absolute, absolute, if_pos isAbsolute, if_pos isAbsolute]

/-- **The text of an absolute path.** A path that does not end in a slash is made absolute by
writing its root, the way to the directory that it is seen from, and its legs. -/
theorem absolute_eq_rooted (names : ∀ s ∈ l, IsName s)
    (rootOnly : p.bytes.getLast? = some slash → p = ⟨[slash]⟩) :
    p.absolute l.path =
      rooted (if p.hasDoubleRoot then [slash, slash] else [slash]) (p.legsFrom l) := by
  have areLegs := isLeg_of_mem_legsFrom names p
  have pushed := foldl_push_legs (isRoot_of_hasDoubleRoot p) areLegs
  rw [← moves_eq_legs] at pushed
  rw [legsFrom, ← pushed]
  by_cases ends : p.bytes.getLast? = some slash
  · rw [rootOnly ends]
    rfl
  · rw [absolute, filter_components, if_neg ends]
    cases double : p.hasDoubleRoot with
    | true =>
      have absolute : p.isAbsolute = true := by
        by_contra relative
        rw [hasDoubleRoot_of_relative (Bool.eq_false_iff.2 relative)] at double
        cases double
      rw [absolute]
      rfl
    | false =>
      cases p.isAbsolute <;> rfl

end Joined

end Path

/-! ## What a launch takes from its paths -/

section Launch

variable {l : Location} {program profile : Path}

theorem Invocation.nameOf_joined (names : ∀ s ∈ l, IsName s)
    (relative : program.isAbsolute = false) {first last : Bytes} {before : List Bytes}
    (ends : program.Ends first before last) : nameOf (l.path.join program) = nameOf program := by
  have file : (l.path.join program).fileName? = program.fileName? :=
    (ends.joined names relative).fileName?.trans ends.fileName?.symm
  rw [nameOf, nameOf, Path.fileStem?, Path.fileStem?, file]

/-- The directory of an absolute program is absolute. Only a program without a directory part takes
that of the executable. -/
theorem InstallDirectory.isAbsolute_derive_of_bare {executableDirectory : Path}
    (executable : (∀ parent, program.parent? = some parent → parent.bytes = []) →
      executableDirectory.isAbsolute = true)
    (anchored : program.isAbsolute = true ∨
      ∀ parent, program.parent? = some parent → parent.bytes = []) :
    (derive executableDirectory program).isAbsolute = true := by
  rw [derive]
  cases has : program.parent? with
  | none => exact executable (by simp [has])
  | some parent =>
    dsimp only
    by_cases nothing : parent.bytes = []
    · rw [if_pos (by simpa using nothing)]
      exact executable (by simp [has, nothing])
    · rw [if_neg (by simpa using nothing)]
      have absolute := anchored.resolve_right fun bare => nothing (bare parent has)
      obtain ⟨first, before, last, ends, rfl⟩ := Path.ends_of_parent? has nothing
      obtain ⟨rest, -, segments⟩ := Path.isAbsolute_iff_split.1 absolute
      obtain ⟨-, idle, segments', -⟩ := id ends
      exact (Path.isAbsolute_trimmed_iff ends.slashFree).2
        (List.cons.inj (segments'.symm.trans segments)).1

/-- The directory of an absolute program is absolute, and so is that of a program which was found
through the search path. -/
theorem InstallDirectory.isAbsolute_derive {executableDirectory : Path}
    (executable : executableDirectory.isAbsolute = true)
    (anchored : program.isAbsolute = true ∨
      ∀ parent, program.parent? = some parent → parent.bytes = []) :
    (derive executableDirectory program).isAbsolute = true :=
  isAbsolute_derive_of_bare (fun _ => executable) anchored

/-- A relative program is in the same directory as the joined one. -/
theorem InstallDirectory.absolute_joined (names : ∀ s ∈ l, IsName s)
    (relative : program.isAbsolute = false) {first last : Bytes} {before : List Bytes}
    (ends : program.Ends first before last) (executableDirectory : Path) (here : Place) :
    absolute here (derive executableDirectory (l.path.join program)) =
      absolute (.live l) (derive executableDirectory program) := by
  have slashFree := ends.slashFree
  have slashFree' := (ends.joined names relative).slashFree
  have filled := ends.filled relative
  have derived : ∀ {p : Path} {f s : Bytes} {b : List Bytes}, p.Ends f b s →
      (Path.trimmed f b).bytes ≠ [] → derive executableDirectory p = Path.trimmed f b := by
    intro p f s b ends nonempty
    rw [derive, Path.parent?, ends.splitLast?]
    exact if_neg (by simpa using nonempty)
  have isAbsolute := (Path.isAbsolute_trimmed_iff slashFree').2 rfl
  have isRelative := Bool.eq_false_iff.2 fun is =>
    filled ((Path.isAbsolute_trimmed_iff slashFree).1 is)
  have nonempty' : (Path.trimmed [] (l ++ first :: before)).bytes ≠ [] := by
    obtain ⟨rest, text⟩ := Path.isAbsolute_iff.1 isAbsolute
    simp [text]
  have nonempty : (Path.trimmed first before).bytes ≠ [] := by
    intro nothing
    rcases Path.trimmed_cases slashFree with ⟨isRoot, -⟩ | ⟨-, segments⟩
    · exact filled isRoot
    · rw [nothing] at segments
      exact filled (List.cons.inj segments).1.symm
  rw [derived (ends.joined names relative) nonempty', derived ends nonempty, absolute, absolute,
    if_pos isAbsolute, isRelative, Path.absolute_trimmed names filled slashFree]
  rfl

theorem LogSink.relative_file {name : String} (noSlash : '/' ∉ name.toList) :
    (Path.ofString (name ++ ".log")).isAbsolute = false := by
  refine Path.isAbsolute_ofString ?_
  rw [String.toList_append, List.mem_append, not_or]
  exact ⟨noSlash, by decide⟩

theorem LogSink.pathFor_joined (relative : profile.isAbsolute = false) {name : String}
    (noSlash : '/' ∉ name.toList) (p : Path) :
    pathFor (p.join profile) name = p.join (pathFor profile name) :=
  Path.join_join relative (relative_file noSlash) p

end Launch

end AppLauncher
