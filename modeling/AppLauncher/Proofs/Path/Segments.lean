import AppLauncher.Proofs.Path.Slashes

/-!
# Paths by their segments

A path is known by its segments, and so is everything that is taken from it: whether it ends in a
slash (`endsInSlash_iff`), what its segments mean (`moves`), its parent and its file name. The file
name and the parent depend on the last segment that means something (`ends_of_parent?`,
`Ends.fileName?`).
-/

namespace AppLauncher.Path

/-! ## Cutting and gluing -/

theorem split_append_slash (a b : Bytes) : split (a ++ slash :: b) = split a ++ split b := by
  induction a with
  | nil => rfl
  | cons c rest ih =>
    rw [List.cons_append, split, split]
    by_cases isSlash : c = slash
    · rw [if_pos isSlash, if_pos isSlash, ih, List.cons_append]
    · rw [if_neg isSlash, if_neg isSlash, ih]
      cases segments : split rest with
      | nil => exact absurd segments (split_ne_nil rest)
      | cons s more => rfl

theorem split_of_slashFree {s : Bytes} (slashFree : slash ∉ s) : split s = [s] := by
  induction s with
  | nil => rfl
  | cons c rest ih =>
    have apart : c ≠ slash := fun same => slashFree (by rw [same]; exact List.mem_cons_self)
    have later : slash ∉ rest := fun among => slashFree (List.mem_cons_of_mem c among)
    rw [split, if_neg apart, ih later]

theorem glue_append {first second : List Bytes} (nonempty : first ≠ []) (nonempty' : second ≠ []) :
    glue (first ++ second) = glue first ++ slash :: glue second := by
  induction first with
  | nil => exact absurd rfl nonempty
  | cons s rest ih =>
    cases rest with
    | nil =>
      obtain ⟨t, more, rfl⟩ := List.exists_cons_of_ne_nil nonempty'
      rfl
    | cons t more =>
      calc glue (s :: t :: more ++ second)
          = s ++ slash :: glue (t :: more ++ second) := rfl
        _ = s ++ slash :: (glue (t :: more) ++ slash :: glue second) := by
            rw [ih (List.cons_ne_nil t more)]
        _ = glue (s :: t :: more) ++ slash :: glue second :=
            (List.append_assoc s (slash :: glue (t :: more)) (slash :: glue second)).symm

/-- A byte that is no slash is in a text if it is in one of the segments. -/
theorem mem_glue_iff {c : UInt8} (apart : c ≠ slash) {segments : List Bytes} :
    c ∈ glue segments ↔ ∃ s ∈ segments, c ∈ s := by
  induction segments with
  | nil => simp [glue]
  | cons s rest ih =>
    cases rest with
    | nil => simp [glue]
    | cons t more =>
      have text : glue (s :: t :: more) = s ++ slash :: glue (t :: more) := rfl
      rw [text, List.mem_append, List.mem_cons, ih]
      simp [apart]

/-- Segments without slashes are those of their text. -/
theorem split_glue {segments : List Bytes} (nonempty : segments ≠ [])
    (slashFree : ∀ s ∈ segments, slash ∉ s) : split (glue segments) = segments := by
  induction segments with
  | nil => exact absurd rfl nonempty
  | cons s rest ih =>
    have first := split_of_slashFree (slashFree s List.mem_cons_self)
    cases rest with
    | nil => exact first
    | cons t more =>
      have later := ih (List.cons_ne_nil t more)
        fun u among => slashFree u (List.mem_cons_of_mem s among)
      rw [glue, split_append_slash, first, later, List.singleton_append]
      exact List.cons_ne_nil t more

/-- A path ends in a slash exactly when its last segment is empty and it is not the empty path. -/
theorem endsInSlash_iff {b : Bytes} :
    b.getLast? = some slash ↔ b ≠ [] ∧ (split b).getLast? = some [] := by
  constructor
  · intro ends
    obtain ⟨before, rfl⟩ := List.getLast?_eq_some_iff.1 ends
    refine ⟨by simp, ?_⟩
    rw [split_append_slash]
    exact List.getLast?_concat
  · rintro ⟨nonempty, ends⟩
    obtain ⟨before, segments⟩ := List.getLast?_eq_some_iff.1 ends
    have text := glue_split b
    rw [segments] at text
    cases before with
    | nil => exact absurd text.symm nonempty
    | cons s more =>
      rw [← text, glue_append (List.cons_ne_nil s more) (List.cons_ne_nil [] [])]
      exact List.getLast?_concat

theorem split_head_of_relative {p : Path} (relative : p.isAbsolute = false)
    (nonempty : p.bytes ≠ []) : ∃ first rest, split p.bytes = first :: rest ∧ first ≠ [] := by
  obtain ⟨b, bytes, text⟩ := List.exists_cons_of_ne_nil nonempty
  have apart : b ≠ slash := by
    rintro rfl
    rw [isAbsolute, text] at relative
    cases relative
  rw [text, split, if_neg apart]
  cases segments : split bytes with
  | nil => exact absurd segments (split_ne_nil bytes)
  | cons s more => exact ⟨b :: s, more, rfl, List.cons_ne_nil b s⟩

/-! ## What segments mean -/

theorem isIdle_iff {s : Bytes} : isIdle s = true ↔ Component.ofSegment? s = none := by
  rw [isIdle, Component.ofSegment?]
  by_cases idle : s = [] ∨ s = dot
  · rw [if_pos idle]
    simpa using idle
  · rw [if_neg idle]
    by_cases up : s = dotDot <;> simp_all

/-- The components of a path but for those that say where it starts. -/
def moves (p : Path) : List Component :=
  (split p.bytes).filterMap Component.ofSegment?

theorem ofSegment?_moves {s : Bytes} {c : Component} (means : Component.ofSegment? s = some c) :
    c ≠ .root ∧ c ≠ .here := by
  rw [Component.ofSegment?] at means
  split at means
  · cases means
  · split at means
    · cases means
      simp
    · cases means
      simp

theorem filter_moves (segments : List Bytes) :
    (segments.filterMap Component.ofSegment?).filter (fun c => c ≠ .root ∧ c ≠ .here) =
      segments.filterMap Component.ofSegment? := by
  refine List.filter_eq_self.2 fun c among => ?_
  obtain ⟨s, -, means⟩ := List.mem_filterMap.1 among
  simpa using ofSegment?_moves means

/-- What the start of a path adds to its components is not a move. -/
theorem filter_components (p : Path) :
    p.components.filter (fun c => c ≠ .root ∧ c ≠ .here) = p.moves := by
  rw [components, moves]
  cases segments : split p.bytes with
  | nil => rfl
  | cons first rest =>
    dsimp only
    rw [List.filter_append, filter_moves, List.filterMap_cons]
    by_cases absolute : p.isAbsolute = true
    · obtain ⟨bytes, text⟩ := isAbsolute_iff.1 absolute
      rw [text, split, if_pos rfl] at segments
      obtain ⟨rfl, -⟩ := List.cons.inj segments
      rw [if_pos absolute]
      rfl
    · rw [if_neg absolute]
      by_cases here : first = dot
      · rw [if_pos here, here]
        rfl
      · rw [if_neg here]
        cases means : Component.ofSegment? first with
        | none => rfl
        | some c =>
          have kept := ofSegment?_moves means
          simp [kept]

/-! ## The last component -/

theorem dropIdle_concat (segments : List Bytes) (first : Bytes) :
    dropIdle (segments ++ [first]) = segments.dropWhile isIdle ++ [first] := by
  induction segments with
  | nil => rfl
  | cons s rest ih =>
    obtain ⟨t, more, next⟩ := List.exists_cons_of_ne_nil (List.append_ne_nil_of_right_ne_nil rest
      (List.cons_ne_nil first []))
    rw [List.cons_append, next, dropIdle, ← next, ih, List.dropWhile_cons]
    · by_cases idle : isIdle s = true
      · rw [if_pos idle, if_pos idle]
      · rw [if_neg idle, if_neg idle]
        rfl
    · exact List.cons_ne_nil t more

theorem dropIdle_reverse (first : Bytes) (rest : List Bytes) :
    dropIdle (first :: rest).reverse = (first :: rest.rdropWhile isIdle).reverse := by
  rw [List.reverse_cons, dropIdle_concat, List.reverse_cons, List.rdropWhile, List.reverse_reverse]

/-- The path of some segments without those at the end that mean nothing. The first one stays. -/
def trimmed (first : Bytes) (rest : List Bytes) : Path :=
  ofReversed (first :: rest.rdropWhile isIdle).reverse

/-- A path has a last component of its own: after its first segment and some others comes the last
one that means something, and then some that mean nothing. -/
def Ends (p : Path) (first : Bytes) (before : List Bytes) (last : Bytes) : Prop :=
  isIdle last = false ∧ ∃ idle, split p.bytes = first :: (before ++ last :: idle) ∧
    ∀ s ∈ idle, isIdle s = true

section Ends

variable {p : Path} {first last : Bytes} {before : List Bytes}

theorem rdropWhile_of_last {idle : List Bytes} (means : isIdle last = false)
    (allIdle : ∀ s ∈ idle, isIdle s = true) :
    (before ++ last :: idle).rdropWhile isIdle = before ++ [last] := by
  induction idle using List.reverseRecOn with
  | nil => exact List.rdropWhile_concat_neg isIdle before last (by simp [means])
  | append_singleton idle s ih =>
    have isLast : isIdle s = true := allIdle s (by simp)
    have others : ∀ t ∈ idle, isIdle t = true := fun t among => allIdle t (by simp [among])
    have shape : before ++ last :: (idle ++ [s]) = before ++ last :: idle ++ [s] := by simp
    rw [shape, List.rdropWhile_concat_pos isIdle _ s isLast]
    exact ih others

/-- The last component and the parent of such a path. -/
theorem Ends.splitLast? (ends : Ends p first before last) :
    p.splitLast? = some (last, trimmed first before) := by
  obtain ⟨means, idle, segments, allIdle⟩ := ends
  have kept : dropIdle (split p.bytes).reverse = last :: (first :: before).reverse := by
    rw [segments, dropIdle_reverse, rdropWhile_of_last means allIdle]
    simp
  obtain ⟨s, more, next⟩ := List.exists_cons_of_ne_nil
    (List.append_ne_nil_of_right_ne_nil before.reverse (List.cons_ne_nil first []))
  rw [Path.splitLast?, kept, trimmed, ← dropIdle_reverse, List.reverse_cons, next]

/-- A path is such a path, or after its first segment none means anything. -/
theorem ends_or_idle (p : Path) :
    (∃ first before last, Ends p first before last) ∨
      ∃ first rest, split p.bytes = first :: rest ∧ rest.rdropWhile isIdle = [] := by
  obtain ⟨first, rest, segments⟩ := List.exists_cons_of_ne_nil (split_ne_nil p.bytes)
  rcases List.eq_nil_or_concat (rest.rdropWhile isIdle) with nothing | ⟨before, last, kept⟩
  · exact .inr ⟨first, rest, segments, nothing⟩
  · have means : isIdle last = false := by
      have nonempty : rest.rdropWhile isIdle ≠ [] := by simp [kept]
      have notIdle := List.rdropWhile_last_not isIdle rest nonempty
      simpa [kept] using notIdle
    have cut : rest.rdropWhile isIdle ++ rest.rtakeWhile isIdle = rest :=
      List.rdropWhile_append_rtakeWhile
    have shape : rest = before ++ last :: rest.rtakeWhile isIdle := by
      rw [kept] at cut
      simpa using cut.symm
    exact .inl ⟨first, before, last, means, rest.rtakeWhile isIdle,
      segments.trans (congrArg (first :: ·) shape), fun s among => List.mem_rtakeWhile_imp among⟩

/-- If nothing is left but the first segment, there is no parent, or an empty one. -/
theorem parent?_of_idle {rest : List Bytes} (segments : split p.bytes = first :: rest)
    (nothing : rest.rdropWhile isIdle = []) {parent : Path} (has : p.parent? = some parent) :
    parent.bytes = [] := by
  have alone : dropIdle (split p.bytes).reverse = [first] := by
    rw [segments, dropIdle_reverse, nothing]
    rfl
  rw [parent?, splitLast?, alone] at has
  dsimp only at has
  split at has
  · cases has
  · obtain rfl := Option.some.inj has
    rfl

theorem Ends.parent? (ends : Ends p first before last) :
    p.parent? = some (trimmed first before) := by
  rw [Path.parent?, ends.splitLast?]
  rfl

/-- A path with a parent that is not empty is such a path. -/
theorem ends_of_parent? {parent : Path} (has : p.parent? = some parent)
    (nonempty : parent.bytes ≠ []) :
    ∃ first before last, Ends p first before last ∧ parent = trimmed first before := by
  rcases ends_or_idle p with ⟨first, before, last, ends⟩ | ⟨first, rest, segments, nothing⟩
  · exact ⟨first, before, last, ends, Option.some.inj (has.symm.trans ends.parent?)⟩
  · exact absurd (parent?_of_idle segments nothing has) nonempty

/-- The file name is the last segment that means something, if it is an ordinary name. -/
theorem Ends.fileName? (ends : Ends p first before last) :
    p.fileName? = match Component.ofSegment? last with
      | some (.name s) => some s
      | _ => none := by
  obtain ⟨means, idle, segments, allIdle⟩ := ends
  cases meaning : Component.ofSegment? last with
  | none =>
    rw [isIdle_iff.2 meaning] at means
    cases means
  | some c =>
    have nothing : idle.filterMap Component.ofSegment? = [] := by
      refine List.filterMap_eq_nil_iff.2 fun s among => ?_
      exact isIdle_iff.1 (allIdle s among)
    have lastComponent : p.components.getLast? = some c := by
      rw [components, segments]
      dsimp only
      rw [List.filterMap_append, List.filterMap_cons, meaning, nothing, ← List.append_assoc]
      exact List.getLast?_concat
    cases c <;> simp only [Path.fileName?, lastComponent]

theorem ofReversed_of_several {segments : List Bytes} (several : 2 ≤ segments.length) :
    ofReversed segments = ⟨glue segments.reverse⟩ := by
  match segments, several with
  | [] :: _ :: _, _ => rfl
  | (_ :: _) :: _ :: _, _ => rfl

/-- Trimmed segments are those of the trimmed path, unless it is the root. -/
theorem trimmed_cases (slashFree : ∀ s ∈ first :: before, slash ∉ s) :
    (first = [] ∧ before.rdropWhile isIdle = [] ∧ trimmed first before = ⟨[slash]⟩) ∨
      ((first = [] → before.rdropWhile isIdle ≠ []) ∧
        split (trimmed first before).bytes = first :: before.rdropWhile isIdle) := by
  -- Nothing but the root is written with more than its segments.
  by_cases root : first = [] ∧ before.rdropWhile isIdle = []
  · obtain ⟨rfl, nothing⟩ := root
    refine .inl ⟨rfl, nothing, ?_⟩
    rw [trimmed, nothing]
    rfl
  · refine .inr ⟨fun isEmpty nothing => root ⟨isEmpty, nothing⟩, ?_⟩
    have text : (trimmed first before).bytes = glue (first :: before.rdropWhile isIdle) := by
      cases kept : before.rdropWhile isIdle with
      | nil =>
        obtain ⟨b, bytes, rfl⟩ := List.exists_cons_of_ne_nil fun isEmpty => root ⟨isEmpty, kept⟩
        rw [trimmed, kept]
        rfl
      | cons s more =>
        have several : 2 ≤ (first :: s :: more).reverse.length := by simp
        rw [trimmed, kept, ofReversed_of_several several, List.reverse_reverse]
    rw [text]
    refine split_glue (List.cons_ne_nil _ _) fun s among => slashFree s ?_
    rcases List.mem_cons.1 among with rfl | later
    · exact List.mem_cons_self
    · exact List.mem_cons_of_mem _ ((List.rdropWhile_prefix isIdle before).subset later)

theorem filterMap_rdropWhile (segments : List Bytes) :
    (segments.rdropWhile isIdle).filterMap Component.ofSegment? =
      segments.filterMap Component.ofSegment? := by
  induction segments using List.reverseRecOn with
  | nil => rfl
  | append_singleton segments s ih =>
    by_cases idle : isIdle s = true
    · rw [List.rdropWhile_concat_pos isIdle segments s idle, ih, List.filterMap_append,
        List.filterMap_cons, isIdle_iff.1 idle]
      simp
    · rw [List.rdropWhile_concat_neg isIdle segments s idle]

theorem moves_trimmed (slashFree : ∀ s ∈ first :: before, slash ∉ s) :
    (trimmed first before).moves = (first :: before).filterMap Component.ofSegment? := by
  rcases trimmed_cases slashFree with ⟨rfl, nothing, root⟩ | ⟨-, segments⟩
  · have none := filterMap_rdropWhile before
    rw [nothing] at none
    rw [root, List.filterMap_cons, ← none]
    rfl
  · rw [moves, segments, List.filterMap_cons, List.filterMap_cons, filterMap_rdropWhile]

/-- No such path ends in a slash but the root. -/
theorem endsInSlash_trimmed (slashFree : ∀ s ∈ first :: before, slash ∉ s)
    (ends : (trimmed first before).bytes.getLast? = some slash) :
    trimmed first before = ⟨[slash]⟩ := by
  rcases trimmed_cases slashFree with ⟨-, -, root⟩ | ⟨notRoot, segments⟩
  · exact root
  · exfalso
    have last := (endsInSlash_iff.1 ends).2
    rw [segments] at last
    rcases List.eq_nil_or_concat (before.rdropWhile isIdle) with nothing | ⟨kept, s, shape⟩
    · rw [nothing] at last
      exact notRoot (Option.some.inj last) nothing
    · have notIdle := List.rdropWhile_last_not isIdle before (by simp [shape])
      rw [shape, List.concat_eq_append, ← List.cons_append, List.getLast?_concat] at last
      obtain rfl := Option.some.inj last
      simp [shape, isIdle] at notIdle

end Ends

/-! ## Names -/

/-- A segment that is a name, and no `.` or `..`. -/
structure IsOrdinary (s : Bytes) : Prop where
  filled : s ≠ []
  notDot : s ≠ dot
  notDotDot : s ≠ dotDot
  slashFree : slash ∉ s

namespace IsOrdinary

variable {s : Bytes}

theorem means (ordinary : IsOrdinary s) : Component.ofSegment? s = some (.name s) := by
  have notIdle : ¬ (s = [] ∨ s = dot) := not_or.2 ⟨ordinary.filled, ordinary.notDot⟩
  rw [Component.ofSegment?, if_neg notIdle, if_neg ordinary.notDotDot]

theorem relative (ordinary : IsOrdinary s) : Path.isAbsolute ⟨s⟩ = false := by
  refine Bool.eq_false_iff.2 fun absolute => ?_
  obtain ⟨rest, text⟩ := isAbsolute_iff.1 absolute
  exact ordinary.slashFree (by rw [show s = _ from text]; exact List.mem_cons_self)

end IsOrdinary

end AppLauncher.Path
