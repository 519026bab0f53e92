import AppLauncher.Proofs.Path.Segments

/-!
# Paths below a root

A `rooted` path is a root with segments after it that go somewhere (`IsLeg`), parted by one slash
each. Nothing can be read into its text but what was put there, and joining and pushing add to its
legs. The path of a location is such a path, and so is every path that was made absolute.
-/

namespace AppLauncher.Path

/-! ## Joining -/

/-- The text that a relative path is put after. -/
def base (p : Path) : Bytes :=
  if p.bytes = [] ∨ p.bytes.getLast? = some slash then p.bytes else p.bytes ++ [slash]

theorem join_of_relative {q : Path} (relative : q.isAbsolute = false) (p : Path) :
    p.join q = ⟨p.base ++ q.bytes⟩ := by
  have notAbsolute : ¬ q.isAbsolute = true := by simp [relative]
  rw [join, if_neg notAbsolute, base]
  by_cases open' : p.bytes = [] ∨ p.bytes.getLast? = some slash
  · rw [if_pos open', if_pos open']
  · rw [if_neg open', if_neg open', List.append_assoc]
    rfl

theorem base_cases (p : Path) : p.base = [] ∨ ∃ before, p.base = before ++ [slash] := by
  rw [base]
  by_cases open' : p.bytes = [] ∨ p.bytes.getLast? = some slash
  · rw [if_pos open']
    exact open'.imp_right List.getLast?_eq_some_iff.1
  · rw [if_neg open']
    exact .inr ⟨p.bytes, rfl⟩

theorem base_concat (before : Bytes) (last : UInt8) :
    base ⟨before ++ [last]⟩ = before ++ if last = slash then [last] else [last, slash] := by
  by_cases isSlash : last = slash <;> simp [base, isSlash]

theorem base_append (p : Path) (b : Bytes) : base ⟨p.base ++ b⟩ = p.base ++ base ⟨b⟩ := by
  rcases List.eq_nil_or_concat b with rfl | ⟨before, last, rfl⟩
  · have closed : p.base = [] ∨ p.base.getLast? = some slash := by
      rcases base_cases p with nothing | ⟨before, ends⟩
      · exact .inl nothing
      · rw [ends]
        exact .inr List.getLast?_concat
    have nothing : base ⟨[]⟩ = [] := rfl
    rw [List.append_nil, base, if_pos closed, nothing, List.append_nil]
  · rw [List.concat_eq_append, ← List.append_assoc, base_concat, base_concat, List.append_assoc]

/-- What is relative to a relative path is relative. -/
theorem join_relative {p q : Path} (relative : p.isAbsolute = false)
    (relative' : q.isAbsolute = false) : (p.join q).isAbsolute = false := by
  rw [join_of_relative relative']
  obtain ⟨bytes⟩ := p
  cases bytes with
  | nil => exact relative'
  | cons b rest =>
    have text : ∃ more, base ⟨b :: rest⟩ = b :: more := by
      rw [base]
      split
      · exact ⟨rest, rfl⟩
      · exact ⟨rest ++ [slash], rfl⟩
    obtain ⟨more, text⟩ := text
    rw [text]
    exact relative

theorem join_join {q r : Path} (relative : q.isAbsolute = false) (relative' : r.isAbsolute = false)
    (p : Path) : (p.join q).join r = p.join (q.join r) := by
  rw [join_of_relative (join_relative relative relative'), join_of_relative relative',
    join_of_relative relative', join_of_relative relative, base_append, List.append_assoc]

/-! ## Segments that go somewhere -/

/-- A segment that goes somewhere: a name, or `..`. -/
structure IsLeg (s : Bytes) : Prop where
  notIdle : isIdle s = false
  slashFree : slash ∉ s

/-- The segments of a path that go somewhere, in their order. -/
def legs (p : Path) : List Bytes :=
  (split p.bytes).filter fun s => !isIdle s

section Legs

variable {s : Bytes} {p : Path}

theorem isLeg_of_mem_legs (among : s ∈ p.legs) : IsLeg s := by
  obtain ⟨segment, means⟩ := List.mem_filter.1 among
  exact ⟨by simpa using means, slash_notMem_of_mem_split segment⟩

theorem IsLeg.filled (leg : IsLeg s) : s ≠ [] := by
  rintro rfl
  cases leg.notIdle

theorem IsLeg.notDot (leg : IsLeg s) : s ≠ dot := by
  rintro rfl
  cases leg.notIdle

theorem IsLeg.relative (leg : IsLeg s) : Path.isAbsolute ⟨s⟩ = false := by
  refine Bool.eq_false_iff.2 fun absolute => ?_
  obtain ⟨rest, text⟩ := isAbsolute_iff.1 absolute
  exact leg.slashFree (by rw [show s = _ from text]; exact List.mem_cons_self)

/-- To push what a leg means is to join the leg. -/
theorem push_of_leg {c : Component} (means : Component.ofSegment? s = some c) (p : Path) :
    p.push c = p.join ⟨s⟩ := by
  rw [Component.ofSegment?] at means
  split at means
  · cases means
  · split at means
    next up =>
      cases means
      rw [up]
      rfl
    · cases means
      rfl

theorem moves_eq_legs (p : Path) : p.moves = p.legs.filterMap Component.ofSegment? := by
  unfold moves legs
  induction split p.bytes with
  | nil => rfl
  | cons s rest ih =>
    by_cases idle : isIdle s = true
    · rw [List.filter_cons_of_neg (by simp [idle]), List.filterMap_cons, isIdle_iff.1 idle]
      exact ih
    · rw [List.filter_cons_of_pos (by simp [idle]), List.filterMap_cons, List.filterMap_cons, ih]

/-- What means nothing has no zero in it. -/
theorem zero_mem_iff_legs (p : Path) : 0 ∈ p.bytes ↔ ∃ s ∈ p.legs, 0 ∈ s := by
  conv_lhs => rw [← glue_split p.bytes, mem_glue_iff (by decide)]
  constructor
  · rintro ⟨s, segment, zero⟩
    refine ⟨s, List.mem_filter.2 ⟨segment, ?_⟩, zero⟩
    have means : ¬ (s = [] ∨ s = dot) := by
      rintro (rfl | rfl)
      · cases zero
      · exact absurd zero (by decide)
    simpa [isIdle] using means
  · rintro ⟨s, among, zero⟩
    exact ⟨s, (List.mem_filter.1 among).1, zero⟩

end Legs

/-! ## Rooted paths -/

/-- The start of an absolute path: one slash, or exactly two. -/
def IsRoot (root : Bytes) : Prop :=
  root = [slash] ∨ root = [slash, slash]

/-- A root with legs after it, one slash between each two. -/
def rooted (root : Bytes) (legs : List Bytes) : Path :=
  ⟨root ++ glue legs⟩

section Rooted

variable {root : Bytes} {legs : List Bytes}

theorem isAbsolute_rooted (isRoot : IsRoot root) : (rooted root legs).isAbsolute = true := by
  rcases isRoot with rfl | rfl <;> rfl

theorem split_rooted (isRoot : IsRoot root) (nonempty : legs ≠ [])
    (areLegs : ∀ s ∈ legs, IsLeg s) :
    split (rooted root legs).bytes = List.replicate root.length [] ++ legs := by
  have segments := split_glue nonempty fun s among => (areLegs s among).slashFree
  rcases isRoot with rfl | rfl
  · exact congrArg ([] :: ·) segments
  · exact congrArg ([] :: [] :: ·) segments

theorem openEnd_rooted (isRoot : IsRoot root) (nonempty : legs ≠ [])
    (areLegs : ∀ s ∈ legs, IsLeg s) : (rooted root legs).bytes.getLast? ≠ some slash := by
  intro ends
  have last := (endsInSlash_iff.1 ends).2
  rw [split_rooted isRoot nonempty areLegs, List.getLast?_append_of_ne_nil _ nonempty,
    List.getLast?_eq_getLast_of_ne_nil nonempty] at last
  exact (areLegs _ (List.getLast_mem nonempty)).filled (Option.some.inj last)

/-- What is joined to a root follows it, and what is joined to legs follows a slash. -/
theorem bytes_join_rooted (isRoot : IsRoot root) (areLegs : ∀ s ∈ legs, IsLeg s) {p : Path}
    (relative : p.isAbsolute = false) :
    ((rooted root legs).join p).bytes =
      root ++ if legs = [] then p.bytes else glue legs ++ slash :: p.bytes := by
  rw [join_of_relative relative]
  by_cases nothing : legs = []
  · subst nothing
    rcases isRoot with rfl | rfl <;> rfl
  · have openEnd := openEnd_rooted isRoot nothing areLegs
    have filled : (rooted root legs).bytes ≠ [] := by
      rcases isRoot with rfl | rfl <;> exact List.cons_ne_nil _ _
    rw [base, if_neg (by simp [filled, openEnd]), if_neg nothing]
    simp [rooted]

theorem join_rooted (isRoot : IsRoot root) (areLegs : ∀ s ∈ legs, IsLeg s) {s : Bytes}
    (leg : IsLeg s) : (rooted root legs).join ⟨s⟩ = rooted root (legs ++ [s]) := by
  have text := bytes_join_rooted isRoot areLegs leg.relative
  by_cases nothing : legs = []
  · rw [if_pos nothing] at text
    rw [nothing] at text ⊢
    exact congrArg Path.mk text
  · have glued : glue (legs ++ [s]) = glue legs ++ slash :: s :=
      glue_append nothing (List.cons_ne_nil s [])
    rw [if_neg nothing, ← glued] at text
    exact congrArg Path.mk text

theorem foldl_push_legs (isRoot : IsRoot root) {before : List Bytes}
    (areLegs : ∀ s ∈ before ++ legs, IsLeg s) :
    (legs.filterMap Component.ofSegment?).foldl push (rooted root before) =
      rooted root (before ++ legs) := by
  induction legs generalizing before with
  | nil => rw [List.append_nil]; rfl
  | cons s rest ih =>
    have leg : IsLeg s := areLegs s (by simp)
    have earlier : ∀ t ∈ before, IsLeg t := fun t among => areLegs t (by simp [among])
    cases means : Component.ofSegment? s with
    | none =>
      have idle := leg.notIdle
      rw [isIdle_iff.2 means] at idle
      cases idle
    | some c =>
      have shape : before ++ s :: rest = before ++ [s] ++ rest := by simp
      rw [List.filterMap_cons, means]
      change List.foldl push ((rooted root before).push c) _ = _
      rw [push_of_leg means, join_rooted isRoot earlier leg, shape]
      exact ih (shape ▸ areLegs)

theorem dot_notMem_rooted (isRoot : IsRoot root) (areLegs : ∀ s ∈ legs, IsLeg s) :
    ∀ s ∈ split (rooted root legs).bytes, s ≠ dot := by
  by_cases nothing : legs = []
  · subst nothing
    rcases isRoot with rfl | rfl <;> decide
  · intro s among
    rw [split_rooted isRoot nothing areLegs] at among
    rcases List.mem_append.1 among with among | among
    · rw [List.eq_of_mem_replicate among]
      decide
    · exact (areLegs s among).notDot

/-- Only a root alone ends in a slash. -/
theorem endsInSlash_rooted (isRoot : IsRoot root) (areLegs : ∀ s ∈ legs, IsLeg s)
    (ends : (rooted root legs).bytes.getLast? = some slash) : (rooted root legs).bytes = root := by
  by_cases nothing : legs = []
  · rw [nothing]
    exact List.append_nil root
  · exact absurd ends (openEnd_rooted isRoot nothing areLegs)

/-- Two slashes follow one another nowhere but at the start. -/
theorem single_rooted (isRoot : IsRoot root) (areLegs : ∀ s ∈ legs, IsLeg s)
    {before after : Bytes} (text : (rooted root legs).bytes = before ++ slash :: slash :: after) :
    before = [] ∧ root = [slash, slash] := by
  have cut : split (rooted root legs).bytes = split before ++ [] :: split after := by
    rw [text, split_append_slash, split, if_pos rfl]
  have glued := glue_split before
  obtain ⟨first, rest, segments⟩ := List.exists_cons_of_ne_nil (split_ne_nil before)
  rw [segments] at cut glued
  by_cases nothing : legs = []
  · subst nothing
    have length := congrArg List.length text
    rcases isRoot with rfl | rfl
    · simp [rooted, glue] at length
      omega
    · refine ⟨?_, rfl⟩
      simp only [rooted, glue, List.append_nil, List.length_cons, List.length_nil,
        List.length_append] at length
      exact List.length_eq_zero_iff.1 (by omega)
  · rw [split_rooted isRoot nothing areLegs] at cut
    -- An empty segment among the legs is what the text cannot have.
    have notAmong : [] ∉ legs := fun among => (areLegs [] among).filled rfl
    rcases isRoot with rfl | rfl
    · obtain ⟨-, later⟩ := List.cons.inj cut
      exact absurd (by rw [show legs = _ from later]; simp) notAmong
    · obtain ⟨rfl, later⟩ := List.cons.inj cut
      cases rest with
      | nil => exact ⟨glued.symm, rfl⟩
      | cons t more =>
        obtain ⟨-, later⟩ := List.cons.inj later
        exact absurd (by rw [show legs = _ from later]; simp) notAmong

theorem hasDoubleRoot_rooted (isRoot : IsRoot root) (areLegs : ∀ s ∈ legs, IsLeg s) :
    (rooted root legs).hasDoubleRoot = decide (root = [slash, slash]) := by
  have head : (glue legs).head? ≠ some slash := by
    cases legs with
    | nil => simp [glue]
    | cons s rest =>
      have leg := areLegs s List.mem_cons_self
      obtain ⟨b, more, rfl⟩ := List.exists_cons_of_ne_nil leg.filled
      have apart : b ≠ slash := by
        rintro rfl
        exact leg.slashFree List.mem_cons_self
      cases rest <;> simpa [glue] using apart
  rcases isRoot with rfl | rfl
  · cases text : glue legs with
    | nil => simp [rooted, hasDoubleRoot, text]
    | cons b rest =>
      have apart : b ≠ slash := by simpa [text] using head
      simp [rooted, hasDoubleRoot, text, apart]
  · simpa [rooted, hasDoubleRoot] using head

/-- A root adds no zero to the legs. -/
theorem zero_mem_rooted_iff (isRoot : IsRoot root) :
    0 ∈ (rooted root legs).bytes ↔ ∃ s ∈ legs, 0 ∈ s := by
  have notInRoot : 0 ∉ root := by
    rcases isRoot with rfl | rfl <;> decide
  rw [rooted, List.mem_append, mem_glue_iff (by decide)]
  exact or_iff_right notInRoot

/-! ## Steps -/

theorem filter_legs (root : Bytes) (areLegs : ∀ s ∈ legs, IsLeg s) :
    (List.replicate root.length [] ++ legs).filter (· ≠ []) = legs := by
  have kept : legs.filter (· ≠ []) = legs := by
    refine List.filter_eq_self.2 fun s among => ?_
    simpa using (areLegs s among).filled
  rw [List.filter_append, kept, List.filter_eq_nil_iff.2 (by simp), List.nil_append]

/-- A root alone asks for a directory, as every path does that ends in a slash. -/
theorem steps_rooted (isRoot : IsRoot root) (areLegs : ∀ s ∈ legs, IsLeg s) :
    (rooted root legs).steps = if legs = [] then [[]] else legs := by
  by_cases nothing : legs = []
  · subst nothing
    rcases isRoot with rfl | rfl <;> rfl
  · rw [steps, split_rooted isRoot nothing areLegs, filter_legs root areLegs,
      if_neg (openEnd_rooted isRoot nothing areLegs), if_neg nothing, List.append_nil]

/-- What is joined to a rooted path has the root and the legs before its own segments. -/
theorem split_join_rooted (isRoot : IsRoot root) (areLegs : ∀ s ∈ legs, IsLeg s) {p : Path}
    (relative : p.isAbsolute = false) :
    split ((rooted root legs).join p).bytes =
      List.replicate root.length [] ++ legs ++ split p.bytes := by
  have text := bytes_join_rooted isRoot areLegs relative
  by_cases nothing : legs = []
  · rw [if_pos nothing] at text
    rw [text, nothing]
    rcases isRoot with rfl | rfl <;> rfl
  · rw [if_neg nothing, ← List.append_assoc] at text
    rw [text, split_append_slash, ← split_rooted isRoot nothing areLegs]
    rfl

theorem steps_join_rooted (isRoot : IsRoot root) (areLegs : ∀ s ∈ legs, IsLeg s) {p : Path}
    (relative : p.isAbsolute = false) (filled : p.bytes ≠ []) :
    ((rooted root legs).join p).steps = legs ++ p.steps := by
  have ends : ((rooted root legs).join p).bytes.getLast? = p.bytes.getLast? := by
    rw [join_of_relative relative]
    exact List.getLast?_append_of_ne_nil _ filled
  rw [steps, steps, split_join_rooted isRoot areLegs relative, ends, List.filter_append,
    filter_legs root areLegs, List.append_assoc]

theorem components_rooted (isRoot : IsRoot root) (areLegs : ∀ s ∈ legs, IsLeg s) :
    (rooted root legs).components = .root :: legs.filterMap Component.ofSegment? := by
  by_cases nothing : legs = []
  · subst nothing
    rcases isRoot with rfl | rfl <;> rfl
  · have segments := split_rooted isRoot nothing areLegs
    unfold components
    rw [segments, isAbsolute_rooted isRoot]
    rcases isRoot with rfl | rfl <;> rfl

end Rooted

end AppLauncher.Path
