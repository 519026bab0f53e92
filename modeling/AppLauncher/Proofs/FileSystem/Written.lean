import AppLauncher.Proofs.FileSystem.Emptied

/-!
# What was written to an open file

A file that was opened empty holds what was written through its handle, one piece after the other,
as long as nobody else does anything to it (`Through.holds`). Other files may change meanwhile: the
way to a file goes through directories and links only, so a path leads to the opened file as long as
these are as they were (`WaysKept`).

**`resolve_kept`**: where a path led to a file, or to the free name of one, it leads to the file
that stands there now, also to read it.
-/

namespace AppLauncher.FileSystem

variable {fs fs' fs₁ fs₂ : FileSystem} {here : Place} {p : Path} {location opened : Location}

/-! ## Ways -/

/-- What may have changed is files and free names; directories and links are as they were. -/
def WaysKept (fs fs' : FileSystem) : Prop :=
  ∀ location, fs.Leaf location ∨ fs'.node? location = fs.node? location

namespace WaysKept

theorem refl (fs : FileSystem) : WaysKept fs fs :=
  fun _ => .inr rfl

theorem trans (first : WaysKept fs fs₁) (later : WaysKept fs₁ fs₂) : WaysKept fs fs₂ := by
  intro location
  rcases first location with leaf | same
  · exact .inl leaf
  · rcases later location with leaf | same'
    · left
      unfold Leaf at leaf ⊢
      rwa [same] at leaf
    · exact .inr (same'.trans same)

theorem of_sameBut (same : SameBut opened fs fs') (leaf : fs.Leaf opened) : WaysKept fs fs' := by
  intro location
  by_cases isOpened : location = opened
  · subst isOpened
    exact .inl leaf
  · exact .inr (same location isOpened)

end WaysKept

/-- Making something differs from using it only in what fails: a path with a slash at its end. -/
theorem walk_use_of_create (place : Place) (steps : List Bytes)
    (passes : ∀ e, fs.walk .create place steps ≠ .failed e) :
    fs.walk .use place steps = fs.walk .create place steps := by
  induction steps generalizing place with
  | nil => rfl
  | cons step rest ih =>
    rw [walk] at passes
    rw [walk, walk]
    by_cases idle : step = [] ∨ step = Path.dot
    · simp only [if_pos idle] at passes ⊢
      exact ih place passes
    by_cases up : step = Path.dotDot
    · simp only [if_neg idle, if_pos up] at passes ⊢
      exact ih place.parent passes
    simp only [if_neg idle, if_neg up] at passes ⊢
    by_cases slash : rest = [[]]
    · simp [slash] at passes
    by_cases lost : place.lost ≠ 0
    · simp [slash, lost] at passes
    by_cases long : maxName < step.length
    · simp [slash, lost, long] at passes
    simp only [slash, lost, long, and_false, if_false, reduceCtorEq] at passes ⊢
    cases found : fs.node? (place.location ++ [step]) with
    | none => rfl
    | some node =>
      cases node with
      | directory =>
        rw [found] at passes
        exact ih _ passes
      | file id contents => rfl
      | link target => rfl

/-- At a file or a free name a walk ends, one way or the other. -/
theorem walkName_of_leaf {place : Place} {step : Bytes}
    (leaf : fs.Leaf (place.location ++ [step])) (purpose : Purpose) (rest : List Bytes) :
    (∃ e, fs.walkName purpose place step rest = .failed e) ∨
      rest = [] ∧ ∃ result, fs.walkName purpose place step rest = .reached result ∧
        ∀ opened, ReachedAt opened result → place.location ++ [step] = opened := by
  unfold walkName
  by_cases last : rest = []
  · right
    rcases leaf with free | ⟨id, contents, file⟩
    · simp [free, last, ReachedAt]
    · simp [file, last, ReachedAt]
  · left
    rcases leaf with free | ⟨id, contents, file⟩
    · simp [free, last]
    · simp [file, last]

section Kept

variable {id : Nat} {contents : Bytes} (ways : WaysKept fs fs')
  (stands : fs'.node? opened = some (.file id contents))
include ways stands

/-- A walk goes to the same links, and where it came to the opened file or to its free name, it
comes to the file. -/
theorem walk_kept (purpose : Purpose) (place : Place) (steps : List Bytes) :
    (∀ holder target rest, fs.walk purpose place steps = .link holder target rest →
      fs'.walk purpose place steps = .link holder target rest) ∧
    (∀ result, fs.walk purpose place steps = .reached result → ReachedAt opened result →
      fs'.walk purpose place steps = .reached (.file opened id contents)) := by
  induction steps generalizing place with
  | nil =>
    constructor
    · intro holder target rest walked
      cases walked
    · intro result walked there
      cases walked
      exact there.elim
  | cons step rest ih =>
    rcases walk_cons purpose place step rest with ⟨next, moves⟩ | ⟨e, fails⟩ | looks
    · rw [moves, moves]
      exact ih next
    · simp [fails]
    rw [looks, looks]
    -- What may have changed is where a walk ends; all that a walk goes through is as it was.
    by_cases leaf : fs.Leaf (place.location ++ [step])
    · rcases walkName_of_leaf leaf purpose rest with ⟨e, fails⟩ | ⟨rfl, found, ends, location⟩
      · simp [fails]
      · rw [ends]
        constructor
        · intro holder target rest walked
          cases walked
        · intro result walked there
          cases walked
          obtain rfl := location opened there
          simp [walkName, stands]
    · have same := (ways (place.location ++ [step])).resolve_left leaf
      unfold walkName
      rw [same]
      cases found : fs.node? (place.location ++ [step]) with
      | none => exact absurd (.inl found) leaf
      | some node =>
        cases node with
        | file i held => exact absurd (.inr ⟨i, held, found⟩) leaf
        | directory => exact ih _
        | link target =>
          dsimp only
          constructor
          · intro holder target' more walked
            exact walked
          · intro result walked there
            split at walked
            · cases walked
              exact there.elim
            · cases walked

theorem resolveFrom_kept {purpose : Purpose} {links : Nat} {place : Place} {steps : List Bytes}
    {result : Reached} (leads : fs.resolveFrom purpose links place steps = .ok result)
    (there : ReachedAt opened result) :
    fs'.resolveFrom purpose links place steps = .ok (.file opened id contents) := by
  induction links generalizing place steps with
  | zero =>
    obtain ⟨-, reaches⟩ := walk_kept ways stands purpose place steps
    rw [resolveFrom] at leads ⊢
    split at leads
    next found walked =>
      cases leads
      rw [reaches _ walked there]
    · cases leads
    · cases leads
  | succ links ih =>
    obtain ⟨goesOn, reaches⟩ := walk_kept ways stands purpose place steps
    rw [resolveFrom] at leads ⊢
    split at leads
    next found walked =>
      cases leads
      rw [reaches _ walked there]
    · cases leads
    next holder target rest walked =>
      rw [goesOn _ _ _ walked]
      exact ih leads

end Kept

theorem walk_use_of_resolveFrom {links : Nat} {place : Place} {steps : List Bytes}
    {result : Reached} (leads : fs.resolveFrom .create links place steps = .ok result) :
    fs.walk .use place steps = fs.walk .create place steps := by
  apply walk_use_of_create
  intro e fails
  rw [resolveFrom, fails] at leads
  cases leads

theorem resolveFrom_use_of_create {links : Nat} {place : Place} {steps : List Bytes}
    {result : Reached} (leads : fs.resolveFrom .create links place steps = .ok result) :
    fs.resolveFrom .use links place steps = .ok result := by
  induction links generalizing place steps with
  | zero =>
    have same := walk_use_of_resolveFrom leads
    rw [resolveFrom] at leads ⊢
    rw [same]
    exact leads
  | succ links ih =>
    have same := walk_use_of_resolveFrom leads
    rw [resolveFrom] at leads ⊢
    rw [same]
    cases walked : fs.walk .create place steps with
    | reached found =>
      rw [walked] at leads
      exact leads
    | failed e =>
      rw [walked] at leads
      cases leads
    | link holder target rest =>
      rw [walked] at leads
      exact ih leads

theorem Target.exists_resolve (target : fs.Target here p opened) :
    ∃ result, fs.resolve here .create p = .ok result ∧ ReachedAt opened result := by
  rcases target with ⟨id, contents, leads⟩ | leads
  · exact ⟨_, leads, rfl⟩
  · exact ⟨_, leads, rfl⟩

/-- **A path leads to the file that stands where it led**, to read it or to open it again. -/
theorem resolve_kept (target : fs.Target here p opened) (ways : WaysKept fs fs') {id : Nat}
    {contents : Bytes} (stands : fs'.node? opened = some (.file id contents)) :
    fs'.resolve here .use p = .ok (.file opened id contents) ∧
      fs'.resolve here .create p = .ok (.file opened id contents) := by
  obtain ⟨result, leads, there⟩ := target.exists_resolve
  rw [resolve] at leads ⊢
  rw [resolve]
  cases passes : checkPath p with
  | error e =>
    rw [passes] at leads
    cases leads
  | ok passed =>
    rw [passes] at leads
    constructor
    · exact resolveFrom_kept ways stands (resolveFrom_use_of_create leads) there
    · exact resolveFrom_kept ways stands leads there

theorem read_kept (target : fs.Target here p opened) (ways : WaysKept fs fs') {id : Nat}
    {contents : Bytes} (stands : fs'.node? opened = some (.file id contents)) :
    fs'.read here p = .ok contents := by
  rw [read, (resolve_kept target ways stands).1]
  rfl

/-- A file can be opened empty exactly where a path leads to one, or to a free name. -/
theorem exists_openEmpty_iff :
    (∃ handle fs', fs.openEmpty here p = .ok (handle, fs') ∧ handle.location = location) ↔
      fs.Target here p location := by
  constructor
  · rintro ⟨handle, fs', opens, rfl⟩
    exact (frame_of_openEmpty opens).1
  · rintro (⟨id, contents, leads⟩ | leads)
    · rw [openEmpty, leads]
      exact ⟨_, _, rfl, rfl⟩
    · rw [openEmpty, leads]
      exact ⟨_, _, rfl, rfl⟩

theorem offset_of_openEmpty {handle : Handle} (opens : fs.openEmpty here p = .ok (handle, fs')) :
    handle.offset = 0 := by
  rw [openEmpty] at opens
  cases leads : fs.resolve here .create p with
  | error e =>
    rw [leads] at opens
    cases opens
  | ok reached =>
    rw [leads] at opens
    cases reached <;> cases opens <;> rfl

theorem waysKept_of_openEmpty {handle : Handle}
    (opens : fs.openEmpty here p = .ok (handle, fs')) : WaysKept fs fs' := by
  obtain ⟨-, differ⟩ := differInFile_of_openEmpty opens
  exact .of_sameBut differ.same differ.leaf

/-! ## Writing -/

/-- Pieces of data were written through an open handle, one after the other. Before, between and
after them other things may have been done, but nothing to the opened file. -/
inductive Through (handle : Handle) (files : FileSystem) :
    List Bytes → Handle → FileSystem → Prop where
  | none : Through handle files [] handle files
  | write {pieces : List Bytes} {moved : Handle} {files₁ : FileSystem}
      (before : Through handle files pieces moved files₁) (data : Bytes) :
      Through handle files (pieces ++ [data]) (files₁.write moved data).1
        (files₁.write moved data).2
  | aside {pieces : List Bytes} {moved : Handle} {files₁ files₂ : FileSystem}
      (before : Through handle files pieces moved files₁)
      (left : files₂.node? moved.location = files₁.node? moved.location) :
      Through handle files pieces moved files₂

section Write

variable {files files' : FileSystem} {handle moved : Handle} {contents data : Bytes}
  {pieces : List Bytes}

theorem splice_end (contents data : Bytes) :
    splice contents contents.length data = contents ++ data := by
  simp [splice]

theorem write_fst (files : FileSystem) (handle : Handle) (data : Bytes) :
    (files.write handle data).1 =
      ⟨handle.location, handle.id, handle.offset + data.length⟩ := by
  unfold write
  split
  · split <;> rfl
  · rfl

/-- A write at the end of a file makes it longer by the data. -/
theorem node?_write (found : files.node? handle.location = some (.file handle.id contents))
    (atEnd : handle.offset = contents.length) :
    (files.write handle data).2.node? handle.location =
      some (.file handle.id (contents ++ data)) := by
  have below : handle.location ≠ [] := by
    intro root
    rw [root, node?_root] at found
    cases found
  unfold write
  simp only [found, true_and]
  by_cases nothing : data = []
  · simp [nothing, found]
  · rw [if_pos nothing, node?_insert_self below, atEnd, splice_end]

/-- **A file holds what was written through its handle** after what it held, and the handle stands
at its end. -/
theorem Through.holds (through : Through handle files pieces moved files')
    (found : files.node? handle.location = some (.file handle.id contents))
    (atEnd : handle.offset = contents.length) :
    moved = ⟨handle.location, handle.id, (contents ++ pieces.flatten).length⟩ ∧
      files'.node? handle.location = some (.file handle.id (contents ++ pieces.flatten)) := by
  -- The handle stays at the end of the file, so no write overwrites anything.
  induction through with
  | none =>
    rw [List.flatten_nil, List.append_nil, ← atEnd]
    exact ⟨rfl, found⟩
  | @write pieces moved files₁ before data ih =>
    obtain ⟨rfl, holds⟩ := ih
    have longer : contents ++ (pieces ++ [data]).flatten =
        contents ++ pieces.flatten ++ data := by
      simp
    rw [longer]
    constructor
    · simp only [write_fst, List.length_append]
    · apply node?_write
      · exact holds
      · rfl
  | @aside pieces moved files₁ files₂ before left ih =>
    obtain ⟨rfl, holds⟩ := ih
    refine ⟨rfl, ?_⟩
    rw [← holds]
    exact left

end Write

end AppLauncher.FileSystem
