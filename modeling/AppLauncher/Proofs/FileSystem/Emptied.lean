import AppLauncher.Proofs.FileSystem.Frame

/-!
# Beside a file that was emptied

Opening a file empty may make it, so more paths lead somewhere afterwards. But a path that leads
anywhere else leads there before and after: on its way it cannot meet the opened file, because
nothing is below a file (`resolve_beside`). `DifferInFile` says of two file systems that they differ
like this.

So directories are the same (`DifferInFile.directory_eq_ok_iff`), and what can be read of a file
that holds something, after another one was opened empty, could be read before
(`read_of_openEmpty`).
-/

namespace AppLauncher.FileSystem

variable {fs fs' : FileSystem} {opened : Location}

/-- What a walk does at a name in a directory that exists. -/
def walkName (fs : FileSystem) (purpose : Purpose) (place : Place) (name : Bytes)
    (rest : List Bytes) : Walked :=
  match fs.node? (place.location ++ [name]) with
  | some .directory => fs.walk purpose (.live (place.location ++ [name])) rest
  | some (.file id contents) =>
    if rest = [] then .reached (.file (place.location ++ [name]) id contents)
    else .failed .notDirectory
  | some (.link target) =>
    if rest = [] ∧ purpose = .entry then .reached (.link (place.location ++ [name]) target)
    else .link place target rest
  | none =>
    if rest = [] then .reached (.vacant (place.location ++ [name])) else .failed .missing

/-- One step of a walk goes on from another place, or fails, whatever the files are; or it looks
what stands at a name. -/
theorem walk_cons (purpose : Purpose) (place : Place) (step : Bytes) (rest : List Bytes) :
    (∃ next, ∀ fs, walk fs purpose place (step :: rest) = walk fs purpose next rest) ∨
    (∃ e, ∀ fs, walk fs purpose place (step :: rest) = .failed e) ∨
    ∀ fs, walk fs purpose place (step :: rest) = walkName fs purpose place step rest := by
  by_cases idle : step = [] ∨ step = Path.dot
  · exact .inl ⟨place, fun fs => by rw [walk, if_pos idle]⟩
  by_cases up : step = Path.dotDot
  · exact .inl ⟨place.parent, fun fs => by rw [walk, if_neg idle, if_pos up]⟩
  by_cases slash : purpose = .create ∧ rest = [[]]
  · exact .inr (.inl ⟨_, fun fs => by rw [walk, if_neg idle, if_neg up, if_pos slash]⟩)
  by_cases lost : place.lost ≠ 0
  · exact .inr (.inl ⟨_, fun fs => by rw [walk, if_neg idle, if_neg up, if_neg slash, if_pos lost]⟩)
  by_cases long : maxName < step.length
  · exact .inr (.inl ⟨_, fun fs => by
      rw [walk, if_neg idle, if_neg up, if_neg slash, if_neg lost, if_pos long]⟩)
  · exact .inr (.inr fun fs => by
      rw [walk, if_neg idle, if_neg up, if_neg slash, if_neg lost, if_neg long]
      rfl)

/-! ## Going past a file -/

/-- Neither a directory nor a link stands at a location. -/
def Leaf (fs : FileSystem) (location : Location) : Prop :=
  fs.node? location = none ∨ ∃ id contents, fs.node? location = some (.file id contents)

/-- What was reached is the file at a location, or the free name there. -/
def ReachedAt (location : Location) : Reached → Prop
  | .file there _ _ | .vacant there => there = location
  | _ => False

/-- A walk that comes past a leaf goes the same way when something else stands there. -/
theorem walk_beside (same : SameBut opened fs fs') (leaf : fs'.Leaf opened) (purpose : Purpose)
    (place : Place) (steps : List Bytes) (passes : ∀ e, fs'.walk purpose place steps ≠ .failed e)
    (apart : ∀ result, fs'.walk purpose place steps = .reached result → ¬ ReachedAt opened result) :
    fs.walk purpose place steps = fs'.walk purpose place steps := by
  induction steps generalizing place with
  | nil => rfl
  | cons step rest ih =>
    rcases walk_cons purpose place step rest with ⟨next, moves⟩ | ⟨e, fails⟩ | looks
    · rw [moves] at passes apart
      rw [moves, moves]
      exact ih next passes apart
    · exact absurd (fails fs') (passes e)
    · rw [looks, walkName] at passes apart
      rw [looks, looks, walkName, walkName]
      by_cases here : place.location ++ [step] = opened
      · -- The way ends at the leaf, or steps are left over that lead nowhere.
        rcases leaf with free | ⟨id, contents, file⟩
        · rw [here, free] at passes apart
          dsimp only at passes apart
          by_cases last : rest = []
          · rw [if_pos last] at apart
            exact absurd rfl (apart _ rfl)
          · rw [if_neg last] at passes
            exact absurd rfl (passes .missing)
        · rw [here, file] at passes apart
          dsimp only at passes apart
          by_cases last : rest = []
          · rw [if_pos last] at apart
            exact absurd rfl (apart _ rfl)
          · rw [if_neg last] at passes
            exact absurd rfl (passes .notDirectory)
      · rw [same _ here] at passes apart ⊢
        cases found : fs.node? (place.location ++ [step]) with
        | none => rfl
        | some node =>
          rw [found] at passes apart
          cases node with
          | directory => exact ih _ passes apart
          | file i contents => rfl
          | link target => rfl

theorem resolveFrom_beside (same : SameBut opened fs fs') (leaf : fs'.Leaf opened)
    {purpose : Purpose} {links : Nat} {place : Place} {steps : List Bytes} {result : Reached}
    (leads : fs'.resolveFrom purpose links place steps = .ok result)
    (apart : ¬ ReachedAt opened result) :
    fs.resolveFrom purpose links place steps = .ok result := by
  -- Unless the walk fails, it is the same one beside the leaf.
  have way : ∀ {links place steps}, fs'.resolveFrom purpose links place steps = .ok result →
      fs.walk purpose place steps = fs'.walk purpose place steps := by
    intro links place steps leads
    refine walk_beside same leaf purpose place steps ?_ ?_
    · intro e fails
      rw [resolveFrom, fails] at leads
      cases leads
    · intro other walked
      rw [resolveFrom, walked] at leads
      obtain rfl := Except.ok.inj leads
      exact apart
  induction links generalizing place steps with
  | zero =>
    have walked := way leads
    rw [resolveFrom] at leads ⊢
    rw [walked]
    exact leads
  | succ links ih =>
    have walked := way leads
    rw [resolveFrom] at leads ⊢
    rw [walked]
    cases found : fs'.walk purpose place steps with
    | failed e | reached other =>
      rw [found] at leads
      exact leads
    | link place' target rest =>
      rw [found] at leads
      exact ih leads

/-- What a path leads to beside a leaf does not depend on what stands there. -/
theorem resolve_beside (same : SameBut opened fs fs') (leaf : fs'.Leaf opened) {here : Place}
    {purpose : Purpose} {p : Path} {result : Reached}
    (leads : fs'.resolve here purpose p = .ok result) (apart : ¬ ReachedAt opened result) :
    fs.resolve here purpose p = .ok result := by
  rw [resolve] at leads ⊢
  cases passes : checkPath p with
  | error e =>
    rw [passes] at leads
    cases leads
  | ok passed =>
    rw [passes] at leads
    exact resolveFrom_beside same leaf leads apart

/-! ## Where an opened file stands -/

/-- A file or a free name stands below the root, and is what there is. -/
def ReachedIn (fs : FileSystem) : Reached → Prop
  | .file location id contents => location ≠ [] ∧ fs.node? location = some (.file id contents)
  | .vacant location => location ≠ [] ∧ fs.node? location = none
  | _ => True

theorem walk_reachedIn (fs : FileSystem) (purpose : Purpose) (place : Place)
    (steps : List Bytes) :
    ∀ result, fs.walk purpose place steps = .reached result → fs.ReachedIn result := by
  intro result comes
  induction steps generalizing place with
  | nil =>
    rw [walk] at comes
    cases comes
    trivial
  | cons step rest ih =>
    rcases walk_cons purpose place step rest with ⟨next, moves⟩ | ⟨e, fails⟩ | looks
    · rw [moves] at comes
      exact ih next comes
    · rw [fails] at comes
      cases comes
    · have named : place.location ++ [step] ≠ [] := by simp
      rw [looks, walkName] at comes
      split at comes
      next found => exact ih _ comes
      next found =>
        split at comes <;> cases comes
        exact ⟨named, found⟩
      next found =>
        split at comes <;> cases comes
        trivial
      next found =>
        split at comes <;> cases comes
        exact ⟨named, found⟩

theorem resolveFrom_reachedIn (fs : FileSystem) (purpose : Purpose) (links : Nat) (place : Place)
    (steps : List Bytes) :
    ∀ result, fs.resolveFrom purpose links place steps = .ok result → fs.ReachedIn result := by
  intro result leads
  induction links generalizing place steps with
  | zero =>
    rw [resolveFrom] at leads
    split at leads
    next found walked =>
      cases leads
      exact walk_reachedIn fs purpose place steps _ walked
    · cases leads
    · cases leads
  | succ links ih =>
    rw [resolveFrom] at leads
    split at leads
    next found walked =>
      cases leads
      exact walk_reachedIn fs purpose place steps _ walked
    · cases leads
    · exact ih _ _ leads

theorem resolve_reachedIn {here : Place} {purpose : Purpose} {p : Path} {result : Reached}
    (leads : fs.resolve here purpose p = .ok result) : fs.ReachedIn result := by
  rw [resolve] at leads
  cases passes : checkPath p with
  | error e =>
    rw [passes] at leads
    cases leads
  | ok passed =>
    rw [passes] at leads
    exact resolveFrom_reachedIn fs purpose maxLinks _ _ _ leads

theorem leaf_of_target {here : Place} {p : Path} {location : Location}
    (target : fs.Target here p location) : fs.Leaf location := by
  rcases target with ⟨id, contents, leads⟩ | leads
  · exact .inr ⟨id, contents, (resolve_reachedIn leads).2⟩
  · exact .inl (resolve_reachedIn leads).2

theorem node?_of_openEmpty {here : Place} {p : Path} {handle : Handle}
    (opens : fs.openEmpty here p = .ok (handle, fs')) :
    fs'.node? handle.location = some (.file handle.id []) := by
  rw [openEmpty] at opens
  cases leads : fs.resolve here .create p with
  | error e =>
    rw [leads] at opens
    cases opens
  | ok reached =>
    have below := resolve_reachedIn leads
    rw [leads] at opens
    cases reached with
    | directory place => cases opens
    | link location target => cases opens
    | file location i contents =>
      obtain ⟨rfl, rfl⟩ := Prod.mk.inj (Except.ok.inj opens)
      exact node?_insert_self below.1
    | vacant location =>
      obtain ⟨rfl, rfl⟩ := Prod.mk.inj (Except.ok.inj opens)
      exact node?_insert_self below.1

/-- Two file systems differ in one file at most: in what it holds, or in whether it is there. -/
structure DifferInFile (location : Location) (fs fs' : FileSystem) : Prop where
  same : SameBut location fs fs'
  leaf : fs.Leaf location
  leaf' : fs'.Leaf location

theorem differInFile_of_openEmpty {here : Place} {p : Path} {handle : Handle}
    (opens : fs.openEmpty here p = .ok (handle, fs')) :
    fs.Target here p handle.location ∧ DifferInFile handle.location fs fs' := by
  obtain ⟨target, same⟩ := frame_of_openEmpty opens
  exact ⟨target, same, leaf_of_target target, .inr ⟨_, _, node?_of_openEmpty opens⟩⟩

theorem DifferInFile.symm (differ : DifferInFile opened fs fs') : DifferInFile opened fs' fs :=
  ⟨fun other apart => (differ.same other apart).symm, differ.leaf', differ.leaf⟩

/-- Paths lead to the same directories. -/
theorem DifferInFile.directory_eq_ok_iff (differ : DifferInFile opened fs fs') {here place : Place}
    {p : Path} : fs.directory here p = .ok place ↔ fs'.directory here p = .ok place := by
  have transfer : ∀ {fs fs' : FileSystem}, DifferInFile opened fs fs' →
      fs'.directory here p = .ok place → fs.directory here p = .ok place := by
    intro fs fs' differ leads
    rw [directory] at leads ⊢
    cases resolved : fs'.resolve here .use p with
    | error e =>
      rw [resolved] at leads
      cases leads
    | ok reached =>
      rw [resolved] at leads
      cases reached with
      | file | link | vacant => cases leads
      | directory place' =>
        rw [resolve_beside differ.same differ.leaf' resolved not_false]
        exact leads
  exact ⟨transfer differ.symm, transfer differ⟩

/-! ## Reading -/

/-- What was read is what a file holds that the path leads to. -/
theorem resolve_of_read {here : Place} {p : Path} {contents : Bytes}
    (read : fs.read here p = .ok contents) :
    ∃ location i, fs.resolve here .use p = .ok (.file location i contents) := by
  rw [FileSystem.read] at read
  cases leads : fs.resolve here .use p with
  | error e =>
    rw [leads] at read
    cases read
  | ok reached =>
    rw [leads] at read
    cases reached with
    | file location i contents' =>
      obtain rfl := Except.ok.inj read
      exact ⟨location, i, rfl⟩
    | directory place => cases read
    | link location target => cases read
    | vacant location => cases read

/-- A file that is not the one in which they differ can be read in both. -/
theorem DifferInFile.read (differ : DifferInFile opened fs fs') {here : Place} {p : Path}
    {location : Location} {i : Nat} {contents : Bytes}
    (leads : fs.resolve here .use p = .ok (.file location i contents)) (apart : location ≠ opened) :
    fs'.read here p = .ok contents := by
  rw [FileSystem.read, resolve_beside differ.symm.same differ.leaf leads apart]
  rfl

/-- **A file that can be read beside an opened one could be read before.** -/
theorem read_of_openEmpty {here there : Place} {log p : Path} {handle : Handle} {contents : Bytes}
    (opens : fs.openEmpty here log = .ok (handle, fs'))
    (read : fs'.read there p = .ok contents) (filled : contents ≠ []) :
    fs.read there p = .ok contents := by
  obtain ⟨-, differ⟩ := differInFile_of_openEmpty opens
  obtain ⟨location, i, leads⟩ := resolve_of_read read
  refine differ.symm.read leads ?_
  rintro rfl
  have file := (resolve_reachedIn leads).2
  rw [node?_of_openEmpty opens] at file
  cases file
  exact filled rfl

end AppLauncher.FileSystem
