import AppLauncher.Proofs.FileSystem.Emptied
import AppLauncher.Proofs.FileSystem.Standing

/-!
# Routes to directories

A path leads to a directory if each of its steps does: into a directory, up to the one around, or
through a link, whose steps come before the rest. `Route` says so without any walk that could fail,
and counts the links (`directory_eq_ok_iff`).

Steps that stay where they are do not matter to a route (`Route.of_legs`), and a path that goes on
after a route goes on from its end (`Route.resolveFrom_append`), with as many links less as the
route has used up. So reading a file below a directory is reading it from the directory
(`read_join_of_route`).
-/

namespace AppLauncher.FileSystem

variable {fs : FileSystem} {place next reached : Place} {s : Bytes} {rest steps : List Bytes}
  {links : Nat}

/-! ## One step -/

/-- A step that is looked up at a place: it is a name that a directory can hold, and the place is
there. -/
structure LooksUp (place : Place) (s : Bytes) : Prop where
  leg : Path.isIdle s = false
  notUp : s ≠ Path.dotDot
  there : place.lost = 0
  short : s.length ≤ maxName

theorem isIdle_iff : Path.isIdle s = true ↔ s = [] ∨ s = Path.dot := by
  simp [Path.isIdle]

theorem walk_idle (purpose : Purpose) (idle : Path.isIdle s = true) :
    fs.walk purpose place (s :: rest) = fs.walk purpose place rest := by
  rw [walk, if_pos (isIdle_iff.1 idle)]

theorem walk_up (purpose : Purpose) :
    fs.walk purpose place (Path.dotDot :: rest) = fs.walk purpose place.parent rest := by
  rw [walk, if_neg (by decide), if_pos rfl]

theorem walk_lookup (looks : LooksUp place s) :
    fs.walk .use place (s :: rest) = walkName fs .use place s rest := by
  have notIdle : ¬ (s = [] ∨ s = Path.dot) := by
    rw [← isIdle_iff, looks.leg]
    exact Bool.false_ne_true
  rw [walk, if_neg notIdle, if_neg looks.notUp, if_neg (by simp), if_neg (not_not.2 looks.there),
    if_neg (Nat.not_lt.2 looks.short)]
  rfl

theorem walk_use_cases (fs : FileSystem) (place : Place) (s : Bytes) (rest : List Bytes) :
    Path.isIdle s = true ∨ s = Path.dotDot ∨ LooksUp place s ∨
      ∃ e, fs.walk .use place (s :: rest) = .failed e := by
  by_cases idle : s = [] ∨ s = Path.dot
  · exact .inl (isIdle_iff.2 idle)
  by_cases up : s = Path.dotDot
  · exact .inr (.inl up)
  by_cases lost : place.lost ≠ 0
  · exact .inr (.inr (.inr ⟨_, by
      rw [walk, if_neg idle, if_neg up, if_neg (by simp), if_pos lost]⟩))
  by_cases long : maxName < s.length
  · exact .inr (.inr (.inr ⟨_, by
      rw [walk, if_neg idle, if_neg up, if_neg (by simp), if_neg lost, if_pos long]⟩))
  · have leg : Path.isIdle s = false := Bool.eq_false_iff.2 fun is => idle (isIdle_iff.1 is)
    exact .inr (.inr (.inl ⟨leg, up, not_not.1 lost, Nat.not_lt.1 long⟩))

/-! ## Routes -/

/-- From a place some steps lead to a directory, through so many links. -/
inductive Route (fs : FileSystem) : Place → List Bytes → Nat → Place → Prop where
  | done (place : Place) : Route fs place [] 0 place
  | idle {place reached : Place} {s : Bytes} {rest : List Bytes} {links : Nat}
      (stays : Path.isIdle s = true) (later : Route fs place rest links reached) :
      Route fs place (s :: rest) links reached
  | up {place reached : Place} {rest : List Bytes} {links : Nat}
      (later : Route fs place.parent rest links reached) :
      Route fs place (Path.dotDot :: rest) links reached
  | into {place reached : Place} {s : Bytes} {rest : List Bytes} {links : Nat}
      (looks : LooksUp place s)
      (found : fs.node? (place.location ++ [s]) = some .directory)
      (later : Route fs (.live (place.location ++ [s])) rest links reached) :
      Route fs place (s :: rest) links reached
  | link {place reached : Place} {s : Bytes} {target : Path} {rest : List Bytes} {links : Nat}
      (looks : LooksUp place s)
      (found : fs.node? (place.location ++ [s]) = some (.link target))
      (later : Route fs (startOf place target) (target.steps ++ rest) links reached) :
      Route fs place (s :: rest) (links + 1) reached

theorem Route.idles {before : List Bytes} (stay : ∀ s ∈ before, Path.isIdle s = true)
    (later : Route fs place rest links reached) :
    Route fs place (before ++ rest) links reached := by
  induction before with
  | nil => exact later
  | cons s more ih =>
    have later := ih fun t among => stay t (List.mem_cons_of_mem s among)
    exact .idle (stay s List.mem_cons_self) later

/-- A route depends on the steps that go somewhere only. -/
theorem Route.of_legs (route : Route fs place steps links reached) {steps' : List Bytes}
    (same : steps'.filter (!Path.isIdle ·) = steps.filter (!Path.isIdle ·)) :
    Route fs place steps' links reached := by
  -- Some steps that stay, and then the first one that goes somewhere.
  have first : ∀ {s : Bytes} {rest steps' : List Bytes}, Path.isIdle s = false →
      steps'.filter (!Path.isIdle ·) = (s :: rest).filter (!Path.isIdle ·) →
      ∃ before rest', steps' = before ++ s :: rest' ∧ (∀ t ∈ before, Path.isIdle t = true) ∧
        rest'.filter (!Path.isIdle ·) = rest.filter (!Path.isIdle ·) := by
    intro s rest steps' leg same
    rw [List.filter_cons_of_pos (by simp [leg])] at same
    obtain ⟨before, rest', rfl, stay, -, same⟩ := List.filter_eq_cons_iff.1 same
    exact ⟨before, rest', rfl, fun t among => by simpa using stay t among, same⟩
  induction route generalizing steps' with
  | done place =>
    have stay : ∀ s ∈ steps', Path.isIdle s = true := fun s among => by
      simpa using List.filter_eq_nil_iff.1 same s among
    have arrived : Route fs place [] 0 place := .done place
    have route := arrived.idles stay
    rwa [List.append_nil] at route
  | idle stays later ih => exact ih (same.trans (List.filter_cons_of_neg (by simp [stays])))
  | up later ih =>
    obtain ⟨before, rest', rfl, stay, same⟩ := first (by decide) same
    exact .idles stay (.up (ih same))
  | into looks found later ih =>
    obtain ⟨before, rest', rfl, stay, same⟩ := first looks.leg same
    exact .idles stay (.into looks found (ih same))
  | link looks found later ih =>
    obtain ⟨before, rest', rfl, stay, same⟩ := first looks.leg same
    refine .idles stay (.link looks found (ih ?_))
    rw [List.filter_append, List.filter_append, same]

/-! ## Resolving along a route -/

theorem resolveFrom_of_walk {purpose : Purpose} {steps' : List Bytes}
    (same : fs.walk purpose place steps = fs.walk purpose next steps') (links : Nat) :
    fs.resolveFrom purpose links place steps = fs.resolveFrom purpose links next steps' := by
  rw [resolveFrom, resolveFrom, same]

theorem resolveFrom_link {purpose : Purpose} {target : Path}
    (walked : fs.walk purpose place steps = .link next target rest) (links : Nat) :
    fs.resolveFrom purpose (links + 1) place steps =
      fs.resolveFrom purpose links (startOf next target) (target.steps ++ rest) := by
  rw [resolveFrom, walked]

/-- What comes after a route is resolved from its end, with the links that are left. -/
theorem Route.resolveFrom_append (route : Route fs place steps links reached) (left : Nat)
    (more : List Bytes) :
    fs.resolveFrom .use (left + links) place (steps ++ more) =
      fs.resolveFrom .use left reached more := by
  induction route with
  | done place => rfl
  | idle stays later ih =>
    rw [← ih]
    exact resolveFrom_of_walk (walk_idle .use stays) _
  | up later ih =>
    rw [← ih]
    exact resolveFrom_of_walk (walk_up .use) _
  | @into place reached s rest links looks found later ih =>
    rw [← ih]
    refine resolveFrom_of_walk ?_ _
    rw [List.cons_append, walk_lookup looks, walkName, found]
  | @link place reached s target rest links looks found later ih =>
    have walked : fs.walk .use place (s :: rest ++ more) = .link place target (rest ++ more) := by
      rw [List.cons_append, walk_lookup looks, walkName, found]
      exact if_neg (by simp)
    rw [← ih, ← Nat.add_assoc, resolveFrom_link walked, List.append_assoc]

/-- A walk has ended in a directory, or at a link from which a route leads there. -/
inductive Continues (fs : FileSystem) (reached : Place) : Walked → Nat → Prop where
  | here : Continues fs reached (.reached (.directory reached)) 0
  | link {next : Place} {target : Path} {rest : List Bytes} {links : Nat}
      (later : Route fs (startOf next target) (target.steps ++ rest) links reached) :
      Continues fs reached (.link next target rest) (links + 1)

theorem Continues.route (continues : Continues fs reached (fs.walk .use place steps) links) :
    Route fs place steps links reached := by
  induction steps generalizing place with
  | nil =>
    cases continues
    exact .done _
  | cons s rest ih =>
    rcases walk_use_cases fs place s rest with idle | rfl | looks | ⟨e, fails⟩
    · rw [walk_idle .use idle] at continues
      exact .idle idle (ih continues)
    · rw [walk_up] at continues
      exact .up (ih continues)
    · rw [walk_lookup looks, walkName] at continues
      cases found : fs.node? (place.location ++ [s]) with
      | none =>
        rw [found] at continues
        dsimp only at continues
        split at continues <;> cases continues
      | some node =>
        rw [found] at continues
        cases node with
        | directory => exact .into looks found (ih continues)
        | file id contents =>
          dsimp only at continues
          split at continues <;> cases continues
        | link target =>
          dsimp only at continues
          rw [if_neg (by simp)] at continues
          cases continues with
          | link later => exact .link looks found later
    · rw [fails] at continues
      cases continues

/-- Resolving reaches a directory exactly along a route that has no more links than allowed. -/
theorem resolveFrom_eq_directory_iff :
    fs.resolveFrom .use links place steps = .ok (.directory reached) ↔
      ∃ used ≤ links, Route fs place steps used reached := by
  constructor
  · intro leads
    have arrives : ∀ {links place steps}, fs.walk .use place steps = .reached (.directory reached) →
        ∃ used ≤ links, Route fs place steps used reached := by
      intro links place steps walked
      have continues : Continues fs reached (fs.walk .use place steps) 0 := by
        rw [walked]
        exact .here
      exact ⟨0, Nat.zero_le links, continues.route⟩
    induction links generalizing place steps with
    | zero =>
      rw [resolveFrom] at leads
      cases walked : fs.walk .use place steps with
      | failed e | link next target rest => simp [walked] at leads
      | reached result =>
        rw [walked] at leads
        obtain rfl := Except.ok.inj leads
        exact arrives walked
    | succ links ih =>
      cases walked : fs.walk .use place steps with
      | failed e =>
        rw [resolveFrom, walked] at leads
        cases leads
      | reached result =>
        rw [resolveFrom, walked] at leads
        obtain rfl := Except.ok.inj leads
        exact arrives walked
      | link next target rest =>
        rw [resolveFrom_link walked] at leads
        obtain ⟨used, le, route⟩ := ih leads
        have continues : Continues fs reached (fs.walk .use place steps) (used + 1) := by
          rw [walked]
          exact .link route
        exact ⟨used + 1, Nat.succ_le_succ le, continues.route⟩
  · rintro ⟨used, le, route⟩
    obtain ⟨left, rfl⟩ : ∃ left, links = left + used := ⟨links - used, by omega⟩
    have leads := route.resolveFrom_append left []
    rw [List.append_nil] at leads
    rw [leads, resolveFrom]
    rfl

/-- Whatever a path leads to, it leads there with more links, too, unless it had too few. -/
theorem resolveFrom_mono {purpose : Purpose} (more : Nat)
    (enough : fs.resolveFrom purpose links place steps ≠ .error .tooManyLinks) :
    fs.resolveFrom purpose (links + more) place steps =
      fs.resolveFrom purpose links place steps := by
  induction links generalizing place steps with
  | zero =>
    rw [resolveFrom] at enough ⊢
    rw [resolveFrom]
    cases walked : fs.walk purpose place steps with
    | reached result | failed e => rfl
    | link next target rest =>
      rw [walked] at enough
      exact absurd rfl enough
  | succ links ih =>
    cases walked : fs.walk purpose place steps with
    | reached result | failed e => rw [resolveFrom, resolveFrom, walked]
    | link next target rest =>
      rw [resolveFrom_link walked] at enough ⊢
      rw [Nat.add_right_comm, resolveFrom_link walked]
      exact ih enough

/-! ## Paths to directories -/

theorem directory_eq_ok_iff {here : Place} {p : Path} :
    fs.directory here p = .ok reached ↔
      checkPath p = .ok () ∧ ∃ used ≤ maxLinks, Route fs (startOf here p) p.steps used reached := by
  rw [directory, resolve, ← resolveFrom_eq_directory_iff]
  cases checkPath p with
  | error e => simp [bind, Except.bind]
  | ok passed =>
    cases fs.resolveFrom .use maxLinks (startOf here p) p.steps with
    | error e => simp [bind, Except.bind]
    | ok result => cases result <;> simp [bind, Except.bind]

theorem checkPath_eq_ok_iff {p : Path} :
    checkPath p = .ok () ↔ 0 ∉ p.bytes ∧ p.bytes ≠ [] ∧ p.bytes.length < pathLimit := by
  rw [checkPath]
  by_cases zero : 0 ∈ p.bytes
  · simp [zero]
  · by_cases empty : p.bytes = []
    · simp [empty]
    · by_cases long : pathLimit ≤ p.bytes.length
      · simp [zero, empty, long]
      · simp [zero, empty, long, Nat.lt_of_not_le long]

theorem filter_steps (p : Path) : p.steps.filter (!Path.isIdle ·) = p.legs := by
  have slashes : (if p.bytes.getLast? = some Path.slash then [[]] else []).filter
      (!Path.isIdle ·) = [] := by
    split <;> rfl
  have more : ∀ s : Bytes, (decide (s ≠ []) && !Path.isIdle s) = !Path.isIdle s := by
    intro s
    cases s <;> rfl
  rw [Path.steps, List.filter_append, slashes, List.append_nil, List.filter_filter, Path.legs]
  simp only [Bool.and_comm, more]

section Rooted

variable {root : Bytes} {legs : List Bytes} (isRoot : Path.IsRoot root)
  (areLegs : ∀ s ∈ legs, Path.IsLeg s)
include isRoot areLegs

/-- The text of a rooted path leads where its legs lead, from everywhere. -/
theorem route_rooted_iff (anywhere : Place) :
    Route fs (startOf anywhere (Path.rooted root legs)) (Path.rooted root legs).steps links
        reached ↔
      Route fs (.live []) legs links reached := by
  have start : startOf anywhere (Path.rooted root legs) = .live [] :=
    if_pos (Path.isAbsolute_rooted isRoot)
  have kept : legs.filter (!Path.isIdle ·) = legs :=
    List.filter_eq_self.2 fun s among => by simp [(areLegs s among).notIdle]
  have same : (Path.rooted root legs).steps.filter (!Path.isIdle ·) =
      legs.filter (!Path.isIdle ·) := by
    rw [Path.steps_rooted isRoot areLegs]
    split
    next nothing =>
      rw [nothing]
      rfl
    · rfl
  rw [start]
  exact ⟨fun route => route.of_legs same.symm, fun route => route.of_legs same⟩

/-- Reading a file below a directory, by its absolute path, is reading it from the directory, unless
there are too many links on the way. -/
theorem read_join_of_route (le : links ≤ maxLinks) (route : Route fs (.live []) legs links reached)
    (zeroFree : 0 ∉ (Path.rooted root legs).bytes) {p : Path} (filled : p.bytes ≠ [])
    (fits : ((Path.rooted root legs).join p).bytes.length < pathLimit) (anywhere : Place) :
    fs.read anywhere ((Path.rooted root legs).join p) = fs.read reached p ∨
      fs.read anywhere ((Path.rooted root legs).join p) = .error .tooManyLinks := by
  cases relative : p.isAbsolute with
  | true =>
    have alone : (Path.rooted root legs).join p = p := if_pos relative
    rw [alone]
    exact .inl (read_of_isAbsolute relative anywhere reached)
  | false =>
    have start : startOf anywhere ((Path.rooted root legs).join p) = .live [] :=
      if_pos (Path.isAbsolute_join (Path.isAbsolute_rooted isRoot))
    have start' : startOf reached p = reached := by
      rw [startOf, relative]
      rfl
    have steps := Path.steps_join_rooted isRoot areLegs relative filled
    obtain ⟨left, total⟩ : ∃ left, maxLinks = left + links := ⟨maxLinks - links, by omega⟩
    have resumed : fs.resolveFrom .use maxLinks (.live []) (legs ++ p.steps) =
        fs.resolveFrom .use left reached p.steps := by
      rw [total]
      exact route.resolveFrom_append left p.steps
    have checked := checkPath_join zeroFree relative filled fun _ => fits
    rw [read, read, resolve, resolve, checked, start, start', steps, resumed]
    by_cases few : fs.resolveFrom .use left reached p.steps = .error .tooManyLinks
    · rw [few]
      cases checkPath p with
      | error e => exact .inl rfl
      | ok passed => exact .inr rfl
    · left
      rw [total, resolveFrom_mono links few]

end Rooted

end AppLauncher.FileSystem
