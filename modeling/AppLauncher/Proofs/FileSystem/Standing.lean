import AppLauncher.Proofs.FileSystem.Frame
import AppLauncher.Proofs.Path.Joined

/-!
# Directories that stand

A directory stands if every directory on the way to it is there. A walk that goes there from the
root and then on is a walk that begins there (`walk_standing`), so a relative path leads to the same
thing as what it makes with the path of the directory that it is seen from (`resolve_joined`). One
thing can come between the two: a path that is too long is not looked up at all.
-/

namespace AppLauncher.FileSystem

/-- Every directory on the way to a location is there, under a name that it can have. -/
structure Standing (fs : FileSystem) (l : Location) : Prop where
  names : ∀ s ∈ l, IsName s
  directories : ∀ above, above <+: l → fs.node? above = some .directory

section Standing

variable {fs : FileSystem} {l : Location} {p : Path} {purpose : Purpose}

theorem filter_split_slashes (n : Nat) (b : Bytes) :
    (Path.split (List.replicate n Path.slash ++ b)).filter (· ≠ []) =
      (Path.split b).filter (· ≠ []) := by
  induction n with
  | zero => rfl
  | succ n ih =>
    rw [List.replicate_succ, List.cons_append, Path.split, if_pos rfl,
      List.filter_cons_of_neg (by simp), ih]

/-- Many slashes between two parts of a path are like one. -/
theorem steps_of_slashes (a : Bytes) {b : Bytes} (filled : b ≠ []) (n : Nat) :
    Path.steps ⟨a ++ List.replicate (n + 1) Path.slash ++ b⟩ =
      Path.steps ⟨a ++ Path.slash :: b⟩ := by
  have text : a ++ List.replicate (n + 1) Path.slash ++ b =
      a ++ Path.slash :: (List.replicate n Path.slash ++ b) := by
    rw [List.replicate_succ, List.append_assoc, List.cons_append]
  have ends : (a ++ List.replicate (n + 1) Path.slash ++ b).getLast? =
      (a ++ Path.slash :: b).getLast? := by
    rw [List.getLast?_append_of_ne_nil _ filled, List.append_cons a,
      List.getLast?_append_of_ne_nil _ filled]
  rw [Path.steps, Path.steps, ends, text, Path.split_append_slash, Path.split_append_slash,
    List.filter_append, List.filter_append, filter_split_slashes]

/-- A relative path that is not empty has a step with a name. -/
theorem steps_ne (relative : p.isAbsolute = false) (filled : p.bytes ≠ []) : p.steps ≠ [[]] := by
  obtain ⟨first, rest, segments, named⟩ := Path.split_head_of_relative relative filled
  intro only
  have among : first ∈ p.steps := by
    rw [Path.steps, segments]
    exact List.mem_append_left _ (List.mem_filter.2 ⟨List.mem_cons_self, by simpa using named⟩)
  rw [only, List.mem_singleton] at among
  exact named among

/-- A walk through a directory that stands begins there. -/
theorem walk_standing {above : Location} (standing : Standing fs (above ++ l)) {rest : List Bytes}
    (further : rest ≠ [[]]) :
    fs.walk purpose (.live above) (l ++ rest) = fs.walk purpose (.live (above ++ l)) rest := by
  induction l generalizing above with
  | nil => rw [List.nil_append, List.append_nil]
  | cons s later ih =>
    have shape : above ++ s :: later = above ++ [s] ++ later := by simp
    have name : IsName s := standing.names s (by simp)
    have directory : fs.node? (above ++ [s]) = some .directory :=
      standing.directories _ (by rw [shape]; exact List.prefix_append _ _)
    have notIdle : ¬ (s = [] ∨ s = Path.dot) := not_or.2 ⟨name.filled, name.notDot⟩
    -- This name is not the last thing on the path before a slash.
    have notLast : ¬ (purpose = .create ∧ later ++ rest = [[]]) := by
      rintro ⟨-, last⟩
      cases later with
      | nil => exact further last
      | cons t more =>
        have named : t ≠ [] := (standing.names t (by simp)).filled
        exact named (List.cons.inj last).1
    have there : (Place.live above).lost = 0 := rfl
    have location : (Place.live above).location = above := rfl
    rw [List.cons_append, walk, if_neg notIdle, if_neg name.notDotDot, if_neg notLast,
      if_neg (not_not.2 there), if_neg (Nat.not_lt.2 name.short)]
    simp only [location, directory, shape]
    exact ih (shape ▸ standing)

theorem zero_notMem_path (names : ∀ s ∈ l, IsName s) : 0 ∉ l.path.bytes := by
  rw [Location.path, List.mem_cons, Path.mem_glue_iff (by decide)]
  rintro (isSlash | ⟨s, among, zero⟩)
  · cases isSlash
  · exact (names s among).zeroFree zero

/-- Joining a relative path to another one changes nothing about whether it can be handed to the
system, but for its length. -/
theorem checkPath_join {d : Path} (zeroFree : 0 ∉ d.bytes) (relative : p.isAbsolute = false)
    (filled : p.bytes ≠ [])
    (fits : p.bytes.length < pathLimit → (d.join p).bytes.length < pathLimit) :
    checkPath (d.join p) = checkPath p := by
  have text : (d.join p).bytes = d.base ++ p.bytes := by
    rw [Path.join_of_relative relative]
  have zeroFree' : 0 ∉ d.base := by
    rw [Path.base]
    split
    · exact zeroFree
    · rw [List.mem_append, not_or]
      exact ⟨zeroFree, by decide⟩
  have zero : (d.join p).bytes.contains 0 = p.bytes.contains 0 := by
    rw [Bool.eq_iff_iff, List.contains_iff_mem, List.contains_iff_mem, text, List.mem_append]
    exact ⟨fun among => among.resolve_left zeroFree', .inr⟩
  have long : pathLimit ≤ (d.join p).bytes.length ↔ pathLimit ≤ p.bytes.length := by
    constructor
    · intro long
      exact Nat.le_of_not_lt fun short => Nat.not_lt.2 long (fits short)
    · intro long
      rw [text, List.length_append]
      omega
  have filled' : (d.join p).bytes ≠ [] := by
    rw [text]
    exact List.append_ne_nil_of_right_ne_nil _ filled
  rw [checkPath, checkPath, zero, if_neg filled', if_neg filled]
  simp only [long]

/-- A relative path leads where the joined path leads, as long as the latter is not too long. -/
theorem resolve_joined (standing : Standing fs l) (relative : p.isAbsolute = false)
    (filled : p.bytes ≠ [])
    (fits : p.bytes.length < pathLimit → (l.path.join p).bytes.length < pathLimit)
    (here : Place) : fs.resolve here purpose (l.path.join p) = fs.resolve (.live l) purpose p := by
  have absolute : (l.path.join p).isAbsolute = true := Path.isAbsolute_join rfl
  have fromRoot : Standing fs ([] ++ l) := standing
  have walked : fs.walk purpose (.live []) (l ++ p.steps) = fs.walk purpose (.live l) p.steps :=
    walk_standing fromRoot (steps_ne relative filled)
  rw [resolve, resolve, checkPath_join (zero_notMem_path standing.names) relative filled fits,
    startOf, startOf, if_pos absolute, relative, if_neg (by decide),
    Path.steps_joined standing.names relative filled, resolveFrom, resolveFrom, walked]

theorem openEmpty_joined (standing : Standing fs l) (relative : p.isAbsolute = false)
    (filled : p.bytes ≠ [])
    (fits : p.bytes.length < pathLimit → (l.path.join p).bytes.length < pathLimit)
    (here : Place) : fs.openEmpty here (l.path.join p) = fs.openEmpty (.live l) p := by
  rw [openEmpty, openEmpty, resolve_joined standing relative filled fits here]

end Standing

/-! ## Where paths lead -/

/-- No link has a zero in its text. -/
def ZeroFree (fs : FileSystem) : Prop :=
  ∀ location target, fs.node? location = some (.link target) → 0 ∉ target.bytes

/-- A directory that is there. -/
def Upright (fs : FileSystem) (place : Place) : Prop :=
  place.lost = 0 ∧ Standing fs place.location

/-- Steps as the text of a path has them. -/
def Readable (steps : List Bytes) : Prop :=
  ∀ s ∈ steps, Path.slash ∉ s ∧ 0 ∉ s

/-- What a walk may come to: a directory that is there, or a link that begins at one. -/
def Leads (fs : FileSystem) : Walked → Prop
  | .reached (.directory place) => Upright fs place
  | .reached _ | .failed _ => True
  | .link place target rest => Upright fs place ∧ 0 ∉ target.bytes ∧ Readable rest

section Leads

variable {fs : FileSystem} {place : Place} {purpose : Purpose} {steps : List Bytes}

theorem standing_root (fs : FileSystem) : Standing fs [] := by
  refine ⟨by simp, fun above before => ?_⟩
  rw [List.prefix_nil.1 before]
  exact node?_root fs

theorem upright_parent (upright : Upright fs place) : Upright fs place.parent := by
  obtain ⟨there, standing⟩ := upright
  refine ⟨by simp [Place.parent, there], ?_, ?_⟩
  · intro s among
    exact standing.names s (List.mem_of_mem_dropLast among)
  · intro above before
    exact standing.directories above (before.trans (List.dropLast_prefix place.location))

theorem upright_into {s : Bytes} (upright : Upright fs place) (name : IsName s)
    (is : fs.node? (place.location ++ [s]) = some .directory) :
    Upright fs (.live (place.location ++ [s])) := by
  refine ⟨rfl, ?_, ?_⟩
  · intro t among
    rcases List.mem_append.1 among with among | among
    · exact upright.2.names t among
    · rwa [List.mem_singleton.1 among]
  · intro above before
    rcases List.prefix_concat_iff.1 before with rfl | before
    · exact is
    · exact upright.2.directories above before

theorem mem_of_mem_split {b s : Bytes} {c : UInt8} (apart : c ≠ Path.slash)
    (segment : s ∈ Path.split b) (among : c ∈ s) : c ∈ b := by
  rw [← Path.glue_split b, Path.mem_glue_iff apart]
  exact ⟨s, segment, among⟩

theorem readable_steps {p : Path} (zeroFree : 0 ∉ p.bytes) : Readable p.steps := by
  intro s among
  rcases List.mem_append.1 among with among | among
  · have segment := List.mem_of_mem_filter among
    exact ⟨Path.slash_notMem_of_mem_split segment,
      fun zero => zeroFree (mem_of_mem_split (by decide) segment zero)⟩
  · split at among
    · rw [List.mem_singleton.1 among]
      exact ⟨List.not_mem_nil, List.not_mem_nil⟩
    · cases among

/-- A walk that begins in a directory that is there comes to nothing else. -/
theorem leads_walk (zeroFree : ZeroFree fs) (upright : Upright fs place)
    (readable : Readable steps) : Leads fs (fs.walk purpose place steps) := by
  induction steps generalizing place with
  | nil => exact upright
  | cons s rest ih =>
    have later : Readable rest := fun t among => readable t (List.mem_cons_of_mem s among)
    obtain ⟨slashFree, zero⟩ := readable s List.mem_cons_self
    rw [walk]
    by_cases idle : s = [] ∨ s = Path.dot
    · rw [if_pos idle]
      exact ih upright later
    · rw [if_neg idle]
      by_cases up : s = Path.dotDot
      · rw [if_pos up]
        exact ih (upright_parent upright) later
      · rw [if_neg up]
        by_cases last : purpose = .create ∧ rest = [[]]
        · rw [if_pos last]
          trivial
        · rw [if_neg last, if_neg (not_not.2 upright.1)]
          by_cases long : maxName < s.length
          · rw [if_pos long]
            trivial
          · rw [if_neg long]
            -- Whatever could be wrong with the name has ended the walk by now.
            have name : IsName s := ⟨fun nothing => idle (.inl nothing),
              fun isDot => idle (.inr isDot), up, slashFree, zero, Nat.le_of_not_lt long⟩
            dsimp only
            cases found : fs.node? (place.location ++ [s]) with
            | none =>
              dsimp only
              split <;> trivial
            | some node =>
              cases node with
              | directory => exact ih (upright_into upright name found) later
              | file id contents =>
                dsimp only
                split <;> trivial
              | link target =>
                dsimp only
                split
                · trivial
                · exact ⟨upright, zeroFree _ _ found, later⟩

theorem upright_startOf (upright : Upright fs place) (p : Path) :
    Upright fs (startOf place p) := by
  rw [startOf]
  split
  · exact ⟨rfl, standing_root fs⟩
  · exact upright

theorem upright_of_resolveFrom (zeroFree : ZeroFree fs) {links : Nat} (upright : Upright fs place)
    (readable : Readable steps) {reached : Place}
    (leads : fs.resolveFrom purpose links place steps = .ok (.directory reached)) :
    Upright fs reached := by
  have ends : ∀ {place steps result}, Upright fs place → Readable steps →
      fs.walk purpose place steps = .reached result → result = .directory reached →
      Upright fs reached := by
    rintro place steps result upright readable came rfl
    have walked : Leads fs (fs.walk purpose place steps) := leads_walk zeroFree upright readable
    rwa [came] at walked
  induction links generalizing place steps with
  | zero =>
    rw [resolveFrom] at leads
    cases came : fs.walk purpose place steps with
    | reached result =>
      rw [came] at leads
      exact ends upright readable came (Except.ok.inj leads)
    | failed error | link start target rest =>
      rw [came] at leads
      cases leads
  | succ links ih =>
    rw [resolveFrom] at leads
    cases came : fs.walk purpose place steps with
    | reached result =>
      rw [came] at leads
      exact ends upright readable came (Except.ok.inj leads)
    | failed error =>
      rw [came] at leads
      cases leads
    | link start target rest =>
      have walked : Leads fs (fs.walk purpose place steps) :=
        leads_walk zeroFree upright readable
      rw [came] at leads walked
      obtain ⟨there, zero, later⟩ := walked
      -- The walk goes on with the steps of the link, and then with those that were left.
      refine ih (upright_startOf there target) ?_ leads
      intro s among
      rcases List.mem_append.1 among with among | among
      · exact readable_steps zero s among
      · exact later s among

theorem zero_notMem_of_checkPath {p : Path} (passes : checkPath p = .ok ()) : 0 ∉ p.bytes := by
  intro among
  rw [checkPath, if_pos (List.contains_iff_mem.2 among)] at passes
  cases passes

/-- A directory that a path leads to stands. -/
theorem upright_of_directory (zeroFree : ZeroFree fs) {here : Place} (upright : Upright fs here)
    {p : Path} (leads : fs.directory here p = .ok place) : Upright fs place := by
  rw [directory] at leads
  cases resolved : fs.resolve here .use p with
  | error e =>
    rw [resolved] at leads
    cases leads
  | ok reached =>
    rw [resolved] at leads
    cases reached with
    | file | link | vacant => cases leads
    | directory reached =>
      obtain rfl := Except.ok.inj leads
      rw [resolve] at resolved
      cases passes : checkPath p with
      | error e =>
        rw [passes] at resolved
        cases resolved
      | ok =>
        rw [passes] at resolved
        exact upright_of_resolveFrom zeroFree (upright_startOf upright p)
          (readable_steps (zero_notMem_of_checkPath passes)) resolved

end Leads

end AppLauncher.FileSystem
