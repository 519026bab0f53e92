import AppLauncher.Proofs.FileSystem.Routes
import AppLauncher.Proofs.Launch.Stages

/-!
# Entering the install directory

The install directory is written like it stands in the path of the launcher, it is made absolute as
a text, and the absolute path is what the launcher changes to. No link is resolved for the text, and
no `..` is taken out of it, so it leads to the very directory that was written
(`directory_absolute_iff`).

**`enter_resolved`**: entering succeeds exactly when the path as it was written leads to a
directory, and then it is this directory that becomes the working directory and that the absolute
path leads to, from everywhere. So the files below it are the same by the absolute path.
-/

namespace AppLauncher

open FileSystem (Standing Route pathLimit maxLinks checkPath checkPath_eq_ok_iff
  directory_eq_ok_iff)

/-! ## What was written and what is absolute -/

namespace Path

/-- A path that is left of another one without its last component. -/
structure IsDirectoryPart (d : Path) : Prop where
  nonempty : d.bytes ≠ []
  parent : ∃ p : Path, p.parent? = some d

theorem isDirectoryPart_dot : IsDirectoryPart ⟨dot⟩ :=
  ⟨by decide, .ofString "./launcher", by decide⟩

/-- A directory part ends in a slash only if it is the root. -/
theorem IsDirectoryPart.rootOnly {d : Path} (part : IsDirectoryPart d)
    (ends : d.bytes.getLast? = some slash) : d = ⟨[slash]⟩ := by
  obtain ⟨nonempty, p, has⟩ := part
  obtain ⟨first, before, last, shape, rfl⟩ := ends_of_parent? has nonempty
  exact endsInSlash_trimmed shape.slashFree ends

end Path

theorem InstallDirectory.isDirectoryPart_derive {executableDirectory : Path}
    (executable : executableDirectory.IsDirectoryPart) (program : Path) :
    (derive executableDirectory program).IsDirectoryPart := by
  rw [derive]
  cases has : program.parent? with
  | none => exact executable
  | some parent =>
    dsimp only
    by_cases nothing : parent.bytes = []
    · rw [if_pos (by simpa using nothing)]
      exact executable
    · rw [if_neg (by simpa using nothing)]
      exact ⟨nothing, program, has⟩

theorem Configuration.path_filled (name : String) : (path name).bytes ≠ [] := by
  have extension : Utf8.ofString (name ++ ".ini") ≠ [] := by
    rw [Utf8.ofString_append]
    exact List.append_ne_nil_of_right_ne_nil _ (by decide)
  unfold path Path.join
  split
  · exact extension
  · rw [if_neg (by decide)]
    simp

section Absolute

variable {fs : FileSystem} {l : Location} {d : Path}

theorem absolute_live (l : Location) (d : Path) :
    InstallDirectory.absolute (.live l) d = .ok (d.absolute l.path) := by
  rw [InstallDirectory.absolute]
  split
  next absolute => rw [Path.absolute_of_isAbsolute absolute ⟨[]⟩ l.path]
  · rfl

/-- A path has the same routes as the legs of its absolute form. -/
theorem route_legsFrom_iff (standing : Standing fs l) (d : Path) (reached : Place) :
    (∃ used ≤ maxLinks, Route fs (.live []) (d.legsFrom l) used reached) ↔
      ∃ used ≤ maxLinks, Route fs (FileSystem.startOf (.live l) d) d.steps used reached := by
  have kept : d.legs.filter (!Path.isIdle ·) = d.legs :=
    List.filter_eq_self.2 fun s among => by simp [(Path.isLeg_of_mem_legs among).notIdle]
  have same : d.legs.filter (!Path.isIdle ·) = d.steps.filter (!Path.isIdle ·) := by
    rw [kept, FileSystem.filter_steps]
  have own : ∀ start used, Route fs start d.legs used reached ↔
      Route fs start d.steps used reached := fun start used =>
    ⟨fun route => route.of_legs same.symm, fun route => route.of_legs same⟩
  rw [Path.legsFrom, FileSystem.startOf]
  cases d.isAbsolute with
  | true => simp only [if_true, List.nil_append, own]
  | false =>
    have further : d.legs ≠ [[]] := by
      intro only
      have leg : Path.IsLeg [] := Path.isLeg_of_mem_legs (by rw [only]; exact List.mem_cons_self)
      exact leg.filled rfl
    have fromRoot : Standing fs ([] ++ l) := standing
    have walked : fs.walk .use (.live []) (l ++ d.legs) = fs.walk .use (.live l) d.legs :=
      FileSystem.walk_standing fromRoot further
    simp only [Bool.false_eq_true, if_false, ← own]
    rw [← FileSystem.resolveFrom_eq_directory_iff, ← FileSystem.resolveFrom_eq_directory_iff,
      FileSystem.resolveFrom_of_walk walked]

/-- As an absolute path, a directory part leads to the same directory, from everywhere. -/
theorem directory_absolute_iff (standing : Standing fs l) (part : d.IsDirectoryPart)
    (short : d.bytes.length < pathLimit) (short' : (d.absolute l.path).bytes.length < pathLimit)
    (anywhere reached : Place) :
    fs.directory anywhere (d.absolute l.path) = .ok reached ↔
      fs.directory (.live l) d = .ok reached := by
  have isRoot := Path.isRoot_of_hasDoubleRoot d
  have areLegs := Path.isLeg_of_mem_legsFrom standing.names d
  have text := Path.absolute_eq_rooted standing.names part.rootOnly
  have filled : (d.absolute l.path).bytes ≠ [] := by
    rw [text]
    obtain ⟨rest, bytes⟩ := Path.isAbsolute_iff.1 (Path.isAbsolute_rooted isRoot)
    rw [bytes]
    exact List.cons_ne_nil _ _
  have zero : 0 ∈ (d.absolute l.path).bytes ↔ 0 ∈ d.bytes := by
    have notInNames : ∀ s ∈ l, 0 ∉ s := fun s among => (standing.names s among).zeroFree
    rw [text, Path.zero_mem_rooted_iff isRoot, Path.zero_mem_iff_legs, Path.legsFrom]
    constructor
    · rintro ⟨s, among, zero⟩
      rcases List.mem_append.1 among with among | among
      · split at among
        · cases among
        · exact absurd zero (notInNames s among)
      · exact ⟨s, among, zero⟩
    · rintro ⟨s, among, zero⟩
      exact ⟨s, List.mem_append_right _ among, zero⟩
  have checked : checkPath (d.absolute l.path) = .ok () ↔ checkPath d = .ok () := by
    rw [checkPath_eq_ok_iff, checkPath_eq_ok_iff, zero]
    exact and_congr_right fun _ => ⟨fun _ => ⟨part.nonempty, short⟩, fun _ => ⟨filled, short'⟩⟩
  rw [directory_eq_ok_iff, directory_eq_ok_iff, checked, ← route_legsFrom_iff standing, text]
  simp only [FileSystem.route_rooted_iff isRoot areLegs]

end Absolute

/-! ## Entering -/

namespace InstallDirectory

/-- **Entering the install directory.** The path of the directory that was written leads to a
directory exactly when it is entered, and then this directory is the working directory. The absolute
path leads to it from everywhere; it is written without `.`, without a slash at its end and with
single slashes, except that two at its start are kept; and all other components are those that were
written, after the working directory if they are relative. Reading the configuration below it is
reading it from the new working directory, unless there are too many links. A directory that cannot
be entered leaves everything as it was. -/
theorem enter_resolved {σ : Type} (world : World σ) (program written : Path) (l : Location)
    (here : world.here = .live l) (standing : Standing world.files l)
    (executable : world.executableDirectory.IsDirectoryPart)
    (derived : derive world.executableDirectory program = written)
    (short : written.bytes.length < pathLimit)
    (short' : (written.absolute l.path).bytes.length < pathLimit) :
    (∀ place, world.files.directory world.here written = .ok place →
      ∃ directory,
        (enter program).run world = (.ok directory, enteredWorld world directory place) ∧
        directory.isAbsolute = true ∧
        (∀ anywhere, world.files.directory anywhere directory = .ok place) ∧
        directory.components =
          .root :: ((if written.isAbsolute then [] else l.map .name) ++
            written.components.filter fun c => c ≠ .root ∧ c ≠ .here) ∧
        (∀ s ∈ Path.split directory.bytes, s ≠ Path.dot) ∧
        (directory.bytes.getLast? = some Path.slash →
          directory.bytes = [Path.slash] ∨ directory.bytes = [Path.slash, Path.slash]) ∧
        (∀ before after, directory.bytes = before ++ Path.slash :: Path.slash :: after →
          before = [] ∧ written.hasDoubleRoot = true) ∧
        directory.hasDoubleRoot = written.hasDoubleRoot ∧
        ∀ name anywhere, (directory.join (Configuration.path name)).bytes.length < pathLimit →
          world.files.read anywhere (directory.join (Configuration.path name)) =
              world.files.read place (Configuration.path name) ∨
            world.files.read anywhere (directory.join (Configuration.path name)) =
              .error .tooManyLinks) ∧
    ∀ reason, world.files.directory world.here written = .error reason →
      ∃ path source,
        (enter program).run world = (.error (.installDirectory path source), world) := by
  have part : written.IsDirectoryPart := derived ▸ isDirectoryPart_derive executable program
  have isRoot := Path.isRoot_of_hasDoubleRoot written
  have areLegs := Path.isLeg_of_mem_legsFrom standing.names written
  have text := Path.absolute_eq_rooted standing.names part.rootOnly
  have located : absolute world.here (derive world.executableDirectory program) =
      .ok (written.absolute l.path) := by
    rw [derived, here, absolute_live]
  have same := fun anywhere reached =>
    directory_absolute_iff standing part short short' anywhere reached
  constructor
  · intro place leads
    rw [here] at leads
    have leads' := fun anywhere => (same anywhere place).2 leads
    refine ⟨written.absolute l.path, (Entered.mk located (leads' world.here)).run, ?_, leads', ?_⟩
    · rw [text]
      exact Path.isAbsolute_rooted isRoot
    rw [text] at leads' ⊢
    refine ⟨?_, ?_, ?_, ?_, ?_, ?_⟩
    · rw [Path.components_rooted isRoot areLegs, Path.filter_components, Path.moves_eq_legs,
        Path.legsFrom, List.filterMap_append]
      cases written.isAbsolute with
      | true => rfl
      | false => simp [Path.filterMap_names standing.names]
    · exact Path.dot_notMem_rooted isRoot areLegs
    · intro ends
      rw [Path.endsInSlash_rooted isRoot areLegs ends]
      exact isRoot
    · intro before after bytes
      obtain ⟨start, double⟩ := Path.single_rooted isRoot areLegs bytes
      refine ⟨start, ?_⟩
      by_contra single
      rw [if_neg single] at double
      cases double
    · rw [Path.hasDoubleRoot_rooted isRoot areLegs]
      cases written.hasDoubleRoot <;> rfl
    · intro name anywhere fits
      obtain ⟨checked, used, le, route⟩ := directory_eq_ok_iff.1 (leads' anywhere)
      have zeroFree := (checkPath_eq_ok_iff.1 checked).1
      have filled := Configuration.path_filled name
      exact FileSystem.read_join_of_route isRoot areLegs le
        ((FileSystem.route_rooted_iff isRoot areLegs anywhere).1 route) zeroFree filled fits anywhere
  · intro reason fails
    rcases entered_or_barred world program with
      ⟨directory, place, entered⟩ | ⟨path, source, barred⟩
    · obtain rfl := Except.ok.inj (located.symm.trans entered.located)
      have leads := (same world.here place).1 entered.leads
      rw [← here, fails] at leads
      cases leads
    · exact ⟨path, source, barred.run⟩

/-- A directory, and a link that leads to it. -/
def linkedWorld : World Unit where
  files := ⟨[([Utf8.ofString "app"], .directory),
    ([Utf8.ofString "link"], .link (.ofString "app"))], 0⟩
  here := .live []
  executableDirectory := ⟨Path.dot⟩
  log := []
  system := ()

theorem enter_resolved_of_link :
    ∃ directory,
      (enter (.ofString ".//link/./tool")).run linkedWorld =
        (.ok directory, enteredWorld linkedWorld directory (.live [Utf8.ofString "app"])) ∧
      ∀ anywhere, linkedWorld.files.directory anywhere directory =
        .ok (.live [Utf8.ofString "app"]) := by
  obtain ⟨directory, entered, -, leads, -⟩ :=
    (enter_resolved linkedWorld (.ofString ".//link/./tool") (.ofString ".//link") [] rfl
      (FileSystem.standing_root _) Path.isDirectoryPart_dot (by decide) (by decide) (by decide)).1
      (.live [Utf8.ofString "app"]) (by decide)
  exact ⟨directory, entered, leads⟩

end InstallDirectory

end AppLauncher
