import AppLauncher.Proofs.FileSystem.Frame

/-!
# What does not depend on contents

Where a path leads does not depend on what the files hold. So neither does changing to a directory,
nor opening a file empty. `Alike` relates two file systems that differ in the contents of files at
most; a program that gets along with such differences has read no file.
-/

namespace AppLauncher

/-- A node without the contents of a file. -/
def Node.emptied : Node → Node
  | file id _ => .file id []
  | node => node

/-- What was reached, without the contents of a file. -/
def Reached.emptied : Reached → Reached
  | file location id _ => .file location id []
  | reached => reached

namespace FileSystem

/-- How far a walk came, without the contents of a file. -/
def Walked.emptied : Walked → Walked
  | reached result => .reached result.emptied
  | walked => walked

/-- The same things stand everywhere, but files may hold something else. -/
structure Alike (fs fs' : FileSystem) : Prop where
  nodes : ∀ location, (fs.node? location).map Node.emptied = (fs'.node? location).map Node.emptied
  nextId : fs.nextId = fs'.nextId

section Alike

variable {fs fs' : FileSystem}

theorem Alike.refl (fs : FileSystem) : Alike fs fs :=
  ⟨fun _ => rfl, rfl⟩

theorem Alike.node_cases (alike : Alike fs fs') (location : Location) :
    fs.node? location = fs'.node? location ∨
      ∃ id contents contents', fs.node? location = some (.file id contents) ∧
        fs'.node? location = some (.file id contents') := by
  have same := alike.nodes location
  generalize fs.node? location = found at same ⊢
  generalize fs'.node? location = found' at same ⊢
  rcases found with _ | _ | ⟨id, contents⟩ | _ <;>
    rcases found' with _ | _ | ⟨id', contents'⟩ | _ <;> simp_all [Node.emptied]

theorem walk_alike (alike : Alike fs fs') (purpose : Purpose) (place : Place)
    (steps : List Bytes) :
    (fs.walk purpose place steps).emptied = (fs'.walk purpose place steps).emptied := by
  induction steps generalizing place with
  | nil => rfl
  | cons step rest ih =>
    rw [walk, walk]
    split
    · exact ih place
    split
    · exact ih place.parent
    split
    · rfl
    split
    · rfl
    split
    · rfl
    rcases alike.node_cases (place.location ++ [step]) with same | ⟨id, contents, contents', h, h'⟩
    · dsimp only
      rw [same]
      split
      · exact ih _
      all_goals rfl
    · dsimp only
      rw [h, h']
      dsimp only
      split <;> rfl

theorem resolveFrom_alike (alike : Alike fs fs') (purpose : Purpose) (links : Nat) (place : Place)
    (steps : List Bytes) :
    (fs.resolveFrom purpose links place steps).map Reached.emptied =
      (fs'.resolveFrom purpose links place steps).map Reached.emptied := by
  induction links generalizing place steps with
  | zero =>
    have walked := walk_alike alike purpose place steps
    rw [resolveFrom, resolveFrom]
    cases found : fs.walk purpose place steps <;> cases found' : fs'.walk purpose place steps <;>
      simp_all [Walked.emptied, Except.map]
  | succ links ih =>
    have walked := walk_alike alike purpose place steps
    rw [resolveFrom, resolveFrom]
    cases found : fs.walk purpose place steps <;> cases found' : fs'.walk purpose place steps <;>
      simp_all [Walked.emptied, Except.map]

/-- A path leads to the same thing, whatever the files hold. -/
theorem resolve_alike (alike : Alike fs fs') (here : Place) (purpose : Purpose) (p : Path) :
    (fs.resolve here purpose p).map Reached.emptied =
      (fs'.resolve here purpose p).map Reached.emptied := by
  rw [resolve, resolve]
  cases checkPath p with
  | error e => rfl
  | ok passed => exact resolveFrom_alike alike purpose maxLinks (startOf here p) p.steps

/-- What a path leads to is the same, or it is the same file with other contents. -/
theorem resolve_cases (alike : Alike fs fs') (here : Place) (purpose : Purpose) (p : Path) :
    fs.resolve here purpose p = fs'.resolve here purpose p ∨
      ∃ location id contents contents',
        fs.resolve here purpose p = .ok (.file location id contents) ∧
        fs'.resolve here purpose p = .ok (.file location id contents') := by
  have same := resolve_alike alike here purpose p
  generalize fs.resolve here purpose p = found at same ⊢
  generalize fs'.resolve here purpose p = found' at same ⊢
  rcases found with _ | _ | ⟨location, id, contents⟩ | _ | _ <;>
    rcases found' with _ | _ | ⟨location', id', contents'⟩ | _ | _ <;>
      simp_all [Except.map, Reached.emptied]

theorem directory_alike (alike : Alike fs fs') (here : Place) (p : Path) :
    fs.directory here p = fs'.directory here p := by
  rw [directory, directory]
  rcases resolve_cases alike here .use p with
    same | ⟨location, id, contents, contents', found, found'⟩
  · rw [same]
  · rw [found, found']
    rfl

theorem Alike.insert (alike : Alike fs fs') (location : Location) (node : Node) :
    Alike (fs.insert location node) (fs'.insert location node) := by
  refine ⟨fun other => ?_, alike.nextId⟩
  by_cases here : other = location
  · rw [here, node?, node?, FileSystem.insert, FileSystem.insert, List.lookup_cons_self,
      List.lookup_cons_self]
  · rw [node?_insert_ne here, node?_insert_ne here]
    exact alike.nodes other

theorem Alike.create (alike : Alike fs fs') (location : Location) (contents : Bytes) :
    Alike (fs.create location contents) (fs'.create location contents) := by
  have inserted := alike.insert location (.file fs.nextId contents)
  rw [FileSystem.create, FileSystem.create, ← alike.nextId]
  exact ⟨inserted.nodes, rfl⟩

/-- Opening a file empty reads no file. -/
theorem openEmpty_alike (alike : Alike fs fs') (here : Place) (p : Path) :
    (∃ reason, fs.openEmpty here p = .error reason ∧ fs'.openEmpty here p = .error reason) ∨
      ∃ handle after after', fs.openEmpty here p = .ok (handle, after) ∧
        fs'.openEmpty here p = .ok (handle, after') ∧ Alike after after' := by
  rw [openEmpty, openEmpty]
  rcases resolve_cases alike here .create p with
    same | ⟨location, id, contents, contents', found, found'⟩
  · rw [← same]
    rcases fs.resolve here .create p with
      reason | place | ⟨location, id, contents⟩ | ⟨location, target⟩ | location
    · exact .inl ⟨reason, rfl, rfl⟩
    · exact .inl ⟨_, rfl, rfl⟩
    · exact .inr ⟨_, _, _, rfl, rfl, alike.insert location _⟩
    · exact .inl ⟨_, rfl, rfl⟩
    · exact .inr ⟨_, _, _, rfl, by rw [alike.nextId]; rfl, alike.create location _⟩
  · rw [found, found']
    exact .inr ⟨_, _, _, rfl, rfl, alike.insert location _⟩

theorem alike_of_write (fs : FileSystem) (handle : Handle) (data : Bytes) :
    Alike fs (fs.write handle data).2 := by
  unfold write
  cases found : fs.node? handle.location with
  | none => exact .refl fs
  | some node =>
  cases node with
  | directory => exact .refl fs
  | link target => exact .refl fs
  | file id contents =>
    dsimp only
    split
    next same =>
      refine ⟨fun location => ?_, rfl⟩
      by_cases here : location = handle.location
      · have below : handle.location ≠ [] := by
          intro root
          rw [root, node?_root] at found
          cases found
        rw [here, found, node?_insert_self below]
        rfl
      · rw [node?_insert_ne here]
    · exact .refl fs

end Alike

end FileSystem

end AppLauncher
