import AppLauncher.LogSink

/-!
# What opening and writing leave alone

A file that is opened empty stands where the path leads, and everything that stands elsewhere stays
as it was (`frame_of_openEmpty`). A write through an open file changes nothing but this file
(`frame_of_write`). `SameBut` says the same of any two file systems.

An absolute path leads to the same thing from everywhere, so the working directory does not matter
to it.
-/

namespace AppLauncher.FileSystem

/-- Nothing differs between two file systems but what stands at one location. -/
def SameBut (location : Location) (fs fs' : FileSystem) : Prop :=
  ∀ other, other ≠ location → fs'.node? other = fs.node? other

namespace SameBut

variable {location : Location} {fs fs₁ fs₂ : FileSystem}

theorem refl (location : Location) (fs : FileSystem) : SameBut location fs fs :=
  fun _ _ => rfl

theorem trans (first : SameBut location fs fs₁) (second : SameBut location fs₁ fs₂) :
    SameBut location fs fs₂ :=
  fun other apart => (second other apart).trans (first other apart)

theorem insert (fs : FileSystem) (location : Location) (node : Node) :
    SameBut location fs (fs.insert location node) :=
  fun _ apart => node?_insert_ne apart

end SameBut

/-- Where a path leads that is opened for writing: to a file, or to the free name of one that can be
made. -/
def Target (fs : FileSystem) (here : Place) (p : Path) (location : Location) : Prop :=
  (∃ id contents, fs.resolve here .create p = .ok (.file location id contents)) ∨
    fs.resolve here .create p = .ok (.vacant location)

section Frame

variable {fs fs' : FileSystem} {here : Place} {p : Path} {handle : Handle}

/-- A file that is opened empty stands where the path leads, and nothing else changes. -/
theorem frame_of_openEmpty (opens : fs.openEmpty here p = .ok (handle, fs')) :
    fs.Target here p handle.location ∧ SameBut handle.location fs fs' := by
  rw [openEmpty] at opens
  cases resolved : fs.resolve here .create p with
  | error e =>
    rw [resolved] at opens
    cases opens
  | ok reached =>
    rw [resolved] at opens
    cases reached with
    | directory place => cases opens
    | link location target => cases opens
    | file location id contents =>
      obtain ⟨rfl, rfl⟩ := Prod.mk.inj (Except.ok.inj opens)
      exact ⟨.inl ⟨id, contents, resolved⟩, .insert fs location _⟩
    | vacant location =>
      obtain ⟨rfl, rfl⟩ := Prod.mk.inj (Except.ok.inj opens)
      exact ⟨.inr resolved, .insert fs location _⟩

/-- A write changes nothing but the file that is written to. -/
theorem frame_of_write (fs : FileSystem) (handle : Handle) (data : Bytes) :
    SameBut handle.location fs (fs.write handle data).2 := by
  rw [write]
  split
  · split
    · exact .insert fs _ _
    · exact .refl _ fs
  · exact .refl _ fs

/-! ## Absolute paths -/

theorem resolve_of_isAbsolute (absolute : p.isAbsolute = true) (here there : Place)
    (purpose : Purpose) : fs.resolve here purpose p = fs.resolve there purpose p := by
  rw [resolve, resolve, startOf, startOf, if_pos absolute, if_pos absolute]

theorem read_of_isAbsolute (absolute : p.isAbsolute = true) (here there : Place) :
    fs.read here p = fs.read there p := by
  rw [read, read, resolve_of_isAbsolute absolute here there]

theorem openEmpty_of_isAbsolute (absolute : p.isAbsolute = true) (here there : Place) :
    fs.openEmpty here p = fs.openEmpty there p := by
  rw [openEmpty, openEmpty, resolve_of_isAbsolute absolute here there]

theorem directory_of_isAbsolute (absolute : p.isAbsolute = true) (here there : Place) :
    fs.directory here p = fs.directory there p := by
  rw [directory, directory, resolve_of_isAbsolute absolute here there]

end Frame

end AppLauncher.FileSystem
