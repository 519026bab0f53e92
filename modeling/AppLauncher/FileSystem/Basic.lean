import AppLauncher.Path.Basic

/-!
# Files, directories and symbolic links

A file system says what stands at each location. A location is the list of names on the way from
the root, so it has no `.`, no `..` and no links in it; `FileSystem.node?` is the view that every
statement about a file system is made through.

A file has a number beside its contents. It tells a file apart from another one that was made later
at the same location, which is what an open handle has to do.
-/

namespace AppLauncher

/-- Where something is: the names on the way from the root, outermost first. -/
abbrev Location := List Bytes

namespace Location

/-- A location as an absolute path. -/
def path (location : Location) : Path :=
  ⟨Path.slash :: Path.glue location⟩

end Location

/-- What can stand at a location. -/
inductive Node where
  | directory
  | file (id : Nat) (contents : Bytes)
  /-- A symbolic link, with the path it leads to as it was written. -/
  | link (target : Path)
  deriving DecidableEq, Repr

/-- What stands where. -/
structure FileSystem where
  entries : List (Location × Node)
  /-- The number of the next file. -/
  nextId : Nat
  deriving Repr

namespace FileSystem

/-- A file system with nothing below the root. -/
def empty : FileSystem :=
  ⟨[], 0⟩

/-- What stands at a location. The root is a directory whatever the entries are. -/
def node? (fs : FileSystem) (location : Location) : Option Node :=
  if location = [] then some .directory else fs.entries.lookup location

/-- Puts a node at a location, in place of what was there. -/
def insert (fs : FileSystem) (location : Location) (node : Node) : FileSystem :=
  { fs with entries := (location, node) :: fs.entries.filter (·.1 ≠ location) }

@[simp] theorem node?_root (fs : FileSystem) : fs.node? [] = some .directory := by
  simp [node?]

theorem node?_insert_self {fs : FileSystem} {location : Location} {node : Node}
    (below : location ≠ []) : (fs.insert location node).node? location = some node := by
  simp [node?, insert, below]

/-- Leaving out the entries of one location does not change what is found at another. -/
theorem lookup_filter_ne {entries : List (Location × Node)} {location other : Location}
    (apart : other ≠ location) :
    (entries.filter (·.1 ≠ location)).lookup other = entries.lookup other := by
  induction entries with
  | nil => rfl
  | cons entry rest ih =>
    obtain ⟨key, node⟩ := entry
    by_cases isHere : key = location
    · have skipped : (other == key) = false := by simpa [isHere] using apart
      rw [List.filter_cons_of_neg (by simpa using isHere), ih, List.lookup_cons, skipped]
    · rw [List.filter_cons_of_pos (by simpa using isHere), List.lookup_cons, List.lookup_cons, ih]

/-- What is put at one location leaves all others as they were. -/
theorem node?_insert_ne {fs : FileSystem} {location other : Location} {node : Node}
    (apart : other ≠ location) : (fs.insert location node).node? other = fs.node? other := by
  have differs : (other == location) = false := by simpa using apart
  rw [node?, node?, insert, List.lookup_cons, differs, lookup_filter_ne apart]

/-- Takes away what stands at a location or below it. -/
def erase (fs : FileSystem) (location : Location) : FileSystem :=
  { fs with entries := fs.entries.filter fun entry => !location.isPrefixOf entry.1 }

/-- Takes away what stands below a location. -/
def clear (fs : FileSystem) (location : Location) : FileSystem :=
  { fs with
    entries := fs.entries.filter fun entry =>
      !(location.isPrefixOf entry.1 && entry.1 ≠ location) }

/-- Makes a new file with the given contents. -/
def create (fs : FileSystem) (location : Location) (contents : Bytes) : FileSystem :=
  { fs.insert location (.file fs.nextId contents) with nextId := fs.nextId + 1 }

/-- Everything below a location. -/
def below (fs : FileSystem) (location : Location) : List (Location × Node) :=
  fs.entries.filter fun entry => location.isPrefixOf entry.1 && entry.1 ≠ location

end FileSystem

/-- A directory to start a relative path at, such as the working directory. Directories that were
removed while they were in use keep their place: `lost` counts the innermost names that are gone. -/
structure Place where
  location : Location
  lost : Nat
  deriving DecidableEq, Repr

namespace Place

/-- A directory that exists. -/
def live (location : Location) : Place :=
  ⟨location, 0⟩

/-- The directory around a place; the root is around itself. -/
def parent (place : Place) : Place :=
  ⟨place.location.dropLast, place.lost - 1⟩

/-- The place after everything at and below `removed` has been taken away. -/
def afterErasing (place : Place) (removed : Location) : Place :=
  if removed.isPrefixOf place.location then
    { place with lost := max place.lost (place.location.length - removed.length + 1) }
  else place

/-- The place after everything below `cleared` has been taken away. -/
def afterClearing (place : Place) (cleared : Location) : Place :=
  if cleared = place.location then place
  else if cleared.isPrefixOf place.location then
    place.afterErasing (place.location.take (cleared.length + 1))
  else place

/-- The path of a place as the system reports it; a removed directory has none. -/
def path? (place : Place) : Option Path :=
  if place.lost = 0 then some place.location.path else none

end Place

end AppLauncher
