import AppLauncher.Text.Utf8

/-!
# Paths as text

A path is a byte string that `/` cuts into segments. Its components are what the segments mean: a
root when the path starts with `/`, then every segment that is neither empty nor `.`, a `.` at the
very start of a relative path apart. Two texts with the same components name the same thing.

`parent?` and `fileName?` take the last component off. They keep the text that is left as it was
written, so `a//b/c/.` has the parent `a//b`.
-/

namespace AppLauncher

/-- A path as it was written. -/
structure Path where
  bytes : Bytes
  deriving DecidableEq, Repr

namespace Path

/-- The byte between two segments. -/
def slash : UInt8 := 0x2F

/-- The byte that parts a stem from an extension. -/
def point : UInt8 := 0x2E

/-- The segment that stays where it is. -/
def dot : Bytes := [point]

/-- The segment that goes up. -/
def dotDot : Bytes := [point, point]

def ofString (s : String) : Path :=
  ⟨Utf8.ofString s⟩

/-- A path as messages show it. -/
def display (p : Path) : String :=
  Utf8.toStringLossy p.bytes

/-- A path that starts at the root. -/
def isAbsolute (p : Path) : Bool :=
  p.bytes.head? == some slash

/-- Cuts bytes at every slash; there is one more segment than there are slashes. -/
def split : Bytes → List Bytes
  | [] => [[]]
  | b :: rest =>
    if b = slash then [] :: split rest
    else
      match split rest with
      | [] => [[b]]
      | s :: more => (b :: s) :: more

/-- Puts a slash between segments. -/
def glue : List Bytes → Bytes
  | [] => []
  | [s] => s
  | s :: rest => s ++ slash :: glue rest

theorem split_ne_nil (b : Bytes) : split b ≠ [] := by
  induction b with
  | nil => simp [split]
  | cons c rest ih =>
    simp only [split]
    split
    · simp
    · split <;> simp

/-- A path is its segments with slashes between them. -/
theorem glue_split (b : Bytes) : glue (split b) = b := by
  induction b with
  | nil => rfl
  | cons c rest ih =>
    have nonempty := split_ne_nil rest
    by_cases isSlash : c = slash
    · cases segments : split rest with
      | nil => exact absurd segments nonempty
      | cons s more => simpa [split, isSlash, segments, glue] using ih
    · cases segments : split rest with
      | nil => exact absurd segments nonempty
      | cons s more =>
        rw [segments] at ih
        cases more <;> simpa [split, isSlash, segments, glue] using ih

/-- One step of a path. -/
inductive Component where
  /-- The start of an absolute path. -/
  | root
  /-- A `.` at the start of a relative path. -/
  | here
  /-- A `..`. -/
  | up
  /-- An ordinary name. -/
  | name (bytes : Bytes)
  deriving DecidableEq, Repr

/-- What a segment means after the first place. -/
def Component.ofSegment? (s : Bytes) : Option Component :=
  if s = [] ∨ s = dot then none
  else if s = dotDot then some .up
  else some (.name s)

def components (p : Path) : List Component :=
  match split p.bytes with
  | [] => []
  | first :: rest =>
    let head :=
      if p.isAbsolute then some .root
      else if first = dot then some .here
      else Component.ofSegment? first
    head.toList ++ rest.filterMap Component.ofSegment?

/-- Whether a segment after the first place means nothing. -/
def isIdle (s : Bytes) : Bool :=
  s.isEmpty || s == dot

/-- Segments, last first, without those at the end that mean nothing. The first segment of a path
always stays: it is the root, a leading `.` or a name. -/
def dropIdle : List Bytes → List Bytes
  | [] => []
  | [first] => [first]
  | s :: before => if isIdle s then dropIdle before else s :: before

/-- The text of segments that are given last first. The root alone is a slash. -/
def ofReversed : List Bytes → Path
  | [] => ⟨[]⟩
  | [[]] => ⟨[slash]⟩
  | segments => ⟨glue segments.reverse⟩

/-- Takes the last component off: what it is, and the text before it. A root is not taken off. -/
def splitLast? (p : Path) : Option (Bytes × Path) :=
  match dropIdle (split p.bytes).reverse with
  | [] => none
  | [first] => if first.isEmpty then none else some (first, ⟨[]⟩)
  | last :: before => some (last, ofReversed (dropIdle before))

/-- The path without its last component; a root and the empty path have no parent. -/
def parent? (p : Path) : Option Path :=
  p.splitLast?.map (·.2)

/-- The last component when it is an ordinary name. -/
def fileName? (p : Path) : Option Bytes :=
  match p.components.getLast? with
  | some (.name s) => some s
  | _ => none

/-- A name without its extension: the text before the last point, or the whole name when that
text is empty or there is no point. -/
def stemOf (name : Bytes) : Bytes :=
  match name.reverse.dropWhile (· ≠ point) with
  | [] => name
  | _ :: before => if before.isEmpty then name else before.reverse

/-- The stem of the last component. -/
def fileStem? (p : Path) : Option Bytes :=
  p.fileName?.map stemOf

/-- The path `q` seen from `p`: an absolute `q` stands alone, and one slash is put between the two
unless `p` is empty or ends in one. -/
def join (p q : Path) : Path :=
  if q.isAbsolute then q
  else if p.bytes = [] ∨ p.bytes.getLast? = some slash then ⟨p.bytes ++ q.bytes⟩
  else ⟨p.bytes ++ slash :: q.bytes⟩

/-- Adds one component to the end of a path. -/
def push (p : Path) : Component → Path
  | .root => ⟨[slash]⟩
  | .here => p.join ⟨dot⟩
  | .up => p.join ⟨dotDot⟩
  | .name s => p.join ⟨s⟩

/-- Exactly two slashes at the start, which absolute paths keep. -/
def hasDoubleRoot (p : Path) : Bool :=
  match p.bytes with
  | a :: b :: rest => a == slash && b == slash && rest.head? != some slash
  | _ => false

/-- The path without what means nothing in it, seen from the directory `base` when it is relative.
A `..` stays, because the directory before it may be a link. -/
def absolute (p base : Path) : Path :=
  let start : Path :=
    if p.hasDoubleRoot then ⟨[slash, slash]⟩ else if p.isAbsolute then ⟨[slash]⟩ else base
  let full := (p.components.filter (fun c => c ≠ .root ∧ c ≠ .here)).foldl push start
  if p.bytes.getLast? = some slash then full.join ⟨[]⟩ else full

end Path

end AppLauncher
