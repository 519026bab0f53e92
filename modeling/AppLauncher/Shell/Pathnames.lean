import AppLauncher.FileSystem.Access
import AppLauncher.Shell.Glob

/-!
# Patterns that stand for files

An unquoted pattern on a command line stands for the paths that fit it, each part between slashes on
its own. A name that begins with a dot fits only a part that begins with a dot, too.
-/

namespace AppLauncher.Shell.Pathnames

/-- The parts of a pattern between its slashes. -/
def segments (pattern : List PatternChar) : List (List PatternChar) :=
  pattern.foldr (fun c parts =>
    if c.1 = '/' then [] :: parts
    else
      match parts with
      | first :: rest => (c :: first) :: rest
      | [] => [[c]]) [[]]

/-- The names in a directory, `.` and `..` among them. A path without text is the directory one
is in. -/
def names (files : FileSystem) (here : Place) (directory : Text) : List Text :=
  let path : Text := if directory.isEmpty then ['.'] else directory
  match files.directory here path.path with
  | .error _ => []
  | .ok place =>
    if place.lost ≠ 0 then []
    else
      let found := files.entries.filterMap fun entry =>
        match entry.1.getLast? with
        | some name =>
          if entry.1.dropLast = place.location then some (Text.ofBytes name) else none
        | none => none
      [['.'], ['.', '.']] ++ found

/-- Whether a part of a pattern stands for a name. -/
def fitsName (segment : List PatternChar) (name : Text) : Bool :=
  (name.head? != some '.' || segment.head?.map Prod.fst == some '.')
    && Glob.fits (Glob.parts segment) name

/-- Whether something has a path, be it a link that leads nowhere. -/
def isThere (files : FileSystem) (here : Place) (path : Text) : Bool :=
  match files.resolve here .entry path.path with
  | .ok (.vacant _) | .error _ => false
  | .ok _ => true

/-- The paths that begin with the given text and go on with names for the parts of a pattern. -/
def paths (files : FileSystem) (here : Place) (start : Text) : List (List PatternChar) → List Text
  | [] => []
  | [last] =>
    if Glob.isActive last then
      ((names files here start).filter (fitsName last)).map (start ++ ·)
    else
      let path := start ++ last.map Prod.fst
      if isThere files here path then [path] else []
  | segment :: rest =>
    if Glob.isActive segment then
      ((names files here start).filter (fitsName segment)).flatMap fun name =>
        paths files here (start ++ name ++ ['/']) rest
    else paths files here (start ++ segment.map Prod.fst ++ ['/']) rest

/-- The texts that a field stands for: the paths in the order of their bytes, or the field itself if
it is no pattern or nothing fits it. -/
def expand (files : FileSystem) (here : Place) (field : List PatternChar) : List Text :=
  let plain := field.map Prod.fst
  if Glob.isActive field then
    match paths files here [] (segments field) with
    | [] => [plain]
    | found => found.mergeSort fun a b => !decide (b < a)
  else [plain]

end AppLauncher.Shell.Pathnames
