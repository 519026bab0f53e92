import AppLauncher.Shell.Glob

/-!
# Fields

Text that came into a command line unquoted falls apart into fields at the characters of `IFS`, the
separators. Blanks among them are weaker than the others: they never make an empty field, and one of
the others between them makes a single end of a field together with them. Quoted characters never
separate anything.

A zero character can stand in a value between the arguments it was put together from. It counts as
a blank separator whatever `IFS` is.
-/

namespace AppLauncher.Shell

/-- Where fields end. -/
structure Separators where
  chars : Text
  deriving Repr

namespace Separators

/-- Whether a character ends a field. -/
def ends (s : Separators) (c : PatternChar) : Bool :=
  !c.2 && (c.1 == '\x00' || s.chars.contains c.1)

/-- Whether a character ends a field and makes no empty one. -/
def isBlank (s : Separators) (c : PatternChar) : Bool :=
  s.ends c && (c.1 == '\x00' || Text.isBlank c.1)

/-- The text without its blanks at the beginning. -/
def dropBlanks (s : Separators) (text : List PatternChar) : List PatternChar :=
  text.dropWhile s.isBlank

/-- The text without its blanks at the end. -/
def dropLastBlanks (s : Separators) (text : List PatternChar) : List PatternChar :=
  (s.dropBlanks text.reverse).reverse

/-- What follows the end of a field that a text begins with: blanks, and at most one separator of
another kind. -/
def afterEnd (s : Separators) : List PatternChar → List PatternChar
  | [] => []
  | c :: rest =>
    if s.isBlank c then
      match s.dropBlanks rest with
      | [] => []
      | d :: more => if s.ends d then s.dropBlanks more else d :: more
    else s.dropBlanks rest

/-- A field without the separator at its end, and what follows that. -/
def field (s : Separators) (text : List PatternChar) : List PatternChar × List PatternChar :=
  (text.takeWhile fun c => !s.ends c, s.afterEnd (text.dropWhile fun c => !s.ends c))

/-- The values for several variables: a field each, and for the last one all that is left. -/
def values (s : Separators) (text : List PatternChar) : (names : Nat) → List Text
  | 0 => []
  | 1 =>
    let text := s.dropBlanks text
    let (field, rest) := s.field text
    let value := if rest.isEmpty then field else s.dropLastBlanks text
    [value.map Prod.fst]
  | names + 1 =>
    let (field, rest) := s.field (s.dropBlanks text)
    field.map Prod.fst :: s.values rest names

end Separators

/-- Fields that are being put together. -/
structure Fields where
  /-- Those that have ended. -/
  done : List (List PatternChar)
  /-- The one that goes on, if it has begun. -/
  last : Option (List PatternChar)
  deriving Repr

namespace Fields

def empty : Fields :=
  ⟨[], none⟩

/-- Adds text to the last field, which begins with it if there is none. -/
def add (fields : Fields) (text : List PatternChar) : Fields :=
  { fields with last := some (fields.last.getD [] ++ text) }

/-- Ends the last field, an empty one if it has not begun. -/
def close (fields : Fields) : Fields :=
  ⟨fields.done ++ [fields.last.getD []], none⟩

/-- Adds text that falls apart, in at most `bound` steps. -/
def spread (separators : Separators) : (bound : Nat) → Fields → List PatternChar → Fields
  | 0, fields, _ => fields
  | bound + 1, fields, text =>
    let text := if fields.last.isNone then separators.dropBlanks text else text
    let run := text.takeWhile fun c => !separators.ends c
    let fields := if run.isEmpty then fields else fields.add run
    if run.length = text.length then fields
    else spread separators bound fields.close (separators.field text).2

/-- Adds arguments, between which there are zero characters. Only there is the end of a field. -/
def addList (fields : Fields) (text : Text) : Fields :=
  text.foldl (fun fields c => if c = '\x00' then fields.close.add [] else fields.add [(c, true)])
    (fields.add [])

def all (fields : Fields) : List (List PatternChar) :=
  fields.done ++ fields.last.toList

end Fields

/-- A separator of its own kind ends a field, be it empty. -/
example : (Fields.spread ⟨" :".toList⟩ 9 .empty (" : a:: b ".toList.map (·, false))).all =
    [[], [('a', false)], [], [('b', false)]] := by decide

/-- The last variable gets all that is left. -/
example : (Separators.mk " ".toList).values (" a b  c ".toList.map (·, false)) 2 =
    ["a".toList, "b  c".toList] := by decide

end AppLauncher.Shell
