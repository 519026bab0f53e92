import AppLauncher.Shell.Text

/-!
# Patterns for names and texts

In a pattern `*` stands for any text, `?` for any character and `[...]` for one of the characters in
it. A character of a pattern that was quoted stands for itself.
-/

namespace AppLauncher.Shell

/-- A character of a pattern, and whether it was quoted. -/
abbrev PatternChar := Char × Bool

namespace Glob

/-- One of the characters in brackets. -/
inductive Member where
  | range (first last : Char)
  | named (name : String)
  deriving DecidableEq, Repr

/-- A part of a pattern. -/
inductive Part where
  | one (c : Char)
  | any
  | several
  | set (negated : Bool) (members : List Member)
  deriving DecidableEq, Repr

/-- Whether a character belongs to a class with a name. -/
def inClass (name : String) (c : Char) : Bool :=
  match name with
  | "alnum" => c.isAlphanum
  | "alpha" => c.isAlpha
  | "digit" => c.isDigit
  | "upper" => c.isUpper
  | "lower" => c.isLower
  | "blank" => c == ' ' || c == '\t'
  | "space" => c == ' ' || ('\t' ≤ c && c ≤ '\x0d')
  | "cntrl" => c < ' ' || c == '\x7f'
  | "print" => ' ' ≤ c && c < '\x7f'
  | "graph" => ' ' < c && c < '\x7f'
  | "punct" => ' ' < c && c < '\x7f' && !c.isAlphanum
  | "xdigit" => c.isDigit || ('a' ≤ c && c ≤ 'f') || ('A' ≤ c && c ≤ 'F')
  | _ => false

/-- Whether a member is or holds a character. -/
def Member.admits (m : Member) (c : Char) : Bool :=
  match m with
  | range first last => first ≤ c && c ≤ last
  | named name => inClass name c

/-- The name of a class that stands in brackets of its own, after the first of them and a colon. -/
def className? (pattern : List PatternChar) : Option (String × List PatternChar) :=
  let name := pattern.takeWhile fun p => p.1.isAlpha
  match pattern.drop name.length with
  | (':', _) :: (']', _) :: rest => some (String.ofList (name.map Prod.fst), rest)
  | _ => none

/-- The members of a set up to its bracket, at most `bound` of them, and what follows. There is no
set if there is no bracket. -/
def members? : (bound : Nat) → (isFirst : Bool) → List PatternChar →
    Option (List Member × List PatternChar)
  | 0, _, _ => none
  | _, _, [] => none
  | bound + 1, isFirst, (c, quoted) :: rest =>
    let plain : Option (List Member × List PatternChar) :=
      match rest with
      | ('-', false) :: (last, lastQuoted) :: more =>
        if last = ']' ∧ !lastQuoted then
          (members? bound false rest).map fun found => (.range c c :: found.1, found.2)
        else (members? bound false more).map fun found => (.range c last :: found.1, found.2)
      | _ => (members? bound false rest).map fun found => (.range c c :: found.1, found.2)
    if c = ']' ∧ !quoted ∧ !isFirst then some ([], rest)
    else if c = '[' ∧ !quoted then
      match rest with
      | (':', _) :: more =>
        match className? more with
        | some (name, more) =>
          (members? bound false more).map fun found => (.named name :: found.1, found.2)
        | none => plain
      | _ => plain
    else plain

/-- The set after a bracket, and what follows it. -/
def set? (pattern : List PatternChar) : Option (Part × List PatternChar) :=
  let (negated, rest) := match pattern with
    | ('!', false) :: rest => (true, rest)
    | _ => (false, pattern)
  (members? (rest.length + 1) true rest).map fun found => (.set negated found.1, found.2)

/-- The parts of a pattern, at most `bound` of them. -/
def partsUpTo : (bound : Nat) → List PatternChar → List Part
  | 0, _ => []
  | _, [] => []
  | bound + 1, (c, quoted) :: rest =>
    if quoted then .one c :: partsUpTo bound rest
    else
      match c with
      | '*' => .several :: partsUpTo bound rest
      | '?' => .any :: partsUpTo bound rest
      | '[' =>
        match set? rest with
        | some (part, rest) => part :: partsUpTo bound rest
        | none => .one c :: partsUpTo bound rest
      | '\\' =>
        match rest with
        | (next, _) :: rest => .one next :: partsUpTo bound rest
        | [] => [.one c]
      | _ => .one c :: partsUpTo bound rest

def parts (pattern : List PatternChar) : List Part :=
  partsUpTo pattern.length pattern

/-- Whether a part that stands for one character stands for the given one. -/
def Part.admits (part : Part) (c : Char) : Bool :=
  match part with
  | one d => c == d
  | any => true
  | several => false
  | set negated members => members.any (·.admits c) != negated

/-- Whether some end of a text, the whole text and the empty one included, has a property. -/
def someEnd (p : Text → Bool) : Text → Bool
  | [] => p []
  | c :: rest => p (c :: rest) || someEnd p rest

/-- Whether a whole text fits a pattern. -/
def fits : List Part → Text → Bool
  | [], text => text.isEmpty
  | .several :: rest, text => someEnd (fits rest) text
  | part :: rest, text =>
    match text with
    | [] => false
    | c :: more => part.admits c && fits rest more

/-- Whether what stands before the first zero character of a text fits a pattern. Such characters
are only in the list of all arguments, where no pattern sees beyond them. -/
def fitsStart (pattern : List Part) (text : Text) : Bool :=
  fits pattern (text.takeWhile (· ≠ '\x00'))

/-- The text without the beginning that fits a pattern, the longest or the shortest. -/
def trimStart (longest : Bool) (pattern : List Part) (text : Text) : Text :=
  let lengths := (List.range (text.length + 1)).filter fun n => fitsStart pattern (text.take n)
  match if longest then lengths.getLast? else lengths.head? with
  | some n => text.drop n
  | none => text

/-- The text without the end that fits a pattern, the longest or the shortest. -/
def trimEnd (longest : Bool) (pattern : List Part) (text : Text) : Text :=
  let lengths := (List.range (text.length + 1)).filter fun n => fitsStart pattern (text.drop n)
  match if longest then lengths.head? else lengths.getLast? with
  | some n => text.take n
  | none => text

/-- Whether a pattern stands for anything but itself. -/
def isActive (pattern : List PatternChar) : Bool :=
  pattern.any fun p => !p.2 && (p.1 == '*' || p.1 == '?' || p.1 == '[')

@[simp] theorem fits_nil (text : Text) : fits [] text = text.isEmpty := rfl

/-- A pattern of characters that stand for themselves fits one text. -/
theorem fits_ones (s text : Text) : fits (s.map .one) text = (text == s) := by
  induction s generalizing text with
  | nil => cases text <;> rfl
  | cons c rest ih =>
    cases text with
    | nil => rfl
    | cons d more => simp [fits, Part.admits, ih]

end Glob

end AppLauncher.Shell
