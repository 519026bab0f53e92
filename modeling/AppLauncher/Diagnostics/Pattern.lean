import AppLauncher.Text.Alphanumeric

/-!
# Patterns

A filter may compare a value with a pattern: a regular expression over characters. Whether a text is
a pattern is decided by one pass over its characters. `Reading.step` says how each character is
taken, and refuses a text at the first character that no pattern can have there; `isPattern` holds
if a text is read to its end and leaves nothing open.

Repetitions with a count stand in braces, and a value ends at the first brace, so there are none.
-/

namespace AppLauncher.Diagnostics.Pattern

/-- A part of a class that the next character may follow on. -/
inductive Member where
  /-- A character, which can begin a range. -/
  | char (code : Nat)
  /-- Many characters at once. -/
  | several
  deriving DecidableEq, Repr

/-- What an escape stands in. -/
inductive Around where
  | text
  /-- A class; the member before a `-` is the begin of a range. -/
  | item (begun : Option Member)
  deriving DecidableEq, Repr

/-- What the next character belongs to. -/
inductive Place where
  /-- The text itself; `ready` if there is something that a repetition can repeat. -/
  | text (ready : Bool)
  /-- A group that has just been opened. -/
  | group
  /-- A group after its `?`. -/
  | mark
  /-- A group after its `?P`. -/
  | named
  /-- The name of a group. -/
  | name (soFar : List Char)
  /-- The flags of a group. -/
  | flags (seen : List Char)
  /-- The beginning of a class; `negated` if a `^` has been read. -/
  | opened (negated : Bool)
  /-- The beginning of a class after a `-`. -/
  | dashes
  /-- Between the members of a class. -/
  | item
  /-- After a sign that is an operation if it stands twice. -/
  | sign (c : Char)
  /-- After a member of a class. -/
  | after (member : Member)
  /-- After a member of a class and a `-`. -/
  | range (begun : Member)
  /-- An escape. -/
  | escape (around : Around)
  /-- A code point in hexadecimal, with so many digits to come. -/
  | digits (around : Around) (value left : Nat)
  /-- The letter of a property. -/
  | property (around : Around)
  deriving DecidableEq, Repr

/-- How far a pattern has been read. -/
structure Reading where
  place : Place
  /-- The groups that are open. -/
  groups : Nat
  /-- The classes that are open, one within the other. -/
  classes : Nat
  /-- The names of groups. -/
  names : List (List Char)
  deriving DecidableEq, Repr

def flagLetters : List Char := ['i', 'm', 's', 'U', 'u', 'R', 'x']

def propertyLetters : List Char :=
  ['C', 'L', 'M', 'N', 'P', 'S', 'Z', 'c', 'l', 'm', 'n', 'p', 's', 'z']

/-- Escapes for several characters. -/
def severalLetters : List Char := ['d', 'D', 's', 'S', 'w', 'W']

/-- The characters that a letter after a backslash stands for. -/
def controlLetters : List (Char × Nat) :=
  [('a', 0x07), ('f', 0x0C), ('t', 0x09), ('n', 0x0A), ('r', 0x0D), ('v', 0x0B)]

/-- The number of hexadecimal digits after a letter. -/
def digitLetters : List (Char × Nat) := [('x', 2), ('u', 4), ('U', 8)]

/-- The value of a hexadecimal digit. -/
def hexDigit? (c : Char) : Option Nat :=
  if c.isDigit then some (c.toNat - '0'.toNat)
  else if 'a' ≤ c ∧ c ≤ 'f' then some (c.toNat - 'a'.toNat + 10)
  else if 'A' ≤ c ∧ c ≤ 'F' then some (c.toNat - 'A'.toNat + 10)
  else none

/-- A character that may stand after a backslash for itself. -/
def isEscapable (c : Char) : Bool :=
  c.toNat < 0x80 && !c.isAlphanum && c != '<' && c != '>'

/-- A character that the name of a group can have. -/
def isNameChar (soFar : List Char) (c : Char) : Bool :=
  if soFar.isEmpty then c == '_' || (Text.isAlphanumeric c && !c.isDigit)
  else c == '_' || c == '.' || c == '[' || c == ']' || Text.isAlphanumeric c

namespace Reading

/-- Reads on at another place. -/
def goTo (r : Reading) (place : Place) : Reading :=
  { r with place }

/-- Reads on after a member in its surroundings. A range needs two characters in ascending
order. -/
def placed (r : Reading) (around : Around) (member : Member) : Option Reading :=
  match around, member with
  | .text, _ => some (r.goTo (.text true))
  | .item none, _ => some (r.goTo (.after member))
  | .item (some (.char first)), .char last =>
    if first ≤ last then some (r.goTo .item) else none
  | .item (some _), _ => none

def openClass (r : Reading) : Reading :=
  { r with place := .opened false, classes := r.classes + 1 }

def closeClass (r : Reading) : Reading :=
  { r with
    place := if r.classes ≤ 1 then .text true else .item
    classes := r.classes - 1 }

/-- Reads a character of the text itself. -/
def text (r : Reading) (ready : Bool) (c : Char) : Option Reading :=
  match c with
  | '(' => some { r with place := .group, groups := r.groups + 1 }
  | ')' =>
    if r.groups = 0 then none
    else some { r with place := .text true, groups := r.groups - 1 }
  | '|' => some (r.goTo (.text false))
  | '[' => some r.openClass
  | '?' | '*' | '+' => if ready then some r else none
  | '\x7b' => none
  | '\\' => some (r.goTo (.escape .text))
  | _ => some (r.goTo (.text true))

/-- Reads a character between the members of a class. -/
def item (r : Reading) (c : Char) : Option Reading :=
  match c with
  | '[' => some r.openClass
  | ']' => some r.closeClass
  | '&' | '-' | '~' => some (r.goTo (.sign c))
  | '\\' => some (r.goTo (.escape (.item none)))
  | _ => some (r.goTo (.after (.char c.toNat)))

/-- Reads a character after a member of a class. -/
def after (r : Reading) (member : Member) (c : Char) : Option Reading :=
  if c = '-' then some (r.goTo (.range member)) else r.item c

/-- Reads a letter of the flags, and the sign that ends them. -/
def flags (r : Reading) (seen : List Char) (c : Char) : Option Reading :=
  match c with
  | ':' => if seen.head? = some '-' then none else some (r.goTo (.text false))
  | ')' =>
    if seen.isEmpty || seen.head? = some '-' then none
    else some { r with place := .text false, groups := r.groups - 1 }
  | _ =>
    if (c == '-' || flagLetters.contains c) && !seen.contains c then
      some (r.goTo (.flags (c :: seen)))
    else none

/-- Reads the character after a backslash. The bounds of words have no place in a pattern. -/
def escape (r : Reading) (around : Around) (c : Char) : Option Reading :=
  if c = 'p' ∨ c = 'P' then some (r.goTo (.property around))
  else if severalLetters.contains c then r.placed around .several
  else if c = 'A' ∨ c = 'z' then if around = .text then some (r.goTo (.text true)) else none
  else
    match controlLetters.lookup c, digitLetters.lookup c with
    | some code, _ => r.placed around (.char code)
    | none, some left => some (r.goTo (.digits around 0 left))
    | none, none => if isEscapable c then r.placed around (.char c.toNat) else none

def digits (r : Reading) (around : Around) (value left : Nat) (c : Char) : Option Reading :=
  match hexDigit? c with
  | none => none
  | some digit =>
    let value := value * 16 + digit
    if 1 < left then some (r.goTo (.digits around value (left - 1)))
    else if value.isValidChar then r.placed around (.char value)
    else none

def step (r : Reading) (c : Char) : Option Reading :=
  match r.place with
  | .text ready => r.text ready c
  | .group => if c = '?' then some (r.goTo .mark) else (r.goTo (.text false)).text false c
  | .mark =>
    if c = 'P' then some (r.goTo .named)
    else if c = '<' then some (r.goTo (.name []))
    else r.flags [] c
  | .named => if c = '<' then some (r.goTo (.name [])) else none
  | .name soFar =>
    if c = '>' then
      if soFar.isEmpty || r.names.contains soFar then none
      else some { r with place := .text false, names := soFar :: r.names }
    else if isNameChar soFar c then some (r.goTo (.name (soFar ++ [c])))
    else none
  | .flags seen => r.flags seen c
  | .opened negated =>
    if c = '^' ∧ !negated then some (r.goTo (.opened true))
    else if c = '-' then some (r.goTo .dashes)
    else if c = ']' then some (r.goTo .item)
    else r.item c
  | .dashes => if c = '-' then some r else r.item c
  | .item => r.item c
  | .sign sign => if c = sign then some (r.goTo .item) else r.after (.char sign.toNat) c
  | .after member => r.after member c
  | .range begun =>
    match c with
    | ']' => some r.closeClass
    | '-' => some (r.goTo .item)
    | '\\' => some (r.goTo (.escape (.item (some begun))))
    | _ => r.placed (.item (some begun)) (.char c.toNat)
  | .escape around => r.escape around c
  | .digits around value left => r.digits around value left c
  | .property around =>
    if propertyLetters.contains c then r.placed around .several else none

/-- A pattern that nothing has been read of. -/
def start : Reading :=
  ⟨.text false, 0, 0, []⟩

/-- Whether a pattern can end here. -/
def isEnd (r : Reading) : Bool :=
  match r.place with
  | .text _ => r.groups == 0
  | _ => false

end Reading

/-- Whether a text is a pattern. -/
def isPattern (s : List Char) : Bool :=
  (s.foldlM Reading.step Reading.start).any Reading.isEnd

/-- Digits, at least one if `needed`, and what follows them. -/
def afterDigits? (needed : Bool) (s : List Char) : Option (List Char) :=
  if needed && !(s.head?.any Char.isDigit) then none else some (s.dropWhile Char.isDigit)

/-- Whether a text is the exponent of a number, or empty. -/
def isExponent (s : List Char) : Bool :=
  match s with
  | [] => true
  | e :: rest =>
    let digits := match rest with
      | '+' :: more | '-' :: more => more
      | _ => rest
    (e == 'e' || e == 'E') && afterDigits? true digits == some []

/-- Whether a text is a number without a sign, which may have a fraction and an exponent. -/
def isNumber (s : List Char) : Bool :=
  let lower := s.map Char.toLower
  let fraction (needed : Bool) (rest : List Char) : Bool :=
    match rest with
    | '.' :: more => (afterDigits? needed more).any isExponent
    | _ => !needed && isExponent rest
  lower == ['i', 'n', 'f'] || lower == ['n', 'a', 'n'] || lower == "infinity".toList
    || fraction (!(s.head?.any Char.isDigit)) (s.dropWhile Char.isDigit)

/-- Whether a value can be compared with a text: it is a pattern, or a number with a sign that no
pattern begins with. -/
def isComparable (s : List Char) : Bool :=
  match s with
  | '+' :: rest => isNumber rest
  | _ => isPattern s

end AppLauncher.Diagnostics.Pattern
