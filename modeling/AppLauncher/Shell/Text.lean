import AppLauncher.Path.Basic

/-!
# The text of a shell

A shell takes its script, its variables and what commands print byte by byte. Here such text is a
list of characters with one character for each byte, so every character is below U+0100.
-/

namespace AppLauncher.Shell

/-- Bytes, each as the character of its number. -/
abbrev Text := List Char

namespace Text

def ofBytes (bytes : Bytes) : Text :=
  bytes.map fun b => Char.ofNat b.toNat

def toBytes (text : Text) : Bytes :=
  text.map fun c => UInt8.ofNat c.toNat

def ofString (s : String) : Text :=
  ofBytes (Utf8.ofString s)

def ofNat (n : Nat) : Text :=
  Nat.toDigits 10 n

/-- A number in decimal digits, after a minus sign if it is negative. -/
def ofInt : Int → Text
  | .ofNat n => ofNat n
  | .negSucc n => '-' :: ofNat (n + 1)

def path (text : Text) : Path :=
  ⟨text.toBytes⟩

/-- Texts with a separator between them. -/
def join (separator : Text) : List Text → Text
  | [] => []
  | [t] => t
  | t :: rest => t ++ separator ++ join separator rest

/-- Characters that a name begins with. -/
def startsName (c : Char) : Bool :=
  c.isAlpha || c == '_'

/-- Characters of a name. -/
def inName (c : Char) : Bool :=
  c.isAlphanum || c == '_'

/-- A name that a variable or a function can have. -/
def isName : Text → Bool
  | [] => false
  | c :: rest => startsName c && rest.all inName

/-- The characters of blanks between words. -/
def isBlank (c : Char) : Bool :=
  c == ' ' || c == '\t' || c == '\n'

def digits (text : Text) : Nat :=
  text.foldl (fun n c => n * 10 + (c.toNat - '0'.toNat)) 0

/-- The number of at most 31 bits that the decimal digits of a text give. -/
def number? (text : Text) : Option Nat :=
  if text ≠ [] ∧ text.all Char.isDigit then
    let n := digits text
    if n < 2147483648 then some n else none
  else none

/-- The text without the line ends at its end. -/
def dropLineEnds (text : Text) : Text :=
  (text.reverse.dropWhile (· = '\n')).reverse

/-- Nothing is lost when bytes become text. -/
theorem toBytes_ofBytes (bytes : Bytes) : toBytes (ofBytes bytes) = bytes := by
  induction bytes with
  | nil => rfl
  | cons b rest ih =>
    have valid : b.toNat.isValidChar := .inl (by have := b.toNat_lt; omega)
    have head : UInt8.ofNat (Char.ofNat b.toNat).toNat = b := by
      have read : (Char.ofNat b.toNat).toNat = b.toNat := by
        delta Char.ofNat
        rw [dif_pos valid]
        rfl
      rw [read, UInt8.ofNat_toNat]
    simpa [toBytes, ofBytes, head] using ih

end Text

end AppLauncher.Shell
