import AppLauncher.Shell.Text

/-!
# Escapes in what a shell prints

A backslash and what follows it stand for one character: a letter for a control character, octal
digits for the character with that number. A backslash before anything else stands for itself.
-/

namespace AppLauncher.Shell.Escape

/-- The character of an escape with one letter. -/
def letter? (c : Char) : Option Char :=
  match c with
  | 'a' => some '\x07'
  | 'b' => some '\x08'
  | 'e' => some '\x1b'
  | 'f' => some '\x0c'
  | 'n' => some '\n'
  | 'r' => some '\r'
  | 't' => some '\t'
  | 'v' => some '\x0b'
  | '\\' => some '\\'
  | _ => none

/-- Whether a character is an octal digit. -/
def isOctal (c : Char) : Bool :=
  '0' ≤ c && c ≤ '7'

/-- What a backslash and the text after it begin with, and the rest of the text. -/
def take (text : Text) : Char × Text :=
  match text with
  | [] => ('\\', [])
  | c :: rest =>
    match letter? c with
    | some meant => (meant, rest)
    | none =>
      let digits := (text.take 3).takeWhile isOctal
      if digits.isEmpty then ('\\', text)
      else
        let n := digits.foldl (fun n d => n * 8 + (d.toNat - '0'.toNat)) 0
        (Char.ofNat (n % 256), text.drop digits.length)

/-- The same where octal digits may stand after a zero that is not one of them. -/
def takeAfterZero (text : Text) : Char × Text :=
  match text with
  | '0' :: d :: rest => if isOctal d then take (d :: rest) else take text
  | _ => take text

/-- A text with its escapes replaced, of which there are at most `bound`, and whether output goes on
after it: `\c` ends all output. -/
def decodeUpTo : (bound : Nat) → Text → Text × Bool
  | 0, text => (text, true)
  | _, [] => ([], true)
  | _ + 1, '\\' :: 'c' :: _ => ([], false)
  | bound + 1, '\\' :: rest =>
    let (c, rest) := takeAfterZero rest
    let (more, goesOn) := decodeUpTo bound rest
    (c :: more, goesOn)
  | bound + 1, c :: rest =>
    let (more, goesOn) := decodeUpTo bound rest
    (c :: more, goesOn)

/-- A text with its escapes replaced, and whether output goes on after it. -/
def decode (text : Text) : Text × Bool :=
  decodeUpTo text.length text

/-- What `echo` prints for its arguments, with an end after the last. -/
def echo (ending : Text) : List Text → Text
  | [] => ending
  | arg :: rest =>
    let (text, goesOn) := decode arg
    if !goesOn then text
    else if rest.isEmpty then text ++ ending
    else text ++ ' ' :: echo ending rest

/-- Octal digits end after the third, not counting a zero before them. -/
example : decode "a\\01234\\q\\cz".toList = ("aS4\\q".toList, false) := by decide

end AppLauncher.Shell.Escape
