import AppLauncher.Shell.Arithmetic
import AppLauncher.Shell.Escape

/-!
# Formats

A format is text with places in it, where `printf` puts its arguments. A place says in which way an
argument is shown, in how wide a column and with how many characters or digits. A format with places
is used again until there are no arguments left; arguments that are missing count as empty.
-/

namespace AppLauncher.Shell.Format

/-- A number in a place. -/
inductive Amount where
  | absent
  | given (n : Nat)
  /-- The next argument. -/
  | argument
  deriving DecidableEq, Repr

/-- A place for an argument. -/
structure Slot where
  flags : List Char
  width : Amount
  precision : Amount
  letter : Char
  deriving DecidableEq, Repr

/-- A part of a format. -/
inductive Part where
  | text (s : Text)
  | slot (s : Slot)
  /-- What ends all printing with a message. -/
  | broken (message : Text)
  deriving DecidableEq, Repr

def letters : List Char :=
  "bcsdiouxX".toList

/-- A number in a place, and what follows it. -/
def amount (text : Text) : Amount × Text :=
  match text with
  | '*' :: rest => (.argument, rest)
  | _ =>
    let digits := text.takeWhile Char.isDigit
    (if digits.isEmpty then .absent else .given (Text.digits digits), text.drop digits.length)

/-- The place after a percent sign, and what follows it. -/
def slot (text : Text) : Part × Text :=
  let flags := text.takeWhile fun c => "#-+ 0".toList.contains c
  let (width, rest) := amount (text.drop flags.length)
  let (precision, rest) : Amount × Text := match rest with
    | '.' :: rest =>
      let (found, rest) := amount rest
      (if found = .absent then .given 0 else found, rest)
    | _ => (.absent, rest)
  match rest with
  | [] => (.broken "missing format character".toList, [])
  | letter :: after =>
    if letters.contains letter then (.slot ⟨flags, width, precision, letter⟩, after)
    else
      let shown := '%' :: text.take (text.length - after.length)
      (.broken (shown ++ ": invalid directive".toList), [])

/-- The parts of a format, at most `bound` of them. -/
def partsUpTo : (bound : Nat) → Text → List Part
  | 0, _ => []
  | _, [] => []
  | bound + 1, '\\' :: rest =>
    let (c, rest) := Escape.take rest
    .text [c] :: partsUpTo bound rest
  | bound + 1, '%' :: '%' :: rest => .text ['%'] :: partsUpTo bound rest
  | bound + 1, '%' :: rest =>
    let (part, rest) := slot rest
    part :: partsUpTo bound rest
  | bound + 1, c :: rest => .text [c] :: partsUpTo bound rest

def parts (format : Text) : List Part :=
  partsUpTo format.length format

/-- What has been printed, and what is still to be printed. -/
structure State where
  arguments : List Text
  printed : Text
  /-- What was wrong with numbers. -/
  complaints : List Text
  deriving Repr

/-- Why printing stops early. -/
inductive Stop where
  /-- An argument said so. -/
  | asked
  | broken (message : Text)
  deriving DecidableEq, Repr

abbrev Printing := ExceptT Stop (StateM State)

def next : Printing (Option Text) := do
  let state ← get
  set { state with arguments := state.arguments.tail }
  return state.arguments.head?

def put (text : Text) : Printing Unit :=
  modify fun state => { state with printed := state.printed ++ text }

/-- Tells what is wrong with an argument. -/
def complain (argument : Text) (what : String) : Printing Unit :=
  modify fun state =>
    { state with complaints := state.complaints ++ [argument ++ ": ".toList ++ what.toList] }

/-- The number that an argument is, held between bounds. After a quotation mark it is the number of
a character. -/
def number (least greatest : Int) : Printing Int := do
  match ← next with
  | none => return 0
  | some ('"' :: rest) | some ('\'' :: rest) => return (rest.headD '\x00').toNat
  | some [] => return 0
  | some argument =>
    match Arithmetic.signed? argument with
    | none =>
      complain argument "expected numeric value"
      return 0
    | some (n, rest) =>
      let clamped := max least (min greatest n)
      if !rest.isEmpty then complain argument "not completely converted"
      else if clamped ≠ n then complain argument "Numerical result out of range"
      return clamped

/-- The number that an argument is, with a sign. -/
def signed : Printing Int :=
  number (-9223372036854775808) 9223372036854775807

/-- The number that an argument is, without a sign: a negative one is counted from the end. -/
def unsigned : Printing Nat := do
  let n ← number (-18446744073709551615) 18446744073709551615
  return (n % 18446744073709551616).toNat

def resolve (a : Amount) : Printing (Option Int) := do
  match a with
  | .absent => return none
  | .given n => return some n
  | .argument => return some (← signed)

/-- Text in a column. -/
def column (flags : List Char) (width : Option Int) (text : Text) : Text :=
  let width := width.getD 0
  let fill := List.replicate (width.natAbs - text.length) ' '
  if flags.contains '-' || width < 0 then text ++ fill else fill ++ text

/-- Digits in a column, with a sign or another mark before them. Zeros fill the column if the flags
ask for them and the number of digits is not given. -/
def numberColumn (flags : List Char) (width precision : Option Int) (mark digits : Text) : Text :=
  let zeros :=
    match precision with
    | some n => n.toNat - digits.length
    | none =>
      if flags.contains '0' && !flags.contains '-' then
        (width.getD 0).toNat - (mark.length + digits.length)
      else 0
  column flags width (mark ++ List.replicate zeros '0' ++ digits)

/-- The digits of a number; zero has none if none are asked for. -/
def digits (base : Nat) (precision : Option Int) (n : Nat) : Text :=
  if n = 0 ∧ precision = some 0 then [] else Nat.toDigits base n

/-- The mark before a number with a sign. -/
def signMark (flags : List Char) (isNegative : Bool) : Text :=
  if isNegative then ['-']
  else if flags.contains '+' then ['+']
  else if flags.contains ' ' then [' ']
  else []

/-- Prints an argument in its place. -/
def printSlot (s : Slot) : Printing Unit := do
  let width ← resolve s.width
  let precision := (← resolve s.precision).filter (0 ≤ ·)
  let cut (text : Text) : Text := match precision with
    | some n => text.take n.toNat
    | none => text
  let isMarked := s.flags.contains '#'
  match s.letter with
  | 's' => put (column s.flags width (cut ((← next).getD [])))
  | 'c' => put (column s.flags width [((← next).getD []).headD '\x00'])
  | 'b' =>
    let (text, goesOn) := Escape.decode ((← next).getD [])
    put (column s.flags width (cut text))
    if !goesOn then throw .asked
  | 'u' => put (numberColumn s.flags width precision [] (digits 10 precision (← unsigned)))
  | 'o' =>
    let found := digits 8 precision (← unsigned)
    let lacksZero := isMarked && found.head? != some '0'
      && (precision.getD 0).toNat ≤ found.length
    put (numberColumn s.flags width precision [] (if lacksZero then '0' :: found else found))
  | 'x' =>
    let n ← unsigned
    let mark := if isMarked && n ≠ 0 then ['0', 'x'] else []
    put (numberColumn s.flags width precision mark (digits 16 precision n))
  | 'X' =>
    let n ← unsigned
    let mark := if isMarked && n ≠ 0 then ['0', 'X'] else []
    put (numberColumn s.flags width precision mark ((digits 16 precision n).map Char.toUpper))
  | _ =>
    let n ← signed
    let mark := signMark s.flags (n < 0)
    put (numberColumn s.flags width precision mark (digits 10 precision n.natAbs))

/-- Prints parts once. -/
def printOnce : List Part → Printing Unit
  | [] => return ()
  | .text s :: rest => do
    put s
    printOnce rest
  | .slot s :: rest => do
    printSlot s
    printOnce rest
  | .broken message :: _ => throw (.broken message)

/-- Prints parts until there are no more arguments or they take none, at most `bound` times. -/
def printAll (parts : List Part) : (bound : Nat) → Printing Unit
  | 0 => return ()
  | bound + 1 => do
    let before := (← get).arguments.length
    printOnce parts
    let after := (← get).arguments.length
    if after ≠ 0 ∧ after ≠ before then printAll parts bound

/-- What is printed for a format and its arguments, and the message of a mistake that ended it. -/
def print (format : Text) (arguments : List Text) : State × Option Text :=
  let (result, state) := (printAll (parts format) (arguments.length + 1)).run ⟨arguments, [], []⟩
  match result with
  | .error (.broken message) => (state, some message)
  | _ => (state, none)

end AppLauncher.Shell.Format
