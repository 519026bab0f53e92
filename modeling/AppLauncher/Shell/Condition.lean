import AppLauncher.FileSystem.Access
import AppLauncher.Shell.Arithmetic

/-!
# Conditions

What `test` and `[` find out about texts, numbers and files. A word that could be an operator is one
only where an operand follows it; with three words, an operator in the middle comes first.
-/

namespace AppLauncher.Shell.Condition

/-- A word of a condition. -/
inductive Token where
  | nothing
  | operand
  | unary
  | binary
  | not
  | and
  | or
  | opening
  | closing
  deriving DecidableEq, Repr

def unaryOperators : List String :=
  ["-b", "-c", "-d", "-e", "-f", "-g", "-G", "-h", "-k", "-L", "-n", "-O", "-p", "-r", "-s", "-S",
    "-t", "-u", "-w", "-x", "-z"]

def binaryOperators : List String :=
  ["=", "!=", "<", ">", "-eq", "-ne", "-ge", "-gt", "-le", "-lt", "-nt", "-ot", "-ef"]

/-- What a word is if it is no operand. -/
def operator (word : Text) : Token :=
  let s := String.ofList word
  match s with
  | "!" => .not
  | "-a" => .and
  | "-o" => .or
  | "(" => .opening
  | ")" => .closing
  | _ =>
    if unaryOperators.contains s then .unary
    else if binaryOperators.contains s then .binary
    else .operand

/-- What the first of some words is. -/
def first (words : List Text) : Token :=
  match words with
  | [] => .nothing
  | word :: rest =>
    let isOperand : Bool := match operator word, rest with
      | .unary, [] => true
      | .unary, [_] => false
      | .unary, second :: _ => operator second = .binary
      | .opening, [] => true
      | _, _ => false
    if isOperand then .operand else operator word

/-- The number that a word is. -/
def number (word : Text) : Except Text Int :=
  let illegal := .error ("Illegal number: ".toList ++ word)
  match word with
  | [] => illegal
  | _ =>
    let isBlank (c : Char) := c == ' ' || ('\t' ≤ c && c ≤ '\x0d')
    let (isNegative, digits) := match word.dropWhile isBlank with
      | '-' :: rest => (true, rest)
      | '+' :: rest => (false, rest)
      | rest => (false, rest)
    let n : Int := Text.digits (digits.takeWhile Char.isDigit)
    let n := if isNegative then -n else n
    if (digits.takeWhile Char.isDigit).isEmpty ∨ Arithmetic.clamp n ≠ n
        ∨ !(digits.dropWhile Char.isDigit).all isBlank then illegal
    else .ok n

/-- What conditions are about besides texts. -/
structure Surroundings where
  files : FileSystem
  here : Place

namespace Surroundings

/-- What a path leads to, links followed or not. -/
def reached? (s : Surroundings) (purpose : Purpose) (path : Text) : Option Reached :=
  match s.files.resolve s.here purpose path.path with
  | .ok (.vacant _) | .error _ => none
  | .ok found => some found

/-- Whether something that is no file to be found here is there, too. -/
def isDevice (path : Text) : Bool :=
  path == "/dev/null".toList

/-- Whether a file is as an operator says. -/
def holds (s : Surroundings) (letter : Char) (path : Text) : Bool :=
  let found := s.reached? .use path
  match letter with
  | 'e' | 'r' | 'w' | 'O' | 'G' => found.isSome || isDevice path
  | 'f' => found.any fun r => (r matches .file _ _ _)
  | 'd' | 'x' => found.any fun r => (r matches .directory _)
  | 's' =>
    match found with
    | some (.file _ _ contents) => !contents.isEmpty
    | other => other.isSome
  | 'h' | 'L' => (s.reached? .entry path).any fun r => (r matches .link _ _)
  | 'c' => isDevice path
  | _ => false

/-- Whether two paths lead to the same. -/
def same (s : Surroundings) (a b : Text) : Bool :=
  let place (r : Reached) : Option Location := match r with
    | .directory p => some p.location
    | .file location _ _ => some location
    | _ => none
  match (s.reached? .use a).bind place, (s.reached? .use b).bind place with
  | some x, some y => x == y
  | _, _ => false

end Surroundings

/-- Whether an operator with one operand holds. -/
def unary (s : Surroundings) (word operand : Text) : Except Text Bool :=
  match word with
  | ['-', 'n'] => .ok !operand.isEmpty
  | ['-', 'z'] => .ok operand.isEmpty
  | ['-', 't'] => do
    let _ ← number operand
    return false
  | ['-', letter] => .ok (s.holds letter operand)
  | _ => .ok false

/-- Whether an operator with two operands holds. -/
def binary (s : Surroundings) (word a b : Text) : Except Text Bool :=
  let compare (f : Int → Int → Bool) : Except Text Bool := do
    let a ← number a
    let b ← number b
    return f a b
  match String.ofList word with
  | "=" => .ok (a == b)
  | "!=" => .ok (a != b)
  | "<" => .ok (decide (a < b))
  | ">" => .ok (decide (b < a))
  | "-eq" => compare (· == ·)
  | "-ne" => compare (· != ·)
  | "-ge" => compare fun a b => b ≤ a
  | "-gt" => compare fun a b => b < a
  | "-le" => compare fun a b => a ≤ b
  | "-lt" => compare fun a b => a < b
  | "-ef" => .ok (s.same a b)
  | _ => .ok false

/-- What is said about a word. Of an empty one only the fault is named. -/
def about (word fault : Text) : Text :=
  if word.isEmpty then fault else word ++ ':' :: ' ' :: fault

/-- The mistake of an operator without its operand. -/
def lacksOperand (word : Text) : Text :=
  about word "argument expected".toList

mutual

/-- Evaluates a condition in the words given, of which the first is taken to be the token. What is
left begins with the last word that was used. -/
def disjunction (s : Surroundings) : (depth : Nat) → Token → List Text →
    Except Text (Bool × List Text)
  | 0, _, words => .ok (false, words)
  | depth + 1, token, words => do
    let (holds, words) ← conjunction s depth token words
    if first (words.drop 1) = .or then
      let words := words.drop 2
      let (more, words) ← disjunction s depth (first words) words
      return (holds || more, words)
    else return (holds, words)

/-- Evaluates conditions that must all hold. -/
def conjunction (s : Surroundings) : (depth : Nat) → Token → List Text →
    Except Text (Bool × List Text)
  | 0, _, words => .ok (false, words)
  | depth + 1, token, words => do
    let (holds, words) ← negation s depth token words
    if first (words.drop 1) = .and then
      let words := words.drop 2
      let (more, words) ← conjunction s depth (first words) words
      return (holds && more, words)
    else return (holds, words)

/-- Evaluates a condition, before which there may be signs that turn it round. -/
def negation (s : Surroundings) : (depth : Nat) → Token → List Text →
    Except Text (Bool × List Text)
  | 0, _, words => .ok (false, words)
  | depth + 1, token, words => do
    if token = .not then
      let next := first (words.drop 1)
      let (holds, words) ← negation s depth next (if next = .nothing then words else words.drop 1)
      return (!holds, words)
    else primary s depth token words

/-- Evaluates a condition without an operator that joins others. -/
def primary (s : Surroundings) : (depth : Nat) → Token → List Text →
    Except Text (Bool × List Text)
  | 0, _, words => .ok (false, words)
  | depth + 1, token, words => do
    match token, words with
    | .nothing, _ => return (false, words)
    | .opening, _ =>
      let words := words.drop 1
      let next := first words
      if next = .closing then return (false, words)
      let (holds, words) ← disjunction s depth next words
      let words := words.drop 1
      if first words ≠ .closing then .error "closing paren expected".toList
      return (holds, words)
    | .unary, word :: rest =>
      match rest with
      | [] => .error (lacksOperand word)
      | operand :: _ => return (← unary s word operand, rest)
    | _, word :: rest =>
      match first rest, rest with
      | .binary, sign :: more =>
        match more with
        | [] => .error (lacksOperand sign)
        | operand :: _ => return (← binary s sign word operand, more)
      | _, _ => return (!word.isEmpty, words)
    | _, [] => return (false, words)

end

/-- Evaluates all words, of which the first is taken to be the token. -/
def whole (s : Surroundings) (token : Token) (words : List Text) : Except Text Bool := do
  let (holds, rest) ← disjunction s (8 * words.length + 8) token words
  match rest with
  | word :: _ :: _ => .error (about word "unexpected operator".toList)
  | _ => return holds

/-- Whether a condition holds, or does not if it is negated. Of three words one in the middle may be
an operator; of three or four, the first may be a sign that turns the rest round, or they may stand
in parentheses. -/
def judge (s : Surroundings) (negated : Bool) : List Text → Except Text Bool
  | [] => .ok negated
  | word :: rest =>
    let words := word :: rest
    let answer (token : Token) (words : List Text) : Except Text Bool :=
      return (← whole s token words) != negated
    let isShort := rest.length == 2 || rest.length == 3
    if rest.length = 2 ∧ operator (rest.headD []) = .binary then answer .operand words
    else if isShort && word == ['('] && rest.getLast? == some [')'] then
      answer (first rest.dropLast) rest.dropLast
    else if isShort && word == ['!'] then judge s true rest
    else answer (first words) words

def holds (s : Surroundings) (words : List Text) : Except Text Bool :=
  judge s false words

end AppLauncher.Shell.Condition
