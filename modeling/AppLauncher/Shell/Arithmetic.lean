import AppLauncher.Shell.Text

/-!
# Arithmetic of a shell

Expressions over signed numbers of 64 bits, which wrap around. They have the operators of a C
expression, assignments among them, and names that stand for variables. What an operator does not
need of its second operand is read and not computed.
-/

namespace AppLauncher.Shell.Arithmetic

/-- Why an expression has no value. -/
inductive Fault where
  | expectingPrimary
  | expectingEnd
  | expectingParenthesis
  | expectingColon
  | divisionByZero
  /-- A variable whose value is no number. -/
  | illegalNumber (value : Text)
  deriving DecidableEq, Repr

/-- The text that messages show. -/
def Fault.message (expression : Text) : Fault → Text
  | illegalNumber value => "Illegal number: ".toList ++ value
  | fault =>
    let what := match fault with
      | expectingPrimary => "expecting primary"
      | expectingEnd => "expecting EOF"
      | expectingParenthesis => "expecting ')'"
      | expectingColon => "expecting ':'"
      | _ => "division by zero"
    "arithmetic expression: ".toList ++ what.toList ++ ": \"".toList ++ expression ++ ['"']

/-- A part of an expression. -/
inductive Token where
  | number (value : Int)
  | name (text : Text)
  | sign (text : String)
  /-- A character that no expression has. -/
  | foreign
  deriving DecidableEq, Repr

/-- The number of 64 bits with the same low bits. -/
def wrap (n : Int) : Int :=
  (Int64.ofInt n).toInt

/-- The nearest number of 64 bits. -/
def clamp (n : Int) : Int :=
  max (-9223372036854775808) (min 9223372036854775807 n)

/-- The value of a digit in any base up to 16. -/
def digitValue? (c : Char) : Option Nat :=
  if c.isDigit then some (c.toNat - '0'.toNat)
  else if 'a' ≤ c ∧ c ≤ 'f' then some (c.toNat - 'a'.toNat + 10)
  else if 'A' ≤ c ∧ c ≤ 'F' then some (c.toNat - 'A'.toNat + 10)
  else none

/-- Whether a character is a digit in a base. -/
def isDigitIn (base : Nat) (c : Char) : Bool :=
  (digitValue? c).any (· < base)

/-- The value of digits in a base. -/
def digitsValue (base : Nat) (digits : Text) : Nat :=
  digits.foldl (fun n c => n * base + (digitValue? c).getD 0) 0

/-- The number without a sign that a text begins with, and the rest: hexadecimal after `0x`, octal
after `0`, else decimal. There is none if no digit stands first. -/
def unsigned? (text : Text) : Option (Nat × Text) :=
  let inBase (base : Nat) (digits : Text) : Nat × Text :=
    (digitsValue base (digits.takeWhile (isDigitIn base)), digits.dropWhile (isDigitIn base))
  match text with
  | '0' :: x :: c :: rest =>
    if (x == 'x' || x == 'X') && isDigitIn 16 c then some (inBase 16 (c :: rest))
    else some (inBase 8 text)
  | '0' :: _ => some (inBase 8 text)
  | c :: _ => if c.isDigit then some (inBase 10 text) else none
  | [] => none

/-- The number that a text begins with, after blanks and a sign, and the rest; none if there is
none. -/
def signed? (text : Text) : Option (Int × Text) :=
  match text.dropWhile fun c => c == ' ' || ('\t' ≤ c && c ≤ '\x0d') with
  | '-' :: rest => (unsigned? rest).map fun found => (-(found.1 : Int), found.2)
  | '+' :: rest => (unsigned? rest).map fun found => ((found.1 : Int), found.2)
  | rest => (unsigned? rest).map fun found => ((found.1 : Int), found.2)

/-- The number that the value of a variable is; no value is 0. -/
def ofValue (value : Text) : Except Fault Int :=
  let isBlank (c : Char) := c == ' ' || ('\t' ≤ c && c ≤ '\x0d')
  match signed? value with
  | some (n, rest) => if rest.all isBlank then .ok (clamp n) else .error (.illegalNumber value)
  | none => if value.all isBlank then .ok 0 else .error (.illegalNumber value)

/-- The signs, the longest first. -/
def signs : List String :=
  ["<<=", ">>=", "<=", ">=", "==", "!=", "&&", "||", "<<", ">>", "+=", "-=", "*=", "/=", "%=", "&=",
    "|=", "^=", "+", "-", "*", "/", "%", "&", "|", "^", "<", ">", "=", "!", "~", "(", ")", "?", ":"]

/-- The tokens of an expression, at most `bound` of them. -/
def tokens : (bound : Nat) → Text → List Token
  | 0, _ => []
  | _, [] => []
  | bound + 1, c :: rest =>
    if Text.isBlank c then tokens bound rest
    else if Text.startsName c then
      .name ((c :: rest).takeWhile Text.inName) :: tokens bound ((c :: rest).dropWhile Text.inName)
    else
      match unsigned? (c :: rest), signs.find? fun s => s.toList.isPrefixOf (c :: rest) with
      | some (n, rest), _ => .number (clamp n) :: tokens bound rest
      | none, some s => .sign s :: tokens bound ((c :: rest).drop s.length)
      | none, none => [.foreign]

/-- What is left of an expression, and the variables it has set, the last one first. -/
structure State where
  rest : List Token
  assigned : List (Text × Int)

abbrev Evaluating := StateT State (Except Fault)

/-- The operators with two operands, those that bind least first. -/
def levels : List (List String) :=
  [["|"], ["^"], ["&"], ["==", "!="], ["<", "<=", ">", ">="], ["<<", ">>"], ["+", "-"],
    ["*", "/", "%"]]

/-- A truth value as a number. -/
def ofBool (b : Bool) : Int :=
  if b then 1 else 0

/-- The value of an operator with two operands. -/
def binary (operator : String) (a b : Int) : Except Fault Int :=
  let bits (f : Int64 → Int64 → Int64) : Except Fault Int :=
    .ok (f (Int64.ofInt a) (Int64.ofInt b)).toInt
  match operator with
  | "|" => bits (· ||| ·)
  | "^" => bits (· ^^^ ·)
  | "&" => bits (· &&& ·)
  | "==" => .ok (ofBool (a == b))
  | "!=" => .ok (ofBool (a != b))
  | "<" => .ok (ofBool (a < b))
  | "<=" => .ok (ofBool (a ≤ b))
  | ">" => .ok (ofBool (b < a))
  | ">=" => .ok (ofBool (b ≤ a))
  | "<<" => bits (· <<< ·)
  | ">>" => bits (· >>> ·)
  | "+" => .ok (wrap (a + b))
  | "-" => .ok (wrap (a - b))
  | "*" => .ok (wrap (a * b))
  | "/" => if b = 0 then .error .divisionByZero else .ok (wrap (a.tdiv b))
  | _ => if b = 0 then .error .divisionByZero else .ok (wrap (a.tmod b))

/-- The operator of an assignment: nothing is computed for a plain one. -/
def assignment? (t : Token) : Option (Option String) :=
  match t with
  | .sign "=" => some none
  | .sign s =>
    if ["<<=", ">>=", "+=", "-=", "*=", "/=", "%=", "&=", "|=", "^="].contains s then
      some (some (String.ofList s.toList.dropLast))
    else none
  | _ => none

/-- Takes the next token if it is a given sign. -/
def accept (s : String) : Evaluating Bool := do
  let state ← get
  match state.rest with
  | .sign found :: rest =>
    if found = s then
      set { state with rest }
      return true
    else return false
  | _ => return false

/-- Takes the next token if it is one of some signs. -/
def acceptAny (signs : List String) : Evaluating (Option String) := do
  let state ← get
  match state.rest with
  | .sign found :: rest =>
    if signs.contains found then
      set { state with rest }
      return some found
    else return none
  | _ => return none

def variableValue (value : Text → Text) (name : Text) : Evaluating Int := do
  match (← get).assigned.lookup name with
  | some n => return n
  | none => ofValue (value name)

mutual

/-- Evaluates an expression. Nothing is computed unless `live`. -/
def expression (value : Text → Text) : (depth : Nat) → (live : Bool) → Evaluating Int
  | 0, _ => throw .expectingPrimary
  | depth + 1, live => do
    let state ← get
    match state.rest with
    | .name name :: sign :: rest =>
      match assignment? sign with
      | none => conditional value depth live
      | some operator =>
        set { state with rest }
        let right ← expression value depth live
        if !live then return right
        let result ← match operator with
          | none => pure right
          | some operator => do
            let left ← variableValue value name
            (binary operator left right : Except Fault Int)
        modify fun state => { state with assigned := (name, result) :: state.assigned }
        return result
    | _ => conditional value depth live

/-- Evaluates a condition with its two branches. -/
def conditional (value : Text → Text) : (depth : Nat) → (live : Bool) → Evaluating Int
  | 0, _ => throw .expectingPrimary
  | depth + 1, live => do
    let condition ← disjunction value depth live
    if ← accept "?" then
      let first ← expression value depth (live && condition ≠ 0)
      if !(← accept ":") then throw .expectingColon
      let second ← conditional value depth (live && condition = 0)
      return if condition ≠ 0 then first else second
    else return condition

/-- Evaluates operands between `||`. -/
def disjunction (value : Text → Text) : (depth : Nat) → (live : Bool) → Evaluating Int
  | 0, _ => throw .expectingPrimary
  | depth + 1, live => do
    let first ← conjunction value depth live
    if ← accept "||" then
      let second ← disjunction value depth (live && first = 0)
      return ofBool (first ≠ 0 || second ≠ 0)
    else return first

/-- Evaluates operands between `&&`. -/
def conjunction (value : Text → Text) : (depth : Nat) → (live : Bool) → Evaluating Int
  | 0, _ => throw .expectingPrimary
  | depth + 1, live => do
    let first ← operands value depth live levels
    if ← accept "&&" then
      let second ← conjunction value depth (live && first ≠ 0)
      return ofBool (first ≠ 0 && second ≠ 0)
    else return first

/-- Evaluates operands between operators of some levels, the first of which binds least. -/
def operands (value : Text → Text) :
    (depth : Nat) → (live : Bool) → List (List String) → Evaluating Int
  | 0, _, _ => throw .expectingPrimary
  | depth + 1, live, [] => primary value depth live
  | depth + 1, live, level :: higher => do
    let first ← operands value depth live higher
    continued value depth live level higher first

/-- Evaluates what follows an operand at a level. -/
def continued (value : Text → Text) : (depth : Nat) → (live : Bool) → List String →
    List (List String) → Int → Evaluating Int
  | 0, _, _, _, _ => throw .expectingPrimary
  | depth + 1, live, level, higher, first => do
    match ← acceptAny level with
    | none => return first
    | some operator =>
      let second ← operands value depth live higher
      let result ← if live then (binary operator first second : Except Fault Int) else pure first
      continued value depth live level higher result

def primary (value : Text → Text) : (depth : Nat) → (live : Bool) → Evaluating Int
  | 0, _ => throw .expectingPrimary
  | depth + 1, live => do
    let state ← get
    match state.rest with
    | .number n :: rest =>
      set { state with rest }
      return n
    | .name name :: rest =>
      set { state with rest }
      if live then variableValue value name else return 0
    | .sign "(" :: rest =>
      set { state with rest }
      let result ← expression value depth live
      if !(← accept ")") then throw .expectingParenthesis
      return result
    | .sign "+" :: rest =>
      set { state with rest }
      primary value depth live
    | .sign "-" :: rest =>
      set { state with rest }
      return wrap (-(← primary value depth live))
    | .sign "!" :: rest =>
      set { state with rest }
      return ofBool ((← primary value depth live) = 0)
    | .sign "~" :: rest =>
      set { state with rest }
      return -(← primary value depth live) - 1
    | _ => throw .expectingPrimary

end

/-- The value of an expression, and the variables it sets, first to last. -/
def evaluate (value : Text → Text) (text : Text) : Except Fault (Int × List (Text × Int)) := do
  let rest := tokens (text.length + 1) text
  let (result, state) ← (expression value (16 * rest.length + 16) true).run ⟨rest, []⟩
  if state.rest.isEmpty then return (result, state.assigned.reverse)
  else throw .expectingEnd

end AppLauncher.Shell.Arithmetic
