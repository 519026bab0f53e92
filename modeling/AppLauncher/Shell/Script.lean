import AppLauncher.Shell.Text

/-!
# Shell scripts

What a script says, before anything in it has been done. A word keeps what was quoted apart from
what was not, because only unquoted text falls apart, stands for files or is a word of the grammar.
Commands keep the line that messages about them name.
-/

namespace AppLauncher.Shell

/-- What is taken of a parameter between braces. -/
inductive Operator where
  | value
  | length
  /-- The word in place of a value that is missing. -/
  | default
  /-- The same, and the parameter gets the word for its value. -/
  | assign
  /-- The end of the shell if the value is missing. -/
  | require
  /-- The word in place of a value that is there. -/
  | alternative
  | trimStart (longest : Bool)
  | trimEnd (longest : Bool)
  /-- What no shell understands. -/
  | unknown
  deriving DecidableEq, Repr

/-- What is done with a redirected descriptor. -/
inductive Redirection where
  | input
  | output
  /-- Output even if the shell protects the files that exist. -/
  | clobber
  | append
  | readWrite
  | duplicate
  /-- Input from a document in the script itself, known by a number. -/
  | document (id : Nat)
  deriving DecidableEq, Repr

mutual

/-- A part of a word. -/
inductive Piece where
  | text (s : Text) (quoted : Bool)
  /-- A place where quotes stood: the word is there even if nothing was in them. -/
  | quotes
  /-- A parameter. An empty value counts as a missing one if `orEmpty`. -/
  | parameter (name : Text) (operator : Operator) (orEmpty : Bool) (word : List Piece)
      (quoted : Bool)
  /-- What commands print. -/
  | output (commands : List Command) (quoted : Bool)
  /-- The value of an arithmetic expression. -/
  | sum (expression : List Piece) (quoted : Bool)

/-- A redirection with the word after it. -/
inductive Redirect where
  | mk (descriptor : Nat) (how : Redirection) (target : List Piece)

/-- A choice of a `case`. -/
inductive Clause where
  | mk (patterns : List (List Piece)) (body : List Command)

/-- A command. -/
inductive Command where
  | simple (line : Nat) (assignments : List (Text × List Piece)) (words : List (List Piece))
      (redirects : List Redirect)
  | pipeline (stages : List Command)
  | negation (c : Command)
  | both (first second : Command)
  | either (first second : Command)
  | background (c : Command)
  | subshell (line : Nat) (body : List Command) (redirects : List Redirect)
  | group (line : Nat) (body : List Command) (redirects : List Redirect)
  | choice (condition body alternative : List Command)
  | loop (untilTrue : Bool) (condition body : List Command)
  | each (line : Nat) (name : Text) (words : List (List Piece)) (body : List Command)
  | select (line : Nat) (word : List Piece) (clauses : List Clause)
  | define (name : Text) (body : Command)

end

instance : Inhabited Piece := ⟨.quotes⟩
instance : Inhabited Command := ⟨.pipeline []⟩

/-- A word as it was written. -/
abbrev Word := List Piece

namespace Word

/-- Whether any part was quoted. -/
def isQuoted (w : Word) : Bool :=
  w.any fun piece =>
    match piece with
    | .quotes => true
    | .text _ quoted => quoted
    | .parameter _ _ _ _ quoted => quoted
    | .output _ quoted => quoted
    | .sum _ quoted => quoted

/-- The text of a word in which nothing is to be replaced, without its quotes. -/
def literal? (w : Word) : Option Text :=
  w.foldr (fun piece rest =>
    match piece with
    | .text s _ => rest.map (s ++ ·)
    | .quotes => rest
    | _ => none) (some [])

/-- The text of a word that was not quoted, and in which nothing is to be replaced. -/
def plain? (w : Word) : Option Text :=
  if w.isQuoted then none else literal? w

/-- The name and the value of a word that sets a variable. -/
def assignment? (w : Word) : Option (Text × Word) :=
  match w with
  | .text s false :: rest =>
    let name := s.takeWhile Text.inName
    match s.dropWhile Text.inName with
    | '=' :: value =>
      if Text.isName name then
        some (name, if value.isEmpty then rest else .text value false :: rest)
      else none
    | _ => none
  | _ => none

end Word

/-- The words of a loop that names none: all arguments. -/
def allArguments : Word :=
  [.parameter ['@'] .value false [] true]

end AppLauncher.Shell
