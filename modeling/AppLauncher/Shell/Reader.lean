import AppLauncher.Shell.Script

/-!
# Reading shell scripts

A script is read from its beginning, one line of commands at a time: what stands behind a mistake
does not keep the lines before it from running. `Source` is what is left to read. The functions that
read commands and words call each other as deeply as a script nests, so they carry a bound for the
depth; the length of the script is always enough.

A word of the grammar, such as `then`, counts as one only where a command can begin, so every token
is read with the word of whether it may be one.
-/

namespace AppLauncher.Shell

/-- A token of a script. -/
inductive Token where
  | endOfScript
  | newline
  /-- A sign between commands such as `;`, or a word of the grammar. -/
  | sign (s : String)
  | redirect (descriptor : Nat) (how : Redirection)
  /-- A redirection whose document stands after the line. -/
  | document (descriptor : Nat) (stripsTabs : Bool)
  | word (w : Word)

/-- What messages call a token. -/
def Token.name : Token → String
  | endOfScript => "end of file"
  | newline => "newline"
  | sign s => "\"" ++ s ++ "\""
  | redirect _ _ | document _ _ => "redirection"
  | word _ => "word"

/-- A document that is still to come. -/
structure Awaited where
  id : Nat
  stripsTabs : Bool
  /-- Whether parameters in it are replaced. -/
  expands : Bool
  /-- The line after it. -/
  mark : Text

/-- A script from a point on. -/
structure Source where
  rest : Text
  line : Nat
  /-- A token that was read and not used. -/
  token : Option Token
  awaited : List Awaited
  /-- The document that is being read. -/
  current : Option Awaited
  /-- Whether the mark of a document is being read, in which nothing is replaced. -/
  readsMark : Bool
  /-- The documents that have been read, by their numbers. -/
  documents : List (Nat × Word)
  /-- The number of the next document. -/
  nextId : Nat

/-- Why a script cannot be read on. -/
structure Refusal where
  line : Nat
  what : String

abbrev Reading := StateT Source (Except Refusal)

/-- What a word, or a part of one, stands in. -/
inductive Around where
  | word
  | double
  /-- Braces of a parameter; `inner` between double quotes in them. -/
  | braces (quoted inner : Bool)
  /-- An arithmetic expression, within so many parentheses of its own. -/
  | sum (depth : Nat)
  | document
  deriving DecidableEq, Repr

namespace Around

/-- Whether text there is quoted. -/
def quotes : Around → Bool
  | word => false
  | braces quoted _ => quoted
  | _ => true

/-- Whether double quotes begin and end there, and single quotes mean something. -/
def isOpen : Around → Bool
  | word => true
  | braces quoted _ => !quoted
  | _ => false

end Around

namespace Source

/-- A script that has not been read. -/
def ofText (script : Text) (documents : List (Nat × Word)) : Source :=
  ⟨script, 1, none, [], none, false, documents, documents.length⟩

/-- The longest beginning of characters with a property, the rest, and the line reached. A line that
ends in a backslash goes on in the next. -/
def span (p : Char → Bool) (taken : Text) : Text → Nat → Text × Text × Nat
  | '\\' :: '\n' :: rest, line => span p taken rest (line + 1)
  | c :: rest, line =>
    if p c then span p (c :: taken) rest (if c = '\n' then line + 1 else line)
    else (taken.reverse, c :: rest, line)
  | [], line => (taken.reverse, [], line)

/-- The text up to a character, without looking at backslashes; none if there is no such
character. -/
def upTo (stop : Char) (taken : Text) : Text → Nat → Option (Text × Text × Nat)
  | [], _ => none
  | c :: rest, line =>
    if c = stop then some (taken.reverse, rest, line)
    else upTo stop (c :: taken) rest (if c = '\n' then line + 1 else line)

/-- The text between backquotes, without the backslashes that kept characters in it from ending
it. -/
def backquoted (quoted : Bool) (taken : Text) : Text → Nat → Option (Text × Text × Nat)
  | [], _ => none
  | '`' :: rest, line => some (taken.reverse, rest, line)
  | '\\' :: '\n' :: rest, line => backquoted quoted taken rest (line + 1)
  | '\\' :: c :: rest, line =>
    let isEscape := c == '\\' || c == '`' || c == '$' || (quoted && c == '"')
    backquoted quoted (c :: if isEscape then taken else '\\' :: taken) rest line
  | c :: rest, line => backquoted quoted (c :: taken) rest (if c = '\n' then line + 1 else line)

/-- One line of a document, and what follows it. The last line may have no end. -/
def documentLine (text : Text) : Text × Bool × Text :=
  match text.dropWhile (· ≠ '\n') with
  | [] => (text, false, [])
  | _ :: rest => (text.takeWhile (· ≠ '\n'), true, rest)

/-- A text without the tabs that a document leaves out before a line. -/
def lineStart (awaited : Awaited) (text : Text) : Text :=
  if awaited.stripsTabs then text.dropWhile (· = '\t') else text

/-- What follows the mark of a document, if the mark is the next line. -/
def afterMark? (awaited : Awaited) (text : Text) : Option Text :=
  let text := lineStart awaited text
  if awaited.mark.isPrefixOf text then
    match text.drop awaited.mark.length with
    | [] => some []
    | '\n' :: rest => some rest
    | _ => none
  else none

/-- The lines of a document up to its mark, at most `bound` of them, and what follows. -/
def documentText (awaited : Awaited) : (bound : Nat) → Text → Text × Text
  | 0, text => ([], text)
  | bound + 1, text =>
    match afterMark? awaited text with
    | some rest => ([], rest)
    | none =>
      if text.isEmpty then ([], [])
      else
        let (line, ends, rest) := documentLine (lineStart awaited text)
        let (more, rest) := documentText awaited bound rest
        (line ++ (if ends then '\n' :: more else more), rest)

/-- The source without what stands before `rest`, which is an end of it. -/
def dropTo (source : Source) (rest : Text) : Source :=
  { source with rest, line := source.line + (source.rest.count '\n' - rest.count '\n') }

end Source

namespace Reader

/-- The characters that can end a run of text somewhere. -/
def isSpecial (c : Char) : Bool :=
  " \t\n;&|<>()'\"\\$`\x7d".toList.contains c

/-- The parameters that are no names. -/
def isSpecialName (c : Char) : Bool :=
  c.isDigit || "!#$*-?@".toList.contains c

/-- The words of the grammar. -/
def grammarWords : List String :=
  ["!", "case", "do", "done", "elif", "else", "esac", "fi", "for", "if", "in", "then", "until",
    "while", "\x7b", "\x7d"]

/-- The commands that the name of a function cannot be. -/
def specialCommands : List String :=
  [".", ":", "break", "continue", "eval", "exec", "exit", "export", "readonly", "return", "set",
    "shift", "times", "trap", "unset"]

/-- Stops at a mistake. -/
def refuse {α : Type} (what : String) : Reading α := do
  throw ⟨(← get).line, what⟩

/-- Stops at a token that cannot stand there. -/
def unexpected {α : Type} (token : Token) (expected : Option Token := none) : Reading α :=
  match expected with
  | none => refuse (token.name ++ " unexpected")
  | some other => refuse (token.name ++ " unexpected (expecting " ++ other.name ++ ")")

/-- Takes the longest run of characters with a property. -/
def take (p : Char → Bool) : Reading Text := do
  let source ← get
  let (taken, rest, line) := Source.span p [] source.rest source.line
  set { source with rest, line }
  return taken

/-- The next character, which stays there. -/
def peek : Reading (Option Char) := do
  let _ ← take fun _ => false
  return (← get).rest.head?

def skip : Reading Unit := do
  let source ← get
  match source.rest with
  | [] => return ()
  | c :: rest => set { source with rest, line := if c = '\n' then source.line + 1 else source.line }

def next : Reading (Option Char) := do
  let c ← peek
  skip
  return c

/-- Takes the next character if it is a given one. -/
def accept (c : Char) : Reading Bool := do
  if (← peek) = some c then
    skip
    return true
  else return false

/-- Takes the next character. An end of a line is not counted. -/
def nextUncounted : Reading (Option Char) := do
  let c ← peek
  modify fun source => { source with rest := source.rest.drop 1 }
  return c

def putBack (c : Option Char) : Reading Unit :=
  modify fun source => { source with rest := c.toList ++ source.rest }

/-- Keeps a token for the next time. -/
def keep (token : Token) : Reading Unit :=
  modify fun source => { source with token := some token }

/-- Takes text in single quotes, of which the first has been taken. -/
def single : Reading Text := do
  let source ← get
  match Source.upTo '\'' [] source.rest source.line with
  | some (taken, rest, line) =>
    set { source with rest, line }
    return taken
  | none =>
    set (source.dropTo [])
    refuse "Unterminated quoted string"

/-- Takes a character after a backslash. -/
def escaped (around : Around) : Reading Piece := do
  let c := (← get).rest.head?
  skip
  match c with
  | none => return .text ['\\'] true
  | some c =>
    let isBraced := match around with
      | .braces _ _ => true
      | _ => false
    let isEscape := !around.quotes || c == '\\' || c == '`' || c == '$'
      || (c == '"' && around != .document) || (c == '\x7d' && isBraced)
    return .text (if isEscape then [c] else ['\\', c]) true

/-- What is at the end of the script, or of the document that is being read, within something. -/
def atEnd (around : Around) (taken : Word) : Reading Word := do
  let isDocument := (← get).current.isSome
  match around with
  | .word | .document => return taken.reverse
  | .sum _ => refuse "Missing '))'"
  | .braces false _ => refuse "Missing '\x7d'"
  | .double | .braces true _ =>
    refuse (if isDocument then "Missing '\x7d'" else "Unterminated quoted string")

/-- Takes the mark of the document that is being read, if it is the next line. The tabs before a
line are left out where the document says so. -/
def endsDocument : Reading Bool := do
  let source ← get
  match source.current with
  | none => return false
  | some awaited =>
    match Source.afterMark? awaited source.rest with
    | some rest =>
      set (source.dropTo rest)
      return true
    | none =>
      set { source with rest := Source.lineStart awaited source.rest }
      return false

/-- The operator that a sign after a parameter stands for, with a colon before it or without. -/
def operator? (sign : Char) : Option Operator :=
  match sign with
  | '-' => some .default
  | '=' => some .assign
  | '?' => some .require
  | '+' => some .alternative
  | _ => none

/-- Takes the operator after the name of a parameter in braces; also whether a colon stood before
it, and whether the braces end with it. An end of a line in its place is not counted. -/
def operator : Reading (Operator × Bool × Bool) := do
  match ← nextUncounted with
  | some '\x7d' => return (.value, false, true)
  | some ':' =>
    match ← nextUncounted with
    | none => return (.unknown, true, false)
    | some sign => return ((operator? sign).getD .unknown, true, false)
  | some '#' => return (.trimStart (← accept '#'), false, false)
  | some '%' => return (.trimEnd (← accept '%'), false, false)
  | some sign => return ((operator? sign).getD .unknown, false, false)
  | none => return (.unknown, false, false)

/-- Takes the name of a parameter in braces, if one stands there; also whether its length is
asked for. -/
def bracedName : Reading (Option Text × Bool) := do
  let named (c : Char) : Reading Text :=
    if Text.startsName c then take Text.inName else take Char.isDigit
  match ← peek with
  | none => return (none, false)
  | some c =>
    if Text.inName c then return (some (← named c), false)
    else if c = '\x7d' then return (none, false)
    else
      let _ ← nextUncounted
      if c ≠ '#' then return (if isSpecialName c then some [c] else none, false)
      else
        match ← peek with
        | none => return (some ['#'], false)
        | some second =>
          if Text.inName second then return (some (← named second), true)
          else
            let _ ← nextUncounted
            let third ← peek
            if second = '\x7d' ∨ third ≠ some '\x7d' then
              putBack (some second)
              return (some ['#'], false)
            else return (if isSpecialName second then some [second] else none, true)

/-- The text of a word between double quotes. The list of all arguments stands alone, so that there
is no word if there are no arguments. -/
def quotedPieces (inner : Word) : Word :=
  match inner with
  | [.parameter ['@'] .value _ _ _] => inner
  | _ => .quotes :: inner

/-- The marks that end a list of commands. -/
def endsList : Token → Bool
  | .endOfScript => true
  | .sign s =>
    [")", ";;", "do", "done", "elif", "else", "esac", "fi", "then", "\x7d"].contains s
  | _ => false

/-- Takes a redirection sign before which a descriptor may have stood. -/
def redirection (descriptor : Option Nat) : Reading Token := do
  if ← accept '>' then
    let target := descriptor.getD 1
    if ← accept '>' then return .redirect target .append
    else if ← accept '|' then return .redirect target .clobber
    else if ← accept '&' then return .redirect target .duplicate
    else return .redirect target .output
  else
    skip
    let target := descriptor.getD 0
    if ← accept '<' then return .document target (← accept '-')
    else if ← accept '&' then return .redirect target .duplicate
    else if ← accept '>' then return .redirect target .readWrite
    else return .redirect target .input

/-- The descriptor that a word before a redirection sign is, or nothing if there is no word. -/
def descriptor? (w : Word) : Option (Option Nat) :=
  match w with
  | [] => some none
  | [.text [c] false] => if c.isDigit then some (some (c.toNat - '0'.toNat)) else none
  | _ => none

/-- Takes a sign that may be doubled. -/
def sign (once twice : String) (c : Char) : Reading Token := do
  skip
  return .sign (if ← accept c then twice else once)

/-- What a list of commands stands in. -/
inductive Kind where
  /-- A line of the script. -/
  | line
  /-- A body, which may be empty or not. -/
  | body (mayBeEmpty : Bool)
  deriving DecidableEq, Repr

mutual

/-- Takes the parts of a word from a point on; those before it are given last first. -/
def pieces : (depth : Nat) → Around → Word → Reading Word
  | 0, _, _ => refuse "Maximum depth exceeded"
  | depth + 1, around, taken => do
    let run ← take fun c => !isSpecial c
    let taken := if run.isEmpty then taken else .text run around.quotes :: taken
    let literal (c : Char) : Reading Word := do
      skip
      pieces depth around (.text [c] around.quotes :: taken)
    match ← peek with
    | none => atEnd around taken
    | some '$' =>
      if (← get).readsMark then literal '$'
      else
        skip
        let w ← dollar depth around.quotes
        pieces depth around (w.reverse ++ taken)
    | some '`' => do
      skip
      if (← get).readsMark then pieces depth around (.text ['`'] around.quotes :: .quotes :: taken)
      else
        let piece ← backquoted depth around.quotes
        pieces depth around (piece :: taken)
    | some '\\' => do
      skip
      let piece ← escaped around
      pieces depth around (piece :: taken)
    | some '\'' =>
      if around.isOpen then do
        skip
        let text ← single
        pieces depth around (.text text true :: .quotes :: taken)
      else literal '\''
    | some '"' =>
      match around with
      | .double => do
        skip
        return taken.reverse
      | .braces true inner => do
        skip
        pieces depth (.braces true (!inner)) taken
      | .word | .braces false _ => do
        skip
        let inner ← pieces depth .double []
        pieces depth around ((quotedPieces inner).reverse ++ taken)
      | .sum _ | .document => literal '"'
    | some '\x7d' =>
      match around with
      | .braces _ false => do
        skip
        return taken.reverse
      | _ => literal '\x7d'
    | some '(' =>
      match around with
      | .word => return taken.reverse
      | .sum n => do
        skip
        pieces depth (.sum (n + 1)) (.text ['('] true :: taken)
      | _ => literal '('
    | some ')' =>
      match around with
      | .word => return taken.reverse
      | .sum 0 => do
        skip
        if ← accept ')' then return taken.reverse
        else pieces depth around (.text [')'] true :: taken)
      | .sum (n + 1) => do
        skip
        pieces depth (.sum n) (.text [')'] true :: taken)
      | _ => literal ')'
    | some '\n' =>
      match around with
      | .word => return taken.reverse
      | _ => do
        skip
        let taken : Word := .text ['\n'] around.quotes :: taken
        if ← endsDocument then atEnd around taken else pieces depth around taken
    | some c => if around = .word then return taken.reverse else literal c

/-- Takes what stands after a dollar sign. -/
def dollar : (depth : Nat) → (quoted : Bool) → Reading Word
  | 0, _ => refuse "Maximum depth exceeded"
  | depth + 1, quoted => do
    match ← peek with
    | none => return [.text ['$'] quoted]
    | some c =>
      if c = '(' then
        skip
        if ← accept '(' then
          let expression ← pieces depth (.sum 0) []
          return [.sum expression quoted]
        else
          let body ← substitution depth
          return [.output body quoted]
      else if c = '\x7b' then
        skip
        let piece ← braced depth quoted
        return [piece]
      else if Text.startsName c then
        let name ← take Text.inName
        return [.parameter name .value false [] quoted]
      else if isSpecialName c then
        skip
        return [.parameter [c] .value false [] quoted]
      else return [.text ['$'] quoted]

/-- Takes a parameter in braces, of which the first has been taken. -/
def braced : (depth : Nat) → (quoted : Bool) → Reading Piece
  | 0, _ => refuse "Maximum depth exceeded"
  | depth + 1, quoted => do
    let (name, isLength) ← bracedName
    match name, isLength with
    | some name, false =>
      let (operator, orEmpty, ends) ← operator
      let isTrim := match operator with
        | .trimStart _ | .trimEnd _ => true
        | _ => false
      if ends then return .parameter name .value false [] quoted
      let word ← pieces depth (.braces (quoted && !isTrim) false) []
      return .parameter name operator orEmpty word quoted
    | some name, true =>
      let _ ← pieces depth (.braces quoted false) []
      return .parameter name .length false [] quoted
    | none, _ =>
      let _ ← pieces depth (.braces quoted false) []
      return .parameter [] .unknown false [] quoted

/-- Takes commands in parentheses, of which the first has been taken. -/
def substitution : (depth : Nat) → Reading (List Command)
  | 0 => refuse "Maximum depth exceeded"
  | depth + 1 => do
    let outer ← get
    modify fun source => { source with awaited := [], current := none }
    let body ← commands depth (.body true) []
    match ← token depth false false with
    | .sign ")" =>
      modify fun source => { source with awaited := outer.awaited, current := outer.current }
      return body
    | other => unexpected other (some (.sign ")"))

/-- Takes commands between backquotes, of which the first has been taken. -/
def backquoted : (depth : Nat) → (quoted : Bool) → Reading Piece
  | 0, _ => refuse "Maximum depth exceeded"
  | depth + 1, quoted => do
    let outer ← get
    match Source.backquoted quoted [] outer.rest outer.line with
    | none =>
      set (outer.dropTo [])
      refuse "EOF in backquote substitution"
    | some (text, rest, line) =>
      set { Source.ofText text outer.documents with nextId := outer.nextId }
      let body ← commands depth (.body true) []
      modify fun inner =>
        { outer with rest, line, documents := inner.documents, nextId := inner.nextId }
      return .output body quoted

/-- Takes the documents that the last line asked for. -/
def documents : (depth : Nat) → List Awaited → Reading Unit
  | 0, _ => refuse "Maximum depth exceeded"
  | _, [] => modify fun source => { source with awaited := [] }
  | depth + 1, awaited :: more => do
    let word ← if awaited.expands then do
        modify fun source => { source with current := some awaited }
        let w ← if ← endsDocument then pure [] else pieces depth .document []
        modify fun source => { source with current := none }
        pure w
      else do
        let source ← get
        let (text, rest) := Source.documentText awaited (source.rest.length + 1) source.rest
        set (source.dropTo rest)
        pure [.text text true]
    modify fun source => { source with documents := (awaited.id, word) :: source.documents }
    documents depth more

/-- Takes a token that stands in the text. -/
def textToken : (depth : Nat) → Reading Token
  | 0 => refuse "Maximum depth exceeded"
  | depth + 1 => do
    let _ ← take fun c => c = ' ' || c = '\t'
    match ← peek with
    | none => return .endOfScript
    | some '#' => do
      modify fun source => { source with rest := source.rest.dropWhile (· ≠ '\n') }
      textToken depth
    | some '\n' => do
      skip
      return .newline
    | some '&' => sign "&" "&&" '&'
    | some '|' => sign "|" "||" '|'
    | some ';' => sign ";" ";;" ';'
    | some '(' => do
      skip
      return .sign "("
    | some ')' => do
      skip
      return .sign ")"
    | some _ => do
      let w ← pieces depth .word []
      let follows ← peek
      match descriptor? w with
      | some descriptor =>
        if follows = some '<' ∨ follows = some '>' then redirection descriptor
        else return .word w
      | none => return .word w

/-- Takes a token, the one that was kept first. Line ends before it are left out if `lines`, and it
is a word of the grammar if it looks like one and `grammar` holds. -/
def token : (depth : Nat) → (lines grammar : Bool) → Reading Token
  | 0, _, _ => refuse "Maximum depth exceeded"
  | depth + 1, lines, grammar => do
    let source ← get
    let t ← match source.token with
      | some t => do
        set { source with token := none }
        pure t
      | none => textToken depth
    match t with
    | .newline =>
      if lines then
        documents depth (← get).awaited
        token depth lines grammar
      else return t
    | .word w =>
      match w.plain? with
      | some text =>
        let s := String.ofList text
        if grammar && grammarWords.contains s then return .sign s else return t
      | none => return t
    | _ => return t

/-- Takes a list of commands; those before are given last first. -/
def commands : (depth : Nat) → Kind → List Command → Reading (List Command)
  | 0, _, _ => refuse "Maximum depth exceeded"
  | depth + 1, kind, taken => do
    let first ← token depth (kind != .line) true
    match first, kind with
    | .newline, .line =>
      documents depth (← get).awaited
      return taken.reverse
    | .endOfScript, _ =>
      documents depth (← get).awaited
      keep first
      return taken.reverse
    | _, _ =>
      keep first
      let mayEnd := match kind with
        | .line => false
        | .body mayBeEmpty => mayBeEmpty || !taken.isEmpty
      if mayEnd && endsList first then return taken.reverse
      let c ← andOr depth
      let after ← token depth false false
      match after with
      | .sign "&" => commands depth kind (.background c :: taken)
      | .sign ";" => commands depth kind (c :: taken)
      | .newline =>
        keep after
        commands depth kind (c :: taken)
      | .endOfScript =>
        documents depth (← get).awaited
        keep after
        return (c :: taken).reverse
      | _ =>
        if kind = .line then unexpected after
        keep after
        return (c :: taken).reverse

/-- Takes commands joined by `&&` and `||`. -/
def andOr : (depth : Nat) → Reading Command
  | 0 => refuse "Maximum depth exceeded"
  | depth + 1 => do
    let c ← pipeline depth false false
    joined depth c

/-- Takes what is joined to a command. -/
def joined : (depth : Nat) → Command → Reading Command
  | 0, _ => refuse "Maximum depth exceeded"
  | depth + 1, c => do
    match ← token depth false false with
    | .sign "&&" => do
      let second ← pipeline depth true true
      joined depth (.both c second)
    | .sign "||" => do
      let second ← pipeline depth true true
      joined depth (.either c second)
    | other =>
      keep other
      return c

/-- Takes a pipeline, before which there may be a `!`. -/
def pipeline : (depth : Nat) → (lines grammar : Bool) → Reading Command
  | 0, _, _ => refuse "Maximum depth exceeded"
  | depth + 1, lines, grammar => do
    match ← token depth lines grammar with
    | .sign "!" => do
      let first ← command depth false true
      return .negation (← stages depth [first])
    | other =>
      keep other
      let first ← command depth false false
      stages depth [first]

/-- Takes the stages of a pipeline after those that are given last first. -/
def stages : (depth : Nat) → List Command → Reading Command
  | 0, _ => refuse "Maximum depth exceeded"
  | depth + 1, taken => do
    match ← token depth false false with
    | .sign "|" => do
      let c ← command depth true true
      stages depth (c :: taken)
    | other =>
      keep other
      match taken with
      | [c] => return c
      | _ => return .pipeline taken.reverse

def command : (depth : Nat) → (lines grammar : Bool) → Reading Command
  | 0, _, _ => refuse "Maximum depth exceeded"
  | depth + 1, lines, grammar => do
    let first ← token depth lines grammar
    let line := (← get).line
    match first with
    | .sign "if" =>
      let c ← choice depth
      ended depth line c "fi"
    | .sign "while" => do
      let c ← loop depth false
      ended depth line c "done"
    | .sign "until" => do
      let c ← loop depth true
      ended depth line c "done"
    | .sign "for" => do
      let c ← each depth line
      ended depth line c "done"
    | .sign "case" => do
      let c ← select depth line
      redirected depth line c
    | .sign "(" => do
      let body ← commands depth (.body false) []
      ended depth line (.subshell line body []) ")"
    | .sign "\x7b" => do
      let body ← commands depth (.body false) []
      ended depth line (.group line body []) "\x7d"
    | .word _ | .redirect _ _ | .document _ _ => do
      keep first
      simple depth line [] [] []
    | other => unexpected other

/-- Takes the word that ends a command, and the redirections after it. -/
def ended : (depth : Nat) → (line : Nat) → Command → String → Reading Command
  | 0, _, _, _ => refuse "Maximum depth exceeded"
  | depth + 1, line, c, mark => do
    match ← token depth false false with
    | .sign s =>
      if s = mark then redirected depth line c
      else unexpected (.sign s) (some (.sign mark))
    | other => unexpected other (some (.sign mark))

/-- Takes the redirections of a command that is no simple one. -/
def redirected : (depth : Nat) → (line : Nat) → Command → Reading Command
  | 0, _, _ => refuse "Maximum depth exceeded"
  | depth + 1, line, c => do
    match ← redirects depth [] with
    | [] => return c
    | found =>
      match c with
      | .subshell line body _ => return .subshell line body found
      | .group line body _ => return .group line body found
      | other => return .group line [other] found

/-- Takes redirections after those that are given last first. -/
def redirects : (depth : Nat) → List Redirect → Reading (List Redirect)
  | 0, _ => refuse "Maximum depth exceeded"
  | depth + 1, taken => do
    match ← token depth false true with
    | .redirect descriptor how => do
      let r ← redirect depth descriptor how
      redirects depth (r :: taken)
    | .document descriptor stripsTabs => do
      let r ← documentRedirect depth descriptor stripsTabs
      redirects depth (r :: taken)
    | other =>
      keep other
      return taken.reverse

/-- Takes the word after a redirection sign. -/
def redirect : (depth : Nat) → (descriptor : Nat) → Redirection → Reading Redirect
  | 0, _, _ => refuse "Maximum depth exceeded"
  | depth + 1, descriptor, how => do
    match ← token depth false false with
    | .word w => return .mk descriptor how w
    | other => unexpected other

/-- Takes the mark of a document. -/
def documentRedirect : (depth : Nat) → (descriptor : Nat) → (stripsTabs : Bool) → Reading Redirect
  | 0, _, _ => refuse "Maximum depth exceeded"
  | depth + 1, descriptor, stripsTabs => do
    modify fun source => { source with readsMark := true }
    let mark ← token depth false false
    modify fun source => { source with readsMark := false }
    match mark with
    | .word w =>
      let source ← get
      let awaited : Awaited := ⟨source.nextId, stripsTabs, !w.isQuoted, w.literal?.getD []⟩
      set { source with awaited := source.awaited ++ [awaited], nextId := source.nextId + 1 }
      return .mk descriptor (.document awaited.id) []
    | other => unexpected other

/-- Takes the parts of an `if` after that word. -/
def choice : (depth : Nat) → Reading Command
  | 0 => refuse "Maximum depth exceeded"
  | depth + 1 => do
    let condition ← commands depth (.body false) []
    match ← token depth false false with
    | .sign "then" => do
      let body ← commands depth (.body false) []
      match ← token depth false false with
      | .sign "elif" => do
        let alternative ← choice depth
        return .choice condition body [alternative]
      | .sign "else" => do
        let alternative ← commands depth (.body false) []
        return .choice condition body alternative
      | other =>
        keep other
        return .choice condition body []
    | other => unexpected other (some (.sign "then"))

/-- Takes the parts of a loop after its first word. -/
def loop : (depth : Nat) → (untilTrue : Bool) → Reading Command
  | 0, _ => refuse "Maximum depth exceeded"
  | depth + 1, untilTrue => do
    let condition ← commands depth (.body false) []
    match ← token depth false false with
    | .sign "do" => return .loop untilTrue condition (← commands depth (.body false) [])
    | other => unexpected other (some (.sign "do"))

/-- Takes the parts of a `for` after that word. -/
def each : (depth : Nat) → (line : Nat) → Reading Command
  | 0, _ => refuse "Maximum depth exceeded"
  | depth + 1, line => do
    let name ← match ← token depth false false with
      | .word w => pure (w.plain?.filter Text.isName)
      | _ => pure none
    match name with
    | none => refuse "Bad for loop variable"
    | some name =>
      let words ← match ← token depth true true with
        | .sign "in" => words depth []
        | .sign ";" => pure [allArguments]
        | other => do
          keep other
          pure [allArguments]
      match ← token depth true true with
      | .sign "do" => return .each line name words (← commands depth (.body false) [])
      | other => unexpected other (some (.sign "do"))

/-- Takes words up to the end of a line or a `;`, after those that are given last first. -/
def words : (depth : Nat) → List Word → Reading (List Word)
  | 0, _ => refuse "Maximum depth exceeded"
  | depth + 1, taken => do
    match ← token depth false false with
    | .word w => words depth (w :: taken)
    | .newline => return taken.reverse
    | .sign ";" => return taken.reverse
    | other => unexpected other

/-- Takes the parts of a `case` after that word. -/
def select : (depth : Nat) → (line : Nat) → Reading Command
  | 0, _ => refuse "Maximum depth exceeded"
  | depth + 1, line => do
    match ← token depth false false with
    | .word w => do
      match ← token depth true true with
      | .sign "in" => return .select line w (← clauses depth [])
      | other => unexpected other (some (.sign "in"))
    | other => unexpected other (some (.word []))

/-- Takes the choices of a `case` up to its end, after those that are given last first. -/
def clauses : (depth : Nat) → List Clause → Reading (List Clause)
  | 0, _ => refuse "Maximum depth exceeded"
  | depth + 1, taken => do
    let first ← token depth true true
    match first with
    | .sign "esac" => return taken.reverse
    | _ => do
      let first ← match first with
        | .sign "(" => token depth false false
        | other => pure other
      let patterns ← patterns depth first []
      let body ← commands depth (.body true) []
      let clause := Clause.mk patterns body
      match ← token depth true true with
      | .sign "esac" => return (clause :: taken).reverse
      | .sign ";;" => clauses depth (clause :: taken)
      | other => unexpected other (some (.sign ";;"))

/-- Takes the patterns of a choice, the first of which has been taken as a token. -/
def patterns : (depth : Nat) → Token → List Word → Reading (List Word)
  | 0, _, _ => refuse "Maximum depth exceeded"
  | depth + 1, first, taken => do
    let w : Word := match first with
      | .word w => w
      | .sign s => [.text s.toList false]
      | _ => []
    match ← token depth false false with
    | .sign "|" => do
      let another ← token depth false false
      patterns depth another (w :: taken)
    | .sign ")" => return (w :: taken).reverse
    | other => unexpected other (some (.sign ")"))

/-- Takes the parts of a simple command. Words that set variables stand first. -/
def simple : (depth : Nat) → (line : Nat) → List (Text × Word) → List Word → List Redirect →
    Reading Command
  | 0, _, _, _, _ => refuse "Maximum depth exceeded"
  | depth + 1, line, assignments, taken, found => do
    match ← token depth false false with
    | .word w =>
      match taken, w.assignment? with
      | [], some assignment => simple depth line (assignment :: assignments) taken found
      | _, _ => simple depth line assignments (w :: taken) found
    | .redirect descriptor how => do
      let r ← redirect depth descriptor how
      simple depth line assignments taken (r :: found)
    | .document descriptor stripsTabs => do
      let r ← documentRedirect depth descriptor stripsTabs
      simple depth line assignments taken (r :: found)
    | other =>
      match other, taken, assignments, found with
      | .sign "(", [name], [], [] => function depth name
      | _, _, _, _ =>
        keep other
        return .simple line assignments.reverse taken.reverse found.reverse

/-- Takes the parts of a function after its name and a parenthesis. -/
def function : (depth : Nat) → Word → Reading Command
  | 0, _ => refuse "Maximum depth exceeded"
  | depth + 1, name => do
    match ← token depth false false with
    | .sign ")" =>
      match name.plain? with
      | none => refuse "Bad function name"
      | some text =>
        if !Text.isName text || specialCommands.contains (String.ofList text) then
          refuse "Bad function name"
        return .define text (← command depth true true)
    | other => unexpected other (some (.sign ")"))

end

/-- Takes a line of commands; nothing at the end of the script. -/
def line (depth : Nat) : Reading (Option (List Command)) := do
  match ← token depth false false with
  | .endOfScript => return none
  | .newline => return some []
  | other =>
    keep other
    return some (← commands depth .line [])

/-- A depth that no script of the given length exceeds. -/
def depthFor (script : Text) : Nat :=
  16 * script.length + 64

end Reader

end AppLauncher.Shell
