import AppLauncher.Shell.Arithmetic
import AppLauncher.Shell.Fields
import AppLauncher.Shell.Pathnames
import AppLauncher.Shell.Process

/-!
# What words stand for

A word of a command line stands for any number of arguments: parameters, the output of commands and
arithmetic are replaced, unquoted values fall apart into fields, and fields that are patterns stand
for paths. Where a single text is needed, nothing falls apart and nothing is a pattern for paths.

How commands are run to get their output is a parameter of these functions.
-/

namespace AppLauncher.Shell

/-- A part of a word after everything in it has been replaced. -/
inductive Fragment where
  | fixed (text : Text) (quoted : Bool)
  /-- A place where quotes stood. -/
  | quotes
  /-- Text that falls apart. -/
  | value (text : Text)
  /-- All arguments, with zero characters between them where alone they fall apart. -/
  | list (text : Text)
  deriving Repr

/-- Where the name of the home directory is looked for. -/
inductive HomePlaces where
  | start
  /-- At the start and after colons. -/
  | colons
  deriving DecidableEq, Repr

/-- How a word is expanded. -/
structure Manner where
  /-- Whether it becomes fields. -/
  splits : Bool
  /-- Whether it stands in the braces of a parameter, where text is a part of the value. -/
  inBraces : Bool
  homes : HomePlaces
  deriving Repr

namespace Manner

/-- The manner for the arguments of a command. -/
def fields : Manner := ⟨true, false, .start⟩

/-- The manner for a single text. -/
def whole : Manner := ⟨false, false, .start⟩

/-- The manner for the value of a variable. -/
def assigned : Manner := ⟨false, false, .colons⟩

/-- The manner for words in braces. -/
def inner (m : Manner) : Manner := { m with inBraces := true, homes := .start }

/-- A value as a fragment. -/
def value (m : Manner) (text : Text) (quoted : Bool) : Fragment :=
  if m.splits && !quoted then .value text else .fixed text quoted

/-- Text of a word as a fragment. -/
def text (m : Manner) (text : Text) (quoted : Bool) : Fragment :=
  if m.inBraces then m.value text quoted else .fixed text quoted

end Manner

namespace Fragment

def chars : Fragment → List PatternChar
  | fixed text quoted => text.map (·, quoted)
  | quotes => []
  | value text => text.map (·, false)
  | list text => text.map (·, true)

def join (fragments : List Fragment) : Text :=
  (fragments.flatMap chars).map Prod.fst

def addTo (separators : Separators) (fields : Fields) : Fragment → Fields
  | fixed text quoted => if text.isEmpty then fields else fields.add (text.map (·, quoted))
  | quotes => fields.add []
  | value text => fields.spread separators (text.length + 1) (text.map (·, false))
  | list text => fields.addList text

end Fragment

namespace Expand

/-- The pieces of a text between its colons. -/
def colonPieces (text : Text) : List Text :=
  text.foldr (fun c pieces =>
    if c = ':' then [] :: pieces
    else
      match pieces with
      | first :: rest => (c :: first) :: rest
      | [] => [[c]]) [[]]

/-- Text in which a tilde at the start is replaced by the home directory, if a slash or the end
follows it. -/
def homeAtStart (m : Manner) (home : Option Text) (isWhole : Bool) (text : Text) :
    List Fragment :=
  match home, text with
  | some home, '~' :: rest =>
    if rest.head? = some '/' ∨ (rest = [] ∧ isWhole) then [.fixed home true, m.text rest false]
    else [m.text text false]
  | _, _ => [m.text text false]

/-- Pieces of text with colons between them again. Each of them can begin with the home
directory. -/
def homeAfterColons (m : Manner) (home : Option Text) (isWhole : Bool) :
    List Text → List Fragment
  | [] => []
  | [last] => homeAtStart m home isWhole last
  | piece :: rest =>
    homeAtStart m home true piece ++ .fixed [':'] false :: homeAfterColons m home isWhole rest

/-- Unquoted text of a word. -/
def unquoted (m : Manner) (home : Option Text) (isFirst isLast : Bool) (text : Text) :
    List Fragment :=
  match m.homes, colonPieces text with
  | .start, _ => if isFirst then homeAtStart m home isLast text else [m.text text false]
  | .colons, first :: rest =>
    if isFirst then homeAfterColons m home isLast (first :: rest)
    else if rest.isEmpty then [m.text first false]
    else m.text first false :: .fixed [':'] false :: homeAfterColons m home isLast rest
  | .colons, [] => []

/-- The value of a parameter, if it has one. -/
def parameterValue (m : Manner) (name : Text) (quoted : Bool) : Running (Option Text) := do
  let p ← process
  if name = ['@'] ∨ name = ['*'] then
    let fallsApart := m.splits && (!quoted || name == ['@'])
    let separator := if fallsApart then ['\x00'] else p.separators.take 1
    return some (Text.join separator p.arguments)
  else return p.parameter? name

/-- The value of a parameter as fragments. -/
def shown (m : Manner) (name : Text) (quoted : Bool) (value : Text) : Running (List Fragment) := do
  if m.splits && quoted && name == ['@'] then
    return if (← process).arguments.isEmpty then [] else [.list value]
  else return [m.value value quoted]

/-- Refuses a parameter without a value in a strict shell. -/
def demand (name : Text) : Running Unit := do
  if (← process).has 'u' then fail (name ++ ": parameter not set".toList)

/-- The value of an arithmetic expression, whose assignments are done. -/
def arithmetic (text : Text) : Running Text := do
  let p ← process
  match Arithmetic.evaluate (fun name => (p.value? name).getD []) text with
  | .error fault => fail (fault.message text)
  | .ok (result, assigned) =>
    for (name, n) in assigned do setVariable name (Text.ofInt n)
    return Text.ofInt result

mutual

def fragments (output : List Command → Running Text) (m : Manner) (isFirst : Bool) :
    List Piece → Running (List Fragment)
  | [] => return []
  | piece :: rest => do
    let first ← fragment output m isFirst rest.isEmpty piece
    return first ++ (← fragments output m false rest)

/-- The fragments of a piece of a word. -/
def fragment (output : List Command → Running Text) (m : Manner) (isFirst isLast : Bool) :
    Piece → Running (List Fragment)
  | .text s quoted => do
    if quoted then return [.fixed s true]
    else return unquoted m ((← process).value? "HOME".toList) isFirst isLast s
  | .quotes => return [.quotes]
  | .output commands quoted => return [m.value (← output commands) quoted]
  | .sum expression quoted => do
    let text := Fragment.join (← fragments output .whole false expression)
    return [m.value (← arithmetic text) quoted]
  | .parameter name operator orEmpty word quoted => do
    let found ← parameterValue m name quoted
    let present := found.filter fun value => !(orEmpty && value.isEmpty)
    match operator with
    | .value =>
      if found.isNone then demand name
      shown m name quoted (found.getD [])
    | .length =>
      if found.isNone then demand name
      let whole ← parameterValue .whole name quoted
      return [m.value (Text.ofNat (whole.getD []).length) quoted]
    | .default =>
      match present with
      | some value => shown m name quoted value
      | none => fragments output m.inner (!quoted) word
    | .alternative =>
      match present with
      | some _ => fragments output m.inner (!quoted) word
      | none => return []
    | .assign =>
      match present with
      | some value => shown m name quoted value
      | none =>
        let value := Fragment.join (← fragments output .whole (!quoted) word)
        if !Text.isName name then fail (name ++ ": bad variable name".toList)
        setVariable name value
        return [m.value value quoted]
    | .require =>
      match present with
      | some value => shown m name quoted value
      | none =>
        let text := Fragment.join (← fragments output .whole (!quoted) word)
        let message :=
          if !word.isEmpty then text
          else "parameter not set".toList ++ (if orEmpty then " or null".toList else [])
        fail (name ++ ": ".toList ++ message)
    | .trimStart longest =>
      match found with
      | none =>
        demand name
        shown m name quoted []
      | some value =>
        let pattern := (← fragments output .whole (!quoted) word).flatMap Fragment.chars
        shown m name quoted (Glob.trimStart longest (Glob.parts pattern) value)
    | .trimEnd longest =>
      match found with
      | none =>
        demand name
        shown m name quoted []
      | some value =>
        let pattern := (← fragments output .whole (!quoted) word).flatMap Fragment.chars
        shown m name quoted (Glob.trimEnd longest (Glob.parts pattern) value)
    | .unknown => fail "Bad substitution".toList

end

/-- The arguments that a word stands for. -/
def arguments (output : List Command → Running Text) (word : Word) : Running (List Text) := do
  let found ← fragments output .fields true word
  let shell ← get
  let separators : Separators := ⟨shell.process.separators⟩
  let fields := (found.foldl (Fragment.addTo separators) .empty).all
  if shell.process.has 'f' then return fields.map (·.map Prod.fst)
  else return fields.flatMap (Pathnames.expand shell.files shell.process.here)

/-- The text that a word stands for. -/
def text (output : List Command → Running Text) (word : Word) : Running Text :=
  return Fragment.join (← fragments output .whole true word)

/-- The value that a word gives a variable. -/
def value (output : List Command → Running Text) (word : Word) : Running Text :=
  return Fragment.join (← fragments output .assigned true word)

/-- The pattern that a word stands for. -/
def pattern (output : List Command → Running Text) (word : Word) : Running (List Glob.Part) :=
  return Glob.parts ((← fragments output .whole true word).flatMap Fragment.chars)

end Expand

end AppLauncher.Shell
