import AppLauncher.Diagnostics.Pattern
import AppLauncher.Log
import AppLauncher.Text.Blank
import AppLauncher.Text.Utf8

/-!
# Directives

A directive tells which events are to be kept, and from what level on. It is a level for everything,
or the name of a part of the launcher, each with or without a span in brackets, with or without a
level after `=`: `warn`, `part`, `part=warn`, `[span]=warn`, `part[span{field=value}]=warn`. A part
is named by the beginning of its target, and a field by its whole name.

The launcher opens no spans, so a directive for a named span, or for a value of a field, decides
about no event.

Directives are read without the blanks at their ends. The positions of the signs in a directive are
counted without those blanks as well, but the names and the level between them are cut out of the
text with the blanks, so a blank before a directive shifts all its parts.
-/

namespace AppLauncher

/-- A number up to 5, in decimal digits. -/
def Level.ofDigits? (digits : List Char) : Option (Option Level) :=
  if digits.isEmpty || !digits.all Char.isDigit then none
  else
    match digits.foldl (fun n c => n * 10 + (c.toNat - '0'.toNat)) 0 with
    | 0 => some none
    | 1 => some (some .error)
    | 2 => some (some .warn)
    | 3 => some (some .info)
    | 4 => some (some .debug)
    | 5 => some (some .trace)
    | _ => none

/-- The least serious level that a word keeps, where the word says so. Words are names in any case,
or numbers, which may have a plus sign. -/
def Level.ofWord? (word : String) : Option (Option Level) :=
  match word.toLower with
  | "off" => some none
  | "error" => some (some .error)
  | "warn" => some (some .warn)
  | "info" => some (some .info)
  | "debug" => some (some .debug)
  | "trace" => some (some .trace)
  | _ =>
    match word.toList with
    | '+' :: digits => Level.ofDigits? digits
    | digits => Level.ofDigits? digits

namespace Diagnostics

/-- A field that has to be there, and the value it has to have, if any. -/
structure FieldTest where
  name : String
  value : Option String
  deriving DecidableEq, Repr

/-- One directive: what it is for, and the least serious level that it keeps, nothing if there is
none. What it does not name is free. -/
structure Directive where
  part : Option String
  span : Option String
  field : Option FieldTest
  level : Option Level
  deriving DecidableEq, Repr

/-- Why a text is no directive. -/
inductive Fault where
  /-- It does not have the form of one. -/
  | malformed
  /-- A part of it would have to be cut out of the text in the middle of a character. -/
  | cutCharacter (position : Nat)
  deriving DecidableEq, Repr

/-- What is said of a fault that breaks the program. -/
def Fault.message : Fault → String
  | malformed => "invalid filter directive"
  | cutCharacter position => s!"byte index {position} is not a char boundary"

namespace FieldTest

/-- Reads a field with or without a value. What follows a second `=` has no meaning. -/
def parse (text : String) : Except Fault FieldTest :=
  let chars := text.toList
  let name := String.ofList (chars.takeWhile (· ≠ '='))
  match chars.dropWhile (· ≠ '=') with
  | [] => .ok ⟨name, none⟩
  | _ :: rest =>
    let value := rest.takeWhile (· ≠ '=')
    if Pattern.isComparable value then .ok ⟨name, some (String.ofList value)⟩
    else .error .malformed

end FieldTest

namespace Directive

def all : Directive :=
  ⟨none, none, none, some .trace⟩

/-- What the next character of a directive belongs to. Parts that have begun know their first
position. -/
inductive Place where
  | start
  /-- A level, or the name of a part. -/
  | word
  | level (first : Nat)
  | span (first : Nat)
  | field (first : Nat)
  | afterField
  | afterSpan
  deriving DecidableEq, Repr

/-- Whether a character begins at a position of a text. -/
def isBound (text : Bytes) (position : Nat) : Bool :=
  match text[position]? with
  | some b => b < 0x80 || 0xC0 ≤ b
  | none => true

/-- The part of a text from one position to another. -/
def cut (text : Bytes) (first last : Nat) : Except Fault String :=
  if !isBound text first then .error (.cutCharacter first)
  else if !isBound text last then .error (.cutCharacter last)
  else .ok (Utf8.toStringLossy ((text.take last).drop first))

/-- Characters that the name of a part begins with. -/
def startsName (c : Char) : Bool :=
  c == '-' || c == ':' || c == '_' || Text.isAlphanumeric c

/-- A name, or nothing if it is empty. -/
def named (name : String) : Option String :=
  if name.isEmpty then none else some name

/-- The level after `=`; without one, everything is kept. -/
def levelAfter (word : String) : Except Fault (Option Level) :=
  if word.isEmpty then .ok (some .trace)
  else
    match Level.ofWord? word with
    | some level => .ok level
    | none => .error .malformed

/-- Reads the character at a position of a text. -/
def step (text : Bytes) (d : Directive) (position : Nat) (c : Char) :
    Place → Except Fault (Directive × Place)
  | .start =>
    if c = '[' then .ok (d, .span (position + 1))
    else if startsName c then .ok (d, .word)
    else .error .malformed
  | .word => do
    if c = '=' then return ({ d with part := some (← cut text 0 position) }, .level (position + 1))
    else if c = '[' then
      return ({ d with part := some (← cut text 0 position) }, .span (position + 1))
    else return (d, .word)
  | .level first => .ok (d, .level first)
  | .span first => do
    if c = ']' then return ({ d with span := some (← cut text first position) }, .afterSpan)
    else if c = '\x7b' then
      return ({ d with span := named (← cut text first position) }, .field (position + 1))
    else return (d, .span first)
  | .field first => do
    if c = '\x7d' then
      let field ← cut text first position
      if field.isEmpty then throw .malformed
      return ({ d with field := some (← FieldTest.parse field) }, .afterField)
    else return (d, .field first)
  | .afterField => if c = ']' then .ok (d, .afterSpan) else .error .malformed
  | .afterSpan => if c = '=' then .ok (d, .level (position + 1)) else .error .malformed

/-- Reads the end of a directive. -/
def finish (text : Bytes) (d : Directive) : Place → Except Fault Directive
  | .word =>
    let word := Utf8.toStringLossy text
    match Level.ofWord? word with
    | some level => .ok { d with level }
    | none => .ok { d with part := some word }
  | .level first => do return { d with level := ← levelAfter (← cut text first text.length) }
  | .afterSpan => .ok d
  | _ => .error .malformed

/-- Reads characters that begin at a position of a text. -/
def readFrom (text : Bytes) (d : Directive) (place : Place) (position : Nat) :
    List Char → Except Fault Directive
  | [] => finish text d place
  | c :: rest => do
    let (d, place) ← step text d position c place
    readFrom text d place (position + c.utf8Size) rest

def parse (text : String) : Except Fault Directive :=
  readFrom (Utf8.ofString text) all .start 0 (Text.trim text.toList)

/-- Whether a directive can decide about events outside of spans. -/
def isForEvents (d : Directive) : Bool :=
  d.span.isNone && d.field.all fun field => field.value.isNone

/-- Whether a directive is for an event. -/
def covers (d : Directive) (e : Event) : Bool :=
  d.isForEvents
    && d.part.all (fun part => part.toList.isPrefixOf e.origin.target.toList)
    && d.field.all (fun field => e.origin.fields.contains field.name)

/-- How much of a target a directive names. -/
def width (d : Directive) : Nat :=
  match d.part with
  | none => 0
  | some part => part.utf8ByteSize + 1

/-- Whether a directive is less narrow than another one for the same event: it names less of the
target, or as much and a smaller field or none. -/
def isWider (d other : Directive) : Bool :=
  d.width < other.width
    || (d.width == other.width &&
      match d.field, other.field with
      | none, some _ => true
      | some a, some b => a.name < b.name
      | _, none => false)

/-- Whether a directive keeps a level. -/
def keeps (d : Directive) (level : Level) : Bool :=
  match d.level with
  | none => false
  | some least => level.rank ≤ least.rank

end Directive

end Diagnostics

end AppLauncher
