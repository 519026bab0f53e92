import AppLauncher.Diagnostics.Filter
import AppLauncher.Text.Hex

/-!
# Lines of the diagnostic log

A record is a time stamp, the level, the part that speaks and its text. Control characters that a
terminal would act on are shown as escapes, so that reading a log cannot change the terminal.
-/

namespace AppLauncher.Diagnostics

/-- One character of a text in a record. -/
def escapeChar (c : Char) : List Char :=
  if c = '\x1b' ∨ c = '\x07' ∨ c = '\x08' ∨ c = '\x0c' ∨ c = '\x7f' then
    let digits := Nat.toDigits 16 c.toNat
    '\\' :: 'x' :: (List.replicate (2 - digits.length) '0' ++ digits)
  else if 0x80 ≤ c.toNat ∧ c.toNat ≤ 0x9F then
    '\\' :: 'u' :: '\x7b' :: (Nat.toDigits 16 c.toNat ++ ['\x7d'])
  else [c]

/-- A text as it stands in a record. -/
def escape (text : String) : String :=
  String.ofList (text.toList.flatMap escapeChar)

/-- A level, moved to the right of its column. -/
def column (level : Level) : String :=
  String.ofList (List.replicate (5 - level.name.length) ' ') ++ level.name

/-- One event as a record, with a line end. -/
def record (stamp : String) (e : Event) : String :=
  stamp ++ " " ++ column e.level ++ " " ++ e.origin.target ++ ": " ++ escape e.text ++ "\n"

/-- The records of the events that a filter keeps. -/
def records (filter : Filter) (stamp : String) (events : List Event) : String :=
  String.join ((events.filter filter.keeps).map (record stamp))

end AppLauncher.Diagnostics
