import AppLauncher.Diagnostics.Directive

/-!
# Which events are kept

A filter is a list of directives between commas. The narrowest directive that is for an event
decides about it; an event that none is for is dropped.
-/

namespace AppLauncher.Diagnostics

/-- What decides which events are kept. -/
abbrev Filter := List Directive

namespace Filter

/-- The filter that keeps what an operator wants to know. -/
def informative : Filter := [{ Directive.all with level := some .info }]

/-- Reads a filter. One directive that cannot be read spoils it all. -/
def parse (text : String) : Except Fault Filter :=
  ((text.splitOn ",").filter (· ≠ "")).mapM Directive.parse

/-- The filter that a setting asks for. A setting that is no filter counts as none, unless it could
not be read to its end. -/
def ofSetting : Option String → Except Fault Filter
  | none => .ok informative
  | some text =>
    match parse text with
    | .error .malformed => .ok informative
    | result => result

/-- The directive that decides about an event: the narrowest one that is for it, the later of two
that are equally narrow. -/
def deciding? (filter : Filter) (e : Event) : Option Directive :=
  (filter.filter (·.covers e)).foldl (fun best d =>
    match best with
    | some b => if d.isWider b then some b else some d
    | none => some d) none

def keeps (filter : Filter) (e : Event) : Bool :=
  (filter.deciding? e).any (·.keeps e.level)

end Filter

end AppLauncher.Diagnostics
