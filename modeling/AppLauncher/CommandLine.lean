/-!
# The child's command line

The configured command line, followed by every argument between double quotes. Quotes inside an
argument are not marked in any way, so an argument that holds one may fall into other words than it
was meant to.
-/

namespace AppLauncher.CommandLine

/-- One argument as it is added to a command line. -/
def quoted (arg : String) : String :=
  " \"" ++ arg ++ "\""

/-- A command line with arguments after it. -/
def build (base : String) (args : List String) : String :=
  args.foldl (fun line arg => line ++ quoted arg) base

theorem build_append (base : String) (args more : List String) :
    build base (args ++ more) = build (build base args) more := by
  simp [build]

/-- An argument whose bounds a reader of the command line may miss. -/
def hasEmbeddedQuote (arg : String) : Bool :=
  arg.toList.contains '"'

end AppLauncher.CommandLine
