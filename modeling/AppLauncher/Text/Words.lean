/-!
# The words of a command line

How a command line falls into words: a quote turns quoting on or off and is dropped, a space
outside quotes ends a word, and a word is there once a character or a quote of it has been read.
So `""` is an empty word, and blanks between words make none.
-/

namespace AppLauncher.Words

/-- The rest of a line, given the word being read (none between words) and whether quoting is
on. -/
def splitFrom : Option (List Char) → Bool → List Char → List (List Char)
  | word, _, [] => word.toList
  | word, quoted, c :: rest =>
    if c = '"' then splitFrom (some (word.getD [])) (!quoted) rest
    else if c = ' ' ∧ quoted = false then word.toList ++ splitFrom none false rest
    else splitFrom (some (word.getD [] ++ [c])) quoted rest

def split (line : List Char) : List (List Char) :=
  splitFrom none false line

/-- Whether a line ends with quoting off. -/
def isBalanced (line : List Char) : Bool :=
  line.count '"' % 2 == 0

end AppLauncher.Words
