/-!
# UTF-16 and zero-terminated wide strings

The desktop takes its texts as 16-bit units that end in a zero unit. `wide` makes such a buffer;
`untilZero` is the part that a reader of it sees, and `decode` turns units back into characters.
-/

namespace AppLauncher.Utf16

/-- The units of one character: itself, or a high and a low surrogate. -/
def encodeChar (c : Char) : List UInt16 :=
  let v := c.toNat
  if v < 0x10000 then [v.toUInt16]
  else [(0xD800 + (v - 0x10000) / 0x400).toUInt16, (0xDC00 + (v - 0x10000) % 0x400).toUInt16]

def encode (s : List Char) : List UInt16 :=
  s.flatMap encodeChar

/-- A text as a zero-terminated buffer. -/
def wide (s : List Char) : List UInt16 :=
  encode s ++ [0]

/-- What a reader of a zero-terminated buffer sees. -/
def untilZero (units : List UInt16) : List UInt16 :=
  units.takeWhile (· ≠ 0)

/-- Units that begin a surrogate pair. -/
def isHigh (u : UInt16) : Bool :=
  0xD800 ≤ u && u < 0xDC00

/-- Units that end a surrogate pair. -/
def isLow (u : UInt16) : Bool :=
  0xDC00 ≤ u && u < 0xE000

/-- The character of a surrogate pair. -/
def ofPair (high low : UInt16) : Char :=
  Char.ofNat (0x10000 + (high.toNat - 0xD800) * 0x400 + (low.toNat - 0xDC00))

/-- Units as characters; a surrogate without its partner becomes U+FFFD. -/
def decode : List UInt16 → List Char
  | [] => []
  | [u] => [if isHigh u || isLow u then '\uFFFD' else Char.ofNat u.toNat]
  | u :: v :: rest =>
    if isHigh u && isLow v then ofPair u v :: decode rest
    else (if isHigh u || isLow u then '\uFFFD' else Char.ofNat u.toNat) :: decode (v :: rest)

/-- The text that a reader of a zero-terminated buffer sees. -/
def read (units : List UInt16) : List Char :=
  decode (untilZero units)

theorem encode_append (s t : List Char) : encode (s ++ t) = encode s ++ encode t := by
  simp [encode]

end AppLauncher.Utf16
