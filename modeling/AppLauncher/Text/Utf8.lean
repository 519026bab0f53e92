/-!
# UTF-8

Texts are lists of characters, files and paths are lists of bytes. This file holds the way between
the two: `encode`, the strict reader `decode?`, and the forgiving reader `decodeLossy`, which puts
one replacement character for every maximal ill-formed part.

Both readers run the same automaton. Between characters it stands at `none`; inside a character it
holds a `Pending`, the bits read so far together with the range that the next byte has to fall in.
The first continuation byte of a character has a narrower range than the others exactly where a
wider one would admit an overlong form, a surrogate or a value above U+10FFFF, so the automaton
refuses at the first byte that no well-formed text can have there.
-/

namespace AppLauncher

/-- What files hold and what paths are made of. -/
abbrev Bytes := List UInt8

namespace Utf8

def encode (s : List Char) : Bytes :=
  s.flatMap String.utf8EncodeChar

/-- A character that has begun: its bits so far, the range of its next byte, and how many bytes
follow that one. -/
structure Pending where
  value : Nat
  low : UInt8
  high : UInt8
  after : Nat
  deriving DecidableEq, Repr

/-- What the automaton makes of one byte. -/
inductive Fed where
  /-- The byte ends a character. -/
  | char (c : Char)
  /-- The character goes on. -/
  | more (p : Pending)
  /-- No well-formed text has this byte here. -/
  | refused
  deriving DecidableEq, Repr

/-- The first byte of a character. The bytes `C0`, `C1` and those above `F4` begin none. -/
def start (b : UInt8) : Fed :=
  if b < 0x80 then .char (Char.ofNat b.toNat)
  else if b < 0xC2 then .refused
  else if b < 0xE0 then .more ⟨b.toNat - 0xC0, 0x80, 0xBF, 0⟩
  else if b = 0xE0 then .more ⟨0, 0xA0, 0xBF, 1⟩
  else if b = 0xED then .more ⟨0xD, 0x80, 0x9F, 1⟩
  else if b < 0xF0 then .more ⟨b.toNat - 0xE0, 0x80, 0xBF, 1⟩
  else if b = 0xF0 then .more ⟨0, 0x90, 0xBF, 2⟩
  else if b < 0xF4 then .more ⟨b.toNat - 0xF0, 0x80, 0xBF, 2⟩
  else if b = 0xF4 then .more ⟨4, 0x80, 0x8F, 2⟩
  else .refused

/-- A later byte of a character. -/
def Pending.feed (p : Pending) (b : UInt8) : Fed :=
  if p.low ≤ b ∧ b ≤ p.high then
    let value := p.value * 0x40 + (b.toNat - 0x80)
    match p.after with
    | 0 => .char (Char.ofNat value)
    | n + 1 => .more ⟨value, 0x80, 0xBF, n⟩
  else .refused

/-- The strict reader from a given state. -/
def decodeFrom? : Option Pending → Bytes → Option (List Char)
  | none, [] => some []
  | some _, [] => none
  | none, b :: rest =>
    match start b with
    | .char c => (decodeFrom? none rest).map (c :: ·)
    | .more p => decodeFrom? (some p) rest
    | .refused => none
  | some p, b :: rest =>
    match p.feed b with
    | .char c => (decodeFrom? none rest).map (c :: ·)
    | .more q => decodeFrom? (some q) rest
    | .refused => none

/-- The text that the bytes are the encoding of, if there is one. -/
def decode? (bytes : Bytes) : Option (List Char) :=
  decodeFrom? none bytes

/-- Bytes that are the encoding of a text. -/
def isValid (bytes : Bytes) : Bool :=
  (decode? bytes).isSome

/-- What stands for an ill-formed part. -/
def replacement : Char := '\uFFFD'

/-- The forgiving reader from a given state. A byte that breaks off a character is looked at again
as a first byte, so the part replaced is the longest one that could still have become a
character. -/
def decodeLossyFrom : Option Pending → Bytes → List Char
  | none, [] => []
  | some _, [] => [replacement]
  | none, b :: rest =>
    match start b with
    | .char c => c :: decodeLossyFrom none rest
    | .more p => decodeLossyFrom (some p) rest
    | .refused => replacement :: decodeLossyFrom none rest
  | some p, b :: rest =>
    match p.feed b with
    | .char c => c :: decodeLossyFrom none rest
    | .more q => decodeLossyFrom (some q) rest
    | .refused =>
      replacement ::
        match start b with
        | .char c => c :: decodeLossyFrom none rest
        | .more q => decodeLossyFrom (some q) rest
        | .refused => replacement :: decodeLossyFrom none rest

/-- The bytes as text, with one replacement character for every maximal ill-formed part. -/
def decodeLossy (bytes : Bytes) : List Char :=
  decodeLossyFrom none bytes

def ofString (s : String) : Bytes :=
  encode s.toList

/-- The string that the bytes are the encoding of, if there is one. -/
def toString? (bytes : Bytes) : Option String :=
  (decode? bytes).map String.ofList

/-- The bytes as they are shown to a reader. -/
def toStringLossy (bytes : Bytes) : String :=
  String.ofList (decodeLossy bytes)

/-- Where the strict reader succeeds, the forgiving one reads the same text. -/
theorem decodeLossyFrom_of_decodeFrom? {state : Option Pending} {bytes : Bytes} {s : List Char}
    (reads : decodeFrom? state bytes = some s) : decodeLossyFrom state bytes = s := by
  induction bytes generalizing state s with
  | nil =>
    cases state with
    | none => simpa [decodeFrom?, decodeLossyFrom] using reads
    | some p => simp [decodeFrom?] at reads
  | cons b rest ih =>
    cases state with
    | none =>
      simp only [decodeFrom?, decodeLossyFrom] at reads ⊢
      split at reads
      · obtain ⟨t, ht, rfl⟩ := Option.map_eq_some_iff.1 reads
        rw [ih ht]
      · exact ih reads
      · cases reads
    | some p =>
      simp only [decodeFrom?, decodeLossyFrom] at reads ⊢
      split at reads
      · obtain ⟨t, ht, rfl⟩ := Option.map_eq_some_iff.1 reads
        rw [ih ht]
      · exact ih reads
      · cases reads

end Utf8

end AppLauncher
