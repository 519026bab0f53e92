/-!
# Hexadecimal numbers
-/

namespace AppLauncher.Hex

/-- A number with lower case digits after `0x`. -/
def lower (n : Nat) : String :=
  "0x" ++ String.ofList (Nat.toDigits 16 n)

/-- A number as eight upper case digits after `0x`. -/
def word (n : Nat) : String :=
  let digits := (Nat.toDigits 16 n).map Char.toUpper
  "0x" ++ String.ofList (List.replicate (8 - digits.length) '0' ++ digits)

end AppLauncher.Hex
