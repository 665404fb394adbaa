/-!
# UTF-16 code units

Positions in a text, and therefore columns and lengths, count UTF-16 code units: a character
beyond the basic plane counts twice. `units` measures a text, and `charsOfUnits` reads a list of
code units back as characters.
-/

namespace UnitResolution.Text

/-- The number of UTF-16 code units of a character. -/
def unitsOf (c : Char) : Nat := if c.toNat < 0x10000 then 1 else 2

/-- The number of UTF-16 code units of a text. -/
def units : List Char → Nat
  | [] => 0
  | c :: rest => unitsOf c + units rest

/-- The text behind its first `n` code units; a character that only partly lies there goes too. -/
def dropUnits : Nat → List Char → List Char
  | 0, s => s
  | _ + 1, [] => []
  | n + 1, c :: rest => dropUnits (n + 1 - unitsOf c) rest
termination_by _ s => s.length

/-- The characters of a list of code units. A pair of surrogates makes one character, a lone
surrogate the replacement character. -/
def charsOfUnits : List Nat → List Char
  | [] => []
  | [unit] => [if 0xD800 ≤ unit ∧ unit < 0xE000 then '\uFFFD' else Char.ofNat unit]
  | high :: low :: rest =>
      if 0xD800 ≤ high ∧ high < 0xDC00 ∧ 0xDC00 ≤ low ∧ low < 0xE000 then
        Char.ofNat (0x10000 + (high - 0xD800) * 0x400 + (low - 0xDC00)) :: charsOfUnits rest
      else if 0xD800 ≤ high ∧ high < 0xE000 then '\uFFFD' :: charsOfUnits (low :: rest)
      else Char.ofNat high :: charsOfUnits (low :: rest)

/-- The code units of a character. -/
def unitsOfChar (c : Char) : List Nat :=
  if c.toNat < 0x10000 then [c.toNat]
  else [0xD800 + (c.toNat - 0x10000) / 0x400, 0xDC00 + (c.toNat - 0x10000) % 0x400]

end UnitResolution.Text
