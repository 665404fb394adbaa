import UnitResolution.Text.Ranges
import UnitResolution.Text.IdentifierTable

/-!
# Characters of identifiers

Which characters may begin an identifier of a script and which may continue one: ASCII letters,
digits, the dollar sign and the underscore, and beyond ASCII the letters and marks of
`Text.IdentifierTable`.
-/

namespace UnitResolution.Text

/-- A character with which an identifier may begin. -/
def isIdentifierStart (c : Char) : Bool :=
  if c.toNat < 0x80 then c.isAlpha || c == '$' || c == '_'
  else inRanges identifierStarts c.toNat

/-- A character that may stand in an identifier after its first. -/
def isIdentifierPart (c : Char) : Bool :=
  if c.toNat < 0x80 then c.isAlphanum || c == '$' || c == '_'
  else inRanges identifierStarts c.toNat || inRanges identifierMarks c.toNat

end UnitResolution.Text
