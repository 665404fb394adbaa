/-!
# White space

Three classes of characters that separate other text. `isLineBreak` holds of the characters that
end a line of a script, `isSpace` of those that stand between its words on one line, and `isBlank`
of the characters that `trim` removes from both ends of a text. The last class is not the union of
the other two: it leaves out the zero width space and the next-line control, which separate words
of a script.
-/

namespace UnitResolution.Text

/-- The characters that end a line: line feed, carriage return and the two Unicode separators. -/
def isLineBreak (c : Char) : Bool :=
  c == '\n' || c == '\r' || c == '\u2028' || c == '\u2029'

/-- The characters that separate words without ending a line. -/
def isSpace (c : Char) : Bool :=
  let n := c.toNat
  n == 0x20 || n == 0x09 || n == 0x0B || n == 0x0C || n == 0xA0 || n == 0x85 || n == 0x1680 ||
    (0x2000 ≤ n && n ≤ 0x200B) || n == 0x202F || n == 0x205F || n == 0x3000 || n == 0xFEFF

/-- The characters that count as empty margin of a text. -/
def isBlank (c : Char) : Bool :=
  let n := c.toNat
  (0x09 ≤ n && n ≤ 0x0D) || n == 0x20 || n == 0xA0 || n == 0x1680 || (0x2000 ≤ n && n ≤ 0x200A) ||
    n == 0x2028 || n == 0x2029 || n == 0x202F || n == 0x205F || n == 0x3000 || n == 0xFEFF

/-- Remove the blank characters at the end. -/
def trimRight (s : List Char) : List Char :=
  (s.reverse.dropWhile isBlank).reverse

/-- Remove the blank characters at both ends. -/
def trim (s : List Char) : List Char :=
  trimRight (s.dropWhile isBlank)

/-- A text without any character but blank ones. -/
def isAllBlank (s : String) : Bool :=
  s.toList.all isBlank

end UnitResolution.Text
