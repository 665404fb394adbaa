import UnitResolution.Markup.ReferenceTable
import UnitResolution.Text.Separated

/-!
# Character references

In the value of an attribute, an ampersand can begin a reference to a character: by its name, as in
`&amp;`, or by its number, as in `&#38;` and `&#x26;`. `decodeReferences` puts the characters in the
place of the references. A name without a semicolon counts only if it is a short one and no letter,
digit or equals sign follows; what is no reference stays as it is.
-/

namespace UnitResolution.Markup

open Text

/-! ## Names -/

/-- The value of a hexadecimal digit. -/
def hexValue (c : Char) : Nat :=
  if c.isDigit then c.toNat - '0'.toNat
  else if 'a' ≤ c then c.toNat - 'a'.toNat + 10
  else c.toNat - 'A'.toNat + 10

/-- The number of hexadecimal digits. -/
def hexNumber (digits : List Char) : Nat := digits.foldl (fun n c => n * 16 + hexValue c) 0

/-- The number of decimal digits. -/
def decimalNumber (digits : List Char) : Nat :=
  digits.foldl (fun n c => n * 10 + (c.toNat - '0'.toNat)) 0

/-- A name with its characters, read from its entry in the table. -/
def readEntry (word : List Char) : List Char × List Char :=
  match split '=' word with
  | [name, points] => (name, (split '+' points).map fun p => Char.ofNat (hexNumber p))
  | _ => ([], [])

/-- The names of characters with the characters. -/
def namedReferences : List (List Char × List Char) :=
  referenceLines.flatMap fun line => (split ' ' line.toList).map readEntry

/-- The names of the four characters that markup gives a meaning. -/
def markNames : List (List Char × List Char) :=
  [("amp".toList, ['&']), ("lt".toList, ['<']), ("gt".toList, ['>']), ("quot".toList, ['"'])]

/-- The characters that a name with a semicolon stands for. -/
def named? (name : List Char) : Option (List Char) :=
  match markNames.lookup name with
  | some characters => some characters
  | none => namedReferences.lookup name

/-- Whether a name may stand without a semicolon. -/
def isShortName (name : List Char) : Bool :=
  (markNames.lookup name).isSome ||
    shortNameLines.any fun line => (split ' ' line.toList).contains name

/-! ## Numbers -/

/-- The characters that the numbers from 0x80 to 0x9F stand for, where they differ. -/
def controlReplacements : List (Nat × Char) := [
  (0x80, '€'), (0x82, '‚'), (0x83, 'ƒ'), (0x84, '„'), (0x85, '…'), (0x86, '†'), (0x87, '‡'),
  (0x88, 'ˆ'), (0x89, '‰'), (0x8A, 'Š'), (0x8B, '‹'), (0x8C, 'Œ'), (0x8E, 'Ž'), (0x91, '‘'),
  (0x92, '’'), (0x93, '“'), (0x94, '”'), (0x95, '•'), (0x96, '–'), (0x97, '—'), (0x98, '˜'),
  (0x99, '™'), (0x9A, 'š'), (0x9B, '›'), (0x9C, 'œ'), (0x9E, 'ž'), (0x9F, 'Ÿ')]

/-- The character that a number stands for. -/
def numbered (n : Nat) : Char :=
  if n = 0 ∨ 0x10FFFF < n ∨ (0xD800 ≤ n ∧ n ≤ 0xDFFF) then '\uFFFD'
  else (controlReplacements.lookup n).getD (Char.ofNat n)

/-- Whether a character is a hexadecimal digit. -/
def isHexDigit (c : Char) : Bool :=
  c.isDigit || ('a' ≤ c && c ≤ 'f') || ('A' ≤ c && c ≤ 'F')

/-- The text without a semicolon at its beginning. -/
def withoutSemicolon : List Char → List Char
  | ';' :: rest => rest
  | s => s

/-! ## References -/

/-- The characters of a reference by number behind its ampersand, and the text behind it. -/
def readNumbered? (s : List Char) : Option (List Char × List Char) :=
  match s with
  | '#' :: rest =>
      let hexadecimal := rest.head? == some 'x' || rest.head? == some 'X'
      let body := if hexadecimal then rest.drop 1 else rest
      let digits := body.takeWhile (if hexadecimal then isHexDigit else Char.isDigit)
      if digits.isEmpty then none
      else
        let n := if hexadecimal then hexNumber digits else decimalNumber digits
        some ([numbered n], withoutSemicolon (body.drop digits.length))
  | _ => none

/-- The characters of a reference by name behind its ampersand, and the text behind it. -/
def readNamed? (s : List Char) : Option (List Char × List Char) :=
  let name := s.takeWhile Char.isAlphanum
  let rest := s.drop name.length
  match rest, named? name with
  | ';' :: rest, some characters => some (characters, rest)
  | rest, some characters =>
      if isShortName name && rest.head? != some '=' then some (characters, rest) else none
  | _, none => none

/-- The characters of a reference behind its ampersand, and the text behind it. -/
def readReference? (s : List Char) : Option (List Char × List Char) :=
  match s with
  | '#' :: _ => readNumbered? s
  | c :: _ => if c.isAlpha then readNamed? s else none
  | [] => none

/-- The value of an attribute with the characters in the place of the references. -/
def decodeReferences (s : List Char) : List Char :=
  go s.length s
where
  /-- Every step passes over a character, so there are no more steps than characters. -/
  go : Nat → List Char → List Char
    | 0, _ => []
    | _, [] => []
    | n + 1, '&' :: rest =>
        match readReference? rest with
        | some (characters, rest) => characters ++ go n rest
        | none => '&' :: go n rest
    | n + 1, c :: rest => c :: go n rest

end UnitResolution.Markup
