import UnitResolution.Json.Basic
import UnitResolution.Text.Units

/-!
# Reading JSON

`Json.parse?` reads a JSON text: one value with white space around it, and nothing else. White space
is the space, the tab and the two line breaks of ASCII; there are no comments, no commas at the
end of a list, and no byte order mark.
-/

namespace UnitResolution.Json

/-- The characters between the tokens of a JSON text. -/
def isSpace (c : Char) : Bool := c == ' ' || c == '\t' || c == '\n' || c == '\r'

/-- The text behind white space. -/
def skipSpace (s : List Char) : List Char := s.dropWhile isSpace

/-- The value of a hexadecimal digit. -/
def hexDigit? (c : Char) : Option Nat :=
  if c.isDigit then some (c.toNat - '0'.toNat)
  else if 'a' ≤ c ∧ c ≤ 'f' then some (c.toNat - 'a'.toNat + 10)
  else if 'A' ≤ c ∧ c ≤ 'F' then some (c.toNat - 'A'.toNat + 10)
  else none

/-- The code unit of four hexadecimal digits. -/
def codeUnit? (a b c d : Char) : Option Nat := do
  return (((← hexDigit? a) * 16 + (← hexDigit? b)) * 16 + (← hexDigit? c)) * 16 + (← hexDigit? d)

/-- The code unit that a letter behind a backslash stands for. -/
def simpleEscape? (c : Char) : Option Nat :=
  if c = '"' ∨ c = '\\' ∨ c = '/' then some c.toNat
  else if c = 'b' then some 8
  else if c = 'f' then some 12
  else if c = 'n' then some 10
  else if c = 'r' then some 13
  else if c = 't' then some 9
  else none

/-- The code units of a string behind its opening quote, in reverse, and the text behind it. -/
def readString? : List Char → List Nat → Option (List Nat × List Char)
  | [], _ => none
  | '"' :: rest, value => some (value, rest)
  | '\\' :: 'u' :: a :: b :: c :: d :: rest, value =>
      match codeUnit? a b c d with
      | some unit => readString? rest (unit :: value)
      | none => none
  | '\\' :: c :: rest, value =>
      match simpleEscape? c with
      | some unit => readString? rest (unit :: value)
      | none => none
  | c :: rest, value =>
      if c.toNat < 0x20 ∨ c = '\\' then none
      else readString? rest ((Text.unitsOfChar c).reverse ++ value)

/-- The string of code units given in reverse. -/
def stringOf (value : List Nat) : String := String.ofList (Text.charsOfUnits value.reverse)

/-- The number of a list of digits. -/
def numberOf (digits : List Char) : Nat :=
  digits.foldl (fun n c => n * 10 + (c.toNat - '0'.toNat)) 0

/-- The digits at the beginning of a text, and the text behind them; there has to be one. -/
def readDigits? (s : List Char) : Option (List Char × List Char) :=
  let digits := s.takeWhile Char.isDigit
  if digits.isEmpty then none else some (digits, s.drop digits.length)

/-- The exponent at the beginning of a text, if there is one. -/
def readExponent? (s : List Char) : Option (Int × List Char) :=
  match s with
  | c :: rest =>
      if c = 'e' ∨ c = 'E' then
        match rest with
        | '-' :: rest => (readDigits? rest).map fun (d, rest) => (-(numberOf d : Int), rest)
        | '+' :: rest => (readDigits? rest).map fun (d, rest) => ((numberOf d : Int), rest)
        | rest => (readDigits? rest).map fun (d, rest) => ((numberOf d : Int), rest)
      else some (0, s)
  | [] => some (0, s)

/-- The number at the beginning of a text. -/
def readNumber? (s : List Char) : Option (Decimal × List Char) := do
  let (negative, s) := match s with
    | '-' :: rest => (true, rest)
    | _ => (false, s)
  let (whole, s) ← readDigits? s
  if whole.length > 1 ∧ whole.head? = some '0' then none
  let (fraction, s) ← match s with
    | '.' :: rest => readDigits? rest
    | _ => some ([], s)
  let (exponent, s) ← readExponent? s
  return (⟨negative, numberOf (whole ++ fraction), exponent - fraction.length⟩, s)

mutual

/-- The value at the beginning of a text without white space in front. Every value inside another
one takes a character, so the length of the text bounds the depth. -/
def readValue? : (depth : Nat) → List Char → Option (Json × List Char)
  | 0, _ => none
  | depth + 1, s =>
      match s with
      | '"' :: rest =>
          (readString? rest []).map fun (value, rest) => (.string (stringOf value), rest)
      | '[' :: rest =>
          match skipSpace rest with
          | ']' :: rest => some (.array [], rest)
          | rest =>
              (readElements? depth rest []).map fun (elements, rest) => (.array elements, rest)
      | '\x7b' :: rest =>
          match skipSpace rest with
          | '\x7d' :: rest => some (.object [], rest)
          | rest =>
              (readMembers? depth rest []).map fun (members, rest) => (ofMembers members, rest)
      | 't' :: 'r' :: 'u' :: 'e' :: rest => some (.bool true, rest)
      | 'f' :: 'a' :: 'l' :: 's' :: 'e' :: rest => some (.bool false, rest)
      | 'n' :: 'u' :: 'l' :: 'l' :: rest => some (.null, rest)
      | _ => (readNumber? s).map fun (value, rest) => (.number value, rest)

/-- The elements of an array up to its end; those before are given in reverse. -/
def readElements? : (depth : Nat) → List Char → List Json → Option (List Json × List Char)
  | 0, _, _ => none
  | depth + 1, s, before =>
      match readValue? depth (skipSpace s) with
      | none => none
      | some (value, rest) =>
          match skipSpace rest with
          | ',' :: rest => readElements? depth rest (value :: before)
          | ']' :: rest => some ((value :: before).reverse, rest)
          | _ => none

/-- The members of an object up to its end; those before are given in reverse. -/
def readMembers? : (depth : Nat) → List Char → List (String × Json) →
    Option (List (String × Json) × List Char)
  | 0, _, _ => none
  | depth + 1, s, before =>
      match skipSpace s with
      | '"' :: rest =>
          match readString? rest [] with
          | none => none
          | some (name, rest) =>
              match skipSpace rest with
              | ':' :: rest =>
                  match readValue? depth (skipSpace rest) with
                  | none => none
                  | some (value, rest) =>
                      match skipSpace rest with
                      | ',' :: rest => readMembers? depth rest ((stringOf name, value) :: before)
                      | '\x7d' :: rest => some (((stringOf name, value) :: before).reverse, rest)
                      | _ => none
              | _ => none
      | _ => none

end

/-- Read a JSON text. -/
def parse? (text : String) : Option Json :=
  let s := text.toList
  match readValue? (s.length + 1) (skipSpace s) with
  | some (value, rest) => if (skipSpace rest).isEmpty then some value else none
  | none => none

end UnitResolution.Json
