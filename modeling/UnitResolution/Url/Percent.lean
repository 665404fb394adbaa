import UnitResolution.Text.Utf8

/-!
# Percent encoding

A character that may not stand in a part of a URL is written as its UTF-8 bytes, each as a percent
sign and two hexadecimal digits. Which characters those are depends on the part.
-/

namespace UnitResolution.Url

open Text

/-- A hexadecimal digit of a byte, in upper case. -/
def hexDigit (n : Nat) : Char :=
  if n < 10 then Char.ofNat ('0'.toNat + n) else Char.ofNat ('A'.toNat + (n - 10))

/-- A byte in its encoded form. -/
def encodeByte (b : UInt8) : List Char := ['%', hexDigit (b.toNat / 16), hexDigit (b.toNat % 16)]

/-- A character in its encoded form. -/
def encodeChar (c : Char) : List Char := (Utf8.encodeChar c).flatMap encodeByte

/-- A text with the characters of a set encoded. -/
def encode (set : Char → Bool) (s : List Char) : List Char :=
  s.flatMap fun c => if set c then encodeChar c else [c]

/-- Controls and all characters beyond ASCII. -/
def isControlSet (c : Char) : Bool := c.toNat < 0x20 || 0x7E < c.toNat

/-- The characters encoded in a fragment. -/
def isFragmentSet (c : Char) : Bool :=
  isControlSet c || c == ' ' || c == '"' || c == '<' || c == '>' || c == '`'

/-- The characters encoded in a query. -/
def isQuerySet (c : Char) : Bool :=
  isControlSet c || c == ' ' || c == '"' || c == '#' || c == '<' || c == '>' || c == '\''

/-- The characters encoded in a path. -/
def isPathSet (c : Char) : Bool :=
  isControlSet c || c == ' ' || c == '"' || c == '#' || c == '<' || c == '>' || c == '?' ||
    c == '^' || c == '`' || c == '\x7b' || c == '\x7d'

/-- The value of a hexadecimal digit. -/
def hexValue? (c : Char) : Option Nat :=
  if c.isDigit then some (c.toNat - '0'.toNat)
  else if 'a' ≤ c ∧ c ≤ 'f' then some (c.toNat - 'a'.toNat + 10)
  else if 'A' ≤ c ∧ c ≤ 'F' then some (c.toNat - 'A'.toNat + 10)
  else none

/-- The byte of two hexadecimal digits. -/
def byteOf? (high low : Char) : Option UInt8 :=
  match hexValue? high, hexValue? low with
  | some h, some l => some (UInt8.ofNat (h * 16 + l))
  | _, _ => none

/-- The bytes of a text in which every percent sign has to begin an encoded byte. -/
def decodeStrict? : List Char → Option (List UInt8)
  | [] => some []
  | '%' :: high :: low :: rest =>
      match byteOf? high low, decodeStrict? rest with
      | some b, some bytes => some (b :: bytes)
      | _, _ => none
  | '%' :: _ => none
  | c :: rest => (decodeStrict? rest).map (Utf8.encodeChar c ++ ·)

/-- The bytes of a text; a percent sign that begins no encoded byte stands for itself. -/
def decodeLenient : List Char → List UInt8
  | [] => []
  | '%' :: high :: low :: rest =>
      match byteOf? high low with
      | some b => b :: decodeLenient rest
      | none => Utf8.encodeChar '%' ++ decodeLenient (high :: low :: rest)
  | c :: rest => Utf8.encodeChar c ++ decodeLenient rest

/-- The text that an encoded one stands for, if its escapes and the bytes they give are well
formed. -/
def decode? (s : List Char) : Option (List Char) := (decodeStrict? s).bind Utf8.decode?

end UnitResolution.Url
