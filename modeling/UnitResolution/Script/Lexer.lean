import UnitResolution.Script.Token
import UnitResolution.Text.Blank
import UnitResolution.Text.Identifier

/-!
# Reading tokens

`scan` reads the token behind a cursor: it passes over white space and comments, and then takes
the longest word, literal or mark. A few tokens depend on what the grammar expects, so they are
read in a second way on demand: a slash begins a regular expression (`rescanSlash`), a closing
brace goes on with a template (`rescanTemplate`), and an angle bracket joins the marks behind it
to an operator or stands alone (`rescanGreater`, `rescanLess`).
-/

namespace UnitResolution.Script

open Text

/-- What has been read of a token: the text behind it, its offset, and the faults found. -/
structure Reading where
  rest : List Char
  offset : Nat
  complaints : List Complaint

namespace Reading

/-- Note a fault. -/
def complain (r : Reading) (start length : Nat) (fault : Fault) : Reading :=
  { r with complaints := r.complaints ++ [⟨start, length, fault⟩] }

/-- The cursor behind what has been read. -/
def cursor (r : Reading) : Cursor := ⟨r.rest, r.offset⟩

end Reading

/-! ## White space and comments -/

/-- Where the reader is between two tokens. -/
inductive Gap
  | plain
  | lineComment
  | blockComment

/-- Pass over white space and comments. Also tells whether a line has ended on the way. -/
def skipGap : Gap → List Char → (offset : Nat) → (newLine : Bool) → Reading × Bool
  | .plain, [], offset, newLine => (⟨[], offset, []⟩, newLine)
  | .plain, '/' :: '/' :: rest, offset, newLine => skipGap .lineComment rest (offset + 2) newLine
  | .plain, '/' :: '*' :: rest, offset, newLine => skipGap .blockComment rest (offset + 2) newLine
  | .plain, c :: rest, offset, newLine =>
      if isLineBreak c then skipGap .plain rest (offset + unitsOf c) true
      else if isSpace c then skipGap .plain rest (offset + unitsOf c) newLine
      else (⟨c :: rest, offset, []⟩, newLine)
  | .lineComment, [], offset, newLine => (⟨[], offset, []⟩, newLine)
  | .lineComment, c :: rest, offset, newLine =>
      if isLineBreak c then skipGap .plain rest (offset + unitsOf c) true
      else skipGap .lineComment rest (offset + unitsOf c) newLine
  | .blockComment, [], offset, newLine =>
      (⟨[], offset, [⟨offset, 0, .unterminatedComment⟩]⟩, newLine)
  | .blockComment, '*' :: '/' :: rest, offset, newLine => skipGap .plain rest (offset + 2) newLine
  | .blockComment, c :: rest, offset, newLine =>
      skipGap .blockComment rest (offset + unitsOf c) (newLine || isLineBreak c)

/-! ## Words -/

/-- The value of a hexadecimal digit. -/
def hexValue? (c : Char) : Option Nat :=
  if c.isDigit then some (c.toNat - '0'.toNat)
  else if 'a' ≤ c ∧ c ≤ 'f' then some (c.toNat - 'a'.toNat + 10)
  else if 'A' ≤ c ∧ c ≤ 'F' then some (c.toNat - 'A'.toNat + 10)
  else none

/-- Whether a character is a hexadecimal digit. -/
def isHexDigit (c : Char) : Bool := (hexValue? c).isSome

/-- The number that a list of hexadecimal digits denotes. -/
def hexNumber (digits : List Char) : Nat :=
  digits.foldl (fun n c => n * 16 + (hexValue? c).getD 0) 0

/-- The character that an escape at the beginning of the text stands for in a word, with the
number of characters that the escape takes. -/
def wordEscape? : List Char → Option (Char × Nat)
  | '\\' :: 'u' :: '\x7b' :: rest =>
      let digits := rest.takeWhile isHexDigit
      if digits.isEmpty then none
      else if (rest.drop digits.length).head? = some '\x7d' then
        some (Char.ofNat (hexNumber digits), digits.length + 4)
      else none
  | '\\' :: 'u' :: rest =>
      let digits := rest.take 4
      if digits.length = 4 ∧ digits.all isHexDigit then
        some (Char.ofNat (hexNumber digits), 6)
      else none
  | _ => none

/-- The continuation of a word: its characters in reverse, and whether an escape is among them. -/
def scanWord (s : List Char) (offset : Nat) (spelling : List Char) (escaped : Bool) :
    List Char × Bool × Cursor :=
  match s with
  | [] => (spelling, escaped, ⟨[], offset⟩)
  | c :: rest =>
      if isIdentifierPart c then scanWord rest (offset + unitsOf c) (c :: spelling) escaped
      else if c = '\\' then
        match wordEscape? (c :: rest) with
        | some (d, taken) =>
            if isIdentifierPart d then
              scanWord (rest.drop (taken - 1)) (offset + taken) (d :: spelling) true
            else (spelling, escaped, ⟨c :: rest, offset⟩)
        | none => (spelling, escaped, ⟨c :: rest, offset⟩)
      else (spelling, escaped, ⟨c :: rest, offset⟩)
termination_by s.length
decreasing_by all_goals (simp only [List.length_cons, List.length_drop]; omega)

/-! ## Numbers -/

/-- Digits of one base with separators between them. -/
def scanDigits (isDigit : Char → Bool) : List Char → (offset : Nat) →
    (digitBefore separatorBefore : Bool) → List Complaint → List Char →
    List Char × Reading
  | c :: rest, offset, digitBefore, separatorBefore, complaints, digits =>
      if c = '_' then
        if digitBefore then scanDigits isDigit rest (offset + 1) false true complaints digits
        else
          let fault : Fault := if separatorBefore then .separatorRepeated else .separatorMisplaced
          scanDigits isDigit rest (offset + 1) false separatorBefore
            (complaints ++ [⟨offset, 1, fault⟩]) digits
      else if isDigit c then
        scanDigits isDigit rest (offset + 1) true false complaints (c :: digits)
      else finish (c :: rest) offset digitBefore separatorBefore complaints digits
  | [], offset, digitBefore, separatorBefore, complaints, digits =>
      finish [] offset digitBefore separatorBefore complaints digits
where
  /-- A separator at the end is out of place. -/
  finish (s : List Char) (offset : Nat) (digitBefore separatorBefore : Bool)
      (complaints : List Complaint) (digits : List Char) : List Char × Reading :=
    let trailing := separatorBefore && !digitBefore
    (digits.reverse, ⟨s, offset,
      if trailing then complaints ++ [⟨offset - 1, 1, .separatorMisplaced⟩] else complaints⟩)

/-- Read decimal digits with separators. -/
def decimalDigits (r : Reading) : List Char × Reading :=
  scanDigits Char.isDigit r.rest r.offset false false r.complaints []

/-- The kind of an integer literal depends on the suffix `n`. -/
def bigintSuffix (r : Reading) : TokenKind × Reading :=
  match r.rest with
  | 'n' :: rest => (.bigint, { r with rest := rest, offset := r.offset + 1 })
  | _ => (.number, r)

/-- A word must not begin right behind a number. -/
def checkBehindNumber (start : Nat) (exponent : Bool) (r : Reading) : Reading :=
  match r.rest with
  | [] => r
  | c :: rest =>
      if isIdentifierStart c then
        let (spelling, _, stop) := scanWord rest (r.offset + unitsOf c) [c] false
        if spelling = ['n'] then
          let fault : Fault := if exponent then .bigintExponent else .bigintFraction
          Reading.complain { r with rest := stop.rest, offset := stop.offset } start
            (r.offset - start + 1) fault
        else r.complain r.offset (stop.offset - r.offset) .wordAfterNumber
      else r

/-- The fraction, exponent and suffix of a decimal literal behind its integer part. -/
def scanNumberTail (start : Nat) (leadingZero : Bool) (r : Reading) : TokenKind × Reading :=
  let (fraction, r) :=
    match r.rest with
    | '.' :: rest =>
        let (_, r) := decimalDigits { r with rest := rest, offset := r.offset + 1 }
        (true, r)
    | _ => (false, r)
  let (exponent, r) :=
    match r.rest with
    | c :: rest =>
        if c = 'e' ∨ c = 'E' then
          let r := { r with rest := rest, offset := r.offset + 1 }
          let r : Reading :=
            match r.rest with
            | s :: rest =>
                if s = '+' ∨ s = '-' then { r with rest := rest, offset := r.offset + 1 } else r
            | [] => r
          let (digits, r) := decimalDigits r
          (true, if digits.isEmpty then r.complain r.offset 0 .digitExpected else r)
        else (false, r)
    | [] => (false, r)
  if leadingZero then (.number, r.complain start (r.offset - start) .leadingZero)
  else if fraction || exponent then
    (.number, checkBehindNumber start (exponent && !fraction) r)
  else
    let (kind, r) := bigintSuffix r
    (kind, checkBehindNumber start false r)

/-- A number literal at the beginning of the text. -/
def scanNumber (s : List Char) (start : Nat) : TokenKind × Reading :=
  match s with
  | '0' :: '_' :: _ =>
      let (_, r) := decimalDigits ⟨s, start, [⟨start + 1, 1, .separatorMisplaced⟩]⟩
      scanNumberTail start false r
  | '0' :: d :: rest =>
      if d.isDigit then
        let digits := (d :: rest).takeWhile Char.isDigit
        let behind : Reading := ⟨(d :: rest).drop digits.length, start + 1 + digits.length, []⟩
        if digits.all fun c => c < '8' then
          let octal := String.ofList (digits.dropWhile (· == '0'))
          let octal := if octal.isEmpty then "0" else octal
          (.number, behind.complain start (digits.length + 1) (.octalLiteral ("0o" ++ octal)))
        else scanNumberTail start true behind
      else scanNumberTail start false ⟨d :: rest, start + 1, []⟩
  | _ =>
      let (_, r) := decimalDigits ⟨s, start, []⟩
      scanNumberTail start false r

/-- The digits of the base that the character behind a leading zero announces, and the fault of a
literal without any. -/
def baseOf? : List Char → Option ((Char → Bool) × Fault)
  | letter :: _ :: _ =>
      if letter = 'x' ∨ letter = 'X' then some (isHexDigit, .hexadecimalDigitExpected)
      else if letter = 'b' ∨ letter = 'B' then
        some (fun d => d == '0' || d == '1', .binaryDigitExpected)
      else if letter = 'o' ∨ letter = 'O' then
        some (fun d => '0' ≤ d && d ≤ '7', .octalDigitExpected)
      else none
  | _ => none

/-- An integer literal of another base, behind its two introducing characters. -/
def scanBaseNumber (isDigit : Char → Bool) (fault : Fault) (s : List Char) (offset : Nat) :
    TokenKind × Reading :=
  let (digits, r) := scanDigits isDigit s offset false false [] []
  let r := if digits.isEmpty then r.complain r.offset 0 fault else r
  bigintSuffix r

/-! ## Strings and templates -/

/-- What an escape sequence stands for. -/
structure Escape where
  /-- The number of characters behind the backslash that belong to it. -/
  taken : Nat
  /-- The code units it stands for. -/
  units : List Nat
  /-- A fault, with its place counted from the backslash. -/
  fault : Option (Nat × Nat × Fault) := none

/-- A number in hexadecimal, with at least two digits. -/
def twoHexDigits (n : Nat) : String :=
  let digits := String.ofList (Nat.toDigits 16 n)
  if digits.length < 2 then "0" ++ digits else digits

/-- An octal escape of the given digits. -/
def octalEscape (digits : List Char) : Escape :=
  let code := digits.foldl (fun n c => n * 8 + (c.toNat - '0'.toNat)) 0
  ⟨digits.length, [code], some (0, digits.length + 1, .octalEscape ("\\x" ++ twoHexDigits code))⟩

/-- The escape with exactly `count` hexadecimal digits behind its letter. -/
def hexEscape (letter : Char) (count : Nat) (rest : List Char) : Escape :=
  let digits := (rest.take count).takeWhile isHexDigit
  if digits.length = count then ⟨count + 1, [hexNumber digits], none⟩
  else
    ⟨digits.length + 1, '\\'.toNat :: letter.toNat :: digits.map Char.toNat,
      some (digits.length + 2, 0, .hexadecimalDigitExpected)⟩

/-- The escape that gives a code point between braces. -/
def bracedEscape (rest : List Char) : Escape :=
  let digits := rest.takeWhile isHexDigit
  let value := hexNumber digits
  let behind := (rest.drop digits.length).head?
  if digits.isEmpty then ⟨2, [], some (3, 0, .hexadecimalDigitExpected)⟩
  else if value > 0x10FFFF then
    ⟨digits.length + 2 + (if behind = some '\x7d' then 1 else 0), [],
      some (3, digits.length, .escapeOutOfRange)⟩
  else if behind = some '\x7d' then
    ⟨digits.length + 3, if value < 0x10000 then [value] else unitsOfChar (Char.ofNat value), none⟩
  else ⟨digits.length + 2, [], some (digits.length + 3, 0, .unterminatedEscape)⟩

/-- The escape sequence behind a backslash. -/
def readEscape : List Char → Escape
  | [] => ⟨0, [], some (1, 0, .unterminatedString)⟩
  | '\r' :: '\n' :: _ => ⟨2, [], none⟩
  | c :: rest =>
      if c = '0' ∧ !(rest.head?.any Char.isDigit) then ⟨1, [0], none⟩
      else if '0' ≤ c ∧ c ≤ '7' then
        let more := if c < '4' then 2 else 1
        octalEscape (c :: (rest.take more).takeWhile fun d => '0' ≤ d && d ≤ '7')
      else if c = '8' ∨ c = '9' then
        ⟨1, [c.toNat], some (0, 2, .forbiddenEscape (String.ofList ['\\', c]))⟩
      else if c = 'b' then ⟨1, [8], none⟩
      else if c = 't' then ⟨1, [9], none⟩
      else if c = 'n' then ⟨1, [10], none⟩
      else if c = 'v' then ⟨1, [11], none⟩
      else if c = 'f' then ⟨1, [12], none⟩
      else if c = 'r' then ⟨1, [13], none⟩
      else if c = 'x' then hexEscape 'x' 2 rest
      else if c = 'u' then
        match rest with
        | '\x7b' :: digits => bracedEscape digits
        | _ => hexEscape 'u' 4 rest
      else if isLineBreak c then ⟨1, [], none⟩
      else ⟨1, unitsOfChar c, none⟩

/-- A string literal behind its opening quote; its code units are gathered in reverse. -/
def scanString (quote : Char) (s : List Char) (offset : Nat) (value : List Nat)
    (complaints : List Complaint) : List Nat × Reading :=
  match s with
  | [] => (value, ⟨[], offset, complaints ++ [⟨offset, 0, .unterminatedString⟩]⟩)
  | c :: rest =>
      if c = quote then (value, ⟨rest, offset + 1, complaints⟩)
      else if c = '\\' then
        let escape := readEscape rest
        let complaints :=
          match escape.fault with
          | some (start, length, fault) => complaints ++ [⟨offset + start, length, fault⟩]
          | none => complaints
        scanString quote (rest.drop escape.taken)
          (offset + 1 + units (rest.take escape.taken)) (escape.units.reverse ++ value) complaints
      else if c = '\n' ∨ c = '\r' then
        (value, ⟨c :: rest, offset, complaints ++ [⟨offset, 0, .unterminatedString⟩]⟩)
      else
        scanString quote rest (offset + unitsOf c) ((unitsOfChar c).reverse ++ value) complaints
termination_by s.length
decreasing_by all_goals (simp only [List.length_cons, List.length_drop]; omega)

/-- A part of a template, up to its end or the next substitution. -/
def scanTemplate (leading : Bool) : List Char → (offset : Nat) → TokenKind × Reading
  | [], offset =>
      (if leading then .template else .templateTail,
        ⟨[], offset, [⟨offset, 0, .unterminatedTemplate⟩]⟩)
  | '`' :: rest, offset =>
      (if leading then .template else .templateTail, ⟨rest, offset + 1, []⟩)
  | '$' :: '\x7b' :: rest, offset =>
      (if leading then .templateHead else .templateMiddle, ⟨rest, offset + 2, []⟩)
  | '\\' :: c :: rest, offset => scanTemplate leading rest (offset + 1 + unitsOf c)
  | c :: rest, offset => scanTemplate leading rest (offset + unitsOf c)

/-! ## Regular expressions -/

/-- The body of a regular expression up to the slash that ends it; nothing if the line ends
first. Also answers the characters passed over. -/
def scanPattern : List Char → (offset : Nat) → (escaped inClass : Bool) → List Char →
    List Char × Option Cursor
  | [], _, _, _, passed => (passed, none)
  | c :: rest, offset, escaped, inClass, passed =>
      if isLineBreak c then (passed, none)
      else if escaped then scanPattern rest (offset + unitsOf c) false inClass (c :: passed)
      else if c = '/' && !inClass then (passed, some ⟨rest, offset + 1⟩)
      else
        scanPattern rest (offset + unitsOf c) (c = '\\')
          (if c = '[' then true else if c = ']' then false else inClass) (c :: passed)

/-! ## Tokens -/

/-- The marks of punctuation of more than one character, longer ones first where one begins
another. A mark that begins with a closing angle bracket is put together only on demand. -/
def longMarks : List String :=
  ["!==", "===", "**=", "...", "<<=", "&&=", "||=", "??=", "!=", "==", "=>", "%=", "&&", "&=",
    "**", "*=", "++", "+=", "--", "-=", "/=", "<<", "<=", "??", "^=", "||", "|="]

/-- The marks of one character. -/
def shortMarks : List Char :=
  ['!', '%', '&', '(', ')', '*', '+', ',', '-', '.', '/', ':', ';', '<', '=', '>', '?', '[', ']',
    '^', '\x7b', '|', '\x7d', '~', '@']

/-- The mark at the beginning of the text. -/
def markAt? (s : List Char) : Option String :=
  match s with
  | [] => none
  | '?' :: '.' :: d :: _ => if d.isDigit then some "?" else some "?."
  | '?' :: '.' :: [] => some "?."
  | c :: _ =>
      match longMarks.find? fun mark => mark.toList.isPrefixOf s with
      | some mark => some mark
      | none => if shortMarks.contains c then some (String.singleton c) else none

/-- A token of the given kind between two places. -/
def tokenOf (kind : TokenKind) (start : Cursor) (r : Reading) (newLine : Bool) :
    Token × List Complaint :=
  (⟨kind, start, r.cursor, "", newLine, false⟩, r.complaints)

/-- A name that begins with `#`, or the mark alone where no name follows. -/
def scanHash (start : Cursor) (rest : List Char) (newLine : Bool) : Token × List Complaint :=
  match rest with
  | '!' :: _ =>
      (⟨.unknown, start, ⟨rest, start.offset + 1⟩, "", newLine, false⟩,
        [⟨start.offset, 2, .hashBangNotFirst⟩])
  | c :: more =>
      if isIdentifierStart c then
        let (spelling, escaped, stop) := scanWord more (start.offset + 1 + unitsOf c) [c] false
        (⟨.privateName, start, stop, String.ofList ('#' :: spelling.reverse), newLine, escaped⟩, [])
      else
        (⟨.privateName, start, ⟨rest, start.offset + 1⟩, "#", newLine, false⟩,
          [⟨start.offset, 1, .invalidCharacter⟩])
  | [] =>
      (⟨.privateName, start, ⟨[], start.offset + 1⟩, "#", newLine, false⟩,
        [⟨start.offset, 1, .invalidCharacter⟩])

/-- The word token of a spelling given in reverse. -/
def wordToken (start : Cursor) (spelling : List Char) (escaped : Bool) (stop : Cursor)
    (newLine : Bool) : Token × List Complaint :=
  (⟨.word (String.ofList spelling.reverse), start, stop, "", newLine, escaped⟩, [])

/-- The token that begins at the first character of the text. -/
def scanAt (start : Cursor) (newLine : Bool) : Token × List Complaint :=
  let offset := start.offset
  match start.rest with
  | [] => (⟨.endOfText, start, start, "", newLine, false⟩, [])
  | c :: rest =>
      if isIdentifierStart c then
        let (spelling, escaped, stop) := scanWord rest (offset + unitsOf c) [c] false
        wordToken start spelling escaped stop newLine
      else if c = '"' ∨ c = '\'' then
        let (value, r) := scanString c rest (offset + 1) [] []
        (⟨.string, start, r.cursor, String.ofList (charsOfUnits value.reverse), newLine, false⟩,
          r.complaints)
      else if c = '`' then
        let (kind, r) := scanTemplate true rest (offset + 1)
        tokenOf kind start r newLine
      else if c = '0' ∧ (baseOf? rest).isSome then
        let (isDigit, fault) := (baseOf? rest).getD (isHexDigit, .hexadecimalDigitExpected)
        let (kind, r) := scanBaseNumber isDigit fault rest.tail (offset + 2)
        tokenOf kind start r newLine
      else if c.isDigit ∨ (c = '.' ∧ (rest.head?.any Char.isDigit)) then
        let (kind, r) := scanNumber (c :: rest) offset
        tokenOf kind start r newLine
      else if c = '#' then scanHash start rest newLine
      else
        match markAt? (c :: rest) with
        | some mark =>
            (⟨.mark mark, start, ⟨(c :: rest).drop mark.length, offset + mark.length⟩, "", newLine,
              false⟩, [])
        | none =>
            match wordEscape? (c :: rest) with
            | some (d, taken) =>
                if isIdentifierStart d then
                  let (spelling, _, stop) :=
                    scanWord (rest.drop (taken - 1)) (offset + taken) [d] true
                  wordToken start spelling true stop newLine
                else unknown c rest
            | none => unknown c rest
where
  /-- A character that begins no token. -/
  unknown (c : Char) (rest : List Char) : Token × List Complaint :=
    (⟨.unknown, start, ⟨rest, start.offset + unitsOf c⟩, "", newLine, false⟩,
      [⟨start.offset, unitsOf c, .invalidCharacter⟩])

/-- The token behind a cursor, with the faults found while reading it. -/
def scan (c : Cursor) : Token × List Complaint :=
  let (r, newLine) :=
    match c.offset, c.rest with
    | 0, '#' :: '!' :: rest => skipGap .lineComment rest 2 false
    | _, _ => skipGap .plain c.rest c.offset false
  let (token, complaints) := scanAt r.cursor newLine
  (token, r.complaints ++ complaints)

/-- The longest operator that a closing angle bracket begins. -/
def rescanGreater (t : Token) : Token :=
  if t.kind = .mark ">" then
    match [">>>=", ">>>", ">>=", ">>", ">="].find? fun m => m.toList.isPrefixOf t.start.rest with
    | some mark => { t with kind := .mark mark, stop := t.start.skip mark.length }
    | none => t
  else t

/-- A double opening angle bracket read as a single one. -/
def rescanLess (t : Token) : Token :=
  if t.kind = .mark "<<" then { t with kind := .mark "<", stop := t.start.skip 1 } else t

/-- A double question mark read as a single one. -/
def rescanQuestion (t : Token) : Token :=
  if t.kind = .mark "??" then { t with kind := .mark "?", stop := t.start.skip 1 } else t

/-- An asterisk with an equals sign read as an asterisk. -/
def rescanAsterisk (t : Token) : Token :=
  if t.kind = .mark "*=" then { t with kind := .mark "*", stop := t.start.skip 1 } else t

/-- A closing brace read as the beginning of the next part of a template. -/
def rescanTemplate (t : Token) : Token × List Complaint :=
  let (kind, r) := scanTemplate false t.start.rest.tail (t.start.offset + 1)
  ({ t with kind := kind, stop := r.cursor }, r.complaints)

/-- A slash read as the beginning of a regular expression. -/
def rescanSlash (t : Token) : Token × List Complaint :=
  let (passed, closed) :=
    scanPattern t.start.rest.tail (t.start.offset + 1) false false []
  match closed with
  | some behind =>
      let (_, _, stop) := scanWord behind.rest behind.offset [] false
      ({ t with kind := .regularExpression, stop := stop }, [])
  | none =>
      let margin := passed.takeWhile fun c => isSpace c || c == ';'
      let kept := units (passed.drop margin.length)
      let length := kept + 1
      let stop := t.start.skip (passed.length - margin.length + 1)
      ({ t with kind := .regularExpression, stop := stop },
        [⟨t.start.offset, length, .unterminatedRegularExpression⟩])

end UnitResolution.Script
