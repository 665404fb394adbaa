import UnitResolution.Markup.References

/-!
# Tokens of markup

`Token.next?` reads the first token of a document: a run of text, a start tag or an end tag.
Comments, declarations and instructions are passed over, and so is a tag that the end of the
document cuts off. `skipRaw` and `skipScript` pass over the text of an element in which no tags
count but its own end tag; in a script, that tag does not count either between `<!-- <script` and
the next `</script`.

Line ends have to be line feeds, which `normalizeLines` sees to.
-/

namespace UnitResolution.Markup

open Text

/-- A text with a line feed in the place of every other line end. -/
def normalizeLines : List Char → List Char
  | [] => []
  | '\r' :: '\n' :: rest => '\n' :: normalizeLines rest
  | '\r' :: rest => '\n' :: normalizeLines rest
  | c :: rest => c :: normalizeLines rest

/-- The characters that stand between the parts of a tag. -/
def isTagSpace (c : Char) : Bool := c == ' ' || c == '\t' || c == '\n' || c == '\x0c'

/-- The characters that end a name in a tag. -/
def endsName (c : Char) : Bool := isTagSpace c || c == '/' || c == '>'

/-- A character of a name, as it is kept. -/
def nameChar (c : Char) : Char := if c = '\x00' then '\uFFFD' else c.toLower

/-- A character of a value, as it is kept. -/
def valueChar (c : Char) : Char := if c = '\x00' then '\uFFFD' else c

/-- A start tag. -/
structure Tag where
  name : String
  /-- The attributes with their values, each name once. -/
  attributes : List (String × String)
  /-- The tag ends with a slash. -/
  selfClosing : Bool
  deriving Repr, DecidableEq

/-- The value of an attribute. -/
def Tag.attribute? (t : Tag) (name : String) : Option String := t.attributes.lookup name

/-- The tokens that shape a document. -/
inductive Token
  /-- A run of text, which is blank or not. -/
  | text (blank : Bool)
  | startTag (tag : Tag)
  | endTag (name : String)
  deriving Repr, DecidableEq

/-! ## Tags -/

/-- The places inside a tag behind its name. Names and values that are being read are given with
their last character first. -/
inductive TagPlace
  | beforeName
  | inName (name : List Char)
  | afterName (name : List Char)
  | beforeValue (name : List Char)
  | quoted (mark : Char) (name value : List Char)
  | unquoted (name value : List Char)
  | afterValue
  | afterSlash
  deriving Repr, DecidableEq

/-- Attributes with one more; of two with one name the first one counts. -/
def addAttribute (attributes : List (String × String)) (name value : List Char) :
    List (String × String) :=
  let name := String.ofList name.reverse
  if (attributes.lookup name).isSome then attributes
  else
    attributes ++ [(name, String.ofList ((decodeReferences value.reverse).map valueChar))]

/-- The place behind a character that stands where an attribute may begin. -/
def beginAttribute (c : Char) : TagPlace :=
  if isTagSpace c then .beforeName
  else if c = '/' then .afterSlash
  else .inName [nameChar c]

/-- Read a tag from a place behind its name on: its attributes, whether it ends with a slash, and
the text behind it. -/
def readTag? : TagPlace → List (String × String) → List Char →
    Option (List (String × String) × Bool × List Char)
  | _, _, [] => none
  | .beforeName, attributes, c :: rest =>
      if c = '>' then some (attributes, false, rest)
      else readTag? (beginAttribute c) attributes rest
  | .inName name, attributes, c :: rest =>
      if c = '>' then some (addAttribute attributes name [], false, rest)
      else if c = '=' then readTag? (.beforeValue name) attributes rest
      else if c = '/' then readTag? .afterSlash (addAttribute attributes name []) rest
      else if isTagSpace c then readTag? (.afterName name) attributes rest
      else readTag? (.inName (nameChar c :: name)) attributes rest
  | .afterName name, attributes, c :: rest =>
      if c = '>' then some (addAttribute attributes name [], false, rest)
      else if c = '=' then readTag? (.beforeValue name) attributes rest
      else if isTagSpace c then readTag? (.afterName name) attributes rest
      else readTag? (beginAttribute c) (addAttribute attributes name []) rest
  | .beforeValue name, attributes, c :: rest =>
      if c = '>' then some (addAttribute attributes name [], false, rest)
      else if isTagSpace c then readTag? (.beforeValue name) attributes rest
      else if c = '"' ∨ c = '\'' then readTag? (.quoted c name []) attributes rest
      else readTag? (.unquoted name [c]) attributes rest
  | .quoted mark name value, attributes, c :: rest =>
      if c = mark then readTag? .afterValue (addAttribute attributes name value) rest
      else readTag? (.quoted mark name (c :: value)) attributes rest
  | .unquoted name value, attributes, c :: rest =>
      if c = '>' then some (addAttribute attributes name value, false, rest)
      else if isTagSpace c then readTag? .beforeName (addAttribute attributes name value) rest
      else readTag? (.unquoted name (c :: value)) attributes rest
  | .afterValue, attributes, c :: rest =>
      if c = '>' then some (attributes, false, rest)
      else readTag? (beginAttribute c) attributes rest
  | .afterSlash, attributes, c :: rest =>
      if c = '>' then some (attributes, true, rest)
      else readTag? (beginAttribute c) attributes rest

/-- Read a start tag behind its opening bracket. -/
def readStartTag? (s : List Char) : Option (Tag × List Char) :=
  let name := s.takeWhile (!endsName ·)
  (readTag? .beforeName [] (s.drop name.length)).map fun (attributes, selfClosing, rest) =>
    ({ name := String.ofList (name.map nameChar), attributes, selfClosing }, rest)

/-! ## What is passed over -/

/-- The text behind the first occurrence of another one. -/
def behind (mark : List Char) : List Char → List Char
  | [] => []
  | c :: rest => if mark.isPrefixOf (c :: rest) then (c :: rest).drop mark.length
      else behind mark rest

/-- The text behind a comment that has been opened. -/
def behindComment : List Char → List Char
  | [] => []
  | c :: rest =>
      if "-->".toList.isPrefixOf (c :: rest) then rest.drop 2
      else if "--!>".toList.isPrefixOf (c :: rest) then rest.drop 3
      else behindComment rest

/-- The text behind a comment, from its opening on. -/
def skipComment (s : List Char) : List Char :=
  match s with
  | '>' :: rest => rest
  | '-' :: '>' :: rest => rest
  | _ => behindComment s

/-- The text behind a declaration, from its exclamation mark on. In foreign content, a declaration
can hold text as it stands. -/
def skipDeclaration (foreign : Bool) (s : List Char) : List Char :=
  match s with
  | '-' :: '-' :: rest => skipComment rest
  | _ =>
      if foreign && "[CDATA[".toList.isPrefixOf s then behind "]]>".toList (s.drop 7)
      else behind ['>'] s

/-! ## Tokens -/

/-- What is read off the beginning of a document: a token, or something that is passed over, and
the text behind it. -/
structure Reading where
  token : Option Token
  rest : List Char

/-- Whether text is blank, as far as the shape of a document is concerned. -/
def isBlankText (s : List Char) : Bool := s.all fun c => isTagSpace c || c == '\x00'

/-- Read text up to the next opening bracket; the first character belongs to it in any case. -/
def readText (c : Char) (s : List Char) : Reading :=
  let more := s.takeWhile (· != '<')
  ⟨some (.text (isBlankText (c :: more))), s.drop more.length⟩

/-- Read an end tag behind its slash. -/
def readEndTag (s : List Char) : Reading :=
  match readStartTag? s with
  | some (tag, rest) => ⟨some (.endTag tag.name), rest⟩
  | none => ⟨none, []⟩

/-- Read the first token of a document. -/
def Token.next? (foreign : Bool) : List Char → Option Reading
  | [] => none
  | '<' :: '/' :: rest =>
      match rest with
      | [] => some ⟨some (.text false), []⟩
      | c :: more =>
          if c.isAlpha then some (readEndTag rest)
          else if c = '>' then some ⟨none, more⟩
          else some ⟨none, behind ['>'] rest⟩
  | '<' :: '!' :: rest => some ⟨none, skipDeclaration foreign rest⟩
  | '<' :: '?' :: rest => some ⟨none, behind ['>'] rest⟩
  | '<' :: rest =>
      if (rest.head?.map Char.isAlpha).getD false then
        match readStartTag? rest with
        | some (tag, rest) => some ⟨some (.startTag tag), rest⟩
        | none => some ⟨none, []⟩
      else some (readText '<' rest)
  | c :: rest => some (readText c rest)

/-! ## Raw text -/

/-- The text behind the name of a tag, if the text begins with that name in any case and the name
ends there. -/
def behindName? (name : String) (s : List Char) : Option (List Char) :=
  let n := name.toList
  if (s.take n.length).map Char.toLower = n then
    match s.drop n.length with
    | c :: rest => if endsName c then some (c :: rest) else none
    | [] => none
  else none

/-- The text behind an end tag, from behind its name on. -/
def skipTag (s : List Char) : List Char :=
  match readTag? .beforeName [] s with
  | some (_, _, rest) => rest
  | none => []

/-- The text behind raw text and its end tag. -/
def skipRaw (name : String) : List Char → List Char
  | [] => []
  | c :: rest =>
      match c, rest with
      | '<', '/' :: more =>
          match behindName? name more with
          | some tail => skipTag tail
          | none => skipRaw name rest
      | _, _ => skipRaw name rest

/-- The kinds of text in a script. -/
inductive ScriptText
  | plain
  /-- Behind an opening comment mark. -/
  | escaped
  /-- Behind the name of a script in a comment. -/
  | doublyEscaped
  deriving Repr, DecidableEq

/-- The kind of text behind the first character of a given text in a script. -/
def ScriptText.next (kind : ScriptText) (s : List Char) : ScriptText :=
  match kind with
  | .plain => if "<!--".toList.isPrefixOf s then .escaped else .plain
  | .escaped =>
      if "-->".toList.isPrefixOf s then .plain
      else if s.head? = some '<' ∧ (behindName? "script" (s.drop 1)).isSome then .doublyEscaped
      else .escaped
  | .doublyEscaped =>
      if "-->".toList.isPrefixOf s then .plain
      else if "</".toList.isPrefixOf s ∧ (behindName? "script" (s.drop 2)).isSome then .escaped
      else .doublyEscaped

/-- The text behind a script and its end tag. -/
def skipScript : ScriptText → List Char → List Char
  | _, [] => []
  | kind, c :: rest =>
      let ended :=
        match kind, c, rest with
        | .doublyEscaped, _, _ => none
        | _, '<', '/' :: more => behindName? "script" more
        | _, _, _ => none
      match ended with
      | some tail => skipTag tail
      | none => skipScript (kind.next (c :: rest)) rest

end UnitResolution.Markup
