import UnitResolution.Path
import UnitResolution.Text.LowerCase
import UnitResolution.Url.File

/-!
# Identifiers and their schemes

A unit is named by an identifier: a scheme, a colon, and what the scheme makes of the rest.
`runtimeScheme` names units of the runtime library, `packageScheme` units of packages, and
`fileScheme` files.

There are two ways to ask for the scheme. `scheme?` reads it off the beginning of the identifier
and knows only ASCII letters; `hasScheme` compares the identifier in lower case, where letters
beyond ASCII can become ASCII letters.
-/

namespace UnitResolution.Identifier

open Text

/-- The scheme of units of the runtime library. -/
def runtimeScheme : String := "rt:"

/-- The scheme of units of packages. -/
def packageScheme : String := "pkg:"

/-- The scheme of files. -/
def fileScheme : String := "file:"

/-- A character that may stand in a scheme after its first. -/
def isSchemePart (c : Char) : Bool := c.isAlphanum || c == '+' || c == '.' || c == '-'

/-- The scheme of an identifier in lower case, without its colon. A single letter is the name of a
drive and no scheme. -/
def schemeOf? (s : List Char) : Option (List Char) :=
  let scheme := s.takeWhile isSchemePart
  match scheme with
  | first :: _ :: _ =>
      if first.isAlpha && (s.drop scheme.length).head? == some ':' then
        some (scheme.map Char.toLower)
      else none
  | _ => none

/-- The scheme of an identifier in lower case, without its colon. -/
def scheme? (identifier : String) : Option String :=
  (schemeOf? identifier.toList).map String.ofList

/-- Whether an identifier begins with a scheme, its own spelling taken in lower case. -/
def hasScheme (identifier scheme : String) : Bool :=
  scheme.toList.isPrefixOf (lowerCase identifier.toList)

/-- The path that an identifier of a file names, as characters. -/
def pathOfFile? (identifier : List Char) : Option (List Char) :=
  if fileScheme.toList.isPrefixOf (lowerCase identifier) then
    (Url.FileUrl.parse? identifier).bind Url.FileUrl.filePath?
  else none

/-- The path that an identifier of a file names. -/
def filePath? (identifier : String) : Option String :=
  (pathOfFile? identifier.toList).map String.ofList

/-- The identifier of the file at an absolute path. -/
def ofAbsolutePath (p : List Char) : List Char := (Url.FileUrl.ofPath p).href

variable [Host]

/-- The identifier of the file that a path names. -/
def ofFilePath (p : String) : String :=
  String.ofList (ofAbsolutePath (Path.absolute p.toList))

/-- Whether an identifier names a document that embeds scripts. -/
def isHostDocument (identifier : String) : Bool :=
  let reversed := (lowerCase identifier.toList).reverse
  ".html".toList.reverse.isPrefixOf reversed || ".htm".toList.reverse.isPrefixOf reversed

/-- The identifier that an argument of the command line names: a file, unless it has a scheme. -/
def ofArgument (argument directory : String) : String :=
  if (scheme? argument).isSome then argument else ofFilePath (Path.resolve directory argument)

end UnitResolution.Identifier
