import UnitResolution.Url.Host

/-!
# URLs of files

A `FileUrl` is what a URL with the scheme `file` says: a host, which is empty for the files of
this machine, the segments of a path in encoded form, and a query and a fragment that do not
belong to the path. `FileUrl.parse?` reads a URL that begins with the scheme, `FileUrl.follow`
reads a reference against a URL, `FileUrl.href` writes one, and `FileUrl.filePath?` decodes the
path.

Reading is lenient: a backslash counts as a slash, tabs and line breaks are dropped, controls and
blanks at the end are cut off, and the segments `.` and `..` are worked out, also where the dots are
encoded. The first segment can be the letter of a drive, which `..` never removes.
-/

namespace UnitResolution.Url

open Text

/-- What a URL of a file says. -/
structure FileUrl where
  host : List Char
  /-- The segments of the path, encoded. -/
  path : List (List Char)
  query : Option (List Char) := none
  fragment : Option (List Char) := none
  deriving Repr, DecidableEq

namespace FileUrl

/-! ## Preparing the text -/

/-- Cut off controls and spaces at the end, and drop tabs and line breaks. -/
def clean (s : List Char) : List Char :=
  let kept := (s.reverse.dropWhile fun c => c.toNat ≤ 0x20).reverse
  kept.filter fun c => !(c == '\t' || c == '\n' || c == '\r')

/-- Cut a text at the first occurrence of a character, which is dropped. -/
def cutAt (mark : Char) (s : List Char) : List Char × Option (List Char) :=
  let front := s.takeWhile (· != mark)
  match s.drop front.length with
  | [] => (front, none)
  | _ :: rest => (front, some rest)

/-- Both kinds of slash. -/
def isSlash (c : Char) : Bool := c == '/' || c == '\\'

/-- Cut a text at every slash of either kind. -/
def slashed (s : List Char) : List (List Char) :=
  split '/' (s.map fun c => if c == '\\' then '/' else c)

/-! ## Segments -/

/-- A segment that stands for its own directory. -/
def isSingleDot (segment : List Char) : Bool :=
  segment == ['.'] || segment.map Char.toLower == "%2e".toList

/-- A segment that stands for the directory above. -/
def isDoubleDot (segment : List Char) : Bool :=
  [ "..", ".%2e", "%2e.", "%2e%2e" ].any fun form => segment.map Char.toLower == form.toList

/-- The letter of a drive, as it is written in a reference. -/
def isDriveLetter : List Char → Bool
  | [letter, mark] => letter.isAlpha && (mark == ':' || mark == '|')
  | _ => false

/-- The letter of a drive in its normal form. -/
def isNormalDriveLetter : List Char → Bool
  | [letter, ':'] => letter.isAlpha
  | _ => false

/-- Whether a text begins with the letter of a drive as a segment of its own. -/
def startsWithDriveLetter : List Char → Bool
  | letter :: mark :: rest =>
      isDriveLetter [letter, mark] &&
        (match rest with
          | [] => true
          | c :: _ => isSlash c || c == '?' || c == '#')
  | _ => false

/-- A path without its last segment; the letter of a drive stays. -/
def shorten (path : List (List Char)) : List (List Char) :=
  match path with
  | [only] => if isNormalDriveLetter only then path else []
  | _ => path.dropLast

/-- One more segment behind a path; `last` tells that no slash follows. -/
def pushSegment (last : Bool) (path : List (List Char)) (segment : List Char) :
    List (List Char) :=
  if isDoubleDot segment then
    if last then shorten path ++ [[]] else shorten path
  else if isSingleDot segment then
    if last then path ++ [[]] else path
  else
    match segment with
    | [letter, _] =>
        if path.isEmpty && isDriveLetter segment then [[letter, ':']] else path ++ [segment]
    | _ => path ++ [segment]

/-- The segments behind a path, worked out one by one. -/
def pushSegments (path : List (List Char)) : List (List Char) → List (List Char)
  | [] => path
  | [segment] => pushSegment true path (encode isPathSet segment)
  | segment :: more => pushSegments (pushSegment false path (encode isPathSet segment)) more

/-! ## Reading and writing -/

/-- Read a path with what may follow it, behind the segments of another path. -/
def withPath (host : List Char) (base : List (List Char)) (s : List Char) : FileUrl :=
  let (s, fragment) := cutAt '#' s
  let (s, query) := cutAt '?' s
  { host
    path := pushSegments base (slashed s)
    query := query.map (encode isQuerySet)
    fragment := fragment.map (encode isFragmentSet) }

/-- Read what follows the two slashes in front of a host. -/
def withHost? (s : List Char) : Option FileUrl :=
  let name := s.takeWhile fun c => !(isSlash c || c == '?' || c == '#')
  let rest := s.drop name.length
  if isDriveLetter name then some (withPath [] [] s)
  else
    let rest :=
      match rest with
      | c :: more => if isSlash c then more else rest
      | [] => rest
    if name.isEmpty then some (withPath [] [] rest)
    else
      (Host.parse? name).map fun host =>
        withPath (if host = "localhost".toList then [] else host) [] rest

/-- Read a URL behind its scheme. -/
def ofRest? (s : List Char) : Option FileUrl :=
  match clean s with
  | c :: d :: rest =>
      if isSlash c then
        if isSlash d then withHost? rest else some (withPath [] [] (d :: rest))
      else some (withPath [] [] (c :: d :: rest))
  | [c] => some (withPath [] [] (if isSlash c then [] else [c]))
  | [] => some (withPath [] [] [])

/-- Read a URL, which has to begin with the scheme `file`. -/
def parse? (s : List Char) : Option FileUrl :=
  if (s.take 5).map Char.toLower = "file:".toList then ofRest? (s.drop 5) else none

/-- The URL that a reference names from another URL. The reference must not begin with a scheme, a
slash, a query or a fragment. -/
def follow (base : FileUrl) (reference : List Char) : FileUrl :=
  let s := clean reference
  withPath base.host (if startsWithDriveLetter s then [] else shorten base.path) s

/-- A path in its written form. -/
def pathText (path : List (List Char)) : List Char := path.flatMap ('/' :: ·)

/-- The written form of a URL. -/
def href (u : FileUrl) : List Char :=
  "file://".toList ++ u.host ++ pathText u.path ++
    (match u.query with | some q => '?' :: q | none => []) ++
    (match u.fragment with | some f => '#' :: f | none => [])

/-- Whether an encoded slash occurs in a text. -/
def holdsEncodedSlash : List Char → Bool
  | '%' :: '2' :: c :: rest => c == 'f' || c == 'F' || holdsEncodedSlash ('2' :: c :: rest)
  | _ :: rest => holdsEncodedSlash rest
  | [] => false

/-- The path of a file of this machine, decoded; nothing for another host, for an encoded slash,
and for escapes that give no text. -/
def filePath? (u : FileUrl) : Option (List Char) :=
  if !u.host.isEmpty || holdsEncodedSlash (pathText u.path) then none
  else decode? (pathText u.path)

/-! ## URLs of paths -/

/-- The characters of a path that are encoded before its URL is read. -/
def isReservedInPath (c : Char) : Bool :=
  "\x00\t\n\r \"#%?[\\]^|~".toList.contains c

/-- The URL of an absolute path. -/
def ofPath (p : List Char) : FileUrl :=
  ((withHost? (clean (encode isReservedInPath p)))).getD { host := [], path := [] }

end FileUrl

end UnitResolution.Url
