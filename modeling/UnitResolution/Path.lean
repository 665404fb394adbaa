import UnitResolution.Host
import UnitResolution.Text.Separated

/-!
# Paths

A path is a text of segments with slashes between them. An empty segment and `.` stand for the
directory they occur in, and `..` for the directory above it; `reduce` works these out. `resolve`
makes a path absolute, `normalize` shortens one, `joined` puts two together, and `relative` leads
from one directory to another place. A relative path is counted from the working directory of the
`Host` where it is not counted from another one.
-/

namespace UnitResolution.Path

open Text

export Host (workingDirectory)

/-- The segment that stands for the directory above. -/
def up : List Char := ['.', '.']

/-- Whether a path begins at the root. -/
def isAbsolute (p : List Char) : Bool := p.head? == some '/'

/-- One more segment behind a stack of segments, the last one first. Where a path may climb above
its beginning, the steps up that have no segment to take back are kept. -/
def push (climbs : Bool) (stack : List (List Char)) (segment : List Char) : List (List Char) :=
  if segment = [] ∨ segment = ['.'] then stack
  else if segment = up then
    match stack with
    | [] => if climbs then [up] else []
    | top :: below => if top = up then (if climbs then up :: stack else below) else below
  else segment :: stack

/-- The segments of a path without those that only lead around. -/
def reduce (climbs : Bool) (segments : List (List Char)) : List (List Char) :=
  (segments.foldl (push climbs) []).reverse

/-- The segments of an absolute path, worked out. -/
def segments (p : List Char) : List (List Char) := reduce false (split '/' p)

/-- The absolute path with the given segments. -/
def ofSegments (s : List (List Char)) : List Char := '/' :: join '/' s

/-- An absolute path without the segments that only lead around. -/
def workedOut (p : List Char) : List Char := ofSegments (segments p)

variable [Host]

/-- The path that a path names from a directory, both of which may be relative. -/
def resolveFrom (directory p : List Char) : List Char :=
  let full := if isAbsolute p ∨ directory = [] then p else directory ++ '/' :: p
  workedOut (if isAbsolute full then full else workingDirectory ++ '/' :: full)

/-- The absolute form of a path. -/
def absolute (p : List Char) : List Char := resolveFrom workingDirectory p

/-- The shortest form of a path with the same meaning; a slash at the end is kept. -/
def normalize (p : List Char) : List Char :=
  if p = [] then ['.']
  else
    let trailing := p.getLast? = some '/'
    let reduced := join '/' (reduce (!isAbsolute p) (split '/' p))
    let body :=
      if reduced = [] then
        if isAbsolute p then [] else if trailing then ['.', '/'] else ['.']
      else if trailing then reduced ++ ['/'] else reduced
    if isAbsolute p then '/' :: body else body

/-- Two paths, the second one counted from the first, in their shortest form. -/
def joined (p q : List Char) : List Char :=
  normalize (if p = [] then q else if q = [] then p else p ++ '/' :: q)

/-- The path without its last segment and the slashes around it. -/
def directory (p : List Char) : List Char :=
  let rooted := isAbsolute p
  -- the last character of all is never taken for a separator in front of a segment
  let body := (p.drop 1).reverse.dropWhile (· == '/')
  let rest := body.dropWhile (· != '/')
  match rest with
  | [] => if rooted then ['/'] else ['.']
  | _ :: before =>
      if rooted && before.isEmpty then ['/', '/'] else p.take 1 ++ before.reverse

/-- Two lists without the elements with which both begin. -/
def withoutCommon : List (List Char) → List (List Char) → List (List Char) × List (List Char)
  | x :: xs, y :: ys => if x = y then withoutCommon xs ys else (x :: xs, y :: ys)
  | xs, ys => (xs, ys)

/-- The segments that lead from one absolute place to another. -/
def relative (source target : List Char) : List (List Char) :=
  let (back, forth) := withoutCommon (segments source) (segments target)
  back.map (fun _ => up) ++ forth

/-- Whether the second absolute place lies at or below the first. -/
def isWithin (source target : List Char) : Bool :=
  (relative source target).head? != some up

/-! ## Paths as strings -/

/-- The path that a path names from a directory. -/
def resolve (directory p : String) : String :=
  String.ofList (resolveFrom directory.toList p.toList)

/-- The absolute form of a path. -/
def absoluteString (p : String) : String := String.ofList (absolute p.toList)

/-- Two paths, the second one counted from the first. -/
def joinedString (p q : String) : String := String.ofList (joined p.toList q.toList)

/-- The path without its last segment. -/
def directoryString (p : String) : String := String.ofList (directory p.toList)

end UnitResolution.Path
