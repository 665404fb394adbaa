import UnitResolution.Identifier.Scheme

/-!
# Specifiers

A specifier is what a unit writes to refer to another one. `resolveSpecifier` makes an identifier
of it: a specifier with a scheme is one already, an absolute path names a file, a specifier that
begins with a dot segment is counted from the unit that holds it, and anything else names a unit of
a package.
-/

namespace UnitResolution.Identifier

open Text

/-- Why a specifier has no identifier: it is counted from a unit whose identifier is no URL. -/
inductive SpecifierError
  | invalidUrl
  deriving Repr, DecidableEq

/-- Whether a specifier is counted from the unit that holds it. -/
def isRelative (specifier : List Char) : Bool :=
  ['.', '/'].isPrefixOf specifier || ['.', '.', '/'].isPrefixOf specifier

/-- The directory from which a relative specifier in a unit is counted. The parts of a library of
the runtime lie below its name. -/
def directoryOf (scheme rest : List Char) : List Char :=
  if scheme ++ [':'] = runtimeScheme.toList ∧ '/' ∉ rest then rest else Path.directory rest

/-- The identifier that a relative specifier names in a unit. -/
def resolveRelative (specifier unit : List Char) : Except SpecifierError (List Char) :=
  if fileScheme.toList.isPrefixOf (lowerCase unit) then
    match Url.FileUrl.parse? unit with
    | some base => .ok (base.follow specifier).href
    | none => .error .invalidUrl
  else
    match schemeOf? unit with
    | some scheme =>
        let directory := directoryOf scheme (unit.drop (scheme.length + 1))
        .ok (scheme ++ ':' :: Path.normalize (Path.joined directory specifier))
    | none => .ok (packageScheme.toList ++ specifier)

/-- The identifier that a specifier names in a unit, as characters. -/
def resolveChars (specifier unit : List Char) : Except SpecifierError (List Char) :=
  if (schemeOf? specifier).isSome then .ok specifier
  else if Path.isAbsolute specifier then .ok (ofAbsolutePath (Path.workedOut specifier))
  else if isRelative specifier then resolveRelative specifier unit
  else .ok (packageScheme.toList ++ specifier)

/-- The identifier that a specifier names in a unit. -/
def resolveSpecifier (specifier unit : String) : Except SpecifierError String :=
  (resolveChars specifier.toList unit.toList).map String.ofList

/-! ## Candidates -/

/-- The extensions after which a specifier names a file as it stands. -/
def knownExtensions : List String :=
  [".js", ".jsx", ".ts", ".tsx", ".cjs", ".cjsx", ".cts", ".ctsx", ".mjs", ".mjsx", ".mts",
    ".mtsx", ".htm", ".html"]

/-- Whether a text ends with another one. -/
def endsWith (ending : String) (s : List Char) : Bool :=
  ending.toList.reverse.isPrefixOf s.reverse

/-- The identifiers that an import may stand for, in the order in which they are tried. A directory
stands for its index, the name of a compiled script also for its source, and a name without a known
extension for anything that has one. -/
def candidates (identifier : String) : List String :=
  let s := identifier.toList
  if endsWith "/" s then [identifier ++ "index.ts"]
  else if endsWith ".js" s then
    [identifier, String.ofList (s.take (s.length - 3)) ++ ".ts"]
  else if knownExtensions.any fun extension => endsWith extension s then [identifier]
  else [identifier, identifier ++ ".ts", identifier ++ ".tsx", identifier ++ "/index.ts"]

end UnitResolution.Identifier
