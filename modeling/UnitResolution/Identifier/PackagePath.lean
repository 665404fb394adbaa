import UnitResolution.Identifier.Scheme
import UnitResolution.Text.Units

/-!
# Paths inside packages

Behind its scheme, the identifier of a unit of a package holds a path that is counted from the root
of the packages. `PackagePath.ofIdentifier` shortens that path and refuses one that names no package
or leads out of the root.
-/

namespace UnitResolution.PackagePath

open Text

/-- Why an identifier has no path inside the root of the packages. -/
inductive Fault
  /-- The identifier does not begin with the name of a package. -/
  | noPackage
  /-- The path leads out of the root. -/
  | leavesRoot
  deriving Repr, DecidableEq

/-- Whether a segment can be the name of a package. -/
def isPackageName (segment : List Char) : Bool :=
  !(segment == [] || segment == ['.'] || segment == Path.up)

/-- Whether a shortened path leads out of the directory from which it is counted. -/
def leaves (p : List Char) : Bool :=
  p == Path.up || (Path.up ++ ['/']).isPrefixOf p || Path.isAbsolute p

/-- The path behind the scheme of an identifier, counted from the root of the packages. -/
def ofIdentifier (identifier : List Char) : Except Fault (List Char) :=
  let rest := dropUnits (units Identifier.packageScheme.toList) identifier
  if !isPackageName (rest.takeWhile (· != '/')) then .error .noPackage
  else
    let p := Path.normalize rest
    if leaves p then .error .leavesRoot else .ok p

end UnitResolution.PackagePath
