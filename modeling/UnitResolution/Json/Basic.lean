import UnitResolution.Table

/-!
# JSON values

A `Json` value is what a JSON text says. The members of an object have an order: names that are
array indices come first, in ascending order, and all others in the order in which they were first
set (`Json.ofMembers`). A name that is set again keeps its place and takes the new value.
-/

namespace UnitResolution

/-- A decimal number as it is written: its sign, its digits, and the power of ten they count. -/
structure Decimal where
  negative : Bool
  digits : Nat
  exponent : Int
  deriving Repr, DecidableEq

/-- A JSON value. -/
inductive Json
  | null
  | bool (value : Bool)
  | number (value : Decimal)
  | string (value : String)
  | array (elements : List Json)
  | object (members : List (String × Json))
  deriving Repr, Inhabited

namespace Json

/-- The number of a name that is an array index: digits without a leading zero, and not the
largest number of 32 bits. -/
def arrayIndex? (name : String) : Option Nat :=
  let digits := name.toList
  if digits.isEmpty || !digits.all Char.isDigit || (digits.length > 1 && digits.head? == some '0')
      || digits.length > 10 then none
  else
    let n := digits.foldl (fun n c => n * 10 + (c.toNat - '0'.toNat)) 0
    if n < 4294967295 then some n else none

/-- Put a member in front of the first one with a larger index. -/
def insertByIndex (index : Nat) (member : String × Json) :
    List (Nat × (String × Json)) → List (Nat × (String × Json))
  | [] => [(index, member)]
  | (i, m) :: rest =>
      if index < i then (index, member) :: (i, m) :: rest
      else (i, m) :: insertByIndex index member rest

/-- The members with the array indices in front, in ascending order. -/
def orderMembers (members : List (String × Json)) : List (String × Json) :=
  let indexed := members.filterMap fun m => (arrayIndex? m.1).map fun i => (i, m)
  let sorted := indexed.foldl (fun sorted m => insertByIndex m.1 m.2 sorted) []
  sorted.map (·.2) ++ members.filter fun m => (arrayIndex? m.1).isNone

/-- The object with the given members, set one after the other. -/
def ofMembers (members : List (String × Json)) : Json :=
  .object (orderMembers (Table.ofList members))

/-- The member of an object with the given name. -/
def get? (name : String) : Json → Option Json
  | .object members => members.lookup name
  | _ => none

end Json

end UnitResolution
