import UnitResolution.Text.LowerCaseTable

/-!
# Lower case

`lowerCase` replaces every character by its lower-case form. Letters beyond ASCII have one too, and
some of them have a form inside ASCII: the Kelvin sign becomes `k`.
-/

namespace UnitResolution.Text

/-- Search the runs with index from `low` up to, but not including, `high` for the lower-case form
of a code point. -/
def searchRuns (runs : Array (Nat × Nat × Nat × Nat)) (point : Nat) :
    (steps low high : Nat) → Option Nat
  | 0, _, _ => none
  | steps + 1, low, high =>
      if low < high then
        let middle := (low + high) / 2
        match runs[middle]? with
        | none => none
        | some (first, last, step, form) =>
            if point < first then searchRuns runs point steps low middle
            else if last < point then searchRuns runs point steps (middle + 1) high
            else if (point - first) % step = 0 then some (form + (point - first))
            else none
      else none

/-- The lower-case form of a character, which is one character except for the dotted capital I. -/
def lowerCaseOf (c : Char) : List Char :=
  if c.toNat < 0x80 then [c.toLower]
  else if c = '\u0130' then ['i', '\u0307']
  else
    match searchRuns lowerCaseRuns c.toNat (lowerCaseRuns.size.log2 + 2) 0
        lowerCaseRuns.size with
    | some form => [Char.ofNat form]
    | none => [c]

/-- A text with every character replaced by its lower-case form. -/
def lowerCase (s : List Char) : List Char := s.flatMap lowerCaseOf

end UnitResolution.Text
