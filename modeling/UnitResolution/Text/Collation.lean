import UnitResolution.Text.CollationTable
import UnitResolution.Text.LowerCase

/-!
# The order of names

`collates` sorts names as a reader of English does: marks before digits before letters, accents
counting only where the letters agree, and case only where the accents agree too, with the small
letter first.

Every character has a list of weights. Texts are compared by the first weights of all characters,
then by the second ones, then by the third ones.
-/

namespace UnitResolution.Text

/-- The marks and digits of ASCII in their order. -/
def markOrder : List Char :=
  "\t\n\x0b\x0c\x0d _-,;:!?.'\"()[]\x7b\x7d@*/\\&#%`^+<=>|~$0123456789".toList

/-- The weights of a character. A character beyond ASCII that is no Latin letter comes behind all
letters, by its code point in lower case. -/
def weightsOf (c : Char) : List Weight :=
  match letterWeights[c.toLower.toNat - 'a'.toNat]?, c.isAlpha with
  | some letter, true => [⟨letter, 0x20, if c.isUpper then 8 else 2⟩]
  | _, _ =>
      match markOrder.idxOf? c with
      | some place => [⟨place + 1, 0x20, 2⟩]
      | none =>
          if c.toNat < 0x80 then []
          else
            match latinWeights.lookup c.toNat with
            | some weights => weights
            | none =>
                let small := lowerCaseOf c
                small.map fun s => ⟨0x10000 + s.toNat, 0x20, if small = [c] then 2 else 8⟩

/-- The order of two lists of numbers, a shorter one before its continuations. -/
def compareWeights : List Nat → List Nat → Ordering
  | [], [] => .eq
  | [], _ :: _ => .lt
  | _ :: _, [] => .gt
  | x :: xs, y :: ys => (compare x y).then (compareWeights xs ys)

/-- The order of two texts. -/
def collate (s t : List Char) : Ordering :=
  let ws := s.flatMap weightsOf
  let wt := t.flatMap weightsOf
  let level (weight : Weight → Nat) (w : List Weight) := (w.map weight).filter (· != 0)
  (compareWeights (level Weight.letter ws) (level Weight.letter wt)).then <|
    (compareWeights (level Weight.accent ws) (level Weight.accent wt)).then <|
      compareWeights (level Weight.case ws) (level Weight.case wt)

/-- Whether a text may stand in front of another one. -/
def collates (s t : List Char) : Bool := collate s t != .gt

/-- Texts in their order; texts that no weight tells apart keep their places. -/
def sortNames (names : List (List Char)) : List (List Char) := names.mergeSort collates

end UnitResolution.Text
