import UnitResolution.Text.LowerCase
import UnitResolution.Text.Separated
import UnitResolution.Url.Percent

/-!
# Hosts

The host of a URL is a domain name, an address of four numbers, or an address of eight pieces in
brackets. `Host.parse?` reads one and answers its normal form.
-/

namespace UnitResolution.Url.Host

open Text

/-- The characters that no domain holds. -/
def isForbidden (c : Char) : Bool :=
  c.toNat ≤ 0x20 || c.toNat == 0x7F || "#/:<>?@[\\]^|%".toList.contains c

/-! ## Addresses of four numbers -/

/-- The number of a text of digits in a base; nothing if another character occurs. -/
def numberIn? (base : Nat) (s : List Char) : Option Nat :=
  s.foldl (fun n c => do
    let n ← n
    let d ← hexValue? c
    if d < base then some (n * base + d) else none) (some 0)

/-- A number of an address: hexadecimal behind `0x`, octal behind `0`, and decimal otherwise. -/
def addressNumber? : List Char → Option Nat
  | [] => none
  | '0' :: 'x' :: rest | '0' :: 'X' :: rest => numberIn? 16 rest
  | '0' :: c :: rest => numberIn? 8 (c :: rest)
  | s => numberIn? 10 s

/-- The labels of a domain without an empty one at its end. -/
def labels (domain : List Char) : List (List Char) :=
  let all := split '.' domain
  if all.length > 1 ∧ all.getLast? = some [] then all.dropLast else all

/-- Whether the last label of a domain makes it an address. -/
def endsInNumber (domain : List Char) : Bool :=
  match (labels domain).getLast? with
  | none => false
  | some last => !last.isEmpty && (last.all Char.isDigit || (addressNumber? last).isSome)

/-- The address of up to four numbers, the last of which fills the remaining bytes. -/
def address? (domain : List Char) : Option Nat := do
  let numbers ← (labels domain).mapM addressNumber?
  if numbers.length > 4 then none
  let last ← numbers.getLast?
  if numbers.dropLast.any (· > 255) then none
  if last ≥ Nat.pow 256 (5 - numbers.length) then none
  some (numbers.dropLast.zipIdx.foldl (fun total (n, i) => total + n * Nat.pow 256 (3 - i)) last)

/-- An address in its normal form of four decimal numbers. -/
def addressText (n : Nat) : List Char :=
  join '.' ([3, 2, 1, 0].map fun i => Nat.toDigits 10 (n / Nat.pow 256 i % 256))

/-! ## Addresses of eight pieces -/

/-- The two pieces that an address of four decimal numbers makes at the end of the eight. -/
def embedded? (s : List Char) : Option (List Nat) := do
  let numbers ← (split '.' s).mapM fun t => do
    if t.isEmpty || !t.all Char.isDigit || (t.length > 1 && t.head? == some '0') then none
    let n ← numberIn? 10 t
    if n > 255 then none else some n
  match numbers with
  | [a, b, c, d] => some [a * 256 + b, c * 256 + d]
  | _ => none

/-- The pieces of a part of an address without a gap. -/
def pieces? (s : List Char) : Option (List Nat) :=
  if s.isEmpty then some []
  else
    let parts := split ':' s
    let last := parts.getLast?.getD []
    if last.contains '.' then do
      let front ← parts.dropLast.mapM piece?
      let back ← embedded? last
      some (front ++ back)
    else parts.mapM piece?
where
  /-- A piece of up to four hexadecimal digits. -/
  piece? (t : List Char) : Option Nat :=
    if t.isEmpty || t.length > 4 then none else numberIn? 16 t

/-- Cut a text at the first pair of colons. -/
def cutAtGap : List Char → Option (List Char × List Char)
  | [] => none
  | ':' :: ':' :: rest => some ([], rest)
  | c :: rest => (cutAtGap rest).map fun (front, back) => (c :: front, back)

/-- The eight pieces of an address. -/
def eightPieces? (s : List Char) : Option (List Nat) :=
  match cutAtGap s with
  | none => do
      let all ← pieces? s
      if all.length = 8 then some all else none
  | some (front, back) => do
      let front ← pieces? front
      let back ← pieces? back
      if front.length + back.length > 7 then none
      some (front ++ List.replicate (8 - front.length - back.length) 0 ++ back)

/-- The longest run of zeros, if longer than one: where it begins and how long it is. -/
def longestGap (pieces : List Nat) : Option (Nat × Nat) :=
  let runs := (List.range pieces.length).map fun i =>
    (i, ((pieces.drop i).takeWhile (· == 0)).length)
  let best := runs.foldl (fun best run => if run.2 > best.2 then run else best) (0, 1)
  if best.2 > 1 then some best else none

/-- An address of eight pieces in its normal form. -/
def piecesText (pieces : List Nat) : List Char :=
  let text (list : List Nat) := join ':' (list.map (Nat.toDigits 16))
  match longestGap pieces with
  | none => text pieces
  | some (start, length) =>
      text (pieces.take start) ++ [':', ':'] ++ text (pieces.drop (start + length))

/-! ## Hosts -/

/-- Read a host and answer its normal form. -/
def parse? (s : List Char) : Option (List Char) :=
  match s with
  | '[' :: rest =>
      if rest.getLast? = some ']' then
        (eightPieces? rest.dropLast).map fun pieces => '[' :: piecesText pieces ++ [']']
      else none
  | _ =>
      let domain := lowerCase (Utf8.decodeLossy (decodeLenient s))
      if domain.isEmpty || domain.any isForbidden then none
      else if endsInNumber domain then (address? domain).map addressText
      else some domain

end UnitResolution.Url.Host
