/-!
# UTF-8

`encode` writes characters as bytes, `decode?` reads bytes that are well formed, and `decodeLossy`
reads any bytes: every maximal ill-formed part becomes one replacement character.
-/

namespace UnitResolution.Text.Utf8

/-- The bytes of a character. -/
def encodeChar (c : Char) : List UInt8 := String.utf8EncodeChar c

/-- The bytes of a text. -/
def encode (s : List Char) : List UInt8 := s.flatMap encodeChar

/-- Whether a byte continues a character, and lies in the given range. -/
def continues (low high : UInt8) (b : UInt8) : Bool := low ≤ b && b ≤ high

/-- The payload of a continuing byte. -/
def payload (b : UInt8) : Nat := b.toNat % 0x40

/-- The first character of a list of bytes, if they begin with a well-formed one, and the number of
bytes that are passed over: those of the character or of the maximal ill-formed part. -/
def step : List UInt8 → Option Char × Nat
  | [] => (none, 0)
  | b :: rest =>
      if b < 0x80 then (some (Char.ofNat b.toNat), 1)
      else if 0xC2 ≤ b && b ≤ 0xDF then
        match rest with
        | c :: _ =>
            if continues 0x80 0xBF c then
              (some (Char.ofNat (b.toNat % 0x20 * 0x40 + payload c)), 2)
            else (none, 1)
        | [] => (none, 1)
      else if 0xE0 ≤ b && b ≤ 0xEF then
        let low : UInt8 := if b = 0xE0 then 0xA0 else 0x80
        let high : UInt8 := if b = 0xED then 0x9F else 0xBF
        match rest with
        | c :: more =>
            if continues low high c then
              match more with
              | d :: _ =>
                  if continues 0x80 0xBF d then
                    (some (Char.ofNat (b.toNat % 0x10 * 0x1000 + payload c * 0x40 + payload d)), 3)
                  else (none, 2)
              | [] => (none, 2)
            else (none, 1)
        | [] => (none, 1)
      else if 0xF0 ≤ b && b ≤ 0xF4 then
        let low : UInt8 := if b = 0xF0 then 0x90 else 0x80
        let high : UInt8 := if b = 0xF4 then 0x8F else 0xBF
        match rest with
        | c :: more =>
            if continues low high c then
              match more with
              | d :: last =>
                  if continues 0x80 0xBF d then
                    match last with
                    | e :: _ =>
                        if continues 0x80 0xBF e then
                          (some (Char.ofNat (b.toNat % 8 * 0x40000 + payload c * 0x1000 +
                            payload d * 0x40 + payload e)), 4)
                        else (none, 3)
                    | [] => (none, 3)
                  else (none, 2)
              | [] => (none, 2)
            else (none, 1)
        | [] => (none, 1)
      else (none, 1)

/-- Read bytes, with a replacement character for every maximal ill-formed part. -/
def decodeLossy (bytes : List UInt8) : List Char :=
  go bytes.length bytes
where
  /-- Every step passes over a byte, so there are no more steps than bytes. -/
  go : Nat → List UInt8 → List Char
    | 0, _ => []
    | _, [] => []
    | n + 1, b :: rest =>
        let (c, taken) := step (b :: rest)
        c.getD '\uFFFD' :: go n (rest.drop (taken - 1))

/-- Read bytes that are well formed; nothing if they are not. -/
def decode? (bytes : List UInt8) : Option (List Char) :=
  go bytes.length bytes
where
  /-- Every step passes over a byte, so there are no more steps than bytes. -/
  go : Nat → List UInt8 → Option (List Char)
    | _, [] => some []
    | 0, _ => none
    | n + 1, b :: rest =>
        match step (b :: rest) with
        | (some c, taken) => (go n (rest.drop (taken - 1))).map (c :: ·)
        | (none, _) => none

end UnitResolution.Text.Utf8
