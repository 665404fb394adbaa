/-!
# Weights of Latin letters

The weights by which texts are sorted, as the Unicode collation algorithm gives them: of the 26
letters, and of the letters with accents and the accents themselves.
-/

namespace UnitResolution.Text

/-- The weights of a part of a character: by its letter, by its accent, and by its case. A part
without a letter has the first weight zero. -/
structure Weight where
  letter : Nat
  accent : Nat
  case : Nat
  deriving Repr, DecidableEq

/-- The first weights of the letters from a to z. -/
def letterWeights : Array Nat :=
  #[0x1FA2, 0x1FBC, 0x1FD6, 0x1FEB, 0x2007, 0x2042, 0x2051, 0x2075, 0x2090, 0x20AB, 0x20C4,
    0x20D6, 0x2109, 0x2118, 0x213C, 0x216B, 0x2180, 0x2193, 0x21D2, 0x21F7, 0x2217, 0x2247,
    0x2259, 0x2264, 0x2270, 0x2286]

/-- The weights of the characters beyond ASCII that are built from Latin letters, by code point. -/
def latinWeights : List (Nat × List Weight) := [
  (0xC0, [⟨0x1FA2, 0x20, 8⟩, ⟨0x0, 0x25, 2⟩]), (0xC1, [⟨0x1FA2, 0x20, 8⟩, ⟨0x0, 0x24, 2⟩]),
    (0xC2, [⟨0x1FA2, 0x20, 8⟩, ⟨0x0, 0x27, 2⟩]), (0xC3, [⟨0x1FA2, 0x20, 8⟩, ⟨0x0, 0x2D, 2⟩]),
    (0xC4, [⟨0x1FA2, 0x20, 8⟩, ⟨0x0, 0x2B, 2⟩]), (0xC5, [⟨0x1FA2, 0x20, 8⟩, ⟨0x0, 0x29, 2⟩]),
    (0xC6, [⟨0x1FA2, 0x20, 10⟩, ⟨0x0, 0x118, 4⟩, ⟨0x2007, 0x20, 10⟩]),
    (0xC7, [⟨0x1FD6, 0x20, 8⟩, ⟨0x0, 0x30, 2⟩]), (0xC8, [⟨0x2007, 0x20, 8⟩, ⟨0x0, 0x25, 2⟩]),
    (0xC9, [⟨0x2007, 0x20, 8⟩, ⟨0x0, 0x24, 2⟩]), (0xCA, [⟨0x2007, 0x20, 8⟩, ⟨0x0, 0x27, 2⟩]),
    (0xCB, [⟨0x2007, 0x20, 8⟩, ⟨0x0, 0x2B, 2⟩]), (0xCC, [⟨0x2090, 0x20, 8⟩, ⟨0x0, 0x25, 2⟩]),
    (0xCD, [⟨0x2090, 0x20, 8⟩, ⟨0x0, 0x24, 2⟩]), (0xCE, [⟨0x2090, 0x20, 8⟩, ⟨0x0, 0x27, 2⟩]),
    (0xCF, [⟨0x2090, 0x20, 8⟩, ⟨0x0, 0x2B, 2⟩]), (0xD0, [⟨0x1FEB, 0x20, 10⟩, ⟨0x0, 0x118, 4⟩]),
    (0xD1, [⟨0x2118, 0x20, 8⟩, ⟨0x0, 0x2D, 2⟩]), (0xD2, [⟨0x213C, 0x20, 8⟩, ⟨0x0, 0x25, 2⟩]),
    (0xD3, [⟨0x213C, 0x20, 8⟩, ⟨0x0, 0x24, 2⟩]), (0xD4, [⟨0x213C, 0x20, 8⟩, ⟨0x0, 0x27, 2⟩]),
    (0xD5, [⟨0x213C, 0x20, 8⟩, ⟨0x0, 0x2D, 2⟩]), (0xD6, [⟨0x213C, 0x20, 8⟩, ⟨0x0, 0x2B, 2⟩]),
    (0xD8, [⟨0x213C, 0x20, 8⟩, ⟨0x0, 0x2F, 2⟩]), (0xD9, [⟨0x2217, 0x20, 8⟩, ⟨0x0, 0x25, 2⟩]),
    (0xDA, [⟨0x2217, 0x20, 8⟩, ⟨0x0, 0x24, 2⟩]), (0xDB, [⟨0x2217, 0x20, 8⟩, ⟨0x0, 0x27, 2⟩]),
    (0xDC, [⟨0x2217, 0x20, 8⟩, ⟨0x0, 0x2B, 2⟩]), (0xDD, [⟨0x2270, 0x20, 8⟩, ⟨0x0, 0x24, 2⟩]),
    (0xDE, [⟨0x22B5, 0x20, 8⟩]), (0xDF, [⟨0x21D2, 0x20, 4⟩, ⟨0x0, 0x118, 4⟩, ⟨0x21D2, 0x20, 4⟩]),
    (0xE0, [⟨0x1FA2, 0x20, 2⟩, ⟨0x0, 0x25, 2⟩]), (0xE1, [⟨0x1FA2, 0x20, 2⟩, ⟨0x0, 0x24, 2⟩]),
    (0xE2, [⟨0x1FA2, 0x20, 2⟩, ⟨0x0, 0x27, 2⟩]), (0xE3, [⟨0x1FA2, 0x20, 2⟩, ⟨0x0, 0x2D, 2⟩]),
    (0xE4, [⟨0x1FA2, 0x20, 2⟩, ⟨0x0, 0x2B, 2⟩]), (0xE5, [⟨0x1FA2, 0x20, 2⟩, ⟨0x0, 0x29, 2⟩]),
    (0xE6, [⟨0x1FA2, 0x20, 4⟩, ⟨0x0, 0x118, 4⟩, ⟨0x2007, 0x20, 4⟩]),
    (0xE7, [⟨0x1FD6, 0x20, 2⟩, ⟨0x0, 0x30, 2⟩]), (0xE8, [⟨0x2007, 0x20, 2⟩, ⟨0x0, 0x25, 2⟩]),
    (0xE9, [⟨0x2007, 0x20, 2⟩, ⟨0x0, 0x24, 2⟩]), (0xEA, [⟨0x2007, 0x20, 2⟩, ⟨0x0, 0x27, 2⟩]),
    (0xEB, [⟨0x2007, 0x20, 2⟩, ⟨0x0, 0x2B, 2⟩]), (0xEC, [⟨0x2090, 0x20, 2⟩, ⟨0x0, 0x25, 2⟩]),
    (0xED, [⟨0x2090, 0x20, 2⟩, ⟨0x0, 0x24, 2⟩]), (0xEE, [⟨0x2090, 0x20, 2⟩, ⟨0x0, 0x27, 2⟩]),
    (0xEF, [⟨0x2090, 0x20, 2⟩, ⟨0x0, 0x2B, 2⟩]), (0xF0, [⟨0x1FEB, 0x20, 4⟩, ⟨0x0, 0x118, 4⟩]),
    (0xF1, [⟨0x2118, 0x20, 2⟩, ⟨0x0, 0x2D, 2⟩]), (0xF2, [⟨0x213C, 0x20, 2⟩, ⟨0x0, 0x25, 2⟩]),
    (0xF3, [⟨0x213C, 0x20, 2⟩, ⟨0x0, 0x24, 2⟩]), (0xF4, [⟨0x213C, 0x20, 2⟩, ⟨0x0, 0x27, 2⟩]),
    (0xF5, [⟨0x213C, 0x20, 2⟩, ⟨0x0, 0x2D, 2⟩]), (0xF6, [⟨0x213C, 0x20, 2⟩, ⟨0x0, 0x2B, 2⟩]),
    (0xF8, [⟨0x213C, 0x20, 2⟩, ⟨0x0, 0x2F, 2⟩]), (0xF9, [⟨0x2217, 0x20, 2⟩, ⟨0x0, 0x25, 2⟩]),
    (0xFA, [⟨0x2217, 0x20, 2⟩, ⟨0x0, 0x24, 2⟩]), (0xFB, [⟨0x2217, 0x20, 2⟩, ⟨0x0, 0x27, 2⟩]),
    (0xFC, [⟨0x2217, 0x20, 2⟩, ⟨0x0, 0x2B, 2⟩]), (0xFD, [⟨0x2270, 0x20, 2⟩, ⟨0x0, 0x24, 2⟩]),
    (0xFE, [⟨0x22B5, 0x20, 2⟩]), (0xFF, [⟨0x2270, 0x20, 2⟩, ⟨0x0, 0x2B, 2⟩]),
    (0x100, [⟨0x1FA2, 0x20, 8⟩, ⟨0x0, 0x32, 2⟩]), (0x101, [⟨0x1FA2, 0x20, 2⟩, ⟨0x0, 0x32, 2⟩]),
    (0x102, [⟨0x1FA2, 0x20, 8⟩, ⟨0x0, 0x26, 2⟩]), (0x103, [⟨0x1FA2, 0x20, 2⟩, ⟨0x0, 0x26, 2⟩]),
    (0x104, [⟨0x1FA2, 0x20, 8⟩, ⟨0x0, 0x31, 2⟩]), (0x105, [⟨0x1FA2, 0x20, 2⟩, ⟨0x0, 0x31, 2⟩]),
    (0x106, [⟨0x1FD6, 0x20, 8⟩, ⟨0x0, 0x24, 2⟩]), (0x107, [⟨0x1FD6, 0x20, 2⟩, ⟨0x0, 0x24, 2⟩]),
    (0x108, [⟨0x1FD6, 0x20, 8⟩, ⟨0x0, 0x27, 2⟩]), (0x109, [⟨0x1FD6, 0x20, 2⟩, ⟨0x0, 0x27, 2⟩]),
    (0x10A, [⟨0x1FD6, 0x20, 8⟩, ⟨0x0, 0x2E, 2⟩]), (0x10B, [⟨0x1FD6, 0x20, 2⟩, ⟨0x0, 0x2E, 2⟩]),
    (0x10C, [⟨0x1FD6, 0x20, 8⟩, ⟨0x0, 0x28, 2⟩]), (0x10D, [⟨0x1FD6, 0x20, 2⟩, ⟨0x0, 0x28, 2⟩]),
    (0x10E, [⟨0x1FEB, 0x20, 8⟩, ⟨0x0, 0x28, 2⟩]), (0x10F, [⟨0x1FEB, 0x20, 2⟩, ⟨0x0, 0x28, 2⟩]),
    (0x110, [⟨0x1FEB, 0x20, 8⟩, ⟨0x0, 0x39, 2⟩]), (0x111, [⟨0x1FEB, 0x20, 2⟩, ⟨0x0, 0x39, 2⟩]),
    (0x112, [⟨0x2007, 0x20, 8⟩, ⟨0x0, 0x32, 2⟩]), (0x113, [⟨0x2007, 0x20, 2⟩, ⟨0x0, 0x32, 2⟩]),
    (0x114, [⟨0x2007, 0x20, 8⟩, ⟨0x0, 0x26, 2⟩]), (0x115, [⟨0x2007, 0x20, 2⟩, ⟨0x0, 0x26, 2⟩]),
    (0x116, [⟨0x2007, 0x20, 8⟩, ⟨0x0, 0x2E, 2⟩]), (0x117, [⟨0x2007, 0x20, 2⟩, ⟨0x0, 0x2E, 2⟩]),
    (0x118, [⟨0x2007, 0x20, 8⟩, ⟨0x0, 0x31, 2⟩]), (0x119, [⟨0x2007, 0x20, 2⟩, ⟨0x0, 0x31, 2⟩]),
    (0x11A, [⟨0x2007, 0x20, 8⟩, ⟨0x0, 0x28, 2⟩]), (0x11B, [⟨0x2007, 0x20, 2⟩, ⟨0x0, 0x28, 2⟩]),
    (0x11C, [⟨0x2051, 0x20, 8⟩, ⟨0x0, 0x27, 2⟩]), (0x11D, [⟨0x2051, 0x20, 2⟩, ⟨0x0, 0x27, 2⟩]),
    (0x11E, [⟨0x2051, 0x20, 8⟩, ⟨0x0, 0x26, 2⟩]), (0x11F, [⟨0x2051, 0x20, 2⟩, ⟨0x0, 0x26, 2⟩]),
    (0x120, [⟨0x2051, 0x20, 8⟩, ⟨0x0, 0x2E, 2⟩]), (0x121, [⟨0x2051, 0x20, 2⟩, ⟨0x0, 0x2E, 2⟩]),
    (0x122, [⟨0x2051, 0x20, 8⟩, ⟨0x0, 0x30, 2⟩]), (0x123, [⟨0x2051, 0x20, 2⟩, ⟨0x0, 0x30, 2⟩]),
    (0x124, [⟨0x2075, 0x20, 8⟩, ⟨0x0, 0x27, 2⟩]), (0x125, [⟨0x2075, 0x20, 2⟩, ⟨0x0, 0x27, 2⟩]),
    (0x126, [⟨0x2075, 0x20, 8⟩, ⟨0x0, 0x39, 2⟩]), (0x127, [⟨0x2075, 0x20, 2⟩, ⟨0x0, 0x39, 2⟩]),
    (0x128, [⟨0x2090, 0x20, 8⟩, ⟨0x0, 0x2D, 2⟩]), (0x129, [⟨0x2090, 0x20, 2⟩, ⟨0x0, 0x2D, 2⟩]),
    (0x12A, [⟨0x2090, 0x20, 8⟩, ⟨0x0, 0x32, 2⟩]), (0x12B, [⟨0x2090, 0x20, 2⟩, ⟨0x0, 0x32, 2⟩]),
    (0x12C, [⟨0x2090, 0x20, 8⟩, ⟨0x0, 0x26, 2⟩]), (0x12D, [⟨0x2090, 0x20, 2⟩, ⟨0x0, 0x26, 2⟩]),
    (0x12E, [⟨0x2090, 0x20, 8⟩, ⟨0x0, 0x31, 2⟩]), (0x12F, [⟨0x2090, 0x20, 2⟩, ⟨0x0, 0x31, 2⟩]),
    (0x130, [⟨0x2090, 0x20, 8⟩, ⟨0x0, 0x2E, 2⟩]), (0x131, [⟨0x2094, 0x20, 2⟩]),
    (0x132, [⟨0x2090, 0x20, 10⟩, ⟨0x20AB, 0x20, 10⟩]),
    (0x133, [⟨0x2090, 0x20, 4⟩, ⟨0x20AB, 0x20, 4⟩]), (0x134, [⟨0x20AB, 0x20, 8⟩, ⟨0x0, 0x27, 2⟩]),
    (0x135, [⟨0x20AB, 0x20, 2⟩, ⟨0x0, 0x27, 2⟩]), (0x136, [⟨0x20C4, 0x20, 8⟩, ⟨0x0, 0x30, 2⟩]),
    (0x137, [⟨0x20C4, 0x20, 2⟩, ⟨0x0, 0x30, 2⟩]), (0x138, [⟨0x218F, 0x20, 2⟩]),
    (0x139, [⟨0x20D6, 0x20, 8⟩, ⟨0x0, 0x24, 2⟩]), (0x13A, [⟨0x20D6, 0x20, 2⟩, ⟨0x0, 0x24, 2⟩]),
    (0x13B, [⟨0x20D6, 0x20, 8⟩, ⟨0x0, 0x30, 2⟩]), (0x13C, [⟨0x20D6, 0x20, 2⟩, ⟨0x0, 0x30, 2⟩]),
    (0x13D, [⟨0x20D6, 0x20, 8⟩, ⟨0x0, 0x28, 2⟩]), (0x13E, [⟨0x20D6, 0x20, 2⟩, ⟨0x0, 0x28, 2⟩]),
    (0x13F, [⟨0x20D6, 0x20, 8⟩, ⟨0x0, 0x118, 2⟩]), (0x140, [⟨0x20D6, 0x20, 2⟩, ⟨0x0, 0x118, 2⟩]),
    (0x141, [⟨0x20D6, 0x20, 8⟩, ⟨0x0, 0x39, 2⟩]), (0x142, [⟨0x20D6, 0x20, 2⟩, ⟨0x0, 0x39, 2⟩]),
    (0x143, [⟨0x2118, 0x20, 8⟩, ⟨0x0, 0x24, 2⟩]), (0x144, [⟨0x2118, 0x20, 2⟩, ⟨0x0, 0x24, 2⟩]),
    (0x145, [⟨0x2118, 0x20, 8⟩, ⟨0x0, 0x30, 2⟩]), (0x146, [⟨0x2118, 0x20, 2⟩, ⟨0x0, 0x30, 2⟩]),
    (0x147, [⟨0x2118, 0x20, 8⟩, ⟨0x0, 0x28, 2⟩]), (0x148, [⟨0x2118, 0x20, 2⟩, ⟨0x0, 0x28, 2⟩]),
    (0x149, [⟨0x22E3, 0x20, 4⟩, ⟨0x2118, 0x20, 4⟩]), (0x14A, [⟨0x2137, 0x20, 8⟩]),
    (0x14B, [⟨0x2137, 0x20, 2⟩]), (0x14C, [⟨0x213C, 0x20, 8⟩, ⟨0x0, 0x32, 2⟩]),
    (0x14D, [⟨0x213C, 0x20, 2⟩, ⟨0x0, 0x32, 2⟩]), (0x14E, [⟨0x213C, 0x20, 8⟩, ⟨0x0, 0x26, 2⟩]),
    (0x14F, [⟨0x213C, 0x20, 2⟩, ⟨0x0, 0x26, 2⟩]), (0x150, [⟨0x213C, 0x20, 8⟩, ⟨0x0, 0x2C, 2⟩]),
    (0x151, [⟨0x213C, 0x20, 2⟩, ⟨0x0, 0x2C, 2⟩]),
    (0x152, [⟨0x213C, 0x20, 10⟩, ⟨0x0, 0x118, 4⟩, ⟨0x2007, 0x20, 10⟩]),
    (0x153, [⟨0x213C, 0x20, 4⟩, ⟨0x0, 0x118, 4⟩, ⟨0x2007, 0x20, 4⟩]),
    (0x154, [⟨0x2193, 0x20, 8⟩, ⟨0x0, 0x24, 2⟩]), (0x155, [⟨0x2193, 0x20, 2⟩, ⟨0x0, 0x24, 2⟩]),
    (0x156, [⟨0x2193, 0x20, 8⟩, ⟨0x0, 0x30, 2⟩]), (0x157, [⟨0x2193, 0x20, 2⟩, ⟨0x0, 0x30, 2⟩]),
    (0x158, [⟨0x2193, 0x20, 8⟩, ⟨0x0, 0x28, 2⟩]), (0x159, [⟨0x2193, 0x20, 2⟩, ⟨0x0, 0x28, 2⟩]),
    (0x15A, [⟨0x21D2, 0x20, 8⟩, ⟨0x0, 0x24, 2⟩]), (0x15B, [⟨0x21D2, 0x20, 2⟩, ⟨0x0, 0x24, 2⟩]),
    (0x15C, [⟨0x21D2, 0x20, 8⟩, ⟨0x0, 0x27, 2⟩]), (0x15D, [⟨0x21D2, 0x20, 2⟩, ⟨0x0, 0x27, 2⟩]),
    (0x15E, [⟨0x21D2, 0x20, 8⟩, ⟨0x0, 0x30, 2⟩]), (0x15F, [⟨0x21D2, 0x20, 2⟩, ⟨0x0, 0x30, 2⟩]),
    (0x160, [⟨0x21D2, 0x20, 8⟩, ⟨0x0, 0x28, 2⟩]), (0x161, [⟨0x21D2, 0x20, 2⟩, ⟨0x0, 0x28, 2⟩]),
    (0x162, [⟨0x21F7, 0x20, 8⟩, ⟨0x0, 0x30, 2⟩]), (0x163, [⟨0x21F7, 0x20, 2⟩, ⟨0x0, 0x30, 2⟩]),
    (0x164, [⟨0x21F7, 0x20, 8⟩, ⟨0x0, 0x28, 2⟩]), (0x165, [⟨0x21F7, 0x20, 2⟩, ⟨0x0, 0x28, 2⟩]),
    (0x166, [⟨0x21FC, 0x20, 8⟩]), (0x167, [⟨0x21FC, 0x20, 2⟩]),
    (0x168, [⟨0x2217, 0x20, 8⟩, ⟨0x0, 0x2D, 2⟩]), (0x169, [⟨0x2217, 0x20, 2⟩, ⟨0x0, 0x2D, 2⟩]),
    (0x16A, [⟨0x2217, 0x20, 8⟩, ⟨0x0, 0x32, 2⟩]), (0x16B, [⟨0x2217, 0x20, 2⟩, ⟨0x0, 0x32, 2⟩]),
    (0x16C, [⟨0x2217, 0x20, 8⟩, ⟨0x0, 0x26, 2⟩]), (0x16D, [⟨0x2217, 0x20, 2⟩, ⟨0x0, 0x26, 2⟩]),
    (0x16E, [⟨0x2217, 0x20, 8⟩, ⟨0x0, 0x29, 2⟩]), (0x16F, [⟨0x2217, 0x20, 2⟩, ⟨0x0, 0x29, 2⟩]),
    (0x170, [⟨0x2217, 0x20, 8⟩, ⟨0x0, 0x2C, 2⟩]), (0x171, [⟨0x2217, 0x20, 2⟩, ⟨0x0, 0x2C, 2⟩]),
    (0x172, [⟨0x2217, 0x20, 8⟩, ⟨0x0, 0x31, 2⟩]), (0x173, [⟨0x2217, 0x20, 2⟩, ⟨0x0, 0x31, 2⟩]),
    (0x174, [⟨0x2259, 0x20, 8⟩, ⟨0x0, 0x27, 2⟩]), (0x175, [⟨0x2259, 0x20, 2⟩, ⟨0x0, 0x27, 2⟩]),
    (0x176, [⟨0x2270, 0x20, 8⟩, ⟨0x0, 0x27, 2⟩]), (0x177, [⟨0x2270, 0x20, 2⟩, ⟨0x0, 0x27, 2⟩]),
    (0x178, [⟨0x2270, 0x20, 8⟩, ⟨0x0, 0x2B, 2⟩]), (0x179, [⟨0x2286, 0x20, 8⟩, ⟨0x0, 0x24, 2⟩]),
    (0x17A, [⟨0x2286, 0x20, 2⟩, ⟨0x0, 0x24, 2⟩]), (0x17B, [⟨0x2286, 0x20, 8⟩, ⟨0x0, 0x2E, 2⟩]),
    (0x17C, [⟨0x2286, 0x20, 2⟩, ⟨0x0, 0x2E, 2⟩]), (0x17D, [⟨0x2286, 0x20, 8⟩, ⟨0x0, 0x28, 2⟩]),
    (0x17E, [⟨0x2286, 0x20, 2⟩, ⟨0x0, 0x28, 2⟩]), (0x17F, [⟨0x21D2, 0x20, 4⟩, ⟨0x0, 0x119, 4⟩]),
    (0x300, [⟨0x0, 0x25, 2⟩]), (0x301, [⟨0x0, 0x24, 2⟩]), (0x302, [⟨0x0, 0x27, 2⟩]),
    (0x303, [⟨0x0, 0x2D, 2⟩]), (0x304, [⟨0x0, 0x32, 2⟩]), (0x305, [⟨0x0, 0x3A, 2⟩]),
    (0x306, [⟨0x0, 0x26, 2⟩]), (0x307, [⟨0x0, 0x2E, 2⟩]), (0x308, [⟨0x0, 0x2B, 2⟩]),
    (0x309, [⟨0x0, 0x3B, 2⟩]), (0x30A, [⟨0x0, 0x29, 2⟩]), (0x30B, [⟨0x0, 0x2C, 2⟩]),
    (0x30C, [⟨0x0, 0x28, 2⟩]), (0x30D, [⟨0x0, 0x33, 2⟩]), (0x30E, [⟨0x0, 0x33, 2⟩]),
    (0x30F, [⟨0x0, 0x3C, 2⟩]), (0x310, [⟨0x0, 0x3D, 2⟩]), (0x311, [⟨0x0, 0x3E, 2⟩]),
    (0x312, [⟨0x0, 0x33, 2⟩]), (0x313, [⟨0x0, 0x22, 2⟩]), (0x314, [⟨0x0, 0x23, 2⟩])]

end UnitResolution.Text
