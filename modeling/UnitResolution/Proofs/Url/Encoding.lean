import UnitResolution.Proofs.Identifier.Scheme
import UnitResolution.Proofs.Url.Written

/-!
# Encoding and decoding

A text whose percent signs are encoded, whatever else is, is decoded to the bytes of the text
(`UnitResolution.Url.decodeStrict?_encode`). Reading a path encodes a second time, but no percent
signs, and so it does not change what the path is decoded to
(`UnitResolution.Url.decodeStrict?_encode_again`).

A segment stands for a piece of a path if it is decoded to the bytes of the piece
(`UnitResolution.Url.Stands`). The dots are what stands for dots, and a URL whose segments stand for
pieces without slashes names the path of these pieces
(`UnitResolution.Url.FileUrl.filePath?_of_stands`).
-/

namespace UnitResolution

open Text

/-- A byte of ASCII among those that spell a text is a character of the text. -/
theorem Text.Utf8.Spells.exists_of_byte {bytes : List UInt8} {s : List Char}
    (spells : Spells bytes s) {b : UInt8} (low : b.toNat < 0x80) (member : b ∈ bytes) :
    Char.ofNat b.toNat ∈ s := by
  induction spells with
  | nil => cases member
  | ascii _ rest ih =>
      rcases List.mem_cons.mp member with rfl | member
      · exact List.mem_cons_self
      · exact List.mem_cons_of_mem _ (ih member)
  | wide nonempty short high beyond rest ih =>
      rcases List.mem_append.mp member with inside | member
      · exact absurd (high b inside) (by omega)
      · exact List.mem_cons_of_mem _ (ih member)

theorem Text.Utf8.spells_encode (s : List Char) : Spells (encode s) s :=
  spells_of_decode? (decode?_encode s)

theorem Text.Utf8.encode_injective : Function.Injective encode := fun s t same => by
  have read := decode?_encode s
  rw [same, decode?_encode t] at read
  exact (Option.some.inj read).symm

namespace Url

/-! ## Bytes and characters -/

theorem hexValue?_hexDigit : ∀ n < 16, hexValue? (hexDigit n) = some n := by decide

theorem byteOf?_hexDigit (b : UInt8) :
    byteOf? (hexDigit (b.toNat / 16)) (hexDigit (b.toNat % 16)) = some b := by
  have top := b.toNat_lt
  unfold byteOf?
  rw [hexValue?_hexDigit _ (by omega), hexValue?_hexDigit _ (Nat.mod_lt _ (by decide))]
  simp only [Nat.div_add_mod', UInt8.ofNat_toNat]

theorem decodeStrict?_encodeByte (b : UInt8) (s : List Char) :
    decodeStrict? (encodeByte b ++ s) = (decodeStrict? s).map (b :: ·) := by
  unfold encodeByte
  rw [List.cons_append, List.cons_append, List.cons_append, List.nil_append,
    decodeStrict?_escape, byteOf?_hexDigit, Option.bind_some]

theorem decodeStrict?_encodeChar (c : Char) (s : List Char) :
    decodeStrict? (encodeChar c ++ s) = (decodeStrict? s).map (Utf8.encodeChar c ++ ·) := by
  unfold encodeChar
  induction Utf8.encodeChar c with
  | nil => simp
  | cons b more ih =>
      rw [List.flatMap_cons, List.append_assoc, decodeStrict?_encodeByte, ih, Option.map_map]
      rfl

/-! ## Texts -/

section Texts

variable {set : Char → Bool} {s : List Char} {bytes : List UInt8}

theorem encode_cons (set : Char → Bool) (c : Char) (s : List Char) :
    encode set (c :: s) = (if set c then encodeChar c else [c]) ++ encode set s :=
  List.flatMap_cons

theorem encode_append (set : Char → Bool) (s t : List Char) :
    encode set (s ++ t) = encode set s ++ encode set t :=
  List.flatMap_append

/-- A text whose percent signs are encoded is decoded to its own bytes. -/
theorem decodeStrict?_encode (percent : set '%') (s : List Char) :
    decodeStrict? (encode set s) = some (Utf8.encode s) := by
  induction s with
  | nil => rfl
  | cons c rest ih =>
      have bytes : Utf8.encode (c :: rest) = Utf8.encodeChar c ++ Utf8.encode rest :=
        List.flatMap_cons
      rw [encode_cons, bytes]
      split
      · rw [decodeStrict?_encodeChar, ih, Option.map_some]
      · next kept =>
          have plain : c ≠ '%' := by
            rintro rfl
            exact kept percent
          rw [List.singleton_append, decodeStrict?_cons plain, ih, Option.map_some]

theorem decodeStrict?_append (read : decodeStrict? s = some bytes) (t : List Char) :
    decodeStrict? (s ++ t) = (decodeStrict? t).map (bytes ++ ·) := by
  fun_induction decodeStrict? s generalizing bytes with
  | case1 =>
      cases read
      simp
  | case2 high low rest b more read' value ih =>
      cases read
      rw [List.cons_append, List.cons_append, List.cons_append, decodeStrict?_escape, value,
        ih read', Option.bind_some, Option.map_map]
      rfl
  | case3 => cases read
  | case4 => cases read
  | case5 c rest plain plain' ih =>
      obtain ⟨more, further, rfl⟩ := Option.map_eq_some_iff.mp read
      rw [List.cons_append, decodeStrict?_cons plain', ih further, Option.map_map]
      congr 1
      funext back
      exact (List.append_assoc _ _ _).symm

/-- Where neither percent signs nor hexadecimal digits are encoded, escapes stay what they are. -/
theorem decodeStrict?_encode_again (percent : set '%' = false)
    (digits : ∀ c n, hexValue? c = some n → set c = false) (read : decodeStrict? s = some bytes) :
    decodeStrict? (encode set s) = some bytes := by
  fun_induction decodeStrict? s generalizing bytes with
  | case1 => exact read
  | case2 high low rest b more read' value ih =>
      cases read
      obtain ⟨h, l, first, second, _⟩ := byteOf?_eq_some value
      rw [encode_cons, encode_cons, encode_cons, percent, digits high h first,
        digits low l second]
      simp only [Bool.false_eq_true, if_false, List.singleton_append]
      rw [decodeStrict?_escape, value, ih read', Option.bind_some, Option.map_some]
  | case3 => cases read
  | case4 => cases read
  | case5 c rest plain plain' ih =>
      obtain ⟨more, further, rfl⟩ := Option.map_eq_some_iff.mp read
      rw [encode_cons]
      split
      · rw [decodeStrict?_encodeChar, ih further, Option.map_some]
      · rw [List.singleton_append, decodeStrict?_cons plain', ih further, Option.map_some]

end Texts

theorem isPathSet_of_hexValue {c : Char} {n : Nat} (value : hexValue? c = some n) :
    isPathSet c = false := by
  have small := hexValue?_eq_some value
  have digit := forall_ascii (P := fun c => (hexValue? c).isSome → isPathSet c = false)
    (by decide) (c := c) (by omega)
  exact digit (by rw [value]; rfl)

/-! ## Slashes -/

namespace FileUrl

theorem holdsEncodedSlash_cons_of_ne {c : Char} (plain : c ≠ '%') (s : List Char) :
    holdsEncodedSlash (c :: s) = holdsEncodedSlash s := by
  rw [holdsEncodedSlash]
  rintro _ _ rfl
  exact absurd rfl plain

theorem holdsEncodedSlash_percent {c : Char} (other : c ≠ '2') (s : List Char) :
    holdsEncodedSlash ('%' :: c :: s) = holdsEncodedSlash (c :: s) := by
  rw [holdsEncodedSlash]
  rintro _ _ _ same
  exact other (List.cons.inj same).1

theorem holdsEncodedSlash_two (c : Char) (s : List Char) :
    holdsEncodedSlash ('%' :: '2' :: c :: s) =
      (c == 'f' || c == 'F' || holdsEncodedSlash ('2' :: c :: s)) := by
  rw [holdsEncodedSlash]

/-- An encoded slash lies on one side of a slash. -/
theorem holdsEncodedSlash_append_slash (s t : List Char) :
    holdsEncodedSlash (s ++ '/' :: t) = (holdsEncodedSlash s || holdsEncodedSlash t) := by
  fun_induction holdsEncodedSlash s with
  | case1 c rest ih =>
      rw [List.cons_append, List.cons_append] at ih
      rw [List.cons_append, List.cons_append, List.cons_append, holdsEncodedSlash_two, ih]
      simp only [Bool.or_assoc]
  | case2 c rest other ih =>
      rw [List.cons_append, ← ih]
      by_cases percent : c = '%'
      · subst percent
        -- the slash is none of the characters of an encoded one, so no further one comes about
        obtain _ | ⟨high, _ | ⟨low, rest⟩⟩ := rest
        · exact holdsEncodedSlash_percent (by decide) t
        · by_cases two : high = '2'
          · subst two
            exact holdsEncodedSlash_two '/' t
          · exact holdsEncodedSlash_percent two _
        · exact holdsEncodedSlash_percent (fun two => other low rest rfl (two ▸ rfl)) _
      · exact holdsEncodedSlash_cons_of_ne percent _
  | case3 => exact holdsEncodedSlash_cons_of_ne (by decide) t

/-- Of a text that can be decoded, an encoded slash is decoded to a slash. -/
theorem slash_of_holdsEncodedSlash {s : List Char} {bytes : List UInt8}
    (read : decodeStrict? s = some bytes) (holds : holdsEncodedSlash s) :
    ∃ b ∈ bytes, b.toNat = '/'.toNat := by
  fun_induction decodeStrict? s generalizing bytes with
  | case1 => cases holds
  | case2 high low rest b more read' value ih =>
      cases read
      obtain ⟨h, l, first, second, same⟩ := byteOf?_eq_some value
      have digit {c : Char} {n : Nat} (value : hexValue? c = some n) : c ≠ '%' := by
        rintro rfl
        cases value
      have behind (holds : holdsEncodedSlash (high :: low :: rest)) :
          ∃ d ∈ b :: more, d.toNat = '/'.toNat := by
        rw [holdsEncodedSlash_cons_of_ne (digit first),
          holdsEncodedSlash_cons_of_ne (digit second)] at holds
        obtain ⟨d, member, slash⟩ := ih read' holds
        exact ⟨d, List.mem_cons_of_mem _ member, slash⟩
      by_cases two : high = '2'
      · subst two
        rw [holdsEncodedSlash_two, Bool.or_eq_true, Bool.or_eq_true, beq_iff_eq,
          beq_iff_eq] at holds
        rcases holds with (rfl | rfl) | later
        · cases value
          exact ⟨_, List.mem_cons_self, rfl⟩
        · cases value
          exact ⟨_, List.mem_cons_self, rfl⟩
        · exact behind later
      · rw [holdsEncodedSlash_percent two] at holds
        exact behind holds
  | case3 => cases read
  | case4 => cases read
  | case5 c rest plain plain' ih =>
      obtain ⟨more, further, rfl⟩ := Option.map_eq_some_iff.mp read
      rw [holdsEncodedSlash_cons_of_ne plain'] at holds
      obtain ⟨d, member, slash⟩ := ih further holds
      exact ⟨d, List.mem_append_right _ member, slash⟩

theorem holdsEncodedSlash_pathText (path : List (List Char)) :
    holdsEncodedSlash (pathText path) = path.any holdsEncodedSlash := by
  induction path with
  | nil => rfl
  | cons segment rest ih =>
      rw [pathText_cons, holdsEncodedSlash_cons_of_ne (by decide), List.any_cons, ← ih]
      cases rest with
      | nil => simp [holdsEncodedSlash]
      | cons next more =>
          rw [pathText_cons, holdsEncodedSlash_append_slash,
            holdsEncodedSlash_cons_of_ne (by decide)]

end FileUrl

/-! ## Segments and pieces -/

open FileUrl

/-- A segment stands for a piece of a path: it is decoded to the bytes of the piece. -/
def Stands (segment piece : List Char) : Prop :=
  decodeStrict? segment = some (Utf8.encode piece)

instance (segment piece : List Char) : Decidable (Stands segment piece) :=
  inferInstanceAs (Decidable (_ = _))

section Stands

variable {segment piece other : List Char}

theorem Stands.decodes (stands : Stands segment piece) : Decodes segment piece :=
  ⟨_, stands, Utf8.spells_encode piece⟩

theorem Stands.unique (stands : Stands segment piece) (also : Stands segment other) :
    piece = other :=
  Utf8.encode_injective (Option.some.inj (stands.symm.trans also))

/-- A segment as reading leaves it stands for what the segment has stood for before. -/
theorem Stands.encode (stands : Stands segment piece) :
    Stands (encode isPathSet segment) piece :=
  decodeStrict?_encode_again (by decide) (fun _ _ => isPathSet_of_hexValue) stands

/-- The segment of a piece, with its percent signs encoded, and read. -/
theorem stands_encode {set : Char → Bool} (percent : set '%') (piece : List Char) :
    Stands (Url.encode isPathSet (Url.encode set piece)) piece :=
  Stands.encode (decodeStrict?_encode percent piece)

theorem stands_nil : Stands [] [] := rfl

/-- A text without percent signs stands for itself. -/
theorem stands_self (plain : '%' ∉ piece) : Stands piece piece := by
  induction piece with
  | nil => exact stands_nil
  | cons c rest ih =>
      rw [List.mem_cons, not_or] at plain
      unfold Stands at ih ⊢
      rw [decodeStrict?_cons (Ne.symm plain.1), ih plain.2]
      rfl

theorem Stands.not_holdsEncodedSlash (stands : Stands segment piece) (slashless : '/' ∉ piece) :
    holdsEncodedSlash segment = false := by
  rw [Bool.eq_false_iff]
  intro holds
  obtain ⟨b, member, slash⟩ := slash_of_holdsEncodedSlash stands holds
  have low : b.toNat < 0x80 := by
    rw [slash]
    decide
  have inside := (Utf8.spells_encode piece).exists_of_byte low member
  rw [slash] at inside
  exact slashless inside

end Stands

/-! ## Dots -/

section Dots

variable {segment rest : List Char}

/-- A dot or an encoded one, in either case. -/
theorem dot_of_lower {dot : List Char} (ascii : ∀ c ∈ segment, c.toNat < 0x80)
    (form : dot = ['.'] ∨ dot = ['%', '2', 'e'])
    (lower : segment.map Char.toLower = dot ++ rest) :
    ∃ front back, segment = front ++ back ∧ Stands front ['.'] ∧
      back.map Char.toLower = rest := by
  have letter {c : Char} (inside : c ∈ segment) :=
    forall_ascii (P := fun c => (c.toLower = '.' → c = '.') ∧ (c.toLower = '%' → c = '%') ∧
      (c.toLower = '2' → c = '2') ∧ (c.toLower = 'e' → c = 'e' ∨ c = 'E'))
      (by decide) (ascii c inside)
  rcases form with rfl | rfl
  · obtain ⟨c, back, rfl, first, behind⟩ := List.map_eq_cons_iff.mp lower
    cases (letter List.mem_cons_self).1 first
    exact ⟨['.'], back, rfl, rfl, behind⟩
  · obtain ⟨c, _, rfl, first, more⟩ := List.map_eq_cons_iff.mp lower
    obtain ⟨d, _, rfl, second, last⟩ := List.map_eq_cons_iff.mp more
    obtain ⟨e, back, rfl, third, behind⟩ := List.map_eq_cons_iff.mp last
    cases (letter List.mem_cons_self).2.1 first
    cases (letter (List.mem_cons_of_mem _ List.mem_cons_self)).2.2.1 second
    refine ⟨['%', '2', e], back, rfl, ?_, behind⟩
    rcases (letter (by simp : e ∈ _)).2.2.2 third with rfl | rfl <;> rfl

/-- A segment that stands for its own directory stands for a dot. -/
theorem stands_of_isSingleDot (ascii : ∀ c ∈ segment, c.toNat < 0x80)
    (dots : isSingleDot segment) : Stands segment ['.'] := by
  simp only [isSingleDot, Bool.or_eq_true, beq_iff_eq] at dots
  rcases dots with rfl | lower
  · rfl
  · obtain ⟨front, back, rfl, stands, nothing⟩ := dot_of_lower ascii (.inr rfl) lower
    cases List.map_eq_nil_iff.mp nothing
    rwa [List.append_nil]

/-- A segment that stands for the directory above stands for two dots. -/
theorem stands_of_isDoubleDot (ascii : ∀ c ∈ segment, c.toNat < 0x80)
    (dots : isDoubleDot segment) : Stands segment Path.up := by
  have forms : ∃ first second : List Char, (first = ['.'] ∨ first = ['%', '2', 'e']) ∧
      (second = ['.'] ∨ second = ['%', '2', 'e']) ∧
      segment.map Char.toLower = first ++ (second ++ []) := by
    simp only [isDoubleDot, List.any_cons, List.any_nil, Bool.or_eq_true, beq_iff_eq,
      Bool.false_eq_true, or_false] at dots
    rcases dots with lower | lower | lower | lower
    · exact ⟨['.'], ['.'], .inl rfl, .inl rfl, lower⟩
    · exact ⟨['.'], ['%', '2', 'e'], .inl rfl, .inr rfl, lower⟩
    · exact ⟨['%', '2', 'e'], ['.'], .inr rfl, .inl rfl, lower⟩
    · exact ⟨['%', '2', 'e'], ['%', '2', 'e'], .inr rfl, .inr rfl, lower⟩
  obtain ⟨first, second, one, two, lower⟩ := forms
  obtain ⟨front, back, rfl, stands, behind⟩ := dot_of_lower ascii one lower
  obtain ⟨inside, others⟩ := List.forall_mem_append.mp ascii
  obtain ⟨next, nothing, rfl, also, empty⟩ := dot_of_lower others two behind
  cases List.map_eq_nil_iff.mp empty
  unfold Stands at stands also ⊢
  rw [List.append_nil, decodeStrict?_append stands, also]
  rfl

end Dots

/-! ## Paths -/

section Paths

variable {path pieces : List (List Char)}

theorem stands_pathText (stands : List.Forall₂ Stands path pieces) :
    Stands (pathText path) (pathText pieces) := by
  induction stands with
  | nil => exact stands_nil
  | @cons segment piece path pieces first rest ih =>
      have bytes : Utf8.encode (pathText (piece :: pieces)) =
          Utf8.encodeChar '/' ++ (Utf8.encode piece ++ Utf8.encode (pathText pieces)) := by
        rw [pathText_cons]
        unfold Utf8.encode
        rw [List.flatMap_cons, List.flatMap_append]
      unfold Stands at first ih ⊢
      rw [bytes, pathText_cons, decodeStrict?_cons (by decide), decodeStrict?_append first, ih]
      rfl

theorem not_holdsEncodedSlash_of_stands (stands : List.Forall₂ Stands path pieces)
    (slashless : ∀ piece ∈ pieces, '/' ∉ piece) : holdsEncodedSlash (pathText path) = false := by
  rw [holdsEncodedSlash_pathText]
  induction stands with
  | nil => rfl
  | cons first rest ih =>
      obtain ⟨plain, others⟩ := List.forall_mem_cons.mp slashless
      rw [List.any_cons, first.not_holdsEncodedSlash plain, ih others]
      rfl

/-- A URL of this machine whose segments stand for pieces names the path of the pieces. -/
theorem FileUrl.filePath?_of_stands {u : FileUrl} (here : u.host = [])
    (stands : List.Forall₂ Stands u.path pieces) (slashless : ∀ piece ∈ pieces, '/' ∉ piece) :
    u.filePath? = some (pathText pieces) := by
  have decoded : decode? (pathText u.path) = some (pathText pieces) := by
    have whole := stands_pathText stands
    unfold Stands at whole
    unfold decode?
    rw [whole, Option.bind_some, Utf8.decode?_encode]
  unfold filePath?
  rw [here, not_holdsEncodedSlash_of_stands stands slashless, decoded]
  rfl

end Paths

end Url

theorem Url.FileUrl.claimed_href (u : FileUrl) :
    Identifier.fileScheme.toList.isPrefixOf (lowerCase u.href) := by
  rw [href_eq, List.append_assoc, List.append_assoc, lowerCase_append]
  rfl

/-- The identifier of a URL of this machine names what the URL names. -/
theorem Identifier.filePath?_href {u : Url.FileUrl} (here : u.host = []) (nonempty : u.path ≠ [])
    (inside : ∀ segment ∈ u.path, Url.FileUrl.IsSegment segment)
    (normal : Url.FileUrl.StartsNormal u.path) :
    filePath? (String.ofList u.href) = u.filePath?.map String.ofList := by
  obtain ⟨w, read, host, path⟩ := Url.FileUrl.parse_href here nonempty inside normal
  have same : w.filePath? = u.filePath? := by
    unfold Url.FileUrl.filePath?
    rw [host, path, here]
  unfold filePath? pathOfFile?
  rw [String.toList_ofList, if_pos u.claimed_href, read, Option.bind_some, same]

end UnitResolution
