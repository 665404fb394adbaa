import UnitResolution.Proofs.Text.Utf8
import UnitResolution.Url.File
import Mathlib.Data.List.Forall2

/-!
# Decoding paths

The path of a URL is decoded segment by segment (`UnitResolution.Url.decodes_segments`): no encoded
byte reaches beyond a slash, and no slash comes from an encoded byte where those are refused. A
segment that is decoded to one or two dots stands for a directory itself, and a segment is at most
twelve times as long as what it is decoded to.
-/

namespace UnitResolution.Url

open Text

/-- A segment is decoded to a piece of a path. -/
def Decodes (segment piece : List Char) : Prop :=
  ∃ bytes, decodeStrict? segment = some bytes ∧ Utf8.Spells bytes piece

theorem decodeStrict?_cons {c : Char} (plain : c ≠ '%') (s : List Char) :
    decodeStrict? (c :: s) = (decodeStrict? s).map (Utf8.encodeChar c ++ ·) := by
  rw [decodeStrict?]
  · rintro _ _ _ rfl
    exact absurd rfl plain
  · rintro rfl
    exact absurd rfl plain

theorem decodeStrict?_escape (high low : Char) (s : List Char) :
    decodeStrict? ('%' :: high :: low :: s) = (byteOf? high low).bind fun b =>
      (decodeStrict? s).map (b :: ·) := by
  rw [decodeStrict?]
  cases byteOf? high low <;> cases decodeStrict? s <;> rfl

theorem hexValue?_eq_some {c : Char} {n : Nat} (value : hexValue? c = some n) :
    c.toNat = 48 + n ∧ n < 10 ∨ c.toNat = 87 + n ∧ 10 ≤ n ∧ n < 16 ∨
      c.toNat = 55 + n ∧ 10 ≤ n ∧ n < 16 := by
  unfold hexValue? at value
  simp only [Char.isDigit, Bool.and_eq_true, decide_eq_true_eq, Char.le_def, UInt32.le_iff_toNat_le,
    ge_iff_le] at value
  change (if 48 ≤ c.toNat ∧ c.toNat ≤ 57 then some (c.toNat - 48) else
    if 97 ≤ c.toNat ∧ c.toNat ≤ 102 then some (c.toNat - 97 + 10) else
      if 65 ≤ c.toNat ∧ c.toNat ≤ 70 then some (c.toNat - 65 + 10) else none) = some n at value
  split at value
  · cases value
    omega
  · split at value
    · cases value
      omega
    · split at value
      · cases value
        omega
      · cases value

theorem byteOf?_eq_some {high low : Char} {b : UInt8} (value : byteOf? high low = some b) :
    ∃ h l, hexValue? high = some h ∧ hexValue? low = some l ∧ b.toNat = h * 16 + l := by
  unfold byteOf? at value
  split at value
  · next h l found found' =>
      cases value
      refine ⟨h, l, found, found', ?_⟩
      have first := hexValue?_eq_some found
      have second := hexValue?_eq_some found'
      rw [UInt8.toNat_ofNat']
      omega
  · cases value

/-- The escapes of a byte of ASCII that stands for a mark. -/
theorem escape_of_byte {high low : Char} {b : UInt8} (value : byteOf? high low = some b) :
    (b.toNat = '.'.toNat → high = '2' ∧ (low = 'e' ∨ low = 'E')) ∧
      (b.toNat = '/'.toNat → high = '2' ∧ (low = 'f' ∨ low = 'F')) := by
  obtain ⟨h, l, found, found', same⟩ := byteOf?_eq_some value
  have first := hexValue?_eq_some found
  have second := hexValue?_eq_some found'
  refine ⟨fun dot => ?_, fun slash => ?_⟩
  · change b.toNat = 46 at dot
    have h2 : h = 2 := by omega
    have l14 : l = 14 := by omega
    refine ⟨Char.toNat_inj.mp (show high.toNat = 50 by omega), ?_⟩
    rcases second with second | second | second
    · omega
    · exact .inl (Char.toNat_inj.mp (show low.toNat = 101 by omega))
    · exact .inr (Char.toNat_inj.mp (show low.toNat = 69 by omega))
  · change b.toNat = 47 at slash
    have h2 : h = 2 := by omega
    have l15 : l = 15 := by omega
    refine ⟨Char.toNat_inj.mp (show high.toNat = 50 by omega), ?_⟩
    rcases second with second | second | second
    · omega
    · exact .inl (Char.toNat_inj.mp (show low.toNat = 102 by omega))
    · exact .inr (Char.toNat_inj.mp (show low.toNat = 70 by omega))

theorem byteOf?_slash (c : Char) : byteOf? '/' c = none ∧ byteOf? c '/' = none := by
  have none : hexValue? '/' = none := by decide
  constructor
  · simp [byteOf?, none]
  · unfold byteOf?
    rw [none]
    cases hexValue? c <;> rfl

theorem length_le_of_decodeStrict? {s : List Char} {bytes : List UInt8}
    (read : decodeStrict? s = some bytes) : s.length ≤ 3 * bytes.length := by
  fun_induction decodeStrict? s generalizing bytes with
  | case1 => exact Nat.zero_le _
  | case2 high low rest b more read' value ih =>
      cases read
      have := ih read'
      simp only [List.length_cons]
      omega
  | case3 => cases read
  | case4 => cases read
  | case5 c rest plain plain' ih =>
      obtain ⟨more, further, rfl⟩ := Option.map_eq_some_iff.mp read
      have := ih further
      have := List.length_pos_iff.mpr (Utf8.encodeChar_ne_nil c)
      simp only [List.length_cons, List.length_append]
      omega

/-- No escape reaches beyond a slash. -/
theorem decodeStrict?_slash {s t : List Char} {bytes : List UInt8}
    (read : decodeStrict? (s ++ '/' :: t) = some bytes) :
    ∃ front back, decodeStrict? s = some front ∧ decodeStrict? t = some back ∧
      bytes = front ++ 0x2F :: back := by
  -- an escape passes over three characters at once, so the induction is on the length
  induction size : s.length using Nat.strongRecOn generalizing s bytes with
  | ind n ih =>
      cases s with
      | nil =>
          rw [List.nil_append, decodeStrict?_cons (by decide)] at read
          obtain ⟨back, found, rfl⟩ := Option.map_eq_some_iff.mp read
          exact ⟨[], back, rfl, found, rfl⟩
      | cons c rest =>
          by_cases escape : c = '%'
          · subst escape
            -- an escape that the slash cuts short is none, as the slash is no digit
            obtain _ | ⟨high, _ | ⟨low, rest⟩⟩ := rest
            · cases t with
              | nil => cases read
              | cons d t =>
                  rw [List.cons_append, List.nil_append, decodeStrict?_escape,
                    (byteOf?_slash d).1] at read
                  cases read
            · rw [List.cons_append, List.cons_append, List.nil_append, decodeStrict?_escape,
                (byteOf?_slash high).2] at read
              cases read
            · rw [List.cons_append, List.cons_append, List.cons_append,
                decodeStrict?_escape] at read
              obtain ⟨b, value, read⟩ := Option.bind_eq_some_iff.mp read
              obtain ⟨more, found, rfl⟩ := Option.map_eq_some_iff.mp read
              obtain ⟨front, back, first, second, rfl⟩ := ih rest.length
                (by simp only [List.length_cons] at size; omega) found rfl
              refine ⟨b :: front, back, ?_, second, rfl⟩
              rw [decodeStrict?_escape, value, first]
              rfl
          · rw [List.cons_append, decodeStrict?_cons escape] at read
            obtain ⟨more, found, rfl⟩ := Option.map_eq_some_iff.mp read
            obtain ⟨front, back, first, second, rfl⟩ := ih rest.length
              (by simp only [List.length_cons] at size; omega) found rfl
            refine ⟨Utf8.encodeChar c ++ front, back, ?_, second, (List.append_assoc _ _ _).symm⟩
            rw [decodeStrict?_cons escape, first]
            rfl

/-! ## Slashes and dots -/

open FileUrl

theorem holdsEncodedSlash_cons {s : List Char} (holds : holdsEncodedSlash s) (c : Char) :
    holdsEncodedSlash (c :: s) := by
  unfold holdsEncodedSlash
  split
  · next d rest same =>
      cases same
      simp [holds]
  · next d rest _ same =>
      cases same
      exact holds
  · next same => cases same

/-- A byte that is a slash is written as a slash, or is an encoded one. -/
theorem slash_of_mem {s : List Char} {bytes : List UInt8} (ascii : ∀ c ∈ s, c.toNat < 0x80)
    (read : decodeStrict? s = some bytes) {b : UInt8} (member : b ∈ bytes)
    (slash : b.toNat = '/'.toNat) : '/' ∈ s ∨ holdsEncodedSlash s := by
  fun_induction decodeStrict? s generalizing bytes with
  | case1 =>
      cases read
      cases member
  | case2 high low rest d more read' value ih =>
      cases read
      rcases List.mem_cons.mp member with rfl | member
      · obtain ⟨rfl, first⟩ := (escape_of_byte value).2 slash
        right
        simp only [holdsEncodedSlash, Bool.or_eq_true, beq_iff_eq]
        exact .inl first
      · have later := ih (fun c inside => ascii c (by simp [inside])) read' member
        rcases later with written | encoded
        · exact .inl (by simp [written])
        · exact .inr (holdsEncodedSlash_cons (holdsEncodedSlash_cons (holdsEncodedSlash_cons
            encoded _) _) _)
  | case3 => cases read
  | case4 => cases read
  | case5 c rest plain plain' ih =>
      obtain ⟨more, further, rfl⟩ := Option.map_eq_some_iff.mp read
      have low := ascii c List.mem_cons_self
      rw [Utf8.encodeChar_ascii low] at member
      rcases List.mem_append.mp member with single | member
      · rw [List.mem_singleton.mp single, UInt8.toNat_ofNat', Nat.mod_eq_of_lt (by omega)] at slash
        rw [Char.toNat_inj.mp slash]
        exact .inl List.mem_cons_self
      · rcases ih (fun d inside => ascii d (List.mem_cons_of_mem c inside)) further member with
          written | encoded
        · exact .inl (List.mem_cons_of_mem c written)
        · exact .inr (holdsEncodedSlash_cons encoded c)

/-- A text whose first byte is a dot begins with a dot, or with an encoded one. -/
theorem dot_of_head {s : List Char} {b : UInt8} {bytes : List UInt8}
    (ascii : ∀ c ∈ s, c.toNat < 0x80) (read : decodeStrict? s = some (b :: bytes))
    (dot : b.toNat = '.'.toNat) :
    ∃ front rest, s = front ++ rest ∧ decodeStrict? rest = some bytes ∧
      (front = ['.'] ∨ front = ['%', '2', 'e'] ∨ front = ['%', '2', 'E']) := by
  cases s with
  | nil => cases read
  | cons c rest =>
      by_cases escape : c = '%'
      · subst escape
        obtain _ | ⟨high, _ | ⟨low, rest⟩⟩ := rest
        · cases read
        · cases read
        · rw [decodeStrict?_escape] at read
          obtain ⟨d, value, read⟩ := Option.bind_eq_some_iff.mp read
          obtain ⟨more, found, same⟩ := Option.map_eq_some_iff.mp read
          cases same
          obtain ⟨rfl, last⟩ := (escape_of_byte value).1 dot
          refine ⟨['%', '2', low], rest, rfl, found, .inr ?_⟩
          rcases last with rfl | rfl
          · exact .inl rfl
          · exact .inr rfl
      · rw [decodeStrict?_cons escape] at read
        obtain ⟨more, found, same⟩ := Option.map_eq_some_iff.mp read
        have low := ascii c List.mem_cons_self
        rw [Utf8.encodeChar_ascii low] at same
        cases same
        rw [UInt8.toNat_ofNat', Nat.mod_eq_of_lt (by omega)] at dot
        exact ⟨['.'], rest, by rw [Char.toNat_inj.mp dot]; rfl, found, .inl rfl⟩

/-- A segment that is decoded to a dot stands for its own directory. -/
theorem isSingleDot_of_decodes {segment : List Char} (ascii : ∀ c ∈ segment, c.toNat < 0x80)
    (decodes : Decodes segment ['.']) : isSingleDot segment := by
  obtain ⟨bytes, read, spells⟩ := decodes
  obtain ⟨b, rest, rfl, same, further⟩ := spells.eq_cons (by decide)
  cases further.eq_nil
  obtain ⟨front, back, rfl, nothing, form⟩ := dot_of_head ascii read same
  have empty := length_le_of_decodeStrict? nothing
  rw [List.length_nil, Nat.mul_zero, Nat.le_zero, List.length_eq_zero_iff] at empty
  subst empty
  rcases form with rfl | rfl | rfl <;> decide

/-- A segment that is decoded to two dots stands for the directory above. -/
theorem isDoubleDot_of_decodes {segment : List Char} (ascii : ∀ c ∈ segment, c.toNat < 0x80)
    (decodes : Decodes segment ['.', '.']) : isDoubleDot segment := by
  obtain ⟨bytes, read, spells⟩ := decodes
  obtain ⟨b, rest, rfl, same, further⟩ := spells.eq_cons (by decide)
  obtain ⟨d, rest, rfl, same', further⟩ := further.eq_cons (by decide)
  cases further.eq_nil
  obtain ⟨front, back, rfl, next, form⟩ := dot_of_head ascii read same
  obtain ⟨front', back', rfl, nothing, form'⟩ :=
    dot_of_head (fun c inside => ascii c (List.mem_append_right _ inside)) next same'
  have empty := length_le_of_decodeStrict? nothing
  rw [List.length_nil, Nat.mul_zero, Nat.le_zero, List.length_eq_zero_iff] at empty
  subst empty
  rcases form with rfl | rfl | rfl <;> rcases form' with rfl | rfl | rfl <;> decide

/-! ## Paths -/

@[simp] theorem pathText_nil : pathText [] = [] := rfl

@[simp] theorem pathText_cons (segment : List Char) (rest : List (List Char)) :
    pathText (segment :: rest) = '/' :: (segment ++ pathText rest) := rfl

theorem length_le_of_decodes {segment piece : List Char} (decodes : Decodes segment piece) :
    segment.length ≤ 12 * piece.length := by
  obtain ⟨bytes, read, spells⟩ := decodes
  have first := length_le_of_decodeStrict? read
  have second := spells.length_le
  omega

/-- Segments with slashes in front of all but the first are decoded one by one. -/
theorem decodes_behind {segment : List Char} {rest : List (List Char)} {bytes : List UInt8}
    {s : List Char} (read : decodeStrict? (segment ++ pathText rest) = some bytes)
    (spells : Utf8.Spells bytes s) :
    ∃ piece pieces, List.Forall₂ Decodes (segment :: rest) (piece :: pieces) ∧
      s = piece ++ pathText pieces := by
  induction rest generalizing segment bytes s with
  | nil =>
      refine ⟨s, [], .cons ⟨bytes, ?_, spells⟩ .nil, (List.append_nil s).symm⟩
      rwa [pathText_nil, List.append_nil] at read
  | cons next rest ih =>
      rw [pathText_cons] at read
      obtain ⟨front, back, first, second, rfl⟩ := decodeStrict?_slash read
      obtain ⟨s₁, s₂, rfl, left, right⟩ := spells.cut (by decide)
      obtain ⟨piece, pieces, decoded, rfl⟩ := ih second right
      exact ⟨s₁, piece :: pieces, .cons ⟨front, first, left⟩ decoded, rfl⟩

/-- A path is decoded segment by segment. -/
theorem decodes_segments {path : List (List Char)} {p : List Char}
    (text : decode? (pathText path) = some p) :
    ∃ pieces, List.Forall₂ Decodes path pieces ∧ p = pathText pieces := by
  obtain ⟨bytes, read, found⟩ := Option.bind_eq_some_iff.mp text
  have spells := Utf8.spells_of_decode? found
  cases path with
  | nil =>
      cases read
      cases found
      exact ⟨[], .nil, rfl⟩
  | cons segment rest =>
      rw [pathText_cons, decodeStrict?_cons (by decide)] at read
      obtain ⟨back, behind, rfl⟩ := Option.map_eq_some_iff.mp read
      have spells : Utf8.Spells ([] ++ 0x2F :: back) p := spells
      obtain ⟨s₁, s₂, rfl, left, right⟩ := spells.cut (by decide)
      obtain ⟨piece, pieces, decoded, rfl⟩ := decodes_behind behind right
      refine ⟨piece :: pieces, decoded, ?_⟩
      cases left.nil_left
      rfl

end UnitResolution.Url
