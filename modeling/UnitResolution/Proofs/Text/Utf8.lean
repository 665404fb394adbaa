import UnitResolution.Text.Utf8
import Mathlib.Logic.Basic

/-!
# Bytes that spell a text

ASCII characters are bytes of their own, and no other character has a byte below `0x80`. This much
of UTF-8 (`UnitResolution.Text.Utf8.Spells`) is enough to cut bytes and text at the same ASCII
character (`UnitResolution.Text.Utf8.Spells.cut`). What is decoded is spelled so, and the bytes of a
text are decoded to the text again (`UnitResolution.Text.Utf8.decode?_encode`).
-/

namespace UnitResolution.Text.Utf8

/-- Bytes spell a text: an ASCII character by one byte, any other one by up to four bytes, none of
which is one of ASCII. -/
inductive Spells : List UInt8 → List Char → Prop
  | nil : Spells [] []
  | ascii {b : UInt8} {bytes : List UInt8} {s : List Char} (low : b.toNat < 0x80)
      (rest : Spells bytes s) : Spells (b :: bytes) (Char.ofNat b.toNat :: s)
  | wide {front bytes : List UInt8} {c : Char} {s : List Char} (nonempty : front ≠ [])
      (short : front.length ≤ 4) (high : ∀ b ∈ front, 0x80 ≤ b.toNat) (beyond : 0x80 ≤ c.toNat)
      (rest : Spells bytes s) : Spells (front ++ bytes) (c :: s)

theorem toNat_ofNat {n : Nat} (valid : n < 0xD800 ∨ 0xDFFF < n ∧ n < 0x110000) :
    (Char.ofNat n).toNat = n := by
  have isValid : n.isValidChar := valid
  rw [Char.ofNat, dif_pos isValid]
  rfl

theorem le_toNat_ofNat {n : Nat} (valid : n < 0xD800 ∨ 0xDFFF < n ∧ n < 0x110000)
    (beyond : 0x80 ≤ n) : 0x80 ≤ (Char.ofNat n).toNat := by
  rw [toNat_ofNat valid]
  exact beyond

theorem continues_iff {low high b : UInt8} :
    continues low high b ↔ low.toNat ≤ b.toNat ∧ b.toNat ≤ high.toNat := by
  simp [continues, UInt8.le_iff_toNat_le]

theorem toNat_of_choice {b special first second low : UInt8}
    (chosen : (if b = special then first else second) = low) :
    b.toNat = special.toNat ∧ low.toNat = first.toNat ∨
      b.toNat ≠ special.toNat ∧ low.toNat = second.toNat := by
  subst chosen
  by_cases same : b = special
  · exact .inl ⟨congrArg UInt8.toNat same, by rw [if_pos same]⟩
  · exact .inr ⟨fun equal => same (UInt8.toNat_inj.mp equal), by rw [if_neg same]⟩

/-- A character beyond ASCII that is read off the first bytes, up to four, none of which is one of
ASCII. -/
structure Beyond (bytes : List UInt8) (c : Char) (taken : Nat) : Prop where
  some : 1 ≤ taken
  few : taken ≤ 4
  high : ∀ b ∈ bytes.take taken, 0x80 ≤ b.toNat
  beyond : 0x80 ≤ c.toNat

variable {b : UInt8} {rest : List UInt8} {c : Char} {taken : Nat}

theorem beyond_of_two (lead : 0xC2 ≤ b.toNat ∧ b.toNat ≤ 0xDF)
    (read : step (b :: rest) = (some c, taken)) : Beyond (b :: rest) c taken := by
  have wide : ¬ b.toNat < 0x80 := by omega
  simp only [step, UInt8.lt_iff_toNat_lt, UInt8.le_iff_toNat_le, Bool.and_eq_true,
    decide_eq_true_eq, UInt8.reduceToNat, wide, lead, and_self, if_true, if_false] at read
  obtain _ | ⟨d, more⟩ := rest
  · cases read
  · simp [ite_eq_iff] at read
    obtain ⟨inside, rfl, rfl⟩ := read
    have range := continues_iff.mp inside
    simp only [UInt8.reduceToNat] at range
    refine ⟨by decide, by decide, ?_, le_toNat_ofNat ?_ ?_⟩
    · simp only [List.take_succ_cons, List.take_zero, List.forall_mem_cons]
      exact ⟨by omega, by omega, List.forall_mem_nil _⟩
    all_goals
      unfold payload
      omega

theorem beyond_of_three (lead : 0xE0 ≤ b.toNat ∧ b.toNat ≤ 0xEF)
    (read : step (b :: rest) = (some c, taken)) : Beyond (b :: rest) c taken := by
  have wide : ¬ b.toNat < 0x80 := by omega
  have two : ¬ (0xC2 ≤ b.toNat ∧ b.toNat ≤ 0xDF) := by omega
  simp only [step, UInt8.lt_iff_toNat_lt, UInt8.le_iff_toNat_le, Bool.and_eq_true,
    decide_eq_true_eq, UInt8.reduceToNat, wide, two, lead, and_self, if_true, if_false] at read
  -- the range of the second byte keeps out what two bytes can spell, and surrogates
  generalize lowest : (if b = 0xE0 then (0xA0 : UInt8) else 0x80) = low at read
  generalize highest : (if b = 0xED then (0x9F : UInt8) else 0xBF) = high at read
  have bounds := toNat_of_choice lowest
  have bounds' := toNat_of_choice highest
  obtain _ | ⟨d, _ | ⟨e, more⟩⟩ := rest
  · cases read
  · simp [ite_eq_iff] at read
  · simp [ite_eq_iff] at read
    obtain ⟨first, second, rfl, rfl⟩ := read
    have range := continues_iff.mp first
    have range' := continues_iff.mp second
    simp only [UInt8.reduceToNat] at range range' bounds bounds'
    refine ⟨by decide, by decide, ?_, le_toNat_ofNat ?_ ?_⟩
    · simp only [List.take_succ_cons, List.take_zero, List.forall_mem_cons]
      exact ⟨by omega, by omega, by omega, List.forall_mem_nil _⟩
    all_goals
      unfold payload
      omega

theorem beyond_of_four (lead : 0xF0 ≤ b.toNat ∧ b.toNat ≤ 0xF4)
    (read : step (b :: rest) = (some c, taken)) : Beyond (b :: rest) c taken := by
  have wide : ¬ b.toNat < 0x80 := by omega
  have two : ¬ (0xC2 ≤ b.toNat ∧ b.toNat ≤ 0xDF) := by omega
  have three : ¬ (0xE0 ≤ b.toNat ∧ b.toNat ≤ 0xEF) := by omega
  simp only [step, UInt8.lt_iff_toNat_lt, UInt8.le_iff_toNat_le, Bool.and_eq_true,
    decide_eq_true_eq, UInt8.reduceToNat, wide, two, three, lead, and_self, if_true,
    if_false] at read
  -- the range of the second byte keeps out what three bytes can spell, and what is no character
  generalize lowest : (if b = 0xF0 then (0x90 : UInt8) else 0x80) = low at read
  generalize highest : (if b = 0xF4 then (0x8F : UInt8) else 0xBF) = high at read
  have bounds := toNat_of_choice lowest
  have bounds' := toNat_of_choice highest
  obtain _ | ⟨d, _ | ⟨e, _ | ⟨f, more⟩⟩⟩ := rest
  · cases read
  · simp [ite_eq_iff] at read
  · simp [ite_eq_iff] at read
  · simp [ite_eq_iff] at read
    obtain ⟨first, second, third, rfl, rfl⟩ := read
    have range := continues_iff.mp first
    have range' := continues_iff.mp second
    have last := continues_iff.mp third
    simp only [UInt8.reduceToNat] at range range' last bounds bounds'
    refine ⟨by decide, by decide, ?_, le_toNat_ofNat ?_ ?_⟩
    · simp only [List.take_succ_cons, List.take_zero, List.forall_mem_cons]
      exact ⟨by omega, by omega, by omega, by omega, List.forall_mem_nil _⟩
    all_goals
      unfold payload
      omega

/-- A character is read off one byte of ASCII, or off several bytes none of which is one. -/
theorem step_eq_some (read : step (b :: rest) = (some c, taken)) :
    (b.toNat < 0x80 ∧ c = Char.ofNat b.toNat ∧ taken = 1) ∨ Beyond (b :: rest) c taken := by
  by_cases low : b.toNat < 0x80
  · have single : step (b :: rest) = (some (Char.ofNat b.toNat), 1) :=
      if_pos (UInt8.lt_iff_toNat_lt.mpr low)
    cases single.symm.trans read
    exact .inl ⟨low, rfl, rfl⟩
  · right
    by_cases two : 0xC2 ≤ b.toNat ∧ b.toNat ≤ 0xDF
    · exact beyond_of_two two read
    by_cases three : 0xE0 ≤ b.toNat ∧ b.toNat ≤ 0xEF
    · exact beyond_of_three three read
    by_cases four : 0xF0 ≤ b.toNat ∧ b.toNat ≤ 0xF4
    · exact beyond_of_four four read
    simp [step, UInt8.lt_iff_toNat_lt, UInt8.le_iff_toNat_le, low, two, three, four] at read

/-- Bytes that are well formed spell what they are decoded to. -/
theorem spells_of_decode? {bytes : List UInt8} {s : List Char} (read : decode? bytes = some s) :
    Spells bytes s := by
  have every (n : Nat) : ∀ {bytes s}, decode?.go n bytes = some s → Spells bytes s := by
    induction n with
    | zero =>
        intro bytes s read
        cases bytes with
        | nil =>
            cases read
            exact .nil
        | cons b rest => cases read
    | succ n ih =>
        intro bytes s read
        cases bytes with
        | nil =>
            cases read
            exact .nil
        | cons b rest =>
            unfold decode?.go at read
            split at read
            · next c taken stepped =>
                obtain ⟨more, further, rfl⟩ := Option.map_eq_some_iff.mp read
                have spelled := ih further
                rcases step_eq_some stepped with ⟨low, rfl, rfl⟩ | ⟨some, few, high, beyond⟩
                · exact .ascii low spelled
                · have front : (b :: rest).take taken ++ rest.drop (taken - 1) = b :: rest := by
                    have same : rest.drop (taken - 1) = (b :: rest).drop taken := by
                      obtain ⟨k, rfl⟩ := Nat.exists_eq_add_of_le some
                      simp [Nat.add_comm 1 k]
                    rw [same, List.take_append_drop]
                  rw [← front]
                  refine .wide ?_ ?_ high beyond spelled
                  · simp only [ne_eq, List.take_eq_nil_iff, reduceCtorEq, or_false]
                    omega
                  · exact Nat.le_trans (List.length_take_le _ _) few
            · cases read
  exact every _ read

/-! ## Written characters -/

theorem exists_byte {n : Nat} (small : n < 256) : ∃ b : UInt8, UInt8.ofNat n = b ∧ b.toNat = n :=
  ⟨_, rfl, by rw [UInt8.toNat_ofNat', Nat.mod_eq_of_lt small]⟩

section Read

variable {v : Nat} (rest : List UInt8)

theorem step_two (low : 0x80 ≤ v) (high : v ≤ 0x7FF) :
    step (UInt8.ofNat (v / 64 % 32 + 192) :: UInt8.ofNat (v % 64 + 128) :: rest) =
      (some (Char.ofNat v), 2) := by
  obtain ⟨b, same, lead⟩ := exists_byte (n := v / 64 % 32 + 192) (by omega)
  obtain ⟨d, same', tail⟩ := exists_byte (n := v % 64 + 128) (by omega)
  have wide : ¬ b.toNat < 0x80 := by omega
  have two : 0xC2 ≤ b.toNat ∧ b.toNat ≤ 0xDF := by omega
  have inside : continues 0x80 0xBF d := continues_iff.mpr (by simp only [UInt8.reduceToNat]; omega)
  have value : b.toNat % 0x20 * 0x40 + payload d = v := by
    unfold payload
    omega
  rw [same, same']
  simp only [step, UInt8.lt_iff_toNat_lt, UInt8.le_iff_toNat_le, Bool.and_eq_true,
    decide_eq_true_eq, UInt8.reduceToNat, wide, two, and_self, if_true, if_false, inside, value]

theorem toNat_ite {b special first second : UInt8} :
    (if b = special then first else second).toNat =
      if b.toNat = special.toNat then first.toNat else second.toNat := by
  by_cases same : b = special
  · rw [if_pos same, if_pos (congrArg _ same)]
  · rw [if_neg same, if_neg fun equal => same (UInt8.toNat_inj.mp equal)]

theorem step_three (low : 0x800 ≤ v) (high : v ≤ 0xFFFF) (valid : v < 0xD800 ∨ 0xDFFF < v) :
    step (UInt8.ofNat (v / 4096 % 16 + 224) :: UInt8.ofNat (v / 64 % 64 + 128) ::
      UInt8.ofNat (v % 64 + 128) :: rest) = (some (Char.ofNat v), 3) := by
  obtain ⟨b, same, lead⟩ := exists_byte (n := v / 4096 % 16 + 224) (by omega)
  obtain ⟨d, same', tail⟩ := exists_byte (n := v / 64 % 64 + 128) (by omega)
  obtain ⟨e, same'', tail'⟩ := exists_byte (n := v % 64 + 128) (by omega)
  have wide : ¬ b.toNat < 0x80 := by omega
  have two : ¬ (0xC2 ≤ b.toNat ∧ b.toNat ≤ 0xDF) := by omega
  have three : 0xE0 ≤ b.toNat ∧ b.toNat ≤ 0xEF := by omega
  -- the range of the second byte keeps out what two bytes can spell, and surrogates
  have first : continues (if b = 0xE0 then 0xA0 else 0x80) (if b = 0xED then 0x9F else 0xBF) d := by
    rw [continues_iff, toNat_ite, toNat_ite]
    simp only [UInt8.reduceToNat]
    constructor <;> split <;> omega
  have second : continues 0x80 0xBF e := continues_iff.mpr (by simp only [UInt8.reduceToNat]; omega)
  have value : b.toNat % 0x10 * 0x1000 + payload d * 0x40 + payload e = v := by
    unfold payload
    omega
  rw [same, same', same'']
  simp only [step, UInt8.lt_iff_toNat_lt, UInt8.le_iff_toNat_le, Bool.and_eq_true,
    decide_eq_true_eq, UInt8.reduceToNat, wide, two, three, and_self, if_true, if_false, first,
    second, value]

theorem step_four (low : 0x10000 ≤ v) (high : v < 0x110000) :
    step (UInt8.ofNat (v / 262144 % 8 + 240) :: UInt8.ofNat (v / 4096 % 64 + 128) ::
      UInt8.ofNat (v / 64 % 64 + 128) :: UInt8.ofNat (v % 64 + 128) :: rest) =
        (some (Char.ofNat v), 4) := by
  obtain ⟨b, same, lead⟩ := exists_byte (n := v / 262144 % 8 + 240) (by omega)
  obtain ⟨d, same', tail⟩ := exists_byte (n := v / 4096 % 64 + 128) (by omega)
  obtain ⟨e, same'', tail'⟩ := exists_byte (n := v / 64 % 64 + 128) (by omega)
  obtain ⟨f, same''', tail''⟩ := exists_byte (n := v % 64 + 128) (by omega)
  have wide : ¬ b.toNat < 0x80 := by omega
  have two : ¬ (0xC2 ≤ b.toNat ∧ b.toNat ≤ 0xDF) := by omega
  have three : ¬ (0xE0 ≤ b.toNat ∧ b.toNat ≤ 0xEF) := by omega
  have four : 0xF0 ≤ b.toNat ∧ b.toNat ≤ 0xF4 := by omega
  -- the range of the second byte keeps out what three bytes can spell, and what is no character
  have first : continues (if b = 0xF0 then 0x90 else 0x80) (if b = 0xF4 then 0x8F else 0xBF) d := by
    rw [continues_iff, toNat_ite, toNat_ite]
    simp only [UInt8.reduceToNat]
    constructor <;> split <;> omega
  have second : continues 0x80 0xBF e := continues_iff.mpr (by simp only [UInt8.reduceToNat]; omega)
  have third : continues 0x80 0xBF f := continues_iff.mpr (by simp only [UInt8.reduceToNat]; omega)
  have value : b.toNat % 8 * 0x40000 + payload d * 0x1000 + payload e * 0x40 + payload f = v := by
    unfold payload
    omega
  rw [same, same', same'', same''']
  simp only [step, UInt8.lt_iff_toNat_lt, UInt8.le_iff_toNat_le, Bool.and_eq_true,
    decide_eq_true_eq, UInt8.reduceToNat, wide, two, three, four, and_self, if_true, if_false,
    first, second, third, value]

theorem encodeChar_eq (c : Char) : encodeChar c =
    if c.toNat ≤ 0x7F then [UInt8.ofNat c.toNat]
    else if c.toNat ≤ 0x7FF then
      [UInt8.ofNat (c.toNat / 64 % 32 + 192), UInt8.ofNat (c.toNat % 64 + 128)]
    else if c.toNat ≤ 0xFFFF then
      [UInt8.ofNat (c.toNat / 4096 % 16 + 224), UInt8.ofNat (c.toNat / 64 % 64 + 128),
        UInt8.ofNat (c.toNat % 64 + 128)]
    else
      [UInt8.ofNat (c.toNat / 262144 % 8 + 240), UInt8.ofNat (c.toNat / 4096 % 64 + 128),
        UInt8.ofNat (c.toNat / 64 % 64 + 128), UInt8.ofNat (c.toNat % 64 + 128)] :=
  rfl

theorem encodeChar_ascii {c : Char} (ascii : c.toNat < 0x80) :
    encodeChar c = [UInt8.ofNat c.toNat] :=
  if_pos (Nat.le_of_lt_succ ascii)

theorem encodeChar_ne_nil (c : Char) : encodeChar c ≠ [] := by
  rw [encodeChar_eq]
  split
  · exact List.cons_ne_nil _ _
  · split
    · exact List.cons_ne_nil _ _
    · split <;> exact List.cons_ne_nil _ _

/-- The bytes of a character are read as the character, whatever follows. -/
theorem step_encodeChar (c : Char) :
    step (encodeChar c ++ rest) = (some c, (encodeChar c).length) := by
  have valid : c.toNat < 0xD800 ∨ 0xDFFF < c.toNat ∧ c.toNat < 0x110000 := c.valid
  have self : Char.ofNat c.toNat = c := Char.ofNat_toNat c
  rw [encodeChar_eq]
  split
  · next one =>
      obtain ⟨b, same, value⟩ := exists_byte (n := c.toNat) (by omega)
      have low : b < 0x80 := by
        rw [UInt8.lt_iff_toNat_lt, value]
        exact Nat.lt_succ_of_le one
      have read : step (b :: rest) = (some (Char.ofNat b.toNat), 1) := if_pos low
      rw [value, self] at read
      rw [same]
      exact read
  · split
    · exact (step_two rest (by omega) (by omega)).trans (by rw [self]; rfl)
    · split
      · exact (step_three rest (by omega) (by omega) (by omega)).trans (by rw [self]; rfl)
      · exact (step_four rest (by omega) (by omega)).trans (by rw [self]; rfl)

end Read

/-- What has been written is read back. -/
theorem decode?_encode (s : List Char) : decode? (encode s) = some s := by
  -- every step takes the bytes of a character, so any number of steps that is enough will do
  suffices ∀ n, (encode s).length ≤ n → decode?.go n (encode s) = some s from this _ (Nat.le_refl _)
  induction s with
  | nil =>
      intro n _
      cases n <;> rfl
  | cons c rest ih =>
      intro n enough
      have read := step_encodeChar (encode rest) c
      have whole : encode (c :: rest) = encodeChar c ++ encode rest := List.flatMap_cons
      obtain ⟨b, more, first⟩ := List.exists_cons_of_ne_nil (encodeChar_ne_nil c)
      rw [whole, first, List.cons_append] at enough ⊢
      rw [first, List.cons_append] at read
      obtain ⟨n, rfl⟩ := Nat.exists_eq_add_of_le' (Nat.lt_of_lt_of_le (Nat.succ_pos _) enough)
      rw [decode?.go, read]
      simp only [List.length_cons, Nat.add_sub_cancel, List.drop_left]
      rw [ih n (by simp only [List.length_cons, List.length_append] at enough; omega)]
      rfl

/-! ## Cutting -/

namespace Spells

variable {bytes front back : List UInt8} {s : List Char}

/-- Bytes and text are cut at the same ASCII character. -/
theorem cut {b : UInt8} (low : b.toNat < 0x80) (spells : Spells (front ++ b :: back) s) :
    ∃ s₁ s₂, s = s₁ ++ Char.ofNat b.toNat :: s₂ ∧ Spells front s₁ ∧ Spells back s₂ := by
  generalize whole : front ++ b :: back = bytes at spells
  induction spells generalizing front with
  | nil => exact absurd whole (List.append_ne_nil_of_right_ne_nil _ (List.cons_ne_nil _ _))
  | @ascii d bytes s lowest rest ih =>
      cases front with
      | nil =>
          cases whole
          exact ⟨[], s, rfl, .nil, rest⟩
      | cons first front =>
          cases whole
          obtain ⟨s₁, s₂, rfl, left, right⟩ := ih rfl
          exact ⟨_ :: s₁, s₂, rfl, .ascii lowest left, right⟩
  | @wide wide bytes c s nonempty short high beyond rest ih =>
      rcases List.append_eq_append_iff.mp whole with ⟨gap, split, _⟩ | ⟨gap, rfl, split⟩
      · cases gap with
        | nil =>
            rw [List.append_nil] at split
            subst split
            rename_i same
            have cut : [] ++ b :: back = bytes := same
            obtain ⟨s₁, s₂, rfl, left, right⟩ := ih cut
            refine ⟨c :: s₁, s₂, rfl, ?_, right⟩
            have joined := Spells.wide nonempty short high beyond left
            rwa [List.append_nil] at joined
        | cons d gap =>
            rename_i same
            cases same
            have member : b ∈ wide := by
              rw [split]
              exact List.mem_append_right _ List.mem_cons_self
            exact absurd (high b member) (by omega)
      · obtain ⟨s₁, s₂, rfl, left, right⟩ := ih split.symm
        exact ⟨c :: s₁, s₂, rfl, .wide nonempty short high beyond left, right⟩

theorem length_le (spells : Spells bytes s) : bytes.length ≤ 4 * s.length := by
  induction spells with
  | nil => exact Nat.le_refl _
  | ascii low rest ih =>
      simp only [List.length_cons]
      omega
  | wide nonempty short high beyond rest ih =>
      simp only [List.length_append, List.length_cons]
      omega

/-- Bytes that spell nothing are none. -/
theorem eq_nil (spells : Spells bytes []) : bytes = [] := by
  generalize same : ([] : List Char) = s at spells
  cases spells with
  | nil => rfl
  | ascii low rest => cases same
  | wide nonempty short high beyond rest => cases same

/-- No bytes spell nothing. -/
theorem nil_left (spells : Spells [] s) : s = [] := by
  generalize same : ([] : List UInt8) = bytes at spells
  cases spells with
  | nil => rfl
  | ascii low rest => cases same
  | wide nonempty short high beyond rest =>
      exact absurd (List.append_eq_nil_iff.mp same.symm).1 nonempty

/-- A text that begins with an ASCII character is spelled by bytes that begin with it. -/
theorem eq_cons {c : Char} (ascii : c.toNat < 0x80) (spells : Spells bytes (c :: s)) :
    ∃ b rest, bytes = b :: rest ∧ b.toNat = c.toNat ∧ Spells rest s := by
  generalize same : c :: s = t at spells
  cases spells with
  | nil => cases same
  | @ascii b bytes s low rest =>
      cases same
      exact ⟨b, bytes, rfl, (toNat_ofNat (.inl (by omega))).symm, rest⟩
  | wide nonempty short high beyond rest =>
      cases same
      exact absurd beyond (by omega)

/-- An ASCII character in a text is one of its bytes. -/
theorem mem_of_mem {c : Char} (ascii : c.toNat < 0x80) (spells : Spells bytes s) (member : c ∈ s) :
    ∃ b ∈ bytes, b.toNat = c.toNat := by
  induction spells with
  | nil => cases member
  | @ascii b bytes s low rest ih =>
      rcases List.mem_cons.mp member with rfl | member
      · exact ⟨b, List.mem_cons_self, (toNat_ofNat (.inl (by omega))).symm⟩
      · obtain ⟨d, inside, same⟩ := ih member
        exact ⟨d, List.mem_cons_of_mem _ inside, same⟩
  | wide nonempty short high beyond rest ih =>
      rcases List.mem_cons.mp member with rfl | member
      · exact absurd beyond (by omega)
      · obtain ⟨d, inside, same⟩ := ih member
        exact ⟨d, List.mem_append_right _ inside, same⟩

end Spells

end UnitResolution.Text.Utf8
