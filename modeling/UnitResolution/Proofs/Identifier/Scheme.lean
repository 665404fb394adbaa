import UnitResolution.Identifier.Scheme
import UnitResolution.Proofs.Path
import UnitResolution.Proofs.Text.Utf8
import Mathlib.Data.List.TakeWhile

/-!
# Schemes

An identifier is asked for its scheme in two ways. `scheme?` reads ASCII characters up to the first
colon, and `hasScheme` looks at the identifier in lower case. For a scheme of lower-case letters
both ask how the characters in front of the first colon are spelled
(`UnitResolution.Identifier.schemeOf?_eq_some_iff`, `UnitResolution.Identifier.hasScheme_iff`), and
the answers differ only by the Kelvin sign, the one character beyond ASCII whose lower-case form is
a character of ASCII.
-/

namespace UnitResolution

/-! ## Lower case -/

namespace Text

/-- There are few enough characters of ASCII to go through them by number. -/
theorem forall_ascii {P : Char → Prop} (all : ∀ n < 0x80, P (Char.ofNat n)) {c : Char}
    (ascii : c.toNat < 0x80) : P c := by
  have holds := all c.toNat ascii
  rwa [Char.ofNat_toNat] at holds

theorem lowerCase_append (s t : List Char) : lowerCase (s ++ t) = lowerCase s ++ lowerCase t :=
  List.flatMap_append

theorem lowerCase_of_ascii {s : List Char} (ascii : ∀ c ∈ s, c.toNat < 0x80) :
    lowerCase s = s.map Char.toLower := by
  induction s with
  | nil => rfl
  | cons c rest ih =>
      obtain ⟨first, others⟩ := List.forall_mem_cons.mp ascii
      have single : lowerCaseOf c = [c.toLower] := if_pos first
      rw [lowerCase, List.flatMap_cons, single, List.map_cons]
      exact congrArg (c.toLower :: ·) (ih others)

/-- What the search finds stands in the table. -/
theorem mem_of_searchRuns {runs : Array (Nat × Nat × Nat × Nat)}
    {point steps low high form : Nat} (found : searchRuns runs point steps low high = some form) :
    ∃ first last step start, (first, last, step, start) ∈ runs ∧ first ≤ point ∧
      point ≤ last ∧ form = start + (point - first) := by
  induction steps generalizing low high with
  | zero => cases found
  | succ steps ih =>
      unfold searchRuns at found
      dsimp only at found
      split at found
      · cases there : runs[(low + high) / 2]? with
        | none => simp [there] at found
        | some run =>
            obtain ⟨first, last, step, start⟩ := run
            simp only [there] at found
            split at found
            · exact ih found
            · split at found
              · exact ih found
              · split at found
                · exact ⟨first, last, step, start, Array.mem_of_getElem? there, by omega, by omega,
                    (Option.some.inj found).symm⟩
                · cases found
      · cases found

/-- A number that is not the one of a character gives the character zero. -/
theorem toNat_of_ofNat {n : Nat} {c : Char} (same : Char.ofNat n = c) (visible : c ≠ '\x00') :
    c.toNat = n := by
  by_cases valid : n.isValidChar
  · rw [← same]
    exact Utf8.toNat_ofNat valid
  · rw [Char.ofNat, dif_neg valid] at same
    exact absurd same.symm visible

/-- Only the Kelvin sign comes into ASCII from beyond. -/
theorem kelvin_of_lowerCaseOf {c d : Char} (form : lowerCaseOf d = [c]) (beyond : 0x80 ≤ d.toNat)
    (ascii : c.toNat < 0x80) (visible : c ≠ '\x00') : d = '\u212A' ∧ c = 'k' := by
  unfold lowerCaseOf at form
  rw [if_neg (Nat.not_lt.mpr beyond)] at form
  split at form
  · simp at form
  · split at form
    · next point found =>
        obtain ⟨first, last, step, start, listed, least, most, rfl⟩ := mem_of_searchRuns found
        have low : ∀ run ∈ lowerCaseRuns, run.2.2.2 < 0x80 → run = (0x212A, 0x212A, 1, 0x6B) := by
          decide +kernel
        have point := toNat_of_ofNat (List.singleton_inj.mp form) visible
        have run := low _ listed (by dsimp only; omega)
        simp only [Prod.mk.injEq] at run
        obtain ⟨rfl, rfl, rfl, rfl⟩ := run
        have sign : d.toNat = ('\u212A').toNat := Nat.le_antisymm most least
        rw [sign] at point
        exact ⟨Char.toNat_inj.mp sign, Char.toNat_inj.mp point⟩
    · obtain rfl : d = c := List.singleton_inj.mp form
      omega

theorem lowerCaseOf_cases (d : Char) :
    (∃ c, lowerCaseOf d = [c]) ∨ lowerCaseOf d = ['i', '\u0307'] := by
  unfold lowerCaseOf
  split
  · exact .inl ⟨_, rfl⟩
  · split
    · exact .inr rfl
    · split
      · exact .inl ⟨_, rfl⟩
      · exact .inl ⟨_, rfl⟩

theorem toLower_of_beyond {c : Char} (beyond : 0x80 ≤ c.toNat) : c.toLower = c := by
  unfold Char.toLower
  refine dif_neg fun ⟨_, upper⟩ => ?_
  have last : c.toNat ≤ 90 := UInt32.le_iff_toNat_le.mp upper
  omega

/-- The character of ASCII for which a character stands in lower case. -/
def letterOf (c : Char) : Char := if c = '\u212A' then 'k' else c.toLower

theorem lowerCaseOf_eq_singleton_iff {c d : Char} (ascii : c.toNat < 0x80) (visible : c ≠ '\x00') :
    lowerCaseOf d = [c] ↔ letterOf d = c := by
  unfold letterOf
  by_cases low : d.toNat < 0x80
  · have plain : d ≠ '\u212A' := by
      rintro rfl
      exact absurd low (by decide)
    have form : lowerCaseOf d = [d.toLower] := if_pos low
    rw [form, if_neg plain, List.singleton_inj]
  · have beyond : 0x80 ≤ d.toNat := Nat.not_lt.mp low
    constructor
    · intro form
      obtain ⟨rfl, rfl⟩ := kelvin_of_lowerCaseOf form beyond ascii visible
      rfl
    · split
      · next sign =>
          rintro rfl
          rw [sign]
          decide +kernel
      · rw [toLower_of_beyond beyond]
        rintro rfl
        omega

/-- Where a text begins with characters of ASCII in lower case, its first character stands for the
first of them. The dotted capital I has a form of two characters, and only the first is in ASCII. -/
theorem cons_prefix_lowerCase {c : Char} {more s : List Char}
    (plain : ∀ x ∈ c :: more, x.toNat < 0x80 ∧ x ≠ '\x00') (goesOn : c = 'i' → more ≠ [])
    (begins : c :: more <+: lowerCase s) :
    ∃ d rest, s = d :: rest ∧ letterOf d = c ∧ more <+: lowerCase rest := by
  cases s with
  | nil => exact absurd (List.prefix_nil.mp begins) (List.cons_ne_nil _ _)
  | cons d rest =>
      rw [lowerCase, List.flatMap_cons] at begins
      obtain ⟨⟨ascii, visible⟩, others⟩ := List.forall_mem_cons.mp plain
      rcases lowerCaseOf_cases d with ⟨x, form⟩ | form
      · rw [form, List.singleton_append, List.cons_prefix_cons] at begins
        obtain ⟨rfl, begins⟩ := begins
        exact ⟨d, rest, rfl, (lowerCaseOf_eq_singleton_iff ascii visible).mp form, begins⟩
      · rw [form, List.cons_append, List.cons_prefix_cons] at begins
        obtain ⟨rfl, begins⟩ := begins
        cases more with
        | nil => exact absurd rfl (goesOn rfl)
        | cons x more =>
            rw [List.singleton_append, List.cons_prefix_cons] at begins
            obtain ⟨rfl, _⟩ := begins
            exact absurd (others _ List.mem_cons_self).1 (by decide)

end Text

/-! ## How a scheme is spelled -/

namespace Identifier

open Text

variable {identifier : String} {name s : List Char}

theorem isAlpha_of_isLower {c : Char} (lower : c.isLower) : c.isAlpha := by
  have either : c.isAlpha = (c.isUpper || c.isLower) := rfl
  rw [either, lower, Bool.or_true]

theorem isSchemePart_of_isAlpha {c : Char} (letter : c.isAlpha) : isSchemePart c := by
  simp [isSchemePart, Char.isAlphanum, letter]

theorem ascii_of_isAlphanum {c : Char} (part : c.isAlphanum) : c.toNat < 0x80 := by
  change ((decide (65 ≤ c.val ∧ c.val ≤ 90) || (97 ≤ c.val && c.val ≤ 122)) ||
    (48 ≤ c.val && c.val ≤ 57)) = true at part
  simp only [Bool.or_eq_true, Bool.and_eq_true, decide_eq_true_eq, UInt32.le_iff_toNat_le] at part
  change ((65 ≤ c.toNat ∧ c.toNat ≤ 90) ∨ 97 ≤ c.toNat ∧ c.toNat ≤ 122) ∨
    48 ≤ c.toNat ∧ c.toNat ≤ 57 at part
  omega

theorem ascii_of_isSchemePart {c : Char} (part : isSchemePart c) : c.toNat < 0x80 := by
  simp only [isSchemePart, Bool.or_eq_true, beq_iff_eq] at part
  rcases part with ((part | rfl) | rfl) | rfl
  · exact ascii_of_isAlphanum part
  · decide
  · decide
  · decide

/-- In lower case, no character of a scheme changes any more or becomes a colon. -/
theorem toLower_of_isSchemePart {c : Char} (part : isSchemePart c) :
    c.toLower.toNat < 0x80 ∧ c.toLower.toLower = c.toLower ∧ c.toLower ≠ ':' := by
  have ascii := ascii_of_isSchemePart part
  revert part
  refine forall_ascii (P := fun c => isSchemePart c → c.toLower.toNat < 0x80 ∧
    c.toLower.toLower = c.toLower ∧ c.toLower ≠ ':') ?_ ascii
  decide +kernel

theorem plain_of_isLower {c : Char} (lower : c.isLower) : c.toNat < 0x80 ∧ c ≠ '\x00' := by
  refine ⟨ascii_of_isSchemePart (isSchemePart_of_isAlpha (isAlpha_of_isLower lower)), ?_⟩
  rintro rfl
  exact absurd lower (by decide)

theorem isAlpha_of_toLower {c : Char} (lower : c.toLower.isLower) : c.isAlpha := by
  by_cases ascii : c.toNat < 0x80
  · exact forall_ascii (P := fun c => c.toLower.isLower → c.isAlpha) (by decide) ascii lower
  · rw [toLower_of_beyond (Nat.not_lt.mp ascii)] at lower
    exact isAlpha_of_isLower lower

/-- A scheme is two characters or more, of which the first is a letter, in front of a colon. -/
theorem schemeOf?_eq_some_iff : schemeOf? s = some name ↔ ∃ first second more rest,
    s = first :: second :: more ++ ':' :: rest ∧ first.isAlpha ∧
      (∀ c ∈ first :: second :: more, isSchemePart c) ∧
      (first :: second :: more).map Char.toLower = name := by
  unfold schemeOf?
  dsimp only
  constructor
  · intro named
    obtain ⟨rest, whole⟩ := List.takeWhile_prefix (p := isSchemePart) (l := s)
    have parts : ∀ c ∈ s.takeWhile isSchemePart, isSchemePart c := fun c => List.mem_takeWhile_imp
    generalize s.takeWhile isSchemePart = raw at named whole parts
    subst whole
    split at named
    · next first second more =>
        rw [List.drop_left] at named
        split at named
        · next mark =>
            rw [Bool.and_eq_true, beq_iff_eq] at mark
            obtain ⟨tail, rfl⟩ := List.head?_eq_some_iff.mp mark.2
            exact ⟨first, second, more, tail, rfl, mark.1, parts, Option.some.inj named⟩
        · cases named
    · cases named
  · rintro ⟨first, second, more, rest, rfl, letter, parts, rfl⟩
    have none : (':' :: rest).takeWhile isSchemePart = [] := List.takeWhile_cons_of_neg (by decide)
    rw [List.takeWhile_append_of_pos parts, none, List.append_nil]
    simp [letter]

/-- A scheme of lower-case letters is read off characters that become these letters. -/
theorem schemeOf?_of_letters (letters : ∀ c ∈ name, c.isLower) (long : 2 ≤ name.length) :
    schemeOf? s = some name ↔ ∃ raw rest, s = raw ++ ':' :: rest ∧ raw.map Char.toLower = name := by
  rw [schemeOf?_eq_some_iff]
  constructor
  · rintro ⟨first, second, more, rest, whole, _, _, same⟩
    exact ⟨first :: second :: more, rest, whole, same⟩
  · rintro ⟨raw, rest, rfl, rfl⟩
    have alpha : ∀ c ∈ raw, c.isAlpha := fun c member =>
      isAlpha_of_toLower (letters _ (List.mem_map_of_mem member))
    match raw, long with
    | first :: second :: more, _ =>
        exact ⟨first, second, more, rest, rfl, alpha _ List.mem_cons_self,
          fun c member => isSchemePart_of_isAlpha (alpha c member), rfl⟩

theorem eq_of_letterOf_colon {d : Char} (colon : letterOf d = ':') : d = ':' := by
  by_cases ascii : d.toNat < 0x80
  · exact forall_ascii (P := fun d => letterOf d = ':' → d = ':') (by decide) ascii colon
  · unfold letterOf at colon
    split at colon
    · exact absurd colon (by decide)
    · rwa [toLower_of_beyond (Nat.not_lt.mp ascii)] at colon

theorem lowerCase_of_letters (letters : ∀ d ∈ s, (letterOf d).isLower) :
    lowerCase s = s.map letterOf := by
  rw [lowerCase, List.map_eq_flatMap]
  apply List.flatMap_congr
  intro d member
  obtain ⟨ascii, visible⟩ := plain_of_isLower (letters d member)
  exact (lowerCaseOf_eq_singleton_iff ascii visible).mpr rfl

/-- What begins with a scheme in lower case begins with characters that stand for it. -/
theorem spelled_of_prefix (letters : ∀ c ∈ name, c.isLower)
    (begins : name ++ [':'] <+: lowerCase s) :
    ∃ raw rest, s = raw ++ ':' :: rest ∧ raw.map letterOf = name := by
  induction name generalizing s with
  | nil =>
      have plain : ∀ x ∈ [':'], x.toNat < 0x80 ∧ x ≠ '\x00' :=
        List.forall_mem_singleton.mpr (by decide)
      obtain ⟨d, rest, rfl, colon, _⟩ := cons_prefix_lowerCase plain nofun begins
      exact ⟨[], rest, by rw [eq_of_letterOf_colon colon]; rfl, rfl⟩
  | cons c more ih =>
      have plain : ∀ x ∈ c :: (more ++ [':']), x.toNat < 0x80 ∧ x ≠ '\x00' := by
        intro x member
        rw [← List.cons_append, List.mem_append, List.mem_singleton] at member
        rcases member with member | rfl
        · exact plain_of_isLower (letters x member)
        · decide
      obtain ⟨d, rest, rfl, rfl, behind⟩ := cons_prefix_lowerCase plain (by simp) begins
      obtain ⟨raw, tail, rfl, rfl⟩ := ih (List.forall_mem_of_forall_mem_cons letters) behind
      exact ⟨d :: raw, tail, rfl, rfl⟩

/-- An identifier has a scheme when the characters in front of a colon stand for it. -/
theorem hasScheme_iff (letters : ∀ c ∈ name, c.isLower) :
    hasScheme identifier (String.ofList (name ++ [':'])) ↔
      ∃ raw rest, identifier.toList = raw ++ ':' :: rest ∧ raw.map letterOf = name := by
  unfold hasScheme
  rw [String.toList_ofList, List.isPrefixOf_iff_prefix]
  constructor
  · exact spelled_of_prefix letters
  · rintro ⟨raw, rest, whole, rfl⟩
    rw [whole, lowerCase_append, lowerCase_of_letters (List.forall_mem_map.mp letters)]
    exact ⟨lowerCase rest, by rw [List.append_assoc]; rfl⟩

/-! ## The schemes of resolvers -/

theorem scheme?_eq_some_iff :
    scheme? identifier = some (String.ofList name) ↔ schemeOf? identifier.toList = some name := by
  unfold scheme?
  rw [Option.map_eq_some_iff]
  constructor
  · rintro ⟨other, named, same⟩
    rwa [← String.ofList_injective same]
  · intro named
    exact ⟨name, named, rfl⟩

/-- The Kelvin sign is no letter of ASCII, so that it does not occur where all are. -/
theorem map_letterOf {raw : List Char} (letters : ∀ c ∈ raw.map Char.toLower, c.isLower) :
    raw.map letterOf = raw.map Char.toLower := by
  refine List.map_congr_left fun d member => if_neg ?_
  rintro rfl
  exact absurd (letters _ (List.mem_map_of_mem member)) (by decide)

/-- For a scheme without a `k`, both ways to ask for it agree. -/
theorem hasScheme_iff_scheme? (letters : ∀ c ∈ name, c.isLower) (long : 2 ≤ name.length)
    (unsigned : 'k' ∉ name) :
    hasScheme identifier (String.ofList (name ++ [':'])) ↔
      scheme? identifier = some (String.ofList name) := by
  rw [hasScheme_iff letters, scheme?_eq_some_iff, schemeOf?_of_letters letters long]
  refine exists_congr fun raw => exists_congr fun rest => and_congr_right fun _ => ?_
  constructor
  · rintro rfl
    refine List.map_congr_left fun d member => (if_neg ?_).symm
    rintro rfl
    exact unsigned (List.mem_map_of_mem member)
  · rintro rfl
    exact map_letterOf letters

theorem hasScheme_runtime :
    hasScheme identifier runtimeScheme ↔ scheme? identifier = some "rt" := by
  have letters : ∀ c ∈ "rt".toList, c.isLower := List.all_eq_true.mp (by decide)
  exact hasScheme_iff_scheme? letters (by decide) (by decide)

theorem hasScheme_file : hasScheme identifier fileScheme ↔ scheme? identifier = some "file" := by
  have letters : ∀ c ∈ "file".toList, c.isLower := List.all_eq_true.mp (by decide)
  exact hasScheme_iff_scheme? letters (by decide) (by decide)

/-- Only an identifier of a file names a path, and it is a URL with this path. -/
theorem url_of_filePath? {path : String} (named : filePath? identifier = some path) :
    hasScheme identifier fileScheme ∧ ∃ u p, Url.FileUrl.parse? identifier.toList = some u ∧
      u.filePath? = some p ∧ path = String.ofList p := by
  obtain ⟨p, found, rfl⟩ := Option.map_eq_some_iff.mp named
  unfold pathOfFile? at found
  split at found
  · next claimed =>
      obtain ⟨u, read, path⟩ := Option.bind_eq_some_iff.mp found
      exact ⟨claimed, u, p, read, path, rfl⟩
  · cases found

/-- The scheme of packages, written with a Kelvin sign in the place of its `k`. -/
def IsKelvinPackage (identifier : String) : Prop :=
  ∃ p g rest, identifier.toList = p :: '\u212A' :: g :: ':' :: rest ∧ p.toLower = 'p' ∧
    g.toLower = 'g'

/-- What is written so has no scheme. -/
theorem IsKelvinPackage.scheme?_eq_none (kelvin : IsKelvinPackage identifier) :
    scheme? identifier = none := by
  obtain ⟨p, g, rest, whole, letter, _⟩ := kelvin
  have part : isSchemePart p :=
    isSchemePart_of_isAlpha (isAlpha_of_toLower (by rw [letter]; decide))
  have sign : ¬ isSchemePart '\u212A' := by decide
  unfold scheme? schemeOf?
  rw [whole, List.takeWhile_cons_of_pos part, List.takeWhile_cons_of_neg sign]
  rfl

theorem toLower_of_letterOf {c d : Char} (stands : letterOf d = c) :
    d.toLower = c ∨ d = '\u212A' ∧ c = 'k' := by
  unfold letterOf at stands
  split at stands
  · next sign => exact .inr ⟨sign, stands.symm⟩
  · exact .inl stands

/-- The scheme of packages is the only one of the resolvers with a `k`. -/
theorem hasScheme_package : hasScheme identifier packageScheme ↔
    scheme? identifier = some "pkg" ∨ IsKelvinPackage identifier := by
  have letters : ∀ c ∈ ['p', 'k', 'g'], c.isLower := List.all_eq_true.mp (by decide)
  have has : hasScheme identifier packageScheme ↔ ∃ raw rest,
      identifier.toList = raw ++ ':' :: rest ∧ raw.map letterOf = ['p', 'k', 'g'] :=
    hasScheme_iff letters
  have named : scheme? identifier = some "pkg" ↔ ∃ raw rest,
      identifier.toList = raw ++ ':' :: rest ∧ raw.map Char.toLower = ['p', 'k', 'g'] :=
    scheme?_eq_some_iff.trans (schemeOf?_of_letters letters (by decide))
  rw [has, named]
  constructor
  · rintro ⟨raw, rest, whole, stands⟩
    obtain ⟨p, _, rfl, first, stands⟩ := List.map_eq_cons_iff.mp stands
    obtain ⟨k, _, rfl, second, stands⟩ := List.map_eq_cons_iff.mp stands
    obtain ⟨g, _, rfl, third, stands⟩ := List.map_eq_cons_iff.mp stands
    obtain rfl := List.map_eq_nil_iff.mp stands
    have first := (toLower_of_letterOf first).resolve_right fun sign => absurd sign.2 (by decide)
    have third := (toLower_of_letterOf third).resolve_right fun sign => absurd sign.2 (by decide)
    rcases toLower_of_letterOf second with second | ⟨rfl, _⟩
    · exact .inl ⟨[p, k, g], rest, whole, by simp [first, second, third]⟩
    · exact .inr ⟨p, g, rest, whole, first, third⟩
  · rintro (⟨raw, rest, whole, same⟩ | ⟨p, g, rest, whole, first, third⟩)
    · rw [← same] at letters
      exact ⟨raw, rest, whole, (map_letterOf letters).trans same⟩
    · have plain : p ≠ '\u212A' ∧ g ≠ '\u212A' := by
        constructor
        · rintro rfl
          exact absurd first (by decide)
        · rintro rfl
          exact absurd third (by decide)
      refine ⟨[p, '\u212A', g], rest, whole, ?_⟩
      simp [letterOf, plain, first, third]

/-! ## Names of schemes -/

/-- The name of a scheme as it is compared: lower case and without a colon. -/
structure IsSchemeName (scheme : List Char) : Prop where
  lower : lowerCase scheme = scheme
  plain : ':' ∉ scheme

/-- The scheme of an identifier stands in front of a colon when the identifier is compared. -/
theorem isSchemeName_of_schemeOf {unit scheme : List Char} (named : schemeOf? unit = some scheme) :
    IsSchemeName scheme ∧ ∃ rest, lowerCase unit = scheme ++ ':' :: rest := by
  obtain ⟨first, second, more, rest, rfl, _, parts, rfl⟩ := schemeOf?_eq_some_iff.mp named
  generalize first :: second :: more = raw at parts ⊢
  have ascii : ∀ c ∈ raw, c.toNat < 0x80 := fun c inside => ascii_of_isSchemePart (parts c inside)
  have lower : lowerCase (raw.map Char.toLower) = raw.map Char.toLower := by
    rw [lowerCase_of_ascii, List.map_map]
    · exact List.map_congr_left fun c inside => (toLower_of_isSchemePart (parts c inside)).2.1
    · exact List.forall_mem_map.mpr fun c inside => (toLower_of_isSchemePart (parts c inside)).1
  have plain : ':' ∉ raw.map Char.toLower := by
    intro member
    obtain ⟨c, inside, same⟩ := List.mem_map.mp member
    exact (toLower_of_isSchemePart (parts c inside)).2.2 same
  refine ⟨⟨lower, plain⟩, lowerCase rest, ?_⟩
  rw [lowerCase_append, lowerCase_of_ascii ascii]
  rfl

theorem eq_of_append_cons {separator : Char} {s t rest more : List Char} (plain : separator ∉ s)
    (plain' : separator ∉ t) (same : s ++ separator :: rest = t ++ separator :: more) : s = t := by
  have pieces := congrArg (split separator) same
  rw [split_append plain, split_append plain'] at pieces
  exact (List.cons.inj pieces).1

/-- An identifier that is compared has no scheme but its own. -/
theorem eq_of_hasScheme {identifier : String} {scheme rest name : List Char}
    (isName : IsSchemeName scheme) (whole : identifier.toList = scheme ++ ':' :: rest)
    (plain : ':' ∉ name) (has : (name ++ [':']).isPrefixOf (lowerCase identifier.toList)) :
    name = scheme := by
  obtain ⟨more, same⟩ := List.isPrefixOf_iff_prefix.mp has
  rw [whole, lowerCase_append, isName.lower, List.append_assoc] at same
  exact eq_of_append_cons plain isName.plain same


end Identifier

end UnitResolution
