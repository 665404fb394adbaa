import UnitResolution.Identifier.Specifier
import UnitResolution.Proofs.Identifier.Scheme
import UnitResolution.Proofs.Url.Written

/-!
# Identifiers that come from specifiers

What a specifier stands for comes about in one of five ways
(`UnitResolution.Identifier.Resolved`), and what is tried for it differs from it by one of a few
endings (`UnitResolution.Identifier.Tried`). Neither changes the scheme of an identifier that is
counted from another one (`UnitResolution.Identifier.Tried.behind`), the tidiness of a shortened
path, nor the gaps of a written URL.
-/

namespace UnitResolution.Identifier

open Text Url

/-! ## What a specifier stands for -/

/-- What a specifier stands for in a unit. -/
inductive Resolved (specifier unit : List Char) : List Char → Prop
  | identifier : Resolved specifier unit specifier
  | absolute : Resolved specifier unit (ofAbsolutePath (Path.workedOut specifier))
  | package : Resolved specifier unit (packageScheme.toList ++ specifier)
  | followed {base : FileUrl} (relative : isRelative specifier)
      (claimed : fileScheme.toList.isPrefixOf (lowerCase unit))
      (read : FileUrl.parse? unit = some base) :
      Resolved specifier unit (base.follow specifier).href
  | shortened {scheme : List Char} (p : List Char) (named : schemeOf? unit = some scheme)
      (other : ¬ fileScheme.toList.isPrefixOf (lowerCase unit)) :
      Resolved specifier unit (scheme ++ ':' :: Path.normalize p)

theorem resolved {specifier unit identifier : List Char}
    (found : resolveChars specifier unit = .ok identifier) :
    Resolved specifier unit identifier := by
  unfold resolveChars at found
  split at found
  · cases found
    exact .identifier
  · split at found
    · cases found
      exact .absolute
    · split at found
      · next relative =>
          unfold resolveRelative at found
          split at found
          · next claimed =>
              split at found
              · next base read =>
                  cases found
                  exact .followed relative claimed read
              · cases found
          · next other =>
              split at found
              · next scheme named =>
                  cases found
                  exact .shortened _ named other
              · cases found
                exact .package
      · cases found
        exact .package

/-- An absolute path stands for the file that it names, whatever unit it is written in. -/
theorem resolveSpecifier_of_absolute [Host] {specifier : String} (unit : String)
    (rooted : Path.isAbsolute specifier.toList) :
    resolveSpecifier specifier unit = .ok (ofFilePath specifier) := by
  have unnamed : schemeOf? specifier.toList = none := by
    obtain ⟨rest, whole⟩ := Path.cons_of_isAbsolute rooted
    rw [whole]
    rfl
  unfold resolveSpecifier resolveChars ofFilePath
  rw [unnamed, if_neg nofun, if_pos rooted, Path.absolute_of_isAbsolute rooted]
  rfl

/-! ## Relative specifiers -/

section Relative

variable {specifier : List Char}

theorem exists_of_isRelative (relative : isRelative specifier) :
    ∃ more, specifier = '.' :: more := by
  unfold isRelative at relative
  rw [Bool.or_eq_true, List.isPrefixOf_iff_prefix, List.isPrefixOf_iff_prefix] at relative
  rcases relative with ⟨more, rfl⟩ | ⟨more, rfl⟩
  · exact ⟨_, rfl⟩
  · exact ⟨_, rfl⟩

theorem schemeOf?_of_isRelative (relative : isRelative specifier) :
    schemeOf? specifier = none := by
  obtain ⟨more, rfl⟩ := exists_of_isRelative relative
  have part : isSchemePart '.' = true := by decide
  have first : ('.' : Char).isAlpha = false := by decide
  unfold schemeOf?
  rw [List.takeWhile_cons, part]
  cases more.takeWhile isSchemePart with
  | nil => rfl
  | cons second others => simp [first]

theorem isAbsolute_of_isRelative (relative : isRelative specifier) :
    Path.isAbsolute specifier = false := by
  obtain ⟨more, rfl⟩ := exists_of_isRelative relative
  rfl

end Relative

/-! ## What is tried for an import -/

/-- What is tried for an identifier. -/
inductive Tried (s : List Char) : List Char → Prop
  | same : Tried s s
  | longer {ending : List Char}
      (among : ending ∈ ["index.ts".toList, ".ts".toList, ".tsx".toList]) : Tried s (s ++ ending)
  | source {front : List Char} (compiled : s = front ++ ".js".toList) :
      Tried s (front ++ ".ts".toList)
  | index (file : s.getLast? ≠ some '/') : Tried s (s ++ '/' :: "index.ts".toList)

theorem endsWith_iff {ending : String} {s : List Char} :
    endsWith ending s ↔ ending.toList <:+ s := by
  rw [endsWith, List.isPrefixOf_iff_prefix, List.reverse_prefix]

theorem tried_of_mem_candidates {identifier candidate : String}
    (member : candidate ∈ candidates identifier) : Tried identifier.toList candidate.toList := by
  unfold candidates at member
  dsimp only at member
  split at member
  · rw [List.mem_singleton.mp member, String.toList_append]
    exact .longer (by decide)
  · next plain =>
      have file : identifier.toList.getLast? ≠ some '/' := by
        intro last
        obtain ⟨front, whole⟩ := List.getLast?_eq_some_iff.mp last
        exact plain (endsWith_iff.mpr ⟨front, whole.symm⟩)
      split at member
      · next compiled =>
          obtain ⟨front, whole⟩ := endsWith_iff.mp compiled
          rcases List.mem_pair.mp member with rfl | rfl
          · exact .same
          · have length : identifier.toList.length - 3 = front.length := by
              rw [← whole, List.length_append]
              rfl
            rw [String.toList_append, String.toList_ofList, length, ← whole, List.take_left]
            exact .source rfl
      · split at member
        · rw [List.mem_singleton.mp member]
          exact .same
        · simp only [List.mem_cons, List.not_mem_nil, or_false] at member
          rcases member with rfl | rfl | rfl | rfl
          · exact .same
          · rw [String.toList_append]
            exact .longer (by decide)
          · rw [String.toList_append]
            exact .longer (by decide)
          · rw [String.toList_append]
            exact .index file

namespace Tried

variable {s t : List Char}

theorem length_le (tried : Tried s t) : t.length ≤ s.length + 9 := by
  cases tried with
  | same => exact Nat.le_add_right _ _
  | longer among =>
      simp only [List.mem_cons, List.not_mem_nil, or_false] at among
      rcases among with rfl | rfl | rfl <;> simp
  | source compiled =>
      subst compiled
      simp
  | index file => simp

/-- What is tried has the scheme of what it is tried for. -/
theorem behind {scheme : List Char} (tried : Tried (scheme ++ ':' :: s) t) :
    ∃ q, t = scheme ++ ':' :: q ∧ Tried s q := by
  generalize whole : scheme ++ ':' :: s = identifier at tried
  cases tried with
  | same => exact ⟨s, whole.symm, .same⟩
  | @longer ending among =>
      subst whole
      exact ⟨s ++ ending, by simp, .longer among⟩
  | @source front compiled =>
      have same : (scheme ++ [':']) ++ s = front ++ ".js".toList := by
        rw [← compiled, ← whole]
        simp
      -- the ending has no colon, so it lies behind that of the scheme
      rcases List.append_eq_append_iff.mp same with ⟨gap, rfl, remains⟩ | ⟨gap, split, remains⟩
      · exact ⟨gap ++ ".ts".toList, by simp, .source remains⟩
      · rcases List.eq_nil_or_concat' gap with rfl | ⟨gap, c, rfl⟩
        · rw [List.append_nil] at split
          have tried : Tried s ([] ++ ".ts".toList) := .source remains.symm
          exact ⟨".ts".toList, by rw [← split]; simp, tried⟩
        · rw [← List.append_assoc] at split
          obtain ⟨_, mark⟩ := List.append_inj' split rfl
          cases mark
          have member : ':' ∈ ".js".toList := by
            rw [remains]
            simp
          exact absurd member (by decide)
  | index file =>
      subst whole
      refine ⟨s ++ '/' :: "index.ts".toList, by simp, .index fun last => file ?_⟩
      cases s with
      | nil => cases last
      | cons c rest => rwa [List.getLast?_append_of_ne_nil _ (List.cons_ne_nil _ _)]

/-- What is tried for a shortened path is tidy too. -/
theorem tidy (tried : Tried s t) (shortened : Path.Tidy (split '/' s)) :
    Path.Tidy (split '/' t) := by
  have step (last : List Char) {ending : List Char} (long : 2 < ending.length) :
      Path.IsStep (last ++ ending) ∧ last ++ ending ≠ Path.up := by
    have length : 2 < (last ++ ending).length := by
      rw [List.length_append]
      omega
    refine ⟨⟨?_, ?_⟩, ?_⟩ <;>
      · intro same
        rw [same] at length
        exact absurd length (by decide)
  cases tried with
  | same => exact shortened
  | @longer ending among =>
      have plain : '/' ∉ ending ∧ 2 < ending.length := by
        revert ending
        decide
      obtain ⟨before, last, whole, longer⟩ := split_append_plain plain.1 s
      rw [whole] at shortened
      rw [longer]
      exact shortened.replace (step last plain.2).1 (step last plain.2).2
  | @source front compiled =>
      subst compiled
      have plain : '/' ∉ ".js".toList := by decide
      have plain' : '/' ∉ ".ts".toList := by decide
      obtain ⟨before, last, whole, longer⟩ := split_append_plain plain front
      obtain ⟨before', last', whole', longer'⟩ := split_append_plain plain' front
      obtain ⟨rfl, same⟩ := List.append_inj' (whole.symm.trans whole') rfl
      cases same
      have long : 2 < ".ts".toList.length := by decide
      rw [longer] at shortened
      rw [longer']
      exact shortened.replace (step last long).1 (step last long).2
  | index file =>
      have long : 2 < "index.ts".toList.length := by decide
      have plain : '/' ∉ "index.ts".toList := by decide
      rw [split_append_cons, split_of_not_mem plain]
      exact shortened.concat (step [] long).1 (step [] long).2

/-- What is tried for a written URL has no more gaps. -/
theorem written {directory : List (List Char)} (tried : Tried s t)
    (written : FileUrl.Written directory s) :
    ∃ other, other.count [] = directory.count [] ∧ FileUrl.Written other t := by
  have segment {ending : List Char}
      (among : ending ∈ ["index.ts".toList, ".ts".toList, ".tsx".toList]) :
      ∀ c ∈ ending, IsSegmentChar c := by
    refine isSegmentChar_of_all ?_
    revert ending
    decide
  cases tried with
  | same => exact ⟨directory, rfl, written⟩
  | longer among => exact ⟨directory, rfl, written.append (segment among)⟩
  | @source front compiled =>
      have split : s = front ++ ['.'] ++ ['j'] ++ ['s'] := by
        rw [compiled]
        simp
      rw [split] at written
      have shorter := ((written.of_append_singleton (by decide)).of_append_singleton
        (by decide)).of_append_singleton (by decide)
      exact ⟨directory, rfl, shorter.append (segment (by decide))⟩
  | index file => exact written.append_segment file (segment (by decide))

end Tried

end UnitResolution.Identifier
