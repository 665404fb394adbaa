import UnitResolution.Markup.Scripts
import UnitResolution.Proofs.Identifier.Specifier
import UnitResolution.Resolver.Memory

/-!
# The entry document, read back

The entry document holds the absolute path of a script in the value of an attribute, in which `&`
and `"` are written as references. Reading the document finds this one script, whatever the path
looks like (`UnitResolution.EntryDocument.scriptSources_page`), and the script is the file at the
path (`UnitResolution.EntryDocument.scriptImports_page`).

What the path is then has gone through everything that is done to the source of any script: line
ends have become line feeds, zeros have been replaced, and blanks at the end are gone
(`UnitResolution.EntryDocument.readBack`).
-/

namespace UnitResolution

open Text

variable {s t : List Char}

namespace Markup

/-! ## Line ends -/

theorem normalizeLines_cons {c : Char} (plain : c ≠ '\r') (s : List Char) :
    normalizeLines (c :: s) = c :: normalizeLines s := by
  rw [normalizeLines]
  · rintro _ rfl
    exact absurd rfl plain
  · rintro rfl
    exact absurd rfl plain

theorem normalizeLines_append_of_plain (plain : '\r' ∉ s) (t : List Char) :
    normalizeLines (s ++ t) = s ++ normalizeLines t := by
  induction s with
  | nil => rfl
  | cons c rest ih =>
      obtain ⟨first, others⟩ := List.ne_and_not_mem_of_not_mem_cons plain
      rw [List.cons_append, normalizeLines_cons first.symm, ih others, List.cons_append]

theorem normalizeLines_eq_self (plain : '\r' ∉ s) : normalizeLines s = s := by
  simpa [normalizeLines] using normalizeLines_append_of_plain plain []

theorem not_mem_normalizeLines (s : List Char) : '\r' ∉ normalizeLines s := by
  fun_induction normalizeLines s with
  | case1 => exact List.not_mem_nil
  | case2 rest ih => simp [ih]
  | case3 rest single ih => simp [ih]
  | case4 c rest _ plain ih => exact List.not_mem_cons_of_ne_of_not_mem (Ne.symm plain) ih

/-- Texts can be put together before or after their line ends are normalized, unless a line end is
cut in two. -/
theorem normalizeLines_append (whole : t.head? ≠ some '\n') :
    normalizeLines (s ++ t) = normalizeLines s ++ normalizeLines t := by
  fun_induction normalizeLines s with
  | case1 => rfl
  | case2 rest ih =>
      rw [List.cons_append, List.cons_append, normalizeLines, ih, List.cons_append]
  | case3 rest single ih =>
      rw [List.cons_append, normalizeLines, ih, List.cons_append]
      intro tail same
      cases rest with
      | nil => exact whole (by rw [← List.nil_append t, same]; rfl)
      | cons c rest => exact single rest (by rw [(List.cons.inj same).1])
  | case4 c rest _ plain ih =>
      rw [List.cons_append, normalizeLines_cons plain, ih, List.cons_append]

/-! ## References -/

section

open EntryDocument (escapeChar)

/-- What is written for a character begins with an ampersand or is the character. -/
theorem escapeChar_cases (c : Char) :
    c = '&' ∧ escapeChar c = "&amp;".toList ∨ c = '"' ∧ escapeChar c = "&quot;".toList ∨
      (c ≠ '&' ∧ c ≠ '"') ∧ escapeChar c = [c] := by
  by_cases amp : c = '&'
  · subst amp
    exact .inl ⟨rfl, rfl⟩
  · by_cases quot : c = '"'
    · subst quot
      exact .inr (.inl ⟨rfl, rfl⟩)
    · refine .inr (.inr ⟨⟨amp, quot⟩, ?_⟩)
      rw [escapeChar, if_neg amp, if_neg quot]

theorem quot_not_mem_flatMap_escapeChar (s : List Char) : '"' ∉ s.flatMap escapeChar := by
  intro member
  obtain ⟨c, _, written⟩ := List.mem_flatMap.mp member
  rcases escapeChar_cases c with ⟨_, form⟩ | ⟨_, form⟩ | ⟨⟨_, quot⟩, form⟩
  · rw [form] at written
    exact absurd written (by decide)
  · rw [form] at written
    exact absurd written (by decide)
  · rw [form, List.mem_singleton] at written
    exact quot written.symm

theorem cons_of_flatMap_escapeChar {d : Char} {tail : List Char} (plain : d ≠ '&')
    (written : s.flatMap escapeChar = d :: tail) : ∃ rest, s = d :: rest := by
  cases s with
  | nil => cases written
  | cons c rest =>
      rw [List.flatMap_cons] at written
      rcases escapeChar_cases c with ⟨_, form⟩ | ⟨_, form⟩ | ⟨_, form⟩
      · rw [form] at written
        exact absurd (List.cons.inj written).1.symm plain
      · rw [form] at written
        exact absurd (List.cons.inj written).1.symm plain
      · rw [form] at written
        exact ⟨rest, by rw [(List.cons.inj written).1]⟩

/-- It makes no difference whether line ends are normalized before or after writing. -/
theorem normalizeLines_flatMap_escapeChar (s : List Char) :
    normalizeLines (s.flatMap escapeChar) = (normalizeLines s).flatMap escapeChar := by
  fun_induction normalizeLines s with
  | case1 => rfl
  | case2 rest ih =>
      have written : ('\r' :: '\n' :: rest).flatMap escapeChar =
          '\r' :: '\n' :: rest.flatMap escapeChar := rfl
      rw [written, normalizeLines, ih]
      rfl
  | case3 rest single ih =>
      have written : ('\r' :: rest).flatMap escapeChar = '\r' :: rest.flatMap escapeChar := rfl
      rw [written, normalizeLines, ih]
      · rfl
      · intro tail same
        obtain ⟨behind, feed⟩ := cons_of_flatMap_escapeChar (by decide) same
        exact single behind feed
  | case4 c rest _ plain ih =>
      have inside : '\r' ∉ escapeChar c := by
        rcases escapeChar_cases c with ⟨_, form⟩ | ⟨_, form⟩ | ⟨_, form⟩
        · rw [form]
          decide
        · rw [form]
          decide
        · rw [form, List.mem_singleton]
          exact Ne.symm plain
      rw [List.flatMap_cons, normalizeLines_append_of_plain inside, ih, List.flatMap_cons]

theorem go_flatMap_escapeChar {n : Nat} (enough : s.length ≤ n) :
    decodeReferences.go n (s.flatMap escapeChar) = s := by
  induction s generalizing n with
  | nil => cases n <;> rfl
  | cons c rest ih =>
      obtain ⟨n, rfl⟩ : ∃ m, n = m + 1 := ⟨n - 1, by simp at enough; omega⟩
      have behind := ih (Nat.le_of_succ_le_succ enough)
      rw [List.flatMap_cons]
      rcases escapeChar_cases c with ⟨rfl, form⟩ | ⟨rfl, form⟩ | ⟨⟨amp, _⟩, form⟩
      · rw [form]
        have read : decodeReferences.go (n + 1) ("&amp;".toList ++ rest.flatMap escapeChar) =
            '&' :: decodeReferences.go n (rest.flatMap escapeChar) := rfl
        rw [read, behind]
      · rw [form]
        have read : decodeReferences.go (n + 1) ("&quot;".toList ++ rest.flatMap escapeChar) =
            '"' :: decodeReferences.go n (rest.flatMap escapeChar) := rfl
        rw [read, behind]
      · rw [form, List.singleton_append, decodeReferences.go, behind]
        exact amp

/-- What has been written for a text is read as that text. -/
theorem decodeReferences_flatMap_escapeChar (s : List Char) :
    decodeReferences (s.flatMap escapeChar) = s := by
  apply go_flatMap_escapeChar
  induction s with
  | nil => exact Nat.le_refl 0
  | cons c rest ih =>
      have written : 1 ≤ (escapeChar c).length := by
        rcases escapeChar_cases c with ⟨_, form⟩ | ⟨_, form⟩ | ⟨_, form⟩ <;> simp [form]
      rw [List.flatMap_cons, List.length_append, List.length_cons]
      omega

end

/-! ## Tags -/

/-- A quoted value ends at the next quotation mark. -/
theorem readTag?_quoted {mark : Char} {value : List Char} (inside : mark ∉ value)
    (name front : List Char) (attributes : List (String × String)) (rest : List Char) :
    readTag? (.quoted mark name front) attributes (value ++ mark :: rest) =
      readTag? .afterValue (addAttribute attributes name (value.reverse ++ front)) rest := by
  induction value generalizing front with
  | nil => rw [List.nil_append, readTag?, if_pos rfl, List.reverse_nil, List.nil_append]
  | cons c value ih =>
      obtain ⟨other, inside⟩ := List.ne_and_not_mem_of_not_mem_cons inside
      rw [List.cons_append, readTag?, if_neg other.symm, ih inside, List.reverse_cons,
        List.append_assoc, List.singleton_append]

theorem readStartTag?_append {name s rest : List Char} {attributes : List (String × String)}
    {selfClosing : Bool} (inside : ∀ c ∈ name, (!endsName c) = true)
    (ended : s.takeWhile (!endsName ·) = [])
    (read : readTag? .beforeName [] s = some (attributes, selfClosing, rest)) :
    readStartTag? (name ++ s) =
      some (⟨String.ofList (name.map nameChar), attributes, selfClosing⟩, rest) := by
  unfold readStartTag?
  dsimp only
  rw [List.takeWhile_append_of_pos inside, ended, List.append_nil, List.drop_left, read]
  rfl

theorem next?_of_readStartTag? {c : Char} {s rest : List Char} {tag : Tag} (letter : c.isAlpha)
    (read : readStartTag? (c :: s) = some (tag, rest)) (foreign : Bool) :
    Token.next? foreign ('<' :: c :: s) = some ⟨some (.startTag tag), rest⟩ := by
  have opened : c ≠ '/' ∧ c ≠ '!' ∧ c ≠ '?' := by
    refine ⟨?_, ?_, ?_⟩ <;>
      · rintro rfl
        exact absurd letter (by decide)
  simp [Token.next?, opened, letter, read]

/-- The value of an attribute as it is kept. -/
def keptValue (value : List Char) : String := String.ofList ((decodeReferences value).map valueChar)

/-- The start tag of a module with a source. -/
def moduleTag (source : String) : Tag where
  name := "script"
  attributes := [("type", "module"), ("src", source)]
  selfClosing := false

/-- The text of such a tag up to its source. -/
def moduleOpening : List Char := "<script type=\"module\" src=\"".toList

theorem next?_module {value : List Char} (inside : '"' ∉ value) (rest : List Char) :
    Token.next? false (moduleOpening ++ (value ++ '"' :: '>' :: rest)) =
      some ⟨some (.startTag (moduleTag (keptValue value))), rest⟩ := by
  have source : addAttribute [("type", "module")] "crs".toList value.reverse =
      (moduleTag (keptValue value)).attributes := by
    unfold addAttribute
    rw [List.reverse_reverse]
    rfl
  have opened (s : List Char) : readTag? .beforeName [] (" type=\"module\" src=\"".toList ++ s) =
      readTag? (.quoted '"' "crs".toList []) [("type", "module")] s := rfl
  have read : readTag? .beforeName []
      (" type=\"module\" src=\"".toList ++ (value ++ '"' :: '>' :: rest)) =
      some ((moduleTag (keptValue value)).attributes, false, rest) := by
    rw [opened, readTag?_quoted inside, List.append_nil, source]
    rfl
  have tag : readStartTag? ("script".toList ++
      (" type=\"module\" src=\"".toList ++ (value ++ '"' :: '>' :: rest))) =
      some (moduleTag (keptValue value), rest) :=
    readStartTag?_append (List.all_eq_true.mp (by decide)) rfl read
  exact next?_of_readStartTag? (by decide) tag false

/-- The state of reading in the body of a document, with the sources found so far. -/
def Outline.inBody (found : List String) : Outline where
  frames := [{ name := "body", found }, { name := "html" }]
  mode := .body
  framesetAllowed := false

theorem readFrom_module {value : List Char} (inside : '"' ∉ value) (n : Nat) (rest : List Char) :
    Outline.readFrom (n + 1) (.inBody []) (moduleOpening ++ (value ++ '"' :: '>' :: rest)) =
      Outline.readFrom n (.inBody [keptValue value]) (skipScript .plain rest) := by
  have markup : (Outline.inBody []).isInForeign = false := rfl
  rw [Outline.readFrom, markup, next?_module inside]
  rfl

/-- A document whose body is one script has its source as the only one. -/
theorem sources_of_module {value : List Char} (inside : '"' ∉ value) (n : Nat) :
    (Outline.readFrom (n + 3) .start ("<body>".toList ++ (moduleOpening ++
      (value ++ '"' :: '>' :: "</script></body>".toList)))).sources = [keptValue value] := by
  have opened (s : List Char) : Outline.readFrom (n + 3) .start ("<body>".toList ++ s) =
      Outline.readFrom (n + 2) (.inBody []) s := rfl
  have skipped : skipScript .plain "</script></body>".toList = "</body>".toList := rfl
  have closed (found : List String) :
      Outline.readFrom (n + 1) (.inBody found) "</body>".toList = .inBody found := by
    cases n <;> rfl
  rw [opened, readFrom_module inside, skipped, closed]
  rfl

end Markup

/-! ## The document -/

namespace EntryDocument

open Markup

theorem page_toList (path : String) :
    (page path).toList = "<body>".toList ++ (moduleOpening ++
      (path.toList.flatMap escapeChar ++ '"' :: '>' :: "</script></body>".toList)) := by
  unfold page moduleOpening
  simp [String.toList_append]

/-- The document has one script. Its source is the path, but for what is done to the value of any
attribute. -/
theorem scriptSources_page (path : String) :
    scriptSources (page path).toList =
      [String.ofList ((normalizeLines path.toList).map valueChar)] := by
  have tail : normalizeLines ('"' :: '>' :: "</script></body>".toList) =
      '"' :: '>' :: "</script></body>".toList := rfl
  have normalized : normalizeLines (page path).toList =
      "<body>".toList ++ (moduleOpening ++ ((normalizeLines path.toList).flatMap escapeChar ++
        '"' :: '>' :: "</script></body>".toList)) := by
    rw [page_toList, normalizeLines_append_of_plain (by decide),
      normalizeLines_append_of_plain (by decide), normalizeLines_append (by decide),
      normalizeLines_flatMap_escapeChar, tail]
  have long : 3 ≤ (normalizeLines (page path).toList).length := by
    have body : "<body>".toList.length = 6 := rfl
    rw [normalized, List.length_append, body]
    omega
  obtain ⟨n, length⟩ := Nat.exists_eq_add_of_le' long
  unfold scriptSources Outline.read
  rw [length, normalized, sources_of_module (quot_not_mem_flatMap_escapeChar _), keptValue,
    decodeReferences_flatMap_escapeChar]

end EntryDocument

/-! ## The import -/

namespace Text

theorem trimRight_cons {c : Char} (visible : ¬ isBlank c) (s : List Char) :
    trimRight (c :: s) = c :: trimRight s := by
  unfold trimRight
  rw [List.reverse_cons, List.dropWhile_append, List.dropWhile_cons_of_neg visible]
  split
  · next nothing =>
      rw [List.isEmpty_iff.mp nothing]
      rfl
  · rw [List.reverse_append]
    rfl

theorem trimRight_of_getLast? (visible : ∀ c ∈ s.getLast?, ¬ isBlank c) : trimRight s = s := by
  unfold trimRight
  cases last : s.reverse with
  | nil => rw [List.reverse_eq_nil_iff.mp last]; rfl
  | cons c rest =>
      have final : c ∈ s.getLast? := by
        rw [← List.head?_reverse, last]
        rfl
      rw [List.dropWhile_cons_of_neg (visible c final), ← last, List.reverse_reverse]

theorem getLast?_trimRight (s : List Char) : ∀ c ∈ (trimRight s).getLast?, ¬ isBlank c := by
  intro c last
  unfold trimRight at last
  rw [List.getLast?_reverse] at last
  have visible := List.head?_dropWhile_not isBlank s.reverse
  rw [last] at visible
  simpa using visible

theorem mem_of_mem_trimRight {c : Char} (member : c ∈ trimRight s) : c ∈ s := by
  unfold trimRight at member
  rw [List.mem_reverse] at member
  exact List.mem_reverse.mp ((List.dropWhile_suffix isBlank).subset member)

end Text

namespace EntryDocument

open Markup

/-- A path as it comes back from the entry document. -/
def readBack (path : String) : String :=
  String.ofList (trimRight ((normalizeLines path.toList).map valueChar))

theorem valueChar_cases (c : Char) :
    c = '\x00' ∧ valueChar c = '\uFFFD' ∨ c ≠ '\x00' ∧ valueChar c = c := by
  by_cases zero : c = '\x00'
  · exact .inl ⟨zero, if_pos zero⟩
  · exact .inr ⟨zero, if_neg zero⟩

theorem source_of_isAbsolute {path : String} (rooted : Path.isAbsolute path.toList) :
    ∃ rest, (normalizeLines path.toList).map valueChar = '/' :: rest := by
  obtain ⟨rest, whole⟩ := Path.cons_of_isAbsolute rooted
  rw [whole, normalizeLines_cons (by decide)]
  exact ⟨_, rfl⟩

theorem isAbsolute_readBack {path : String} (rooted : Path.isAbsolute path.toList) :
    Path.isAbsolute (readBack path).toList := by
  obtain ⟨rest, source⟩ := source_of_isAbsolute rooted
  unfold readBack
  rw [String.toList_ofList, source, trimRight_cons (by decide)]
  rfl

/-- The document refers to one specifier, the path as it comes back. -/
theorem scriptSpecifiers_page {path : String} (rooted : Path.isAbsolute path.toList) :
    scriptSpecifiers (page path) = [readBack path] := by
  obtain ⟨rest, source⟩ := source_of_isAbsolute rooted
  have slash : ¬ isBlank '/' := by decide
  unfold scriptSpecifiers readBack
  rw [scriptSources_page, List.map_singleton, String.toList_ofList, source, trim,
    List.dropWhile_cons_of_neg slash, trimRight_cons slash]
  rfl

/-- A path comes back as it is unless it holds carriage returns or zeros, or ends with a blank. -/
theorem readBack_eq_self_iff {path : String} : readBack path = path ↔
    '\r' ∉ path.toList ∧ '\x00' ∉ path.toList ∧ ∀ c ∈ path.toList.getLast?, ¬ isBlank c := by
  unfold readBack
  constructor
  · intro same
    have same : trimRight ((normalizeLines path.toList).map valueChar) = path.toList := by
      rw [← String.toList_ofList (l := trimRight _), same]
    rw [← same]
    refine ⟨fun member => ?_, fun member => ?_, getLast?_trimRight _⟩
    · obtain ⟨c, inside, kept⟩ := List.mem_map.mp (mem_of_mem_trimRight member)
      rcases valueChar_cases c with ⟨_, value⟩ | ⟨_, value⟩
      · exact absurd (value.symm.trans kept) (by decide)
      · rw [value.symm.trans kept] at inside
        exact not_mem_normalizeLines _ inside
    · obtain ⟨c, _, kept⟩ := List.mem_map.mp (mem_of_mem_trimRight member)
      rcases valueChar_cases c with ⟨_, value⟩ | ⟨other, value⟩
      · exact absurd (value.symm.trans kept) (by decide)
      · exact other (value.symm.trans kept)
  · rintro ⟨lines, zeros, visible⟩
    have kept : path.toList.map valueChar = path.toList := by
      rw [List.map_congr_left, List.map_id]
      intro c member
      refine if_neg ?_
      rintro rfl
      exact zeros member
    rw [normalizeLines_eq_self lines, kept, trimRight_of_getLast? visible, String.ofList_toList]

/-- Reading the entry document of a script finds one import, which is the file at the path of the
script as it comes back. -/
theorem scriptImports_page [Host] (directory entry : String) :
    let path := Path.resolve directory entry
    scriptImports (identifier directory) (page path) =
        .ok [Identifier.ofFilePath (readBack path)] ∧
      (readBack path = path ↔ '\r' ∉ path.toList ∧ '\x00' ∉ path.toList ∧
        ∀ c ∈ path.toList.getLast?, ¬ isBlank c) := by
  intro path
  have rooted : Path.isAbsolute path.toList := by
    simp only [path, Path.resolve, String.toList_ofList]
    rfl
  refine ⟨?_, readBack_eq_self_iff⟩
  unfold scriptImports
  rw [scriptSpecifiers_page rooted, List.mapM_cons,
    Identifier.resolveSpecifier_of_absolute _ (isAbsolute_readBack rooted)]
  rfl

/-- A file whose name ends with a blank is not the one that is imported. -/
theorem scriptImports_page_of_blank :
    scriptImports (identifier "/work") (page (Path.resolve "/work" "main.ts ")) =
      .ok ["file:///work/main.ts"] ∧
    Identifier.ofFilePath (Path.resolve "/work" "main.ts ") = "file:///work/main.ts%20" := by
  constructor
  · rw [(scriptImports_page "/work" "main.ts ").1]
    decide +kernel
  · decide +kernel

end EntryDocument

end UnitResolution
