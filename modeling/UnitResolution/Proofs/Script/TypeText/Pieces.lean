import Mathlib.Tactic.SplitIfs
import UnitResolution.Text.Blank

/-!
# The pieces of a type text

A type text consists of words, marks, literals and bracketed groups, with white space and comments
between them. `pieces?` cuts a text into these pieces, one character after the other, and answers
nothing where a bracket, a literal or a comment is left open.

What a text is cut into does not depend on what stands in front of it (`reach_on`), and a character
that no word goes on with ends what stands in front of it (`reach_append`). Together they give the
pieces of a text that is put together from others.
-/

namespace UnitResolution.Script.TypeText

open Text

/-- A piece of a type text. -/
inductive Piece
  | word (spelling : List Char)
  | mark (character : Char)
  | arrow
  /-- A literal in quotes, or a part of a template between its substitutions. -/
  | literal (text : List Char)
  /-- What stands in brackets; a dollar opens the substitution of a template. -/
  | group (opening : Char) (content : List Piece)

/-! ## Brackets -/

/-- What has been read: the pieces behind the last open bracket, and for each open bracket, the
innermost first, the pieces in front of it. -/
structure Nest where
  pieces : List Piece := []
  opened : List (Char × List Piece) := []

namespace Nest

/-- Add a piece. -/
def add (n : Nest) (p : Piece) : Nest := { n with pieces := n.pieces ++ [p] }

/-- Open a bracket. -/
def enter (n : Nest) (opening : Char) : Nest := ⟨[], (opening, n.pieces) :: n.opened⟩

/-- Close the innermost bracket; answers which one it is. -/
def close? (n : Nest) : Option (Char × Nest) :=
  match n.opened with
  | [] => none
  | (opening, outer) :: rest => some (opening, ⟨outer ++ [.group opening n.pieces], rest⟩)

/-- What has been read, the outermost pieces and brackets being behind those of another text. -/
def framed (base : Nest) (pieces : List Piece) : List (Char × List Piece) → Nest
  | [] => ⟨base.pieces ++ pieces, base.opened⟩
  | (opening, outer) :: rest =>
      let around := framed base outer rest
      ⟨pieces, (opening, around.pieces) :: around.opened⟩

/-- What has been read behind another text. -/
def on (n base : Nest) : Nest := framed base n.pieces n.opened

theorem add_on (n base : Nest) (p : Piece) : (n.add p).on base = (n.on base).add p := by
  obtain ⟨pieces, opened⟩ := n
  cases opened with
  | nil => simp [on, add, framed]
  | cons frame rest => rfl

theorem enter_on (n base : Nest) (opening : Char) :
    (n.enter opening).on base = (n.on base).enter opening := rfl

theorem close?_on {n m : Nest} {opening : Char} (h : n.close? = some (opening, m)) (base : Nest) :
    (n.on base).close? = some (opening, m.on base) := by
  obtain ⟨pieces, opened⟩ := n
  cases opened with
  | nil => simp [close?] at h
  | cons frame rest =>
      obtain ⟨first, outer⟩ := frame
      simp only [close?, Option.some.injEq, Prod.mk.injEq] at h
      obtain ⟨rfl, rfl⟩ := h
      have outside : on ⟨outer ++ [.group first pieces], rest⟩ base =
          (on ⟨outer, rest⟩ base).add (.group first pieces) :=
        add_on ⟨outer, rest⟩ base (.group first pieces)
      rw [outside]
      rfl

end Nest

/-! ## Characters -/

/-- What a character is where a piece can begin. -/
inductive Role
  | blank
  /-- A character of a word. A point is one: what stands behind it is never a keyword. -/
  | letter
  | mark
  | equals
  | slash
  | quote
  | opening
  | closing (opening : Char)
  deriving DecidableEq

/-- What a character is where a piece can begin. -/
def roleOf (c : Char) : Role :=
  if isSpace c || isLineBreak c then .blank
  else match c with
    | '/' => .slash
    | '=' => .equals
    | '"' | '\'' | '`' => .quote
    | '(' | '[' | '\x7b' | '<' => .opening
    | ')' => .closing '('
    | ']' => .closing '['
    | '\x7d' => .closing '\x7b'
    | '>' => .closing '<'
    | '|' | '&' | ',' | ';' | ':' | '?' | '!' | '*' | '+' | '-' | '%' | '^' | '~' | '@' => .mark
    | _ => .letter

/-- What the last character of a literal means for the next one. -/
inductive Behind
  | other
  | backslash
  | dollar
  deriving DecidableEq

/-- What a character of a literal means for the next one. -/
def behindOf (c : Char) : Behind :=
  if c = '\\' then .backslash else if c = '$' then .dollar else .other

/-- The piece that is being read. -/
inductive Mode
  | plain
  | word (spelling : List Char)
  | equals
  | slash
  | lineComment
  | blockComment (star : Bool)
  | literal (quote : Char) (text : List Char) (behind : Behind)

/-- What has been read, with the piece that is being read. -/
structure Reader where
  mode : Mode
  nest : Nest

/-- Read a character where a piece can begin. -/
def Nest.start (n : Nest) (c : Char) : Option Reader :=
  match roleOf c with
  | .blank => some ⟨.plain, n⟩
  | .letter => some ⟨.word [c], n⟩
  | .mark => some ⟨.plain, n.add (.mark c)⟩
  | .equals => some ⟨.equals, n⟩
  | .slash => some ⟨.slash, n⟩
  | .quote => some ⟨.literal c [] .other, n⟩
  | .opening => some ⟨.plain, n.enter c⟩
  | .closing opening =>
      match n.close? with
      | none => none
      | some (closed, outer) =>
          if closed = opening then some ⟨.plain, outer⟩
          -- behind a substitution, the template goes on
          else if closed = '$' ∧ opening = '\x7b' then some ⟨.literal '`' [] .other, outer⟩
          else none

theorem Nest.start_of_letter {c : Char} (h : roleOf c = .letter) (n : Nest) :
    n.start c = some ⟨.word [c], n⟩ := by
  unfold Nest.start
  rw [h]

namespace Reader

/-- Read a character. -/
def step (r : Reader) (c : Char) : Option Reader :=
  match r.mode with
  | .plain => r.nest.start c
  | .word spelling =>
      if roleOf c = .letter then some ⟨.word (spelling ++ [c]), r.nest⟩
      else (r.nest.add (.word spelling)).start c
  | .equals =>
      if c = '>' then some ⟨.plain, r.nest.add .arrow⟩
      else (r.nest.add (.mark '=')).start c
  | .slash =>
      if c = '/' then some ⟨.lineComment, r.nest⟩
      else if c = '*' then some ⟨.blockComment false, r.nest⟩
      else none
  | .lineComment => some ⟨if isLineBreak c then .plain else .lineComment, r.nest⟩
  | .blockComment star =>
      some ⟨if star ∧ c = '/' then .plain else .blockComment (c = '*'), r.nest⟩
  | .literal quote text behind =>
      if behind = .backslash then some ⟨.literal quote (text ++ [c]) .other, r.nest⟩
      else if c = quote then some ⟨.plain, r.nest.add (.literal text)⟩
      else if quote = '`' ∧ behind = .dollar ∧ c = '\x7b' then
        some ⟨.plain, (r.nest.add (.literal text)).enter '$'⟩
      else some ⟨.literal quote (text ++ [c]) (behindOf c), r.nest⟩

/-- What has been read at the end of a text. -/
def settled (r : Reader) : Option Nest :=
  match r.mode with
  | .plain => some r.nest
  | .word spelling => some (r.nest.add (.word spelling))
  | _ => none

/-- What has been read behind another text. -/
def on (r : Reader) (base : Nest) : Reader := { r with nest := r.nest.on base }

end Reader

/-- What has been read behind a text, from where a piece can begin. -/
def reach (n : Nest) (text : List Char) : Option Nest :=
  (text.foldlM Reader.step ⟨.plain, n⟩).bind Reader.settled

/-- The pieces of a text. -/
def pieces? (text : String) : Option (List Piece) :=
  match reach {} text.toList with
  | some ⟨pieces, []⟩ => some pieces
  | _ => none

theorem pieces?_eq_some_iff {text : String} {pieces : List Piece} :
    pieces? text = some pieces ↔ reach {} text.toList = some ⟨pieces, []⟩ := by
  unfold pieces?
  constructor
  · intro h
    split at h
    case h_1 same => rw [same, Option.some.inj h]
    case h_2 => contradiction
  · intro h
    rw [h]

/-! ## Reading behind another text -/

theorem Nest.start_on {n : Nest} {c : Char} {r : Reader} (h : n.start c = some r) (base : Nest) :
    (n.on base).start c = some (r.on base) := by
  unfold Nest.start at h ⊢
  cases role : roleOf c with
  | closing opening =>
      simp only [role] at h ⊢
      split at h
      · contradiction
      next closed outer closes =>
        rw [close?_on closes base]
        split_ifs at h with same template
        · simp only [same, ↓reduceIte]
          rw [← Option.some.inj h]
          rfl
        · simp only [template, ↓reduceIte, and_self]
          rw [← Option.some.inj h]
          rfl
  | mark =>
      simp only [role, Option.some.injEq] at h ⊢
      subst h
      simp only [Reader.on, add_on]
  | opening =>
      simp only [role, Option.some.injEq] at h ⊢
      subst h
      simp only [Reader.on, enter_on]
  | _ =>
      simp only [role, Option.some.injEq] at h ⊢
      subst h
      rfl

namespace Reader

theorem step_on {r r' : Reader} {c : Char} (h : r.step c = some r') (base : Nest) :
    (r.on base).step c = some (r'.on base) := by
  obtain ⟨mode, n⟩ := r
  cases mode with
  | plain => exact Nest.start_on h base
  | word spelling =>
      simp only [step, on] at h ⊢
      split_ifs at h ⊢ with letter
      · rw [← Option.some.inj h]
      · rw [← Nest.add_on]
        exact Nest.start_on h base
  | equals =>
      simp only [step, on] at h ⊢
      split_ifs at h ⊢ with arrow
      · rw [← Option.some.inj h, Nest.add_on]
      · rw [← Nest.add_on]
        exact Nest.start_on h base
  | slash =>
      simp only [step, on] at h ⊢
      split_ifs at h ⊢ with line block
      · rw [← Option.some.inj h]
      · rw [← Option.some.inj h]
  | lineComment =>
      simp only [step, on] at h ⊢
      rw [← Option.some.inj h]
  | blockComment star =>
      simp only [step, on] at h ⊢
      rw [← Option.some.inj h]
  | literal quote text behind =>
      simp only [step, on] at h ⊢
      split_ifs at h ⊢ with escaped ends substitution
      · rw [← Option.some.inj h]
      · rw [← Option.some.inj h, Nest.add_on]
      · rw [← Option.some.inj h, Nest.enter_on, Nest.add_on]
      · rw [← Option.some.inj h]

theorem foldlM_step_on {text : List Char} {r r' : Reader} (h : text.foldlM step r = some r')
    (base : Nest) : text.foldlM step (r.on base) = some (r'.on base) := by
  induction text generalizing r with
  | nil =>
      rw [List.foldlM_nil] at h ⊢
      rw [← Option.some.inj h]
      rfl
  | cons c rest ih =>
      rw [List.foldlM_cons] at h ⊢
      obtain ⟨next, first, later⟩ := Option.bind_eq_some_iff.mp h
      rw [step_on first base]
      exact ih later

theorem settled_on {r : Reader} {n : Nest} (h : r.settled = some n) (base : Nest) :
    (r.on base).settled = some (n.on base) := by
  obtain ⟨mode, m⟩ := r
  cases mode with
  | plain =>
      rw [← Option.some.inj h]
      rfl
  | word spelling =>
      rw [← Option.some.inj h, Nest.add_on]
      rfl
  | _ => exact absurd h (by simp [settled])

/-- A character that no word goes on with ends the piece in front of it. -/
theorem step_of_settled {r : Reader} {n : Nest} {c : Char} (h : r.settled = some n)
    (role : roleOf c ≠ .letter) : r.step c = n.start c := by
  obtain ⟨mode, m⟩ := r
  cases mode with
  | plain => rw [← Option.some.inj h]; rfl
  | word spelling => rw [← Option.some.inj h]; exact if_neg role
  | _ => exact absurd h (by simp [settled])

end Reader

/-- What a text is cut into does not depend on what stands in front of it. -/
theorem reach_on {text : List Char} {n m : Nest} (h : reach n text = some m) (base : Nest) :
    reach (n.on base) text = some (m.on base) := by
  obtain ⟨r, reads, settles⟩ := Option.bind_eq_some_iff.mp h
  have readsOn := Reader.foldlM_step_on reads base
  unfold reach
  rw [show (⟨.plain, n.on base⟩ : Reader) = Reader.on ⟨.plain, n⟩ base from rfl, readsOn]
  exact Reader.settled_on settles base

/-- Behind any pieces and open brackets, the pieces of a text are added to the innermost ones. -/
theorem reach_of_pieces? {text : String} {pieces : List Piece} (h : pieces? text = some pieces)
    (base : Nest) :
    reach base text.toList = some ⟨base.pieces ++ pieces, base.opened⟩ := by
  have alone := reach_on (pieces?_eq_some_iff.mp h) base
  rwa [show Nest.on {} base = base by simp [Nest.on, Nest.framed]] at alone

/-- Two texts are read one behind the other where the second one does not go on with a word. -/
theorem reach_append {text rest : List Char} {n m : Nest} {c : Char} (h : reach n text = some m)
    (role : roleOf c ≠ .letter) : reach n (text ++ c :: rest) = reach m (c :: rest) := by
  obtain ⟨r, reads, settles⟩ := Option.bind_eq_some_iff.mp h
  unfold reach
  rw [List.foldlM_append, reads]
  simp only [Option.bind_eq_bind, Option.bind_some, List.foldlM_cons]
  rw [Reader.step_of_settled settles role]
  rfl

/-! ## Texts that are put together -/

/-- The pieces of two texts with a bar between them. -/
theorem pieces?_bar {left right : String} {l r : List Piece} (hl : pieces? left = some l)
    (hr : pieces? right = some r) :
    pieces? (left ++ " | " ++ right) = some (l ++ .mark '|' :: r) := by
  rw [pieces?_eq_some_iff, String.toList_append, String.toList_append, List.append_assoc]
  have leftRead := pieces?_eq_some_iff.mp hl
  calc reach {} (left.toList ++ ' ' :: '|' :: ' ' :: right.toList)
    _ = reach ⟨l, []⟩ (' ' :: '|' :: ' ' :: right.toList) := reach_append leftRead (by decide)
    _ = reach ⟨l ++ [.mark '|'], []⟩ right.toList := rfl
    _ = some ⟨l ++ .mark '|' :: r, []⟩ := by
        rw [reach_of_pieces? hr]
        simp

/-- The pieces of a text with empty brackets behind it. -/
theorem pieces?_brackets {text : String} {pieces : List Piece} (h : pieces? text = some pieces) :
    pieces? (text ++ "[]") = some (pieces ++ [.group '[' []]) := by
  rw [pieces?_eq_some_iff, String.toList_append]
  calc reach {} (text.toList ++ ['[', ']'])
    _ = reach ⟨pieces, []⟩ ['[', ']'] := reach_append (pieces?_eq_some_iff.mp h) (by decide)
    _ = some ⟨pieces ++ [.group '[' []], []⟩ := rfl

/-- The pieces of a text in parentheses with empty brackets behind it. -/
theorem pieces?_parentheses {text : String} {pieces : List Piece} (h : pieces? text = some pieces) :
    pieces? ("(" ++ text ++ ")[]") = some [.group '(' pieces, .group '[' []] := by
  rw [pieces?_eq_some_iff, String.toList_append, String.toList_append, List.append_assoc]
  have inside : reach ⟨[], [('(', [])]⟩ text.toList = some ⟨pieces, [('(', [])]⟩ :=
    reach_of_pieces? h ⟨[], [('(', [])]⟩
  calc reach {} ('(' :: (text.toList ++ [')', '[', ']']))
    _ = reach ⟨[], [('(', [])]⟩ (text.toList ++ [')', '[', ']']) := rfl
    _ = reach ⟨pieces, [('(', [])]⟩ [')', '[', ']'] := reach_append inside (by decide)
    _ = some ⟨[.group '(' pieces, .group '[' []], []⟩ := rfl

end UnitResolution.Script.TypeText
