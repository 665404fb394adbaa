/-!
# Text with separators

`split` cuts a text at every occurrence of a character and `join` puts the pieces together again.
Each undoes the other: `join_split` holds of every text, and `split_join` of every list of pieces
that do not hold the separator themselves.
-/

namespace UnitResolution.Text

/-- The pieces of a text between the occurrences of a character; there is always at least one. -/
def split (separator : Char) : List Char → List (List Char)
  | [] => [[]]
  | c :: rest =>
      if c = separator then [] :: split separator rest
      else
        match split separator rest with
        | [] => [[c]]
        | piece :: pieces => (c :: piece) :: pieces

/-- The pieces with a character between them. -/
def join (separator : Char) : List (List Char) → List Char
  | [] => []
  | [piece] => piece
  | piece :: pieces => piece ++ separator :: join separator pieces

theorem split_ne_nil (separator : Char) (s : List Char) : split separator s ≠ [] := by
  cases s with
  | nil => simp [split]
  | cons c rest =>
      simp only [split]
      split
      · simp
      · split <;> simp

theorem join_cons_cons (separator : Char) (c : Char) (piece : List Char)
    (pieces : List (List Char)) :
    join separator ((c :: piece) :: pieces) = c :: join separator (piece :: pieces) := by
  cases pieces <;> simp [join]

theorem join_split (separator : Char) (s : List Char) : join separator (split separator s) = s := by
  induction s with
  | nil => rfl
  | cons c rest ih =>
      simp only [split]
      split
      · next h =>
          subst h
          cases hs : split c rest with
          | nil => exact absurd hs (split_ne_nil c rest)
          | cons piece pieces =>
              rw [hs] at ih
              simp [join, ih]
      · next h =>
          cases hs : split separator rest with
          | nil => exact absurd hs (split_ne_nil separator rest)
          | cons piece pieces =>
              rw [hs] at ih
              simp [join_cons_cons, ih]

theorem split_of_not_mem {separator : Char} {s : List Char} (h : separator ∉ s) :
    split separator s = [s] := by
  induction s with
  | nil => rfl
  | cons c rest ih =>
      simp only [List.mem_cons, not_or] at h
      simp [split, Ne.symm h.1, ih h.2]

theorem split_append {separator : Char} {s : List Char} (h : separator ∉ s) (t : List Char) :
    split separator (s ++ separator :: t) = s :: split separator t := by
  induction s with
  | nil => simp [split]
  | cons c rest ih =>
      simp only [List.mem_cons, not_or] at h
      simp [split, Ne.symm h.1, ih h.2]

theorem split_join {separator : Char} {pieces : List (List Char)} (nonempty : pieces ≠ [])
    (h : ∀ piece ∈ pieces, separator ∉ piece) :
    split separator (join separator pieces) = pieces := by
  induction pieces with
  | nil => exact absurd rfl nonempty
  | cons piece pieces ih =>
      cases pieces with
      | nil => exact split_of_not_mem (h piece (by simp))
      | cons next more =>
          simp only [join]
          rw [split_append (h piece (by simp)), ih (by simp) fun p hp => h p (by simp [hp])]

theorem not_mem_of_mem_split {separator : Char} {s piece : List Char}
    (h : piece ∈ split separator s) : separator ∉ piece := by
  induction s generalizing piece with
  | nil => simp [split] at h; simp [h]
  | cons c rest ih =>
      simp only [split] at h
      split at h
      · rcases List.mem_cons.mp h with rfl | h
        · simp
        · exact ih h
      · next hc =>
          cases hs : split separator rest with
          | nil => exact absurd hs (split_ne_nil separator rest)
          | cons first pieces =>
              simp only [hs] at h
              rcases List.mem_cons.mp h with rfl | h
              · simp only [List.mem_cons, not_or]
                exact ⟨Ne.symm hc, ih (by simp [hs])⟩
              · exact ih (by simp [hs, h])

end UnitResolution.Text
