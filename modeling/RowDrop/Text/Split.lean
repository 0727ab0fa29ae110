/-!
# Cutting texts

A text is cut at every place of a mark. The pieces hold no mark, and put together with marks
between them they are the text again.
-/

namespace RowDrop.Text

/-- Cuts a text at every mark. There is always at least one piece, maybe an empty one. -/
def split (mark : Char) : List Char → List (List Char)
  | [] => [[]]
  | c :: rest =>
    if c = mark then [] :: split mark rest
    else
      match split mark rest with
      | piece :: pieces => (c :: piece) :: pieces
      | [] => [[c]]

/-- Puts pieces together with marks between them. -/
def join (mark : Char) (pieces : List (List Char)) : List Char :=
  List.intercalate [mark] pieces

variable {mark : Char} {text piece : List Char} {pieces : List (List Char)}

theorem join_cons (piece : List Char) (h : pieces ≠ []) :
    join mark (piece :: pieces) = piece ++ mark :: join mark pieces := by
  cases pieces with
  | nil => exact absurd rfl h
  | cons next pieces => simp [join, List.intercalate_cons_cons]

theorem split_ne_nil (mark : Char) (text : List Char) : split mark text ≠ [] := by
  cases text with
  | nil => simp [split]
  | cons c rest =>
    rw [split]
    split
    · simp
    · split <;> simp

/-- A character that is no mark belongs to the first piece behind it. -/
theorem split_cons_of_ne {c : Char} (rest : List Char) (h : c ≠ mark) :
    ∃ piece pieces, split mark rest = piece :: pieces ∧
      split mark (c :: rest) = (c :: piece) :: pieces := by
  cases behind : split mark rest with
  | nil => exact absurd behind (split_ne_nil mark rest)
  | cons piece pieces => exact ⟨piece, pieces, rfl, by rw [split, if_neg h, behind]⟩

/-- The pieces put together again are the text. -/
theorem join_split (mark : Char) (text : List Char) : join mark (split mark text) = text := by
  induction text with
  | nil => rfl
  | cons c rest ih =>
    by_cases h : c = mark
    · rw [split, if_pos h, join_cons [] (split_ne_nil mark rest), ih, h, List.nil_append]
    · obtain ⟨piece, pieces, behind, whole⟩ := split_cons_of_ne rest h
      rw [whole, ← ih, behind]
      cases pieces with
      | nil => rfl
      | cons next pieces =>
        have full : next :: pieces ≠ [] := by simp
        rw [join_cons _ full, join_cons _ full, List.cons_append]

/-- What stands in a piece stands in the text and is no mark. -/
theorem mem_of_mem_split {c : Char} (h : piece ∈ split mark text) (mem : c ∈ piece) :
    c ∈ text ∧ c ≠ mark := by
  induction text generalizing piece with
  | nil =>
    obtain rfl := List.mem_singleton.mp h
    cases mem
  | cons d rest ih =>
    by_cases same : d = mark
    · rw [split, if_pos same] at h
      obtain rfl | behind := List.mem_cons.mp h
      · cases mem
      · exact (ih behind mem).imp_left (List.mem_cons_of_mem d)
    · obtain ⟨first, pieces, behind, whole⟩ := split_cons_of_ne rest same
      rw [behind] at ih
      rw [whole] at h
      obtain rfl | later := List.mem_cons.mp h
      · obtain rfl | mem := List.mem_cons.mp mem
        · exact ⟨List.mem_cons_self, same⟩
        · exact (ih List.mem_cons_self mem).imp_left (List.mem_cons_of_mem d)
      · exact (ih (List.mem_cons_of_mem first later) mem).imp_left (List.mem_cons_of_mem d)

theorem not_mem_of_mem_split (h : piece ∈ split mark text) : mark ∉ piece :=
  fun mem => (mem_of_mem_split h mem).2 rfl

/-- A mark cuts a text wherever it stands. -/
theorem split_append (mark : Char) (front behind : List Char) :
    split mark (front ++ mark :: behind) = split mark front ++ split mark behind := by
  induction front with
  | nil => simp [split]
  | cons c front ih =>
    rw [List.cons_append]
    by_cases h : c = mark
    · rw [split, split, if_pos h, if_pos h, ih, List.cons_append]
    · obtain ⟨piece, pieces, whole, first⟩ := split_cons_of_ne front h
      rw [whole, List.cons_append] at ih
      rw [split, if_neg h, ih, first, List.cons_append]

theorem split_of_not_mem (h : mark ∉ text) : split mark text = [text] := by
  induction text with
  | nil => rfl
  | cons c rest ih =>
    obtain ⟨ne, plain⟩ := List.ne_and_not_mem_of_not_mem_cons h
    rw [split, if_neg (Ne.symm ne), ih plain]

/-- Pieces without a mark are found again. -/
theorem split_join (full : pieces ≠ []) (plain : ∀ piece ∈ pieces, mark ∉ piece) :
    split mark (join mark pieces) = pieces := by
  induction pieces with
  | nil => exact absurd rfl full
  | cons piece pieces ih =>
    have first := split_of_not_mem (plain piece List.mem_cons_self)
    cases pieces with
    | nil => simpa [join] using first
    | cons next pieces =>
      have behind := ih (by simp) fun piece mem => plain piece (List.mem_cons_of_mem _ mem)
      rw [join_cons piece (by simp), split_append, first, behind, List.singleton_append]

end RowDrop.Text
