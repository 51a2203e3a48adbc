import Citations.Proofs.Text.Windows

/-!
# What positions address

A position is a line and a column, counted from zero in the rows of a text, and it addresses the
character that stands there. The position of an offset addresses the character at the offset, and
positions are ordered, first by line and then by column, as the offsets they are taken at are. They
are numbers without a bound; those of a text shorter than 2 ^ 32 characters fit the 32 bits that an
editor takes.
-/
namespace Citations

open Text

/-- A text has at most one row more than it has characters. -/
theorem Text.length_rows_le (text : Text) : text.rows.length ≤ text.length + 1 := by
  fun_induction rows text with
  | case1 => exact Nat.le_refl 1
  | case2 rest ih =>
    simp only [List.length_cons]
    omega
  | case3 c rest _ _ ih =>
    simp only [List.length_cons]
    omega
  | case4 c rest _ _ ih =>
    have kept : (consHead c (rows rest)).length ≤ (rows rest).length + 1 := by
      cases rows rest <;> simp [consHead]
    simp only [List.length_cons]
    omega

namespace Position

variable {text : Text} {left right : Position} {offset other : Nat}

/-- A position is before another one: on an earlier line, or on the same line in an earlier
column. -/
def Before (left right : Position) : Prop :=
  left.line < right.line ∨ left.line = right.line ∧ left.character < right.character

/-- A position addresses the place at an offset of a text: its column is one of the row that its
line is, and the rows above and the column are as long as the offset says. -/
structure Addresses (position : Position) (text : Text) (offset : Nat) : Prop where
  /-- The line has a character in the column. -/
  onRow : ∃ row, text.rows[position.line]? = some row ∧ position.character < row.length
  /-- As many characters stand before it. -/
  place : (text.rows.take position.line).flatten.length + position.character = offset

/-- The character at a place is the one in the column of the row that its position addresses. -/
theorem Addresses.getElem?_row {position : Position} (addresses : position.Addresses text offset) :
    ∃ row, text.rows[position.line]? = some row ∧ row[position.character]? = text[offset]? := by
  obtain ⟨row, listed, inside⟩ := addresses.onRow
  refine ⟨row, listed, ?_⟩
  have whole := LineIndex.drop_lineStart_add listed (Nat.le_of_lt inside)
  have start : (LineIndex.ofText text).lineStart position.line =
      (text.rows.take position.line).flatten.length := rfl
  rw [start, addresses.place] at whole
  rw [← List.head?_drop, ← List.head?_drop, whole, List.drop_eq_getElem_cons inside]
  rfl

/-- The line and the column of a place are no further than the text is long. -/
theorem Addresses.le_length {position : Position} (addresses : position.Addresses text offset) :
    position.line ≤ text.length ∧ position.character ≤ text.length := by
  obtain ⟨row, listed, inside⟩ := addresses.onRow
  obtain ⟨counted, -⟩ := List.getElem?_eq_some_iff.mp listed
  have rows := length_rows_le text
  have part := (infix_of_mem_rows (List.mem_of_getElem? listed)).length_le
  omega

/-- A place of a text with fewer characters than 32 bits count is not cut. -/
theorem Addresses.cut_eq {position : Position} (addresses : position.Addresses text offset)
    (bounded : text.length < Nat.pow 2 32) : position.cut = position := by
  obtain ⟨line, character⟩ := addresses.le_length
  rw [cut, Nat.mod_eq_of_lt (Nat.lt_of_le_of_lt line bounded),
    Nat.mod_eq_of_lt (Nat.lt_of_le_of_lt character bounded)]

/-- The rows above a later line hold every row above an earlier one, and that row. -/
theorem flatten_take_lt {rows : List Text} {row : Text} {line later : Nat}
    (listed : rows[line]? = some row) (below : line < later) :
    (rows.take line).flatten.length + row.length ≤ (rows.take later).flatten.length := by
  have more : (rows.take (line + 1)).flatten <+: (rows.take later).flatten :=
    (List.take_prefix_take_left below).flatten
  rw [← length_flatten_take_succ listed]
  exact more.length_le

/-- Of two positions that address places of a text the one before addresses the earlier place. -/
theorem Addresses.before_iff (first : left.Addresses text offset)
    (second : right.Addresses text other) : left.Before right ↔ offset < other := by
  obtain ⟨row, listed, inside⟩ := first.onRow
  obtain ⟨otherRow, otherListed, otherInside⟩ := second.onRow
  have place := first.place
  have otherPlace := second.place
  rcases Nat.lt_trichotomy left.line right.line with above | same | below
  · have rows := flatten_take_lt listed above
    exact iff_of_true (Or.inl above) (by omega)
  · rw [same] at place
    constructor
    · rintro (apart | ⟨-, earlier⟩)
      · exact absurd apart (by omega)
      · omega
    · intro earlier
      exact Or.inr ⟨same, by omega⟩
  · have rows := flatten_take_lt otherListed below
    refine iff_of_false ?_ (by omega)
    rintro (apart | ⟨same, -⟩) <;> omega

/-- One position addresses a place. -/
theorem Addresses.unique (first : left.Addresses text offset)
    (second : right.Addresses text offset) : left = right := by
  have notBefore : ¬ left.Before right := fun before =>
    Nat.lt_irrefl offset ((first.before_iff second).mp before)
  have notAfter : ¬ right.Before left := fun before =>
    Nat.lt_irrefl offset ((second.before_iff first).mp before)
  simp only [Before, not_or, not_and] at notBefore notAfter
  obtain ⟨line, character⟩ := left
  obtain ⟨otherLine, otherCharacter⟩ := right
  dsimp only at notBefore notAfter
  obtain rfl : line = otherLine := by omega
  obtain rfl : character = otherCharacter := by
    have := notBefore.2 rfl
    have := notAfter.2 rfl
    omega
  rfl

end Position

namespace LineIndex

variable {text : Text} {offset : Nat}

/-- The position of an offset addresses the place at it. -/
theorem position_addresses (inside : offset < text.length) :
    ((ofText text).position offset).Addresses text offset := by
  obtain ⟨row, listed, starts, ends⟩ := row_of_place inside
  have start : (ofText text).lineStart ((ofText text).lineOf offset) =
      (text.rows.take ((ofText text).lineOf offset)).flatten.length := rfl
  refine ⟨⟨row, listed, ?_⟩, ?_⟩
  · change offset - (ofText text).lineStart ((ofText text).lineOf offset) < row.length
    omega
  · change (text.rows.take ((ofText text).lineOf offset)).flatten.length +
      (offset - (ofText text).lineStart ((ofText text).lineOf offset)) = offset
    omega

end LineIndex

end Citations
