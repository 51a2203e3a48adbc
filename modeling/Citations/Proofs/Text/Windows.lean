import Citations.Proofs.Text.Rows
import Citations.Proofs.Text.Search
import Mathlib.Order.Bounds.Basic

/-!
# Places in a document

A place is the number of characters before it. Looking back from an offset finds the greatest
place at which a word stands inside the window before that offset. The line of a place is the last
one that starts at or before it, and the character at the place is on that line.
-/
namespace Citations

open Text

/-- A word stands at a place, entirely within that many characters before an offset. -/
structure Text.Within (text word : Text) (offset budget place : Nat) : Prop where
  /-- The word stands there. -/
  written : word <+: text.drop place
  /-- The window has begun. -/
  begins : offset ≤ place + budget
  /-- The word ends before the window does. -/
  ends : place + word.length ≤ offset

namespace Text

variable {text word : Text} {place : Nat} {c : Char}

/-! ## The last occurrence -/

/-- A word stands where its last occurrence is found. -/
theorem prefix_of_findLast? (found : findLast? word text = some place) :
    word <+: text.drop place := by
  induction text generalizing place with
  | nil =>
    rw [findLast?] at found
    split at found
    · obtain rfl := Option.some.inj found
      exact beginsWith_iff.mp ‹_›
    · contradiction
  | cons c rest ih =>
    rw [findLast?] at found
    split at found
    · obtain rfl := Option.some.inj found
      exact ih ‹_›
    · split at found
      · obtain rfl := Option.some.inj found
        exact beginsWith_iff.mp ‹_›
      · contradiction

/-- The last occurrence of a word is not before another one. -/
theorem le_findLast? (nonempty : word ≠ []) (written : word <+: text.drop place) :
    ∃ last, findLast? word text = some last ∧ place ≤ last := by
  induction text generalizing place with
  | nil =>
    rw [List.drop_nil, List.prefix_nil] at written
    exact absurd written nonempty
  | cons c rest ih =>
    rw [findLast?]
    cases place with
    | zero =>
      cases findLast? word rest with
      | some last => exact ⟨last + 1, rfl, Nat.zero_le _⟩
      | none => exact ⟨0, if_pos (beginsWith_iff.mpr written), Nat.le_refl 0⟩
    | succ place =>
      obtain ⟨last, found, later⟩ := ih written
      exact ⟨last + 1, by rw [found], Nat.succ_le_succ later⟩

/-- A character that is not dropped at the end of a text stays in it. -/
theorem mem_dropEndWhile {drop : Char → Bool} (listed : c ∈ text) (kept : drop c = false) :
    c ∈ dropEndWhile drop text := by
  have parts := List.takeWhile_append_dropWhile (p := drop) (l := text.reverse)
  have back : c ∈ text.reverse := List.mem_reverse.mpr listed
  rw [← parts, List.mem_append] at back
  refine List.mem_reverse.mpr (back.resolve_left fun taken => ?_)
  rw [List.mem_takeWhile_imp taken] at kept
  contradiction

/-! ## The starts of rows -/

/-- As many rows start at or before a limit as there are rows that do. -/
theorem lt_length_filter_rowStarts {start limit line : Nat} {rows : List Text} :
    line < ((rowStarts start rows).filter (· ≤ limit)).length ↔
      line < rows.length ∧ start + (rows.take line).flatten.length ≤ limit := by
  induction rows generalizing start line with
  | nil => simp [rowStarts]
  | cons row rest ih =>
    rw [rowStarts, List.filter_cons]
    by_cases early : start ≤ limit
    · rw [if_pos (decide_eq_true early), List.length_cons, List.length_cons]
      cases line with
      | zero => simp [early]
      | succ line =>
        rw [Nat.succ_lt_succ_iff, ih, Nat.succ_lt_succ_iff, List.take_succ_cons,
          List.flatten_cons, List.length_append, Nat.add_assoc]
    · have none : (rowStarts (start + row.length) rest).filter (· ≤ limit) = [] := by
        refine List.filter_eq_nil_iff.mpr fun place listed => ?_
        have bounds := rowStarts_bounds listed
        rw [decide_eq_true_eq]
        omega
      rw [if_neg (by simpa using early), none]
      constructor
      · intro below
        cases below
      · rintro ⟨-, bound⟩
        omega

/-- The rows above the next line are those above a line and its row. -/
theorem flatten_take_succ {rows : List Text} {row : Text} {line : Nat}
    (listed : rows[line]? = some row) :
    (rows.take (line + 1)).flatten = (rows.take line).flatten ++ row := by
  obtain ⟨bounded, rfl⟩ := List.getElem?_eq_some_iff.mp listed
  rw [List.take_succ_eq_append_getElem bounded, List.flatten_append, List.flatten_singleton]

/-- The rows above the next line are as long as those above a line and its row. -/
theorem length_flatten_take_succ {rows : List Text} {row : Text} {line : Nat}
    (listed : rows[line]? = some row) :
    (rows.take (line + 1)).flatten.length = (rows.take line).flatten.length + row.length := by
  rw [flatten_take_succ listed, List.length_append]

end Text

namespace LineIndex

variable {text word : Text} {offset budget place line : Nat} {c : Char}

/-! ## Looking back -/

/-- A word stands in the window exactly where it stands in the text that is searched. -/
theorem prefix_window (nonempty : word ≠ []) :
    word <+: ((text.take offset).drop (windowStart offset budget)).drop place ↔
      text.Within word offset budget (windowStart offset budget + place) := by
  have long := List.length_pos_iff.mpr nonempty
  rw [List.drop_drop, List.drop_take, List.prefix_take_iff, windowStart]
  constructor
  · rintro ⟨written, short⟩
    exact ⟨written, by omega, by omega⟩
  · rintro ⟨written, -, ends⟩
    exact ⟨written, by omega⟩

/-- The greatest place in the window at which a word stands is found. -/
theorem isGreatest_of_findLastBefore? (nonempty : word ≠ [])
    (found : (ofText text).findLastBefore? offset budget word = some place) :
    IsGreatest {place | text.Within word offset budget place} place := by
  obtain ⟨last, seen, rfl⟩ := Option.map_eq_some_iff.mp found
  refine ⟨(prefix_window nonempty).mp (prefix_of_findLast? seen), fun other within => ?_⟩
  obtain ⟨behind, rfl⟩ : ∃ behind, other = windowStart offset budget + behind :=
    ⟨_, (Nat.add_sub_cancel' (Nat.sub_le_of_le_add within.begins)).symm⟩
  obtain ⟨greatest, again, later⟩ := le_findLast? nonempty ((prefix_window nonempty).mpr within)
  obtain rfl := Option.some.inj (seen.symm.trans again)
  exact Nat.add_le_add_left later _

/-- Nothing is found where a word stands nowhere in the window. -/
theorem not_within_of_findLastBefore? (nonempty : word ≠ [])
    (missing : (ofText text).findLastBefore? offset budget word = none) (place : Nat) :
    ¬ text.Within word offset budget place := by
  intro within
  obtain ⟨behind, rfl⟩ : ∃ behind, place = windowStart offset budget + behind :=
    ⟨_, (Nat.add_sub_cancel' (Nat.sub_le_of_le_add within.begins)).symm⟩
  obtain ⟨last, seen, -⟩ := le_findLast? nonempty ((prefix_window nonempty).mpr within)
  have found : (ofText text).findLastBefore? offset budget word =
      some (windowStart offset budget + last) := by
    unfold findLastBefore?
    exact Option.map_eq_some_iff.mpr ⟨last, seen, rfl⟩
  rw [missing] at found
  contradiction

/-! ## The line of a place -/

/-- The line of a place is the last one that starts at or before it. -/
theorem le_lineOf_iff : line ≤ (ofText text).lineOf place ↔
    line < (ofText text).lineCount ∧ (ofText text).lineStart line ≤ min place text.length := by
  have counted {line : Nat} :
      line < ((rowStarts 0 text.rows).filter (· ≤ min place text.length)).length ↔
        line < (ofText text).lineCount ∧
          (ofText text).lineStart line ≤ min place text.length := by
    rw [lt_length_filter_rowStarts, Nat.zero_add]
    rfl
  have first : 0 < ((rowStarts 0 text.rows).filter (· ≤ min place text.length)).length :=
    counted.mpr ⟨List.length_pos_iff.mpr (rows_ne_nil text), Nat.zero_le _⟩
  rw [← counted, lineOf]
  change line ≤ ((rowStarts 0 text.rows).filter (· ≤ min place text.length)).length - 1 ↔ _
  omega

/-- An earlier place is on the same line or on an earlier one. -/
theorem lineOf_mono {later : Nat} (before : place ≤ later) :
    (ofText text).lineOf place ≤ (ofText text).lineOf later := by
  obtain ⟨counted, starts⟩ := le_lineOf_iff.mp (Nat.le_refl ((ofText text).lineOf place))
  exact le_lineOf_iff.mpr ⟨counted, by omega⟩

/-- A row stands in its text after the rows above it and before the rows below it. -/
theorem row_between {row : Text} (listed : text.rows[line]? = some row) :
    text = (text.rows.take line).flatten ++ (row ++ (text.rows.drop (line + 1)).flatten) := by
  obtain ⟨bounded, rfl⟩ := List.getElem?_eq_some_iff.mp listed
  conv_lhs => rw [← flatten_rows text, ← List.take_append_drop line text.rows,
    List.drop_eq_getElem_cons bounded, List.flatten_append, List.flatten_cons]

/-- The next line starts where a row ends. -/
theorem lineStart_succ {row : Text} (listed : text.rows[line]? = some row) :
    (ofText text).lineStart (line + 1) = (ofText text).lineStart line + row.length :=
  length_flatten_take_succ listed

/-- A place is on the row of its line: not before the row and not after it. -/
theorem row_of_place (inside : place < text.length) :
    ∃ row, text.rows[(ofText text).lineOf place]? = some row ∧
      (ofText text).lineStart ((ofText text).lineOf place) ≤ place ∧
      place < (ofText text).lineStart ((ofText text).lineOf place) + row.length := by
  obtain ⟨counted, starts⟩ := le_lineOf_iff.mp (Nat.le_refl ((ofText text).lineOf place))
  have last : ¬ (ofText text).lineOf place + 1 ≤ (ofText text).lineOf place :=
    Nat.not_succ_le_self _
  rw [le_lineOf_iff] at last
  generalize (ofText text).lineOf place = line at counted starts last
  have bounded : line < text.rows.length := counted
  have listed := List.getElem?_eq_getElem bounded
  refine ⟨_, listed, by omega, ?_⟩
  -- Beyond the row there would be another one that starts no later, or the end of the text.
  by_contra beyond
  have next := lineStart_succ listed
  have finished : text.rows.length ≤ line + 1 := by
    by_contra further
    exact last ⟨Nat.lt_of_not_le further, by omega⟩
  have size := congrArg List.length (row_between listed)
  have below : text.rows.drop (line + 1) = [] := List.drop_eq_nil_of_le finished
  rw [below, List.flatten_nil, List.append_nil, List.length_append] at size
  have start : (ofText text).lineStart line = (text.rows.take line).flatten.length := rfl
  omega

/-- What stands on a row stands in the text that far after the start of the line. -/
theorem drop_lineStart_add {row : Text} {column : Nat}
    (listed : text.rows[line]? = some row) (inside : column ≤ row.length) :
    text.drop ((ofText text).lineStart line + column) =
      row.drop column ++ (text.rows.drop (line + 1)).flatten := by
  have start : (ofText text).lineStart line = (text.rows.take line).flatten.length := rfl
  have whole := congrArg (List.drop ((text.rows.take line).flatten.length + column))
    (row_between listed)
  rwa [List.drop_length_add_append, List.drop_append_of_le_length inside] at whole

/-- The character at a place is on the line of the place. -/
theorem mem_line_of_place (here : (text.drop place).head? = some c) :
    ∃ row, (ofText text).rows[(ofText text).lineOf place]? = some row ∧ c ∈ row := by
  have inside : place < text.length := by
    by_contra beyond
    rw [List.drop_eq_nil_of_le (by omega)] at here
    contradiction
  obtain ⟨row, listed, starts, ends⟩ := row_of_place inside
  obtain ⟨column, same⟩ := Nat.exists_eq_add_of_le starts
  have short : column < row.length := by omega
  rw [same, drop_lineStart_add listed (Nat.le_of_lt short),
    List.drop_eq_getElem_cons short] at here
  obtain rfl := Option.some.inj here
  exact ⟨row, listed, List.getElem_mem short⟩

end LineIndex

end Citations
