import Citations.Proofs.Text.Search
import Citations.Text.LineIndex
import Mathlib.Data.List.Basic

/-!
# Lines of a text that more text follows

A text that is empty or ends in a line feed keeps its rows when more text follows it: the rows
of the two together are the finished rows of the first and then the rows of the second. A place
in the first text therefore keeps its line and column, and a place in the second moves down by
the line breaks of the first and keeps its column. After any other text what follows goes on
with the last row, unless it begins with the line feed of a carriage return.
-/
namespace Citations

namespace Text

variable {text more : Text}

/-- A text without an unfinished last line: it is empty or ends in a line feed. -/
def Ended (text : Text) : Prop := text = [] ∨ text.getLast? = some '\n'

/-- The number of line breaks. -/
def breaks (text : Text) : Nat := text.rows.dropLast.length

/-- What remains of a finished text is finished. -/
theorem Ended.suffix {rest : Text} (ended : Ended text) (suffix : rest <:+ text) : Ended rest := by
  obtain ⟨taken, rfl⟩ := suffix
  rcases ended with empty | last
  · exact Or.inl (List.append_eq_nil_iff.mp empty).2
  · cases rest with
    | nil => exact Or.inl rfl
    | cons c rest => exact Or.inr (by rwa [List.getLast?_append_of_ne_nil _ (by simp)] at last)

/-- Two finished texts together are finished. -/
theorem Ended.append (textEnded : Ended text) (moreEnded : Ended more) : Ended (text ++ more) := by
  cases more with
  | nil => rwa [List.append_nil]
  | cons c rest =>
    have last := moreEnded.resolve_left (List.cons_ne_nil c rest)
    exact Or.inr (by rwa [List.getLast?_append_of_ne_nil _ (List.cons_ne_nil c rest)])

/-- A character put in front of the first of some rows is put in front of their text. -/
theorem flatten_consHead (c : Char) (rows : List Text) :
    (consHead c rows).flatten = c :: rows.flatten := by
  cases rows <;> rfl

/-- Every text has a last row. -/
theorem rows_ne_nil (text : Text) : text.rows ≠ [] := by
  fun_induction rows text with
  | case1 => simp
  | case2 => simp
  | case3 => simp
  | case4 c rest _ _ ih =>
    intro empty
    have unflattened := congrArg List.flatten empty
    rw [flatten_consHead] at unflattened
    contradiction

/-- The rows of a text make up the text. -/
theorem flatten_rows (text : Text) : text.rows.flatten = text := by
  fun_induction rows text with
  | case1 => rfl
  | case2 rest ih => simp [ih]
  | case3 c rest _ _ ih => simp [ih]
  | case4 c rest _ _ ih => rw [flatten_consHead, ih]

/-- A character that is not the first of a carriage return and line feed begins a row on its
own, or ends one. -/
theorem rows_cons {c : Char} (apart : c = '\r' → text.head? ≠ some '\n') :
    rows (c :: text) = if isBreak c then [c] :: text.rows else consHead c text.rows := by
  rw [rows]
  rintro rest rfl rfl
  exact apart rfl rfl

/-- What a finished text begins with decides whether its first character begins a row, also
when more follows. -/
theorem Ended.apart {c : Char} (ended : Ended (c :: text))
    (apart : ∀ rest, c = '\r' → text = '\n' :: rest → False) (more : Text) :
    c = '\r' → (text ++ more).head? ≠ some '\n' := by
  rintro rfl
  cases text with
  | nil => simp [Ended] at ended
  | cons next rest =>
    rw [List.cons_append, List.head?_cons, ne_eq, Option.some.injEq]
    rintro rfl
    exact apart rest rfl rfl

/-- A character in front of a finished text that stays in its row has text after it. -/
theorem Ended.ne_nil {c : Char} (ended : Ended (c :: text)) (inside : ¬ isBreak c) :
    text ≠ [] := by
  rintro rfl
  obtain rfl : c = '\n' := by simpa [Ended] using ended
  exact inside rfl

/-- A finished text that is not empty has a row besides the last. -/
theorem one_lt_length_rows (ended : Ended text) (nonempty : text ≠ []) :
    1 < text.rows.length := by
  fun_induction rows text with
  | case1 => contradiction
  | case2 rest _ =>
    have := List.length_pos_iff.mpr (rows_ne_nil rest)
    rw [List.length_cons]
    omega
  | case3 c rest _ _ _ =>
    have := List.length_pos_iff.mpr (rows_ne_nil rest)
    rw [List.length_cons]
    omega
  | case4 c rest _ inside ih =>
    have longer := ih (ended.suffix ⟨[c], rfl⟩) (ended.ne_nil inside)
    cases found : rows rest with
    | nil => exact absurd found (rows_ne_nil rest)
    | cons row others =>
      rw [found] at longer
      exact longer

/-- Where there is a row besides the last, a character in front goes to it. -/
theorem consHead_dropLast_append (c : Char) {rows : List Text} (several : 1 < rows.length)
    (more : List Text) : consHead c (rows.dropLast ++ more) = (consHead c rows).dropLast ++ more :=
  match rows with
  | [] | [_] => absurd several (by simp)
  | _ :: _ :: _ => rfl

/-- The rows of a finished text and of what follows it. -/
theorem rows_append (ended : Ended text) (more : Text) :
    (text ++ more).rows = text.rows.dropLast ++ more.rows := by
  fun_induction rows text with
  | case1 => rfl
  | case2 rest ih =>
    have later : Ended rest := ended.suffix ⟨['\r', '\n'], rfl⟩
    rw [List.dropLast_cons_of_ne_nil (rows_ne_nil rest)]
    exact congrArg (['\r', '\n'] :: ·) (ih later)
  | case3 c rest apart isEnd ih =>
    have later : Ended rest := ended.suffix ⟨[c], rfl⟩
    rw [List.dropLast_cons_of_ne_nil (rows_ne_nil rest), List.cons_append,
      rows_cons (ended.apart apart more), if_pos isEnd]
    exact congrArg ([c] :: ·) (ih later)
  | case4 c rest apart inside ih =>
    have later : Ended rest := ended.suffix ⟨[c], rfl⟩
    rw [List.cons_append, rows_cons (ended.apart apart more), if_neg inside, ih later]
    exact consHead_dropLast_append c (one_lt_length_rows later (ended.ne_nil inside)) more.rows

/-- The finished rows of a finished text make up the text. -/
theorem flatten_dropLast_rows (ended : Ended text) : text.rows.dropLast.flatten = text := by
  have whole : text.rows = text.rows.dropLast ++ [[]] := by
    simpa [rows] using rows_append ended []
  have flat := congrArg List.flatten whole
  rw [flatten_rows, List.flatten_append] at flat
  simpa using flat.symm

/-- The characters that end a line. -/
theorem isBreak_cases {c : Char} (ends : isBreak c = true) :
    c = '\n' ∨ c = '\x0b' ∨ c = '\x0c' ∨ c = '\r' ∨ c = '\u0085' ∨ c = '\u2028' ∨ c = '\u2029' := by
  have codes : c.toNat = 10 ∨ c.toNat = 11 ∨ c.toNat = 12 ∨ c.toNat = 13 ∨ c.toNat = 0x85 ∨
      c.toNat = 0x2028 ∨ c.toNat = 0x2029 := by
    simp only [isBreak, Bool.or_eq_true, Bool.and_eq_true, decide_eq_true_eq, beq_iff_eq] at ends
    omega
  have char {code : Nat} (same : c.toNat = code) : c = Char.ofNat code := by
    rw [← same, Char.ofNat_toNat]
  rcases codes with same | same | same | same | same | same | same <;> simp [char same]

/-- A text without line breaks has no character that is one. -/
theorem any_isBreak_eq_false : text.any isBreak = false ↔ ∀ c ∈ text, isBreak c = false := by
  simp only [List.any_eq_false, Bool.not_eq_true]

/-- A text without line breaks is its only row. -/
theorem rows_of_unbroken (unbroken : ∀ c ∈ text, isBreak c = false) : text.rows = [text] := by
  induction text with
  | nil => rfl
  | cons c rest ih =>
    have inside : isBreak c = false := unbroken c List.mem_cons_self
    have apart : c = '\r' → rest.head? ≠ some '\n' := by
      rintro rfl
      contradiction
    rw [rows_cons apart, inside, ih fun x listed => unbroken x (List.mem_cons_of_mem c listed)]
    rfl

/-- A text that is its only row has no line breaks. -/
theorem unbroken_of_rows {row : Text} (alone : text.rows = [row]) :
    ∀ c ∈ text, isBreak c = false := by
  fun_induction rows text generalizing row with
  | case1 => simp
  | case2 rest => exact absurd (List.cons.inj alone).2 (rows_ne_nil rest)
  | case3 c rest => exact absurd (List.cons.inj alone).2 (rows_ne_nil rest)
  | case4 c rest _ inside ih =>
    cases found : rows rest with
    | nil => exact absurd found (rows_ne_nil rest)
    | cons first others =>
      rw [found] at alone
      obtain rfl := (List.cons.inj alone).2
      simpa [inside] using ih found

/-- The last row of a text goes on with the first row of what follows, unless a carriage return
and a line feed meet there. -/
theorem rows_append_of_apart {finished others : List Text} {last first : Text}
    (apart : text.getLast? = some '\r' → more.head? ≠ some '\n')
    (textRows : text.rows = finished ++ [last]) (moreRows : more.rows = first :: others) :
    (text ++ more).rows = finished ++ (last ++ first) :: others := by
  have later {c : Char} {rest : Text} (ends : rest.getLast? = some '\r') :
      (c :: rest).getLast? = some '\r' := by
    rw [List.getLast?_cons, ends]
    rfl
  fun_induction rows text generalizing finished last with
  | case1 =>
    obtain ⟨rfl, same⟩ := List.singleton_eq_append_iff.mp textRows |>.resolve_right (by simp)
    obtain rfl := List.singleton_inj.mp same
    exact moreRows
  | case2 rest ih =>
    obtain ⟨rfl, single⟩ | ⟨left, rfl, restRows⟩ := List.cons_eq_append_iff.mp textRows
    · exact absurd (List.cons.inj single).2.symm (rows_ne_nil rest)
    · exact congrArg (['\r', '\n'] :: ·) (ih (apart ∘ later ∘ later) restRows)
  | case3 c rest pairless isEnd ih =>
    obtain ⟨rfl, single⟩ | ⟨left, rfl, restRows⟩ := List.cons_eq_append_iff.mp textRows
    · exact absurd (List.cons.inj single).2.symm (rows_ne_nil rest)
    · have seam : c = '\r' → (rest ++ more).head? ≠ some '\n' := by
        rintro rfl
        cases rest with
        | nil => exact apart rfl
        | cons d rest =>
          intro begins
          obtain rfl := Option.some.inj begins
          exact pairless rest rfl rfl
      rw [List.cons_append, rows_cons seam, if_pos isEnd]
      exact congrArg ([c] :: ·) (ih (apart ∘ later) restRows)
  | case4 c rest pairless inside ih =>
    have seam : c = '\r' → (rest ++ more).head? ≠ some '\n' := by
      rintro rfl
      exact absurd rfl inside
    rw [List.cons_append, rows_cons seam, if_neg inside]
    cases restRows : rows rest with
    | nil => exact absurd restRows (rows_ne_nil rest)
    | cons row below =>
      rw [restRows] at textRows
      obtain ⟨rfl, single⟩ | ⟨left, rfl, belowRows⟩ := List.cons_eq_append_iff.mp textRows
      · obtain ⟨rfl, rfl⟩ := List.cons.inj single
        have rowAlone : rows rest = [] ++ [row] := restRows
        exact congrArg (consHead c) (ih (apart ∘ later) rowAlone)
      · have several : rows rest = (row :: left) ++ [last] := by rw [restRows, belowRows]; rfl
        exact congrArg (consHead c) (ih (apart ∘ later) several)

/-- A row is part of its text. -/
theorem infix_of_mem_rows {row : Text} (listed : row ∈ text.rows) : row <:+: text := by
  have part := List.infix_of_mem_flatten listed
  rwa [flatten_rows] at part

/-- What ends a row is trimmed from what follows a character that does not end one. -/
theorem trimBreak_append {c : Char} (last : text.getLast? = some c) (inside : isBreak c = false)
    (more : Text) : trimBreak (text ++ more) = text ++ trimBreak more := by
  obtain ⟨front, rfl⟩ := List.getLast?_eq_some_iff.mp last
  have kept : c ≠ '\n' ∧ c ≠ '\r' := by
    constructor
    · rintro rfl
      contradiction
    · rintro rfl
      contradiction
  rw [trimBreak, trimBreak, dropEndWhile, dropEndWhile, List.reverse_append,
    List.dropWhile_append]
  split
  · next empty => simp [List.isEmpty_iff.mp empty, kept]
  · rw [List.reverse_append, List.reverse_reverse]

/-- A trimmed row is the beginning of the row. -/
theorem trimBreak_begins (row : Text) : trimBreak row <+: row := dropEndWhile_prefix _ row

/-- The rows that follow others start after them. -/
theorem rowStarts_append (start : Nat) (rows others : List Text) :
    rowStarts start (rows ++ others) =
      rowStarts start rows ++ rowStarts (start + rows.flatten.length) others := by
  induction rows generalizing start with
  | nil => rfl
  | cons row rest ih =>
    rw [List.cons_append, rowStarts, rowStarts, ih, List.flatten_cons, List.length_append,
      Nat.add_assoc]
    rfl

/-- Rows that start further on start further on by the same number of characters. -/
theorem rowStarts_add (moved start : Nat) (rows : List Text) :
    rowStarts (moved + start) rows = (rowStarts start rows).map (moved + ·) := by
  induction rows generalizing start with
  | nil => rfl
  | cons row rest ih => rw [rowStarts, rowStarts, Nat.add_assoc, ih, List.map_cons]

/-- Rows start neither before the first nor after the last character. -/
theorem rowStarts_bounds {start place : Nat} {rows : List Text}
    (listed : place ∈ rowStarts start rows) :
    start ≤ place ∧ place ≤ start + rows.flatten.length := by
  induction rows generalizing start with
  | nil => cases listed
  | cons row rest ih =>
    rw [List.flatten_cons, List.length_append]
    rcases List.mem_cons.mp listed with rfl | later
    · omega
    · have := ih later
      omega

/-- Every row has a start. -/
theorem length_rowStarts (start : Nat) (rows : List Text) :
    (rowStarts start rows).length = rows.length := by
  induction rows generalizing start with
  | nil => rfl
  | cons row rest ih => rw [rowStarts, List.length_cons, ih, List.length_cons]

/-- The line breaks of a text whose first part is finished. -/
theorem breaks_append (ended : Ended text) (more : Text) :
    (text ++ more).breaks = text.breaks + more.breaks := by
  unfold breaks
  rw [rows_append ended, List.dropLast_append_of_ne_nil (rows_ne_nil more), List.length_append]

/-- Each row starts after the rows before it. -/
theorem getElem?_rowStarts {start line place : Nat} {rows : List Text}
    (listed : (rowStarts start rows)[line]? = some place) :
    place = start + (rows.take line).flatten.length := by
  induction rows generalizing start line with
  | nil => cases listed
  | cons row rest ih =>
    cases line with
    | zero => simpa [rowStarts] using listed.symm
    | succ line =>
      rw [rowStarts, List.getElem?_cons_succ] at listed
      rw [ih listed, List.take_succ_cons, List.flatten_cons, List.length_append, Nat.add_assoc]

end Text

/-- The place that many lines further down, in the same column. -/
def Position.below (breaks : Nat) (position : Position) : Position :=
  ⟨breaks + position.line, position.character⟩

namespace LineIndex

open Text

variable {text more : Text} {offset : Nat}

/-- The starts of the rows of a finished text and of what follows it. -/
theorem rowStarts_rows_append (ended : Ended text) (more : Text) :
    rowStarts 0 (text ++ more).rows =
      rowStarts 0 text.rows.dropLast ++ (rowStarts 0 more.rows).map (text.length + ·) := by
  rw [rows_append ended, rowStarts_append, flatten_dropLast_rows ended, ← rowStarts_add,
    Nat.zero_add, Nat.add_zero]

/-- The line of a place in the first of two texts: the finished rows up to the place count. -/
theorem lineOf_append_of_lt (ended : Ended text) (inside : offset < text.length) (more : Text) :
    (ofText (text ++ more)).lineOf offset =
      ((rowStarts 0 text.rows.dropLast).filter (· ≤ offset)).length - 1 := by
  have within : min offset (text ++ more).length = offset := by
    rw [List.length_append]
    omega
  have beyond : ((rowStarts 0 more.rows).map (text.length + ·)).filter (· ≤ offset) = [] := by
    refine List.filter_eq_nil_iff.mpr fun place listed => ?_
    obtain ⟨start, _, rfl⟩ := List.mem_map.mp listed
    rw [decide_eq_true_eq]
    omega
  change ((rowStarts 0 (text ++ more).rows).filter
    (· ≤ min offset (text ++ more).length)).length - 1 = _
  rw [within, rowStarts_rows_append ended, List.filter_append, beyond, List.append_nil]

/-- The line of a place in the second of two texts: the line breaks of the first are above it. -/
theorem lineOf_append_add (ended : Ended text) (more : Text) (offset : Nat) :
    (ofText (text ++ more)).lineOf (text.length + offset) =
      text.breaks + (ofText more).lineOf offset := by
  have limit : min (text.length + offset) (text ++ more).length =
      text.length + min offset more.length := by
    rw [List.length_append]
    omega
  have finished : (rowStarts 0 text.rows.dropLast).filter
      (· ≤ text.length + min offset more.length) = rowStarts 0 text.rows.dropLast := by
    refine List.filter_eq_self.mpr fun place listed => ?_
    have bounds := rowStarts_bounds listed
    rw [flatten_dropLast_rows ended] at bounds
    rw [decide_eq_true_eq]
    omega
  have moved : ((rowStarts 0 more.rows).map (text.length + ·)).filter
      (· ≤ text.length + min offset more.length) =
        ((rowStarts 0 more.rows).filter (· ≤ min offset more.length)).map (text.length + ·) := by
    rw [List.filter_map]
    congr 2
    funext place
    simp
  have first : 0 < ((rowStarts 0 more.rows).filter (· ≤ min offset more.length)).length := by
    cases found : more.rows with
    | nil => exact absurd found (rows_ne_nil more)
    | cons row rest => simp [rowStarts]
  change ((rowStarts 0 (text ++ more).rows).filter
    (· ≤ min (text.length + offset) (text ++ more).length)).length - 1 =
      text.breaks + (((rowStarts 0 more.rows).filter (· ≤ min offset more.length)).length - 1)
  rw [limit, rowStarts_rows_append ended, List.filter_append, finished, moved,
    List.length_append, List.length_map, length_rowStarts]
  unfold breaks
  omega

/-- A line of the first of two texts, and the first of the second, starts where it did. -/
theorem lineStart_append_of_le (ended : Ended text) {line : Nat} (above : line ≤ text.breaks)
    (more : Text) :
    (ofText (text ++ more)).lineStart line = (text.rows.dropLast.take line).flatten.length := by
  change ((text ++ more).rows.take line).flatten.length = _
  rw [rows_append ended, List.take_append_of_le_length above]

/-- A line of the second of two texts starts after the first text. -/
theorem lineStart_append_add (ended : Ended text) (more : Text) (line : Nat) :
    (ofText (text ++ more)).lineStart (text.breaks + line) =
      text.length + (ofText more).lineStart line := by
  change ((text ++ more).rows.take (text.rows.dropLast.length + line)).flatten.length =
    text.length + (more.rows.take line).flatten.length
  rw [rows_append ended, List.take_length_add_append, List.flatten_append, List.length_append,
    flatten_dropLast_rows ended]

/-- A place in a finished text is where it was when more follows. -/
theorem position_append_of_lt (ended : Ended text) (inside : offset < text.length) (more : Text) :
    (ofText (text ++ more)).position offset = (ofText text).position offset := by
  have line (later : Text) := lineOf_append_of_lt ended inside later
  have above : ((rowStarts 0 text.rows.dropLast).filter (· ≤ offset)).length - 1 ≤
      text.breaks := by
    have fewer := List.length_filter_le (· ≤ offset) (rowStarts 0 text.rows.dropLast)
    rw [length_rowStarts] at fewer
    unfold breaks
    omega
  have same (later : Text) : (ofText (text ++ later)).position offset = _ :=
    congrArg₂ Position.mk (line later)
      (congrArg (offset - ·) (by rw [line later, lineStart_append_of_le ended above later]))
  rw [same more, ← same [], List.append_nil]

/-- A place in what follows a finished text moves down by the line breaks of that text. -/
theorem position_append_add (ended : Ended text) (more : Text) (offset : Nat) :
    (ofText (text ++ more)).position (text.length + offset) =
      ((ofText more).position offset).below text.breaks := by
  simp only [position, Position.below, Position.mk.injEq]
  rw [lineOf_append_add ended, lineStart_append_add ended]
  exact ⟨rfl, Nat.add_sub_add_left ..⟩

/-- A place before the start of a line is on an earlier line. -/
theorem lineOf_lt {index : LineIndex} {line : Nat} (above : offset < index.lineStart line) :
    index.lineOf offset < line := by
  have later : (rowStarts (0 + index.lineStart line) (index.rows.drop line)).filter
      (· ≤ min offset index.text.length) = [] := by
    refine List.filter_eq_nil_iff.mpr fun place listed => ?_
    have bounds := (rowStarts_bounds listed).1
    rw [decide_eq_true_eq]
    omega
  have starts : rowStarts 0 index.rows = rowStarts 0 (index.rows.take line) ++
      rowStarts (0 + index.lineStart line) (index.rows.drop line) := by
    rw [lineStart, ← rowStarts_append, List.take_append_drop]
  have earlier := List.length_filter_le (· ≤ min offset index.text.length)
    (rowStarts 0 (index.rows.take line))
  have some_line : line ≠ 0 := by
    rintro rfl
    exact Nat.not_lt_zero _ above
  rw [length_rowStarts, List.length_take] at earlier
  rw [lineOf, starts, List.filter_append, later, List.append_nil]
  omega

/-- The lines are numbered, and each is listed with the place where it starts. -/
theorem lines_spec {index : LineIndex} {line : Nat} {lineText : Text}
    (listed : (line, offset, lineText) ∈ index.lines) :
    line < index.lineCount ∧ offset = index.lineStart line := by
  obtain ⟨i, found⟩ := List.mem_iff_getElem?.mp listed
  obtain ⟨number, columns⟩ := List.getElem?_zip_eq_some.mp found
  obtain ⟨start, -⟩ := List.getElem?_zip_eq_some.mp columns
  obtain ⟨inside, same⟩ := List.getElem?_eq_some_iff.mp number
  rw [List.getElem_range] at same
  obtain rfl := same
  rw [List.length_range] at inside
  exact ⟨inside, (getElem?_rowStarts start).trans (Nat.zero_add _)⟩

/-- The lines of a finished text and of what follows it are counted together. -/
theorem lineCount_append (ended : Ended text) (more : Text) :
    (ofText (text ++ more)).lineCount = text.breaks + (ofText more).lineCount := by
  change (text ++ more).rows.length = text.rows.dropLast.length + more.rows.length
  rw [rows_append ended, List.length_append]

/-- A line of the second of two texts is the one that far below the finished lines of the
first. -/
theorem line?_append_add (ended : Ended text) (more : Text) (line : Nat) :
    (ofText (text ++ more)).line? (text.breaks + line) = (ofText more).line? line := by
  change ((text ++ more).rows[text.rows.dropLast.length + line]?).map trimBreak =
    (more.rows[line]?).map trimBreak
  rw [rows_append ended, List.getElem?_append_right (Nat.le_add_right ..),
    Nat.add_sub_cancel_left]

/-- The lines of a finished text, without the empty last one. -/
def finishedLines (text : Text) : List (Nat × Nat × Text) :=
  (List.range text.breaks).zip
    ((rowStarts 0 text.rows.dropLast).zip (text.rows.dropLast.map trimBreak))

/-- The lines of a finished text and of what follows it: those of the second move down. -/
theorem lines_append (ended : Ended text) (more : Text) :
    (ofText (text ++ more)).lines = finishedLines text ++
      (ofText more).lines.map (Prod.map (text.breaks + ·) (Prod.map (text.length + ·) id)) := by
  change (List.range (ofText (text ++ more)).lineCount).zip
    ((rowStarts 0 (text ++ more).rows).zip ((text ++ more).rows.map trimBreak)) =
      finishedLines text ++ ((List.range (ofText more).lineCount).zip
        ((rowStarts 0 more.rows).zip (more.rows.map trimBreak))).map _
  rw [← List.zip_map, ← List.zip_map_left, lineCount_append ended, List.range_add,
    rowStarts_rows_append ended, rows_append ended, List.map_append,
    List.zip_append (by rw [length_rowStarts, List.length_map]),
    List.zip_append (by simp [length_rowStarts, breaks])]
  rfl

/-- The last line of a finished text is empty. -/
theorem lines_of_ended (ended : Ended text) :
    (ofText text).lines = finishedLines text ++ [(text.breaks, text.length, [])] := by
  have alone := lines_append ended []
  rwa [List.append_nil] at alone

/-- Looking back from the second of two texts, no further than to its beginning. -/
theorem findLastBefore?_append_add (text more : Text) {budget : Nat} (reach : budget ≤ offset)
    (word : Text) :
    (ofText (text ++ more)).findLastBefore? (text.length + offset) budget word =
      ((ofText more).findLastBefore? offset budget word).map (text.length + ·) := by
  have start : windowStart (text.length + offset) budget =
      text.length + windowStart offset budget := Nat.add_sub_assoc reach _
  have window : ((text ++ more).take (text.length + offset)).drop
      (text.length + windowStart offset budget) =
        (more.take offset).drop (windowStart offset budget) := by
    rw [List.take_length_add_append, List.drop_length_add_append]
  change (findLast? word (((text ++ more).take (text.length + offset)).drop
    (windowStart (text.length + offset) budget))).map _ = _
  rw [start, window, findLastBefore?, Option.map_map]
  simp [Function.comp_def, Nat.add_assoc, ofText]

/-- Looking ahead from the second of two texts. -/
theorem findAfter?_append_add (text more : Text) (offset : Nat) (word : Text) :
    (ofText (text ++ more)).findAfter? (text.length + offset) word =
      ((ofText more).findAfter? offset word).map (text.length + ·) := by
  have limit : min (text.length + offset) (text ++ more).length =
      text.length + min offset more.length := by
    rw [List.length_append]
    omega
  change (find? word ((text ++ more).drop (text.length + offset))).map
    (min (text.length + offset) (text ++ more).length + ·) =
      ((find? word (more.drop offset)).map (min offset more.length + ·)).map (text.length + ·)
  rw [limit, List.drop_length_add_append, Option.map_map]
  simp only [Function.comp_def, Nat.add_assoc]

/-- A part of the second of two texts. -/
theorem slice_append_add (text more : Text) (start stop : Nat) :
    (ofText (text ++ more)).slice (text.length + start) (text.length + stop) =
      (ofText more).slice start stop := by
  change ((text ++ more).take (text.length + stop)).drop (text.length + start) = _
  rw [List.take_length_add_append, List.drop_length_add_append]
  rfl

end LineIndex

end Citations
