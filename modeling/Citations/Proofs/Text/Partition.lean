import Citations.Proofs.Text.Octets
import Citations.Proofs.Text.Positions

/-!
# Lines as a partition of the text

A row is a text without line breaks and then a line break, and the last row has none. A carriage
return and a line feed are one break and are never cut, so a row starts at the beginning of the text
and wherever a line break ends that the text does not go on with, and nowhere else. The rows make up
the text, each of them takes the octets from the start of its line up to the next start, the line of
an octet is the last one that starts at or before it, and a line is its row without a line feed or
carriage return at the end.
-/
namespace Citations

namespace Text

variable {text lead rest row body ending : Text} {below : List Text} {line : Nat} {c : Char}

/-- What ends a line. -/
def lineBreaks : List Text :=
  [['\n'], ['\r'], ['\r', '\n'], ['\x0b'], ['\x0c'], ['\u0085'], ['\u2028'], ['\u2029']]

/-- A line ends between two texts: the first one ends in a line break, and no carriage return is
cut from its line feed. -/
structure Parted (lead rest : Text) : Prop where
  /-- The first text ends in a line break. -/
  broken : ∃ ending ∈ lineBreaks, ending <:+ lead
  /-- The second text does not go on with the break. -/
  whole : lead.getLast? = some '\r' → rest.head? ≠ some '\n'

/-- A line is its row without the line feed, the carriage return or both that may end the row. -/
def Strips (row body : Text) : Prop :=
  ∃ ending ∈ [[], ['\n'], ['\r'], ['\r', '\n']], row = body ++ ending ∧
    body.getLast? ≠ some '\n' ∧ body.getLast? ≠ some '\r'

/-- A row above others is a text without line breaks and then a line break that they do not go on
with. The last row is a text without line breaks. -/
def RowAbove (row : Text) (below : List Text) : Prop :=
  ∃ body ending, row = body ++ ending ∧ (∀ c ∈ body, isBreak c = false) ∧
    (below = [] ∧ ending = [] ∨
      below ≠ [] ∧ ending ∈ lineBreaks ∧ (ending = ['\r'] → below.flatten.head? ≠ some '\n'))

/-! ## Line breaks -/

/-- A character that ends a line is a line break. -/
theorem mem_lineBreaks_of_isBreak (ends : isBreak c = true) : [c] ∈ lineBreaks := by
  rcases isBreak_cases ends with rfl | rfl | rfl | rfl | rfl | rfl | rfl <;> decide

/-- A line break ends in a character that ends a line. -/
theorem getLast?_lineBreak (listed : ending ∈ lineBreaks) :
    ∃ c, ending.getLast? = some c ∧ isBreak c = true := by
  have all : ∀ ending ∈ lineBreaks, ending.getLast?.any isBreak = true := by decide
  exact (Option.any_eq_true ..).mp (all ending listed)

/-- A text ends in a line break when its last character is one that ends a line. -/
theorem broken_iff :
    (∃ ending ∈ lineBreaks, ending <:+ lead) ↔ ∃ c, lead.getLast? = some c ∧ isBreak c = true := by
  constructor
  · rintro ⟨ending, listed, front, rfl⟩
    obtain ⟨c, last, ends⟩ := getLast?_lineBreak listed
    refine ⟨c, ?_, ends⟩
    rw [List.getLast?_append, last]
    rfl
  · rintro ⟨c, last, ends⟩
    obtain ⟨front, rfl⟩ := List.getLast?_eq_some_iff.mp last
    exact ⟨[c], mem_lineBreaks_of_isBreak ends, List.suffix_append ..⟩

/-- What stands before a text that ends in a line break makes no difference. -/
theorem Parted.append_left (parted : Parted lead rest) (front : Text) :
    Parted (front ++ lead) rest := by
  obtain ⟨c, last, ends⟩ := broken_iff.mp parted.broken
  have same : (front ++ lead).getLast? = lead.getLast? := by
    rw [List.getLast?_append, last]
    rfl
  constructor
  · rw [broken_iff, same]
    exact ⟨c, last, ends⟩
  · rw [same]
    exact parted.whole

/-! ## Rows -/

/-- A character that ends no line goes to the front of a row. -/
theorem RowAbove.cons (inside : isBreak c = false) (shaped : RowAbove row below) :
    RowAbove (c :: row) below := by
  obtain ⟨body, ending, rfl, unbroken, ends⟩ := shaped
  refine ⟨c :: body, ending, rfl, ?_, ends⟩
  intro d listed
  rcases List.mem_cons.mp listed with rfl | later
  · exact inside
  · exact unbroken d later

/-- A line break alone is a row above those of a text that does not go on with it. -/
theorem rowAbove_lineBreak (listed : ending ∈ lineBreaks)
    (apart : ending = ['\r'] → rest.head? ≠ some '\n') : RowAbove ending rest.rows := by
  refine ⟨[], ending, rfl, ?_, Or.inr ⟨rows_ne_nil rest, listed, ?_⟩⟩
  · intro c inside
    cases inside
  · rw [flatten_rows]
    exact apart

/-- Every row of a text is one above the rows below it. -/
theorem rowAbove_of_rows (listed : text.rows[line]? = some row) :
    RowAbove row (text.rows.drop (line + 1)) := by
  -- A character in front makes a row of its own or goes to the first row, the others stay.
  fun_induction rows text generalizing line row with
  | case1 =>
    obtain ⟨rfl, rfl⟩ : line = 0 ∧ row = [] := by
      cases line with
      | zero => exact ⟨rfl, (Option.some.inj listed).symm⟩
      | succ line => cases listed
    exact ⟨[], [], rfl, by simp, Or.inl ⟨rfl, rfl⟩⟩
  | case2 rest ih =>
    cases line with
    | zero =>
      obtain rfl := Option.some.inj listed
      exact rowAbove_lineBreak (by decide) fun same => absurd same (by decide)
    | succ line => exact ih listed
  | case3 c rest pairless isEnd ih =>
    cases line with
    | zero =>
      obtain rfl := Option.some.inj listed
      refine rowAbove_lineBreak (mem_lineBreaks_of_isBreak isEnd) fun same => ?_
      have reader : c = '\r' := List.singleton_inj.mp same
      intro begins
      obtain ⟨more, rfl⟩ := List.head?_eq_some_iff.mp begins
      exact pairless more reader rfl
    | succ line => exact ih listed
  | case4 c rest pairless inside ih =>
    rw [Bool.not_eq_true] at inside
    cases found : rows rest with
    | nil => exact absurd found (rows_ne_nil rest)
    | cons first others =>
      rw [found] at listed ih
      cases line with
      | zero =>
        obtain rfl := Option.some.inj listed
        have top : (first :: others)[0]? = some first := rfl
        exact (ih top).cons inside
      | succ line =>
        have below : (first :: others)[line + 1]? = some row := listed
        exact ih below

/-- A row ends in a line break that the rows below it do not go on with. -/
theorem RowAbove.parted (shaped : RowAbove row below) (further : below ≠ []) :
    Parted row below.flatten := by
  obtain ⟨body, ending, rfl, unbroken, ⟨last, -⟩ | ⟨-, listed, apart⟩⟩ := shaped
  · exact absurd last further
  have alone : Parted ending below.flatten := by
    refine ⟨⟨ending, listed, List.suffix_refl ending⟩, fun reader => apart ?_⟩
    have only : ∀ ending ∈ lineBreaks, ending.getLast? = some '\r' → ending = ['\r'] := by decide
    exact only ending listed reader
  exact alone.append_left body

/-- A row above others is not empty. -/
theorem RowAbove.ne_nil (shaped : RowAbove row below) (further : below ≠ []) : row ≠ [] := by
  obtain ⟨c, last, -⟩ := broken_iff.mp (shaped.parted further).broken
  rintro rfl
  cases last

/-- The last row has no line breaks. -/
theorem RowAbove.unbroken (shaped : RowAbove row []) : ∀ c ∈ row, isBreak c = false := by
  obtain ⟨body, ending, rfl, unbroken, ⟨-, rfl⟩ | ⟨further, -⟩⟩ := shaped
  · rwa [List.append_nil]
  · contradiction

/-- A line feed or carriage return behind characters that end no line is trimmed without them. -/
theorem trimBreak_append_of_unbroken (unbroken : ∀ c ∈ body, isBreak c = false) (ending : Text) :
    trimBreak (body ++ ending) = body ++ trimBreak ending := by
  cases last : body.getLast? with
  | none =>
    obtain rfl := List.getLast?_eq_none_iff.mp last
    rfl
  | some c => exact trimBreak_append last (unbroken c (List.mem_of_getLast? last)) ending

/-- Of the line breaks those made of line feeds and carriage returns are trimmed, and the others are
kept. -/
theorem trimBreak_lineBreak : ∀ ending ∈ lineBreaks,
    trimBreak ending = [] ∧ ending ∈ [[], ['\n'], ['\r'], ['\r', '\n']] ∨
      trimBreak ending = ending ∧ ending ≠ [] ∧ ending.getLast? ≠ some '\n' ∧
        ending.getLast? ≠ some '\r' := by
  decide

/-- A line is its row without a line feed, a carriage return or both at the end. -/
theorem RowAbove.strips (shaped : RowAbove row below) : Strips row (trimBreak row) := by
  obtain ⟨body, ending, rfl, unbroken, ends⟩ := shaped
  have noBreak {c : Char} (isEnd : isBreak c = true) : body.getLast? ≠ some c := by
    intro last
    rw [unbroken c (List.mem_of_getLast? last)] at isEnd
    contradiction
  have plain : body.getLast? ≠ some '\n' ∧ body.getLast? ≠ some '\r' :=
    ⟨noBreak (by decide), noBreak (by decide)⟩
  rw [trimBreak_append_of_unbroken unbroken]
  rcases ends with ⟨-, rfl⟩ | ⟨-, listed, -⟩
  · have nothing : trimBreak [] = [] := rfl
    rw [nothing, List.append_nil]
    exact ⟨[], List.mem_cons_self, (List.append_nil body).symm, plain⟩
  · rcases trimBreak_lineBreak ending listed with ⟨gone, short⟩ | ⟨kept, nonempty, others⟩
    · rw [gone, List.append_nil]
      exact ⟨ending, short, rfl, plain⟩
    · rw [kept]
      refine ⟨[], List.mem_cons_self, (List.append_nil _).symm, ?_⟩
      rwa [List.getLast?_append_of_ne_nil _ nonempty]

/-! ## Starts of rows -/

/-- The rows above a line are the beginning of the text. -/
theorem flatten_take_begins (text : Text) (line : Nat) :
    (text.rows.take line).flatten <+: text := by
  have above := (List.take_prefix line text.rows).flatten
  rwa [flatten_rows] at above

/-- A row that is not the last one is above others. -/
theorem exists_rowAbove (further : line + 1 < text.rows.length) :
    ∃ row, text.rows[line]? = some row ∧ RowAbove row (text.rows.drop (line + 1)) ∧
      text.rows.drop (line + 1) ≠ [] := by
  have inside : line < text.rows.length := by omega
  have listed := List.getElem?_eq_getElem inside
  refine ⟨_, listed, rowAbove_of_rows listed, ?_⟩
  rw [ne_eq, List.drop_eq_nil_iff]
  omega

/-- The rows above a row end where a line ends. -/
theorem parted_above (further : line + 1 < text.rows.length) :
    Parted (text.rows.take (line + 1)).flatten (text.rows.drop (line + 1)).flatten := by
  obtain ⟨row, listed, shaped, below⟩ := exists_rowAbove further
  rw [flatten_take_succ listed]
  exact (shaped.parted below).append_left _

/-- A later row starts further on. -/
theorem length_flatten_take_lt {later : Nat} (above : line < later)
    (counted : later < text.rows.length) :
    (text.rows.take line).flatten.length < (text.rows.take later).flatten.length := by
  obtain ⟨row, listed, shaped, below⟩ := exists_rowAbove (show line + 1 < text.rows.length by omega)
  have long := List.length_pos_iff.mpr (shaped.ne_nil below)
  have ends := Position.flatten_take_lt listed above
  omega

/-- Behind a line break that a text does not go on with its rows follow. -/
theorem rows_append_of_parted (parted : Parted lead rest) :
    ∃ finished, finished.flatten = lead ∧ (lead ++ rest).rows = finished ++ rest.rows := by
  have leadRows := (List.dropLast_append_getLast (rows_ne_nil lead)).symm
  generalize lead.rows.dropLast = finished at leadRows
  generalize lead.rows.getLast (rows_ne_nil lead) = last at leadRows
  have whole : lead = finished.flatten ++ last := by
    rw [← flatten_rows lead, leadRows, List.flatten_append, List.flatten_singleton]
  have unbroken : ∀ c ∈ last, isBreak c = false := by
    have listed : lead.rows[finished.length]? = some last := by
      rw [leadRows, List.getElem?_concat_length]
    have shaped := rowAbove_of_rows listed
    rw [leadRows, List.drop_eq_nil_of_le (by simp)] at shaped
    exact shaped.unbroken
  -- The first text ends in a line break, so its unfinished last row is empty.
  have nothing : last = [] := by
    by_contra nonempty
    obtain ⟨c, final, ends⟩ := broken_iff.mp parted.broken
    rw [whole, List.getLast?_append_of_ne_nil _ nonempty] at final
    rw [unbroken c (List.mem_of_getLast? final)] at ends
    contradiction
  cases restRows : rest.rows with
  | nil => exact absurd restRows (rows_ne_nil rest)
  | cons first others =>
    have joined := rows_append_of_apart parted.whole leadRows restRows
    rw [nothing, List.nil_append] at joined
    rw [nothing, List.append_nil] at whole
    exact ⟨finished, whole.symm, joined⟩

/-- A row starts at the beginning of a text and behind every line break that the text does not go
on with, and nowhere else. -/
theorem starts_iff : (∃ line < (lead ++ rest).rows.length,
    ((lead ++ rest).rows.take line).flatten = lead) ↔ lead = [] ∨ Parted lead rest := by
  constructor
  · rintro ⟨line, counted, above⟩
    cases line with
    | zero => exact Or.inl above.symm
    | succ line =>
      have whole : ((lead ++ rest).rows.take (line + 1)).flatten ++
          ((lead ++ rest).rows.drop (line + 1)).flatten = lead ++ rest := by
        rw [← List.flatten_append, List.take_append_drop, flatten_rows]
      rw [above] at whole
      have ends := parted_above counted
      rw [above, List.append_cancel_left whole] at ends
      exact Or.inr ends
  · rintro (rfl | parted)
    · exact ⟨0, List.length_pos_iff.mpr (rows_ne_nil _), rfl⟩
    · obtain ⟨finished, above, whole⟩ := rows_append_of_parted parted
      refine ⟨finished.length, ?_, ?_⟩
      · have more := List.length_pos_iff.mpr (rows_ne_nil rest)
        rw [whole, List.length_append]
        omega
      · rw [whole, List.take_left, above]

end Text

namespace LineIndex

open Text

/-- The octet at which a line starts. -/
def lineOctet (index : LineIndex) (line : Nat) : Nat := index.text.octetOf (index.lineStart line)

/-- The octet at which a line ends with its row: the next start, or the end of the text. -/
def endOctet (index : LineIndex) (line : Nat) : Nat :=
  if line + 1 < index.lineCount then index.lineOctet (line + 1) else index.text.octets.length

/-- The line of an octet. -/
def lineAt (index : LineIndex) (octet : Nat) : Nat := index.lineOf (index.text.placeOf octet)

variable {text row : Text} {line later octet : Nat}

/-! ## Starts of lines -/

/-- A line starts in the text or at its end. -/
theorem lineStart_le (text : Text) (line : Nat) : (ofText text).lineStart line ≤ text.length :=
  (flatten_take_begins text line).length_le

/-- A later line starts at a later octet. -/
theorem lineOctet_lt (above : line < later) (counted : later < (ofText text).lineCount) :
    (ofText text).lineOctet line < (ofText text).lineOctet later :=
  octetOf_lt (length_flatten_take_lt above counted) (lineStart_le text later)

/-- A line starts at an octet where it is the beginning of the text or a line ends. -/
theorem exists_lineOctet_iff (lead rest : Text) :
    (∃ line < (ofText (lead ++ rest)).lineCount,
      (ofText (lead ++ rest)).lineOctet line = lead.octets.length) ↔
        lead = [] ∨ Parted lead rest := by
  rw [← starts_iff]
  have inside : lead.length ≤ (lead ++ rest).length := by
    rw [List.length_append]
    omega
  have starts (line : Nat) : (ofText (lead ++ rest)).lineOctet line = lead.octets.length ↔
      ((lead ++ rest).rows.take line).flatten = lead := by
    have above := flatten_take_begins (lead ++ rest) line
    constructor
    · intro same
      rw [← octetOf_of_begins (List.prefix_append lead rest)] at same
      have size := octetOf_inj (lineStart_le (lead ++ rest) line) inside same
      have begins := List.prefix_of_prefix_length_le above (List.prefix_append lead rest)
        (Nat.le_of_eq size)
      exact begins.eq_of_length size
    · intro same
      have size : (ofText (lead ++ rest)).lineStart line = lead.length := congrArg List.length same
      rw [lineOctet, size]
      exact octetOf_of_begins (List.prefix_append lead rest)
  constructor
  · rintro ⟨line, counted, same⟩
    exact ⟨line, counted, (starts line).mp same⟩
  · rintro ⟨line, counted, same⟩
    exact ⟨line, counted, (starts line).mpr same⟩

/-! ## Lines of octets -/

/-- The lines up to that of an octet are those that start at or before it. -/
theorem le_lineAt_iff : line ≤ (ofText text).lineAt octet ↔
    line < (ofText text).lineCount ∧ (ofText text).lineOctet line ≤ octet := by
  have inside := lineStart_le text line
  have starts : text.octetOf ((ofText text).lineStart line) ≤ octet ↔
      (ofText text).lineStart line ≤ min (text.placeOf octet) text.length := by
    rw [octetOf_le_iff inside]
    omega
  have below : line ≤ (ofText text).lineAt octet ↔ line < (ofText text).lineCount ∧
      (ofText text).lineStart line ≤ min (text.placeOf octet) text.length := le_lineOf_iff
  rwa [← starts] at below

/-- The line of an octet is the last one that starts at or before it. -/
theorem isGreatest_lineAt (text : Text) (octet : Nat) :
    IsGreatest {line | line < (ofText text).lineCount ∧ (ofText text).lineOctet line ≤ octet}
      ((ofText text).lineAt octet) := by
  constructor
  · exact le_lineAt_iff.mp (Nat.le_refl _)
  · intro line starts
    exact le_lineAt_iff.mpr starts

/-- A line is the line of the octet at which it starts. -/
theorem lineAt_lineOctet (counted : line < (ofText text).lineCount) :
    (ofText text).lineAt ((ofText text).lineOctet line) = line := by
  obtain ⟨found, starts⟩ := le_lineAt_iff.mp
    (Nat.le_refl ((ofText text).lineAt ((ofText text).lineOctet line)))
  have notBefore := le_lineAt_iff.mpr ⟨counted, Nat.le_refl ((ofText text).lineOctet line)⟩
  have notBehind : ¬ line < (ofText text).lineAt ((ofText text).lineOctet line) := fun behind =>
    Nat.not_lt_of_le starts (lineOctet_lt behind found)
  omega

/-- An octet behind the text is on the line of the end. -/
theorem lineAt_of_le (behind : text.octets.length ≤ octet) :
    (ofText text).lineAt octet = (ofText text).lineAt text.octets.length := by
  have starts (line : Nat) : (ofText text).lineOctet line ≤ text.octets.length := by
    rw [← octetOf_length]
    exact (octetOf_le_octetOf_iff (lineStart_le text line) (Nat.le_refl _)).mpr
      (lineStart_le text line)
  have same (line : Nat) : line ≤ (ofText text).lineAt octet ↔
      line ≤ (ofText text).lineAt text.octets.length := by
    rw [le_lineAt_iff, le_lineAt_iff]
    constructor
    · rintro ⟨counted, -⟩
      exact ⟨counted, starts line⟩
    · rintro ⟨counted, -⟩
      exact ⟨counted, Nat.le_trans (starts line) behind⟩
  exact Nat.le_antisymm ((same _).mp (Nat.le_refl _)) ((same _).mpr (Nat.le_refl _))

/-! ## Rows and lines -/

/-- The rows above a line are the beginning of the text and end where the line starts. -/
theorem octetOf_above (text : Text) (line : Nat) :
    (ofText text).lineOctet line = (octets (text.rows.take line).flatten).length :=
  octetOf_of_begins (flatten_take_begins text line)

/-- A row takes the octets from the start of its line up to the end of the line. -/
theorem row_spans (listed : text.rows[line]? = some row) :
    text.Spans ((ofText text).lineOctet line) ((ofText text).endOctet line) row := by
  refine ⟨_, _, row_between listed, (octetOf_above text line).symm, ?_⟩
  rw [← flatten_take_succ listed, ← octetOf_above]
  unfold endOctet
  split
  · rfl
  · next last =>
    have whole : text.rows.take (line + 1) = text.rows :=
      List.take_of_length_le (Nat.not_lt.mp last)
    rw [octetOf_above, whole, flatten_rows]
    rfl

/-- A line is its row without what ends it, and starts with the row. -/
theorem line_spans (listed : text.rows[line]? = some row) :
    ∃ body, (ofText text).line? line = some body ∧ Strips row body ∧
      text.Spans ((ofText text).lineOctet line)
        ((ofText text).lineOctet line + body.octets.length) body := by
  obtain ⟨ending, short, split, kept⟩ := (rowAbove_of_rows listed).strips
  have shown : (ofText text).line? line = some (trimBreak row) := congrArg (·.map trimBreak) listed
  have strips : Strips row (trimBreak row) := ⟨ending, short, split, kept⟩
  refine ⟨trimBreak row, shown, strips, (text.rows.take line).flatten,
    ending ++ (text.rows.drop (line + 1)).flatten, ?_, (octetOf_above text line).symm, ?_⟩
  · rw [← List.append_assoc (trimBreak row), ← split]
    exact row_between listed
  · rw [octets_append, List.length_append, octetOf_above]

/-- The line index partitions the text. The rows make up the text, and each takes the octets from
the start of its line up to the next start, or up to the end of the text. Lines start in order: at
the beginning and wherever a line break ends, and nowhere else. The line of an octet is the last one
that starts at or before it, which for the start of a line is that line, and an octet behind the
text counts as its end. A line is its row without a line feed, a carriage return or both at the end,
starts with the row, and there is none from the number of lines on. -/
theorem lines_partition (text : Text) :
    let index := ofText text
    (index.rows.length = index.lineCount ∧ index.rows.flatten = text ∧
      ∀ line row, index.rows[line]? = some row →
        text.Spans (index.lineOctet line) (index.endOctet line) row) ∧
    (∀ lead rest, text = lead ++ rest →
      ((∃ line < index.lineCount, index.lineOctet line = lead.octets.length) ↔
        lead = [] ∨ Parted lead rest)) ∧
    (∀ line later, line < later → later < index.lineCount →
      index.lineOctet line < index.lineOctet later) ∧
    (∀ octet, IsGreatest {line | line < index.lineCount ∧ index.lineOctet line ≤ octet}
      (index.lineAt octet)) ∧
    (∀ line < index.lineCount, index.lineAt (index.lineOctet line) = line) ∧
    (∀ octet, text.octets.length ≤ octet →
      index.lineAt octet = index.lineAt text.octets.length) ∧
    (∀ line row, index.rows[line]? = some row → ∃ body, index.line? line = some body ∧
      Strips row body ∧
        text.Spans (index.lineOctet line) (index.lineOctet line + body.octets.length) body) ∧
    (∀ line, index.line? line = none ↔ index.lineCount ≤ line) := by
  intro index
  refine ⟨⟨rfl, flatten_rows text, fun _ _ => row_spans⟩, ?_, fun _ _ => lineOctet_lt,
    isGreatest_lineAt text, fun _ => lineAt_lineOctet, fun _ => lineAt_of_le,
    fun _ _ => line_spans, ?_⟩
  · rintro lead rest rfl
    exact exists_lineOctet_iff lead rest
  · intro line
    have unlisted : index.rows[line]? = none ↔ index.lineCount ≤ line := List.getElem?_eq_none_iff
    rw [← unlisted]
    exact Option.map_eq_none_iff

/-- A text with a carriage return and line feed, a vertical tab, a line separator and a last
carriage return has five lines, the last one empty. No line starts between the carriage return and
its line feed, the vertical tab stays on its line, and an octet behind the text is on the last
line. -/
theorem lines_partition_breaks :
    let text : Text := "é\r\nb\x0b\u2028\r".toList
    let index := ofText text
    index.rows = ["é\r\n", "b\x0b", "\u2028", "\r", ""].map String.toList ∧
    text.Spans 4 6 "b\x0b".toList ∧
    (¬ ∃ line < index.lineCount, index.lineOctet line = 3) ∧
    (∃ line < index.lineCount, index.lineOctet line = 9) ∧
    index.lineOctet 1 < index.lineOctet 4 ∧
    IsGreatest {line | line < index.lineCount ∧ index.lineOctet line ≤ 8} 2 ∧
    index.lineAt (index.lineOctet 3) = 3 ∧
    (10 ≤ 40 ∧ index.lineAt 40 = index.lineAt 10) ∧
    (∃ body, index.line? 0 = some body ∧ Strips "é\r\n".toList body ∧ text.Spans 0 2 body) ∧
    index.line? 5 = none := by
  intro text index
  obtain ⟨⟨-, -, spans⟩, starts, ordered, greatest, own, behind, lines, missing⟩ :=
    lines_partition text
  have second : text.Spans 4 6 "b\x0b".toList := spans 1 "b\x0b".toList (by decide +kernel)
  have inPair : ¬ ∃ line < index.lineCount, index.lineOctet line = 3 := by
    intro starting
    rcases (starts "é\r".toList "\nb\x0b\u2028\r".toList rfl).mp starting with nothing | parted
    · contradiction
    · exact parted.whole rfl rfl
  have separated : Parted "é\r\nb\x0b\u2028".toList "\r".toList :=
    ⟨⟨['\u2028'], by decide, by decide⟩, by decide⟩
  have fourth := (starts "é\r\nb\x0b\u2028".toList "\r".toList rfl).mpr (Or.inr separated)
  have third := greatest 8
  have line : index.lineAt 8 = 2 := by decide +kernel
  rw [line] at third
  obtain ⟨body, shown, strips, part⟩ := lines 0 "é\r\n".toList (by decide +kernel)
  have short : index.line? 0 = some "é".toList := by decide +kernel
  obtain rfl := Option.some.inj (shown.symm.trans short)
  exact ⟨by decide +kernel, second, inPair, fourth, ordered 1 4 (by decide) (by decide +kernel),
    third, own 3 (by decide +kernel), ⟨by decide, behind 40 (by decide +kernel)⟩,
    ⟨_, shown, strips, part⟩, (missing 5).mpr (by decide +kernel)⟩

end LineIndex

end Citations
