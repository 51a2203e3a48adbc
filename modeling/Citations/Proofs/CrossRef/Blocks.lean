import Citations.Proofs.CrossRef.Locality
import Citations.Proofs.Text.Search

/-!
# Which attribute blocks are found

An attribute block labels an element: between its braces stand a number sign, the tag of a kind,
a colon and the label, perhaps with other attributes around them. A scan takes one label from
each line, and it is that of the last block there. So of several blocks on one line all but the
last are missed, and every block of a document is found exactly when each one is alone on its
line.
-/
namespace Citations

open Text

/-- How a label of a kind begins in an attribute block. -/
def LabelKind.marker (kind : LabelKind) : Text := '#' :: kind.tag ++ [':']

/-- A text in which no label begins. -/
def Unlabelled (text : Text) : Prop := ∀ kind : LabelKind, ¬ kind.marker <:+: text

/-- What can be written as a label. -/
structure Label where
  /-- The label. -/
  text : Text
  /-- It is there. -/
  nonempty : text ≠ []
  /-- It is made of word characters and hyphens. -/
  made : ∀ c ∈ text, isLabel c = true

/-- Whether a character may stand beside the label in an attribute block. -/
def isFiller (c : Char) : Bool := c ≠ '\x7b' && c ≠ '\x7d' && c ≠ '#' && !isBreak c

/-- An attribute block with a label. -/
structure AttributeBlock where
  /-- What stands before the label. -/
  before : Text
  /-- The kind of what is labelled. -/
  kind : LabelKind
  /-- The label. -/
  label : Label
  /-- What stands after the label. -/
  after : Text
  /-- The label does not go on after its end. -/
  ended : ∀ c ∈ after.head?, isLabel c = false
  /-- Beside the label there are no braces, number signs and line breaks. -/
  plain : ∀ c ∈ before ++ after, isFiller c = true

namespace AttributeBlock

/-- What a block is written as. -/
def text (block : AttributeBlock) : Text :=
  '\x7b' :: (block.before ++ (block.kind.marker ++ (block.label.text ++ (block.after ++ ['\x7d']))))

/-- The block that has a label and nothing else. -/
def ofLabel (kind : LabelKind) (label : Label) : AttributeBlock where
  before := []
  kind := kind
  label := label
  after := []
  ended := by simp
  plain := by simp

/-- What is reported of a block when nothing but its label is asked for. -/
def bare (block : AttributeBlock) : CrossRef := ⟨block.kind, block.label.text, [], []⟩

end AttributeBlock

/-- An attribute block and the text between it and the next one. -/
structure Mark where
  /-- The block. -/
  block : AttributeBlock
  /-- The text after the block. -/
  gap : Text
  /-- No label begins in the text after the block. -/
  quiet : Unlabelled gap

/-- A document with attribute blocks. -/
structure MarkedText where
  /-- The text before the first block. -/
  opening : Text
  /-- No label begins there. -/
  quiet : Unlabelled opening
  /-- The blocks, each with the text up to the next one. -/
  marks : List Mark

/-- What some marks are written as. -/
def Mark.texts (marks : List Mark) : Text := marks.flatMap fun mark => mark.block.text ++ mark.gap

/-- What a document is written as. -/
def MarkedText.text (document : MarkedText) : Text := document.opening ++ Mark.texts document.marks

/-- The blocks that have no other block after them on their line. -/
def Mark.lastOnLines : List Mark → List AttributeBlock
  | [] => []
  | [mark] => [mark.block]
  | mark :: next :: rest =>
    if mark.gap.any isBreak then mark.block :: lastOnLines (next :: rest)
    else lastOnLines (next :: rest)

/-- No two blocks are on one line: a line ends between any two that follow each other. -/
def MarkedText.Spread (document : MarkedText) : Prop :=
  ∀ mark ∈ document.marks.dropLast, mark.gap.any isBreak = true

variable {text more rest gap lead : Text} {c : Char}

/-! ## Characters -/

/-- No line ends inside a label. -/
theorem isBreak_of_isLabel (made : isLabel c = true) : isBreak c = false := by
  by_contra ends
  rw [Bool.not_eq_false] at ends
  rcases isBreak_cases ends with rfl | rfl | rfl | rfl | rfl | rfl | rfl <;>
    exact absurd made (by decide +kernel)

/-- What stands beside a label is no brace, no number sign and no line break. -/
theorem isFiller_iff :
    isFiller c = true ↔ c ≠ '\x7b' ∧ c ≠ '\x7d' ∧ c ≠ '#' ∧ isBreak c = false := by
  simp [isFiller, and_assoc]

/-- The number sign of a marker is its only one, and no line ends in it. -/
theorem LabelKind.plain_tag (kind : LabelKind) :
    '#' ∉ kind.tag ++ [':'] ∧ ∀ c ∈ kind.marker, isBreak c = false := by
  cases kind <;> simp [tag, marker, isBreak]

/-- No label begins where there is no number sign. -/
theorem unlabelled_of_notMem (unsigned : '#' ∉ text) : Unlabelled text := fun _ inside =>
  unsigned (inside.subset List.mem_cons_self)

namespace AttributeBlock

variable (block : AttributeBlock)

/-- A block stays on one line. -/
theorem unbroken : ∀ c ∈ block.text, isBreak c = false := by
  intro c listed
  simp only [text, List.mem_cons, List.mem_append, List.not_mem_nil, or_false] at listed
  have beside (filler : c ∈ block.before ++ block.after) : isBreak c = false :=
    (isFiller_iff.mp (block.plain c filler)).2.2.2
  rcases listed with rfl | before | marker | label | after | rfl
  · rfl
  · exact beside (List.mem_append_left _ before)
  · exact block.kind.plain_tag.2 c marker
  · exact isBreak_of_isLabel (block.label.made c label)
  · exact beside (List.mem_append_right _ after)
  · rfl

/-- The number sign of a block is that of its marker. -/
theorem signless : '#' ∉ block.before ∧ '#' ∉ block.after := by
  have apart {part : Text} (inside : part ⊆ block.before ++ block.after) : '#' ∉ part :=
    fun listed => (isFiller_iff.mp (block.plain '#' (inside listed))).2.2.1 rfl
  exact ⟨apart (List.subset_append_left ..), apart (List.subset_append_right ..)⟩

/-- A block ends in a brace. -/
theorem getLast?_text : block.text.getLast? = some '\x7d' := by
  have shape : block.text = '\x7b' :: (block.before ++ (block.kind.marker ++
      (block.label.text ++ block.after))) ++ ['\x7d'] := by
    simp [text]
  rw [shape]
  exact List.getLast?_concat

/-- What follows a block on its line is on its row. -/
theorem rows_append {first : Text} {others : List Text} (restRows : rest.rows = first :: others) :
    (block.text ++ rest).rows = (block.text ++ first) :: others := by
  have whole : block.text.rows = [] ++ [block.text] := rows_of_unbroken block.unbroken
  refine rows_append_of_apart (fun ends => ?_) whole restRows
  rw [block.getLast?_text] at ends
  exact absurd ends (by decide)

end AttributeBlock

/-! ## The label of a line -/

namespace Markup

/-- The last label of a text is read at the last place where one can be. -/
theorem lastLabel?_eq (text : Text) : lastLabel? text = lastRead? labelHere? text := by
  induction text with
  | nil => rfl
  | cons c rest ih => rw [lastLabel?, lastRead?, ih]

/-- A label begins with a marker. -/
theorem marker_of_labelHere? {found : LabelKind × Text} (read : labelHere? text = some found) :
    ∃ kind : LabelKind, kind.marker <+: text := by
  obtain ⟨⟨kind, rest⟩, marked, -⟩ := Option.bind_eq_some_iff.mp read
  obtain ⟨kind, -, taken⟩ := List.exists_of_findSome?_eq_some marked
  obtain ⟨rest, taken, -⟩ := Option.map_eq_some_iff.mp taken
  exact ⟨kind, rest, (after?_eq_some_iff.mp taken).symm⟩

/-- A text without number signs has no label. -/
theorem lastLabel?_signless (signless : '#' ∉ text) (rest : Text) :
    lastLabel? (text ++ rest) = lastLabel? rest := by
  have unread : ∀ c ∈ text, ∀ more, labelHere? (c :: more) = none := by
    intro c listed more
    by_contra read
    obtain ⟨found, read⟩ := Option.ne_none_iff_exists'.mp read
    obtain ⟨kind, rest, marked⟩ := marker_of_labelHere? read
    obtain rfl := (List.cons.inj marked).1
    exact signless listed
  rw [lastLabel?_eq, lastLabel?_eq, lastRead?_skip unread]

/-- A text in which no label begins does not label a line. -/
theorem lastLabel?_unlabelled (quiet : Unlabelled text) : lastLabel? text = none := by
  rw [lastLabel?_eq]
  refine lastRead?_eq_none fun rest suffix => ?_
  by_contra read
  obtain ⟨found, read⟩ := Option.ne_none_iff_exists'.mp read
  obtain ⟨kind, marked⟩ := marker_of_labelHere? read
  exact quiet kind (marked.isInfix.trans suffix.isInfix)

/-- A label after its marker is read to its end when the block is closed later. -/
theorem labelHere?_marked (kind : LabelKind) (label : Label)
    (ended : ∀ c ∈ rest.head?, isLabel c = false) (closed : '\x7d' ∈ rest) :
    labelHere? (kind.marker ++ (label.text ++ rest)) = some (kind, label.text) := by
  have marked : (LabelKind.all.findSome? fun other =>
      (after? ('#' :: other.tag ++ [':']) (kind.marker ++ (label.text ++ rest))).map (other, ·)) =
        some (kind, label.text ++ rest) := by
    cases kind <;> rfl
  obtain ⟨taken, left⟩ := takeWhile_append_of_stops label.made ended
  rw [labelHere?, marked]
  change (if (label.text ++ rest).takeWhile isLabel ≠ [] ∧
    '\x7d' ∈ (label.text ++ rest).dropWhile isLabel then _ else _) = _
  rw [taken, left, if_pos ⟨label.nonempty, closed⟩]

/-- The last label of a text is one with its marker, if there is no other one after it. -/
theorem lastLabel?_marked (kind : LabelKind) (label : Label)
    (ended : ∀ c ∈ rest.head?, isLabel c = false) (closed : '\x7d' ∈ rest) :
    lastLabel? (kind.marker ++ (label.text ++ rest)) =
      (lastLabel? rest).or (some (kind, label.text)) := by
  have signless : '#' ∉ kind.tag ++ [':'] ++ label.text := by
    rw [List.mem_append, not_or]
    exact ⟨kind.plain_tag.1, fun listed => absurd (label.made '#' listed) (by decide)⟩
  have shape : kind.marker ++ (label.text ++ rest) =
      '#' :: (kind.tag ++ [':'] ++ label.text ++ rest) := by
    simp [LabelKind.marker]
  have here := labelHere?_marked kind label ended closed
  rw [shape] at here ⊢
  rw [lastLabel?, here, lastLabel?_signless signless]

/-- The last block of a text labels it. -/
theorem lastLabel?_block (block : AttributeBlock) (quiet : Unlabelled gap) :
    lastLabel? (block.text ++ gap) = some (block.kind, block.label.text) := by
  have signless : '#' ∉ '\x7b' :: block.before ∧ '#' ∉ block.after ++ ['\x7d'] := by
    simp [block.signless]
  have shape : block.text ++ gap = '\x7b' :: block.before ++ (block.kind.marker ++
      (block.label.text ++ (block.after ++ ['\x7d'] ++ gap))) := by
    simp [AttributeBlock.text]
  rw [shape, lastLabel?_signless signless.1, lastLabel?_marked, lastLabel?_signless signless.2,
    lastLabel?_unlabelled quiet, Option.none_or]
  · intro c begins
    cases after : block.after with
    | nil =>
      rw [after] at begins
      obtain rfl : '\x7d' = c := Option.some.inj begins
      decide
    | cons d rest =>
      rw [after] at begins
      exact block.ended c (after ▸ begins)
  · simp

/-- The last block of a line labels it. -/
theorem label?_block (lead : Text) (block : AttributeBlock) (quiet : Unlabelled gap) :
    label? (lead ++ (block.text ++ gap)) = some (block.kind, block.label.text) := by
  have here := lastLabel?_block block quiet
  have opens : ∃ front, (lead ++ (block.text ++ gap)).dropWhile (· ≠ '\x7b') =
      front ++ (block.text ++ gap) := by
    rw [List.dropWhile_append]
    split
    · exact ⟨[], List.dropWhile_cons_of_neg (by decide)⟩
    · exact ⟨_, rfl⟩
  obtain ⟨front, opened⟩ := opens
  rw [lastLabel?_eq] at here
  rw [label?, opened, lastLabel?_eq]
  exact lastRead?_append here front

/-- A line in which no label begins has none. -/
theorem label?_unlabelled (quiet : Unlabelled text) : label? text = none :=
  lastLabel?_unlabelled fun kind inside =>
    quiet kind (inside.trans (List.dropWhile_suffix _).isInfix)

end Markup

/-! ## The labels of the rows -/

/-- The label of a row. -/
def rowLabel? (row : Text) : Option (LabelKind × Text) := Markup.label? (trimBreak row)

/-- The rows of a text in which no label begins have none. -/
theorem rowLabel?_unlabelled (quiet : Unlabelled text) {row : Text} (part : row <:+: text) :
    rowLabel? row = none :=
  Markup.label?_unlabelled fun kind inside =>
    quiet kind (inside.trans ((trimBreak_begins row).isInfix.trans part))

/-- A row is labelled by its last block. -/
theorem rowLabel?_block (lead : Text) (block : AttributeBlock) (quiet : Unlabelled gap)
    {row : Text} (part : row <:+: gap) :
    rowLabel? (lead ++ (block.text ++ row)) = some (block.kind, block.label.text) := by
  have ends : (lead ++ block.text).getLast? = some '\x7d' := by
    rw [List.getLast?_append, block.getLast?_text, Option.some_or]
  rw [rowLabel?, ← List.append_assoc, trimBreak_append ends rfl, List.append_assoc]
  exact Markup.label?_block lead block fun kind inside =>
    quiet kind (inside.trans ((trimBreak_begins row).isInfix.trans part))

/-- The rows of a text in which no label begins are not labelled. -/
theorem filterMap_rowLabel?_unlabelled (quiet : Unlabelled text) {rows : List Text}
    (parts : ∀ row ∈ rows, row ∈ text.rows) : rows.filterMap rowLabel? = [] :=
  List.filterMap_eq_nil_iff.mpr fun row listed =>
    rowLabel?_unlabelled quiet (infix_of_mem_rows (parts row listed))

/-- The rows of some marks, with any text in front of the first row, are labelled by the blocks
that are last on their lines. -/
theorem filterMap_rows_texts (mark : Mark) (marks : List Mark) :
    ∃ first others, (Mark.texts (mark :: marks)).rows = first :: others ∧
      ∀ lead, ((lead ++ first) :: others).filterMap rowLabel? =
        (Mark.lastOnLines (mark :: marks)).map fun block => (block.kind, block.label.text) := by
  induction marks generalizing mark with
  | nil =>
    have shape : Mark.texts [mark] = mark.block.text ++ mark.gap := by simp [Mark.texts]
    cases gapRows : mark.gap.rows with
    | nil => exact absurd gapRows (rows_ne_nil _)
    | cons row below =>
      refine ⟨mark.block.text ++ row, below, shape ▸ mark.block.rows_append gapRows,
        fun lead => ?_⟩
      have part : row <:+: mark.gap := infix_of_mem_rows (gapRows ▸ List.mem_cons_self)
      have unlabelled : below.filterMap rowLabel? = [] :=
        filterMap_rowLabel?_unlabelled mark.quiet fun row listed =>
          gapRows ▸ List.mem_cons_of_mem _ listed
      rw [List.filterMap_cons, rowLabel?_block lead mark.block mark.quiet part, unlabelled]
      rfl
  | cons next rest ih =>
    obtain ⟨first, others, textsRows, labelled⟩ := ih next
    have shape : Mark.texts (mark :: next :: rest) =
        mark.block.text ++ (mark.gap ++ Mark.texts (next :: rest)) := by
      simp [Mark.texts]
    have apart : mark.gap.getLast? = some '\r' →
        (Mark.texts (next :: rest)).head? ≠ some '\n' := by
      intro _ begins
      exact absurd (Option.some.inj begins) (by decide)
    obtain empty | ⟨finished, last, gapRows⟩ := List.eq_nil_or_concat mark.gap.rows
    · exact absurd empty (rows_ne_nil _)
    rw [List.concat_eq_append] at gapRows
    have bothRows := rows_append_of_apart apart gapRows textsRows
    -- The gap ends no line when its last row is its only one, and then the next block is on the
    -- line of this one.
    cases finished with
    | nil =>
      have broken : mark.gap.any isBreak = false :=
        any_isBreak_eq_false.mpr (unbroken_of_rows gapRows)
      refine ⟨mark.block.text ++ (last ++ first), others,
        shape ▸ mark.block.rows_append bothRows, fun lead => ?_⟩
      have later := labelled (lead ++ (mark.block.text ++ last))
      rw [Mark.lastOnLines, broken, if_neg Bool.false_ne_true, ← later, List.append_assoc,
        List.append_assoc]
    | cons row below =>
      have broken : mark.gap.any isBreak = true := by
        by_contra unbroken
        have alone := rows_of_unbroken (any_isBreak_eq_false.mp (eq_false_of_ne_true unbroken))
        rw [gapRows] at alone
        exact absurd (congrArg List.length alone) (by simp)
      refine ⟨mark.block.text ++ row, below ++ (last ++ first) :: others,
        shape ▸ mark.block.rows_append bothRows, fun lead => ?_⟩
      have part : row <:+: mark.gap := infix_of_mem_rows (gapRows ▸ by simp)
      have unlabelled : below.filterMap rowLabel? = [] :=
        filterMap_rowLabel?_unlabelled mark.quiet fun row listed => gapRows ▸ by simp [listed]
      rw [List.filterMap_cons, rowLabel?_block lead mark.block mark.quiet part,
        List.filterMap_append, unlabelled, List.nil_append, labelled last, Mark.lastOnLines,
        if_pos broken]
      rfl

/-- The rows of a document are labelled by the blocks that are last on their lines. -/
theorem filterMap_rows_text (document : MarkedText) :
    document.text.rows.filterMap rowLabel? =
      (Mark.lastOnLines document.marks).map fun block => (block.kind, block.label.text) := by
  have opening {rows : List Text} (parts : ∀ row ∈ rows, row ∈ document.opening.rows) :=
    filterMap_rowLabel?_unlabelled document.quiet parts
  cases written : document.marks with
  | nil =>
    have alone : document.text = document.opening := by simp [MarkedText.text, written, Mark.texts]
    rw [alone, opening fun _ listed => listed]
    rfl
  | cons mark marks =>
    obtain ⟨first, others, textsRows, labelled⟩ := filterMap_rows_texts mark marks
    have apart : document.opening.getLast? = some '\r' →
        (Mark.texts (mark :: marks)).head? ≠ some '\n' := by
      intro _ begins
      exact absurd (Option.some.inj begins) (by decide)
    obtain empty | ⟨finished, last, openingRows⟩ := List.eq_nil_or_concat document.opening.rows
    · exact absurd empty (rows_ne_nil _)
    rw [List.concat_eq_append] at openingRows
    rw [MarkedText.text, written, rows_append_of_apart apart openingRows textsRows,
      List.filterMap_append, opening (fun row listed => openingRows ▸ by simp [listed]),
      List.nil_append, labelled last]

/-! ## The blocks of a document -/

/-- Each line is listed with its text. -/
theorem LineIndex.map_lines (index : LineIndex) :
    index.lines.map (·.2.2) = index.rows.map trimBreak := by
  have starts : ((rowStarts 0 index.rows).zip (index.rows.map trimBreak)).map (·.2) =
      index.rows.map trimBreak :=
    List.map_snd_zip (by rw [length_rowStarts, List.length_map])
  have numbers : index.lines.map (·.2) =
      (rowStarts 0 index.rows).zip (index.rows.map trimBreak) :=
    List.map_snd_zip (by simp [length_rowStarts, lineCount])
  rw [← starts, ← numbers, List.map_map]
  rfl

namespace Mark

/-- At most one block is reported for each mark. -/
theorem length_lastOnLines_le (marks : List Mark) : (lastOnLines marks).length ≤ marks.length := by
  fun_induction lastOnLines marks with
  | case1 => exact Nat.le_refl 0
  | case2 mark => exact Nat.le_refl 1
  | case3 mark next rest ends ih => exact Nat.succ_le_succ ih
  | case4 mark next rest stays ih => exact Nat.le_succ_of_le ih

/-- As many blocks are last on their lines as there are blocks exactly when a line ends between
any two that follow each other. -/
theorem length_lastOnLines_eq_iff (marks : List Mark) :
    (lastOnLines marks).length = marks.length ↔
      ∀ mark ∈ marks.dropLast, mark.gap.any isBreak = true := by
  fun_induction lastOnLines marks with
  | case1 => simp
  | case2 mark => simp
  | case3 mark next rest ends ih =>
    rw [List.length_cons, List.length_cons (a := mark), Nat.succ_inj, ih,
      List.dropLast_cons_of_ne_nil (List.cons_ne_nil next rest), List.forall_mem_cons]
    exact (and_iff_right ends).symm
  | case4 mark next rest stays ih =>
    have fewer := length_lastOnLines_le (next :: rest)
    rw [List.dropLast_cons_of_ne_nil (List.cons_ne_nil next rest), List.forall_mem_cons,
      List.length_cons (a := mark)]
    exact iff_of_false (by omega) fun all => stays all.1

/-- The blocks that are last on their lines are among the blocks, in order. -/
theorem lastOnLines_sublist (marks : List Mark) :
    (lastOnLines marks).Sublist (marks.map Mark.block) := by
  fun_induction lastOnLines marks with
  | case1 => exact List.Sublist.refl _
  | case2 mark => exact List.Sublist.refl _
  | case3 mark next rest ends ih => exact ih.cons_cons _
  | case4 mark next rest stays ih => exact ih.cons _

end Mark

namespace Scanner

/-- A scan for labels alone reports the label of each row. -/
theorem scan_minimal_eq (scanner : Scanner) (text : Text) (document? : Option Path) :
    scanner.scan text document? .minimal =
      (text.rows.filterMap rowLabel?).map fun (kind, label) => ⟨kind, label, [], []⟩ := by
  have labels : (text.rows.filterMap rowLabel?) =
      ((LineIndex.ofText text).lines.map (·.2.2)).filterMap Markup.label? := by
    rw [LineIndex.map_lines, List.filterMap_map]
    rfl
  rw [labels, List.filterMap_map, List.map_filterMap]
  change (sites (LineIndex.ofText text)).map _ = _
  rw [sites_eq, List.map_filterMap]
  refine List.filterMap_congr fun line _ => ?_
  obtain ⟨line, offset, lineText⟩ := line
  simp only [siteOf?, Option.map_map]
  rfl

/-- A scan for labels alone has a report, of the last block of each line, in the order of the
document. So it reports every block once and in order exactly when no two are on one line. -/
theorem scan_minimal_exact (scanner : Scanner) (document? : Option Path)
    (document : MarkedText) :
    let reported := scanner.scan document.text document? .minimal
    scanner.scan? document.text document? .minimal = some reported ∧
    reported = (Mark.lastOnLines document.marks).map AttributeBlock.bare ∧
    (reported = document.marks.map (fun mark => mark.block.bare) ↔ document.Spread) := by
  intro reported
  have last : reported = (Mark.lastOnLines document.marks).map AttributeBlock.bare := by
    simp only [reported, scan_minimal_eq, filterMap_rows_text, List.map_map]
    rfl
  refine ⟨scan?_minimal scanner document.text document?, last, fun all => ?_, fun spread => ?_⟩
  · rw [last] at all
    have lengths := congrArg List.length all
    rw [List.length_map, List.length_map] at lengths
    exact (Mark.length_lastOnLines_eq_iff _).mp lengths
  · have lengths := (Mark.length_lastOnLines_eq_iff document.marks).mpr spread
    have every := (Mark.lastOnLines_sublist document.marks).eq_of_length
      (by rw [lengths, List.length_map])
    rw [last, every, List.map_map]
    rfl

/-- Of two blocks on one line the first is not reported. -/
theorem scan_minimal_sameLine :
    let document : MarkedText :=
      { opening := []
        quiet := fun kind => by cases kind <;> decide
        marks := [
          { block := .ofLabel .figure ⟨['a'], by decide, List.all_eq_true.mp (by decide)⟩
            gap := [' ']
            quiet := fun kind => by cases kind <;> decide },
          { block := .ofLabel .figure ⟨['b'], by decide, List.all_eq_true.mp (by decide)⟩
            gap := []
            quiet := fun kind => by cases kind <;> decide }] }
    let scanner : Scanner := ⟨800, 3⟩
    document.text = "\x7b#fig:a\x7d \x7b#fig:b\x7d".toList ∧
    scanner.scan? document.text none .minimal = some [⟨.figure, ['b'], [], []⟩] ∧
    document.marks.map (fun mark => mark.block.bare) =
      [⟨.figure, ['a'], [], []⟩, ⟨.figure, ['b'], [], []⟩] := by
  decide +kernel

end Scanner

end Citations
