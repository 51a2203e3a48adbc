import Citations.Proofs.CrossRef.Blocks

/-!
# Images, headings and captions

The text of a figure stands in the brackets of its image, that of a section in its heading, and
that of a table or a listing on a caption line. Each is read back from the line that it is written
on, whatever looks like markup inside it: the text of an image reaches to the last bracket that a
target follows, and the text of a heading or a caption to the block with its label, since a block
is one only if a number sign stands in it.
-/
namespace Citations

open Text

/-- An image with its label right after it, and other text before it on the line. -/
structure FigureLine where
  /-- The text before the image. -/
  lead : Text
  /-- No image begins in that text. -/
  imageless : ¬ "![".toList <:+: lead
  /-- The text of the image. -/
  caption : Text
  /-- The target of the image. -/
  target : Text
  /-- There is a target. -/
  targeted : target ≠ []
  /-- No other target begins in it. -/
  single : ¬ "](".toList <:+: target
  /-- The label. -/
  label : Label

/-- What can be the text of a heading or of a caption. -/
structure Wording where
  /-- The text. -/
  text : Text
  /-- No white space is around it. -/
  trimmed : trim text = text
  /-- No number sign is in it. -/
  signless : '#' ∉ text

/-- The block after an image. -/
def FigureLine.block (figure : FigureLine) : AttributeBlock := .ofLabel .figure figure.label

/-- The line up to the target of the image. -/
def FigureLine.front (figure : FigureLine) : Text :=
  figure.lead ++ ("![".toList ++ figure.caption)

/-- What an image with a label is written as. -/
def FigureLine.text (figure : FigureLine) : Text :=
  figure.front ++ ("](".toList ++ (figure.target ++ (')' :: figure.block.text)))

/-- The element that an image with a label is reported as. -/
def FigureLine.element (document? : Option Path) (figure : FigureLine) : CrossRef :=
  ⟨.figure, figure.label.text, figure.caption,
    "![](".toList ++ Scanner.imageTarget document? figure.target ++ [')']⟩

/-- A heading that many levels below the highest, with a label. -/
def headingLine (depth : Nat) (title : Wording) (label : Label) : Text :=
  List.replicate (depth + 1) '#' ++
    (' ' :: (title.text ++ (' ' :: (AttributeBlock.ofLabel .section label).text)))

/-- The caption line of something that stands above it, with a label. -/
def captionLine (kind : LabelKind) (caption : Wording) (label : Label) : Text :=
  ':' :: ' ' :: (caption.text ++ (' ' :: (AttributeBlock.ofLabel kind label).text))

variable {text rest ending : Text} {c : Char}

/-! ## White space -/

namespace Text

/-- What is trimmed of white space neither begins nor ends with any. -/
theorem unblank_of_trim (trimmed : trim text = text) :
    (∀ c ∈ text.head?, isBlank c = false) ∧ ∀ c ∈ text.getLast?, isBlank c = false := by
  have suffix : trimStart text <:+ text := List.dropWhile_suffix isBlank
  have front : trimEnd (trimStart text) <+: trimStart text := dropEndWhile_prefix _ _
  have shorter := front.length_le
  have whole : trimStart text = text := by
    refine suffix.eq_of_length_le ?_
    rw [trim] at trimmed
    rwa [trimmed] at shorter
  rw [trim, whole] at trimmed
  constructor
  · intro c begins
    have first := List.head?_dropWhile_not isBlank text
    rw [← trimStart, whole, begins] at first
    simpa using first
  · intro c ends
    have last := List.head?_dropWhile_not isBlank text.reverse
    have reversed : text.reverse.dropWhile isBlank = text.reverse := by
      rw [← List.reverse_eq_iff, ← dropEndWhile]
      exact trimmed
    rw [reversed, List.head?_reverse, ends] at last
    simpa using last

end Text

/-! ## The text before a block -/

namespace Markup

variable {kinds : List LabelKind} {kind : LabelKind}

/-- A word that begins where a text begins, or further on, is found in it. -/
theorem contains_iff {word text : Text} : contains word text = true ↔ word <:+: text := by
  induction text with
  | nil => rw [contains, beginsWith_iff, List.prefix_nil, List.infix_nil]
  | cons c rest ih => rw [contains, Bool.or_eq_true, beginsWith_iff, ih, List.infix_cons_iff]

/-- A block opens for its kind. -/
theorem opensFor_block (listed : kind ∈ kinds) (label : Label) (rest : Text) :
    opensFor kinds ((AttributeBlock.ofLabel kind label).text ++ rest) = true := by
  have plain : ∀ c ∈ kind.marker ++ label.text, (c ≠ '\x7b' && c ≠ '\x7d') = true := by
    intro c listed
    rcases List.mem_append.mp listed with marker | made
    · have marks : ∀ c ∈ kind.marker, (c ≠ '\x7b' && c ≠ '\x7d') = true := by
        cases kind <;> exact List.all_eq_true.mp (by decide)
      exact marks c marker
    · have other {d : Char} (outside : isLabel d = false) : c ≠ d := by
        rintro rfl
        exact absurd (label.made c made) (by simp [outside])
      simp [other (d := '\x7b') (by decide), other (d := '\x7d') (by decide)]
  have inside : (kind.marker ++ label.text ++ ('\x7d' :: rest)).takeWhile
      (fun c => c ≠ '\x7b' && c ≠ '\x7d') = kind.marker ++ label.text :=
    (takeWhile_append_of_stops plain (by simp)).1
  have shape : (AttributeBlock.ofLabel kind label).text ++ rest =
      '\x7b' :: (kind.marker ++ label.text ++ ('\x7d' :: rest)) := by
    simp [AttributeBlock.text, AttributeBlock.ofLabel]
  have found : kinds.any (fun other => contains other.marker (kind.marker ++ label.text)) = true :=
    List.any_eq_true.mpr ⟨kind, listed, contains_iff.mpr (List.prefix_append ..).isInfix⟩
  rw [shape, opensFor, inside, Bool.and_eq_true]
  exact ⟨rfl, found⟩

/-- No block opens in a text without number signs: the brace of the next block is in the way. -/
theorem opensFor_signless (signless : '#' ∉ text) (rest : Text) :
    opensFor kinds (c :: (text ++ ('\x7b' :: rest))) = false := by
  have inside : (text ++ ('\x7b' :: rest)).takeWhile (fun c => c ≠ '\x7b' && c ≠ '\x7d') <:+:
      text := by
    rw [List.takeWhile_append]
    split
    · rw [List.takeWhile_cons_of_neg (by simp), List.append_nil]
    · exact (List.takeWhile_prefix _).isInfix
  have missing : kinds.any (fun kind => contains ('#' :: kind.tag ++ [':'])
      ((text ++ ('\x7b' :: rest)).takeWhile fun c => c ≠ '\x7b' && c ≠ '\x7d')) = false := by
    refine List.any_eq_false.mpr fun kind _ found => signless ?_
    exact ((contains_iff.mp found).trans inside).subset List.mem_cons_self
  rw [opensFor, missing, Bool.and_false]

/-- The text before a block that opens for its kind, if no number sign is in that text. -/
theorem beforeBlock?_block (signless : '#' ∉ text) (listed : kind ∈ kinds) (label : Label)
    (rest : Text) :
    beforeBlock? kinds (text ++ ((AttributeBlock.ofLabel kind label).text ++ rest)) =
      some text := by
  induction text with
  | nil =>
    have opens := opensFor_block listed label rest
    rw [List.nil_append]
    cases written : (AttributeBlock.ofLabel kind label).text ++ rest with
    | nil => cases written
    | cons d tail =>
      rw [written] at opens
      rw [beforeBlock?, if_pos opens]
  | cons d text ih =>
    have closed : opensFor kinds (d :: (text ++ ((AttributeBlock.ofLabel kind label).text ++ rest)))
        = false :=
      opensFor_signless (fun listed => signless (List.mem_cons_of_mem d listed)) _
    rw [List.cons_append, beforeBlock?, closed,
      ih fun listed => signless (List.mem_cons_of_mem d listed)]
    rfl

/-- A wording between blanks is what stands before the block after it. -/
theorem beforeBlock?_wording (wording : Wording) (listed : kind ∈ kinds) (label : Label)
    (rest : Text) :
    (beforeBlock? kinds (trimStart (' ' :: (wording.text ++
      (' ' :: ((AttributeBlock.ofLabel kind label).text ++ rest)))))).map trimEnd =
        some wording.text := by
  obtain ⟨begins, ends⟩ := unblank_of_trim wording.trimmed
  have blank : isBlank ' ' = true := by decide
  rw [trimStart, List.dropWhile_cons_of_pos blank]
  cases written : wording.text with
  | nil =>
    have opened : ((AttributeBlock.ofLabel kind label).text ++ rest).dropWhile isBlank =
        (AttributeBlock.ofLabel kind label).text ++ rest :=
      List.dropWhile_cons_of_neg (by decide)
    have before := beforeBlock?_block List.not_mem_nil listed label rest
    rw [List.nil_append] at before
    rw [List.nil_append, List.dropWhile_cons_of_pos blank, opened, before]
    rfl
  | cons c tail =>
    have inked : ¬ isBlank c = true := by simp [begins c (by rw [written]; rfl)]
    have signless : '#' ∉ c :: tail ++ [' '] := by
      rw [← written]
      simp [wording.signless]
    have before := beforeBlock?_block signless listed label rest
    rw [List.append_assoc] at before
    have trimmed : trimEnd (c :: tail ++ [' ']) = c :: tail := by
      have kept : dropEndWhile isBlank (([] ++ (c :: tail ++ [' '])).dropWhile isBlank) = c :: tail :=
        dropWhile_dropEndWhile (by simp) (by simp [blank]) (written ▸ begins) (written ▸ ends)
      rwa [List.nil_append, List.cons_append, List.dropWhile_cons_of_neg inked] at kept
    rw [List.cons_append, List.dropWhile_cons_of_neg inked, ← List.cons_append]
    exact (congrArg (Option.map trimEnd) before).trans (congrArg some trimmed)

/-! ## The lines -/

/-- The text of an image and its target are read back. -/
theorem image?_figure (figure : FigureLine) (unclosed : ')' ∉ rest) :
    image? (figure.text ++ rest) = some (figure.caption, figure.target) := by
  have bare : ')' ∉ figure.block.text := by
    intro listed
    have plain : ')' ∉ figure.label.text := fun made =>
      absurd (figure.label.made ')' made) (by decide)
    simp [FigureLine.block, AttributeBlock.ofLabel, AttributeBlock.text, LabelKind.marker,
      LabelKind.tag, plain] at listed
  have line : figure.text ++ rest = figure.front ++ ("](".toList ++ figure.target) ++
      (")\x7b".toList ++ (figure.block.text.tail ++ rest)) := by
    simp [FigureLine.text, FigureLine.block, AttributeBlock.text]
  -- The last place where a block follows a target is after the target of the image.
  have stop : findLast? ")\x7b".toList (figure.text ++ rest) =
      some (figure.front ++ ("](".toList ++ figure.target)).length := by
    rw [line]
    refine findLast?_append_word (fun later => ?_) _
    have closes : ')' ∈ figure.block.text ++ rest := later.subset List.mem_cons_self
    exact (List.mem_append.mp closes).elim bare unclosed
  have targetBefore : (figure.text ++ rest).take
      ((figure.front ++ ("](".toList ++ figure.target)).length - 1) =
        figure.front ++ ("](".toList ++ figure.target.dropLast) := by
    rw [line, List.take_append_of_le_length (Nat.sub_le ..), ← List.dropLast_eq_take,
      List.dropLast_append_of_ne_nil (by simp), List.dropLast_append_of_ne_nil figure.targeted]
  have middle : findLast? "](".toList (figure.front ++ ("](".toList ++ figure.target.dropLast)) =
      some figure.front.length := by
    refine findLast?_append_word (fun later => figure.single ?_) _
    rcases List.infix_cons_iff.mp later with begins | inside
    · exact absurd (List.cons_prefix_cons.mp begins).1 (by decide)
    · exact inside.trans (List.dropLast_prefix _).isInfix
  have captionBefore : (figure.text ++ rest).take figure.front.length = figure.front := by
    rw [line, List.append_assoc, List.take_left]
  have start : find? "![".toList figure.front = some figure.lead.length := by
    refine find?_append_of_absent (fun inside => ?_) figure.caption
    -- The exclamation mark of the image does not complete another beginning.
    rcases List.infix_concat_iff.mp inside with ends | earlier
    · have last := ends.getLast (by decide)
      rw [List.getLast_append_singleton] at last
      exact absurd last (by decide)
    · exact figure.imageless earlier
  have caption : figure.front.drop (figure.lead.length + 2) = figure.caption := by
    rw [FigureLine.front, List.drop_length_add_append]
    rfl
  have target : ((figure.text ++ rest).take
      (figure.front ++ ("](".toList ++ figure.target)).length).drop (figure.front.length + 2) =
        figure.target := by
    rw [line, List.take_left, List.drop_length_add_append]
    rfl
  simp only [image?, stop, targetBefore, middle, captionBefore, start, caption, target,
    Option.bind_eq_bind, Option.bind_some]

/-- The text of a heading is read back. -/
theorem heading?_headingLine (depth : Nat) (title : Wording) (label : Label) (rest : Text) :
    heading? (headingLine depth title label ++ rest) = some title.text := by
  have line : headingLine depth title label ++ rest = List.replicate (depth + 1) '#' ++
      (' ' :: (title.text ++ (' ' :: ((AttributeBlock.ofLabel .section label).text ++ rest)))) := by
    simp [headingLine]
  have unindented : trimStart (headingLine depth title label ++ rest) =
      headingLine depth title label ++ rest :=
    List.dropWhile_cons_of_neg (by decide)
  have marked : (headingLine depth title label ++ rest).dropWhile (· = '#') =
      ' ' :: (title.text ++ (' ' :: ((AttributeBlock.ofLabel .section label).text ++ rest))) := by
    rw [line]
    refine (takeWhile_append_of_stops (fun c listed => ?_) (by simp)).2
    exact decide_eq_true (List.eq_of_mem_replicate listed)
  rw [heading?, unindented, marked]
  exact beforeBlock?_wording title (List.mem_singleton_self _) label rest

/-- The text of a caption is read back. -/
theorem caption?_captionLine {kind : LabelKind} (preceded : kind ∈ [LabelKind.table, .listing])
    (caption : Wording) (label : Label) (rest : Text) :
    caption? (captionLine kind caption label ++ rest) = some caption.text := by
  have line : (captionLine kind caption label ++ rest).dropWhile (· ≠ ':') =
      ':' :: ' ' :: (caption.text ++
        (' ' :: ((AttributeBlock.ofLabel kind label).text ++ rest))) := by
    simp [captionLine]
  rw [caption?, line]
  exact beforeBlock?_wording caption preceded label rest

/-- A caption line has no fence if its caption has none. -/
theorem hasFence_captionLine {caption : Wording} (unfenced : ¬ fence <:+: caption.text)
    (kind : LabelKind) (label : Label) (plain : ∀ c ∈ rest, isBreak c = true) :
    hasFence (captionLine kind caption label ++ rest) = false := by
  have outside : ∀ c ∈ ' ' :: ((AttributeBlock.ofLabel kind label).text ++ rest), c ∉ fence := by
    intro c listed inside
    obtain rfl : c = '\x60' := by simpa [fence] using inside
    have unlabelled : '\x60' ∉ label.text := fun made =>
      absurd (label.made '\x60' made) (by decide)
    have unended : '\x60' ∉ rest := fun ends => absurd (plain '\x60' ends) (by decide)
    have unmarked : '\x60' ∉ kind.marker := by cases kind <;> decide
    simp [AttributeBlock.text, AttributeBlock.ofLabel, unlabelled, unended, unmarked] at listed
  have absent : ¬ fence <:+: captionLine kind caption label ++ rest := by
    intro inside
    have shape : captionLine kind caption label ++ rest = ": ".toList ++ (caption.text ++
        (' ' :: ((AttributeBlock.ofLabel kind label).text ++ rest))) := by
      simp [captionLine]
    rw [shape] at inside
    have opening : ∀ c ∈ ": ".toList, c ∉ fence := by simp [fence]
    have later := (infix_of_foreign (by decide) opening).1 inside
    exact unfenced ((infix_of_foreign (by decide) outside).2 later)
  rw [hasFence, find?_eq_none absent]

end Markup

namespace Scanner

/-- A site is labelled by the last block of its line. -/
theorem siteOf?_block (lead : Text) (block : AttributeBlock) (number offset : Nat)
    (plain : ∀ c ∈ ending, isBreak c = true) :
    siteOf? (number, offset, lead ++ (block.text ++ ending)) =
      some ⟨block.kind, block.label.text, number, lead ++ (block.text ++ ending), offset⟩ := by
  have quiet : Unlabelled ending := unlabelled_of_notMem fun listed =>
    absurd (plain '#' listed) (by decide)
  rw [siteOf?, Markup.label?_block lead block quiet]
  rfl

variable {scanner : Scanner} {index : LineIndex} {document? : Option Path} {number offset : Nat}

/-- An image with a label is reported as its figure. -/
theorem reportOf?_figure (figure : FigureLine) (plain : ∀ c ∈ ending, isBreak c = true) :
    scanner.reportOf? index document? (number, offset, figure.text ++ ending) =
      some (figure.element document?) := by
  have line : figure.text ++ ending = figure.front ++ ("](".toList ++ (figure.target ++ [')'])) ++
      (figure.block.text ++ ending) := by
    simp [FigureLine.text]
  have unclosed : ')' ∉ ending := fun listed => absurd (plain ')' listed) (by decide)
  have image := Markup.image?_figure figure unclosed
  rw [reportOf?, line, siteOf?_block _ _ _ _ plain, ← line, Option.bind_some]
  change (Markup.image? (figure.text ++ ending)).map _ = _
  rw [image]
  rfl

/-- A heading with a label is reported as its section. -/
theorem reportOf?_headingLine (depth : Nat) (title : Wording) (label : Label)
    (plain : ∀ c ∈ ending, isBreak c = true) :
    scanner.reportOf? index document? (number, offset, headingLine depth title label ++ ending) =
      some ⟨.section, label.text, title.text, []⟩ := by
  have line : headingLine depth title label ++ ending =
      List.replicate (depth + 1) '#' ++ (' ' :: (title.text ++ [' '])) ++
        ((AttributeBlock.ofLabel .section label).text ++ ending) := by
    simp [headingLine]
  have heading := Markup.heading?_headingLine depth title label ending
  rw [reportOf?, line, siteOf?_block _ _ _ _ plain, ← line, Option.bind_some]
  change (Markup.heading? (headingLine depth title label ++ ending)).map _ = _
  rw [heading]
  rfl

/-- A caption line that has no fence is reported with its caption. -/
theorem reportOf?_captionLine {kind : LabelKind} (caption : Wording) (label : Label)
    (plain : ∀ c ∈ ending, isBreak c = true)
    (preceded : kind = .table ∨ kind = .listing ∧ ¬ Markup.fence <:+: caption.text) :
    ∃ documentation, scanner.reportOf? index document?
      (number, offset, captionLine kind caption label ++ ending) =
        some ⟨kind, label.text, caption.text, documentation⟩ := by
  have line : captionLine kind caption label ++ ending = ':' :: ' ' :: (caption.text ++ [' ']) ++
      ((AttributeBlock.ofLabel kind label).text ++ ending) := by
    simp [captionLine]
  have listed : kind ∈ [LabelKind.table, .listing] := by
    rcases preceded with rfl | ⟨rfl, -⟩ <;> decide
  have read := Markup.caption?_captionLine listed caption label ending
  rw [reportOf?, line, siteOf?_block _ _ _ _ plain, ← line, Option.bind_some]
  rcases preceded with rfl | ⟨rfl, unfenced⟩
  · change ∃ documentation,
      (Markup.caption? (captionLine .table caption label ++ ending)).map _ = _
    rw [read]
    exact ⟨_, rfl⟩
  · have unfencedLine := Markup.hasFence_captionLine unfenced .listing label plain
    change ∃ documentation, listing? _ _ _ = _
    rw [listing?, if_neg (by simp [unfencedLine])]
    change ∃ documentation,
      (Markup.caption? (captionLine .listing caption label ++ ending)).map _ = _
    rw [read]
    exact ⟨_, rfl⟩

/-- What is written on a line is read back. A scan in full mode reports line by line, and wherever
in a document a line stands and whatever ends it, an image with a label is reported as a figure with
its text and its target, a heading as a section with its text, and a caption line as a table, or as
a listing if no fence is in it, with its text. Few lines are always reported. -/
theorem scan_written (scanner : Scanner) (document? : Option Path) (text : Text) :
    let index := LineIndex.ofText text
    let report := scanner.reportOf? index document?
    scanner.scan text document? .full = index.lines.filterMap report ∧
    (∀ number offset ending, (∀ c ∈ ending, isBreak c = true) →
      (∀ figure : FigureLine,
        report (number, offset, figure.text ++ ending) = some (figure.element document?)) ∧
      (∀ depth title label,
        report (number, offset, headingLine depth title label ++ ending) =
          some ⟨.section, label.text, title.text, []⟩) ∧
      (∀ caption label, ∃ documentation,
        report (number, offset, captionLine .table caption label ++ ending) =
          some ⟨.table, label.text, caption.text, documentation⟩) ∧
      (∀ caption label, ¬ Markup.fence <:+: caption.text → ∃ documentation,
        report (number, offset, captionLine .listing caption label ++ ending) =
          some ⟨.listing, label.text, caption.text, documentation⟩)) ∧
    (scanner.Fits text →
      scanner.scan? text document? .full = some (scanner.scan text document? .full)) := by
  intro index report
  refine ⟨scan_full_eq scanner text document?, ?_, fun fits => scan?_of_fits fits document? .full⟩
  refine fun number offset ending plain => ⟨?_, ?_, ?_, ?_⟩
  · exact fun figure => reportOf?_figure figure plain
  · exact fun depth title label => reportOf?_headingLine depth title label plain
  · exact fun caption label => reportOf?_captionLine caption label plain (Or.inl rfl)
  · exact fun caption label unfenced =>
      reportOf?_captionLine caption label plain (Or.inr ⟨rfl, unfenced⟩)

/-- A page of one line of each kind, with markup in every text and three ways to end a line. -/
theorem scan_written_page :
    let label : Label := ⟨['l'], by decide, List.all_eq_true.mp (by decide)⟩
    let figure : FigureLine :=
      { lead := "!".toList, imageless := by decide
        caption := "[a](b) \x7b#tbl:c\x7d".toList
        target := "d)\x7be".toList, targeted := by decide, single := by decide
        label := label }
    let wording : Wording :=
      ⟨"a: $\x7bb\x7d$ \x7b".toList, by decide +kernel, by decide +kernel⟩
    let text := figure.text ++ "\r\n".toList ++ headingLine 1 wording label ++ "\x0b".toList ++
      captionLine .table wording label ++ "\r".toList ++ captionLine .listing wording label
    ((∀ c ∈ "\x0b".toList, isBreak c = true) ∧ ¬ Markup.fence <:+: wording.text) ∧
    ∃ rows code, Scanner.scan ⟨800, 3⟩ text none .full =
      [⟨.figure, ['l'], "[a](b) \x7b#tbl:c\x7d".toList, "![](d)\x7be)".toList⟩,
        ⟨.section, ['l'], wording.text, []⟩, ⟨.table, ['l'], wording.text, rows⟩,
        ⟨.listing, ['l'], wording.text, code⟩] := by
  intro label figure wording text
  have tabbed : ∀ c ∈ "\x0b".toList, isBreak c = true := List.all_eq_true.mp (by decide)
  have bare : ∀ c ∈ ([] : Text), isBreak c = true := List.forall_mem_nil _
  have unfenced : ¬ Markup.fence <:+: wording.text := by decide +kernel
  have lines : (LineIndex.ofText text).lines =
      [(0, 0, figure.text ++ []), (1, 35, headingLine 1 wording label ++ "\x0b".toList),
        (2, 58, captionLine .table wording label ++ []),
        (3, 80, captionLine .listing wording label ++ [])] := by
    decide +kernel
  obtain ⟨scanned, read, -⟩ := scan_written ⟨800, 3⟩ none text
  have first := (read 0 0 [] bare).1 figure
  have second := (read 1 35 _ tabbed).2.1 1 wording label
  obtain ⟨rows, third⟩ := (read 2 58 [] bare).2.2.1 wording label
  obtain ⟨code, fourth⟩ := (read 3 80 [] bare).2.2.2 wording label unfenced
  refine ⟨⟨tabbed, unfenced⟩, rows, code, ?_⟩
  rw [scanned, lines, List.filterMap_cons_some first, List.filterMap_cons_some second,
    List.filterMap_cons_some third, List.filterMap_cons_some fourth]
  rfl

end Scanner

end Citations
