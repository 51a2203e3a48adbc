import Citations.Proofs.CrossRef.Locality
import Citations.Proofs.Text.Pieces
import Citations.Proofs.Text.Windows

/-!
# What a preview shows

The preview of a table or of a listing with a caption line is taken from the block that holds the
nearest marker in the window above that line. It shows consecutive lines of the block from its
first one in the window, at most two more than the scanner is told to, and none from the caption
line on. There is no preview exactly where there is no marker in the window.
-/
namespace Citations

open Text

namespace LineIndex

/-- A line has no text. -/
def Blank (index : LineIndex) (line : Nat) : Prop :=
  ∃ text, index.line? line = some text ∧ isBlankText text = true

/-- A line is the first of the block that another line is in, as far as a lowest line. -/
structure Begins (index : LineIndex) (lowest line first : Nat) : Prop where
  /-- It is that line or one above it. -/
  above : first ≤ line
  /-- It is not above the lowest line. -/
  bounded : lowest ≤ first
  /-- No line from it on is blank, up to that line. -/
  solid : ∀ other, first ≤ other → other < line → ¬ index.Blank other
  /-- It is the lowest line, or the line above it is blank. -/
  opened : first = lowest ∨ ∃ before, first = before + 1 ∧ index.Blank before

/-- Lines that are shown: consecutive ones from a first line on, as many as there may be, but only
such as are above another line. -/
structure Shows (index : LineIndex) (first most line : Nat) (shown : List Text) : Prop where
  /-- They are as many. -/
  counted : first + shown.length = min (first + most) line
  /-- They follow one another from the first one on. -/
  read : ∀ i < shown.length, shown[i]? = index.line? (first + i)

variable {text : Text} {index : LineIndex} {lowest line first stop : Nat}

/-- A line of a document is there. -/
theorem exists_line (inside : line < index.lineCount) : ∃ text, index.line? line = some text :=
  ⟨_, by rw [line?, List.getElem?_eq_getElem inside]; rfl⟩

/-- A block is walked back to its first line. -/
theorem begins_blockStart (inside : line < index.lineCount) (reach : lowest ≤ line) :
    index.Begins lowest line (index.blockStart lowest line) := by
  induction line with
  | zero =>
    obtain rfl : lowest = 0 := by omega
    exact ⟨Nat.le_refl 0, Nat.le_refl 0, fun _ _ below => absurd below (Nat.not_lt_zero _),
      Or.inl rfl⟩
  | succ line ih =>
    obtain ⟨text, here⟩ := exists_line (Nat.lt_of_succ_lt inside)
    rw [blockStart, here, Option.any_some]
    split
    · next further =>
      have block := ih (Nat.lt_of_succ_lt inside) (Nat.le_of_lt_succ further.1)
      refine ⟨Nat.le_succ_of_le block.above, block.bounded, fun other after before => ?_,
        block.opened⟩
      rcases Nat.lt_succ_iff_lt_or_eq.mp before with earlier | rfl
      · exact block.solid other after earlier
      · rintro ⟨_, same, blank⟩
        obtain rfl := Option.some.inj (here.symm.trans same)
        simp [blank] at further
    · next ended =>
      refine ⟨Nat.le_refl _, reach, fun _ after below => absurd below (Nat.not_lt_of_le after), ?_⟩
      by_cases lowered : line + 1 > lowest
      · exact Or.inr ⟨line, rfl, text, here, by simpa [lowered] using ended⟩
      · exact Or.inl (by omega)

/-- As many lines as there are numbers are read, one after the other. -/
theorem getElem?_filterMap_line? {count : Nat} (inside : first + count ≤ index.lineCount) :
    ((List.range' first count).filterMap index.line?).length = count ∧
      ∀ i < count, ((List.range' first count).filterMap index.line?)[i]? = index.line? (first + i) := by
  induction count generalizing first with
  | zero => exact ⟨rfl, fun _ below => absurd below (Nat.not_lt_zero _)⟩
  | succ count ih =>
    obtain ⟨text, here⟩ := exists_line (show first < index.lineCount by omega)
    obtain ⟨counted, read⟩ := ih (show first + 1 + count ≤ index.lineCount by omega)
    rw [List.range'_succ, List.filterMap_cons_some here]
    refine ⟨congrArg (· + 1) counted, fun i below => ?_⟩
    cases i with
    | zero => exact here.symm
    | succ i =>
      rw [List.getElem?_cons_succ, read i (Nat.lt_of_succ_lt_succ below), Nat.add_assoc,
        Nat.add_comm 1]

/-- The lines of a range are shown, up to a line of the document. -/
theorem shows_lineRange (most : Nat) (above : first ≤ line) (inside : line ≤ index.lineCount) :
    ∃ shown, index.Shows first most line shown ∧
      index.lineRange first (min (first + most) line) = join ['\n'] shown := by
  have bounded : first + (min (first + most) line - first) ≤ index.lineCount := by omega
  obtain ⟨counted, read⟩ := getElem?_filterMap_line? bounded
  exact ⟨_, ⟨by rw [counted]; omega, fun i below => read i (counted ▸ below)⟩, rfl⟩

end LineIndex

namespace Text

variable {text : Text} {c : Char}

/-- Something stays of a text that is not blank. -/
theorem trimEnd_ne_nil (inside : c ∈ text) (solid : isBlank c = false) : trimEnd text ≠ [] :=
  List.ne_nil_of_mem (mem_dropEndWhile inside solid)

end Text

namespace Scanner

variable {scanner : Scanner} {text marker : Text} {index : LineIndex} {site : LabelSite}
  {element : CrossRef}

/-- The line that a marker stands on is not blank. -/
theorem exists_solid_of_within {offset budget place : Nat} (visible : Visible marker)
    (within : text.Within marker offset budget place) :
    ∃ line, (LineIndex.ofText text).line? ((LineIndex.ofText text).lineOf place) = some line ∧
      ∃ c ∈ line, isBlank c = false := by
  obtain ⟨c, rest, rfl, solid⟩ := visible
  obtain ⟨after, whole⟩ := within.written
  obtain ⟨row, numbered, inside⟩ := LineIndex.mem_line_of_place (c := c) (by rw [← whole]; rfl)
  have kept : (c = '\n' || c = '\r') = false := by
    have other {d : Char} (blank : isBlank d = true) : c ≠ d := by
      rintro rfl
      simp [blank] at solid
    simp [other (d := '\n') (by decide), other (d := '\r') (by decide)]
  refine ⟨trimBreak row, ?_, c, mem_dropEndWhile inside kept, solid⟩
  rw [LineIndex.line?, numbered]
  rfl

/-- The first line of the block that a line with text is in has text too. -/
theorem exists_solid_of_begins {lowest line first : Nat} {lineText : Text} {c : Char}
    (begins : index.Begins lowest line first) (inside : line < index.lineCount)
    (here : index.line? line = some lineText) (listed : c ∈ lineText) (solid : isBlank c = false) :
    ∃ firstText, index.line? first = some firstText ∧ ∃ c ∈ firstText, isBlank c = false := by
  rcases Nat.eq_or_lt_of_le begins.above with rfl | above
  · exact ⟨lineText, here, c, listed, solid⟩
  · obtain ⟨firstText, read⟩ := LineIndex.exists_line (Nat.lt_trans above inside)
    refine ⟨firstText, read, ?_⟩
    by_contra blank
    simp only [not_exists, not_and, Bool.not_eq_false] at blank
    exact begins.solid first (Nat.le_refl first) above ⟨_, read, List.all_eq_true.mpr blank⟩

/-- The block that a found marker is in begins above the site, with a line that has text. -/
theorem block_of_found {offset line place : Nat} (visible : Visible marker)
    (inside : line < (LineIndex.ofText text).lineCount)
    (starts : offset = (LineIndex.ofText text).lineStart line)
    (found : (LineIndex.ofText text).findLastBefore? offset scanner.lookback marker = some place) :
    let index := LineIndex.ofText text
    let lowest := index.lineOf (LineIndex.windowStart offset scanner.lookback)
    let first := index.blockStart lowest (index.lineOf place)
    index.lineOf place < line ∧ index.Begins lowest (index.lineOf place) first ∧
      ∃ firstText, index.line? first = some firstText ∧ ∃ c ∈ firstText, isBlank c = false := by
  intro index lowest first
  have within := (LineIndex.isGreatest_of_findLastBefore? visible.ne_nil found).1
  have above : index.lineOf place < line :=
    LineIndex.lineOf_lt (starts ▸ LineIndex.findLastBefore?_lt visible.ne_nil found)
  have reach : lowest ≤ index.lineOf place :=
    LineIndex.lineOf_mono (Nat.sub_le_of_le_add within.begins)
  have begins : index.Begins lowest (index.lineOf place) first :=
    LineIndex.begins_blockStart (Nat.lt_trans above inside) reach
  obtain ⟨_, here, c, listed, solid⟩ := exists_solid_of_within visible within
  exact ⟨above, begins,
    exists_solid_of_begins begins (Nat.lt_trans above inside) here listed solid⟩

/-- A preview shows lines of the block that the found marker is in. -/
theorem preview_of_found (site : LabelSite) {place : Nat} (visible : Visible marker)
    (inside : site.line < (LineIndex.ofText text).lineCount)
    (starts : site.offset = (LineIndex.ofText text).lineStart site.line)
    (found : (LineIndex.ofText text).findLastBefore? site.offset scanner.lookback marker =
      some place) :
    let index := LineIndex.ofText text
    let lowest := index.lineOf (LineIndex.windowStart site.offset scanner.lookback)
    index.lineOf place < site.line ∧ scanner.preview index site marker ≠ [] ∧
    ∃ first shown, index.Begins lowest (index.lineOf place) first ∧
      index.Shows first (scanner.previewLines + 2) site.line shown ∧
      scanner.preview index site marker = trimEnd (join ['\n'] shown) := by
  intro index lowest
  obtain ⟨(above : index.lineOf place < site.line), begins, firstText, read, c, listed, solid⟩ :=
    block_of_found visible inside starts found
  have earlier : index.blockStart lowest (index.lineOf place) ≤ index.lineOf place := begins.above
  obtain ⟨shown, shows, joined⟩ := LineIndex.shows_lineRange (scanner.previewLines + 2)
    (Nat.le_trans earlier (Nat.le_of_lt above)) (Nat.le_of_lt inside)
  have shape : scanner.preview index site marker = trimEnd (join ['\n'] shown) := by
    rw [preview, blockFirst?, found, ← joined]
    rfl
  refine ⟨above, ?_, _, shown, begins, shows, shape⟩
  -- The first line that is shown has text, so that something stays of the preview.
  have counted := shows.counted
  have first := shows.read 0 (by omega)
  rw [Nat.add_zero] at first
  replace first := first.trans read
  rw [shape]
  exact trimEnd_ne_nil (mem_join (List.mem_of_getElem? first) listed) solid

/-- What confirms a site keeps its kind, and previews it if it has a caption line. -/
theorem documentation_of_confirm? {document? : Option Path}
    (confirmed : scanner.confirm? index document? site = some element) :
    element.kind = site.kind ∧
    (element.kind = .table → element.documentation = scanner.preview index site tableMarker) ∧
    (element.kind = .listing → Markup.hasFence site.lineText = false →
      element.documentation = scanner.preview index site Markup.fence) := by
  obtain ⟨detail, documentation, rfl, previewed⟩ := exists_of_confirm? confirmed
  exact ⟨rfl, previewed⟩

/-- A scan in full mode previews what has a caption line by the block that holds the nearest marker
in the window before that line, if there is a marker. The preview starts with the first line of the
block in the window, goes on line by line and ends before the caption line or earlier. Few lines are
always reported. -/
theorem scan_previews (scanner : Scanner) (text : Text) (document? : Option Path) :
    let index := LineIndex.ofText text
    let report := scanner.reportOf? index document?
    scanner.scan text document? .full = index.lines.filterMap report ∧
    (∀ found ∈ scanner.scan? text document? .full, found = index.lines.filterMap report) ∧
    (scanner.Fits text →
      scanner.scan? text document? .full = some (index.lines.filterMap report)) ∧
    ∀ number offset lineText element, (number, offset, lineText) ∈ index.lines →
      report (number, offset, lineText) = some element →
      element.kind = .table ∨ element.kind = .listing ∧ Markup.hasFence lineText = false →
      let marker := if element.kind = .table then tableMarker else Markup.fence
      let marks := {place | text.Within marker offset scanner.lookback place}
      let lowest := index.lineOf (LineIndex.windowStart offset scanner.lookback)
      offset = index.lineStart number ∧ (element.documentation = [] ↔ marks = ∅) ∧
      (marks.Nonempty → ∃ place, IsGreatest marks place ∧ index.lineOf place < number ∧
        ∃ first shown, index.Begins lowest (index.lineOf place) first ∧
          index.Shows first (scanner.previewLines + 2) number shown ∧
          element.documentation = trimEnd (join ['\n'] shown) ∧
          shown.length ≤ scanner.previewLines + 2 ∧ first + shown.length ≤ number) := by
  intro index report
  have scanned := scan_full_eq scanner text document?
  refine ⟨scanned, fun found reported => (eq_scan_of_mem reported).trans scanned,
    fun fits => scanned ▸ scan?_of_fits fits document? .full, ?_⟩
  intro number offset lineText element listed reported kind marker marks lowest
  obtain ⟨inside, starts⟩ := LineIndex.lines_spec listed
  obtain ⟨_, labelled, confirmed⟩ := Option.bind_eq_some_iff.mp reported
  obtain ⟨⟨which, label⟩, -, rfl⟩ := Option.map_eq_some_iff.mp labelled
  let site : LabelSite := ⟨which, label, number, lineText, offset⟩
  obtain ⟨kept, table, listing⟩ := documentation_of_confirm? confirmed
  have visible : Visible marker := by
    unfold marker
    split
    · exact ⟨'|', [':', '-'], rfl, by decide⟩
    · exact ⟨'\x60', ['\x60', '\x60'], rfl, by decide⟩
  have shown : element.documentation = scanner.preview index site marker := by
    rcases kind with isTable | ⟨isListing, fenceless⟩
    · simpa [marker, isTable] using table isTable
    · simpa [marker, isListing] using listing isListing fenceless
  refine ⟨starts, ?_⟩
  cases seen : index.findLastBefore? offset scanner.lookback marker with
  | none =>
    have missing := LineIndex.not_within_of_findLastBefore? visible.ne_nil seen
    have empty : marks = ∅ := Set.eq_empty_iff_forall_notMem.mpr missing
    refine ⟨iff_of_true ?_ empty, fun nonempty => absurd empty nonempty.ne_empty⟩
    rw [shown, preview, blockFirst?, seen]
    rfl
  | some place =>
    have greatest := LineIndex.isGreatest_of_findLastBefore? visible.ne_nil seen
    obtain ⟨above, nonempty, first, lines, begins, shows, same⟩ :=
      preview_of_found site visible inside starts seen
    refine ⟨iff_of_false (shown ▸ nonempty) (Set.Nonempty.ne_empty ⟨place, greatest.1⟩), fun _ => ?_⟩
    have counted : first + lines.length = min (first + (scanner.previewLines + 2)) number :=
      shows.counted
    exact ⟨place, greatest, above, first, lines, begins, shows, shown.trans same,
      by omega, by omega⟩

/-- A table with two rows under its header, with room for one of them in the preview: the second
one is not shown, and neither is the text above the table. -/
theorem scan_previews_table :
    let text := "Text.\n\n| a |\n|:-|\n| 1 |\n| 2 |\n: C \x7b#tbl:t\x7d".toList
    let element : CrossRef := ⟨.table, "t".toList, "C".toList, "| a |\n|:-|\n| 1 |".toList⟩
    Scanner.scan ⟨100, 1⟩ text none .full = [element] ∧
    ∃ place, IsGreatest {place | Text.Within text tableMarker 30 100 place} place ∧
      ∃ first shown, (LineIndex.ofText text).Begins 0 ((LineIndex.ofText text).lineOf place) first ∧
        (LineIndex.ofText text).Shows first 3 6 shown ∧
        element.documentation = trimEnd (join ['\n'] shown) := by
  intro text element
  obtain ⟨scanned, -, -, previews⟩ := scan_previews ⟨100, 1⟩ text none
  have listed : (6, 30, ": C \x7b#tbl:t\x7d".toList) ∈ (LineIndex.ofText text).lines := by
    decide +kernel
  have reported : Scanner.reportOf? ⟨100, 1⟩ (.ofText text) none
      (6, 30, ": C \x7b#tbl:t\x7d".toList) = some element := by decide +kernel
  obtain ⟨-, -, block⟩ := previews 6 30 _ element listed reported (Or.inl rfl)
  have marked : Text.Within text tableMarker 30 100 13 :=
    ⟨by decide +kernel, by decide, by decide⟩
  obtain ⟨place, greatest, -, first, shown, begins, shows, same, -⟩ := block ⟨13, marked⟩
  have top : (LineIndex.ofText text).lineOf (LineIndex.windowStart 30 100) = 0 := by decide +kernel
  rw [top] at begins
  exact ⟨scanned.trans (by decide +kernel), place, greatest, first, shown, begins, shows, same⟩

end Scanner

end Citations
