import Citations.CrossRef.Scan
import Citations.Proofs.Text.Rows

/-!
# How far back a label can see

What a scan finds for a line is looked for on the line itself, in the text after it and in a
window of bounded size before it. So whole lines further back than the window can be exchanged
for others: the elements of the line stay what they are, and its line number and offset move.

The number of a line has an influence all the same, on whether there is a report. The end of a
preview is counted in a machine word, from the line that the preview begins with, and a count that
does not fit ends the scan.
-/
namespace Citations

open Text

/-- A site of a text as it is after another text. -/
def LabelSite.below (text : Text) (site : LabelSite) : LabelSite :=
  { site with line := text.breaks + site.line, offset := text.length + site.offset }

namespace Text

/-- A word is found where it fits. -/
theorem findLast?_add_length_le {word text : Text} {place : Nat}
    (found : findLast? word text = some place) : place + word.length ≤ text.length := by
  have fits {here : Text} (begins : beginsWith word here) : word.length ≤ here.length := by
    obtain ⟨rest, taken⟩ := Option.isSome_iff_exists.mp begins
    rw [after?_eq_some_iff.mp taken, List.length_append]
    exact Nat.le_add_right ..
  induction text generalizing place with
  | nil =>
    rw [findLast?] at found
    split at found
    · obtain rfl := Option.some.inj found
      rw [Nat.zero_add]
      exact fits ‹_›
    · contradiction
  | cons c rest ih =>
    rw [findLast?] at found
    split at found
    · next later seen =>
      obtain rfl := Option.some.inj found
      have := ih seen
      rw [List.length_cons]
      omega
    · split at found
      · obtain rfl := Option.some.inj found
        rw [Nat.zero_add]
        exact fits ‹_›
      · contradiction

end Text

namespace LineIndex

variable {text more : Text}

/-- A block starts at or above the line it is walked back from. -/
theorem blockStart_le (index : LineIndex) (lowest line : Nat) :
    index.blockStart lowest line ≤ line := by
  induction line with
  | zero => exact Nat.le_refl 0
  | succ line ih =>
    rw [blockStart]
    split
    · omega
    · exact Nat.le_refl _

/-- No block is walked back above its lowest line. -/
theorem blockStart_of_le (index : LineIndex) {lowest line : Nat} (reached : line ≤ lowest) :
    index.blockStart lowest line = line := by
  cases line with
  | zero => rfl
  | succ line => rw [blockStart, if_neg (fun inside => absurd inside.1 (by omega))]

/-- A block of the second of two texts starts as many lines further down. -/
theorem blockStart_append_add (ended : Ended text) (more : Text) (lowest line : Nat) :
    (ofText (text ++ more)).blockStart (text.breaks + lowest) (text.breaks + line) =
      text.breaks + (ofText more).blockStart lowest line := by
  induction line with
  | zero => exact blockStart_of_le _ (by omega)
  | succ line ih =>
    have above : text.breaks + line + 1 > text.breaks + lowest ↔ line + 1 > lowest := by omega
    rw [← Nat.add_assoc, blockStart, blockStart, line?_append_add ended, ih]
    simp only [above]
    split <;> omega

/-- Lines of the second of two texts, joined. -/
theorem lineRange_append_add (ended : Ended text) (more : Text) (start stop : Nat) :
    (ofText (text ++ more)).lineRange (text.breaks + start) (text.breaks + stop) =
      (ofText more).lineRange start stop := by
  have moved : List.range' (text.breaks + start) (stop - start) =
      (List.range' start (stop - start)).map (text.breaks + ·) := by
    rw [List.map_add_range']
  rw [lineRange, Nat.add_sub_add_left, moved, List.filterMap_map]
  simp only [Function.comp_def, line?_append_add ended]
  rfl

/-- What is found looking back lies before the place it is looked for from. -/
theorem findLastBefore?_lt {index : LineIndex} {offset budget found : Nat} {word : Text}
    (nonempty : word ≠ []) (seen : index.findLastBefore? offset budget word = some found) :
    found < offset := by
  obtain ⟨place, here, rfl⟩ := Option.map_eq_some_iff.mp seen
  have fits := findLast?_add_length_le here
  have taken := List.length_pos_iff.mpr nonempty
  rw [List.length_drop, List.length_take] at fits
  omega

end LineIndex

namespace Scanner

variable {scanner : Scanner} {text more : Text} {site : LabelSite}

/-- What a marker of a block can be: it begins with a character that is not white space. -/
def Visible (marker : Text) : Prop := ∃ c rest, marker = c :: rest ∧ isBlank c = false

/-- Something stands where a marker does. -/
theorem Visible.ne_nil {marker : Text} (visible : Visible marker) : marker ≠ [] := by
  obtain ⟨c, rest, rfl, -⟩ := visible
  exact List.cons_ne_nil c rest

/-- The markers of blocks are such. -/
theorem visible_of_marker {marker : Text} (previewed : site.marker? = some marker) :
    Visible marker := by
  unfold LabelSite.marker? at previewed
  split at previewed
  · obtain rfl := Option.some.inj previewed
    exact ⟨'|', [':', '-'], rfl, by decide⟩
  · split at previewed
    · contradiction
    · obtain rfl := Option.some.inj previewed
      exact ⟨'\x60', ['\x60', '\x60'], rfl, by decide⟩
  · contradiction
  · contradiction
  · contradiction

/-- The lines of a text are few enough for the end of every preview to be a word. -/
def Fits (scanner : Scanner) (text : Text) : Prop :=
  (LineIndex.ofText text).lineCount + scanner.previewLines < wordSize

/-- What a scan in full mode reports for the lines of the second of two texts: those below the
line breaks of the first. -/
def reportedAfter (scanner : Scanner) (document? : Option Path) (text more : Text) :
    List CrossRef :=
  let index := LineIndex.ofText (text ++ more)
  ((sites index).filter (text.breaks ≤ ·.line)).filterMap (scanner.confirm? index document?)

/-- The site that a line is, if it has a label. -/
def siteOf? : Nat × Nat × Text → Option LabelSite
  | (line, offset, lineText) =>
    (Markup.label? lineText).map fun (kind, label) => ⟨kind, label, line, lineText, offset⟩

/-- The sites are found line by line. -/
theorem sites_eq (index : LineIndex) : sites index = index.lines.filterMap siteOf? := rfl

/-- What a scan in full mode reports for a line. -/
def reportOf? (scanner : Scanner) (index : LineIndex) (document? : Option Path)
    (line : Nat × Nat × Text) : Option CrossRef :=
  (siteOf? line).bind (scanner.confirm? index document?)

/-- A scan in full mode reports line by line. -/
theorem scan_full_eq (scanner : Scanner) (text : Text) (document? : Option Path) :
    scanner.scan text document? .full =
      (LineIndex.ofText text).lines.filterMap (scanner.reportOf? (.ofText text) document?) :=
  List.filterMap_filterMap

/-- A site has the number and the offset of its line. -/
theorem siteOf?_eq_some {line offset : Nat} {lineText : Text}
    (labelled : siteOf? (line, offset, lineText) = some site) :
    site.line = line ∧ site.offset = offset := by
  obtain ⟨_, -, rfl⟩ := Option.map_eq_some_iff.mp labelled
  exact ⟨rfl, rfl⟩

/-- A line further down is the site further down. -/
theorem siteOf?_below (text : Text) (line : Nat × Nat × Text) :
    siteOf? (line.map (text.breaks + ·) (Prod.map (text.length + ·) id)) =
      (siteOf? line).map (.below text) := by
  obtain ⟨line, offset, lineText⟩ := line
  simp only [siteOf?, Option.map_map]
  rfl

/-- A site is a line of the text and starts where the line starts. -/
theorem sites_spec {index : LineIndex} (listed : site ∈ sites index) :
    site.line < index.lineCount ∧ site.offset = index.lineStart site.line := by
  obtain ⟨⟨line, offset, lineText⟩, present, labelled⟩ := List.mem_filterMap.mp listed
  obtain ⟨rfl, rfl⟩ := siteOf?_eq_some labelled
  exact LineIndex.lines_spec present

/-! ## When there is a report -/

/-- The preview of a site begins with the block that holds its marker, once there is a caption. -/
theorem previewFirst?_eq_some_iff {index : LineIndex} {first : Nat} :
    scanner.previewFirst? index site = some first ↔
      ∃ marker, site.marker? = some marker ∧ (Markup.caption? site.lineText).isSome ∧
        scanner.blockFirst? index site marker = some first := by
  simp only [previewFirst?, bind, Option.bind_eq_some_iff, Option.isSome_iff_exists,
    exists_and_right]

/-- A block begins above the site that it is looked for from. -/
theorem blockFirst?_lt {marker : Text} {first : Nat} (nonempty : marker ≠ [])
    (starts : site.offset = (LineIndex.ofText text).lineStart site.line)
    (begins : scanner.blockFirst? (.ofText text) site marker = some first) :
    first < site.line := by
  obtain ⟨found, seen, rfl⟩ := Option.map_eq_some_iff.mp begins
  have earlier : found < (LineIndex.ofText text).lineStart site.line :=
    starts ▸ LineIndex.findLastBefore?_lt nonempty seen
  exact Nat.lt_of_le_of_lt (LineIndex.blockStart_le ..) (LineIndex.lineOf_lt earlier)

/-- There is no report exactly if the end of a preview does not fit a machine word. Only a scan in
full mode shows previews. -/
theorem scan?_eq_none_iff {document? : Option Path} {mode : LabelMode} :
    scanner.scan? text document? mode = none ↔
      mode = .full ∧ ∃ site ∈ sites (LineIndex.ofText text),
        ∃ first ∈ scanner.previewFirst? (.ofText text) site,
          wordSize ≤ scanner.previewEnd first := by
  simp only [scan?, ite_eq_left_iff, reduceCtorEq, imp_false, not_not, List.any_eq_true, overruns,
    Option.any_eq_true, decide_eq_true_eq, Option.mem_def]

/-- What is reported is what there is to be found. -/
theorem eq_scan_of_mem {document? : Option Path} {mode : LabelMode} {found : List CrossRef}
    (reported : found ∈ scanner.scan? text document? mode) :
    found = scanner.scan text document? mode := by
  obtain ⟨-, missing⟩ | ⟨-, same⟩ := ite_eq_iff.mp (Option.mem_def.mp reported)
  · contradiction
  · exact (Option.some.inj same).symm

/-- There is a report of what there is to be found, or none. -/
theorem scan?_eq_some {document? : Option Path} {mode : LabelMode}
    (reports : scanner.scan? text document? mode ≠ none) :
    scanner.scan? text document? mode = some (scanner.scan text document? mode) := by
  obtain ⟨found, reported⟩ := Option.ne_none_iff_exists'.mp reports
  rw [reported, eq_scan_of_mem reported]

/-- A scan for labels alone always has a report. -/
theorem scan?_minimal (scanner : Scanner) (text : Text) (document? : Option Path) :
    scanner.scan? text document? .minimal = some (scanner.scan text document? .minimal) := by
  refine scan?_eq_some fun missing => ?_
  have full := (scan?_eq_none_iff.mp missing).1
  contradiction

/-- There is a report of a text whose lines are few enough. -/
theorem scan?_of_fits (fits : scanner.Fits text) (document? : Option Path) (mode : LabelMode) :
    scanner.scan? text document? mode = some (scanner.scan text document? mode) := by
  refine scan?_eq_some fun missing => ?_
  obtain ⟨-, site, listed, first, begins, beyond⟩ := scan?_eq_none_iff.mp missing
  obtain ⟨marker, previewed, -, begins⟩ := previewFirst?_eq_some_iff.mp begins
  obtain ⟨inside, starts⟩ := sites_spec listed
  have above := blockFirst?_lt (visible_of_marker previewed).ne_nil starts begins
  have counted : (LineIndex.ofText text).lineCount + scanner.previewLines < wordSize := fits
  unfold previewEnd at beyond
  omega

/-! ## What lies further back -/

/-- What is reported of a site adds a detail and a preview to its kind and label. What has a caption
line is previewed by the block that holds its marker. -/
theorem exists_of_confirm? {index : LineIndex} {document? : Option Path} {element : CrossRef}
    (confirmed : scanner.confirm? index document? site = some element) :
    ∃ detail documentation, element = Scanner.element site detail documentation ∧
      (site.kind = .table → documentation = scanner.preview index site tableMarker) ∧
      (site.kind = .listing → Markup.hasFence site.lineText = false →
        documentation = scanner.preview index site Markup.fence) := by
  unfold confirm? at confirmed
  split at confirmed
  · next which =>
    obtain ⟨_, -, rfl⟩ := Option.map_eq_some_iff.mp confirmed
    exact ⟨_, _, rfl, by simp [which], by simp [which]⟩
  · next which =>
    obtain ⟨_, -, rfl⟩ := Option.map_eq_some_iff.mp confirmed
    exact ⟨_, _, rfl, by simp [which], by simp [which]⟩
  · next which =>
    obtain ⟨_, -, rfl⟩ := Option.map_eq_some_iff.mp confirmed
    exact ⟨_, _, rfl, fun _ => rfl, by simp [which]⟩
  · next which =>
    unfold listing? at confirmed
    split at confirmed
    · next isFenced =>
      obtain rfl := Option.some.inj confirmed
      exact ⟨_, _, rfl, by simp [which], by simp [isFenced]⟩
    · obtain ⟨_, -, rfl⟩ := Option.map_eq_some_iff.mp confirmed
      exact ⟨_, _, rfl, by simp [which], fun _ _ => rfl⟩
  · next which =>
    obtain ⟨_, -, confirmed⟩ := Option.bind_eq_some_iff.mp confirmed
    obtain ⟨_, -, confirmed⟩ := Option.bind_eq_some_iff.mp confirmed
    exact ⟨_, _, (Option.some.inj confirmed).symm, by simp [which], by simp [which]⟩

/-- The last line of a finished text has no label. -/
theorem sites_of_ended (ended : Ended text) :
    sites (LineIndex.ofText text) = (LineIndex.finishedLines text).filterMap siteOf? := by
  have last : siteOf? (text.breaks, text.length, []) = none := rfl
  rw [sites_eq, LineIndex.lines_of_ended ended, List.filterMap_append, List.filterMap_cons, last]
  exact List.append_nil _

/-- The sites of a finished text are on its finished lines. -/
theorem line_lt_breaks (ended : Ended text) (listed : site ∈ sites (LineIndex.ofText text)) :
    site.line < text.breaks := by
  rw [sites_of_ended ended] at listed
  obtain ⟨⟨line, offset, lineText⟩, present, labelled⟩ := List.mem_filterMap.mp listed
  rw [(siteOf?_eq_some labelled).1]
  exact List.mem_range.mp (List.of_mem_zip present).1

/-- The sites of a finished text and of what follows it. -/
theorem sites_append (ended : Ended text) (more : Text) :
    sites (LineIndex.ofText (text ++ more)) =
      sites (LineIndex.ofText text) ++ (sites (LineIndex.ofText more)).map (.below text) := by
  rw [sites_of_ended ended, sites_eq, sites_eq, LineIndex.lines_append ended more,
    List.filterMap_append, List.filterMap_map, List.map_filterMap]
  simp only [Function.comp_def, siteOf?_below]

/-- A block begins as many lines further down below other lines. -/
theorem blockFirst?_append (ended : Ended text) (more : Text)
    (reach : scanner.lookback ≤ site.offset) (marker : Text) :
    scanner.blockFirst? (LineIndex.ofText (text ++ more)) (site.below text) marker =
      (scanner.blockFirst? (LineIndex.ofText more) site marker).map (text.breaks + ·) := by
  have window : LineIndex.windowStart (text.length + site.offset) scanner.lookback =
      text.length + LineIndex.windowStart site.offset scanner.lookback :=
    Nat.add_sub_assoc reach _
  have place : (site.below text).offset = text.length + site.offset := rfl
  rw [blockFirst?, blockFirst?, place, LineIndex.findLastBefore?_append_add _ _ reach,
    Option.map_map, Option.map_map]
  simp only [Function.comp_def, window, LineIndex.lineOf_append_add ended,
    LineIndex.blockStart_append_add ended]

/-- A preview begins as many lines further down below other lines. -/
theorem previewFirst?_append (ended : Ended text) (more : Text)
    (reach : scanner.lookback ≤ site.offset) :
    scanner.previewFirst? (LineIndex.ofText (text ++ more)) (site.below text) =
      (scanner.previewFirst? (LineIndex.ofText more) site).map (text.breaks + ·) := by
  have marked : (site.below text).marker? = site.marker? := rfl
  have line : (site.below text).lineText = site.lineText := rfl
  simp only [previewFirst?, marked, line, blockFirst?_append ended more reach, bind,
    Option.map_bind, Function.comp_def]

/-- A preview stays what it is below other lines. -/
theorem preview_append (ended : Ended text) (more : Text) (reach : scanner.lookback ≤ site.offset)
    (marker : Text) :
    scanner.preview (LineIndex.ofText (text ++ more)) (site.below text) marker =
      scanner.preview (LineIndex.ofText more) site marker := by
  rw [preview, preview, blockFirst?_append ended more reach]
  cases scanner.blockFirst? (LineIndex.ofText more) site marker with
  | none => rfl
  | some first =>
    have stop : min (scanner.previewEnd (text.breaks + first)) (text.breaks + site.line) =
        text.breaks + min (scanner.previewEnd first) site.line := by
      unfold previewEnd
      omega
    change trimEnd ((LineIndex.ofText (text ++ more)).lineRange (text.breaks + first)
      (min (scanner.previewEnd (text.breaks + first)) (text.breaks + site.line))) = _
    rw [stop, LineIndex.lineRange_append_add ended]

/-- A fenced listing stays what it is below other text. -/
theorem fenced_append (text more : Text) (site : LabelSite) :
    fenced (LineIndex.ofText (text ++ more)) (site.below text) =
      fenced (LineIndex.ofText more) site := by
  unfold fenced
  simp only [LabelSite.below, Nat.add_assoc, LineIndex.findAfter?_append_add]
  cases (LineIndex.ofText more).findAfter? (site.offset + site.lineText.length) Markup.fence with
  | none => rfl
  | some stop =>
    simp only [Option.map_some, LineIndex.slice_append_add]
    rfl

/-- An equation stays what it is below other text. -/
theorem equation?_append (text more : Text) (reach : scanner.lookback ≤ site.offset) :
    scanner.equation? (LineIndex.ofText (text ++ more)) (site.below text) =
      scanner.equation? (LineIndex.ofText more) site := by
  unfold equation?
  change (Markup.equationEnd? site.lineText).bind _ = (Markup.equationEnd? site.lineText).bind _
  congr 1
  funext found
  have wide : scanner.lookback ≤ site.offset + found := Nat.le_add_right_of_le reach
  simp only [LabelSite.below, Nat.add_assoc]
  rw [LineIndex.findLastBefore?_append_add _ _ wide]
  cases (LineIndex.ofText more).findLastBefore? (site.offset + found) scanner.lookback
    "$$".toList with
  | none => rfl
  | some opener =>
    change some (element _ _ (Text.trim ((LineIndex.ofText (text ++ more)).slice
      (text.length + (opener + 2)) (text.length + (site.offset + found))))) = _
    rw [LineIndex.slice_append_add]
    rfl

/-- A site stays what it is below other lines. -/
theorem confirm?_append (ended : Ended text) (more : Text) (reach : scanner.lookback ≤ site.offset)
    (document? : Option Path) :
    scanner.confirm? (LineIndex.ofText (text ++ more)) document? (site.below text) =
      scanner.confirm? (LineIndex.ofText more) document? site := by
  have captioned (marker : Text) :
      scanner.captioned? (LineIndex.ofText (text ++ more)) (site.below text) marker =
        scanner.captioned? (LineIndex.ofText more) site marker := by
    unfold captioned?
    rw [preview_append ended more reach]
    rfl
  have kind : (site.below text).kind = site.kind := rfl
  unfold confirm?
  rw [kind]
  cases site.kind with
  | figure => rfl
  | «section» => rfl
  | table => exact captioned tableMarker
  | equation => exact equation?_append text more reach
  | listing =>
    have line : (site.below text).lineText = site.lineText := rfl
    simp only [listing?, line, fenced_append, captioned]

/-- The sites of the second of two texts, below the first. -/
theorem reportedAfter_eq (scanner : Scanner) (document? : Option Path) (ended : Ended text)
    (more : Text) :
    scanner.reportedAfter document? text more =
      (sites (LineIndex.ofText more)).filterMap fun site =>
        scanner.confirm? (LineIndex.ofText (text ++ more)) document? (site.below text) := by
  have earlier : (sites (LineIndex.ofText text)).filter (text.breaks ≤ ·.line) = [] := by
    refine List.filter_eq_nil_iff.mpr fun site listed => ?_
    have finished := line_lt_breaks ended listed
    rw [decide_eq_true_eq]
    omega
  have later : ((sites (LineIndex.ofText more)).map (LabelSite.below text)).filter
      (text.breaks ≤ ·.line) = (sites (LineIndex.ofText more)).map (LabelSite.below text) := by
    refine List.filter_eq_self.mpr fun site listed => ?_
    obtain ⟨other, -, rfl⟩ := List.mem_map.mp listed
    exact decide_eq_true (Nat.le_add_right ..)
  simp only [reportedAfter, sites_append ended, List.filter_append, earlier, later,
    List.nil_append, List.filterMap_map]
  rfl

/-- What is reported for the second of two texts is the last part of the whole report. -/
theorem reportedAfter_suffix (scanner : Scanner) (document? : Option Path) (ended : Ended text)
    (more : Text) :
    scanner.reportedAfter document? text more <:+
      scanner.scan (text ++ more) document? .full := by
  rw [reportedAfter_eq scanner document? ended]
  change _ <:+ (sites (LineIndex.ofText (text ++ more))).filterMap _
  rw [sites_append ended, List.filterMap_append, List.filterMap_map]
  exact List.suffix_append ..

variable {before other window rest : Text}

/-- Below two finished texts is below the second and then below the first. -/
theorem below_append (ended : Ended before) (window : Text) (site : LabelSite) :
    site.below (before ++ window) = (site.below window).below before := by
  simp only [LabelSite.below, breaks_append ended, List.length_append, Nat.add_assoc]

/-- What is found below a window as wide as the scanner looks back does not depend on the lines
before the window. -/
theorem reportedAfter_window (document? : Option Path) (rest : Text) (beforeEnded : Ended before)
    (windowEnded : Ended window) (wide : scanner.lookback ≤ window.length) :
    scanner.reportedAfter document? (before ++ window) rest =
      scanner.reportedAfter document? window rest := by
  have bothEnded : Ended (before ++ window) := beforeEnded.append windowEnded
  rw [reportedAfter_eq scanner document? bothEnded, reportedAfter_eq scanner document? windowEnded,
    List.append_assoc]
  refine List.filterMap_congr fun site listed => ?_
  have reach : scanner.lookback ≤ (site.below window).offset := Nat.le_add_right_of_le wide
  rw [below_append beforeEnded]
  exact confirm?_append beforeEnded (window ++ rest) reach document?

/-- The sites of three texts are those of the first two and, further down, those of the third. -/
theorem mem_sites_append_iff (beforeEnded : Ended before) (windowEnded : Ended window) :
    site ∈ sites (LineIndex.ofText (before ++ window ++ rest)) ↔
      site ∈ sites (LineIndex.ofText (before ++ window)) ∨
        ∃ later ∈ sites (LineIndex.ofText rest), (later.below window).below before = site := by
  rw [sites_append (beforeEnded.append windowEnded), List.mem_append, List.mem_map]
  simp only [below_append beforeEnded]

/-- Nothing before a window as wide as the scanner looks back has an influence on what a scan finds
below it: with other lines there the elements are the same, each with its kind, label, detail and
preview. They are the last ones of a report, if there is one. There is none exactly if a preview
above the rest ends beyond the last machine word, or if one below does, which begins as many lines
further down as there are lines before the window. Few lines are always reported. -/
theorem reported_local (scanner : Scanner) (document? : Option Path) (rest : Text)
    (beforeEnded : Ended before) (otherEnded : Ended other) (windowEnded : Ended window)
    (wide : scanner.lookback ≤ window.length) :
    let found := scanner.reportedAfter document? (before ++ window) rest
    let foundOther := scanner.reportedAfter document? (other ++ window) rest
    let report? := scanner.scan? (before ++ window ++ rest) document? .full
    let reportOther? := scanner.scan? (other ++ window ++ rest) document? .full
    found = foundOther ∧
    (∀ report ∈ report?, found <:+ report) ∧
    (∀ report ∈ reportOther?, foundOther <:+ report) ∧
    (report? = none ↔
      (∃ site ∈ sites (LineIndex.ofText (before ++ window)),
        ∃ first ∈ scanner.previewFirst? (.ofText (before ++ window ++ rest)) site,
          wordSize ≤ first + scanner.previewLines + 2) ∨
      ∃ site ∈ sites (LineIndex.ofText rest),
        ∃ first ∈ scanner.previewFirst? (.ofText (window ++ rest)) (site.below window),
          wordSize ≤ before.breaks + first + scanner.previewLines + 2) ∧
    (scanner.Fits (before ++ window ++ rest) →
      report? = some (scanner.scan (before ++ window ++ rest) document? .full)) := by
  intro found foundOther report? reportOther?
  have last {text : Text} (ended : Ended text) :
      ∀ report ∈ scanner.scan? (text ++ window ++ rest) document? .full,
        scanner.reportedAfter document? (text ++ window) rest <:+ report := by
    intro report reported
    rw [eq_scan_of_mem reported]
    exact reportedAfter_suffix scanner document? (ended.append windowEnded) rest
  have further (site : LabelSite) :
      scanner.previewFirst? (.ofText (before ++ window ++ rest)) ((site.below window).below before) =
        (scanner.previewFirst? (.ofText (window ++ rest)) (site.below window)).map
          (before.breaks + ·) := by
    have reach : scanner.lookback ≤ (site.below window).offset := Nat.le_add_right_of_le wide
    rw [List.append_assoc]
    exact previewFirst?_append beforeEnded (window ++ rest) reach
  refine ⟨?_, last beforeEnded, last otherEnded, ?_, fun fits => scan?_of_fits fits document? .full⟩
  · exact (reportedAfter_window document? rest beforeEnded windowEnded wide).trans
      (reportedAfter_window document? rest otherEnded windowEnded wide).symm
  · rw [scan?_eq_none_iff, and_iff_right rfl]
    simp only [mem_sites_append_iff beforeEnded windowEnded, or_and_right, exists_or,
      exists_exists_and_eq_and, further, Option.mem_def, Option.map_eq_some_iff, previewEnd]

/-- The header of a table is outside a window that holds the separator row only, so that the
table is the same with and without it. -/
theorem reported_local_header :
    let scanner : Scanner := ⟨5, 3⟩
    let header := "| a |\n".toList
    let window := "|:-|\n".toList
    let rest := ": C \x7b#tbl:t\x7d".toList
    let table : CrossRef := ⟨.table, "t".toList, "C".toList, "|:-|".toList⟩
    Ended [] ∧ Ended header ∧ Ended window ∧ scanner.lookback ≤ window.length ∧
    scanner.scan? ([] ++ window ++ rest) none .full = some [table] ∧
    scanner.scan? (header ++ window ++ rest) none .full = some [table] ∧
    scanner.reportedAfter none ([] ++ window) rest =
      scanner.reportedAfter none (header ++ window) rest := by
  intro scanner header window rest table
  have headerEnded : Ended header := Or.inr (by decide +kernel)
  have windowEnded : Ended window := Or.inr (by decide +kernel)
  have wide : scanner.lookback ≤ window.length := by decide +kernel
  have same := (reported_local scanner none rest (Or.inl rfl) headerEnded windowEnded wide).1
  exact ⟨Or.inl rfl, headerEnded, windowEnded, wide, by decide +kernel, by decide +kernel, same⟩

/-- Where the end of a preview is the last word but for one line, one more line before the window
takes the report away. -/
theorem reported_local_overrun :
    let scanner : Scanner := ⟨5, wordSize - 3⟩
    let window := "|:-|\n".toList
    let rest := ": C \x7b#tbl:t\x7d".toList
    window.getLast? = some '\n' ∧ scanner.lookback ≤ window.length ∧
    scanner.scan? ([] ++ window ++ rest) none .full =
      some [⟨.table, "t".toList, "C".toList, "|:-|".toList⟩] ∧
    scanner.scan? ("\n".toList ++ window ++ rest) none .full = none := by
  decide +kernel

end Scanner

end Citations
