import Citations.Proofs.CrossRef.Previews
import Citations.Settings.Layer
import Mathlib.Data.List.Forall2

/-!
# How much of a block a preview shows

The preview of a table or of a listing with a caption line shows the first lines of a block, as
many as the scanner is told to and two more, but none from the caption line on. A scanner that is
told to show more shows what one that is told to show less does, and goes on from there. The end
of a preview is counted in a machine word before the caption line bounds it, so that a number that
is large enough leaves no report, however short the text is.
-/
namespace Citations

open Text

/-- An element with more of a preview than another one, and else the same. -/
structure CrossRef.Grows (small large : CrossRef) : Prop where
  /-- The kind is the same. -/
  kind : large.kind = small.kind
  /-- The label is the same. -/
  label : large.label = small.label
  /-- The detail is the same. -/
  detail : large.detail = small.detail
  /-- The preview goes on. -/
  documentation : small.documentation <+: large.documentation

/-- An element has as much of a preview as it has. -/
theorem CrossRef.Grows.refl (element : CrossRef) : element.Grows element :=
  ⟨rfl, rfl, rfl, List.prefix_rfl⟩

namespace Text

/-- A text without white space at the end begins every longer one. -/
theorem trimEnd_append_begins (text more : Text) : trimEnd text <+: trimEnd (text ++ more) := by
  have within : trimEnd text <+: text := dropEndWhile_prefix _ text
  have longer : trimEnd (text ++ more) =
      if isBlankText more then trimEnd text else text ++ trimEnd more :=
    dropEndWhile_append isBlank text more
  rw [longer]
  split
  · exact List.prefix_rfl
  · exact within.trans (List.prefix_append ..)

/-- Joined texts begin with some of them joined. -/
theorem join_begins (front back : List Text) :
    join ['\n'] front <+: join ['\n'] (front ++ back) := by
  by_cases started : front = []
  · subst started
    exact List.nil_prefix
  · by_cases ended : back = []
    · subst ended
      rw [List.append_nil]
    · rw [join_append ['\n'] started ended, List.append_assoc]
      exact List.prefix_append ..

end Text

namespace LineIndex

/-- So many lines from a first one on. -/
def linesFrom (index : LineIndex) (first count : Nat) : List Text :=
  (List.range' first count).filterMap index.line?

/-- The text of so many lines from a first one on, without white space at the end. -/
def excerpt (index : LineIndex) (first count : Nat) : Text :=
  trimEnd (join ['\n'] (index.linesFrom first count))

/-- More lines go on where the first ones end. -/
theorem linesFrom_add (index : LineIndex) (first count more : Nat) :
    index.linesFrom first (count + more) =
      index.linesFrom first count ++ index.linesFrom (first + count) more := by
  rw [linesFrom, ← List.range'_append_1, List.filterMap_append]
  rfl

/-- An excerpt begins every one of more lines from the same line on. -/
theorem excerpt_begins (index : LineIndex) (first : Nat) {count more : Nat} (fewer : count ≤ more) :
    index.excerpt first count <+: index.excerpt first more := by
  obtain ⟨rest, rfl⟩ := Nat.exists_eq_add_of_le fewer
  obtain ⟨tail, joined⟩ :=
    join_begins (index.linesFrom first count) (index.linesFrom (first + count) rest)
  rw [excerpt, excerpt, linesFrom_add, ← joined]
  exact trimEnd_append_begins _ tail

end LineIndex

namespace Scanner

variable {scanner : Scanner} {text marker : Text} {index : LineIndex} {site : LabelSite}
  {element : CrossRef} {document? : Option Path}

/-- How many lines a preview shows from a first one on, above another one. -/
def room (scanner : Scanner) (first line : Nat) : Nat :=
  min (scanner.previewLines + 2) (line - first)

/-- A preview is an excerpt. -/
theorem preview_eq (scanner : Scanner) (index : LineIndex) (site : LabelSite) (marker : Text) :
    scanner.preview index site marker =
      match scanner.blockFirst? index site marker with
      | none => []
      | some first => index.excerpt first (scanner.room first site.line) := by
  rw [preview]
  cases scanner.blockFirst? index site marker with
  | none => rfl
  | some first =>
    have counted : min (scanner.previewEnd first) site.line - first =
        scanner.room first site.line := by
      unfold previewEnd room
      omega
    change trimEnd (join ['\n'] (index.linesFrom first _)) = _
    rw [counted]
    rfl

/-- What is previewed has a caption line. -/
theorem confirm?_of_marker (previewed : site.marker? = some marker) :
    scanner.confirm? index document? site = scanner.captioned? index site marker := by
  unfold LabelSite.marker? at previewed
  unfold confirm?
  cases which : site.kind with
  | figure => simp [which] at previewed
  | equation => simp [which] at previewed
  | «section» => simp [which] at previewed
  | table =>
    simp only [which, Option.some.injEq] at previewed
    subst previewed
    rfl
  | listing =>
    simp only [which] at previewed
    split at previewed
    · contradiction
    · next fenceless =>
      obtain rfl := Option.some.inj previewed
      exact if_neg fenceless

/-- The block of a preview begins above its site, with a line that has text. -/
theorem blockFirst?_solid (listed : site ∈ sites (LineIndex.ofText text)) (visible : Visible marker)
    {first : Nat} (begins : scanner.blockFirst? (.ofText text) site marker = some first) :
    first < site.line ∧ ∃ line, (LineIndex.ofText text).line? first = some line ∧
      ∃ c ∈ line, isBlank c = false := by
  obtain ⟨inside, starts⟩ := sites_spec listed
  obtain ⟨found, seen, rfl⟩ := Option.map_eq_some_iff.mp begins
  obtain ⟨above, block, solid⟩ := block_of_found visible inside starts seen
  exact ⟨Nat.lt_of_le_of_lt block.above above, solid⟩

/-- How many lines may be shown decides nothing where there is no caption line. -/
theorem confirm?_of_unmarked (lookback few many : Nat) (unmarked : site.marker? = none) :
    confirm? ⟨lookback, few⟩ index document? site =
      confirm? ⟨lookback, many⟩ index document? site := by
  unfold LabelSite.marker? at unmarked
  unfold confirm?
  cases which : site.kind with
  | figure => rfl
  | equation => rfl
  | «section» => rfl
  | table => simp [which] at unmarked
  | listing =>
    simp only [which, ite_eq_left_iff, reduceCtorEq, imp_false, Bool.not_eq_true,
      Bool.not_eq_false] at unmarked
    simp only [listing?, unmarked, if_true]

/-- A preview begins the one of more lines. -/
theorem preview_grows (lookback : Nat) {few many : Nat} (larger : few ≤ many) (index : LineIndex)
    (site : LabelSite) (marker : Text) :
    preview ⟨lookback, few⟩ index site marker <+: preview ⟨lookback, many⟩ index site marker := by
  have same : blockFirst? ⟨lookback, many⟩ index site marker =
      blockFirst? ⟨lookback, few⟩ index site marker := rfl
  rw [preview_eq, preview_eq, same]
  cases blockFirst? ⟨lookback, few⟩ index site marker with
  | none => exact List.prefix_rfl
  | some first =>
    refine index.excerpt_begins first ?_
    unfold room
    dsimp only
    omega

/-- What is found of a site grows with the number of lines that may be shown. -/
theorem confirm?_grows (lookback : Nat) {few many : Nat} (larger : few ≤ many) (index : LineIndex)
    (document? : Option Path) (site : LabelSite) :
    Option.Rel CrossRef.Grows (confirm? ⟨lookback, few⟩ index document? site)
      (confirm? ⟨lookback, many⟩ index document? site) := by
  cases previewed : site.marker? with
  | none =>
    rw [confirm?_of_unmarked lookback few many previewed]
    cases confirm? ⟨lookback, many⟩ index document? site with
    | none => exact .none
    | some element => exact .some (CrossRef.Grows.refl element)
  | some marker =>
    rw [confirm?_of_marker previewed, confirm?_of_marker previewed, captioned?, captioned?]
    cases Markup.caption? site.lineText with
    | none => exact .none
    | some caption =>
      have grown := preview_grows lookback larger index site marker
      exact .some ⟨rfl, rfl, rfl, grown⟩

/-- What there is to be found grows with the number of lines that may be shown. -/
theorem scan_grows (lookback : Nat) {few many : Nat} (larger : few ≤ many) (text : Text)
    (document? : Option Path) :
    List.Forall₂ CrossRef.Grows (scan ⟨lookback, few⟩ text document? .full)
      (scan ⟨lookback, many⟩ text document? .full) := by
  have aligned : List.Forall₂ (· = ·) (sites (.ofText text)) (sites (.ofText text)) :=
    List.forall₂_eq_eq_eq ▸ rfl
  refine List.rel_filterMap (fun site other same => ?_) aligned
  subst same
  exact confirm?_grows lookback larger (.ofText text) document? site

/-- Where more lines may be shown and there is a report, there is one where fewer may be. -/
theorem scan?_of_fewer {lookback few many : Nat} (larger : few ≤ many) {text : Text}
    {document? : Option Path} {mode : LabelMode}
    (reports : scan? ⟨lookback, many⟩ text document? mode ≠ none) :
    scan? ⟨lookback, few⟩ text document? mode =
      some (scan ⟨lookback, few⟩ text document? mode) := by
  refine scan?_eq_some fun missing => reports ?_
  obtain ⟨full, site, listed, first, begins, beyond⟩ := scan?_eq_none_iff.mp missing
  have further : previewEnd ⟨lookback, few⟩ first ≤ previewEnd ⟨lookback, many⟩ first := by
    unfold previewEnd
    dsimp only
    omega
  exact scan?_eq_none_iff.mpr ⟨full, site, listed, first, begins, Nat.le_trans beyond further⟩

/-- A scanner that is told to show more lines in previews finds the same elements, each with a
preview that goes on from the smaller one, and so do the reports. Where the larger number leaves a
report, the smaller one does; it leaves none exactly if the end of a preview does not fit a machine
word, which does not happen as long as the lines of the text and the number together do. A preview
shows as many lines of its block as it may. -/
theorem scan_extents (text : Text) (document? : Option Path) (lookback : Nat) {few many : Nat}
    (larger : few ≤ many) :
    let index := LineIndex.ofText text
    let small : Scanner := ⟨lookback, few⟩
    let large : Scanner := ⟨lookback, many⟩
    (∀ report ∈ large.scan? text document? .full, ∃ smaller ∈ small.scan? text document? .full,
      List.Forall₂ CrossRef.Grows smaller report) ∧
    List.Forall₂ CrossRef.Grows (small.scan text document? .full)
      (large.scan text document? .full) ∧
    (large.scan? text document? .full = none ↔ ∃ site ∈ sites index,
      ∃ first ∈ large.previewFirst? index site, wordSize ≤ first + many + 2) ∧
    (index.lineCount + many < wordSize →
      large.scan? text document? .full = some (large.scan text document? .full)) ∧
    ∀ site ∈ sites index, ∀ marker, site.marker? = some marker →
      ∀ element, large.confirm? index document? site = some element →
        element.documentation = match large.blockFirst? index site marker with
          | none => []
          | some first => index.excerpt first (min (many + 2) (site.line - first)) := by
  intro index small large
  have grown := scan_grows lookback larger text document?
  refine ⟨?_, grown, ?_, ?_, ?_⟩
  · intro report reported
    have reports : large.scan? text document? .full ≠ none := Option.ne_none_iff_exists'.mpr
      ⟨report, reported⟩
    refine ⟨_, scan?_of_fewer larger reports, ?_⟩
    rw [eq_scan_of_mem reported]
    exact grown
  · rw [scan?_eq_none_iff, and_iff_right rfl]
    rfl
  · intro counted
    have fits : large.Fits text := counted
    exact scan?_of_fits fits document? .full
  · intro site _ marker previewed element confirmed
    rw [confirm?_of_marker previewed] at confirmed
    obtain ⟨caption, -, rfl⟩ := Option.map_eq_some_iff.mp confirmed
    exact preview_eq large index site marker

/-- A table with three rows under its header: with room for one row the preview goes on from that
with room for none. -/
theorem scan_extents_table :
    let text := "| a |\n|:-|\n| 1 |\n| 2 |\n: C \x7b#tbl:t\x7d".toList
    let small : Scanner := ⟨800, 0⟩
    let large : Scanner := ⟨800, 1⟩
    let shorter : CrossRef := ⟨.table, "t".toList, "C".toList, "| a |\n|:-|".toList⟩
    let longer : CrossRef := ⟨.table, "t".toList, "C".toList, "| a |\n|:-|\n| 1 |".toList⟩
    0 ≤ 1 ∧ small.scan? text none .full = some [shorter] ∧
    large.scan? text none .full = some [longer] ∧
    List.Forall₂ CrossRef.Grows [shorter] [longer] := by
  intro text small large shorter longer
  have larger : 0 ≤ 1 := by decide
  have first : small.scan? text none .full = some [shorter] := by decide +kernel
  have second : large.scan? text none .full = some [longer] := by decide +kernel
  obtain ⟨smaller, reported, grown⟩ := (scan_extents text none 800 larger).1 [longer] second
  obtain rfl : [shorter] = smaller := Option.some.inj (first.symm.trans reported)
  exact ⟨larger, first, second, grown⟩

/-- The greatest number but one, which settings can give, makes the end of the preview overrun: the
table that is reported with room for no row is not reported at all. -/
theorem scan_extents_overrun :
    let text := "|:-|\n: C \x7b#tbl:t\x7d".toList
    let small : Scanner := ⟨800, 0⟩
    let large : Scanner := ⟨800, wordSize - 2⟩
    (Settings.ofLayers? [[("table_preview_lines".toList, .text "18446744073709551614".toList)]]).map
      Settings.previewLines = some large.previewLines ∧
    small.previewLines ≤ large.previewLines ∧ large.previewLines < wordSize ∧
    small.scan? text none .full = some [⟨.table, "t".toList, "C".toList, "|:-|".toList⟩] ∧
    large.scan? text none .full = none := by
  decide +kernel

end Scanner

end Citations
