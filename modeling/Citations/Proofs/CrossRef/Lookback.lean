import Citations.Proofs.CrossRef.Extent

/-!
# What a wider window adds

A scanner that looks further back finds what one that looks less far back does: the last opener or
marker in a window is the last one in every wider window. So it reports the same labels and perhaps
more, equations whose opener lies further back. A table or listing with a caption line that has a
preview keeps one; its block may begin further up, so that the preview need not be the same.
Figures, sections and fenced listings have no window.

A preview that only the wider window has can end beyond the last machine word, and then there is no
report. One that both have begins no further down in the wider window, and ends no later.
-/
namespace Citations

open Text

/-- An element as a wider window shows it. -/
structure CrossRef.Widens (narrow wide : CrossRef) : Prop where
  /-- The kind is the same. -/
  kind : wide.kind = narrow.kind
  /-- The label is the same. -/
  label : wide.label = narrow.label
  /-- The detail is the same. -/
  detail : wide.detail = narrow.detail
  /-- The mathematics of an equation is the same. -/
  equation : narrow.kind = .equation → wide.documentation = narrow.documentation
  /-- What is shown before is not hidden. -/
  shown : narrow.documentation ≠ [] → wide.documentation ≠ []

/-- An element widens to itself. -/
theorem CrossRef.Widens.refl (element : CrossRef) : element.Widens element :=
  ⟨rfl, rfl, rfl, fun _ => rfl, id⟩

/-- An element apart from its preview. -/
def CrossRef.heading (element : CrossRef) : LabelKind × Text × Text :=
  (element.kind, element.label, element.detail)

/-- Elements that are related one to one are the same apart from their previews. -/
theorem CrossRef.map_heading_eq {elements widened : List CrossRef}
    (related : List.Forall₂ CrossRef.Widens elements widened) :
    elements.map CrossRef.heading = widened.map CrossRef.heading := by
  induction related with
  | nil => rfl
  | cons same _ ih =>
    rw [List.map_cons, List.map_cons, ih]
    simp only [CrossRef.heading, same.kind, same.label, same.detail]

/-- A site whose element no window has a part in: a figure, a section or a fenced listing. -/
def LabelSite.windowless (site : LabelSite) : Bool :=
  match site.kind with
  | .figure | .section => true
  | .listing => Markup.hasFence site.lineText
  | .table | .equation => false

namespace Text

variable {α β : Type} {R : β → β → Prop}

/-- Where one reading finds at least what another one finds, related to it, the findings of the
second one are related to some of the first, in the same order. -/
theorem sublistForall₂_filterMap {few many : α → Option β} {list : List α}
    (kept : ∀ a ∈ list, ∀ b, few a = some b → ∃ c, many a = some c ∧ R b c) :
    List.SublistForall₂ R (list.filterMap few) (list.filterMap many) := by
  induction list with
  | nil => exact .nil
  | cons a rest ih =>
    have later := ih fun other listed => kept other (List.mem_cons_of_mem a listed)
    cases here : few a with
    | none =>
      rw [List.filterMap_cons_none here]
      cases there : many a with
      | none => rwa [List.filterMap_cons_none there]
      | some c =>
        rw [List.filterMap_cons_some there]
        exact .cons_right later
    | some b =>
      obtain ⟨c, there, related⟩ := kept a List.mem_cons_self b here
      rw [List.filterMap_cons_some here, List.filterMap_cons_some there]
      exact .cons related later

end Text

namespace LineIndex

variable {text word : Text} {index : LineIndex} {offset narrow wide place : Nat}

/-- The last occurrence of a word in a window is the last one in a wider window. -/
theorem findLastBefore?_widened (nonempty : word ≠ []) (wider : narrow ≤ wide)
    (found : (ofText text).findLastBefore? offset narrow word = some place) :
    (ofText text).findLastBefore? offset wide word = some place := by
  obtain ⟨within, last⟩ := isGreatest_of_findLastBefore? nonempty found
  have inside : text.Within word offset wide place :=
    ⟨within.written, by have := within.begins; omega, within.ends⟩
  cases seen : (ofText text).findLastBefore? offset wide word with
  | none => exact absurd inside (not_within_of_findLastBefore? nonempty seen place)
  | some other =>
    obtain ⟨otherWithin, otherLast⟩ := isGreatest_of_findLastBefore? nonempty seen
    have later : place ≤ other := otherLast inside
    -- What is found in the wider window is not before the narrow one, so it is in it too.
    have back : text.Within word offset narrow other :=
      ⟨otherWithin.written, by have := within.begins; omega, otherWithin.ends⟩
    exact congrArg some (Nat.le_antisymm (last back) later)

/-- A block is walked back further where its lowest line is further up. -/
theorem blockStart_mono {lowest lower line : Nat} (further : lower ≤ lowest) :
    index.blockStart lower line ≤ index.blockStart lowest line := by
  induction line with
  | zero => exact Nat.le_refl 0
  | succ line ih =>
    rw [blockStart, blockStart]
    by_cases solid : ((index.line? line).any fun text => !isBlankText text) = true
    · have := blockStart_le index lower line
      simp only [solid, and_true]
      split <;> split <;> omega
    · simp [solid]

end LineIndex

namespace Scanner

variable {text marker : Text} {index : LineIndex} {site : LabelSite} {element : CrossRef}
  {document? : Option Path} {narrow wide previewLines : Nat}

/-- The block of a preview begins further up, if at all, where the window is wider. -/
theorem blockFirst?_widened (nonempty : marker ≠ []) (wider : narrow ≤ wide) {first : Nat}
    (begins : blockFirst? ⟨narrow, previewLines⟩ (.ofText text) site marker = some first) :
    ∃ upper ≤ first,
      blockFirst? ⟨wide, previewLines⟩ (.ofText text) site marker = some upper := by
  obtain ⟨found, seen, rfl⟩ := Option.map_eq_some_iff.mp begins
  have again := LineIndex.findLastBefore?_widened nonempty wider seen
  refine ⟨_, LineIndex.blockStart_mono (LineIndex.lineOf_mono ?_), Option.map_eq_some_iff.mpr
    ⟨found, again, rfl⟩⟩
  exact Nat.sub_le_sub_left wider site.offset

/-- Something is shown in a preview exactly if there is a block. -/
theorem preview_ne_nil_iff {scanner : Scanner} (listed : site ∈ sites (LineIndex.ofText text))
    (visible : Visible marker) :
    scanner.preview (.ofText text) site marker ≠ [] ↔
      (scanner.blockFirst? (.ofText text) site marker).isSome := by
  rw [preview_eq]
  cases begins : scanner.blockFirst? (.ofText text) site marker with
  | none => simp
  | some first =>
    obtain ⟨above, line, here, c, inside, solid⟩ := blockFirst?_solid listed visible begins
    refine iff_of_true ?_ rfl
    have room : 0 < scanner.room first site.line := by
      unfold Scanner.room
      omega
    have shown : line ∈ (LineIndex.ofText text).linesFrom first (scanner.room first site.line) :=
      List.mem_filterMap.mpr ⟨first, List.mem_range'_1.mpr ⟨Nat.le_refl _, by omega⟩, here⟩
    exact trimEnd_ne_nil (mem_join shown inside) solid

/-- A preview that shows something shows something where the window is wider. -/
theorem preview_widened (listed : site ∈ sites (LineIndex.ofText text)) (visible : Visible marker)
    (wider : narrow ≤ wide)
    (shown : preview ⟨narrow, previewLines⟩ (.ofText text) site marker ≠ []) :
    preview ⟨wide, previewLines⟩ (.ofText text) site marker ≠ [] := by
  rw [preview_ne_nil_iff listed visible, Option.isSome_iff_exists] at shown ⊢
  obtain ⟨first, begins⟩ := shown
  obtain ⟨upper, -, again⟩ := blockFirst?_widened visible.ne_nil wider begins
  exact ⟨upper, again⟩

/-- A preview that there is begins further up, if at all, where the window is wider. -/
theorem previewFirst?_widened (wider : narrow ≤ wide) {first : Nat}
    (begins : previewFirst? ⟨narrow, previewLines⟩ (.ofText text) site = some first) :
    ∃ upper ≤ first, previewFirst? ⟨wide, previewLines⟩ (.ofText text) site = some upper := by
  obtain ⟨marker, previewed, captioned, begins⟩ := previewFirst?_eq_some_iff.mp begins
  have nonempty := (visible_of_marker previewed).ne_nil
  obtain ⟨upper, further, again⟩ := blockFirst?_widened nonempty wider begins
  exact ⟨upper, further, previewFirst?_eq_some_iff.mpr ⟨marker, previewed, captioned, again⟩⟩

/-- Where there is a report, a wider window leaves none exactly if a preview that only it has ends
beyond the last machine word. -/
theorem scan?_widened_eq_none_iff (wider : narrow ≤ wide)
    (reports : scan? ⟨narrow, previewLines⟩ text document? .full ≠ none) :
    scan? ⟨wide, previewLines⟩ text document? .full = none ↔
      ∃ site ∈ sites (LineIndex.ofText text),
        previewFirst? ⟨narrow, previewLines⟩ (.ofText text) site = none ∧
          ∃ first ∈ previewFirst? ⟨wide, previewLines⟩ (.ofText text) site,
            wordSize ≤ first + previewLines + 2 := by
  rw [scan?_eq_none_iff, and_iff_right rfl]
  refine exists_congr fun site => and_congr_right fun listed => ?_
  constructor
  · rintro ⟨first, begins, beyond⟩
    refine ⟨Option.eq_none_iff_forall_ne_some.mpr fun lower before => ?_, first, begins, beyond⟩
    -- A preview that the narrow window has too would end beyond the last word there already.
    obtain ⟨upper, further, again⟩ := previewFirst?_widened wider before
    obtain rfl : first = upper := Option.some.inj (begins.symm.trans again)
    have later : wordSize ≤ previewEnd ⟨narrow, previewLines⟩ lower := by
      have end_le : previewEnd ⟨wide, previewLines⟩ first ≤ previewEnd ⟨narrow, previewLines⟩ lower := by
        unfold previewEnd
        dsimp only
        omega
      exact Nat.le_trans beyond end_le
    exact reports (scan?_eq_none_iff.mpr ⟨rfl, site, listed, lower, before, later⟩)
  · rintro ⟨-, first, begins, beyond⟩
    exact ⟨first, begins, beyond⟩

/-- An equation is the same where the window is wider. -/
theorem equation?_widened (wider : narrow ≤ wide)
    (confirmed : equation? ⟨narrow, previewLines⟩ (.ofText text) site = some element) :
    equation? ⟨wide, previewLines⟩ (.ofText text) site = some element := by
  obtain ⟨found, ends, confirmed⟩ := Option.bind_eq_some_iff.mp confirmed
  obtain ⟨opener, seen, rest⟩ := Option.bind_eq_some_iff.mp confirmed
  have again := LineIndex.findLastBefore?_widened (by decide) wider seen
  exact Option.bind_eq_some_iff.mpr ⟨found, ends, Option.bind_eq_some_iff.mpr ⟨opener, again, rest⟩⟩

/-- What no window has a part in is the same for every window. -/
theorem confirm?_of_windowless (scanner other : Scanner) (windowless : site.windowless = true) :
    scanner.confirm? index document? site = other.confirm? index document? site := by
  unfold LabelSite.windowless at windowless
  unfold confirm?
  cases which : site.kind with
  | figure => rfl
  | «section» => rfl
  | table => simp [which] at windowless
  | equation => simp [which] at windowless
  | listing =>
    simp only [which] at windowless
    simp only [listing?, windowless, if_true]

/-- What is reported of a site is reported, wider, where the window is wider. -/
theorem confirm?_widened (listed : site ∈ sites (LineIndex.ofText text)) (wider : narrow ≤ wide)
    (confirmed : confirm? ⟨narrow, previewLines⟩ (.ofText text) document? site = some element) :
    ∃ widened, confirm? ⟨wide, previewLines⟩ (.ofText text) document? site = some widened ∧
      element.Widens widened := by
  by_cases windowless : site.windowless = true
  · rw [confirm?_of_windowless ⟨narrow, previewLines⟩ ⟨wide, previewLines⟩ windowless] at confirmed
    exact ⟨element, confirmed, .refl element⟩
  · cases previewed : site.marker? with
    | some marker =>
      rw [confirm?_of_marker previewed] at confirmed ⊢
      obtain ⟨caption, written, rfl⟩ := Option.map_eq_some_iff.mp confirmed
      refine ⟨_, Option.map_eq_some_iff.mpr ⟨caption, written, rfl⟩, rfl, rfl, rfl, ?_, ?_⟩
      · intro equation
        have kind : site.kind = .equation := equation
        simp [LabelSite.marker?, kind] at previewed
      · exact preview_widened listed (visible_of_marker previewed) wider
    | none =>
      have kind : site.kind = .equation := by
        unfold LabelSite.windowless at windowless
        unfold LabelSite.marker? at previewed
        cases which : site.kind <;> simp_all
      unfold confirm? at confirmed ⊢
      simp only [kind] at confirmed ⊢
      exact ⟨element, equation?_widened wider confirmed, .refl element⟩

/-- Looking further back only adds to what is found. What is found with a window is found with a
wider one in the same order: the kinds, labels and details are the same, the previews of equations
too, and no preview is lost. What no window has a part in is found with both. So a report with a
window is a part of one with a wider window, where there are both. Few lines are always reported;
else a report is lost to a wider window exactly by a preview that only that window has, which ends
beyond the last machine word. -/
theorem scan_widened (text : Text) (document? : Option Path) (previewLines : Nat)
    (wider : narrow ≤ wide) :
    let index := LineIndex.ofText text
    let near : Scanner := ⟨narrow, previewLines⟩
    let far : Scanner := ⟨wide, previewLines⟩
    (near.scan text document? .full = (sites index).filterMap (near.confirm? index document?) ∧
      far.scan text document? .full = (sites index).filterMap (far.confirm? index document?)) ∧
    List.SublistForall₂ CrossRef.Widens (near.scan text document? .full)
      (far.scan text document? .full) ∧
    ((near.scan text document? .full).map CrossRef.heading).Sublist
      ((far.scan text document? .full).map CrossRef.heading) ∧
    (∀ site ∈ sites index, ∀ element, near.confirm? index document? site = some element →
      ∃ widened, far.confirm? index document? site = some widened ∧ element.Widens widened) ∧
    (∀ site ∈ sites index, site.windowless = true →
      near.confirm? index document? site = far.confirm? index document? site) ∧
    (∀ report ∈ near.scan? text document? .full, ∀ more ∈ far.scan? text document? .full,
      List.SublistForall₂ CrossRef.Widens report more ∧
        (report.map CrossRef.heading).Sublist (more.map CrossRef.heading)) ∧
    (near.scan? text document? .full ≠ none →
      (far.scan? text document? .full = none ↔ ∃ site ∈ sites index,
        near.previewFirst? index site = none ∧
          ∃ first ∈ far.previewFirst? index site, wordSize ≤ first + previewLines + 2)) ∧
    (index.lineCount + previewLines < wordSize →
      near.scan? text document? .full = some (near.scan text document? .full) ∧
        far.scan? text document? .full = some (far.scan text document? .full)) := by
  intro index near far
  have kept : ∀ site ∈ sites index, ∀ element, near.confirm? index document? site = some element →
      ∃ widened, far.confirm? index document? site = some widened ∧ element.Widens widened :=
    fun site listed element confirmed => confirm?_widened listed wider confirmed
  have embedded : List.SublistForall₂ CrossRef.Widens (near.scan text document? .full)
      (far.scan text document? .full) := sublistForall₂_filterMap kept
  have headings : ((near.scan text document? .full).map CrossRef.heading).Sublist
      ((far.scan text document? .full).map CrossRef.heading) := by
    obtain ⟨widened, related, inside⟩ := List.sublistForall₂_iff.mp embedded
    rw [CrossRef.map_heading_eq related]
    exact inside.map CrossRef.heading
  refine ⟨⟨rfl, rfl⟩, embedded, headings, kept, fun site _ => confirm?_of_windowless near far,
    ?_, scan?_widened_eq_none_iff wider, ?_⟩
  · intro report reported more reportedMore
    rw [eq_scan_of_mem reported, eq_scan_of_mem reportedMore]
    exact ⟨embedded, headings⟩
  · intro counted
    have nearFits : near.Fits text := counted
    have farFits : far.Fits text := counted
    exact ⟨scan?_of_fits nearFits document? .full, scan?_of_fits farFits document? .full⟩

/-- A displayed equation that opens in the line above its label: a window that ends with that line
reports only the figure before it, one that reaches the opener reports both. -/
theorem scan_widened_opener :
    let text := "![A](a.png)\x7b#fig:a\x7d\n$$x\n$$ \x7b#eq:e\x7d".toList
    let near : Scanner := ⟨2, 10⟩
    let far : Scanner := ⟨800, 10⟩
    let figure : CrossRef := ⟨.figure, "a".toList, "A".toList, "![](a.png)".toList⟩
    let equation : CrossRef := ⟨.equation, "e".toList, "e".toList, "x".toList⟩
    2 ≤ 800 ∧
    near.scan? text none .full = some [figure] ∧
    far.scan? text none .full = some [figure, equation] ∧
    List.SublistForall₂ CrossRef.Widens [figure] [figure, equation] := by
  intro text near far figure equation
  have wider : 2 ≤ 800 := by decide
  have reported : near.scan? text none .full = some [figure] := by decide +kernel
  have reportedMore : far.scan? text none .full = some [figure, equation] := by decide +kernel
  obtain ⟨-, -, -, -, -, both, -⟩ := scan_widened text none 10 wider
  exact ⟨wider, reported, reportedMore, (both _ reported _ reportedMore).1⟩

/-- A table whose separator row no character of the window reaches is reported without a preview. A
window that reaches it previews the table, and where the preview may show the greatest number of
rows but one the table is not reported at all. -/
theorem scan_widened_overrun :
    let text := "|:-|\n: C \x7b#tbl:t\x7d".toList
    let near : Scanner := ⟨0, wordSize - 2⟩
    let far : Scanner := ⟨800, wordSize - 2⟩
    near.lookback ≤ far.lookback ∧ far.previewLines < wordSize ∧
    near.scan? text none .full = some [⟨.table, "t".toList, "C".toList, []⟩] ∧
    far.scan? text none .full = none := by
  decide +kernel

end Scanner

end Citations
