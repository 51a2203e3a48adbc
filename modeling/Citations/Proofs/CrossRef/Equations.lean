import Citations.Proofs.CrossRef.Blocks

/-!
# Displayed equations

A displayed equation is written between two pairs of dollar signs with its label after the
second. Its end is looked for from the left on the line of the label, and its beginning back from
there. Mathematics of several lines has only the second pair on that line. Mathematics of one
line has both, and the first is taken for the end when a brace follows it: such an equation is
not read, and what lies before it in the window is.
-/
namespace Citations

open Text

/-- A displayed equation with a label. -/
structure DisplayedEquation where
  /-- What stands between the dollar signs. -/
  math : Text
  /-- No dollar sign is in it. -/
  undollared : '$' ∉ math
  /-- No number sign is in it. -/
  unsigned : '#' ∉ math
  /-- The label. -/
  label : Label

namespace DisplayedEquation

/-- The end of the mathematics and the block with the label. -/
def closing (equation : DisplayedEquation) : Text :=
  "$$ ".toList ++ (AttributeBlock.ofLabel .equation equation.label).text

/-- What an equation is written as. -/
def text (equation : DisplayedEquation) : Text :=
  "$$".toList ++ (equation.math ++ equation.closing)

/-- The element that an equation should be reported as. -/
def element (equation : DisplayedEquation) : CrossRef :=
  ⟨.equation, equation.label.text, equation.label.text, trim equation.math⟩

/-- The mathematics is on one line and begins with a brace. -/
def Braced (equation : DisplayedEquation) : Prop :=
  equation.math.any isBreak = false ∧ (trimStart equation.math).head? = some '\x7b'

instance (equation : DisplayedEquation) : Decidable equation.Braced :=
  inferInstanceAs (Decidable (_ ∧ _))

end DisplayedEquation

/-! ## The place where an equation ends -/

namespace Markup

variable {text rest : Text}

/-- An equation ends where a brace follows two dollar signs. -/
theorem equationEnd?_of_brace (brace : (trimStart rest).head? = some '\x7b') :
    equationEnd? ("$$".toList ++ rest) = some 0 := by
  have here : after? "$$".toList ('$' :: '$' :: rest) = some rest := rfl
  change equationEnd? ('$' :: '$' :: rest) = some 0
  rw [equationEnd?, here]
  simp [brace]

/-- No equation ends where two dollar signs are missing or something else follows them. -/
theorem equationEnd?_cons {c : Char}
    (other : ∀ after, c :: rest = "$$".toList ++ after → (trimStart after).head? ≠ some '\x7b') :
    equationEnd? (c :: rest) = (equationEnd? rest).map (1 + ·) := by
  have later : (equationEnd? rest).map (· + 1) = (equationEnd? rest).map (1 + ·) := by
    simp only [Nat.add_comm]
  rw [equationEnd?]
  cases dollars : after? "$$".toList (c :: rest) with
  | none => simpa using later
  | some after => simpa [other after (after?_eq_some_iff.mp dollars)] using later

/-- No equation ends where there are no dollar signs. -/
theorem equationEnd?_append (undollared : '$' ∉ text) (rest : Text) :
    equationEnd? (text ++ rest) = (equationEnd? rest).map (text.length + ·) := by
  induction text with
  | nil => simp
  | cons c text ih =>
    have sum (place : Nat) : 1 + (text.length + place) = (c :: text).length + place := by
      rw [List.length_cons]
      omega
    rw [List.cons_append, equationEnd?_cons,
      ih fun listed => undollared (List.mem_cons_of_mem c listed), Option.map_map]
    · simp only [Function.comp_def, sum]
    · intro after dollars
      obtain rfl := (List.cons.inj dollars).1
      exact absurd List.mem_cons_self undollared

/-- No equation ends at two dollar signs that something else than a brace follows, nor at the
second of them if no third one follows or the third has no brace after it. -/
theorem equationEnd?_of_ne_brace (other : (trimStart text).head? ≠ some '\x7b')
    (third : ∀ rest, text = '$' :: rest → (trimStart rest).head? ≠ some '\x7b') :
    equationEnd? ("$$".toList ++ text) = (equationEnd? text).map (2 + ·) := by
  change equationEnd? ('$' :: '$' :: text) = _
  rw [equationEnd?_cons, equationEnd?_cons, Option.map_map]
  · simp [Function.comp_def, ← Nat.add_assoc]
  · intro after dollars
    exact third after (List.cons.inj dollars).2
  · intro after dollars
    obtain rfl : text = after := (List.cons.inj (List.cons.inj dollars).2).2
    exact other

end Markup

/-! ## The line of the label -/

namespace LineIndex

variable {text : Text} {finished : List Text} {last : Text}

/-- The lines of a text, the last one apart. -/
theorem lines_of_rows (textRows : text.rows = finished ++ [last]) :
    (ofText text).lines = (List.range finished.length).zip
        ((rowStarts 0 finished).zip (finished.map trimBreak)) ++
      [(finished.length, finished.flatten.length, trimBreak last)] := by
  have counted : (ofText text).lineCount = finished.length + 1 := by
    change text.rows.length = _
    rw [textRows, List.length_append, List.length_singleton]
  change (List.range (ofText text).lineCount).zip
    ((rowStarts 0 text.rows).zip (text.rows.map trimBreak)) = _
  rw [counted, textRows, List.range_succ, rowStarts_append, List.map_append,
    List.zip_append (by rw [length_rowStarts, List.length_map]),
    List.zip_append (by simp [length_rowStarts]), Nat.zero_add]
  rfl

/-- Looking back from the end of the first of two texts. -/
theorem findLastBefore?_append_length (text more : Text) (budget : Nat) (word : Text) :
    (ofText (text ++ more)).findLastBefore? text.length budget word =
      (ofText text).findLastBefore? text.length budget word := by
  change (findLast? word (((text ++ more).take text.length).drop _)).map _ =
    (findLast? word ((text.take text.length).drop _)).map _
  rw [List.take_left, List.take_length]

/-- The end of the first of two texts. -/
theorem slice_append_length (text more : Text) (start : Nat) :
    (ofText (text ++ more)).slice start text.length = text.drop start := by
  change ((text ++ more).take text.length).drop start = _
  rw [List.take_left]

/-- The last occurrence of a word is found if the window reaches back to it. -/
theorem findLastBefore?_word {c : Char} {word rest : Text} {budget : Nat}
    (later : ¬ c :: word <:+: word ++ rest) (wide : (c :: word ++ rest).length ≤ budget)
    (text : Text) :
    (ofText (text ++ (c :: word ++ rest))).findLastBefore?
      (text ++ (c :: word ++ rest)).length budget (c :: word) = some text.length := by
  have start : windowStart (text ++ (c :: word ++ rest)).length budget ≤ text.length := by
    rw [windowStart, List.length_append]
    omega
  change (findLast? (c :: word) (((text ++ (c :: word ++ rest)).take
    (text ++ (c :: word ++ rest)).length).drop _)).map _ = _
  rw [List.take_length, List.drop_append_of_le_length start, findLast?_append_word later,
    Option.map_some, List.length_drop, Nat.add_sub_cancel' start]

end LineIndex

namespace Scanner

variable {scanner : Scanner} {before : Text}

/-- If only the last row of a text is labelled, its line is the only site. -/
theorem sites_of_last {text : Text} {finished : List Text} {last label : Text} {kind : LabelKind}
    (textRows : text.rows = finished ++ [last]) (quiet : finished.filterMap rowLabel? = [])
    (labelled : rowLabel? last = some (kind, label)) :
    sites (LineIndex.ofText text) =
      [⟨kind, label, finished.length, trimBreak last, finished.flatten.length⟩] := by
  have earlier : ((List.range finished.length).zip
      ((rowStarts 0 finished).zip (finished.map trimBreak))).filterMap siteOf? = [] := by
    refine List.filterMap_eq_nil_iff.mpr fun line listed => ?_
    obtain ⟨number, offset, lineText⟩ := line
    obtain ⟨row, present, rfl⟩ := List.mem_map.mp (List.of_mem_zip (List.of_mem_zip listed).2).2
    exact Option.map_eq_none_iff.mpr (List.filterMap_eq_nil_iff.mp quiet row present)
  have here : siteOf? (finished.length, finished.flatten.length, trimBreak last) =
      some ⟨kind, label, finished.length, trimBreak last, finished.flatten.length⟩ :=
    Option.map_eq_some_iff.mpr ⟨_, labelled, rfl⟩
  rw [sites_eq, LineIndex.lines_of_rows textRows, List.filterMap_append, earlier,
    List.filterMap_cons, here]
  rfl

/-- An equation that ends after the first of two texts is what stands there after the last two
dollar signs in the window. -/
theorem equation?_append_length {site : LabelSite} {place : Nat} (text more : Text)
    (ends : Markup.equationEnd? site.lineText = some place)
    (reached : site.offset + place = text.length) :
    scanner.equation? (LineIndex.ofText (text ++ more)) site =
      ((LineIndex.ofText text).findLastBefore? text.length scanner.lookback "$$".toList).map
        fun opener => element site site.label (trim (text.drop (opener + 2))) := by
  have unfolded : scanner.equation? (LineIndex.ofText (text ++ more)) site =
      ((LineIndex.ofText (text ++ more)).findLastBefore? (site.offset + place) scanner.lookback
        "$$".toList).bind fun opener => some (element site site.label
          (trim ((LineIndex.ofText (text ++ more)).slice (opener + 2) (site.offset + place)))) := by
    rw [equation?, ends]
    rfl
  rw [unfolded, reached, LineIndex.findLastBefore?_append_length]
  cases (LineIndex.ofText text).findLastBefore? text.length scanner.lookback "$$".toList with
  | none => rfl
  | some opener =>
    change some (element _ _ (trim ((LineIndex.ofText (text ++ more)).slice _ text.length))) = _
    rw [LineIndex.slice_append_length]
    rfl

end Scanner

namespace DisplayedEquation

variable (equation : DisplayedEquation)

/-- The end of an equation is on one line. -/
theorem closing_unbroken : ∀ c ∈ equation.closing, isBreak c = false := by
  intro c listed
  have dollars : ∀ c ∈ "$$ ".toList, isBreak c = false := by simp [isBreak]
  exact (List.mem_append.mp listed).elim (dollars c) (AttributeBlock.unbroken _ c)

/-- The rows of an equation before its end: the last one has no dollar signs, or it is the only
one and all of the mathematics is on it. -/
theorem rows_opening : ∃ finished lead,
    rows ("$$".toList ++ equation.math) = finished ++ [lead] ∧
      ('$' ∉ lead ∧ ¬ equation.Braced ∨
        finished = [] ∧ lead = "$$".toList ++ equation.math ∧
          ∀ c ∈ equation.math, isBreak c = false) := by
  cases mathRows : equation.math.rows with
  | nil => exact absurd mathRows (rows_ne_nil _)
  | cons first others =>
    have dollarRows : rows "$$".toList = [] ++ ["$$".toList] := rfl
    have bothRows : rows ("$$".toList ++ equation.math) = ("$$".toList ++ first) :: others :=
      rows_append_of_apart (fun ends => absurd ends (by decide)) dollarRows mathRows
    obtain rfl | ⟨below, last, rfl⟩ := List.eq_nil_or_concat others
    · have whole := flatten_rows equation.math
      rw [mathRows, List.flatten_singleton] at whole
      subst whole
      exact ⟨[], _, bothRows, Or.inr ⟨rfl, rfl, unbroken_of_rows mathRows⟩⟩
    · rw [List.concat_eq_append] at mathRows bothRows
      refine ⟨("$$".toList ++ first) :: below, last, bothRows, Or.inl ⟨fun dollar => ?_, ?_⟩⟩
      · have part : last <:+: equation.math := infix_of_mem_rows (mathRows ▸ by simp)
        exact equation.undollared (part.subset dollar)
      · rintro ⟨unbroken, -⟩
        have alone := rows_of_unbroken (any_isBreak_eq_false.mp unbroken)
        rw [mathRows] at alone
        exact absurd (congrArg List.length alone) (by simp)

/-- On the line of the label the end of the mathematics is found, unless the mathematics is
braced and its beginning is. -/
theorem equationEnd?_line {lead : Text}
    (line : '$' ∉ lead ∧ ¬ equation.Braced ∨ lead = "$$".toList ++ equation.math ∧
      ∀ c ∈ equation.math, isBreak c = false) :
    Markup.equationEnd? (lead ++ equation.closing) =
      some (if equation.Braced then 0 else lead.length) := by
  have closes : Markup.equationEnd? equation.closing = some 0 := rfl
  have begins : (trimStart equation.closing).head? = some '$' := rfl
  rcases line with ⟨undollared, open_⟩ | ⟨rfl, unbroken⟩
  · rw [Markup.equationEnd?_append undollared, closes, if_neg open_]
    rfl
  · have first : (trimStart (equation.math ++ equation.closing)).head? =
        ((trimStart equation.math).head?).or (some '$') := by
      rw [trimStart, List.dropWhile_append]
      split
      · next blank =>
        have empty : trimStart equation.math = [] := List.isEmpty_iff.mp blank
        rw [empty]
        exact begins
      · exact List.head?_append
    rw [List.append_assoc]
    split
    · next braced =>
      refine Markup.equationEnd?_of_brace ?_
      rw [first, braced.2]
      rfl
    · next open_ =>
      have other : (trimStart equation.math).head? ≠ some '\x7b' := fun brace =>
        open_ ⟨any_isBreak_eq_false.mpr unbroken, brace⟩
      rw [Markup.equationEnd?_of_ne_brace, Markup.equationEnd?_append equation.undollared, closes]
      · rw [List.length_append, Option.map_some, Option.map_some, Nat.add_zero]
        rfl
      · rw [first]
        cases inner : (trimStart equation.math).head? with
        | none => simp
        | some c => simpa [inner] using other
      · intro rest dollar
        -- Only the end of the mathematics begins with a dollar sign, and what follows that sign
        -- is another one.
        cases math : equation.math with
        | nil =>
          rw [math, List.nil_append] at dollar
          obtain rfl := (List.cons.inj dollar).2
          exact fun brace => absurd (Option.some.inj brace) (by decide)
        | cons c tail =>
          rw [math] at dollar
          obtain rfl := (List.cons.inj dollar).1
          exact absurd (math ▸ List.mem_cons_self) equation.undollared

end DisplayedEquation

namespace Scanner

/-- The label of an equation is the only site of its text, and from there the equation ends after
its mathematics, unless it is braced and ends where it begins. -/
theorem sites_equation (equation : DisplayedEquation) : ∃ site place,
    sites (LineIndex.ofText equation.text) = [site] ∧ site.kind = .equation ∧
      site.label = equation.label.text ∧ Markup.equationEnd? site.lineText = some place ∧
      site.offset + place =
        (if equation.Braced then [] else "$$".toList ++ equation.math).length := by
  obtain ⟨finished, lead, openingRows, line⟩ := equation.rows_opening
  have closingRows : equation.closing.rows = [equation.closing] :=
    rows_of_unbroken equation.closing_unbroken
  have rows : equation.text.rows = finished ++ [lead ++ equation.closing] := by
    rw [DisplayedEquation.text, ← List.append_assoc]
    exact rows_append_of_apart (fun _ begins => absurd (Option.some.inj begins) (by decide))
      openingRows closingRows
  have unlabelled : Unlabelled ("$$".toList ++ equation.math) :=
    unlabelled_of_notMem (by simp [equation.unsigned])
  have quiet : finished.filterMap rowLabel? = [] :=
    filterMap_rowLabel?_unlabelled unlabelled fun row listed => openingRows ▸ by simp [listed]
  have nothing : Unlabelled [] := unlabelled_of_notMem List.not_mem_nil
  have labelled : rowLabel? (lead ++ equation.closing) =
      some (.equation, equation.label.text) := by
    have found := rowLabel?_block (lead ++ "$$ ".toList)
      (AttributeBlock.ofLabel .equation equation.label) nothing List.infix_rfl
    rwa [List.append_nil, List.append_assoc] at found
  have trimmed : trimBreak (lead ++ equation.closing) = lead ++ equation.closing := by
    have ends : (lead ++ equation.closing).getLast? = some '\x7d' := by
      rw [DisplayedEquation.closing, List.getLast?_append, List.getLast?_append,
        AttributeBlock.getLast?_text, Option.some_or, Option.some_or]
    have kept := trimBreak_append ends rfl []
    rwa [List.append_nil, show trimBreak [] = [] from rfl, List.append_nil] at kept
  have ends := equation.equationEnd?_line (line.imp_right (·.2))
  have length : finished.flatten.length + lead.length =
      ("$$".toList ++ equation.math).length := by
    have whole := congrArg List.length (flatten_rows ("$$".toList ++ equation.math))
    rwa [openingRows, List.flatten_append, List.flatten_singleton, List.length_append] at whole
  refine ⟨_, _, sites_of_last rows quiet labelled, rfl, rfl, trimmed ▸ ends, ?_⟩
  split
  · next braced =>
    obtain ⟨rfl, -⟩ := line.resolve_left fun plain => plain.2 braced
    rfl
  · exact length

variable {scanner : Scanner} {before : Text}

/-- An equation is reported with what stands between its end and the last two dollar signs in
the window before it. -/
theorem reportedAfter_equation (scanner : Scanner) (document? : Option Path)
    (beforeEnded : Ended before) (equation : DisplayedEquation) {text more : Text}
    (written : equation.text = text ++ more)
    (reach : (if equation.Braced then [] else "$$".toList ++ equation.math).length = text.length) :
    scanner.reportedAfter document? before equation.text =
      (((LineIndex.ofText (before ++ text)).findLastBefore? (before ++ text).length
        scanner.lookback "$$".toList).map fun opener => { equation.element with
          documentation := trim ((before ++ text).drop (opener + 2)) }).toList := by
  obtain ⟨site, place, found, kind, label, ends, reached⟩ := sites_equation equation
  have alone : scanner.reportedAfter document? before equation.text =
      (scanner.confirm? (LineIndex.ofText (before ++ equation.text)) document?
        (site.below before)).toList := by
    simp only [reportedAfter_eq scanner document? beforeEnded, found, List.filterMap_cons,
      List.filterMap_nil]
    cases scanner.confirm? (LineIndex.ofText (before ++ equation.text)) document?
      (site.below before) <;> rfl
  have confirmed : scanner.confirm? (LineIndex.ofText (before ++ equation.text)) document?
      (site.below before) =
        scanner.equation? (LineIndex.ofText (before ++ equation.text)) (site.below before) := by
    have kindBelow : (site.below before).kind = .equation := kind
    unfold confirm?
    rw [kindBelow]
  have endsBelow : Markup.equationEnd? (site.below before).lineText = some place := ends
  have reachedBelow : (site.below before).offset + place = (before ++ text).length := by
    rw [List.length_append, ← reach, ← reached]
    exact Nat.add_assoc ..
  have same (documentation : Text) : element (site.below before) (site.below before).label
      documentation = { equation.element with documentation := documentation } := by
    simp only [element, LabelSite.below, kind, label, DisplayedEquation.element]
  rw [alone, confirmed, written, ← List.append_assoc,
    equation?_append_length (before ++ text) more endsBelow reachedBelow]
  simp only [same]

/-- A displayed equation is the last element of a scan, with its label and its mathematics
trimmed, whatever lines are before it, and few lines are always reported. Mathematics of one line that begins with a brace is the
exception: it is replaced by what stands in the window after the last two dollar signs before
the equation, and the label is dropped if there are none. -/
theorem reported_equation (document? : Option Path) (beforeEnded : Ended before)
    (equation : DisplayedEquation) (wide : equation.math.length + 2 ≤ scanner.lookback) :
    let reported := scanner.reportedAfter document? before equation.text
    reported <:+ scanner.scan (before ++ equation.text) document? .full ∧
    (¬ equation.Braced → reported = [equation.element]) ∧
    (equation.Braced → reported = (((LineIndex.ofText before).findLastBefore? before.length
      scanner.lookback "$$".toList).map fun opener =>
        { equation.element with documentation := trim (before.drop (opener + 2)) }).toList) ∧
    (scanner.Fits (before ++ equation.text) →
      scanner.scan? (before ++ equation.text) document? .full =
        some (scanner.scan (before ++ equation.text) document? .full)) := by
  intro reported
  refine ⟨reportedAfter_suffix scanner document? beforeEnded _, fun open_ => ?_, fun braced => ?_,
    fun fits => scan?_of_fits fits document? .full⟩
  · have read := reportedAfter_equation scanner document? beforeEnded equation
      (List.append_assoc ..).symm (by rw [if_neg open_])
    have single : ¬ '$' :: ['$'] <:+: ['$'] ++ equation.math := by
      intro inside
      rcases List.infix_cons_iff.mp inside with begins | later
      · exact equation.undollared ((List.cons_prefix_cons.mp begins).2.subset List.mem_cons_self)
      · exact equation.undollared (later.subset List.mem_cons_self)
    have opener := LineIndex.findLastBefore?_word single wide before
    refine read.trans ?_
    change ((LineIndex.ofText (before ++ ('$' :: ['$'] ++ equation.math))).findLastBefore?
      (before ++ ('$' :: ['$'] ++ equation.math)).length scanner.lookback ['$', '$'] |>.map
        _).toList = _
    rw [opener, Option.map_some, List.drop_length_add_append]
    rfl
  · have read := reportedAfter_equation scanner document? beforeEnded equation
      (List.nil_append _).symm (by rw [if_pos braced])
    rwa [List.append_nil] at read

/-- The equation `{x}` of two lines below another one, with the least window. -/
theorem reported_equation_twoLines :
    let before := "$$y$$\n".toList
    let equation : DisplayedEquation :=
      { math := "\n\x7bx\x7d".toList, undollared := by decide, unsigned := by decide
        label := ⟨['l'], by decide, List.all_eq_true.mp (by decide)⟩ }
    let scanner : Scanner := ⟨6, 3⟩
    Ended before ∧ equation.math.length + 2 ≤ scanner.lookback ∧ ¬ equation.Braced ∧
      scanner.reportedAfter none before equation.text =
        [⟨.equation, ['l'], ['l'], "\x7bx\x7d".toList⟩] := by
  intro before equation scanner
  have ended : Ended before := Or.inr (by decide)
  have wide : equation.math.length + 2 ≤ scanner.lookback := by decide
  have open_ : ¬ equation.Braced := by decide
  exact ⟨ended, wide, open_, (reported_equation none ended equation wide).2.1 open_⟩

/-- An equation of one line that begins with a brace is not reported, and below another equation
it is reported with what stands between the two. -/
theorem reported_equation_misread :
    let equation : DisplayedEquation :=
      { math := "\x7bx\x7d".toList, undollared := by decide, unsigned := by decide
        label := ⟨['l'], by decide, List.all_eq_true.mp (by decide)⟩ }
    let scanner : Scanner := ⟨800, 3⟩
    equation.text = "$$\x7bx\x7d$$ \x7b#eq:l\x7d".toList ∧
      equation.math.length + 2 ≤ scanner.lookback ∧
      equation.element = ⟨.equation, ['l'], ['l'], "\x7bx\x7d".toList⟩ ∧
      scanner.scan? equation.text none .full = some [] ∧
      scanner.scan? ("$$y$$\nwith\n".toList ++ equation.text) none .full =
        some [⟨.equation, ['l'], ['l'], "with".toList⟩] := by
  decide +kernel

end Scanner

end Citations
