import Citations.Proofs.CrossRef.Blocks

/-!
# Fenced listings

A fenced listing carries its label, its language and its caption in an attribute block on the
line of the opening fence. Label and caption are read back, and so is the code, which ends at the
next fence. The language is taken to be the last word with a dot in front of it on the whole
line: a caption with such a word, as in a version number, gives its own.
-/
namespace Citations

open Text

variable {c : Char}

/-- Whether a character may stand in the caption of a fenced listing. -/
def isCaption (c : Char) : Bool := c ≠ '"' && isFiller c

/-- Whether a character ends a line of code. -/
def isLineEnd (c : Char) : Bool := c = '\r' || c = '\n'

/-- A listing between fences, with a label, a language and a caption. -/
structure FencedListing where
  /-- The label. -/
  label : Label
  /-- The language. -/
  language : Text
  /-- There is a language. -/
  spoken : language ≠ []
  /-- The language is made of word characters. -/
  worded : ∀ c ∈ language, isWord c = true
  /-- The caption. -/
  caption : Text
  /-- There is a caption. -/
  captioned : caption ≠ []
  /-- The caption is on one line, without quotes, braces and number signs. -/
  plain : ∀ c ∈ caption, isCaption c = true
  /-- The code. -/
  body : Text
  /-- There is no fence in the code. -/
  unfenced : ¬ Markup.fence <:+: body
  /-- The code begins with no line end. -/
  begins : ∀ c ∈ body.head?, isLineEnd c = false
  /-- The code ends in no line end. -/
  ends : ∀ c ∈ body.getLast?, isLineEnd c = false
  /-- What ends a line. -/
  lineEnd : Text
  /-- Lines end in a line feed, perhaps with a carriage return before it. -/
  fed : lineEnd = ['\n'] ∨ lineEnd = ['\r', '\n']
  /-- The lines of the code. -/
  lines : Text
  /-- The last line of the code is ended; an empty code may have no line. -/
  written : lines = body ++ lineEnd ∨ body = [] ∧ lines = []

/-- No word begins after a dot. -/
def Undotted (text : Text) : Prop := ∀ c, isWord c = true → ¬ ['.', c] <:+: text

/-- The last word with a dot in front of it. -/
def LastDotted (text name : Text) : Prop :=
  ∃ before after, text = before ++ '.' :: (name ++ after) ∧ name ≠ [] ∧
    (∀ c ∈ name, isWord c = true) ∧ (∀ c ∈ after.head?, isWord c = false) ∧ Undotted after

/-! ## Characters -/

/-- The characters of a label may stand beside it. -/
theorem isFiller_of_isLabel (made : isLabel c = true) : isFiller c = true := by
  have apart {d : Char} (other : isLabel d = false) : c ≠ d := by
    rintro rfl
    rw [made] at other
    contradiction
  exact isFiller_iff.mpr ⟨apart (by decide), apart (by decide), apart (by decide),
    isBreak_of_isLabel made⟩

/-- The characters of a word may stand in a label. -/
theorem isLabel_of_isWord (word : isWord c = true) : isLabel c = true := by
  rw [isLabel, word, Bool.true_or]

/-- A line of code ends in a line feed, of which nothing is kept. -/
theorem lineEnd_spec {lineEnd : Text} (fed : lineEnd = ['\n'] ∨ lineEnd = ['\r', '\n']) :
    lineEnd.rows = [lineEnd, []] ∧ lineEnd.getLast? = some '\n' ∧ trimBreak lineEnd = [] ∧
      ∀ c ∈ lineEnd, isLineEnd c = true := by
  rcases fed with rfl | rfl <;> exact ⟨rfl, rfl, rfl, List.all_eq_true.mp (by decide)⟩

/-! ## The parts of a listing -/

namespace FencedListing

variable (listing : FencedListing)

/-- The attributes after the label. -/
def attributes : Text :=
  " .".toList ++ (listing.language ++ (" caption=\"".toList ++ (listing.caption ++ ['"'])))

/-- The attributes may stand beside the label. -/
theorem plain_attributes : ∀ c ∈ listing.attributes, isFiller c = true := by
  have written : ∀ c ∈ " .".toList ++ " caption=\"".toList ++ ['"'], isFiller c = true :=
    List.all_eq_true.mp (by decide +kernel)
  intro c listed
  simp only [attributes, List.mem_append] at listed
  rcases listed with dot | language | key | caption | quote
  · exact written c (List.mem_append_left _ (List.mem_append_left _ dot))
  · exact isFiller_of_isLabel (isLabel_of_isWord (listing.worded c language))
  · exact written c (List.mem_append_left _ (List.mem_append_right _ key))
  · exact (Bool.and_eq_true_iff.mp (listing.plain c caption)).2
  · exact written c (List.mem_append_right _ quote)

/-- The block on the line of the opening fence. -/
def block : AttributeBlock where
  before := []
  kind := .listing
  label := listing.label
  after := listing.attributes
  ended := fun c begins => by
    obtain rfl : ' ' = c := Option.some.inj begins
    decide
  plain := listing.plain_attributes

/-- The line of the opening fence. -/
def firstLine : Text := Markup.fence ++ listing.block.text

/-- What stands between that line and the closing fence. -/
def between : Text := listing.lineEnd ++ listing.lines

/-- What a listing is written as. -/
def text : Text := listing.firstLine ++ (listing.between ++ Markup.fence)

/-- The label on the first line of a listing. -/
def site : LabelSite := ⟨.listing, listing.label.text, 0, listing.firstLine, 0⟩

/-- The element that a listing is reported as when a language is read on its first line. -/
def element (language : Text) : CrossRef :=
  ⟨.listing, listing.label.text, listing.caption,
    Markup.fence ++ language ++ '\n' :: listing.body ++ '\n' :: Markup.fence⟩

/-- The first fence after the first line is the closing one. -/
theorem find?_fence (rest : Text) :
    find? Markup.fence (listing.between ++ (Markup.fence ++ rest)) =
      some listing.between.length := by
  obtain ⟨-, last, -, made⟩ := lineEnd_spec listing.fed
  have outside : ∀ c ∈ Markup.fence, isLineEnd c = false := by simp [Markup.fence, isLineEnd]
  have foreign : ∀ c ∈ listing.lineEnd, c ∉ Markup.fence := fun c listed inside =>
    Bool.false_ne_true ((outside c inside).symm.trans (made c listed))
  have absent : ¬ Markup.fence <:+: listing.between := by
    intro inside
    have onLines := (infix_of_foreign (by decide) foreign).1 inside
    rcases listing.written with ended | ⟨-, empty⟩
    · rw [ended] at onLines
      exact listing.unfenced ((infix_of_foreign (by decide) foreign).2 onLines)
    · rw [empty, List.infix_nil] at onLines
      exact absurd onLines (by decide)
  have ends : listing.between.getLast? = some '\n' := by
    rcases listing.written with ended | ⟨-, empty⟩
    · rw [between, ended, List.getLast?_append, List.getLast?_append, last, Option.some_or,
        Option.some_or]
    · rw [between, empty, List.append_nil, last]
  refine find?_append_word absent (fun c final => ?_) rest
  obtain rfl := Option.some.inj (ends.symm.trans final)
  decide

/-- Between the fences stands the code and what ends its lines. -/
theorem body_between :
    dropEndWhile isLineEnd (listing.between.dropWhile isLineEnd) = listing.body := by
  obtain ⟨-, -, -, made⟩ := lineEnd_spec listing.fed
  have trimmed {tail : Text} (tails : ∀ c ∈ tail, isLineEnd c = true) :
      dropEndWhile isLineEnd ((listing.lineEnd ++ (listing.body ++ tail)).dropWhile isLineEnd) =
        listing.body :=
    dropWhile_dropEndWhile made tails listing.begins listing.ends
  rcases listing.written with ended | ⟨empty, none⟩
  · rw [between, ended, trimmed made]
  · rw [between, none]
    have nothing := trimmed (List.forall_mem_nil _)
    rwa [empty] at nothing ⊢

end FencedListing

variable {text rest name : Text}

/-! ## The language -/

/-- Where a word begins after a dot, one is the last. -/
theorem undotted_or_lastDotted (text : Text) : Undotted text ∨ ∃ name, LastDotted text name := by
  induction text with
  | nil => exact Or.inl fun c _ inside => absurd (List.infix_nil.mp inside) (List.cons_ne_nil _ _)
  | cons d rest ih =>
    rcases ih with undotted | ⟨name, before, after, rfl, dotted⟩
    · by_cases first : d = '.' ∧ ∃ c ∈ rest.head?, isWord c = true
      · obtain ⟨rfl, c, begins, word⟩ := first
        refine Or.inr ⟨rest.takeWhile isWord, [], rest.dropWhile isWord, ?_, ?_,
          fun c listed => List.mem_takeWhile_imp listed, fun c stops => ?_, fun c word inside =>
          undotted c word (inside.trans (List.dropWhile_suffix _).isInfix)⟩
        · rw [List.takeWhile_append_dropWhile]
          rfl
        · obtain ⟨tail, rfl⟩ := List.head?_eq_some_iff.mp begins
          rw [List.takeWhile_cons_of_pos word]
          exact List.cons_ne_nil _ _
        · have stopped := List.head?_dropWhile_not isWord rest
          rw [stops] at stopped
          simpa using stopped
      · refine Or.inl fun c word inside => ?_
        rcases List.infix_cons_iff.mp inside with here | later
        · obtain ⟨same, begins⟩ := List.cons_prefix_cons.mp here
          obtain ⟨tail, rfl⟩ := begins
          exact first ⟨same.symm, c, rfl, word⟩
        · exact undotted c word later
    · exact Or.inr ⟨name, d :: before, after, rfl, dotted⟩

namespace Markup

/-- The class whose dot is the first character of a text, if a brace closes its block. -/
def classHere? : Text → Option Text
  | [] => none
  | c :: rest =>
    if c = '.' ∧ rest.takeWhile isWord ≠ [] ∧ '\x7d' ∈ rest.dropWhile isWord then
      some (rest.takeWhile isWord)
    else none

/-- The last class of a text is read at the last place where one can be. -/
theorem lastClass?_eq (text : Text) : lastClass? text = lastRead? classHere? text := by
  induction text with
  | nil => rfl
  | cons c rest ih =>
    rw [lastClass?, lastRead?, ih]
    rfl

/-- A text without dots has no class. -/
theorem lastClass?_dotless (dotless : '.' ∉ text) (rest : Text) :
    lastClass? (text ++ rest) = lastClass? rest := by
  have unread : ∀ c ∈ text, ∀ more, classHere? (c :: more) = none := by
    intro c listed more
    refine if_neg fun ⟨dot, _⟩ => ?_
    subst dot
    exact dotless listed
  rw [lastClass?_eq, lastClass?_eq, lastRead?_skip unread]

/-- A class is read to its end, if there is no other one after it. -/
theorem lastClass?_word (nonempty : name ≠ []) (worded : ∀ c ∈ name, isWord c = true)
    (stops : ∀ c ∈ rest.head?, isWord c = false) (closed : '\x7d' ∈ rest) :
    lastClass? ('.' :: (name ++ rest)) = (lastClass? rest).or (some name) := by
  obtain ⟨taken, left⟩ := takeWhile_append_of_stops worded stops
  have here : classHere? ('.' :: (name ++ rest)) = some name := by
    rw [classHere?, taken, left, if_pos ⟨rfl, nonempty, closed⟩]
  have dotless : '.' ∉ name := fun listed => absurd (worded '.' listed) (by decide)
  rw [lastClass?_eq, lastRead?, here, ← lastClass?_eq, lastClass?_dotless dotless]

/-- A text where no word begins after a dot has no class, also before a quote. -/
theorem lastClass?_undotted (undotted : Undotted text) :
    lastClass? (text ++ ['"', '\x7d']) = none := by
  rw [lastClass?_eq]
  refine lastRead?_eq_none fun rest suffix => ?_
  cases rest with
  | nil => rfl
  | cons c rest =>
    refine if_neg fun ⟨dot, nonempty, _⟩ => ?_
    subst dot
    obtain ⟨d, tail, taken⟩ := List.exists_cons_of_ne_nil nonempty
    have word : isWord d = true := List.mem_takeWhile_imp (taken ▸ List.mem_cons_self)
    have next : ['.', d] <+: '.' :: rest := by
      refine List.cons_prefix_cons.mpr ⟨rfl, List.IsPrefix.trans ?_ (List.takeWhile_prefix isWord)⟩
      rw [taken]
      exact ⟨tail, rfl⟩
    have foreign : ∀ c ∈ ['"', '\x7d'], c ∉ ['.', d] := by
      intro c listed inside
      have other : isWord c = false ∧ c ≠ '.' := by
        rcases List.mem_pair.mp listed with rfl | rfl <;> decide
      rcases List.mem_pair.mp inside with dot | rfl
      · exact other.2 dot
      · exact Bool.false_ne_true (other.1.symm.trans word)
    exact undotted d word ((infix_of_foreign (List.cons_ne_nil _ _) foreign).2
      (next.isInfix.trans suffix.isInfix))

/-- The last word of a text with a dot in front of it is a class, also before a quote. -/
theorem lastClass?_dotted (dotted : LastDotted text name) :
    lastClass? (text ++ ['"', '\x7d']) = some name := by
  obtain ⟨before, after, rfl, nonempty, worded, stops, undotted⟩ := dotted
  have here : lastClass? ('.' :: (name ++ (after ++ ['"', '\x7d']))) = some name := by
    rw [lastClass?_word nonempty worded, lastClass?_undotted undotted, Option.none_or]
    · intro c begins
      cases after with
      | nil =>
        obtain rfl : '"' = c := by simpa using begins
        decide
      | cons d rest => exact stops c begins
    · simp
  rw [lastClass?_eq] at here ⊢
  rw [List.append_assoc, List.cons_append, List.append_assoc]
  exact lastRead?_append here before

/-! ## The caption -/

/-- The text before the last quote that a closing brace follows. -/
theorem beforeLastQuote?_closed (text : Text) :
    beforeLastQuote? (text ++ ['"', '\x7d']) = some text := by
  induction text with
  | nil => rfl
  | cons c rest ih => rw [List.cons_append, beforeLastQuote?, ih]

/-- What follows a caption attribute that a text begins with, if something does. -/
def captionHere? (text : Text) : Option Text :=
  (after? "caption=\"".toList text).filter (· ≠ [])

/-- The last caption of a text is read at the last place where one can be. -/
theorem lastCaption?_eq (text : Text) : lastCaption? text = lastRead? captionHere? text := by
  induction text with
  | nil => rfl
  | cons c rest ih =>
    rw [lastCaption?, lastRead?, ih]
    rfl

/-- No caption is read where the attribute is missing. -/
theorem captionHere?_eq_none (missing : ∀ rest, text ≠ "caption=\"".toList ++ rest) :
    captionHere? text = none := by
  cases found : after? "caption=\"".toList text with
  | none => rw [captionHere?, found, Option.filter_none]
  | some rest => exact absurd (after?_eq_some_iff.mp found) (missing rest)

/-- The caption after the last attribute for one. -/
theorem lastCaption?_quoted (before : Text) (nonempty : text ≠ []) (unquoted : '"' ∉ text) :
    lastCaption? (before ++ ("caption=\"".toList ++ text)) = some text := by
  have quiet : lastRead? captionHere? text = none := by
    refine lastRead?_eq_none fun rest suffix => captionHere?_eq_none fun after found => ?_
    refine unquoted (suffix.subset ?_)
    rw [found]
    exact List.mem_append_left after (by decide)
  have skipped : ∀ c ∈ "aption=\"".toList, ∀ more, captionHere? (c :: more) = none := by
    intro c listed more
    refine captionHere?_eq_none fun rest found => ?_
    obtain rfl := (List.cons.inj found).1
    exact absurd listed (by decide)
  have here : captionHere? ('c' :: ("aption=\"".toList ++ text)) = some text := by
    have found : after? "caption=\"".toList ('c' :: ("aption=\"".toList ++ text)) = some text := rfl
    rw [captionHere?, found, Option.filter_some]
    exact if_pos (by simpa using nonempty)
  have whole : lastRead? captionHere? ('c' :: ("aption=\"".toList ++ text)) = some text := by
    rw [lastRead?, lastRead?_skip skipped, quiet, here, Option.none_or]
  rw [lastCaption?_eq]
  exact lastRead?_append whole before

end Markup

/-! ## The listing -/

namespace FencedListing

variable (listing : FencedListing)

/-- The block with its language and its caption shown. -/
theorem text_block : listing.block.text =
    "\x7b#lst:".toList ++ listing.label.text ++ " ".toList ++ ('.' :: (listing.language ++
      (" caption=\"".toList ++ (listing.caption ++ ['"', '\x7d'])))) := by
  simp [AttributeBlock.text, block, attributes, LabelKind.marker, LabelKind.tag]

/-- Only the fence stands before the block. -/
theorem dropWhile_firstLine :
    listing.firstLine.dropWhile (· ≠ '\x7b') = listing.block.text := by
  rfl

/-- The language of the first line is the last class of the caption, or else the class of the
block. -/
theorem language?_firstLine : Markup.language? listing.firstLine =
    (Markup.lastClass? (listing.caption ++ ['"', '\x7d'])).or (some listing.language) := by
  have unlabelled : '.' ∉ listing.label.text := fun listed =>
    absurd (listing.label.made '.' listed) (by decide)
  have lead : '.' ∉ "\x7b#lst:".toList ++ listing.label.text ++ " ".toList := by
    simp [unlabelled]
  rw [Markup.language?, dropWhile_firstLine, text_block, Markup.lastClass?_dotless lead,
    Markup.lastClass?_word listing.spoken listing.worded, Markup.lastClass?_dotless (by decide)]
  · intro c begins
    obtain rfl : ' ' = c := Option.some.inj begins
    decide
  · simp

/-- The language is read if no word of the caption has a dot in front of it. -/
theorem language?_undotted (undotted : Undotted listing.caption) :
    Markup.language? listing.firstLine = some listing.language := by
  rw [language?_firstLine, Markup.lastClass?_undotted undotted, Option.none_or]

/-- The last word of the caption with a dot in front of it is read as the language. -/
theorem language?_dotted (dotted : LastDotted listing.caption name) :
    Markup.language? listing.firstLine = some name := by
  rw [language?_firstLine, Markup.lastClass?_dotted dotted, Option.some_or]

/-- The caption of the first line is that of the listing. -/
theorem quotedCaption?_firstLine :
    Markup.quotedCaption? listing.firstLine = some listing.caption := by
  have unquoted : '"' ∉ listing.caption := fun listed =>
    absurd (listing.plain '"' listed) (by decide)
  have shape : listing.block.text = "\x7b#lst:".toList ++ listing.label.text ++ " .".toList ++
      listing.language ++ " ".toList ++ ("caption=\"".toList ++ listing.caption) ++
        ['"', '\x7d'] := by
    rw [text_block]
    simp
  rw [Markup.quotedCaption?, dropWhile_firstLine, shape, Markup.beforeLastQuote?_closed]
  exact Markup.lastCaption?_quoted _ listing.captioned unquoted

/-- The first line is the first site, labelled by its block. -/
theorem sites_text (rest : Text) : ∃ later,
    Scanner.sites (LineIndex.ofText (listing.text ++ rest)) = listing.site :: later := by
  obtain ⟨endRows, last, trimmed, -⟩ := lineEnd_spec listing.fed
  have unlabelled : Unlabelled listing.lineEnd :=
    unlabelled_of_notMem (by rcases listing.fed with fed | fed <;> rw [fed] <;> decide)
  have unbroken : ∀ c ∈ listing.firstLine, isBreak c = false := by
    intro c listed
    have fences : ∀ c ∈ Markup.fence, isBreak c = false := by simp [Markup.fence, isBreak]
    exact (List.mem_append.mp listed).elim (fences c) (listing.block.unbroken c)
  have closes : listing.firstLine.getLast? = some '\x7d' := by
    rw [firstLine, List.getLast?_append, listing.block.getLast?_text, Option.some_or]
  have ended : Ended (listing.firstLine ++ listing.lineEnd) :=
    Or.inr (by rw [List.getLast?_append, last, Option.some_or])
  have alone : listing.firstLine.rows = [] ++ [listing.firstLine] := rows_of_unbroken unbroken
  have rows : (listing.firstLine ++ listing.lineEnd).rows =
      [listing.firstLine ++ listing.lineEnd, []] := by
    refine rows_append_of_apart (fun ends => ?_) alone endRows
    rw [closes] at ends
    exact absurd ends (by decide)
  have line : trimBreak (listing.firstLine ++ listing.lineEnd) = listing.firstLine := by
    rw [trimBreak_append closes (by decide), trimmed, List.append_nil]
  have labelled : rowLabel? (listing.firstLine ++ listing.lineEnd) =
      some (.listing, listing.label.text) := by
    rw [firstLine, List.append_assoc]
    exact rowLabel?_block Markup.fence listing.block unlabelled List.infix_rfl
  have finished : LineIndex.finishedLines (listing.firstLine ++ listing.lineEnd) =
      [(0, 0, listing.firstLine)] := by
    rw [LineIndex.finishedLines, breaks, rows]
    simp [rowStarts, line]
  have here : Scanner.siteOf? (0, 0, listing.firstLine) = some listing.site := by
    rw [rowLabel?, line] at labelled
    rw [Scanner.siteOf?, labelled]
    rfl
  have shape : listing.text ++ rest = (listing.firstLine ++ listing.lineEnd) ++
      (listing.lines ++ Markup.fence ++ rest) := by
    simp [text, between]
  rw [shape, Scanner.sites_append ended, Scanner.sites_of_ended ended, finished,
    List.filterMap_cons, here]
  exact ⟨_, rfl⟩

end FencedListing

namespace Scanner

/-- The site of a listing is read with its label, its caption and its code. -/
theorem fenced_text (listing : FencedListing) (rest : Text) :
    fenced (LineIndex.ofText (listing.text ++ rest)) listing.site =
      listing.element ((Markup.language? listing.firstLine).getD []) := by
  have shape : listing.text ++ rest =
      listing.firstLine ++ (listing.between ++ (Markup.fence ++ rest)) := by
    simp [FencedListing.text]
  have start : listing.site.offset + listing.site.lineText.length = listing.firstLine.length :=
    Nat.zero_add _
  have found : (LineIndex.ofText (listing.text ++ rest)).findAfter? listing.firstLine.length
      Markup.fence = some (listing.firstLine.length + listing.between.length) := by
    change (find? Markup.fence ((listing.text ++ rest).drop _)).map
      (min _ (listing.text ++ rest).length + ·) = _
    rw [shape, List.drop_left, listing.find?_fence, List.length_append,
      Nat.min_eq_left (Nat.le_add_right ..)]
    rfl
  have code : (LineIndex.ofText (listing.text ++ rest)).slice listing.firstLine.length
      (listing.firstLine.length + listing.between.length) = listing.between := by
    change ((listing.text ++ rest).take _).drop _ = _
    rw [shape, List.take_length_add_append, List.take_left, List.drop_left]
  have body : dropEndWhile (fun c => c = '\r' || c = '\n')
      (listing.between.dropWhile fun c => c = '\r' || c = '\n') = listing.body :=
    listing.body_between
  have caption : Markup.quotedCaption? listing.site.lineText = some listing.caption :=
    listing.quotedCaption?_firstLine
  unfold fenced
  simp only [start, found, code, body, caption]
  rfl

variable {scanner : Scanner} {before : Text}

/-- The site of a listing is confirmed by the fence on its line. -/
theorem confirm?_listing (document? : Option Path) (listing : FencedListing) (rest : Text) :
    scanner.confirm? (LineIndex.ofText (before ++ (listing.text ++ rest))) document?
        (listing.site.below before) =
      some (listing.element ((Markup.language? listing.firstLine).getD [])) := by
  have fence : Markup.hasFence (listing.site.below before).lineText = true := rfl
  change scanner.listing? _ _ = _
  rw [listing?, if_pos fence, fenced_append, fenced_text]

/-- Below any lines and above any text, the first thing reported of a fenced listing is the
listing with its label, its caption and its code. Its language is read from the whole first line:
it is the last word of the caption that has a dot in front of it, if there is one. Few lines are
always reported. -/
theorem reported_listing (scanner : Scanner) (document? : Option Path)
    (beforeEnded : Ended before) (listing : FencedListing) (rest : Text) :
    let reported := scanner.reportedAfter document? before (listing.text ++ rest)
    reported <:+ scanner.scan (before ++ (listing.text ++ rest)) document? .full ∧
    ∃ language more, reported = listing.element language :: more ∧
      (Undotted listing.caption → language = listing.language) ∧
      (∀ name, LastDotted listing.caption name → language = name) ∧
      (language = listing.language ↔
        Undotted listing.caption ∨ LastDotted listing.caption listing.language) ∧
      (scanner.Fits (before ++ (listing.text ++ rest)) →
        scanner.scan? (before ++ (listing.text ++ rest)) document? .full =
          some (scanner.scan (before ++ (listing.text ++ rest)) document? .full)) := by
  intro reported
  refine ⟨reportedAfter_suffix scanner document? beforeEnded _, ?_⟩
  obtain ⟨later, found⟩ := listing.sites_text rest
  have first : ∃ more, reported =
      listing.element ((Markup.language? listing.firstLine).getD []) :: more := by
    simp only [reported, reportedAfter_eq scanner document? beforeEnded, found]
    exact ⟨_, List.filterMap_cons_some (confirm?_listing document? listing rest)⟩
  obtain ⟨more, first⟩ := first
  have undotted (none : Undotted listing.caption) :
      (Markup.language? listing.firstLine).getD [] = listing.language := by
    rw [listing.language?_undotted none, Option.getD_some]
  have dotted (name : Text) (last : LastDotted listing.caption name) :
      (Markup.language? listing.firstLine).getD [] = name := by
    rw [listing.language?_dotted last, Option.getD_some]
  refine ⟨_, more, first, undotted, dotted, ⟨fun same => ?_, fun kept => ?_⟩,
    fun fits => scan?_of_fits fits document? .full⟩
  · rcases undotted_or_lastDotted listing.caption with none | ⟨name, last⟩
    · exact Or.inl none
    · obtain rfl : name = listing.language := (dotted name last).symm.trans same
      exact Or.inr last
  · exact kept.elim undotted (dotted _)

/-- A listing whose caption has no dots, below a line and above another one. -/
theorem reported_listing_undotted :
    let before := "Code:\n".toList
    let listing : FencedListing :=
      { label := ⟨['l'], by decide, List.all_eq_true.mp (by decide)⟩
        language := "rust".toList, spoken := by decide, worded := List.all_eq_true.mp (by decide)
        caption := "One, two".toList, captioned := by decide, plain := List.all_eq_true.mp (by decide)
        body := ['x'], unfenced := by decide, begins := by simp [isLineEnd], ends := by simp [isLineEnd]
        lineEnd := ['\r', '\n'], fed := Or.inr rfl
        lines := "x\r\n".toList, written := Or.inl rfl }
    let scanner : Scanner := ⟨800, 3⟩
    Ended before ∧ Undotted listing.caption ∧
      ∃ more, scanner.reportedAfter none before (listing.text ++ "\nmore".toList) =
        ⟨.listing, ['l'], "One, two".toList,
          "\x60\x60\x60rust\nx\n\x60\x60\x60".toList⟩ :: more := by
  intro before listing scanner
  have ended : Ended before := Or.inr (by decide)
  have undotted : Undotted listing.caption := fun _ _ inside =>
    absurd (inside.subset List.mem_cons_self) (by decide)
  obtain ⟨-, language, more, reported, spoken, -⟩ :=
    reported_listing scanner none ended listing "\nmore".toList
  obtain rfl := spoken undotted
  exact ⟨ended, undotted, more, reported⟩

/-- The version number in a caption is reported as the language. -/
theorem reported_listing_version :
    let listing : FencedListing :=
      { label := ⟨['l'], by decide, List.all_eq_true.mp (by decide)⟩
        language := "rust".toList, spoken := by decide, worded := List.all_eq_true.mp (by decide)
        caption := "v1.2".toList, captioned := by decide, plain := List.all_eq_true.mp (by decide)
        body := ['x'], unfenced := by decide, begins := by simp [isLineEnd], ends := by simp [isLineEnd]
        lineEnd := ['\n'], fed := Or.inl rfl
        lines := "x\n".toList, written := Or.inl rfl }
    let scanner : Scanner := ⟨800, 3⟩
    listing.text = "\x60\x60\x60\x7b#lst:l .rust caption=\"v1.2\"\x7d\nx\n\x60\x60\x60".toList ∧
      listing.element listing.language =
        ⟨.listing, ['l'], "v1.2".toList, "\x60\x60\x60rust\nx\n\x60\x60\x60".toList⟩ ∧
      scanner.scan? listing.text none .full =
        some [⟨.listing, ['l'], "v1.2".toList, "\x60\x60\x602\nx\n\x60\x60\x60".toList⟩] := by
  decide +kernel

end Scanner

end Citations
