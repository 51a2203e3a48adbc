import Citations.Proofs.Discovery.Accounting
import Citations.Proofs.Text.Lines
import Citations.Proofs.Text.Windows

/-!
# The declaration on a line

A line declares sources if the word at its front is followed, white space aside, by brackets that
the line closes (`Declares`). White space also runs on to later lines: a line on which the word
stands alone takes the brackets that stand first, white space aside, on the lines below it
(`Continues`). The first line that does either decides, so a text whose words all have their
brackets on their own line declares what its first declaring line lists, or nothing.
-/
namespace Citations

namespace Declaration

open Text

variable {text line items tail : Text} {found before below : List Text} {c : Char}

/-- The word in front of a declaration. -/
def word : Text := "bibliography:".toList

/-- What a text lists: its pieces at commas, trimmed and unquoted, without the empty ones. -/
def entries (items : Text) : List Text :=
  ((splitAt ',' items).map fun item => unquote (trim item)).filter (· ≠ [])

/-- A line begins, white space aside, with a bracket and has a closing one; the items are what
stands between that bracket and the last closing one. -/
def Opens (line items : Text) : Prop :=
  ∃ indent after, line = indent ++ '[' :: (items ++ ']' :: after) ∧
    (∀ c ∈ indent, isBlank c = true) ∧ ']' ∉ after

/-- The word is followed by brackets on its line. -/
def Declares (line items : Text) : Prop := ∃ tail, line = word ++ tail ∧ Opens tail items

/-- The first of some lines with more than white space on it begins with brackets. -/
inductive Bracketed : List Text → Text → Prop
  /-- It is the first of all. -/
  | opens {line items : Text} {below : List Text} :
    Opens line items → Bracketed (line :: below) items
  /-- It is below a line of white space. -/
  | blank {line items : Text} {below : List Text} :
    (∀ c ∈ line, isBlank c = true) → Bracketed below items → Bracketed (line :: below) items

/-- The word stands alone on its line, and the lines below begin with brackets. -/
def Continues (line : Text) (below : List Text) (items : Text) : Prop :=
  ∃ tail, line = word ++ tail ∧ (∀ c ∈ tail, isBlank c = true) ∧ Bracketed below items

/-- The first of some lines that declares items, by brackets on it or below it. -/
inductive First : List Text → Text → Prop
  /-- It is the first of all, and the brackets are on it. -/
  | declares {line items : Text} {below : List Text} :
    Declares line items → First (line :: below) items
  /-- It is the first of all, and the brackets are below it. -/
  | continues {line items : Text} {below : List Text} :
    Continues line below items → First (line :: below) items
  /-- It is below a line that declares nothing. -/
  | later {line items : Text} {below : List Text} :
    (∀ other, ¬ Declares line other) → (∀ other, ¬ Continues line below other) →
      First below items → First (line :: below) items

/-- No word stands alone above brackets. -/
def Single (found : List Text) : Prop :=
  ∀ front line below, found = front ++ line :: below → ∀ items, ¬ Continues line below items

/-! ## Brackets -/

/-- What stands before the last occurrence of a character. -/
theorem take_findLast?_eq_some_iff :
    (findLast? [c] line).map line.take = some items ↔
      ∃ after, line = items ++ c :: after ∧ c ∉ after := by
  constructor
  · intro taken
    obtain ⟨place, last, rfl⟩ := Option.map_eq_some_iff.mp taken
    obtain ⟨after, rest⟩ := prefix_of_findLast? last
    refine ⟨after, ?_, fun inside => ?_⟩
    · have parts := List.take_append_drop place line
      rw [← rest] at parts
      exact parts.symm
    · obtain ⟨front, back, rfl⟩ := List.append_of_mem inside
      have again : [c] <+: line.drop (place + (front.length + 1)) := by
        rw [← List.drop_drop, ← rest, List.singleton_append, List.drop_succ_cons, List.drop_left]
        exact ⟨back, rfl⟩
      obtain ⟨other, same, behind⟩ := le_findLast? (List.cons_ne_nil c []) again
      obtain rfl := Option.some.inj (last.symm.trans same)
      omega
  · rintro ⟨after, rfl, absent⟩
    have quiet : ¬ [c] <:+: [] ++ after := fun inside =>
      absent (inside.subset List.mem_cons_self)
    have last : findLast? [c] (items ++ c :: after) = some items.length :=
      findLast?_append_word quiet items
    rw [last, Option.map_some, List.take_left]

/-- Without the white space at its front, a line that opens begins with a bracket. -/
theorem opens_iff :
    Opens line items ↔ ∃ after, trimStart line = '[' :: (items ++ ']' :: after) ∧ ']' ∉ after := by
  constructor
  · rintro ⟨indent, after, rfl, blank, absent⟩
    have begins : ∀ c ∈ ('[' :: (items ++ ']' :: after)).head?, isBlank c = false := by
      intro c first
      obtain rfl : '[' = c := Option.some.inj first
      decide
    exact ⟨after, trimStart_append blank begins, absent⟩
  · rintro ⟨after, start, absent⟩
    refine ⟨line.takeWhile isBlank, after, ?_, fun _ listed => List.mem_takeWhile_imp listed, absent⟩
    rw [← start]
    exact List.takeWhile_append_dropWhile.symm

/-- A line of white space does not open. -/
theorem not_opens_of_blank (blank : ∀ c ∈ line, isBlank c = true) : ¬ Opens line items := by
  rintro ⟨indent, after, rfl, -, -⟩
  exact absurd (blank '[' (List.mem_append_right _ List.mem_cons_self)) (by decide)

/-- What stands before the last closing bracket of its line is read behind an opening one. -/
theorem bracketed?_of_start {rest : Text} (start : trimStart text = c :: rest) :
    bracketed? text =
      if c = '[' then
        (findLast? [']'] (rest.takeWhile (· ≠ '\n'))).map (rest.takeWhile (· ≠ '\n')).take
      else none := by
  rw [bracketed?, start]
  split
  · next same =>
    obtain ⟨rfl, rfl⟩ := List.cons.inj same
    exact (if_pos rfl).symm
  · next other =>
    rw [if_neg]
    rintro rfl
    exact other rest rfl

/-- White space in front of brackets does not matter. -/
theorem bracketed?_append_blank (blank : ∀ c ∈ line, isBlank c = true) (rest : Text) :
    bracketed? (line ++ rest) = bracketed? rest := by
  have same : trimStart (line ++ rest) = trimStart rest := List.dropWhile_append_of_pos blank
  rw [bracketed?, bracketed?, same]

/-- In a text whose first line has more than white space, brackets are read where the line opens. -/
theorem bracketed?_append_iff (clean : '\n' ∉ line) (inked : ¬ ∀ c ∈ line, isBlank c = true)
    (apart : tail = [] ∨ tail.head? = some '\n') :
    bracketed? (line ++ tail) = some items ↔ Opens line items := by
  rw [opens_iff]
  cases kept : trimStart line with
  | nil => exact absurd (List.dropWhile_eq_nil_iff.mp kept) inked
  | cons d rest =>
    have start : trimStart (line ++ tail) = d :: (rest ++ tail) := by
      have trimmed : line.dropWhile isBlank = d :: rest := kept
      rw [trimStart, List.dropWhile_append, trimmed]
      rfl
    rw [bracketed?_of_start start]
    by_cases opening : d = '['
    · have suffix : d :: rest <:+ line := kept ▸ List.dropWhile_suffix isBlank
      have inside : ∀ c ∈ rest, decide (c ≠ '\n') = true := by
        intro c listed
        refine decide_eq_true fun feed => clean ?_
        exact feed ▸ suffix.subset (List.mem_cons_of_mem _ listed)
      have stops : ∀ c ∈ tail.head?, decide (c ≠ '\n') = false := by
        rcases apart with rfl | begins
        · simp
        · simp [begins]
      -- The closing bracket is searched up to the line feed, so on this line only.
      have row : (rest ++ tail).takeWhile (· ≠ '\n') = rest :=
        (takeWhile_append_of_stops inside stops).1
      rw [if_pos opening, row, take_findLast?_eq_some_iff]
      simp [opening]
    · rw [if_neg opening]
      simp [opening]

/-- What follows a line begins with a line feed, or there is nothing. -/
theorem lines_apart (below : List Text) :
    below.flatMap ('\n' :: ·) = [] ∨ (below.flatMap ('\n' :: ·)).head? = some '\n' := by
  cases below with
  | nil => exact Or.inl rfl
  | cons next more => exact Or.inr rfl

/-- A line of white space in front of other lines does not matter. -/
theorem bracketed?_join_blank (blank : ∀ c ∈ line, isBlank c = true) (below : List Text) :
    bracketed? (join ['\n'] (line :: below)) = bracketed? (join ['\n'] below) := by
  rw [join_cons, bracketed?_append_blank blank]
  cases below with
  | nil => rfl
  | cons next more =>
    rw [join_cons]
    exact bracketed?_append_blank (List.forall_mem_singleton.mpr (by decide)) _

/-- Brackets are read at the front of the first line that has more than white space. -/
theorem bracketed?_join_iff (clean : ∀ line ∈ found, '\n' ∉ line) :
    bracketed? (join ['\n'] found) = some items ↔ Bracketed found items := by
  induction found with
  | nil =>
    constructor
    · intro read
      contradiction
    · intro read
      cases read
  | cons line below ih =>
    by_cases blank : ∀ c ∈ line, isBlank c = true
    · rw [bracketed?_join_blank blank,
        ih fun other listed => clean other (List.mem_cons_of_mem line listed)]
      constructor
      · exact Bracketed.blank blank
      · intro read
        cases read with
        | opens opens => exact absurd opens (not_opens_of_blank blank)
        | blank _ read => exact read
    · rw [join_cons,
        bracketed?_append_iff (clean line List.mem_cons_self) blank (lines_apart below)]
      constructor
      · exact Bracketed.opens
      · intro read
        cases read with
        | opens opens => exact opens
        | blank white _ => exact absurd white blank

/-! ## Lines -/

/-- The search for a declaration leaves the rest of a line out. -/
theorem inlineFrom?_skip (clean : '\n' ∉ line) (tail : Text) :
    inlineFrom? false (line ++ tail) = inlineFrom? false tail := by
  induction line with
  | nil => rfl
  | cons c rest ih =>
    rw [List.mem_cons, not_or] at clean
    have other : decide (c = '\n') = false := decide_eq_false (Ne.symm clean.1)
    rw [List.cons_append, inlineFrom?, other]
    exact ih clean.2

/-- A declaration is looked for at the front of a line, and else from the next line on. -/
theorem inlineFrom?_append (clean : '\n' ∉ line) (apart : tail = [] ∨ tail.head? = some '\n') :
    inlineFrom? true (line ++ tail) =
      ((after? word (line ++ tail)).bind bracketed?).or (inlineFrom? false tail) := by
  cases line with
  | nil =>
    rcases apart with rfl | begins
    · rfl
    · obtain ⟨rest, rfl⟩ := List.head?_eq_some_iff.mp begins
      rfl
  | cons c rest =>
    rw [List.mem_cons, not_or] at clean
    have other : decide (c = '\n') = false := decide_eq_false (Ne.symm clean.1)
    rw [List.cons_append, inlineFrom?, other, inlineFrom?_skip clean.2]
    rfl

/-- A declaration is looked for on the first line and those below it, and else from the next line
on. -/
theorem inlineFrom?_join (clean : '\n' ∉ line) (below : List Text) :
    inlineFrom? true (join ['\n'] (line :: below)) =
      ((after? word (join ['\n'] (line :: below))).bind bracketed?).or
        (inlineFrom? true (join ['\n'] below)) := by
  have next : inlineFrom? false (below.flatMap ('\n' :: ·)) =
      inlineFrom? true (join ['\n'] below) := by
    cases below with
    | nil => rfl
    | cons next more =>
      rw [join_cons]
      rfl
  rw [join_cons, inlineFrom?_append clean (lines_apart below), next]

/-- The word in front of some lines stands in front of the first of them. -/
theorem after?_join_eq_some_iff {rest : Text} (clean : ∀ other ∈ line :: below, '\n' ∉ other) :
    after? word (join ['\n'] (line :: below)) = some rest ↔
      ∃ tail, line = word ++ tail ∧ rest = join ['\n'] (tail :: below) := by
  rw [after?_eq_some_iff]
  constructor
  · intro begins
    have foreign : '\n' ∉ word := by decide
    obtain ⟨tail, others, parts, whole⟩ := exists_splitAt_append foreign rest
    rw [← begins, splitAt_join (List.cons_ne_nil _ _) clean] at whole
    obtain ⟨rfl, rfl⟩ := List.cons.inj whole
    exact ⟨tail, rfl, by rw [← parts, join_splitAt]⟩
  · rintro ⟨tail, rfl, rfl⟩
    rw [join_cons, join_cons, List.append_assoc]

/-- Items are read behind the word in front of a line if it declares them or continues. -/
theorem read_join_iff (clean : ∀ other ∈ line :: below, '\n' ∉ other) :
    (after? word (join ['\n'] (line :: below))).bind bracketed? = some items ↔
      Declares line items ∨ Continues line below items := by
  rw [Option.bind_eq_some_iff]
  have without {tail : Text} (parts : line = word ++ tail) :
      ∀ other ∈ tail :: below, '\n' ∉ other := by
    intro other listed
    rcases List.mem_cons.mp listed with rfl | later
    · have whole := clean line List.mem_cons_self
      rw [parts] at whole
      exact fun inside => whole (List.mem_append_right _ inside)
    · exact clean other (List.mem_cons_of_mem _ later)
  constructor
  · rintro ⟨rest, begins, read⟩
    obtain ⟨tail, parts, rfl⟩ := (after?_join_eq_some_iff clean).mp begins
    cases (bracketed?_join_iff (without parts)).mp read with
    | opens opens => exact Or.inl ⟨tail, parts, opens⟩
    | blank blank read => exact Or.inr ⟨tail, parts, blank, read⟩
  · intro reads
    have behind {tail : Text} (parts : line = word ++ tail)
        (read : Bracketed (tail :: below) items) :
        ∃ rest, after? word (join ['\n'] (line :: below)) = some rest ∧
          bracketed? rest = some items :=
      ⟨_, (after?_join_eq_some_iff clean).mpr ⟨tail, parts, rfl⟩,
        (bracketed?_join_iff (without parts)).mpr read⟩
    rcases reads with ⟨tail, parts, opens⟩ | ⟨tail, parts, blank, read⟩
    · exact behind parts (Bracketed.opens opens)
    · exact behind parts (Bracketed.blank blank read)

/-- No word stands alone above brackets where nothing is below it. -/
theorem not_continues_nil : ¬ Continues line [] items := by
  rintro ⟨tail, -, -, read⟩
  cases read

/-- No word stands alone above brackets on a single line. -/
theorem single_singleton (line : Text) : Single [line] := by
  intro front other below shape items
  cases front with
  | nil =>
    obtain ⟨-, rfl⟩ := List.cons.inj shape
    exact not_continues_nil
  | cons first front => simp at shape

/-- What a line taken alone declares is read from it. -/
theorem declares_iff (clean : '\n' ∉ line) :
    Declares line items ↔ (after? word line).bind bracketed? = some items := by
  have alone : (after? word (join ['\n'] [line])).bind bracketed? = some items ↔
      Declares line items ∨ Continues line [] items :=
    read_join_iff (List.forall_mem_singleton.mpr clean)
  have nothing : ¬ Continues line [] items := not_continues_nil
  rw [join, or_iff_left nothing] at alone
  exact alone.symm

/-- A line from which nothing is read when it is taken alone declares nothing. -/
theorem not_declares_of_unread (clean : '\n' ∉ line)
    (unread : (after? word line).bind bracketed? = none) : ¬ Declares line items := by
  rw [declares_iff clean, unread]
  exact Option.some_ne_none items ∘ Eq.symm

/-- The brackets that are found are those of the first line that declares items. -/
theorem inlineFrom?_join_iff (clean : ∀ line ∈ found, '\n' ∉ line) :
    inlineFrom? true (join ['\n'] found) = some items ↔ First found items := by
  induction found with
  | nil =>
    constructor
    · intro read
      contradiction
    · intro first
      cases first
  | cons line below ih =>
    have later := ih fun other listed => clean other (List.mem_cons_of_mem line listed)
    rw [inlineFrom?_join (clean line List.mem_cons_self), Option.or_eq_some_iff]
    constructor
    · rintro (here | ⟨none, read⟩)
      · rcases (read_join_iff clean).mp here with declares | continues
        · exact First.declares declares
        · exact First.continues continues
      · have unread (other : Text) : ¬ (Declares line other ∨ Continues line below other) := by
          rw [← read_join_iff clean, none]
          exact Option.some_ne_none other ∘ Eq.symm
        exact First.later (fun other declares => unread other (Or.inl declares))
          (fun other continues => unread other (Or.inr continues)) (later.mp read)
    · intro first
      cases first with
      | declares declares => exact Or.inl ((read_join_iff clean).mpr (Or.inl declares))
      | continues continues => exact Or.inl ((read_join_iff clean).mpr (Or.inr continues))
      | later undeclared uncontinued first =>
        refine Or.inr ⟨Option.eq_none_iff_forall_ne_some.mpr fun other read => ?_, later.mpr first⟩
        rcases (read_join_iff clean).mp read with declares | continues
        · exact undeclared other declares
        · exact uncontinued other continues

/-- The brackets that are found in a text are those of its first line that declares items. -/
theorem inlineFrom?_eq_some_iff :
    inlineFrom? true text = some items ↔ First (splitAt '\n' text) items := by
  have clean : ∀ line ∈ splitAt '\n' text, '\n' ∉ line := fun line => not_mem_of_mem_splitAt
  rw [← inlineFrom?_join_iff clean, join_splitAt]

/-! ## The first declaration -/

/-- The items of the first line that declares some. -/
theorem inlineItems_of_first (first : First (splitAt '\n' text) items) :
    inlineItems text = entries items := by
  rw [inlineItems, inlineFrom?_eq_some_iff.mpr first]
  rfl

/-- There are no items where no line declares any. -/
theorem inlineItems_eq_nil (undeclared : ∀ items, ¬ First (splitAt '\n' text) items) :
    inlineItems text = [] := by
  have none : inlineFrom? true text = none := Option.eq_none_iff_forall_ne_some.mpr
    fun items read => undeclared items (inlineFrom?_eq_some_iff.mp read)
  rw [inlineItems, none]

/-- Where items are declared, some line declares them. -/
theorem First.exists_line (first : First found items) :
    ∃ front line below, found = front ++ line :: below ∧
      (Declares line items ∨ Continues line below items) := by
  induction first with
  | declares declares => exact ⟨[], _, _, rfl, Or.inl declares⟩
  | continues continues => exact ⟨[], _, _, rfl, Or.inr continues⟩
  | later _ _ _ ih =>
    obtain ⟨front, line, below, rfl, reads⟩ := ih
    exact ⟨_ :: front, line, below, rfl, reads⟩

/-- A line with the word in front does not open, and is not white space. -/
theorem Declares.inked {other : Text} (declares : Declares line other) :
    (∀ items, ¬ Opens line items) ∧ ¬ ∀ c ∈ line, isBlank c = true := by
  obtain ⟨tail, rfl, -⟩ := declares
  have start : (word ++ tail).head? = some 'b' := rfl
  constructor
  · rintro items ⟨indent, after, shape, blank, -⟩
    rw [shape] at start
    cases indent with
    | nil => exact absurd (Option.some.inj start) (by decide)
    | cons c indent =>
      obtain rfl : c = 'b' := Option.some.inj start
      exact absurd (blank 'b' List.mem_cons_self) (by decide)
  · intro blank
    exact absurd (blank 'b' (List.mem_of_mem_head? start)) (by decide)

/-- Brackets that stand first are above every line that declares something. -/
theorem Bracketed.above {other : Text} (declares : Declares line other)
    (read : Bracketed (before ++ line :: below) items) : Bracketed before items := by
  induction before with
  | nil =>
    cases read with
    | opens opens => exact absurd opens (declares.inked.1 items)
    | blank blank _ => exact absurd blank declares.inked.2
  | cons first before ih =>
    cases read with
    | opens opens => exact Bracketed.opens opens
    | blank blank read => exact Bracketed.blank blank (ih read)

/-- Below lines that declare nothing, and on which no word stands alone above brackets, a line that
declares items is the first one. -/
theorem Declares.first (declares : Declares line items) (single : Single before)
    (undeclared : ∀ other ∈ before, ∀ found, ¬ Declares other found) (below : List Text) :
    First (before ++ line :: below) items := by
  induction before with
  | nil => exact First.declares declares
  | cons other before ih =>
    -- Brackets that a word above takes stand above the declaring line, so among `before`.
    have uncontinued : ∀ found, ¬ Continues other (before ++ line :: below) found := by
      rintro found ⟨tail, parts, blank, read⟩
      exact single [] other before rfl found ⟨tail, parts, blank, read.above declares⟩
    have rest : Single before := by
      rintro front line below rfl
      exact single (other :: front) line below rfl
    exact First.later (undeclared other List.mem_cons_self) uncontinued
      (ih rest fun line listed => undeclared line (List.mem_cons_of_mem other listed))

end Declaration

/-! ## What a discovery makes of it -/

namespace Discovery

open Text Declaration

variable {settings : Settings} {surroundings : Surroundings} {host : Host} {text : Text}

/-- No line of a document declares sources, so what is found and reported comes from the other
rules. -/
structure Undeclared (settings : Settings) (surroundings : Surroundings) (host : Host)
    (text : Text) : Prop where
  /-- There are no items. -/
  items : inlineItems text = []
  /-- There are no candidates. -/
  candidates : inlineCandidates surroundings text = []
  /-- The sources and reports are those of the candidates of the other rules. -/
  account : Accounted host
    (frontMatterCandidates surroundings text ++ rootCandidates settings surroundings host ++
      defaultCandidates settings surroundings)
    (discover settings surroundings host text).1 (discover settings surroundings host text).2

/-- Where there are no items, the other rules account for everything. -/
theorem undeclared_of_items (nothing : inlineItems text = []) :
    Undeclared settings surroundings host text := by
  have none : inlineCandidates surroundings text = [] := by
    rw [inlineCandidates, nothing, List.map_nil]
  have others : Discovery.candidates settings surroundings host text =
      frontMatterCandidates surroundings text ++ rootCandidates settings surroundings host ++
        defaultCandidates settings surroundings := by
    rw [Discovery.candidates, none, List.nil_append]
  refine ⟨nothing, none, ?_⟩
  rw [← others]
  exact accounted_probed host _

/-- The first line that declares items, by brackets on it or below it, decides the items of a
document. So they are those of the first line with brackets of its own where no word above it
stands alone above brackets; and where no line has brackets of its own and no word stands alone
above brackets, there are no items, no candidates, and no source or report because of any. -/
theorem inlineItems_exact (settings : Settings) (surroundings : Surroundings) (host : Host)
    (text : Text) :
    (∀ items, First (splitAt '\n' text) items → inlineItems text = entries items) ∧
    ((∀ items, ¬ First (splitAt '\n' text) items) →
      Undeclared settings surroundings host text) ∧
    (∀ before line below items, splitAt '\n' text = before ++ line :: below →
      Declares line items → (∀ other ∈ before, ∀ found, ¬ Declares other found) →
      Single before → inlineItems text = entries items) ∧
    ((∀ line ∈ splitAt '\n' text, ∀ items, ¬ Declares line items) →
      Single (splitAt '\n' text) → Undeclared settings surroundings host text) := by
  refine ⟨fun items => inlineItems_of_first, ?_, ?_, ?_⟩
  · intro undeclared
    exact undeclared_of_items (inlineItems_eq_nil undeclared)
  · intro before line below items lines declares undeclared single
    exact inlineItems_of_first (lines ▸ declares.first single undeclared below)
  · intro undeclared single
    refine undeclared_of_items (inlineItems_eq_nil fun items first => ?_)
    obtain ⟨front, line, below, lines, declares | continues⟩ := first.exists_line
    · have listed : line ∈ splitAt '\n' text :=
        lines ▸ List.mem_append_right front List.mem_cons_self
      exact undeclared line listed items declares
    · exact single front line below lines items continues

/-- Below a line with the word but no brackets, the next line with both declares its items, and the
brackets below it do not matter. -/
theorem inlineItems_exact_second :
    inlineItems "bibliography: none\nbibliography: [a.bib, 'b.bib', ]\n[c]".toList =
      ["a.bib".toList, "b.bib".toList] := by
  have undeclared : ∀ other ∈ ["bibliography: none".toList], ∀ found, ¬ Declares other found := by
    intro other listed found
    obtain rfl := List.mem_singleton.mp listed
    exact not_declares_of_unread (by decide) (by decide)
  exact (inlineItems_exact {} ⟨⟨[]⟩, none, none⟩ (Memory.mk [] [] [] []).host
    "bibliography: none\nbibliography: [a.bib, 'b.bib', ]\n[c]".toList).2.2.1
    ["bibliography: none".toList] "bibliography: [a.bib, 'b.bib', ]".toList ["[c]".toList]
    "a.bib, 'b.bib', ".toList (by decide) ((declares_iff (by decide)).mpr (by decide)) undeclared
    (single_singleton _)

/-- The word stands alone on its line, so no line of the text declares anything, and yet the text
in the brackets of the link below it is a candidate and is reported. -/
theorem inlineItems_wrapped :
    let text := "bibliography:\n[notes](n.md)".toList
    (∀ line ∈ splitAt '\n' text, ∀ items, ¬ Declares line items) ∧
      inlineItems text = ["notes".toList] ∧
      (discover {} ⟨⟨"/".toList⟩, some ⟨"/w".toList⟩, none⟩ (Memory.mk [] [] [] []).host text).2 =
        [.notFound ⟨"/w/notes".toList⟩] := by
  refine ⟨?_, by decide, by decide⟩
  have unread : ∀ line ∈ ["bibliography:".toList, "[notes](n.md)".toList],
      (after? word line).bind bracketed? = none := by decide
  exact fun line listed items =>
    not_declares_of_unread (not_mem_of_mem_splitAt listed) (unread line listed)

end Discovery

end Citations
