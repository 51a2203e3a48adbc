import Citations.Discovery.Declaration
import Citations.Proofs.Text.Lines

/-!
# What front matter holds

Front matter is what stands between the first line of a document, which begins with three hyphens,
and the next line that is three hyphens and white space (`Enclosed`). It is found exactly where
there are two such lines, and it is the lines between them. In a document that is put together from
a first line, a text and a closing line, that text comes back unless one of its lines would end it
or has a carriage return to lose (`FrontMatterDocument`).
-/
namespace Citations

namespace Declaration

open Text

variable {text body : Text}

/-- Front matter and what stands around it. -/
structure Enclosed (text : Text) where
  /-- The white space at the front of the document. -/
  lead : Text
  /-- The document without it. -/
  content : Text
  /-- The first line. -/
  first : Text
  /-- The lines of the front matter. -/
  inner : List Text
  /-- The line that ends it. -/
  closing : Text
  /-- The lines after it. -/
  rest : List Text
  /-- The document is the white space and the rest. -/
  text_eq : text = lead ++ content
  /-- The white space is nothing else. -/
  blank : ∀ c ∈ lead, isBlank c = true
  /-- The first line begins with the hyphens. -/
  begins : rule <+: content
  /-- The lines are the first one, those of the front matter, the closing one and the others. -/
  lines_eq : lines content = first :: (inner ++ closing :: rest)
  /-- No line of the front matter is a rule. -/
  ruleless : ∀ line ∈ inner, trim line ≠ rule
  /-- The closing line is a rule. -/
  closed : trim closing = rule

/-! ## The closing line -/

/-- The lines before a rule are found up to the first line that is one. -/
theorem beforeRule?_eq_some_iff {found inner : List Text} :
    beforeRule? found = some inner ↔
      ∃ closing rest, found = inner ++ closing :: rest ∧ trim closing = rule ∧
        ∀ line ∈ inner, trim line ≠ rule := by
  induction found generalizing inner with
  | nil => simp [beforeRule?]
  | cons line later ih =>
    rw [beforeRule?]
    by_cases closes : trim line = rule
    · rw [if_pos closes, Option.some.injEq]
      constructor
      · rintro rfl
        exact ⟨line, later, rfl, closes, by simp⟩
      · rintro ⟨closing, rest, shape, -, ruleless⟩
        cases inner with
        | nil => rfl
        | cons other inner =>
          obtain ⟨rfl, -⟩ := List.cons.inj shape
          exact absurd closes (ruleless _ List.mem_cons_self)
    · rw [if_neg closes, Option.map_eq_some_iff]
      constructor
      · rintro ⟨before, found, rfl⟩
        obtain ⟨closing, rest, rfl, closed, ruleless⟩ := ih.mp found
        refine ⟨closing, rest, rfl, closed, fun other listed => ?_⟩
        rcases List.mem_cons.mp listed with rfl | inside
        · exact closes
        · exact ruleless other inside
      · rintro ⟨closing, rest, shape, closed, ruleless⟩
        cases inner with
        | nil =>
          obtain ⟨rfl, -⟩ := List.cons.inj shape
          exact absurd closed closes
        | cons other inner =>
          obtain ⟨rfl, rfl⟩ := List.cons.inj shape
          exact ⟨inner, ih.mpr ⟨closing, rest, rfl, closed, fun line listed =>
            ruleless line (List.mem_cons_of_mem _ listed)⟩, rfl⟩

/-- There is nothing before a rule where no line is one. -/
theorem beforeRule?_eq_none_iff {found : List Text} :
    beforeRule? found = none ↔ ∀ line ∈ found, trim line ≠ rule := by
  induction found with
  | nil => simp [beforeRule?]
  | cons line later ih =>
    rw [beforeRule?, List.forall_mem_cons, ← ih]
    by_cases closes : trim line = rule <;> simp [closes]

/-! ## The front matter of a document -/

/-- A document has front matter if it begins with the hyphens, white space aside. -/
theorem hasFrontMatter_iff : hasFrontMatter text = true ↔ rule <+: trimStart text :=
  beginsWith_iff

/-- A text that begins with the hyphens does not begin with white space. -/
theorem inked_of_begins (begins : rule <+: text) : ∀ c ∈ text.head?, isBlank c = false := by
  obtain ⟨rest, rfl⟩ := begins
  intro c first
  obtain rfl : '-' = c := Option.some.inj first
  decide

/-- Front matter is what is enclosed. -/
theorem frontMatter?_eq_some_iff :
    frontMatter? text = some body ↔ ∃ shape : Enclosed text, body = join ['\n'] shape.inner := by
  unfold frontMatter?
  constructor
  · intro found
    split at found
    · next begins =>
      obtain ⟨inner, before, rfl⟩ := Option.map_eq_some_iff.mp found
      obtain ⟨closing, rest, shape, closed, ruleless⟩ := beforeRule?_eq_some_iff.mp before
      cases all : lines (trimStart text) with
      | nil =>
        rw [all] at shape
        simp at shape
      | cons first later =>
        rw [all, List.tail_cons] at shape
        exact ⟨{
          lead := text.takeWhile isBlank
          content := trimStart text
          first := first
          inner := inner
          closing := closing
          rest := rest
          text_eq := List.takeWhile_append_dropWhile.symm
          blank := fun _ listed => List.mem_takeWhile_imp listed
          begins := hasFrontMatter_iff.mp begins
          lines_eq := by rw [all, shape]
          ruleless := ruleless
          closed := closed }, rfl⟩
    · contradiction
  · rintro ⟨shape, rfl⟩
    have content := trimStart_append shape.blank (inked_of_begins shape.begins)
    rw [← shape.text_eq] at content
    have has : hasFrontMatter text = true := hasFrontMatter_iff.mpr (content ▸ shape.begins)
    have before : beforeRule? (lines (trimStart text)).tail = some shape.inner := by
      rw [content, shape.lines_eq, List.tail_cons]
      exact beforeRule?_eq_some_iff.mpr ⟨shape.closing, shape.rest, rfl, shape.closed,
        shape.ruleless⟩
    rw [if_pos has, before, Option.map_some]

/-- There is no front matter without the hyphens in front or without a line that ends it. -/
theorem frontMatter?_eq_none_iff :
    frontMatter? text = none ↔ hasFrontMatter text = false ∨
      ∀ line ∈ (lines (trimStart text)).tail, trim line ≠ rule := by
  rw [← beforeRule?_eq_none_iff]
  unfold frontMatter?
  cases hasFrontMatter text <;> simp

/-- Cut at its line feeds, front matter has no line that is a rule. -/
theorem Enclosed.ruleless_body (shape : Enclosed text) :
    ∀ line ∈ splitAt '\n' (join ['\n'] shape.inner), trim line ≠ rule := by
  intro line listed
  cases empty : shape.inner with
  | nil =>
    rw [empty] at listed
    obtain rfl := List.mem_singleton.mp listed
    decide
  | cons first rest =>
    have clean : ∀ line ∈ shape.inner, '\n' ∉ line := by
      intro line inside
      have part : line ∈ lines shape.content := by
        rw [shape.lines_eq]
        exact List.mem_cons_of_mem _ (List.mem_append_left _ inside)
      exact lineFeed_notMem_lines part
    rw [splitAt_join (by simp [empty]) clean] at listed
    exact shape.ruleless line listed

end Declaration

/-! ## Documents with front matter -/

/-- A document with front matter, put together from its parts. -/
structure FrontMatterDocument where
  /-- White space at the front. -/
  lead : Text
  /-- What stands after the hyphens on the first line. -/
  opening : Text
  /-- The front matter. -/
  body : Text
  /-- What stands before the hyphens on the closing line. -/
  before : Text
  /-- What stands after them. -/
  after : Text
  /-- What follows the closing line, with the line feed that ends it. -/
  following : Text
  /-- Nothing but white space is at the front. -/
  blank : ∀ c ∈ lead, Text.isBlank c = true
  /-- The first line has no line feed. -/
  opening_clean : '\n' ∉ opening
  /-- No line of the front matter is a rule. -/
  ruleless : ∀ line ∈ Text.splitAt '\n' body, Text.trim line ≠ Declaration.rule
  /-- No line of the front matter ends in a carriage return. -/
  returnless : ∀ line ∈ Text.splitAt '\n' body, line.getLast? ≠ some '\r'
  /-- The closing line begins with white space and no line feed. -/
  before_blank : ∀ c ∈ before, Text.isBlank c = true ∧ c ≠ '\n'
  /-- The closing line ends with white space and no line feed. -/
  after_blank : ∀ c ∈ after, Text.isBlank c = true ∧ c ≠ '\n'
  /-- The closing line ends the document, or a line feed follows it. -/
  ended : following = [] ∨ following.head? = some '\n'

namespace FrontMatterDocument

open Text Declaration

/-- The closing line. -/
def closing (document : FrontMatterDocument) : Text := document.before ++ (rule ++ document.after)

/-- The document without the white space at its front. -/
def content (document : FrontMatterDocument) : Text :=
  rule ++ document.opening ++ '\n' :: (document.body ++ '\n' ::
    (document.closing ++ document.following))

/-- The text of the document. -/
def text (document : FrontMatterDocument) : Text := document.lead ++ document.content

/-- The closing line is a rule, also without a carriage return at its end. -/
theorem trim_closing (document : FrontMatterDocument) : trim document.closing = rule := by
  have ends : ∀ c ∈ rule.getLast?, isBlank c = false := by
    intro c last
    obtain rfl : '-' = c := Option.some.inj last
    decide
  exact trim_between (fun c listed => (document.before_blank c listed).1)
    (fun c listed => (document.after_blank c listed).1) (inked_of_begins (List.prefix_refl rule))
    ends

/-- The closing line has no line feed. -/
theorem lineFeed_notMem_closing (document : FrontMatterDocument) : '\n' ∉ document.closing := by
  intro inside
  rcases List.mem_append.mp inside with before | later
  · exact (document.before_blank '\n' before).2 rfl
  · rcases List.mem_append.mp later with hyphens | after
    · exact absurd hyphens (by decide)
    · exact (document.after_blank '\n' after).2 rfl

/-- The lines of the document are the first one, those of the front matter, and the closing one
with what follows it. -/
theorem exists_lines (document : FrontMatterDocument) :
    ∃ first closing rest, lines document.content =
        first :: (splitAt '\n' document.body ++ closing :: rest) ∧ trim closing = rule := by
  have nonempty : document.closing ≠ [] :=
    List.append_ne_nil_of_right_ne_nil _ (List.append_ne_nil_of_left_ne_nil (by decide) _)
  obtain ⟨closing, rest, closes, same⟩ :=
    exists_lines_cons nonempty document.lineFeed_notMem_closing document.ended
  have closed : trim closing = rule := by
    rcases same with rfl | rfl
    · exact document.trim_closing
    · rw [trim_dropReturn, document.trim_closing]
  have opening : '\n' ∉ rule ++ document.opening := by
    rw [List.mem_append, not_or]
    exact ⟨by decide, document.opening_clean⟩
  have body : (splitAt '\n' document.body).map dropReturn = splitAt '\n' document.body := by
    have kept : ∀ line ∈ splitAt '\n' document.body, dropReturn line = line :=
      fun line listed => if_neg (document.returnless line listed)
    rw [List.map_congr_left kept, List.map_id']
  refine ⟨dropReturn (rule ++ document.opening), closing, rest, ?_, closed⟩
  rw [content, lines_append_cons, lines_append_cons, closes, body, splitAt_of_not_mem opening]
  rfl

/-- What a document was put together from is enclosed in it. -/
theorem exists_enclosed (document : FrontMatterDocument) :
    ∃ shape : Enclosed document.text, shape.inner = splitAt '\n' document.body := by
  obtain ⟨first, closing, rest, shape, closed⟩ := document.exists_lines
  exact ⟨{
    lead := document.lead
    content := document.content
    first := first
    inner := splitAt '\n' document.body
    closing := closing
    rest := rest
    text_eq := rfl
    blank := document.blank
    begins := by
      rw [content, List.append_assoc]
      exact List.prefix_append _ _
    lines_eq := shape
    ruleless := document.ruleless
    closed := closed }, rfl⟩

end FrontMatterDocument

namespace Declaration

open Text

/-- Front matter is found exactly. A document that is put together around a text gives that text,
whatever stands before, on the first line and after the closing line. What is found in any document
is enclosed in it, and no line of it is a rule; nothing is found exactly if the document does not
begin with the hyphens or no later line is a rule. -/
theorem frontMatter?_exact :
    (∀ document : FrontMatterDocument, frontMatter? document.text = some document.body) ∧
    (∀ text body, frontMatter? text = some body ↔
      ∃ shape : Enclosed text, body = join ['\n'] shape.inner) ∧
    (∀ text body, frontMatter? text = some body →
      ∀ line ∈ splitAt '\n' body, trim line ≠ rule) ∧
    ∀ text, frontMatter? text = none ↔ hasFrontMatter text = false ∨
      ∀ line ∈ (lines (trimStart text)).tail, trim line ≠ rule := by
  refine ⟨?_, fun text body => frontMatter?_eq_some_iff, ?_, fun text => frontMatter?_eq_none_iff⟩
  · intro document
    obtain ⟨shape, inner⟩ := document.exists_enclosed
    have body : document.body = join ['\n'] shape.inner := by rw [inner, join_splitAt]
    exact frontMatter?_eq_some_iff.mpr ⟨shape, body⟩
  · intro text body found
    obtain ⟨shape, rfl⟩ := frontMatter?_eq_some_iff.mp found
    exact shape.ruleless_body

/-- A document with white space in front of and around its rules, and with a line of hyphens and
more in its front matter. -/
def paddedDocument : FrontMatterDocument where
  lead := " \n".toList
  opening := " x".toList
  body := "a: b\n--- c\n".toList
  before := ['\t']
  after := ['\r']
  following := "\n---\n".toList
  blank := List.all_eq_true.mp (by decide)
  opening_clean := by decide
  ruleless := by decide
  returnless := by decide
  before_blank := List.forall_mem_singleton.mpr (by decide)
  after_blank := List.forall_mem_singleton.mpr (by decide)
  ended := Or.inr rfl

/-- The front matter of that document is its body. -/
theorem frontMatter?_exact_padded :
    frontMatter? " \n--- x\na: b\n--- c\n\n\t---\r\n---\n".toList =
      some "a: b\n--- c\n".toList :=
  frontMatter?_exact.1 paddedDocument

end Declaration

end Citations
