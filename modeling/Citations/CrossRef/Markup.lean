import Citations.Text.Blank
import Citations.Text.Word
import Citations.CrossRef.Kind

/-!
# Markup on one line

A labelled element carries an attribute block such as `{#fig:cat}`. The recognisers here find
such a block on a line, and the markup that confirms its kind: an image, a heading, a caption,
a code fence or the end of a displayed equation. Where the markup leaves a choice, labels,
images and quoted captions reach as far to the right as they can, headings and captions end at
the first block that could hold their label.
-/
namespace Citations.Markup

/-- The kind, the label and the rest of a text that starts with `#kind:label`. -/
def labelHere? (text : Text) : Option (LabelKind × Text) := do
  let (kind, rest) ← LabelKind.all.findSome? fun kind =>
    (Text.after? ('#' :: kind.tag ++ [':']) text).map (kind, ·)
  let label := rest.takeWhile Text.isLabel
  if label ≠ [] ∧ '\x7d' ∈ rest.dropWhile Text.isLabel then some (kind, label) else none

/-- The last label in a text. -/
def lastLabel? : Text → Option (LabelKind × Text)
  | [] => none
  | c :: rest => (lastLabel? rest).or (labelHere? (c :: rest))

/-- The label of a line: the last one with an opening brace before it and a closing brace
after it. -/
def label? (line : Text) : Option (LabelKind × Text) := lastLabel? (line.dropWhile (· ≠ '\x7b'))

/-- The caption and the target of an image that an attribute block follows. -/
def image? (line : Text) : Option (Text × Text) := do
  let stop ← Text.findLast? ")\x7b".toList line
  let middle ← Text.findLast? "](".toList (line.take (stop - 1))
  let start ← Text.find? "![".toList (line.take middle)
  some ((line.take middle).drop (start + 2), (line.take stop).drop (middle + 2))

/-- Whether an attribute block for one of some kinds begins here. -/
def opensFor (kinds : List LabelKind) : Text → Bool
  | [] => false
  | c :: rest =>
    let inside := rest.takeWhile fun c => c ≠ '\x7b' && c ≠ '\x7d'
    c = '\x7b' && kinds.any fun kind => Text.contains ('#' :: kind.tag ++ [':']) inside

/-- The text before the first attribute block for one of some kinds. -/
def beforeBlock? (kinds : List LabelKind) : Text → Option Text
  | [] => none
  | c :: rest =>
    if opensFor kinds (c :: rest) then some [] else (beforeBlock? kinds rest).map (c :: ·)

/-- The text of a heading: what stands between its number signs and the attribute block. -/
def heading? (line : Text) : Option Text :=
  let marked := (Text.trimStart line).dropWhile (· = '#')
  (beforeBlock? [.section] (Text.trimStart marked)).map Text.trimEnd

/-- The text of a caption: what stands between the first colon and the attribute block. -/
def caption? (line : Text) : Option Text :=
  match line.dropWhile (· ≠ ':') with
  | [] => none
  | _ :: rest => (beforeBlock? [.table, .listing] (Text.trimStart rest)).map Text.trimEnd

/-- Three back quotes. -/
def fence : Text := ['\x60', '\x60', '\x60']

/-- Whether a line has a code fence and an opening brace after it. -/
def hasFence (line : Text) : Bool :=
  match Text.find? fence line with
  | none => false
  | some start => (line.drop (start + 3)).contains '\x7b'

/-- The last class in an attribute block. -/
def lastClass? : Text → Option Text
  | [] => none
  | c :: rest =>
    let name := rest.takeWhile Text.isWord
    (lastClass? rest).or
      (if c = '.' ∧ name ≠ [] ∧ '\x7d' ∈ rest.dropWhile Text.isWord then some name else none)

/-- The language of a fenced listing. -/
def language? (line : Text) : Option Text := lastClass? (line.dropWhile (· ≠ '\x7b'))

/-- The text without what follows its last quote that a closing brace follows, and without that
quote. -/
def beforeLastQuote? : Text → Option Text
  | [] => none
  | c :: rest =>
    match beforeLastQuote? rest with
    | some before => some (c :: before)
    | none => if c = '"' ∧ '\x7d' ∈ rest then some [] else none

/-- What follows the last caption attribute that something follows. -/
def lastCaption? : Text → Option Text
  | [] => none
  | c :: rest =>
    (lastCaption? rest).or
      ((Text.after? "caption=\"".toList (c :: rest)).filter (· ≠ []))

/-- The caption that a fenced listing is given as an attribute. -/
def quotedCaption? (line : Text) : Option Text := do
  let before ← beforeLastQuote? (line.dropWhile (· ≠ '\x7b'))
  lastCaption? before

/-- The place where a displayed equation ends: two dollar signs before an opening brace. -/
def equationEnd? : Text → Option Nat
  | [] => none
  | c :: rest =>
    let closes := match Text.after? "$$".toList (c :: rest) with
      | none => false
      | some after => (Text.trimStart after).head? = some '\x7b'
    if closes then some 0 else (equationEnd? rest).map (· + 1)

end Citations.Markup
