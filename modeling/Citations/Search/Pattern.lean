import Citations.Search.Score

/-!
# Search patterns

A query is a list of atoms with white space between them, all of which have to match. An atom
matches where its characters appear in order; a quote in front asks for them without gaps, a
caret for the start of the text, a dollar sign at the end for its end, and both for the whole
text. An exclamation mark turns the atom into its opposite. A backslash takes the meaning from
any of these and from a blank. Capital letters in an atom make case matter, and accents make
accents matter.
-/
namespace Citations.Search

/-- How an atom matches. -/
inductive AtomKind where
  /-- Its characters appear in order. -/
  | scattered
  /-- It appears without gaps. -/
  | contiguous
  /-- The text begins with it. -/
  | atStart
  /-- The text ends with it. -/
  | atEnd
  /-- The text is it. -/
  | whole
  deriving DecidableEq, Repr

/-- One condition of a query. -/
structure Atom where
  /-- How it matches. -/
  kind : AtomKind
  /-- What it looks for. -/
  needle : Subject
  /-- Whether it must not match. -/
  isNegated : Bool
  /-- What makes no difference. -/
  leniency : Leniency
  deriving DecidableEq, Repr

/-- Cut a query at white space that no backslash precedes. -/
def splitQuery (isEscaped : Bool) : Text → List Text
  | [] => [[]]
  | c :: rest =>
    if Text.isBlank c && !isEscaped then [] :: splitQuery false rest
    else Text.consHead c (splitQuery (c = '\\') rest)

/-- Take the backslashes from before spaces in an ASCII text. -/
def unescapeAscii : Text → Text
  | '\\' :: ' ' :: rest => ' ' :: unescapeAscii rest
  | c :: rest => c :: unescapeAscii rest
  | [] => []

/-- Write the characters of another text out: a backslash that no space follows is written
twice. -/
def unescapeWide (isEscaped : Bool) : Text → Text
  | [] => []
  | c :: rest =>
    if isEscaped && c = ' ' then ' ' :: unescapeWide false rest
    else (if isEscaped then ['\\', c] else [c]) ++ unescapeWide (c = '\\') rest

/-- What an atom looks for, and what makes no difference to it. `ending` is added as it is. -/
def needleOf (text ending : Text) : Subject × Leniency :=
  if text.all (·.toNat < 128) then
    (⟨true, unescapeAscii text ++ ending⟩, ⟨!text.any Char.isUpper, true⟩)
  else
    let chars := Text.clusterHeads text
    (⟨false, unescapeWide false chars ++ ending⟩,
      ⟨!chars.any Text.isFolded, chars.all fun c => plain c = c⟩)

/-- Whether an atom is negated, and what follows. -/
def readNegation : Text → Bool × Text
  | '!' :: rest => (true, rest)
  | '\\' :: '!' :: rest => (false, '!' :: rest)
  | text => (false, text)

/-- How the front of an atom wants it to match, and what follows. -/
def readFront : Text → AtomKind × Text
  | '^' :: rest => (.atStart, rest)
  | '\'' :: rest => (.contiguous, rest)
  | '\\' :: '^' :: rest => (.scattered, '^' :: rest)
  | '\\' :: '\'' :: rest => (.scattered, '\'' :: rest)
  | text => (.scattered, text)

/-- How the end of an atom changes the way it matches, what comes before, and a dollar sign that
is meant as such. -/
def readEnd (kind : AtomKind) (text : Text) : AtomKind × Text × Text :=
  match text.reverse with
  | '$' :: '\\' :: before => (kind, before.reverse, ['$'])
  | '$' :: before => (if kind = .scattered then .atEnd else .whole, before.reverse, [])
  | _ => (kind, text, [])

/-- The atom that a word of a query writes. -/
def Atom.ofText (text : Text) : Atom :=
  let (isNegated, rest) := readNegation text
  let (front, rest) := readFront rest
  let (kind, text, ending) := readEnd front rest
  let (needle, leniency) := needleOf text ending
  let kind := if isNegated && kind = .scattered then .contiguous else kind
  ⟨kind, needle, isNegated, leniency⟩

/-- The atoms of a query; those that look for nothing are left out. -/
def atoms (query : Text) : List Atom :=
  ((splitQuery false query).map Atom.ofText).filter (·.needle.chars ≠ [])

/-- The position of the first character with a form. -/
def position? (wanted : Char) (forms : Text) : Option Nat := forms.findIdx? (· = wanted)

/-- The position after the last character with a form. -/
def lastPosition? (wanted : Char) (forms : Text) : Option Nat :=
  (forms.reverse.findIdx? (· = wanted)).map (forms.length - ·)

/-- The position after the characters of a query, each taken as early as possible. -/
def earliestEnd? : (query forms : Text) → Option Nat
  | [], _ => some 0
  | _ :: _, [] => none
  | wanted :: later, c :: forms =>
    (if c = wanted then earliestEnd? later forms else earliestEnd? (wanted :: later) forms).map
      (· + 1)

/-- The number of characters that the query leaves unused at the front when it is taken from the
end, each character as late as possible. -/
def latestStart (query forms : Text) : Nat :=
  forms.length - ((earliestEnd? query.reverse forms.reverse).getD forms.length)

/-- The positions where a word appears, each after the end of the one before. -/
def occurrences (word : Text) (position skip : Nat) : Text → List Nat
  | [] => []
  | c :: rest =>
    if 0 < skip then occurrences word (position + 1) (skip - 1) rest
    else if Text.beginsWith word (c :: rest) then
      position :: occurrences word (position + 1) (word.length - 1) rest
    else occurrences word (position + 1) 0 rest

/-- A text and an atom's needle, prepared for comparison. -/
structure Comparison where
  /-- The text. -/
  subject : Subject
  /-- What is looked for. -/
  needle : Subject
  /-- What makes no difference. -/
  leniency : Leniency

namespace Comparison

/-- The characters of the text in the form in which they are compared. -/
def forms (comparison : Comparison) : Text :=
  comparison.subject.chars.map comparison.leniency.form

/-- The text with what scoring needs. -/
def marks (comparison : Comparison) : List Mark :=
  Search.marks comparison.leniency comparison.subject.chars

/-- The needle in the form in which it is compared. -/
def wanted (comparison : Comparison) : Text :=
  comparison.needle.chars.map comparison.leniency.form

/-- The number of characters looked for. -/
def size (comparison : Comparison) : Nat := comparison.needle.chars.length

/-- The number of characters of the text. -/
def length (comparison : Comparison) : Nat := comparison.subject.chars.length

/-- The score of the stretch between two positions. -/
def scoreBetween (comparison : Comparison) (start stop : Nat) : Nat :=
  stretchScore comparison.needle.chars ((comparison.marks.take stop).drop start)

/-- The score when the stretch between two positions is what is looked for. In ASCII with case
the stretch has to be all of the text. -/
def exactly? (comparison : Comparison) (start stop : Nat) : Option Nat :=
  let isBothAscii := comparison.subject.isAscii && comparison.needle.isAscii
  if comparison.size + start ≠ stop then none
  else if comparison.subject.isAscii && !comparison.needle.isAscii then none
  else if
      if isBothAscii && !comparison.leniency.ignoresCase then
        comparison.subject.chars = comparison.needle.chars
      else (comparison.forms.take stop).drop start = comparison.wanted then
    some (comparison.scoreBetween start stop)
  else none

/-- The white space at the front of the text; none when it is all white space. -/
def leadingSpace (comparison : Comparison) : Nat :=
  let isSpace := if comparison.subject.isAscii then isAsciiBlank else Text.isBlank
  (comparison.subject.chars.findIdx? fun c => !isSpace c).getD 0

/-- The white space at the end of the text; none when it is all white space. -/
def trailingSpace (comparison : Comparison) : Nat :=
  let isSpace := if comparison.subject.isAscii then isAsciiBlank else Text.isBlank
  (comparison.subject.chars.reverse.findIdx? fun c => !isSpace c).getD 0

/-- The white space at the front, unless the needle begins with some. -/
def skippedFront (comparison : Comparison) : Nat :=
  if comparison.needle.chars.head?.any Text.isBlank then 0 else comparison.leadingSpace

/-- The white space at the end, unless the needle ends with some. -/
def skippedEnd (comparison : Comparison) : Nat :=
  if comparison.needle.chars.getLast?.any Text.isBlank then 0 else comparison.trailingSpace

/-- The score when the whole text is what is looked for. -/
def whole? (comparison : Comparison) : Option Nat :=
  if comparison.skippedEnd = comparison.length then none
  else comparison.exactly? comparison.skippedFront (comparison.length - comparison.skippedEnd)

/-- The score when the text begins with what is looked for. -/
def atStart? (comparison : Comparison) : Option Nat :=
  let start := comparison.skippedFront
  if comparison.length - start < comparison.size then none
  else comparison.exactly? start (start + comparison.size)

/-- The score when the text ends with what is looked for. -/
def atEnd? (comparison : Comparison) : Option Nat :=
  let stop := comparison.length - comparison.skippedEnd
  if stop < comparison.size then none else comparison.exactly? (stop - comparison.size) stop

/-- The best of some positions for the start of a match, by the reward there; the first of
several equal ones. -/
def bestOf? (rewards : List (Nat × Nat)) : Option (Nat × Nat) :=
  rewards.foldl (fun best? next =>
    match best? with
    | none => some next
    | some best => if best.2 < next.2 then some next else some best) none

/-- The score of the best single character of an ASCII text. -/
def oneAscii? (comparison : Comparison) (wanted : Char) : Option Nat :=
  let rewards := (comparison.forms.zip comparison.marks).filterMap fun (form, mark) =>
    if form = wanted then some (0, mark.bonus) else none
  (bestOf? rewards).map fun (_, reward) => 2 * reward + matchScore

/-- The rewards of the places where the first wanted character is, from a position on. The
reward is for the kind of the last such place, or of the character before the first. -/
def rewardsFrom (comparison : Comparison) (wanted : Char) (before : CharKind) (position : Nat) :
    Text → List (Nat × Nat)
  | [] => []
  | c :: rest =>
    if comparison.leniency.scoredForm c = wanted then
      (position, bonus before (kindOf c)) ::
        comparison.rewardsFrom wanted (kindOf c) (position + 1) rest
    else comparison.rewardsFrom wanted before (position + 1) rest

/-- The kind of the character before a position. -/
def kindBefore (comparison : Comparison) (position : Nat) : CharKind :=
  if position = 0 then .blank
  else (comparison.subject.chars[position - 1]?.map kindOf).getD .blank

/-- The rewards of the places of a character between two positions of a text beyond ASCII. -/
def wideRewards (comparison : Comparison) (wanted : Char) (start stop : Nat) :
    List (Nat × Nat) :=
  comparison.rewardsFrom wanted (comparison.kindBefore start) start
    ((comparison.subject.chars.take stop).drop start)

/-- The first place that leaves room for what is looked for. -/
def firstStart? (comparison : Comparison) : Option Nat := do
  let wanted ← comparison.needle.chars.head?
  position? wanted (comparison.forms.take (comparison.length + 1 - comparison.size))

/-- The score of a single character of a text beyond ASCII. -/
def oneWide? (comparison : Comparison) (wanted : Char) : Option Nat := do
  let start ← comparison.firstStart?
  match bestOf? (comparison.wideRewards wanted start comparison.length) with
  | some (_, reward) => some (2 * reward + matchScore)
  | none => some 0

/-- The stretch that a scattered match lies in, when the text goes beyond ASCII. -/
def wideStretch? (comparison : Comparison) : Option (Nat × Nat) := do
  let start ← comparison.firstStart?
  let last ← comparison.needle.chars.getLast?
  let later ← lastPosition? last (comparison.forms.drop (start + 1))
  let stop := start + 1 + later
  if stop - start < comparison.size then none else some (start, stop)

/-- The best place for what is looked for without gaps in an ASCII text. When case makes no
difference, places are sought by the characters before the first small letter, or by that letter
when it comes first; places sought by several characters do not overlap. -/
def placeAscii? (comparison : Comparison) : Option Nat := do
  let chars := comparison.subject.chars
  let needle := comparison.needle.chars
  let fits := fun position =>
    (comparison.forms.drop position).take comparison.size = needle
  let places :=
    if comparison.leniency.ignoresCase then
      match needle.findIdx? Char.isLower with
      | some 0 =>
        (List.range (comparison.length + 1 - comparison.size)).filter fits
      | some count => (occurrences (needle.take count) 0 0 chars).filter fits
      | none => occurrences needle 0 0 chars
    else occurrences needle 0 0 chars
  let rewards := places.filterMap fun place =>
    comparison.marks[place]?.map fun mark => (place, mark.bonus)
  let (place, _) ← bestOf? rewards
  some place

/-- The best place for what is looked for without gaps in a text beyond ASCII. The last place
that would leave room is not tried. -/
def placeWide? (comparison : Comparison) : Option Nat := do
  let (start, _) ← comparison.wideStretch?
  let first ← comparison.needle.chars.head?
  let rewards := comparison.wideRewards first start (comparison.length - comparison.size)
  let fits := fun position =>
    (comparison.forms.drop (position + 1)).take (comparison.size - 1) =
      comparison.needle.chars.tail
  let (place, _) ← bestOf? (rewards.filter fun reward => fits reward.1)
  some place

/-- The score when the text holds what is looked for without gaps. -/
def contiguous? (comparison : Comparison) : Option Nat :=
  if comparison.length < comparison.size then none
  else if comparison.length = comparison.size then comparison.exactly? 0 comparison.length
  else if comparison.subject.isAscii && !comparison.needle.isAscii then none
  else
    match comparison.needle.chars with
    | [wanted] =>
      if comparison.subject.isAscii then comparison.oneAscii? wanted
      else comparison.oneWide? wanted
    | _ =>
      (if comparison.subject.isAscii then comparison.placeAscii? else comparison.placeWide?).map
        fun place => comparison.scoreBetween place (place + comparison.size)

/-- The room that finding the best score takes, in octets. -/
def room (isAscii : Bool) (stretch query : Nat) : Nat :=
  let chars := stretch * (if isAscii then 2 else 5)
  let width := stretch + 1 - query
  chars + chars % 2 + 2 * query + 4 * width + width * query

/-- Whether a stretch is short enough for the best score to be found. -/
def isFeasible (isAscii : Bool) (stretch query : Nat) : Bool :=
  stretch * query ≤ 102400 && stretch ≤ 65535 && query ≤ 2048 &&
    room isAscii stretch query ≤ 124928

/-- The score of the match that takes each character as early as possible, tightened from its
end. -/
def greedy? (comparison : Comparison) (start : Nat) : Option Nat := do
  let needle := comparison.needle.chars
  let used ← earliestEnd? needle (comparison.forms.drop start)
  let forms := (comparison.forms.drop start).take used
  some (comparison.scoreBetween (start + latestStart needle forms) (start + used))

/-- The best score of a scattered match inside a stretch. -/
def scatteredIn? (comparison : Comparison) (start stop : Nat) : Option Nat :=
  if isFeasible comparison.subject.isAscii (stop - start) comparison.size then
    bestScore? comparison.needle.chars ((comparison.marks.take stop).drop start)
  else comparison.greedy? start

/-- The score of a scattered match in an ASCII text. -/
def scatteredAscii? (comparison : Comparison) : Option Nat := do
  let start ← comparison.firstStart?
  let used ← earliestEnd? comparison.needle.chars (comparison.forms.drop start)
  let last ← comparison.needle.chars.getLast?
  let stop := start + used + (lastPosition? last (comparison.forms.drop (start + used))).getD 0
  if stop - start = comparison.size then some (comparison.scoreBetween start (start + used))
  else comparison.scatteredIn? start stop

/-- The score of a scattered match in a text beyond ASCII. -/
def scatteredWide? (comparison : Comparison) : Option Nat := do
  let (start, stop) ← comparison.wideStretch?
  if stop - start = comparison.size then comparison.exactly? start stop
  else comparison.scatteredIn? start stop

/-- The score when the characters looked for appear in order. -/
def scattered? (comparison : Comparison) : Option Nat :=
  if comparison.length < comparison.size then none
  else if comparison.length = comparison.size then comparison.exactly? 0 comparison.length
  else if comparison.subject.isAscii && !comparison.needle.isAscii then none
  else
    match comparison.needle.chars with
    | [wanted] =>
      if comparison.subject.isAscii then comparison.oneAscii? wanted
      else comparison.oneWide? wanted
    | _ =>
      if comparison.subject.isAscii then comparison.scatteredAscii?
      else comparison.scatteredWide?

/-- The score of a match of some kind. -/
def score? (comparison : Comparison) : AtomKind → Option Nat
  | .scattered => comparison.scattered?
  | .contiguous => comparison.contiguous?
  | .atStart => comparison.atStart?
  | .atEnd => comparison.atEnd?
  | .whole => comparison.whole?

end Comparison

/-- The score of an atom in a text; a negated atom scores nothing where it does not match. -/
def Atom.score? (atom : Atom) (subject : Subject) : Option Nat :=
  let found? := (⟨subject, atom.needle, atom.leniency⟩ : Comparison).score? atom.kind
  if atom.isNegated then (if found?.isSome then none else some 0) else found?

/-- The score of a list of atoms: the sum of their scores, if all match. -/
def scoreAll? (query : List Atom) (subject : Subject) : Option Nat :=
  (query.mapM (Atom.score? · subject)).map fun scores => scores.foldl (· + ·) 0

/-- The items that have a score, the highest first and equal ones in their order. -/
def ranked {α : Type} (score? : α → Option Nat) (items : List α) : List α :=
  let scored := items.filterMap fun item => (score? item).map (·, item)
  (scored.mergeSort fun left right => right.1 ≤ left.1).map (·.2)

/-- The items that match a query, best first; all of them when the query is blank. -/
def search {α : Type} (searched : α → Text) (items : List α) (query : Text) : List α :=
  if Text.isBlankText query then items
  else ranked (fun item => scoreAll? (atoms query) (.ofText (searched item))) items

end Citations.Search
