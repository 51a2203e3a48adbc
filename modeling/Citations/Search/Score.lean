import Citations.Search.Character

/-!
# Scores of matches

A match of a query in a text earns 16 for each character, a reward where it begins a word or
continues a run, and loses 3 where a gap begins and 1 for each further character of the gap. A
score never falls below zero. The score of a stretch of text goes through it once; the best score
of all ways to spread a query over a stretch is found row by row, one row for each character of
the query.
-/
namespace Citations.Search

/-- A character of a text with what scoring needs. -/
structure Mark where
  /-- The form in which it is compared. -/
  form : Char
  /-- The reward for a match at it. -/
  bonus : Nat
  deriving DecidableEq, Repr

/-- What a matched character earns. -/
def matchScore : Nat := 16

/-- What a continued run earns at least. -/
def runBonus : Nat := 4

/-- The reward from which on a place counts as the start of a word. -/
def wordBonus : Nat := 8

/-- The marks of a text after a character of some kind. -/
def marksAfter (leniency : Leniency) (before : CharKind) : Text → List Mark
  | [] => []
  | c :: rest =>
    ⟨leniency.scoredForm c, bonus before (kindOf c)⟩ :: marksAfter leniency (kindOf c) rest

/-- The marks of a text. A word may begin at its start. -/
def marks (leniency : Leniency) (text : Text) : List Mark := marksAfter leniency .blank text

/-- The state of scoring a stretch. -/
structure Tally where
  /-- The score so far. -/
  score : Nat
  /-- The reward that the current run began with. -/
  runStart : Nat
  /-- Whether the last character was matched. -/
  isInRun : Bool
  /-- Whether the last character was passed over. -/
  isInGap : Bool

/-- Count a matched character. -/
def Tally.hit (tally : Tally) (reward : Nat) : Tally :=
  if tally.isInRun then
    let runStart := if wordBonus ≤ reward ∧ tally.runStart < reward then reward else tally.runStart
    ⟨tally.score + matchScore + max (max reward runStart) runBonus, runStart, true, false⟩
  else ⟨tally.score + matchScore + reward, reward, true, false⟩

/-- Count a character that is passed over. -/
def Tally.miss (tally : Tally) : Tally :=
  ⟨tally.score - (if tally.isInGap then 1 else 3), tally.runStart, false, true⟩

/-- Count the rest of a stretch. `wanted` is the character to match next, which stays the last
one of the query when all are matched. -/
def tallyRest (wanted : Char) (later : Text) (tally : Tally) : List Mark → Tally
  | [] => tally
  | mark :: rest =>
    if mark.form = wanted then
      match later with
      | [] => tallyRest wanted [] (tally.hit mark.bonus) rest
      | next :: later => tallyRest next later (tally.hit mark.bonus) rest
    else tallyRest wanted later tally.miss rest

/-- The score of a query over a stretch whose first character is matched. The reward of that one
counts twice. -/
def stretchScore (query : Text) (stretch : List Mark) : Nat :=
  match query, stretch with
  | wanted :: later, first :: rest =>
    let tally : Tally := ⟨matchScore + 2 * first.bonus, first.bonus, true, false⟩
    (match later with
      | [] => tallyRest wanted [] tally rest
      | next :: later => tallyRest next later tally rest).score
  | _, _ => 0

/-- The best score of a match that ends at a place, with the reward of its run. -/
structure Cell where
  /-- The score. -/
  score : Nat
  /-- The reward that a continued run earns. -/
  run : Nat

/-- The score of a place where no match ends is zero. -/
def scoreOf : Option Cell → Nat
  | none => 0
  | some cell => cell.score

/-- Match one more character, right after the previous one or after a gap. -/
def nextCell (gapScore reward : Nat) : Option Cell → Cell
  | none => ⟨gapScore + reward + matchScore, reward⟩
  | some cell =>
    let least := max cell.run runBonus
    let run := if wordBonus ≤ reward ∧ least < reward then reward else least
    if cell.score + max run reward > gapScore + reward then
      ⟨cell.score + max run reward + matchScore, run⟩
    else ⟨gapScore + reward + matchScore, reward⟩

/-- The row of the next character of a query. `skip` places of the row come before the first
one where that character can be; `gap` and `last` are the scores before the current place, of a
match that ended earlier and of one that ended right there. -/
def nextRow (wanted : Char) : (skip gap last : Nat) → List (Option Cell) → List Mark →
    List (Option Cell)
  | skip, gap, last, cell :: cells, mark :: ahead =>
    let gap := max (last - 3) (gap - 1)
    let rest := nextRow wanted (skip - 1) gap (scoreOf cell) cells ahead
    if 0 < skip then rest
    else (if mark.form = wanted then some (nextCell gap mark.bonus cell) else none) :: rest
  | _, _, _, _, _ => []

/-- The row of the first character of a query. -/
def firstRow (wanted : Char) (stretch : List Mark) : List (Option Cell) :=
  stretch.map fun mark =>
    if mark.form = wanted then some ⟨2 * mark.bonus + matchScore, mark.bonus⟩ else none

/-- The first places where the characters of a query can be, one after the other, from a place
on. -/
def firstPlaces? (start : Nat) : (query : Text) → List Mark → Option (List Nat)
  | [], _ => some []
  | _ :: _, [] => none
  | wanted :: later, mark :: rest =>
    if mark.form = wanted then (firstPlaces? (start + 1) later rest).map (start :: ·)
    else firstPlaces? (start + 1) (wanted :: later) rest

/-- Go on with the rows. The current row begins `offset` places into the stretch, counted
without the characters of the query before it; `ahead` are the marks after its first place. -/
def laterRows (offset row : Nat) (stretch : List Mark) : (query : Text) → (places : List Nat) →
    List (Option Cell) → List (Option Cell)
  | wanted :: later, place :: places, cells =>
    let nextOffset := place - 1 - row
    let cells := nextRow wanted (nextOffset - offset) 0 0 cells (stretch.drop (offset + row + 1))
    laterRows nextOffset (row + 1) stretch later places cells
  | _, _, cells => cells

/-- The best score of a query of at least two characters spread over a stretch, whose first
character matches the first one of the query. -/
def bestScore? (query : Text) (stretch : List Mark) : Option Nat := do
  let places ← firstPlaces? 0 query stretch
  match query with
  | [] => some 0
  | wanted :: later =>
    let width := stretch.length + 1 - query.length
    let last := laterRows 0 0 stretch later places.tail (firstRow wanted (stretch.take width))
    some ((last.map scoreOf).foldl max 0)

end Citations.Search
