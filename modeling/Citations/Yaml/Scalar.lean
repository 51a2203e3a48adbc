import Citations.Text.Basic

/-!
# YAML scalars

A scalar is written plain, in quotes or as an indented block. In plain and quoted scalars a
line break reads as a blank, and further breaks after it as themselves; a block scalar keeps
its breaks or folds them in the same way, and an indicator says what becomes of those at its
end. The readers here take the text at the scalar and return its value and what follows.
-/
namespace Citations.Yaml

/-- Whether a character ends a line. -/
def isBreak (c : Char) : Bool :=
  c == '\n' || c == '\r' || c.toNat == 0x85 || c.toNat == 0x2028 || c.toNat == 0x2029

/-- Whether a character is a space or a tab. -/
def isBlank (c : Char) : Bool := c == ' ' || c == '\t'

/-- Whether a character is a blank or ends a line. -/
def isGap (c : Char) : Bool := isBlank c || isBreak c

/-- Whether a character may stand in an anchor, a directive or a tag handle. -/
def isName (c : Char) : Bool := c.isAlphanum || c == '_' || c == '-'

/-- Whether a character may stand in a YAML text: no control characters other than tabs and
line breaks. -/
def isAllowed (c : Char) : Bool :=
  let code := c.toNat
  code == 9 || code == 0xA || code == 0xD || (0x20 ≤ code && code ≤ 0x7E) || code == 0x85 ||
    (0xA0 ≤ code && code ≤ 0xFFFD) || 0x10000 ≤ code

/-- Whether nothing, a blank or a line break comes next. -/
def atGap (text : Text) : Bool := text.head?.all isGap

/-- Whether the marker of the start or the end of a document comes next. -/
def atMarker (text : Text) : Bool :=
  ["---".toList, "...".toList].any fun marker => (Text.after? marker text).any atGap

/-- What a line break reads as. -/
def readBreak (c : Char) : Char := if c.toNat = 0x2028 ∨ c.toNat = 0x2029 then c else '\n'

/-- What the line breaks in a text read as. -/
def breaksIn : Text → Text
  | [] => []
  | '\r' :: '\n' :: rest => '\n' :: breaksIn rest
  | c :: rest => if isBreak c then readBreak c :: breaksIn rest else breaksIn rest

/-- What blanks and line breaks inside a scalar read as. -/
def fold (run : Text) : Text :=
  match breaksIn run with
  | [] => run
  | ['\n'] => [' ']
  | '\n' :: more => more
  | breaks => breaks

/-- Whether a line starts after a text. -/
def endsLine (text : Text) : Bool := text.getLast?.any isBreak

/-- The number of characters after the last line break. -/
def columnAfter (text : Text) : Nat := (text.reverse.takeWhile fun c => !isBreak c).length

/-- The blanks and line breaks at the front. -/
def gaps (text : Text) : Text := text.takeWhile isGap

/-- What follows the blanks and line breaks at the front. -/
def afterGaps (text : Text) : Text := text.dropWhile isGap

/-- Blanks and line breaks only take characters. -/
theorem afterGaps_length (text : Text) : (afterGaps text).length ≤ text.length :=
  (List.dropWhile_suffix isGap).length_le

/-- The character that hexadecimal digits write. -/
def codePoint? (count : Nat) (text : Text) : Option (Char × Text) :=
  if text.length < count then none
  else
    match (text.take count).mapM Text.hexDigit? with
    | none => none
    | some digits =>
      let code := Text.numeral 16 digits
      if (0xD800 ≤ code ∧ code ≤ 0xDFFF) ∨ code > 0x10FFFF then none
      else some (Char.ofNat code, text.drop count)

/-- The characters that escapes of one letter write. -/
def escapes : List (Char × Nat) := [
  ('0', 0), ('a', 7), ('b', 8), ('t', 9), ('\t', 9), ('n', 10), ('v', 11), ('f', 12), ('r', 13),
  ('e', 0x1B), (' ', 0x20), ('"', 0x22), ('/', 0x2F), ('\\', 0x5C), ('N', 0x85), ('_', 0xA0),
  ('L', 0x2028), ('P', 0x2029)]

/-- The character that an escape writes, after its backslash. -/
def escape? : Text → Option (Char × Text)
  | [] => none
  | c :: rest =>
    if c = 'x' then codePoint? 2 rest
    else if c = 'u' then codePoint? 4 rest
    else if c = 'U' then codePoint? 8 rest
    else (escapes.find? (·.1 = c)).map fun (_, code) => (Char.ofNat code, rest)

/-- An escape takes characters. -/
theorem escape?_length {text rest : Text} {c : Char} (read : escape? text = some (c, rest)) :
    rest.length < text.length := by
  have point : ∀ {count : Nat} {text : Text}, codePoint? count text = some (c, rest) →
      rest.length ≤ text.length := by
    intro count text read
    simp only [codePoint?] at read
    repeat' split at read
    all_goals first
      | contradiction
      | (simp only [Option.some.injEq, Prod.mk.injEq] at read
         rw [← read.2, List.length_drop]
         omega)
  cases text with
  | nil => contradiction
  | cons first tail =>
    simp only [escape?] at read
    repeat' split at read
    all_goals first
      | (have shorter := point read
         simp only [List.length_cons]
         omega)
      | (obtain ⟨found, _, same⟩ := Option.map_eq_some_iff.1 read
         simp only [Prod.mk.injEq] at same
         simp [← same.2])

/-- Put text in front of what a reader read. -/
def precede (text : Text) (read : Text × Text) : Text × Text := (text ++ read.1, read.2)

/-- The value of a scalar in single quotes, after the first one. A quote is written twice. -/
def singleQuoted? : Text → Option (Text × Text)
  | [] => none
  | '\'' :: '\'' :: rest => (singleQuoted? rest).map (precede ['\''])
  | '\'' :: rest => some ([], rest)
  | c :: rest =>
    if isGap c then
      let run := c :: gaps rest
      if endsLine run && atMarker (afterGaps rest) then none
      else (singleQuoted? (afterGaps rest)).map (precede (fold run))
    else (singleQuoted? rest).map (precede [c])
termination_by text => text.length
decreasing_by
  · simp only [List.length_cons]
    omega
  · have := afterGaps_length rest
    simp only [List.length_cons]
    omega
  · simp

/-- The value of a scalar in double quotes, after the first one. A backslash begins an escape;
an escaped line break reads as nothing. -/
def doubleQuoted? : Text → Option (Text × Text)
  | [] => none
  | c :: rest =>
    if c = '"' then some ([], rest)
    else if c = '\\' then
      if rest.head?.any isBreak then
        let run := gaps rest
        if endsLine run && atMarker (afterGaps rest) then none
        else (doubleQuoted? (afterGaps rest)).map (precede (breaksIn run).tail)
      else
        match _ : escape? rest with
        | none => none
        | some (x, after) => (doubleQuoted? after).map (precede [x])
    else if isGap c then
      let run := c :: gaps rest
      if endsLine run && atMarker (afterGaps rest) then none
      else (doubleQuoted? (afterGaps rest)).map (precede (fold run))
    else (doubleQuoted? rest).map (precede [c])
termination_by text => text.length
decreasing_by
  · have := afterGaps_length rest
    simp only [List.length_cons]
    omega
  · rename_i found
    have := escape?_length found
    simp only [List.length_cons]
    omega
  · have := afterGaps_length rest
    simp only [List.length_cons]
    omega
  · simp

/-- Whether a character ends a plain scalar inside brackets. -/
def isBracketOrComma (c : Char) : Bool := ",[]\x7b\x7d".toList.contains c

/-- One word of a plain scalar, inside brackets or not; there is none where a colon stands
right before an indicator. -/
def plainWord? (inFlow : Bool) : Text → Option (Text × Text)
  | [] => some ([], [])
  | c :: rest =>
    if isGap c then some ([], c :: rest)
    else if inFlow && c = ':' && rest.head?.any fun next => next = '?' || isBracketOrComma next then
      none
    else if c = ':' && atGap rest then some ([], c :: rest)
    else if inFlow && isBracketOrComma c then some ([], c :: rest)
    else (plainWord? inFlow rest).map (precede [c])

/-- A word takes its characters. -/
theorem plainWord?_length {inFlow : Bool} {text word rest : Text}
    (read : plainWord? inFlow text = some (word, rest)) :
    word.length + rest.length = text.length := by
  induction text generalizing word rest with
  | nil =>
    simp only [plainWord?, Option.some.injEq, Prod.mk.injEq] at read
    simp [← read.1, ← read.2]
  | cons c tail ih =>
    simp only [plainWord?] at read
    repeat' split at read
    all_goals first
      | contradiction
      | (simp only [Option.some.injEq, Prod.mk.injEq] at read
         simp [← read.1, ← read.2])
      | (obtain ⟨⟨more, last⟩, found, same⟩ := Option.map_eq_some_iff.1 read
         have := ih found
         simp only [precede, Prod.mk.injEq] at same
         simp only [← same.1, ← same.2, List.length_cons, List.length_append, List.length_nil]
         omega)

/-- Whether a tab stands before the least column on a line of its own. -/
def abusesTab (floor : Nat) : (column? : Option Nat) → Text → Bool
  | _, [] => false
  | column?, c :: rest =>
    if isBreak c then abusesTab floor (some 0) rest
    else (c = '\t' && column?.any (· < floor)) || abusesTab floor (column?.map (· + 1)) rest

/-- The rest of a plain scalar after a word, what follows its blanks, and whether those break
the line. The scalar goes on over lines that are indented at least to the least column. -/
def plainRest? (inFlow : Bool) (floor : Nat) (text : Text) : Option (Text × Text × Bool) :=
  let run := gaps text
  let after := afterGaps text
  let isBroken := breaksIn run ≠ []
  if run = [] then some ([], text, false)
  else if abusesTab floor none run then none
  else if (!inFlow && isBroken && columnAfter run < floor) || (endsLine run && atMarker after) ||
      after.head? = some '#' then
    some ([], after, isBroken)
  else
    match _ : plainWord? inFlow after with
    | none => none
    | some (word, rest) =>
      if word = [] then some ([], after, isBroken)
      else (plainRest? inFlow floor rest).map fun (more, last, broken) =>
        (fold run ++ word ++ more, last, broken)
termination_by text.length
decreasing_by
  rename_i found some
  have taken := plainWord?_length found
  have blank : after.length ≤ text.length := afterGaps_length text
  have := List.length_pos_iff.2 some
  omega

/-- A plain scalar, what follows it, and whether a line break follows it directly. -/
def plain? (inFlow : Bool) (floor : Nat) (text : Text) : Option (Text × Text × Bool) := do
  let (word, rest) ← plainWord? inFlow text
  let (more, last, broken) ← plainRest? inFlow floor rest
  some (word ++ more, last, broken)

/-- What becomes of the line breaks at the end of a block scalar. -/
inductive Chomping where
  /-- They are dropped. -/
  | strip
  /-- The first one stays. -/
  | clip
  /-- They all stay. -/
  | keep
  deriving DecidableEq

/-- The chomping indicator at the front. -/
def chomping : Text → Chomping × Text
  | '+' :: rest => (.keep, rest)
  | '-' :: rest => (.strip, rest)
  | rest => (.clip, rest)

/-- The indentation indicator at the front, if there is one; it is not zero. -/
def indentation? : Text → Option (Option Nat × Text)
  | [] => some (none, [])
  | c :: rest =>
    if c = '0' then none
    else if c.isDigit then some (some (c.toNat - '0'.toNat), rest)
    else some (none, c :: rest)

/-- The indicators of a block scalar in either order. -/
def indicators? (text : Text) : Option (Chomping × Option Nat × Text) := do
  let (first, afterFirst) := chomping text
  let (indent?, rest) ← indentation? afterFirst
  if first ≠ .clip then some (first, indent?, rest)
  else if indent?.isSome then
    let (later, rest) := chomping rest
    some (later, indent?, rest)
  else some (.clip, none, rest)

/-- What follows the blanks, the comment and the break that end a line. Nothing else may stand
there. -/
def restOfLine? (text : Text) : Option Text :=
  let rest := text.dropWhile isBlank
  let rest := if rest.head? = some '#' then rest.dropWhile (fun c => !isBreak c) else rest
  match rest with
  | [] => some []
  | '\r' :: '\n' :: rest => some rest
  | c :: rest => if isBreak c then some rest else none

/-- The spaces at the front, up to a number of them. -/
def spaces : (limit? : Option Nat) → Text → Nat × Text
  | some 0, text => (0, text)
  | limit?, ' ' :: rest =>
    let (count, after) := spaces (limit?.map (· - 1)) rest
    (count + 1, after)
  | _, text => (0, text)

/-- Spaces take characters. -/
theorem spaces_length (limit? : Option Nat) (text : Text) :
    (spaces limit? text).2.length ≤ text.length := by
  fun_induction spaces limit? text with
  | case1 => exact Nat.le_refl _
  | case2 limit? rest _ count after split ih =>
    simp only [split, List.length_cons] at *
    omega
  | case3 => exact Nat.le_refl _

/-- The breaks of empty lines, the widest indentation seen, and the indentation of the line
that is not empty. Without a fixed indentation every space counts; a tab may not stand in its
place. -/
def emptyLines? (limit? : Option Nat) (widest : Nat) (text : Text) :
    Option (Text × Nat × Nat × Text) :=
  let count := (spaces limit? text).1
  match _ : (spaces limit? text).2 with
  | [] => some ([], max widest count, count, [])
  | c :: rest =>
    if c = '\t' ∧ limit?.all (count < ·) then none
    else if isBreak c then
      let after := if c = '\r' ∧ rest.head? = some '\n' then rest.tail else rest
      (emptyLines? limit? (max widest count) after).map fun (breaks, found) =>
        (readBreak c :: breaks, found)
    else some ([], max widest count, count, c :: rest)
termination_by text.length
decreasing_by
  rename_i kept _ _
  have shorter := spaces_length limit? text
  rw [kept, List.length_cons] at shorter
  split
  · have := List.length_tail (l := rest)
    omega
  · omega

/-- The lines of a block scalar from one that is not empty. `pending` is the break before it,
`empty` the breaks of the empty lines after that, `wasBlank` whether the line before began with
a blank. The result is the content, the breaks at its end and what follows, with its
indentation. -/
def blockLines? (isLiteral : Bool) (indent : Nat) :
    (fuel : Nat) → (pending empty : Text) → (wasBlank : Bool) → (column : Nat) → Text →
      Option (Text × Text × Text × Text)
  | 0, _, _, _, _, _ => none
  | fuel + 1, pending, empty, wasBlank, column, text =>
    if column = indent ∧ text ≠ [] then do
      let isBlankLine := text.head?.any isBlank
      let joint :=
        if !isLiteral && pending = ['\n'] && !wasBlank && !isBlankLine then
          (if empty = [] then [' '] else empty)
        else pending ++ empty
      let line := text.takeWhile fun c => !isBreak c
      let afterLine := text.dropWhile fun c => !isBreak c
      let (next, rest) := match afterLine with
        | [] => ([], [])
        | '\r' :: '\n' :: rest => (['\n'], rest)
        | c :: rest => ([readBreak c], rest)
      let (breaks, _, column, rest) ← emptyLines? (some indent) 0 rest
      let (content, last, trailing, rest) ←
        blockLines? isLiteral indent fuel next breaks isBlankLine column rest
      some (joint ++ line ++ content, last, trailing, rest)
    else some ([], pending, empty, text)

/-- The value of a block scalar after its first character, and what follows it. -/
def block? (isLiteral : Bool) (floor : Nat) (text : Text) : Option (Text × Text) := do
  let (chomping, indent?, rest) ← indicators? text
  let rest ← restOfLine? rest
  let fixed? := indent?.map (floor - 1 + ·)
  let (breaks, widest, column, rest) ← emptyLines? fixed? 0 rest
  let indent := fixed?.getD (max (max widest floor) 1)
  let (content, last, trailing, rest) ←
    blockLines? isLiteral indent (rest.length + 1) [] breaks false column rest
  let ending := match chomping with
    | .strip => []
    | .clip => last
    | .keep => last ++ trailing
  some (content ++ ending, rest)

end Citations.Yaml
