import Citations.Yaml.Scalar

/-!
# YAML tokens

A YAML text is cut into tokens from left to right. Inside brackets only the characters count;
outside them indentation does too, and collections begin and end where the column changes. A
key is only known to be one when the colon after it is reached, so the scanner remembers where
a key may have begun and puts the tokens that announce it there afterwards.

Columns are compared with a least column: the one at which content nested in the innermost open
collection may stand, and zero outside every collection.
-/
namespace Citations.Yaml

/-- A lexical unit. -/
inductive Token where
  /-- The version that a directive states. -/
  | version (major minor : Nat)
  /-- What a tag handle stands for. -/
  | tagHandle (handle expansion : Text)
  /-- The marker of the start of a document. -/
  | documentStart
  /-- The marker of the end of a document. -/
  | documentEnd
  /-- The start of an indented sequence. -/
  | blockSequence
  /-- The start of an indented mapping. -/
  | blockMapping
  /-- The end of an indented collection. -/
  | blockEnd
  /-- An opening bracket. -/
  | flowSequence
  /-- A closing bracket. -/
  | flowSequenceEnd
  /-- An opening brace. -/
  | flowMapping
  /-- A closing brace. -/
  | flowMappingEnd
  /-- The hyphen before an item. -/
  | item
  /-- A comma. -/
  | comma
  /-- The start of a key. -/
  | key
  /-- The colon before a value. -/
  | value
  /-- A reference to an anchor. -/
  | alias (name : Text)
  /-- A name for a node. -/
  | anchor (name : Text)
  /-- The tag of a node. -/
  | tag (handle suffix : Text)
  /-- A scalar, plain or not. -/
  | scalar (isPlain : Bool) (value : Text)
  deriving DecidableEq, Repr

/-- A place in the text, with what follows it. -/
structure Cursor where
  /-- The text from here on. -/
  rest : Text
  /-- The characters before it. -/
  index : Nat
  /-- The line breaks before it. -/
  line : Nat
  /-- The characters before it in its line. -/
  column : Nat

/-- A place where a key may begin. -/
structure KeyPlace where
  /-- The number of tokens before the key. -/
  tokens : Nat
  /-- The characters before it. -/
  index : Nat
  /-- The line it is on. -/
  line : Nat
  /-- The column it begins at. -/
  column : Nat
  /-- Whether nothing but a key may stand there. -/
  isRequired : Bool

/-- A scanner between two tokens. -/
structure Scanner where
  /-- Where it is. -/
  cursor : Cursor
  /-- The tokens so far, last first. -/
  tokens : List Token
  /-- The least column of nested content. -/
  floor : Nat
  /-- The least columns of the collections around. -/
  outer : List Nat
  /-- Whether a key may begin here. -/
  allowsKey : Bool
  /-- For the text outside brackets and for each open bracket, innermost first, where a key may
  have begun. -/
  keys : List (Option KeyPlace)

/-- The cursor after one more character. -/
def Cursor.pass (cursor : Cursor) (c : Char) : Cursor :=
  if isBreak c then ⟨cursor.rest.tail, cursor.index + 1, cursor.line + 1, 0⟩
  else ⟨cursor.rest.tail, cursor.index + 1, cursor.line, cursor.column + 1⟩

/-- The cursor where only the given text is left. -/
def Cursor.moveTo (cursor : Cursor) (rest : Text) : Cursor :=
  (cursor.rest.take (cursor.rest.length - rest.length)).foldl pass cursor

namespace Scanner

/-- The scanner at the start of a text. -/
def ofText (text : Text) : Scanner := ⟨⟨text, 0, 0, 0⟩, [], 0, [], true, [none]⟩

/-- Whether a bracket is open. -/
def inFlow (scanner : Scanner) : Bool := scanner.keys.length > 1

/-- Add a token. -/
def emit (scanner : Scanner) (token : Token) : Scanner :=
  { scanner with tokens := token :: scanner.tokens }

/-- Add a token after the first `count` tokens. -/
def insert (scanner : Scanner) (count : Nat) (token : Token) : Scanner :=
  let later := scanner.tokens.length - count
  { scanner with tokens := scanner.tokens.take later ++ token :: scanner.tokens.drop later }

/-- Go on where only the given text is left. -/
def moveTo (scanner : Scanner) (rest : Text) : Scanner :=
  { scanner with cursor := scanner.cursor.moveTo rest }

/-- Say whether a key may begin here. -/
def allowing (scanner : Scanner) (allowed : Bool) : Scanner :=
  { scanner with allowsKey := allowed }

/-- Give up the key that may have begun; one that is required cannot be given up. -/
def dropKey? (scanner : Scanner) : Option Scanner :=
  match scanner.keys with
  | some place :: outer =>
    if place.isRequired then none else some { scanner with keys := none :: outer }
  | _ => some scanner

/-- Remember that a key may begin here. -/
def saveKey? (scanner : Scanner) : Option Scanner := do
  if scanner.allowsKey then
    let dropped ← scanner.dropKey?
    let place : KeyPlace :=
      { tokens := scanner.tokens.length
        index := scanner.cursor.index
        line := scanner.cursor.line
        column := scanner.cursor.column
        isRequired := !scanner.inFlow && scanner.floor = scanner.cursor.column + 1 }
    some { dropped with keys := some place :: dropped.keys.tail }
  else some scanner

/-- End the collections whose content would have to stand further right. -/
def unrollTo (least : Nat) : (outer : List Nat) → Scanner → Scanner
  | [], scanner => scanner
  | floor :: outer, scanner =>
    if scanner.floor > least then
      unrollTo least outer { scanner.emit .blockEnd with floor, outer }
    else scanner

/-- End the collections that content may not continue at a least column; brackets protect
them. -/
def unroll (scanner : Scanner) (least : Nat) : Scanner :=
  if scanner.inFlow then scanner else unrollTo least scanner.outer scanner

/-- Begin a collection at a column, if it is further right than the innermost one; its token
comes last or after the first `count?` tokens. -/
def roll (scanner : Scanner) (column : Nat) (count? : Option Nat) (token : Token) : Scanner :=
  if scanner.inFlow ∨ column < scanner.floor then scanner
  else
    let opened := match count? with
      | some count => scanner.insert count token
      | none => scanner.emit token
    { opened with floor := column + 1, outer := scanner.floor :: scanner.outer }

/-- What follows the blanks, comments and line breaks between tokens, and whether a key may
begin there. A tab may only stand where no key may begin. -/
def skip (inFlow : Bool) : (allowed inComment : Bool) → Text → Text × Bool
  | allowed, _, [] => ([], allowed)
  | allowed, inComment, c :: rest =>
    if isBreak c then skip inFlow (allowed || !inFlow) false rest
    else if inComment then skip inFlow allowed true rest
    else if c = ' ' ∨ (c = '\t' ∧ (inFlow ∨ !allowed)) then skip inFlow allowed false rest
    else if c = '#' then skip inFlow allowed true rest
    else (c :: rest, allowed)

/-- Go to the next token. A byte order mark may stand before the first one. -/
def toToken (scanner : Scanner) : Scanner :=
  let start := scanner.cursor.rest
  let text :=
    if scanner.cursor.index = 0 ∧ start.head?.any (·.toNat = 0xFEFF) then start.tail else start
  let (rest, allowed) := skip scanner.inFlow scanner.allowsKey false text
  (scanner.moveTo rest).allowing allowed

/-- A version number: at most nine digits. -/
def versionNumber? (text : Text) : Option (Nat × Text) :=
  let digits := text.takeWhile Char.isDigit
  if digits = [] ∨ digits.length > 9 then none
  else some (Text.numeral 10 (digits.filterMap Text.digit?), text.dropWhile Char.isDigit)

/-- Whether a character may stand in a tag. -/
def isTagChar (c : Char) : Bool := isName c || ";/?:@&=+$.!~*'()".toList.contains c

/-- The octets that percent signs write, for one character of the given size. -/
def octets? : Nat → Text → Option (List Nat × Text)
  | 0, text => some ([], text)
  | count + 1, '%' :: a :: b :: rest => do
    let digits ← [a, b].mapM Text.hexDigit?
    let (octets, after) ← octets? count rest
    some (Text.numeral 16 digits :: octets, after)
  | _, _ => none

/-- The number of octets of a character that begins with one. -/
def octetCount? (octet : Nat) : Option Nat :=
  if octet < 0x80 then some 1
  else if 0xC0 ≤ octet ∧ octet < 0xE0 then some 2
  else if 0xE0 ≤ octet ∧ octet < 0xF0 then some 3
  else if 0xF0 ≤ octet ∧ octet < 0xF8 then some 4
  else none

/-- The character that percent signs write. -/
def percent? (text : Text) : Option (Char × Text) := do
  let (leading, _) ← octets? 1 text
  let first ← leading.head?
  let count ← octetCount? first
  let (octets, rest) ← octets? count text
  let later := octets.tail
  if later.any fun octet => octet < 0x80 || 0xC0 ≤ octet then none
  else
    let high := if count = 1 then first else first % Nat.pow 2 (7 - count)
    some (Char.ofNat (later.foldl (fun code octet => code * 64 + octet % 64) high), rest)

/-- The characters of a tag, and what follows them. -/
def tagText? (isVerbatim : Bool) : (fuel : Nat) → Text → Option (Text × Text)
  | 0, _ => none
  | _ + 1, [] => some ([], [])
  | fuel + 1, c :: rest =>
    if c = '%' then do
      let (x, after) ← percent? (c :: rest)
      (tagText? isVerbatim fuel after).map (precede [x])
    else if isTagChar c || (isVerbatim && ",[]".toList.contains c) then
      (tagText? isVerbatim fuel rest).map (precede [c])
    else some ([], c :: rest)

/-- The characters of a tag, which are at least one. -/
def tagSuffix? (isVerbatim : Bool) (text : Text) : Option (Text × Text) :=
  (tagText? isVerbatim (text.length + 1) text).filter (·.1 ≠ [])

/-- A tag handle: an exclamation mark, a name and perhaps another exclamation mark. -/
def tagHandle? : Text → Option (Text × Text)
  | '!' :: rest =>
    let name := rest.takeWhile isName
    match rest.dropWhile isName with
    | '!' :: after => some ('!' :: name ++ ['!'], after)
    | after => some ('!' :: name, after)
  | _ => none

/-- The version or tag handle that a directive states, after the percent sign. -/
def directive? (text : Text) : Option (Token × Text) := do
  let name := text.takeWhile isName
  let rest := text.dropWhile isName
  if !atGap rest then none
  else if name = "YAML".toList then
    let (major, rest) ← versionNumber? (rest.dropWhile isBlank)
    let rest ← Text.after? ['.'] rest
    let (minor, rest) ← versionNumber? rest
    some (.version major minor, ← restOfLine? rest)
  else if name = "TAG".toList then
    let (handle, rest) ← tagHandle? (rest.dropWhile isBlank)
    if (handle ≠ ['!'] ∧ handle.getLast? ≠ some '!') ∨ !rest.head?.any isBlank then none
    else
      let (expansion, rest) ← tagSuffix? true (rest.dropWhile isBlank)
      if atGap rest then some (.tagHandle handle expansion, ← restOfLine? rest) else none
  else none

/-- A tag, verbatim, with a handle, or with a single exclamation mark. -/
def tag? (inFlow : Bool) (text : Text) : Option (Token × Text) := do
  let (token, rest) ← match text with
    | '!' :: '<' :: rest => do
      let (suffix, rest) ← tagSuffix? true rest
      let rest ← Text.after? ['>'] rest
      some (Token.tag [] suffix, rest)
    | _ => do
      let (handle, rest) ← tagHandle? text
      if handle.length > 1 ∧ handle.getLast? = some '!' then
        let (suffix, rest) ← tagSuffix? false rest
        some (Token.tag handle suffix, rest)
      else
        let (suffix, rest) ← tagText? false (rest.length + 1) rest
        let suffix := handle.tail ++ suffix
        some (if suffix = [] then Token.tag [] ['!'] else Token.tag ['!'] suffix, rest)
  if atGap rest ∨ (inFlow ∧ rest.head? = some ',') then some (token, rest) else none

/-- The name of an anchor or an alias, after its indicator. -/
def anchorName? (text : Text) : Option (Text × Text) :=
  let rest := text.dropWhile isName
  if text.takeWhile isName = [] then none
  else if atGap rest ∨ rest.head?.any "?:,]\x7d%@\x60".toList.contains then
    some (text.takeWhile isName, rest)
  else none

/-- Whether a character, with the text after it, may begin a plain scalar. -/
def beginsPlain (inFlow : Bool) (c : Char) (rest : Text) : Bool :=
  !("-?:,[]\x7b\x7d#&*!|>'\"%@\x60".toList.contains c || isGap c) ||
    (c = '-' && !rest.head?.any isBlank) ||
    (!inFlow && (c = '?' || c = ':') && !atGap rest)

/-- Take a directive or a document marker: whatever is open ends before it. -/
def outside? (scanner : Scanner) (token : Token) (rest : Text) : Option Scanner := do
  let scanner ← (scanner.unroll 0).dropKey?
  some (((scanner.allowing false).emit token).moveTo rest)

/-- Take an opening bracket or brace. -/
def open? (scanner : Scanner) (token : Token) (rest : Text) : Option Scanner := do
  let scanner ← scanner.saveKey?
  some ((({ scanner with keys := none :: scanner.keys }.allowing true).emit token).moveTo rest)

/-- Take a closing bracket or brace. -/
def close? (scanner : Scanner) (token : Token) (rest : Text) : Option Scanner := do
  let scanner ← scanner.dropKey?
  let keys := if scanner.inFlow then scanner.keys.tail else scanner.keys
  some ((({ scanner with keys }.allowing false).emit token).moveTo rest)

/-- Take the hyphen of an item or the question mark of a key, which begins a collection. -/
def entry? (scanner : Scanner) (collection token : Token) (allowed : Bool) (rest : Text) :
    Option Scanner := do
  if !scanner.inFlow && !scanner.allowsKey then none
  else
    let scanner ← (scanner.roll scanner.cursor.column none collection).dropKey?
    some (((scanner.allowing allowed).emit token).moveTo rest)

/-- The place of the key that a colon follows: on the same line and not too far back. A required
key that is too far back is an error. -/
def keyBefore? (scanner : Scanner) : Option (Option KeyPlace) :=
  match scanner.keys with
  | some place :: _ =>
    if place.line < scanner.cursor.line ∨ place.index + 1024 < scanner.cursor.index then
      if place.isRequired then none else some none
    else some (some place)
  | _ => some none

/-- Take the colon of a value. -/
def value? (scanner : Scanner) (rest : Text) : Option Scanner := do
  match ← scanner.keyBefore? with
  | some place =>
    let scanner := (scanner.insert place.tokens .key).roll place.column (some place.tokens)
      .blockMapping
    let scanner := { scanner with keys := none :: scanner.keys.tail }
    some (((scanner.allowing false).emit .value).moveTo rest)
  | none =>
    let scanner := { scanner with keys := none :: scanner.keys.tail }
    if scanner.inFlow then some (((scanner.allowing false).emit .value).moveTo rest)
    else if !scanner.allowsKey then none
    else
      let scanner := scanner.roll scanner.cursor.column none .blockMapping
      some (((scanner.allowing true).emit .value).moveTo rest)

/-- Take a token that may be part of a key. -/
def inKey? (scanner : Scanner) (read? : Option (Token × Text)) : Option Scanner := do
  let scanner ← scanner.saveKey?
  let (token, rest) ← read?
  some (((scanner.allowing false).emit token).moveTo rest)

/-- Take a plain scalar. -/
def plainScalar? (scanner : Scanner) : Option Scanner := do
  let scanner ← scanner.saveKey?
  let (value, rest, isBroken) ← plain? scanner.inFlow scanner.floor scanner.cursor.rest
  some (((scanner.allowing isBroken).emit (.scalar true value)).moveTo rest)

/-- Take a block scalar. -/
def blockScalar? (scanner : Scanner) (isLiteral : Bool) (text : Text) : Option Scanner := do
  let scanner ← scanner.dropKey?
  let (value, rest) ← block? isLiteral scanner.floor text
  some (((scanner.allowing true).emit (.scalar false value)).moveTo rest)

/-- Take the token that begins with a character. -/
def take? (scanner : Scanner) (c : Char) (rest : Text) : Option Scanner :=
  let inFlow := scanner.inFlow
  let text := c :: rest
  if scanner.cursor.column = 0 ∧ c = '%' then do
    let (token, rest) ← directive? rest
    scanner.outside? token rest
  else if scanner.cursor.column = 0 ∧ atMarker text then
    scanner.outside? (if c = '-' then .documentStart else .documentEnd) (text.drop 3)
  else if c = '[' then scanner.open? .flowSequence rest
  else if c = '\x7b' then scanner.open? .flowMapping rest
  else if c = ']' then scanner.close? .flowSequenceEnd rest
  else if c = '\x7d' then scanner.close? .flowMappingEnd rest
  else if c = ',' then do
    let scanner ← scanner.dropKey?
    some (((scanner.allowing true).emit .comma).moveTo rest)
  else if c = '-' ∧ atGap rest then scanner.entry? .blockSequence .item true rest
  else if c = '?' ∧ (inFlow ∨ atGap rest) then scanner.entry? .blockMapping .key (!inFlow) rest
  else if c = ':' ∧ (inFlow ∨ atGap rest) then scanner.value? rest
  else if c = '*' then
    scanner.inKey? ((anchorName? rest).map fun (name, rest) => (.alias name, rest))
  else if c = '&' then
    scanner.inKey? ((anchorName? rest).map fun (name, rest) => (.anchor name, rest))
  else if c = '!' then scanner.inKey? (tag? inFlow text)
  else if c = '|' ∧ !inFlow then scanner.blockScalar? true rest
  else if c = '>' ∧ !inFlow then scanner.blockScalar? false rest
  else if c = '\'' then
    scanner.inKey? ((singleQuoted? rest).map fun (value, rest) => (.scalar false value, rest))
  else if c = '"' then
    scanner.inKey? ((doubleQuoted? rest).map fun (value, rest) => (.scalar false value, rest))
  else if beginsPlain inFlow c rest then scanner.plainScalar?
  else none

/-- Take tokens to the end of the text. -/
def takeAll? : (fuel : Nat) → Scanner → Option (List Token)
  | 0, _ => none
  | fuel + 1, scanner =>
    let scanner := scanner.toToken
    let scanner := scanner.unroll (scanner.cursor.column + 1)
    match scanner.cursor.rest with
    | [] => do
      let scanner ← (scanner.unroll 0).dropKey?
      some scanner.tokens.reverse
    | c :: rest => do takeAll? fuel (← scanner.take? c rest)

end Scanner

/-- The tokens of a text. Every token takes a character, so there are no more rounds than
characters and one for the end. -/
def tokens? (text : Text) : Option (List Token) :=
  if text.all isAllowed then (Scanner.ofText text).takeAll? (text.length + 1) else none

end Citations.Yaml
