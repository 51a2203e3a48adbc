import Citations.Text.Basic

/-!
# Line index

A document is addressed by lines and by offsets, both counted from zero. A line ends after a
line feed, a carriage return, the two together, a vertical tab, a form feed, a next-line
character, or a line or paragraph separator; the last line ends with the text. The rows, which
are the lines with what ends them, make up the text again.
-/
namespace Citations

namespace Text

/-- Whether a character ends a line. -/
def isBreak (c : Char) : Bool :=
  let code := c.toNat
  (0xA ≤ code && code ≤ 0xD) || code == 0x85 || code == 0x2028 || code == 0x2029

/-- The lines, each with the break that ends it; the last one has none. -/
def rows : Text → List Text
  | [] => [[]]
  | '\r' :: '\n' :: rest => ['\r', '\n'] :: rows rest
  | c :: rest => if isBreak c then [c] :: rows rest else consHead c (rows rest)

/-- A row without the line feed or carriage return that ends it. -/
def trimBreak (row : Text) : Text := dropEndWhile (fun c => c = '\n' || c = '\r') row

/-- The beginning of each row, the first one at a given offset. -/
def rowStarts (start : Nat) : List Text → List Nat
  | [] => []
  | row :: rest => start :: rowStarts (start + row.length) rest

end Text

/-- A document with its rows at hand. -/
structure LineIndex where
  /-- The whole text. -/
  text : Text
  /-- The lines, each with the break that ends it. -/
  rows : List Text

/-- A place in a document, line and column counted from zero. -/
structure Position where
  /-- The line. -/
  line : Nat
  /-- The characters before the place in its line. -/
  character : Nat
  deriving DecidableEq, Repr, Inhabited

/-- The place as an editor takes it: the line and the column are cut to 32 bits. -/
def Position.cut (position : Position) : Position :=
  ⟨position.line % Nat.pow 2 32, position.character % Nat.pow 2 32⟩

namespace LineIndex

/-- The index of a text. -/
def ofText (text : Text) : LineIndex := ⟨text, text.rows⟩

/-- The number of lines, at least one. -/
def lineCount (index : LineIndex) : Nat := index.rows.length

/-- The offset of the first character of a line. -/
def lineStart (index : LineIndex) (line : Nat) : Nat := (index.rows.take line).flatten.length

/-- The line that holds an offset: the last one that starts at or before it. -/
def lineOf (index : LineIndex) (offset : Nat) : Nat :=
  ((Text.rowStarts 0 index.rows).filter (· ≤ min offset index.text.length)).length - 1

/-- A line without the line feed or carriage return that ends it. -/
def line? (index : LineIndex) (line : Nat) : Option Text := (index.rows[line]?).map Text.trimBreak

/-- The lines without what ends them, each with its number and the offset it starts at. -/
def lines (index : LineIndex) : List (Nat × Nat × Text) :=
  (List.range index.lineCount).zip
    ((Text.rowStarts 0 index.rows).zip (index.rows.map Text.trimBreak))

/-- The line and column of an offset. -/
def position (index : LineIndex) (offset : Nat) : Position :=
  let line := index.lineOf offset
  ⟨line, offset - index.lineStart line⟩

/-- Where the window of `budget` characters that ends at an offset begins. -/
def windowStart (offset budget : Nat) : Nat := offset - budget

/-- The last occurrence of a word that lies entirely in the window before an offset. -/
def findLastBefore? (index : LineIndex) (offset budget : Nat) (word : Text) : Option Nat :=
  let start := windowStart offset budget
  (Text.findLast? word ((index.text.take offset).drop start)).map (start + ·)

/-- The first occurrence of a word at or after an offset. -/
def findAfter? (index : LineIndex) (offset : Nat) (word : Text) : Option Nat :=
  (Text.find? word (index.text.drop offset)).map (min offset index.text.length + ·)

/-- The text between two offsets. -/
def slice (index : LineIndex) (start stop : Nat) : Text :=
  (index.text.take stop).drop start

end LineIndex

end Citations
