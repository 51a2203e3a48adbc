import Citations.Toml.Number
import Citations.Toml.Quoted
import Citations.Toml.Table

/-!
# Reading TOML

A document is read line by line, a value that goes over several lines counting as one. Arrays
and inline tables nest less than 80 deep, and a key has less than 80 parts; an inline table
stays on its line, apart from the texts and arrays in it.
-/
namespace Citations.Toml

/-- The greatest depth of arrays and inline tables, and the greatest number of parts of a key. -/
def maxDepth : Nat := 79

/-- Whether a character may stand in a name without quotes. -/
def isBare (c : Char) : Bool := c.isAlphanum || c = '_' || c = '-'

/-- A part of a key, with the white space around it. -/
def name? (text : Text) : Option (Text × Text) := do
  let text := skipSpace text
  let (found, rest) ←
    match text.takeWhile isBare with
    | [] => short? text
    | bare => some (bare, text.dropWhile isBare)
  some (found, skipSpace rest)

/-- Items with a separator between them; none when there is no first one. -/
def separated {α : Type} (separator : Char) (read : Text → Option (α × Text)) (text : Text) :
    List α × Text :=
  match read text with
  | none => ([], text)
  | some (first, rest) =>
    let (more, last) := Text.repeated (fun text => (Text.expect? separator text).bind read) rest
    (first :: more, last)

/-- A key: names with dots between them. -/
def key? (text : Text) : Option (List Text × Text) :=
  let (names, rest) := separated '.' name? text
  if names = [] ∨ maxDepth < names.length then none else some (names, rest)

/-- What follows a comment, if there is one. -/
def skipComment (text : Text) : Text :=
  if text.head? = some '#' then text.dropWhile isPlain else text

/-- What follows the end of a line, with the white space and the comment before it. -/
def lineEnd? (text : Text) : Option Text :=
  match skipComment (skipSpace text) with
  | [] => some []
  | rest => newline? rest

/-- White space, a line break or a comment with its line break. -/
def gap? (text : Text) : Option (Unit × Text) :=
  match skipLines text with
  | '#' :: rest => (newline? (rest.dropWhile isPlain)).map ((), ·)
  | rest => some ((), rest)

/-- What follows white space, line breaks and comments. -/
def skipGaps (text : Text) : Text := (Text.repeated gap? text).2

/-- An item of an array, with what may stand around it. -/
def arrayItem? (value? : Text → Option (Toml × Text)) (text : Text) : Option (Toml × Text) :=
  (value? (skipGaps text)).map fun (item, rest) => (item, skipGaps rest)

/-- The array after its opening bracket. The last item may have a comma after it. -/
def array? (value? : Text → Option (Toml × Text)) (text : Text) : Option (Toml × Text) := do
  let (found, rest) := separated ',' (arrayItem? value?) text
  let rest := if found.isEmpty then rest else (Text.expect? ',' rest).getD rest
  some (.array found, ← Text.expect? ']' (skipGaps rest))

/-- A key and its value. -/
def assignment? (value? : Text → Option (Toml × Text)) (text : Text) :
    Option ((List Text × Toml) × Text) := do
  let (key, rest) ← key? text
  let (value, rest) ← value? (skipSpace (← Text.expect? '=' rest))
  some ((key, value), rest)

/-- The inline table after its opening brace. -/
def inlineTable? (value? : Text → Option (Toml × Text)) (text : Text) : Option (Toml × Text) := do
  let item? := fun text => (assignment? value? text).map fun (found, rest) =>
    (found, skipSpace rest)
  let (found, rest) := separated ',' item? text
  let rest ← Text.expect? '\x7d' (skipSpace rest)
  some (← tableOf? found, rest)

/-- A value that holds no others. -/
def scalar? (text : Text) : Option (Toml × Text) :=
  match text with
  | [] => none
  | c :: _ =>
    if c = '"' || c = '\'' then (text? text).map fun (value, rest) => (.text value, rest)
    else if c = 't' then (Text.after? "true".toList text).map (.bool true, ·)
    else if c = 'f' then (Text.after? "false".toList text).map (.bool false, ·)
    else
      match moment? text, float? text, integer? text with
      | some (value, rest), _, _ => some (.moment value, rest)
      | none, some (value, rest), _ => some (.float value, rest)
      | none, none, some (value, rest) => some (.integer value, rest)
      | none, none, none => none

/-- The value at the front, with at most `depth` arrays and tables inside one another. -/
def value? : (depth : Nat) → Text → Option (Toml × Text)
  | depth + 1, '[' :: rest => array? (value? depth) rest
  | depth + 1, '\x7b' :: rest => inlineTable? (value? depth) rest
  | _, input => scalar? input

/-- The path of a header between its brackets, and what follows the line. -/
def header? (opening closing text : Text) : Option (List Text × Text) := do
  let (path, rest) ← key? (← Text.after? opening text)
  some (path, ← lineEnd? (← Text.after? closing rest))

/-- The statement of a line that starts with no white space; none for an empty line. -/
def statement? (text : Text) : Option (Option Statement × Text) :=
  match text with
  | [] => none
  | c :: _ =>
    if c = '#' || c = '\n' || c = '\r' then (lineEnd? text).map (none, ·)
    else if c = '[' then
      if Text.beginsWith ['[', '['] text then
        (header? ['[', '['] [']', ']'] text).map fun (path, rest) => (some (.listHeader path), rest)
      else (header? ['['] [']'] text).map fun (path, rest) => (some (.tableHeader path), rest)
    else do
      let ((key, value), rest) ← assignment? (value? maxDepth) text
      some (some (.assignment key value), ← lineEnd? rest)

/-- The statement of a line, and what follows the white space after it. -/
def line? (text : Text) : Option (Option Statement × Text) :=
  (statement? text).map fun (found, rest) => (found, skipSpace rest)

/-- The text without the mark of its encoding. -/
def dropMark : Text → Text
  | c :: rest => if c.toNat = 0xFEFF then rest else c :: rest
  | [] => []

/-- The table that a TOML document writes. -/
def read? (text : Text) : Option (List (Text × Toml)) := do
  let (found, rest) := Text.repeated line? (skipSpace (dropMark text))
  if rest ≠ [] then none
  else
    let draft ← (found.filterMap id).foldlM Draft.add? ⟨[], []⟩
    some (finished draft.members)

end Citations.Toml
