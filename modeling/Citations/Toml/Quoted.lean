import Citations.Text.Basic

/-!
# TOML texts

A text stands between double quotes, with escapes, or between single quotes, as it is. Three
quotes on each side let it go over several lines: a line break right after the opening ones is
left out, a carriage return before a line feed too, and between double quotes a backslash at the
end of a line takes the white space after it away. Up to two quotes right before the closing
ones belong to the text. Control characters other than the tab are refused.
-/
namespace Citations.Toml

/-- Whether a character may stand in a text or a comment as it is. -/
def isPlain (c : Char) : Bool := c = '\t' || (0x20 ≤ c.toNat && c.toNat != 0x7F)

/-- White space inside a line. -/
def isSpace (c : Char) : Bool := c = ' ' || c = '\t'

/-- What follows the white space at the front. -/
def skipSpace (text : Text) : Text := text.dropWhile isSpace

/-- What follows a line break. -/
def newline? : Text → Option Text
  | '\n' :: rest => some rest
  | '\r' :: '\n' :: rest => some rest
  | _ => none

/-- What follows white space and line breaks. -/
def skipLines : Text → Text
  | '\r' :: '\n' :: rest => skipLines rest
  | c :: rest => if isSpace c || c = '\n' then skipLines rest else c :: rest
  | [] => []

/-- The character with a code point that a number of hexadecimal digits write. -/
def codePoint? (count : Nat) (text : Text) : Option (Char × Text) := do
  let digits ← (text.take count).mapM Text.hexDigit?
  let code := Text.numeral 16 digits
  if digits.length = count ∧ (code < 0xD800 ∨ (0xE000 ≤ code ∧ code ≤ 0x10FFFF)) then
    some (Char.ofNat code, text.drop count)
  else none

/-- The character that an escape writes, after its backslash. -/
def escape? : Text → Option (Char × Text)
  | 'b' :: rest => some (Char.ofNat 8, rest)
  | 't' :: rest => some ('\t', rest)
  | 'n' :: rest => some ('\n', rest)
  | 'f' :: rest => some (Char.ofNat 12, rest)
  | 'r' :: rest => some ('\r', rest)
  | '"' :: rest => some ('"', rest)
  | '\\' :: rest => some ('\\', rest)
  | 'u' :: rest => codePoint? 4 rest
  | 'U' :: rest => codePoint? 8 rest
  | _ => none

/-- A part of a text between double quotes. -/
def basicPart? : Text → Option (Text × Text)
  | '\\' :: rest => (escape? rest).map fun (c, after) => ([c], after)
  | c :: rest => if isPlain c && c != '"' then some ([c], rest) else none
  | [] => none

/-- A part of a text between single quotes. -/
def literalPart? : Text → Option (Text × Text)
  | c :: rest => if isPlain c && c != '\'' then some ([c], rest) else none
  | [] => none

/-- The text of parts up to a closing quote, and what follows it. -/
def closed? (quote : Char) (part? : Text → Option (Text × Text)) (text : Text) :
    Option (Text × Text) :=
  let (parts, rest) := Text.repeated part? text
  match rest with
  | c :: after => if c = quote then some (parts.flatten, after) else none
  | [] => none

/-- What follows a backslash that ends a line, with the white space there. -/
def lineJoin? (text : Text) : Option Text := (newline? (skipSpace text)).map skipLines

/-- A part of a text over several lines. `isEscaping` tells whether backslashes are special. -/
def longPart? (isEscaping : Bool) (quote : Char) (text : Text) : Option (Text × Text) :=
  if Text.beginsWith [quote, quote, quote] text then none
  else match newline? text, text with
    | some rest, _ => some (['\n'], rest)
    | none, c :: rest =>
      if isEscaping && c = '\\' then
        match lineJoin? rest with
        | some after => some ([], after)
        | none => (escape? rest).map fun (x, after) => ([x], after)
      else if isPlain c then some ([c], rest)
      else none
    | none, [] => none

/-- The quotes that belong to the text before the closing ones, and what follows. -/
def closing? (quote : Char) (text : Text) : Option (Text × Text) :=
  let count := (text.takeWhile (· = quote)).length
  if count < 3 then none
  else
    let kept := min (count - 3) 2
    some (List.replicate kept quote, text.drop (kept + 3))

/-- The text over several lines after its opening quotes, and what follows it. -/
def long? (isEscaping : Bool) (quote : Char) (text : Text) : Option (Text × Text) := do
  let (parts, rest) := Text.repeated (longPart? isEscaping quote) ((newline? text).getD text)
  let (ending, after) ← closing? quote rest
  some (parts.flatten ++ ending, after)

/-- The text on one line at the front. -/
def short? : Text → Option (Text × Text)
  | '"' :: rest => closed? '"' basicPart? rest
  | '\'' :: rest => closed? '\'' literalPart? rest
  | _ => none

/-- The text at the front. -/
def text? : Text → Option (Text × Text)
  | '"' :: '"' :: '"' :: rest => long? true '"' rest
  | '\'' :: '\'' :: '\'' :: rest => long? false '\'' rest
  | text => short? text

end Citations.Toml
