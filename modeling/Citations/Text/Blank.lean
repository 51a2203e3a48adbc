import Citations.Text.Basic

/-!
# White space

White space is what text is trimmed of and cut into words at: the blanks and line breaks of
any script. It has few members, so the test lists them.
-/
namespace Citations.Text

/-- Tab, line feed, vertical tab, form feed, carriage return, space, and the blanks and
separators beyond ASCII. -/
def isBlank (c : Char) : Bool :=
  let code := c.toNat
  (9 ≤ code && code ≤ 13) || code == 0x20 || code == 0x85 || code == 0xA0 || code == 0x1680 ||
    (0x2000 ≤ code && code ≤ 0x200A) || code == 0x2028 || code == 0x2029 || code == 0x202F ||
    code == 0x205F || code == 0x3000

/-- Without the white space at the front. -/
def trimStart (text : Text) : Text := text.dropWhile isBlank

/-- Without the white space at the end. -/
def trimEnd (text : Text) : Text := dropEndWhile isBlank text

/-- Without white space at either end. -/
def trim (text : Text) : Text := trimEnd (trimStart text)

/-- Whether nothing but white space is there. -/
def isBlankText (text : Text) : Bool := text.all isBlank

/-- The words: the maximal runs without white space. -/
def words (text : Text) : List Text := (pieces isBlank text).filter (· ≠ [])

/-- The words with one space between each two. -/
def collapse (text : Text) : Text := join [' '] (words text)

end Citations.Text
