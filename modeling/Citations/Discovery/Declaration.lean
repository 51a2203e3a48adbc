import Citations.Text.Blank

/-!
# Declarations in a document

A document declares its bibliography sources in its front matter, the YAML between two lines of
three hyphens at its start, or on a line `bibliography: [a.bib, b.bib]`, which also works where
the front matter is not valid YAML. This module finds both texts; it does not read the YAML.
-/
namespace Citations.Declaration

/-- Three hyphens. -/
def rule : Text := "---".toList

/-- Whether a document begins with front matter. -/
def hasFrontMatter (text : Text) : Bool := Text.beginsWith rule (Text.trimStart text)

/-- The lines before the first one that is a rule; there are none without such a line. -/
def beforeRule? : List Text → Option (List Text)
  | [] => none
  | line :: rest =>
    if Text.trim line = rule then some [] else (beforeRule? rest).map (line :: ·)

/-- The front matter: what stands between the first line and the next line that is a rule. -/
def frontMatter? (text : Text) : Option Text :=
  if hasFrontMatter text then
    (beforeRule? (Text.lines (Text.trimStart text)).tail).map (Text.join ['\n'])
  else none

/-- A text without the equal quotes at its two ends. -/
def unquote (text : Text) : Text :=
  match text with
  | [] => []
  | first :: rest =>
    if rest.getLast? = some first ∧ (first = '"' ∨ first = '\'') then rest.dropLast else text

/-- What stands in the brackets of a declaration, after its first word. The opening bracket may
come on a later line; the closing one is the last on the line of the opening one. -/
def bracketed? (text : Text) : Option Text :=
  match Text.trimStart text with
  | '[' :: rest =>
    let line := rest.takeWhile (· ≠ '\n')
    (Text.findLast? [']'] line).map line.take
  | _ => none

/-- The brackets of the first declaration, at the start of the text or of a later line. -/
def inlineFrom? (atStart : Bool) : Text → Option Text
  | [] => none
  | c :: rest =>
    let here := if atStart then (Text.after? "bibliography:".toList (c :: rest)).bind bracketed?
      else none
    here.or (inlineFrom? (c = '\n') rest)

/-- The items of the first declaration on a line. -/
def inlineItems (text : Text) : List Text :=
  match inlineFrom? true text with
  | none => []
  | some items =>
    ((Text.splitAt ',' items).map fun item => unquote (Text.trim item)).filter (· ≠ [])

end Citations.Declaration
