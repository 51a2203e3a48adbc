import Citations.Engine

/-!
# Hovering over keys

A document cites an entry as an at sign and its key. Hovering over such a citation, or right
after it, shows the documentation of the entry.
-/
namespace Citations

/-- A citation on a line. -/
structure Citation where
  /-- The key. -/
  key : Text
  /-- The column of the at sign. -/
  start : Nat
  /-- The column after the key. -/
  stop : Nat
  deriving DecidableEq, Repr

namespace Citation

/-- The citations on a line that starts at a column. A key takes as many characters as it
can. -/
def onLine (column : Nat) : Text → List Citation
  | [] => []
  | c :: rest =>
    let key := rest.takeWhile Text.isWord
    if c = '@' ∧ key ≠ [] then
      ⟨key, column, column + 1 + key.length⟩ ::
        onLine (column + 1 + key.length) (rest.dropWhile Text.isWord)
    else onLine (column + 1) rest
termination_by text => text.length
decreasing_by
  · have := (List.dropWhile_suffix Text.isWord (l := rest)).length_le
    simp only [List.length_cons]
    omega
  · simp

/-- The citation that a column touches; at either end counts. -/
def at? (line : Text) (column : Nat) : Option Citation :=
  (onLine 0 line).find? fun citation => citation.start ≤ column && column ≤ citation.stop

end Citation

/-- What hovering shows. -/
structure Hover where
  /-- The documentation in Markdown, every line a hard break. -/
  contents : Text
  /-- Where the citation begins. -/
  start : Position
  /-- Where it ends. -/
  stop : Position
  deriving DecidableEq, Repr

namespace Hover

/-- Line breaks as hard breaks. -/
def hardBreaks (text : Text) : Text := Text.replaceChar '\n' [' ', ' ', '\n'] text

/-- What hovering over a place of a document shows. -/
def at? (engine : Engine) (text : Text) (position : Position) : Option Hover := do
  if engine.settings.showsHover then
    let line ← (Text.lines text)[position.line]?
    let citation ← Citation.at? line position.character
    let entry ← engine.entry? citation.key
    some ⟨hardBreaks entry.documentation, ⟨position.line, citation.start⟩,
      ⟨position.line, citation.stop⟩⟩
  else none

end Hover

end Citations
