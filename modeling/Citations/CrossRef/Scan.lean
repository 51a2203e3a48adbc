import Citations.CrossRef.Markup
import Citations.Path.FileUrl
import Citations.Text.LineIndex

/-!
# Scanning a document for labels

A scan goes through the lines of a document and reports the label of each one that has an
attribute block. In full mode the markup of its kind has to confirm it, which also gives its
detail and preview. Tables, equations and captioned listings stand before their label and are
looked for in a window of bounded size, so that what lies further back has no influence.

The line that a preview may reach is counted in a machine word. A count that does not fit ends the
scan as a whole, so that nothing is reported.
-/
namespace Citations

/-- The bounds of a scan. -/
structure Scanner where
  /-- How many characters before a label are searched. -/
  lookback : Nat
  /-- How many rows a preview shows besides its header and separator. -/
  previewLines : Nat
  deriving DecidableEq, Repr

/-- A label found on a line. -/
structure LabelSite where
  /-- The kind that the label is for. -/
  kind : LabelKind
  /-- The label. -/
  label : Text
  /-- The number of the line. -/
  line : Nat
  /-- The line without what ends it. -/
  lineText : Text
  /-- The offset of the first character of the line. -/
  offset : Nat
  deriving DecidableEq, Repr

namespace Scanner

/-- The word size that line numbers are counted in. -/
def wordSize : Nat := Nat.pow 2 64

/-- What the cell of a table's separator row begins with. -/
def tableMarker : Text := "|:-".toList

end Scanner

/-- The marker of the block that a site is previewed by, if what it labels stands before a caption
line. -/
def LabelSite.marker? (site : LabelSite) : Option Text :=
  match site.kind with
  | .table => some Scanner.tableMarker
  | .listing => if Markup.hasFence site.lineText then none else some Markup.fence
  | .figure | .equation | .section => none

namespace LineIndex

/-- The first line of the run of lines with text that ends with a line, but none before a lowest
line. -/
def blockStart (index : LineIndex) (lowest : Nat) : Nat → Nat
  | 0 => 0
  | line + 1 =>
    if line + 1 > lowest ∧ ((index.line? line).any fun text => !Text.isBlankText text) then
      blockStart index lowest line
    else line + 1

/-- The lines from one up to but excluding another, joined. -/
def lineRange (index : LineIndex) (start stop : Nat) : Text :=
  Text.join ['\n'] ((List.range' start (stop - start)).filterMap index.line?)

end LineIndex

namespace Scanner

/-- The labels of a document, line by line. -/
def sites (index : LineIndex) : List LabelSite :=
  index.lines.filterMap fun (line, offset, text) =>
    (Markup.label? text).map fun (kind, label) => ⟨kind, label, line, text, offset⟩

/-- The element that a site stands for, with a detail and a preview. -/
def element (site : LabelSite) (detail documentation : Text) : CrossRef :=
  ⟨site.kind, site.label, detail, documentation⟩

/-- The first line of the block that holds the last marker in the window before a site. -/
def blockFirst? (scanner : Scanner) (index : LineIndex) (site : LabelSite) (marker : Text) :
    Option Nat :=
  (index.findLastBefore? site.offset scanner.lookback marker).map fun found =>
    index.blockStart (index.lineOf (LineIndex.windowStart site.offset scanner.lookback))
      (index.lineOf found)

/-- The line before which a preview ends that begins with a given one. -/
def previewEnd (scanner : Scanner) (first : Nat) : Nat := first + scanner.previewLines + 2

/-- The first lines of the block that holds the last marker in the window before a site, none of
them at or after the site. -/
def preview (scanner : Scanner) (index : LineIndex) (site : LabelSite) (marker : Text) : Text :=
  match scanner.blockFirst? index site marker with
  | none => []
  | some first =>
    Text.trimEnd (index.lineRange first (min (scanner.previewEnd first) site.line))

/-- The target of an image as a preview shows it: an address stays, a path becomes the address
of the file it names from the document. -/
def imageTarget (document? : Option Path) (target : Text) : Text :=
  if Text.contains "://".toList target then target
  else match document?.bind Path.parent? with
    | none => target
    | some directory =>
      let resolved := directory.join ⟨target⟩
      (FileUrl.ofPath? resolved).getD resolved.text

/-- A figure: an image right before the block. -/
def figure? (document? : Option Path) (site : LabelSite) : Option CrossRef :=
  (Markup.image? site.lineText).map fun (caption, target) =>
    element site caption ("![](".toList ++ imageTarget document? target ++ [')'])

/-- A section: a heading before the block. -/
def section? (site : LabelSite) : Option CrossRef :=
  (Markup.heading? site.lineText).map fun heading => element site heading []

/-- An element with a caption line after it. -/
def captioned? (scanner : Scanner) (index : LineIndex) (site : LabelSite) (marker : Text) :
    Option CrossRef :=
  (Markup.caption? site.lineText).map fun caption =>
    element site caption (scanner.preview index site marker)

/-- A listing whose opening fence carries the block: the code up to the next fence. -/
def fenced (index : LineIndex) (site : LabelSite) : CrossRef :=
  let language := (Markup.language? site.lineText).getD []
  let caption := (Markup.quotedCaption? site.lineText).getD site.label
  let start := site.offset + site.lineText.length
  let isLineEnd := fun c : Char => c = '\r' || c = '\n'
  let documentation := match index.findAfter? start Markup.fence with
    | none => []
    | some stop =>
      let body := Text.dropEndWhile isLineEnd ((index.slice start stop).dropWhile isLineEnd)
      Markup.fence ++ language ++ '\n' :: body ++ '\n' :: Markup.fence
  element site caption documentation

/-- A listing: fenced, or with a caption line after it. -/
def listing? (scanner : Scanner) (index : LineIndex) (site : LabelSite) : Option CrossRef :=
  if Markup.hasFence site.lineText then some (fenced index site)
  else scanner.captioned? index site Markup.fence

/-- An equation: the text between the last two dollar signs in the window and those before the
block. -/
def equation? (scanner : Scanner) (index : LineIndex) (site : LabelSite) : Option CrossRef := do
  let found ← Markup.equationEnd? site.lineText
  let stop := site.offset + found
  let opener ← index.findLastBefore? stop scanner.lookback "$$".toList
  some (element site site.label (Text.trim (index.slice (opener + 2) stop)))

/-- The element of a site, if the markup confirms it. -/
def confirm? (scanner : Scanner) (index : LineIndex) (document? : Option Path)
    (site : LabelSite) : Option CrossRef :=
  match site.kind with
  | .figure => figure? document? site
  | .section => section? site
  | .table => scanner.captioned? index site tableMarker
  | .listing => scanner.listing? index site
  | .equation => scanner.equation? index site

/-- The line that the preview of a site begins with. It is looked for once there is a caption. -/
def previewFirst? (scanner : Scanner) (index : LineIndex) (site : LabelSite) : Option Nat := do
  let marker ← site.marker?
  let _ ← Markup.caption? site.lineText
  scanner.blockFirst? index site marker

/-- Whether the line before which the preview of a site ends does not fit a machine word. -/
def overruns (scanner : Scanner) (index : LineIndex) (site : LabelSite) : Bool :=
  (scanner.previewFirst? index site).any fun first => wordSize ≤ scanner.previewEnd first

/-- The labelled elements of a document, in order, if every count fits a machine word. -/
def scan (scanner : Scanner) (text : Text) (document? : Option Path) (mode : LabelMode) :
    List CrossRef :=
  let index := LineIndex.ofText text
  match mode with
  | .none => []
  | .minimal => (sites index).map fun site => element site [] []
  | .full => (sites index).filterMap (scanner.confirm? index document?)

/-- What a scan of a document reports: nothing at all if it counts past the last machine word. -/
def scan? (scanner : Scanner) (text : Text) (document? : Option Path) (mode : LabelMode) :
    Option (List CrossRef) :=
  let index := LineIndex.ofText text
  if mode = .full ∧ (sites index).any (scanner.overruns index) then none
  else some (scanner.scan text document? mode)

end Scanner

end Citations
