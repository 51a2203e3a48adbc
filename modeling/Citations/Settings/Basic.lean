import Citations.Text.Blank
import Citations.Text.Case
import Citations.CrossRef.Kind

/-!
# Settings

What a user or a project can choose, with the values that hold where nothing is chosen.
-/
namespace Citations

/-- The names of the fields that entries keep where nothing is chosen. -/
def Settings.standardFormat : List Text :=
  ["author".toList, "editor".toList, "date".toList, "year".toList, "title".toList,
    "journal".toList, "journaltitle".toList, "publisher".toList, "booktitle".toList,
    "doi".toList, "url".toList]

/-- The choices of a user or a project. -/
structure Settings where
  /-- The names of the fields that entries keep, in the order of the documentation. -/
  citationFormat : List Text := Settings.standardFormat
  /-- The document whose declarations hold for the whole project. -/
  rootFile? : Option Text := none
  /-- A source used by default. -/
  defaultBib? : Option Text := none
  /-- More sources used by default. -/
  defaultBibs : List Text := []
  /-- Whether the default sources are used. -/
  usesDefaults : Bool := false
  /-- Whether sources that no document uses are dropped. -/
  forgetsUnused : Bool := true
  /-- How much of labelled elements is reported. -/
  labelMode : LabelMode := .full
  /-- How many characters before a label are searched. -/
  lookback : Nat := 800
  /-- How many rows a preview shows besides its header and separator. -/
  previewLines : Nat := 3
  /-- Whether hovering over a key shows its entry. -/
  showsHover : Bool := true
  deriving DecidableEq, Repr

namespace Settings

/-- The names of the fields that entries keep, as they are compared: trimmed, in small letters,
blank ones left out. -/
def allowed (settings : Settings) : List Text :=
  (settings.citationFormat.map fun name => Text.lower (Text.trim name)).filter (· ≠ [])

end Settings

end Citations
