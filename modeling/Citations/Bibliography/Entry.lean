import Citations.Text.Case
import Citations.Text.LineIndex
import Citations.Path.Basic

/-!
# Bibliography entries

An entry is what the rest of the library knows of a record: its key, where it stands, and the
fields that the allow-list asks for, in the order of that list. Its documentation has one line
for each field; authors, the date and a link come first.
-/
namespace Citations

/-- The name and the value of a field. -/
abbrev Field := Text × Text

/-- The value of the first field with a name. -/
def fieldValue? (name : Text) (fields : List Field) : Option Text :=
  (fields.find? (·.1 = name)).map (·.2)

/-- The fields that an allow-list asks for, in its order and each once. -/
def selectFields (allowed : List Text) (value? : Text → Option Text) : List Field :=
  allowed.eraseDups.filterMap fun name => (value? name).map (name, ·)

namespace Documentation

/-- The line of a field. -/
def line (field : Field) : Text := Text.capitalize field.1 ++ ": ".toList ++ field.2

/-- The first of some names that has a value, with that value. -/
def firstOf? (names : List Text) (fields : List Field) : Option Field :=
  names.findSome? fun name => (fieldValue? name fields).map (name, ·)

/-- The people: authors, or else editors. -/
def people? : List Field → Option Field := firstOf? ["author".toList, "editor".toList]

/-- The time of publication: a date, or else a year. -/
def time? : List Field → Option Field := firstOf? ["date".toList, "year".toList]

/-- The link: an object identifier, or else an address. -/
def link? : List Field → Option Field := firstOf? ["doi".toList, "url".toList]

/-- The line of the link. -/
def linkLine (field : Field) : Text :=
  "Link: ".toList ++ (if field.1 = "doi".toList then "https://doi.org/".toList else []) ++ field.2

/-- The names whose lines come first. -/
def promoted (fields : List Field) : List Text :=
  ((people? fields).toList ++ (time? fields).toList ++ (link? fields).toList).map (·.1)

/-- The lines, promoted fields first and the others in their order. -/
def lines (fields : List Field) : List Text :=
  (people? fields).toList.map line ++ (time? fields).toList.map line ++
    (link? fields).toList.map linkLine ++
    (fields.filter fun field => !(promoted fields).contains field.1).map line

/-- The documentation of some fields. -/
def render (fields : List Field) : Text := Text.join ['\n'] (lines fields)

end Documentation

/-- A record of a bibliography source. -/
structure Entry where
  /-- What the record is cited by. -/
  key : Text
  /-- The source that holds it. -/
  source : Path
  /-- Where it begins in its source. -/
  position : Position
  /-- The allowed fields, in the order of the allow-list. -/
  fields : List Field
  deriving DecidableEq, Repr

namespace Entry

/-- The value of a field. -/
def field? (entry : Entry) (name : Text) : Option Text := fieldValue? name entry.fields

/-- A summary, one line for each field. -/
def documentation (entry : Entry) : Text := Documentation.render entry.fields

end Entry

end Citations
