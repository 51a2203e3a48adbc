import Citations.Path.Basic

/-!
# Errors and notices

A source that cannot be read, parsed or watched makes an error; none is fatal. What the host
gets to show is a notice, which also reports repeated keys and sources that were not found.
-/
namespace Citations

/-- Why a source could not be used. -/
inductive SourceError where
  /-- Its text could not be read. -/
  | unreadable (path : Path) (reason : Text)
  /-- Its text does not follow its format. -/
  | malformed (path : Path) (reason : Text)
  /-- Its path stands for no format. -/
  | unsupported (path : Path)
  /-- Its changes cannot be watched. -/
  | unwatchable (path : Path) (reason : Text)
  deriving DecidableEq, Repr

namespace SourceError

/-- The source in question. -/
def path : SourceError → Path
  | unreadable path _ => path
  | malformed path _ => path
  | unsupported path => path
  | unwatchable path _ => path

/-- The wording of an error. -/
def message : SourceError → Text
  | unreadable path reason =>
    "cannot read bibliography source ".toList ++ path.text ++ ": ".toList ++ reason
  | malformed path reason =>
    "malformed bibliography source ".toList ++ path.text ++ ": ".toList ++ reason
  | unsupported path => "unknown bibliography format for ".toList ++ path.text
  | unwatchable path reason => "cannot watch ".toList ++ path.text ++ ": ".toList ++ reason

end SourceError

/-- What a host may show. -/
inductive Notice where
  /-- Keys that more than one loaded entry has. -/
  | duplicateKeys (keys : List Text)
  /-- A candidate that does not exist, under no extension. -/
  | notFound (path : Path)
  /-- A source whose text could not be read. -/
  | unreadable (path : Path) (reason : Text)
  /-- A source that does not follow its format, or has none. -/
  | malformed (path : Path) (reason : Text)
  /-- A source whose changes will not be seen. -/
  | unwatched (path : Path) (reason : Text)
  deriving DecidableEq, Repr

namespace Notice

/-- The notice of an error. -/
def ofError : SourceError → Notice
  | .unreadable path reason => .unreadable path reason
  | .malformed path reason => .malformed path reason
  | .unsupported path => .malformed path "unknown bibliography format".toList
  | .unwatchable path reason => .unwatched path reason

/-- The wording of a notice. -/
def message : Notice → Text
  | duplicateKeys keys => "Duplicate key(s): ".toList ++ Text.join [','] keys
  | notFound path => "Bibliography file not found: ".toList ++ path.text
  | unreadable path reason => "Cannot read ".toList ++ path.text ++ ": ".toList ++ reason
  | malformed path reason => "Cannot parse ".toList ++ path.text ++ ": ".toList ++ reason
  | unwatched path reason =>
    "Cannot watch ".toList ++ path.text ++ " for changes: ".toList ++ reason

/-- The source in question; repeated keys have none. -/
def path? : Notice → Option Path
  | duplicateKeys _ => none
  | notFound path => some path
  | unreadable path _ => some path
  | malformed path _ => some path
  | unwatched path _ => some path

end Notice

end Citations
