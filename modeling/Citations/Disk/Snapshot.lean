import Citations.Host

/-!
# Snapshots

What was seen of the files when they were looked at. A path that was not looked at counts as
leading nowhere.
-/
namespace Citations

/-- What was seen under a path. -/
structure Sighting where
  /-- Whether it leads to a file. -/
  isFile : Bool
  /-- The path without links, `.` and `..`. -/
  canonical : Path
  /-- The text of the file, or why there is none. -/
  content : Except Text Text

/-- What was seen under some paths. -/
structure Snapshot where
  /-- The sightings, the latest first. -/
  seen : List (Path × Sighting)

namespace Snapshot

/-- What was seen under a path, taken as it is written. -/
def find? (snapshot : Snapshot) (path : Path) : Option Sighting :=
  (snapshot.seen.find? (·.1 = path)).map (·.2)

/-- Add what was seen under a path. -/
def add (snapshot : Snapshot) (path : Path) (sighting : Sighting) : Snapshot :=
  ⟨(path, sighting) :: snapshot.seen⟩

/-- The paths that were not looked at. -/
def unseen (snapshot : Snapshot) (paths : List Path) : List Path :=
  (paths.filter fun path => (snapshot.find? path).isNone).eraseDups

/-- The host that was seen. -/
def host (snapshot : Snapshot) : Host where
  doesExist path := ((snapshot.find? path).map (·.isFile)).getD false
  canonical path := ((snapshot.find? path).map (·.canonical)).getD path
  read path := ((snapshot.find? path).map (·.content)).getD (.error "not found".toList)
  refusal? _ := none

end Snapshot

end Citations
