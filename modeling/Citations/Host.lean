import Citations.Path.Basic

/-!
# The host

Everything outside the library that discovery and tracking depend on: which files exist, what
they hold, under which form of their path changes are reported, and whether a path can be
watched. A host is asked at one moment; between two operations it may change.
-/
namespace Citations

/-- The answers of the world at one moment. -/
structure Host where
  /-- Whether a file exists. -/
  doesExist : Path → Bool
  /-- The form of a path under which changes are reported. -/
  canonical : Path → Path
  /-- The text of a file, or why there is none. -/
  read : Path → Except Text Text
  /-- Why a path cannot be watched, if it cannot. -/
  refusal? : Path → Option Text

namespace Path

/-- Whether a path is among others, by its components. -/
def isIn (path : Path) (paths : List Path) : Bool := paths.any fun other => Same other path

/-- The others without a path. -/
def removeFrom (path : Path) (paths : List Path) : List Path :=
  paths.filter fun other => !decide (Same other path)

/-- The others with a path at the end, unless it is there. -/
def insertInto (path : Path) (paths : List Path) : List Path :=
  if path.isIn paths then paths else paths ++ [path]

/-- The first occurrences of paths, in order. -/
def distinct (paths : List Path) : List Path :=
  paths.foldl (fun known path => path.insertInto known) []

end Path

/-- A host whose files are held in memory. -/
structure Memory where
  /-- The files and their texts. -/
  files : List (Path × Text)
  /-- The paths that stand for others. -/
  links : List (Path × Path)
  /-- The files that cannot be read. -/
  locked : List Path
  /-- The paths that cannot be watched. -/
  refused : List Path

namespace Memory

/-- What a list of pairs gives a path. -/
def lookup? {α : Type} (pairs : List (Path × α)) (path : Path) : Option α :=
  (pairs.find? fun pair => Path.Same pair.1 path).map (·.2)

/-- The pairs without those of a path. -/
def without {α : Type} (pairs : List (Path × α)) (path : Path) : List (Path × α) :=
  pairs.filter fun pair => !decide (Path.Same pair.1 path)

/-- What a path stands for: one link is followed. -/
def target (memory : Memory) (path : Path) : Path := (lookup? memory.links path).getD path

/-- The host that the files make up. -/
def host (memory : Memory) : Host where
  doesExist path := (lookup? memory.files (memory.target path)).isSome
  canonical := memory.target
  read path :=
    if (memory.target path).isIn memory.locked then .error "denied".toList
    else match lookup? memory.files (memory.target path) with
      | some text => .ok text
      | none => .error "not found".toList
  refusal? path := if path.isIn memory.refused then some "refused".toList else none

/-- Give a file a text. -/
def write (memory : Memory) (path : Path) (text : Text) : Memory :=
  { memory with files := (path, text) :: without memory.files path }

/-- Remove a file. -/
def remove (memory : Memory) (path : Path) : Memory :=
  { memory with files := without memory.files path }

/-- Make a file unreadable. -/
def lock (memory : Memory) (path : Path) : Memory :=
  { memory with locked := path.insertInto memory.locked }

/-- Make a file readable again. -/
def unlock (memory : Memory) (path : Path) : Memory :=
  { memory with locked := path.removeFrom memory.locked }

/-- Make a path unwatchable. -/
def refuse (memory : Memory) (path : Path) : Memory :=
  { memory with refused := path.insertInto memory.refused }

/-- Make a path watchable again. -/
def accept (memory : Memory) (path : Path) : Memory :=
  { memory with refused := path.removeFrom memory.refused }

end Memory

end Citations
