import Citations.Disk.Tree
import Citations.Notice

/-!
# Watching directories

The system reports changes by directory, so that a file that is replaced under its name stays
watched. A directory is subscribed to as long as it holds a tracked file: the number of tracked
files is kept for each directory, the system is asked when it leaves zero and when it comes back
to zero. When the system refuses to watch, the file is not tracked.
-/
namespace Citations

/-- A request to the system. -/
inductive DirectoryCall where
  /-- Report changes in a directory. -/
  | subscribe (directory : Path)
  /-- Stop reporting them. -/
  | unsubscribe (directory : Path)
  deriving DecidableEq, Repr

/-- The tracked files and their directories. -/
structure DirectoryWatch where
  /-- The tracked files. -/
  tracked : List Path
  /-- The subscribed directories, with how many tracked files each one holds. -/
  directories : List (Path × Nat)

namespace DirectoryWatch

/-- Nothing is tracked. -/
def initial : DirectoryWatch := ⟨[], []⟩

/-- What a step leads to. -/
structure Outcome where
  /-- The state after it. -/
  state : DirectoryWatch
  /-- What the system was asked for, if anything. -/
  call? : Option DirectoryCall
  /-- Why the step failed, if it did. -/
  error? : Option SourceError

/-- The directory of a file; a bare name has none. -/
def directory? (path : Path) : Option Path := path.parent?.filter (·.text ≠ [])

/-- The error of a file that has no directory. -/
def homeless (path : Path) : SourceError :=
  .unwatchable path "source has no parent directory".toList

/-- The number of tracked files of a subscribed directory. -/
def held? (state : DirectoryWatch) (directory : Path) : Option Nat :=
  (state.directories.find? fun held => Path.Same held.1 directory).map (·.2)

/-- The number of tracked files in a directory. -/
def count (state : DirectoryWatch) (directory : Path) : Nat := (state.held? directory).getD 0

/-- The directories without one. -/
def without (directory : Path) (directories : List (Path × Nat)) : List (Path × Nat) :=
  directories.filter fun held => !decide (Path.Same held.1 directory)

/-- The directories with a count for one. -/
def withCount (directory : Path) (count : Nat) : List (Path × Nat) → List (Path × Nat)
  | [] => [(directory, count)]
  | (other, kept) :: rest =>
    if Path.Same other directory then (other, count) :: rest
    else (other, kept) :: withCount directory count rest

/-- One more tracked file in a directory. -/
def raise (state : DirectoryWatch) (path directory : Path) : DirectoryWatch :=
  ⟨state.tracked ++ [path], withCount directory (state.count directory + 1) state.directories⟩

/-- One tracked file less in a directory, where that many are left. -/
def lower (state : DirectoryWatch) (path directory : Path) (left : Nat) : DirectoryWatch :=
  ⟨path.removeFrom state.tracked, withCount directory left state.directories⟩

/-- The last tracked file of a directory goes, and the directory with it. -/
def release (state : DirectoryWatch) (path directory : Path) : DirectoryWatch :=
  ⟨path.removeFrom state.tracked, without directory state.directories⟩

/-- Track a file. `system` tells why a request fails, if it does; then the file and its directory
are taken back. -/
def watch (system : DirectoryCall → Option Text) (state : DirectoryWatch) (path : Path) :
    Outcome :=
  match directory? path with
  | none => ⟨state, none, some (homeless path)⟩
  | some directory =>
    if path.isIn state.tracked then ⟨state, none, none⟩
    else
      let raised := state.raise path directory
      if 1 < raised.count directory then ⟨raised, none, none⟩
      else
        let call := DirectoryCall.subscribe directory
        match system call with
        | none => ⟨raised, some call, none⟩
        | some reason => ⟨raised.release path directory, some call, some (.unwatchable path reason)⟩

/-- Stop tracking a file. It is no longer tracked even when the system refuses. -/
def unwatch (system : DirectoryCall → Option Text) (state : DirectoryWatch) (path : Path) :
    Outcome :=
  match directory? path with
  | none => ⟨state, none, some (homeless path)⟩
  | some directory =>
    if !path.isIn state.tracked then ⟨state, none, none⟩
    else
      match state.held? directory with
      | none => ⟨{ state with tracked := path.removeFrom state.tracked }, none, none⟩
      | some count =>
        if 0 < count - 1 then ⟨state.lower path directory (count - 1), none, none⟩
        else
          let call := DirectoryCall.unsubscribe directory
          ⟨state.release path directory, some call,
            (system call).map fun reason => .unwatchable path reason⟩

end DirectoryWatch

namespace FileTree

/-- The answers of a system with these files. Reports can always be stopped. -/
def system (tree : FileTree) : DirectoryCall → Option Text
  | .subscribe directory => tree.deafness? directory
  | .unsubscribe _ => none

/-- The host that the files make up. -/
def host (tree : FileTree) : Host where
  doesExist := tree.isFile
  canonical := tree.canonical
  read path := (tree.read path).mapError FileError.message
  refusal? path :=
    match (DirectoryWatch.initial.watch tree.system path).error? with
    | some (.unwatchable _ reason) => some reason
    | _ => none

end FileTree

end Citations
