import Citations.Host
import Citations.Text.Quoted

/-!
# File trees

Directories with files and symbolic links in them. A path is followed name by name: each name
but the last has to lead to a directory, a `..` leads to the directory above, and a link is
replaced by what it points to, seen from where it is. Following ends because it goes through a
limited number of links, and between two links through fewer names each time.
-/
namespace Citations

/-- Why something cannot be done with a file. -/
inductive FileError where
  /-- There is nothing under the path. -/
  | missing
  /-- It is a directory. -/
  | isDirectory
  /-- What should be a directory is none. -/
  | notDirectory
  /-- Its content is not text. -/
  | notText
  /-- The path has a character that no path has. -/
  | badName
  /-- The path or a name in it is too long. -/
  | longName
  /-- The path leads through too many links. -/
  | linkLoop
  deriving DecidableEq, Repr

/-- The wording of an error. -/
def FileError.message : FileError → Text
  | missing => "No such file or directory (os error 2)".toList
  | isDirectory => "Is a directory (os error 21)".toList
  | notDirectory => "Not a directory (os error 20)".toList
  | notText => "stream did not contain valid UTF-8".toList
  | badName => "file name contained an unexpected NUL byte".toList
  | longName => "File name too long (os error 36)".toList
  | linkLoop => "Too many levels of symbolic links (os error 40)".toList

/-- What a name stands for. -/
inductive FileNode where
  /-- A file with its octets. -/
  | file (octets : List UInt8)
  /-- A link to a path. -/
  | link (target : Path)
  /-- A directory. -/
  | directory
  deriving DecidableEq, Repr

/-- Files, links and directories under their names from the root, and the directory of the
process. -/
structure FileTree where
  /-- What there is. -/
  nodes : List (List Text × FileNode)
  /-- The names of the directory that relative paths start from. -/
  current : List Text

namespace FileTree

/-- What is under some names. The root is a directory. -/
def node? (tree : FileTree) (names : List Text) : Option FileNode :=
  if names = [] then some .directory
  else (tree.nodes.find? (·.1 = names)).map (·.2)

/-- Put something under some names, and make the directories above it. -/
def insert (tree : FileTree) (names : List Text) (node : FileNode) : FileTree :=
  let above := ((List.range names.length).map names.take).filter fun prior =>
    (tree.node? prior).isNone
  { tree with
    nodes := tree.nodes.filter (·.1 ≠ names) ++
      above.map (fun prior => (prior, .directory)) ++ [(names, node)] }

/-- The number of octets that a text takes. -/
def octetCount (text : Text) : Nat := (String.ofList text).utf8ByteSize

/-- The greatest number of links on the way. -/
def maxLinks : Nat := 40

/-- The greatest number of octets of a name. -/
def maxName : Nat := 255

/-- The greatest number of octets of a path. -/
def maxPath : Nat := 4095

/-- Follow the segments of a path from a directory, through at most `links` links. -/
def follow (tree : FileTree) : (links : Nat) → (here ahead : List Text) →
    Except FileError (List Text)
  | _, here, [] => .ok here
  | links, here, segment :: ahead =>
    if tree.node? here ≠ some .directory then .error .notDirectory
    else if segment = [] ∨ segment = ['.'] then follow tree links here ahead
    else if segment = ['.', '.'] then follow tree links here.dropLast ahead
    else if maxName < octetCount segment then .error .longName
    else
      match tree.node? (here ++ [segment]), links with
      | none, _ => .error .missing
      | some (.link _), 0 => .error .linkLoop
      | some (.link target), links + 1 =>
        follow tree links (if target.isAbsolute then [] else here) (target.segments ++ ahead)
      | some _, links => follow tree links (here ++ [segment]) ahead
termination_by links _ ahead => (links, ahead.length)

/-- The names that a path leads to. -/
def locate (tree : FileTree) (path : Path) : Except FileError (List Text) :=
  if path.text = [] then .error .missing
  else if Text.contains ['\x00'] path.text then .error .badName
  else if maxPath < octetCount path.text then .error .longName
  else tree.follow maxLinks (if path.isAbsolute then [] else tree.current) path.segments

/-- What a path leads to. -/
def at? (tree : FileTree) (path : Path) : Except FileError FileNode := do
  let names ← tree.locate path
  match tree.node? names with
  | some node => .ok node
  | none => .error .missing

/-- Whether a path leads to a file. -/
def isFile (tree : FileTree) (path : Path) : Bool :=
  match tree.at? path with
  | .ok (.file _) => true
  | _ => false

/-- The path without links, `.` and `..`; one that leads nowhere stays as it is. -/
def canonical (tree : FileTree) (path : Path) : Path :=
  match tree.locate path with
  | .ok names => .ofSegments true names
  | .error _ => path

/-- The text of a file. -/
def read (tree : FileTree) (path : Path) : Except FileError Text := do
  match ← tree.at? path with
  | .file octets =>
    match String.fromUTF8? ⟨octets.toArray⟩ with
    | some text => .ok text.toList
    | none => .error .notText
  | _ => .error .isDirectory

/-- Why changes in a directory cannot be reported, if they cannot. -/
def deafness? (tree : FileTree) (directory : Path) : Option Text :=
  match tree.at? directory with
  | .ok _ => none
  | .error error =>
    let reason := if error = .missing then "No path was found.".toList else error.message
    let place := (Path.ofSegments true tree.current).join directory
    let shown := Text.replaceChar '\'' ['\\', '\''] (Text.quoted place.text)
    some (reason ++ " about [".toList ++ shown ++ [']'])

end FileTree

end Citations
