import Citations.Text.Basic

/-!
# Paths

A path keeps the text it was written as, because answers show it, and is compared by its
components: repeated and trailing slashes and inner `.` segments make no difference. A `..`
is a component like any other until the path is resolved.
-/
namespace Citations

/-- A path as written, with `/` between its segments. -/
structure Path where
  /-- The written form. -/
  text : Text
  deriving DecidableEq, Repr, Inhabited

/-- One step of a path. -/
inductive Component where
  /-- The `.` that a relative path begins with. -/
  | current
  /-- A `..`. -/
  | parent
  /-- Any other segment. -/
  | name (text : Text)
  deriving DecidableEq, Repr

/-- What two paths have in common when they are the same path. -/
structure Parts where
  /-- Whether the path starts at the root. -/
  absolute : Bool
  /-- The steps in order. -/
  components : List Component
  deriving DecidableEq, Repr

/-- The component that an inner segment stands for; an empty segment and `.` stand for none. -/
def Component.ofSegment? (segment : Text) : Option Component :=
  if segment = [] ∨ segment = ['.'] then none
  else if segment = ['.', '.'] then some .parent
  else some (.name segment)

/-- The segment that writes a component. -/
def Component.segment : Component → Text
  | .current => ['.']
  | .parent => ['.', '.']
  | .name text => text

namespace Path

/-- Whether the path starts at the root. -/
def isAbsolute (path : Path) : Bool := path.text.head? = some '/'

/-- The segments after the root. -/
def segments (path : Path) : List Text :=
  Text.splitAt '/' (if path.isAbsolute then path.text.tail else path.text)

/-- The `.` segment that a relative path begins with, if it does. -/
def lead (path : Path) : List Text :=
  if !path.isAbsolute && path.segments.head? = some ['.'] then [['.']] else []

/-- The segments after the root and the leading `.`. -/
def inner (path : Path) : List Text := path.segments.drop path.lead.length

/-- The steps of the path in order. -/
def components (path : Path) : List Component :=
  path.lead.map (fun _ => .current) ++ path.inner.filterMap Component.ofSegment?

/-- What the path is compared by. -/
def parts (path : Path) : Parts := ⟨path.isAbsolute, path.components⟩

/-- Two written forms of one path. -/
def Same (left right : Path) : Prop := left.parts = right.parts

instance (left right : Path) : Decidable (Same left right) :=
  inferInstanceAs (Decidable (left.parts = right.parts))

/-- Every path is the same as itself. -/
theorem Same.refl (path : Path) : Same path path := rfl

/-- Sameness is symmetric. -/
theorem Same.symm {left right : Path} (h : Same left right) : Same right left := Eq.symm h

/-- Sameness is transitive. -/
theorem Same.trans {left middle right : Path} (first : Same left middle)
    (second : Same middle right) : Same left right := Eq.trans first second

/-- The path with the given segments after the root or after nothing. -/
def ofSegments (absolute : Bool) (segments : List Text) : Path :=
  ⟨(if absolute then ['/'] else []) ++ Text.join ['/'] segments⟩

/-- The path reached from `base` by `tail`: `tail` itself when it starts at the root. -/
def join (base tail : Path) : Path :=
  if tail.isAbsolute then tail
  else if base.text = [] ∨ base.text.getLast? = some '/' then ⟨base.text ++ tail.text⟩
  else ⟨base.text ++ '/' :: tail.text⟩

/-- The segments up to the last one that stands for a component. -/
def dropIdle (segments : List Text) : List Text :=
  (segments.reverse.dropWhile fun segment => (Component.ofSegment? segment).isNone).reverse

/-- The path without its last component; a path without components has none. -/
def parent? (path : Path) : Option Path :=
  match (dropIdle path.inner).reverse with
  | [] => if path.lead = [] then none else some ⟨[]⟩
  | _ :: before => some (ofSegments path.isAbsolute (path.lead ++ dropIdle before.reverse))

/-- The last component when it is a name. -/
def fileName? (path : Path) : Option Text :=
  match path.components.getLast? with
  | some (.name text) => some text
  | _ => none

/-- What follows the last dot of the file name, unless the dot is its first character. -/
def extension? (path : Path) : Option Text := do
  let name ← path.fileName?
  let dot ← Text.findLast? ['.'] name
  if dot = 0 then none else some (name.drop (dot + 1))

/-- The path with text appended to its written form. -/
def append (path : Path) (suffix : Text) : Path := ⟨path.text ++ suffix⟩

/-- The names left after one more step, innermost first: `..` removes one, if there is one. -/
def step (names : List Text) : Component → List Text
  | .current => names
  | .parent => names.tail
  | .name text => text :: names

/-- The path without `.` and `..`, found from its written form alone. Steps above the root
stay at the root. -/
def normalize (path : Path) : Path :=
  ofSegments path.isAbsolute (path.components.foldl step []).reverse

/-- The absolute path that a candidate stands for: relative to the workspace root, else to the
document's directory, else to the current directory. -/
def resolve (current : Path) (root? document? : Option Path) (candidate : Text) : Path :=
  let path : Path := ⟨candidate⟩
  if path.isAbsolute then path.normalize
  else
    let base := root?.getD ((document?.bind parent?).getD current)
    (base.join path).normalize

/-- The steps from a directory with components `base` to components `target`. `fresh` as long
as no step has been taken; there are none when the way leads through a `..` of the base. -/
def stepsBetween (fresh : Bool) : (target base : List Component) → Option (List Component)
  | target, [] => some target
  | [], base => some (base.map fun _ => .parent)
  | t :: target, b :: base =>
    if fresh && t = b then stepsBetween true target base
    else if b = .current then (stepsBetween false target base).map (t :: ·)
    else if b = .parent then none
    else some (.parent :: base.map (fun _ => .parent) ++ t :: target)

/-- The path as seen from a directory, or as it is when there is no way between them. -/
def relativeTo (base path : Path) : Path :=
  if path.isAbsolute = base.isAbsolute then
    match stepsBetween true path.components base.components with
    | some steps => ofSegments false (steps.map Component.segment)
    | none => path
  else path

end Path

end Citations
