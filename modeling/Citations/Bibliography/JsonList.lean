import Citations.Json.Reader
import Citations.Bibliography.Entry

/-!
# Bibliographies as JSON lists

A source in the list format is a JSON array of objects. An object with a text under `id` is a
record; everything else in the array is passed over. Field names are matched without regard to
the case of ASCII letters, and a nested value reads as its scalars with commas between them.
-/
namespace Citations.JsonList

mutual

/-- What a value reads as. -/
def flat : Json → Text
  | .null => []
  | .bool value => if value then "true".toList else "false".toList
  | .number value => value.text
  | .text value => value
  | .array items => Text.join ", ".toList (flatItems items)
  | .object members => Text.join ", ".toList (flatMembers members)

/-- What the items of an array read as. -/
def flatItems : List Json → List Text
  | [] => []
  | item :: rest => flat item :: flatItems rest

/-- What the members of an object read as. -/
def flatMembers : List (Text × Json) → List Text
  | [] => []
  | (_, value) :: rest => flat value :: flatMembers rest

end

/-- What a list of people reads as: each one flat, with `and` between them. -/
def people : Json → Text
  | .array items => Text.join " and ".toList (flatItems items)
  | other => flat other

/-- The first member with a name, whatever the case of its ASCII letters. -/
def member? (members : List (Text × Json)) (name : Text) : Option Json :=
  (members.find? fun member => Text.sameIgnoringCase member.1 name).map (·.2)

/-- The member that holds a field: the date may also be given as the time of issue. -/
def memberFor? (members : List (Text × Json)) (name : Text) : Option Json :=
  if name = "date".toList then (member? members name).or (member? members "issued".toList)
  else member? members name

/-- What a field of a record reads as. A value that reads as nothing counts as absent, except
for people. -/
def value? (members : List (Text × Json)) (name : Text) : Option Text := do
  let value ← memberFor? members name
  if name = "author".toList ∨ name = "editor".toList then some (people value)
  else if flat value = [] then none
  else some (flat value)

/-- The entry that an element of the array stands for. -/
def entry? (source : Path) (allowed : List Text) : Json → Option Entry
  | .object members =>
    match Json.member? "id".toList members with
    | some (.text key) => some ⟨key, source, ⟨0, 0⟩, selectFields allowed (value? members)⟩
    | _ => none
  | _ => none

end Citations.JsonList
