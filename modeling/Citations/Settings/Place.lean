import Citations.Settings.Value

/-!
# Places of settings

A key names a place among nested values: a name, then further names after dots and positions in
brackets. Giving a place a value makes the tables and lists on the way, in place of anything else
that is there. A table is merged into what is there name by name; any other value replaces it.
Names are compared in small letters.
-/
namespace Citations.Settings

/-- A step from a value to one inside it. -/
inductive Step where
  /-- To a member of a table. -/
  | member (name : Text)
  /-- To an item of a list, counted from its end if negative. -/
  | item (index : Int)
  deriving DecidableEq, Repr

/-- A place among the values of settings. -/
structure Place where
  /-- The name of the outermost value. -/
  name : Text
  /-- The steps from there. -/
  steps : List Step
  deriving DecidableEq, Repr

/-- Whether a character may stand in a name of a key with steps. -/
def isKeyChar (c : Char) : Bool := c.isAlphanum || c = ' ' || c = '_' || c = '-'

/-- The name at the front. -/
def keyName? (text : Text) : Option (Text × Text) :=
  match text.takeWhile isKeyChar with
  | [] => none
  | name => some (Text.lower name, text.dropWhile isKeyChar)

/-- The position at the front, with what may stand around it, if it fits 64 bits. -/
def keyIndex? (text : Text) : Option (Int × Text) := do
  let text := text.dropWhile fun c => c = ' ' || c = '\t'
  let negative := text.head? = some '-'
  let text := if negative then text.tail else text
  let digits := (text.takeWhile Char.isDigit).filterMap Text.digit?
  let size := Text.numeral 10 digits
  let fits := size < Nat.pow 2 63 || (negative && size = Nat.pow 2 63)
  if digits = [] || !fits then none
  else
    let rest := (text.dropWhile Char.isDigit).dropWhile fun c => c = ' ' || c = '\t'
    some (if negative then -size else size, rest)

/-- The step at the front. -/
def step? : Text → Option (Step × Text)
  | '.' :: rest => (keyName? rest).map fun (name, after) => (.member name, after)
  | '[' :: rest => do
    let (index, after) ← keyIndex? rest
    some (.item index, ← Text.expect? ']' after)
  | _ => none

/-- The place that a key names. A key that is not made of names and steps is one name. -/
def Place.ofKey (key : Text) : Place :=
  match keyName? key with
  | none => ⟨Text.lower key, []⟩
  | some (name, rest) =>
    let (steps, last) := Text.repeated step? rest
    if last = [] then ⟨name, steps⟩ else ⟨Text.lower key, []⟩

/-- The members of named values. -/
abbrev Members := List (Text × Value)

/-- The value of a name. -/
def member? (name : Text) (members : Members) : Option Value :=
  (members.find? (·.1 = name)).map (·.2)

/-- Give a name a value. -/
def setMember (name : Text) (value : Value) : Members → Members
  | [] => [(name, value)]
  | (other, kept) :: rest =>
    if other = name then (name, value) :: rest else (other, kept) :: setMember name value rest

namespace Value

/-- The members of a table; other values have none. -/
def members : Value → Members
  | table members => members
  | _ => []

/-- The items of a list; other values have none. -/
def items : Value → List Value
  | list items => items
  | _ => []

mutual

/-- What a value makes of what is at its place. -/
def mergeInto (existing? : Option Value) : Value → Value
  | table members => mergeMembers (existing?.getD (.table [])) members
  | other => other

/-- What the members of a table make of what is at its place. -/
def mergeMembers (target : Value) : List (Text × Value) → Value
  | [] => target
  | (name, value) :: rest =>
    let name := Text.lower name
    mergeMembers
      (.table (setMember name (mergeInto (member? name target.members) value) target.members)) rest

end

/-- The position of an item; none before the front of the list. -/
def position? (index : Int) (length : Nat) : Option Nat :=
  if 0 ≤ index then some index.toNat
  else if index.natAbs ≤ length then some (length - index.natAbs)
  else none

/-- Change the value that some steps lead to. -/
def update (change : Option Value → Value) : List Step → Option Value → Value
  | [], value? => change value?
  | .member name :: rest, value? =>
    let members := (value?.map Value.members).getD []
    .table (setMember name (update change rest (member? name members)) members)
  | .item index :: rest, value? =>
    let items := (value?.map Value.items).getD []
    match position? index items.length with
    | none => .list items
    | some position =>
      let items := items ++ List.replicate (position + 1 - items.length) .nothing
      .list (items.set position (update change rest items[position]?))

end Value

/-- Give a place a value. -/
def Place.put (place : Place) (value : Value) (members : Members) : Members :=
  let change := match place.steps.getLast? with
    | some (.item _) => fun _ => value
    | _ => fun existing? => value.mergeInto existing?
  setMember place.name (Value.update change place.steps (member? place.name members)) members

end Citations.Settings
