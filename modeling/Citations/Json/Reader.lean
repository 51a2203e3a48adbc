import Citations.Json.Token

/-!
# Reading JSON

The tokens of a text drive a machine whose stack holds the arrays and objects that are still
open. Every token moves the machine one step or makes the text invalid; the text is valid when
its last token leaves one finished value and an empty stack. Values nest at most 127 deep.
-/
namespace Citations.Json

/-- An array or object that is still open. -/
inductive Frame where
  /-- The items so far, last first. -/
  | array (items : List Json)
  /-- The members so far, and the name whose value comes next. -/
  | object (members : List (Text × Json)) (name : Text)

/-- What the machine accepts next. -/
inductive Awaiting where
  /-- A value. -/
  | value
  /-- The first item of an array, or its end. -/
  | firstItem
  /-- The first name of an object, or its end. -/
  | firstName
  /-- A name, after a comma. -/
  | name
  /-- The colon after a name. -/
  | colon
  /-- A comma or the end of the innermost open value. -/
  | separator
  /-- Nothing more: the text is one value. -/
  | finished (value : Json)

/-- A machine between two tokens. -/
structure Machine where
  /-- The open values, innermost first. -/
  stack : List Frame
  /-- What may come next. -/
  awaiting : Awaiting

/-- The greatest number of values open at a time. -/
def maxDepth : Nat := 127

/-- Put a finished value where it belongs. -/
def Machine.give (value : Json) : List Frame → Machine
  | [] => ⟨[], .finished value⟩
  | .array items :: outer => ⟨.array (value :: items) :: outer, .separator⟩
  | .object members name :: outer =>
    ⟨.object (setMember name value members) name :: outer, .separator⟩

/-- Open an array or object, unless too many are open. -/
def Machine.enter? (frame : Frame) (awaiting : Awaiting) (stack : List Frame) : Option Machine :=
  if stack.length < maxDepth then some ⟨frame :: stack, awaiting⟩ else none

/-- Begin a value with a token. -/
def Machine.begin? (stack : List Frame) : Token → Option Machine
  | .openArray => enter? (.array []) .firstItem stack
  | .openObject => enter? (.object [] []) .firstName stack
  | .text value => some (give (.text value) stack)
  | .literal value => some (give value stack)
  | _ => none

/-- One token. -/
def Machine.step? (machine : Machine) (token : Token) : Option Machine :=
  match machine.awaiting, token, machine.stack with
  | .firstItem, .closeArray, .array _ :: outer => some (give (.array []) outer)
  | .firstItem, token, stack => begin? stack token
  | .value, token, stack => begin? stack token
  | .firstName, .closeObject, .object _ _ :: outer => some (give (.object []) outer)
  | .firstName, .text name, .object members _ :: outer =>
    some ⟨.object members name :: outer, .colon⟩
  | .name, .text name, .object members _ :: outer =>
    some ⟨.object members name :: outer, .colon⟩
  | .colon, .colon, stack => some ⟨stack, .value⟩
  | .separator, .comma, .array items :: outer => some ⟨.array items :: outer, .value⟩
  | .separator, .comma, .object members name :: outer =>
    some ⟨.object members name :: outer, .name⟩
  | .separator, .closeArray, .array items :: outer => some (give (.array items.reverse) outer)
  | .separator, .closeObject, .object members _ :: outer => some (give (.object members) outer)
  | _, _, _ => none

/-- The value that a JSON text writes. -/
def read? (input : Text) : Option Json := do
  let machine ← (← tokens? input).foldlM Machine.step? ⟨[], .value⟩
  match machine.awaiting with
  | .finished value => some value
  | _ => none

end Citations.Json
