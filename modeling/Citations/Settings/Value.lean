import Citations.Json.Value
import Citations.Text.Case
import Citations.CrossRef.Kind
import Citations.Toml.Value

/-!
# Values of settings

What a settings file gives, before it is known what is wanted. A setting takes what can be read
as a value of its kind: a truth value is also a number, zero or not, or one of a few words; a size
is also a truth value, one of those words, digits, or a number that is rounded; a text is also a
truth value or a number.
-/
namespace Citations.Settings

/-- A value in a settings file. -/
inductive Value where
  /-- Nothing. -/
  | nothing
  /-- A truth value. -/
  | bool (value : Bool)
  /-- An integer of 64 bits with a sign. -/
  | integer (value : Int)
  /-- A number of double precision. -/
  | float (value : Binary64)
  /-- A text. -/
  | text (value : Text)
  /-- Values in order. -/
  | list (items : List Value)
  /-- Named values. -/
  | table (members : List (Text × Value))

namespace Value

/-- The value that a number stands for. Integers beyond 64 bits with a sign are rounded. -/
def ofNumber : Json.Number → Value
  | .integer value =>
    if value < Nat.pow 2 63 then .integer value else .float (Binary64.ofNat value.toNat)
  | .double value => .float value

mutual

/-- The value that a JSON value stands for. -/
def ofJson : Json → Value
  | .null => .nothing
  | .bool value => .bool value
  | .number value => ofNumber value
  | .text value => .text value
  | .array items => .list (ofJsonItems items)
  | .object members => .table (ofJsonMembers members)

/-- The values that the items of a JSON array stand for. -/
def ofJsonItems : List Json → List Value
  | [] => []
  | item :: rest => ofJson item :: ofJsonItems rest

/-- The values that the members of a JSON object stand for. -/
def ofJsonMembers : List (Text × Json) → List (Text × Value)
  | [] => []
  | (name, value) :: rest => (name, ofJson value) :: ofJsonMembers rest

end

mutual

/-- The value that a TOML value stands for. -/
def ofToml : Toml → Value
  | .text value => .text value
  | .integer value => .integer value
  | .float value => .float value
  | .bool value => .bool value
  | .moment value => .text value.text
  | .array items => .list (ofTomlItems items)
  | .table members => .table (ofTomlMembers members)

/-- The values that the items of a TOML array stand for. -/
def ofTomlItems : List Toml → List Value
  | [] => []
  | item :: rest => ofToml item :: ofTomlItems rest

/-- The values that the members of a TOML table stand for. -/
def ofTomlMembers : List (Text × Toml) → List (Text × Value)
  | [] => []
  | (name, value) :: rest => (name, ofToml value) :: ofTomlMembers rest

end

/-- The truth value that a word stands for, whatever its case. -/
def wordBool? (word : Text) : Option Bool :=
  let word := Text.lower word
  if ["true".toList, "on".toList, "yes".toList].contains word then some true
  else if ["false".toList, "off".toList, "no".toList].contains word then some false
  else none

/-- The value as a truth value. -/
def bool? : Value → Option Bool
  | bool value => some value
  | integer value => some (value ≠ 0)
  | float value => some (!value.isZero)
  | text value =>
    if value = ['1'] then some true else if value = ['0'] then some false else wordBool? value
  | _ => none

/-- The size that digits write, with a plus sign or without one, if it fits 64 bits. -/
def digitsSize? (text : Text) : Option Nat := do
  let digits ← (match text with
    | '+' :: rest => rest
    | _ => text).mapM Text.digit?
  let size := Text.numeral 10 digits
  if digits ≠ [] ∧ size < Nat.pow 2 64 then some size else none

/-- The value as a size of 64 bits. -/
def size? : Value → Option Nat
  | bool value => some value.toNat
  | integer value => if value < 0 then none else some value.toNat
  | float value => some (value.toBoundedNat (Nat.pow 2 64))
  | text value =>
    match wordBool? value with
    | some truth => some truth.toNat
    | none => digitsSize? value
  | _ => none

/-- The text of a number of double precision: its shortest digits, without an exponent. -/
def floatText : Binary64 → Text
  | .finite negative significand exponent =>
    (if negative then ['-'] else []) ++
      if significand = 0 then ['0']
      else Shortest.positional (Shortest.ofFinite significand exponent) []
  | .infinite negative => (if negative then ['-'] else []) ++ "inf".toList
  | .undefined => "NaN".toList

/-- The value as a text. -/
def text? : Value → Option Text
  | bool value => some (if value then "true".toList else "false".toList)
  | integer value => some (Json.integerText value)
  | float value => some (floatText value)
  | text value => some value
  | _ => none

/-- The value as a list of texts. -/
def texts? : Value → Option (List Text)
  | list items => items.mapM text?
  | _ => none

/-- The value as a text that may be left out. -/
def optionalText? : Value → Option (Option Text)
  | nothing => some none
  | other => other.text?.map some

/-- The mode with a name, whatever its case. -/
def namedMode? (name : Text) : Option LabelMode :=
  let name := Text.lower name
  if name = "full".toList then some .full
  else if name = "minimal".toList then some .minimal
  else if name = "none".toList then some .none
  else none

/-- The value as a mode: its name, or a table with only that name. -/
def mode? : Value → Option LabelMode
  | text name => namedMode? name
  | table [(name, _)] => namedMode? name
  | _ => none

end Value

end Citations.Settings
