import Citations.Text.Basic
import Citations.Number.Shortest

/-!
# JSON values

A value of the JSON data format. The members of an object are kept in the order of their names,
by code point, and a name that is given again keeps its last value.
-/
namespace Citations

/-- A number: an integer that fits a word of 64 bits, signed or not, or a number of double
precision. -/
inductive Json.Number where
  /-- An integer. -/
  | integer (value : Int)
  /-- A number of double precision. -/
  | double (value : Binary64)
  deriving DecidableEq, Repr

/-- A JSON value. -/
inductive Json where
  /-- The null value. -/
  | null
  /-- A truth value. -/
  | bool (value : Bool)
  /-- A number. -/
  | number (value : Json.Number)
  /-- A text. -/
  | text (value : Text)
  /-- Values in order. -/
  | array (items : List Json)
  /-- Named values. -/
  | object (members : List (Text × Json))

namespace Json

/-- The order of names by code point. -/
def precedes : Text → Text → Bool
  | _, [] => false
  | [], _ :: _ => true
  | a :: left, b :: right => if a = b then precedes left right else a.toNat < b.toNat

/-- Give a name a value among members that are in order. -/
def setMember (name : Text) (value : Json) : List (Text × Json) → List (Text × Json)
  | [] => [(name, value)]
  | (other, kept) :: rest =>
    if name = other then (name, value) :: rest
    else if precedes name other then (name, value) :: (other, kept) :: rest
    else (other, kept) :: setMember name value rest

/-- The value of a member. -/
def member? (name : Text) (members : List (Text × Json)) : Option Json :=
  (members.find? (·.1 = name)).map (·.2)

/-- The text of an integer. -/
def integerText (value : Int) : Text :=
  if value < 0 then '-' :: Text.ofNat value.natAbs else Text.ofNat value.natAbs

/-- The text of a number of double precision: its shortest digits, with `.0` when it is whole,
positional for powers of ten from -5 to 15 and scientific otherwise. -/
def doubleText : Binary64 → Text
  | .finite negative significand exponent =>
    let sign := if negative then ['-'] else []
    if significand = 0 then sign ++ "0.0".toList
    else
      let decimal := Shortest.ofFinite significand exponent
      sign ++
        if -5 ≤ decimal.power ∧ decimal.power ≤ 15 then
          Shortest.positional decimal ".0".toList
        else Shortest.scientific decimal
  | .infinite _ => "null".toList
  | .undefined => "null".toList

/-- The text of a number. -/
def Number.text : Number → Text
  | .integer value => integerText value
  | .double value => doubleText value

end Json

end Citations
