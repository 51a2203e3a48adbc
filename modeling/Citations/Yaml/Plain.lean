import Citations.Number.Binary64
import Citations.Yaml.Node

/-!
# What scalars stand for

A scalar in quotes or as a block is a text. A plain one is a text unless it has the form of
null, of a truth value or of a number. A tag of the core schema overrules the form; a tag that
the application defines makes the node something that is no text.
-/
namespace Citations.Yaml

/-- The plain forms of null. -/
def nullForms : List Text := ["".toList, "null".toList, "Null".toList, "NULL".toList, "~".toList]

/-- The plain forms of truth values. -/
def truthForms : List Text :=
  ["true".toList, "True".toList, "TRUE".toList, "false".toList, "False".toList, "FALSE".toList]

/-- The plain forms of what is infinite or undefined. -/
def specialForms : List Text :=
  [".inf".toList, ".Inf".toList, ".INF".toList, "+.inf".toList, "+.Inf".toList, "+.INF".toList,
    "-.inf".toList, "-.Inf".toList, "-.INF".toList, ".nan".toList, ".NaN".toList, ".NAN".toList]

/-- Without one sign at the front. -/
def dropSign : Text → Text
  | '+' :: rest => rest
  | '-' :: rest => rest
  | text => text

/-- Several digits that begin with a zero, perhaps with a sign: they are no number. -/
def hasLeadingZero (text : Text) : Bool :=
  let digits := dropSign text
  digits.length > 1 && digits.head? = some '0' && digits.all Char.isDigit

/-- The value of a digit in a base of at most sixteen. -/
def digitIn? (base : Nat) (c : Char) : Option Nat := (Text.hexDigit? c).filter (· < base)

/-- The number that at least one digit in a base writes. -/
def digitsIn? (base : Nat) (text : Text) : Option Nat :=
  if text = [] then none else (text.mapM (digitIn? base)).map (Text.numeral base)

/-- The bases that an integer may name. -/
def bases : List (Text × Nat) := [("0x".toList, 16), ("0o".toList, 8), ("0b".toList, 2)]

/-- Whether a text writes an integer of at most 128 bits, in a named base or in decimal. -/
def isInteger (text : Text) : Bool :=
  let isNegative := text.head? = some '-'
  let bound := if isNegative then Nat.pow 2 127 else Nat.pow 2 128 - 1
  let unsigned := dropSign text
  let inBase := bases.any fun (mark, base) =>
    (Text.after? mark unsigned).any fun digits => (digitsIn? base digits).any (· ≤ bound)
  inBase || (!hasLeadingZero text && (digitsIn? 10 unsigned).any (· ≤ bound))

/-- The digits of an exponent with a sign. -/
def exponentOf? (text : Text) : Option Int :=
  (digitsIn? 10 (dropSign text)).map fun n =>
    if text.head? = some '-' then -(n : Int) else (n : Int)

/-- The number that decimal digits with a point and an exponent write; the point and the
exponent may be left out, but not every digit. -/
def decimal? (text : Text) : Option Binary64 := do
  let unsigned := dropSign text
  let whole := unsigned.takeWhile Char.isDigit
  let rest := unsigned.dropWhile Char.isDigit
  let (fraction, rest) := match rest with
    | '.' :: rest => (rest.takeWhile Char.isDigit, rest.dropWhile Char.isDigit)
    | rest => ([], rest)
  let digits ← digitsIn? 10 (whole ++ fraction)
  let exponent ← match rest with
    | [] => some 0
    | e :: rest => if e = 'e' ∨ e = 'E' then exponentOf? rest else none
  some (Binary64.ofDecimal (text.head? = some '-') digits (exponent - fraction.length))

/-- Whether a text writes a number that is not an integer: one that is finite when it is
rounded, or a special form. -/
def isReal (text : Text) : Bool :=
  specialForms.contains text ||
    (!hasLeadingZero text && (decimal? text).any Binary64.isFinite)

/-- Whether a plain scalar is a text. -/
def isPlainText (text : Text) : Bool :=
  !(nullForms.contains text || truthForms.contains text || isInteger text || isReal text)

/-- The tags whose scalars are no texts. -/
def scalarTags : List Text :=
  ["bool".toList, "int".toList, "float".toList, "null".toList].map
    ("tag:yaml.org,2002:".toList ++ ·)

/-- Whether a tag is defined by the application. -/
def isLocalTag (tag : Text) : Bool := tag.head? = some '!'

/-- The text that a scalar of a document stands for. -/
def Node.text? (root node : Node) : Option Text :=
  match root.resolve node with
  | .scalar _ none isPlain value => if isPlain && !isPlainText value then none else some value
  | .scalar _ (some tag) _ value =>
    if isLocalTag tag || scalarTags.contains tag then none else some value
  | _ => none

/-- The texts that a scalar or a sequence of scalars stands for. -/
def Node.texts? (root node : Node) : Option (List Text) :=
  match root.resolve node with
  | .sequence _ tag? items => if tag?.any isLocalTag then none else items.mapM (root.text? ·)
  | .scalar .. => (root.text? node).map ([·])
  | _ => none

/-- The name that a key of a mapping stands for; a key that is no scalar has none. -/
def Node.name? (root key : Node) : Option Text :=
  match root.resolve key with
  | .scalar _ _ _ value => some value
  | _ => none

/-- The values that a document gives a name, when the document is a mapping whose keys are all
scalars. -/
def Node.valuesOf? (root : Node) (name : Text) : Option (List Node) :=
  match root with
  | .mapping _ _ pairs => do
    let named ← pairs.mapM fun (key, value) => (root.name? key).map (·, value)
    some ((named.filter (·.1 = name)).map (·.2))
  | _ => none

/-- The texts that a YAML text gives a name: one value, which is a text or a sequence of
texts. -/
def textsOf? (name text : Text) : Option (List Text) := do
  let root ← document? text
  match ← root.valuesOf? name with
  | [value] => root.texts? value
  | _ => none

end Citations.Yaml
