import Citations.Number.Binary64
import Citations.Text.Basic

/-!
# TOML numbers

Integers of 64 bits are written in decimal with a sign, or without one in hexadecimal, octal or
binary after `0x`, `0o` or `0b`. A number with a fraction or an exponent is rounded to double
precision; one above the greatest is refused. An underscore may stand between two digits.
-/
namespace Citations.Toml

/-- The digits at the front, and what follows. -/
def digitsFrom (digit? : Char → Option Nat) : Text → List Nat × Text
  | [] => ([], [])
  | '_' :: c :: rest =>
    match digit? c with
    | none => ([], '_' :: c :: rest)
    | some d =>
      let (more, last) := digitsFrom digit? rest
      (d :: more, last)
  | c :: rest =>
    match digit? c with
    | none => ([], c :: rest)
    | some d =>
      let (more, last) := digitsFrom digit? rest
      (d :: more, last)

/-- At least one digit at the front, with no underscore before it. -/
def digits? (digit? : Char → Option Nat) (text : Text) : Option (List Nat × Text) :=
  if text.head? = some '_' then none
  else match digitsFrom digit? text with
    | ([], _) => none
    | found => some found

/-- Whether a number is negative, and what follows its sign. -/
def sign : Text → Bool × Text
  | '+' :: rest => (false, rest)
  | '-' :: rest => (true, rest)
  | text => (false, text)

/-- Decimal digits without a zero in front, unless the number is zero. -/
def decimal? (text : Text) : Option (List Nat × Text) :=
  match text with
  | '0' :: rest => some ([0], rest)
  | _ => digits? Text.digit? text

/-- An octal digit. -/
def octalDigit? (c : Char) : Option Nat := (Text.digit? c).filter (· < 8)

/-- A binary digit. -/
def binaryDigit? (c : Char) : Option Nat := (Text.digit? c).filter (· < 2)

/-- The integer that digits in a base write, if it fits 64 bits with a sign. -/
def integerOf? (negative : Bool) (base : Nat) (digits : List Nat) : Option Int :=
  let size := Text.numeral base digits
  if negative then (if size ≤ Nat.pow 2 63 then some (-size) else none)
  else if size < Nat.pow 2 63 then some size
  else none

/-- The integer in a base after its mark. -/
def based? (base : Nat) (digit? : Char → Option Nat) (text : Text) : Option (Int × Text) := do
  let (digits, rest) ← digits? digit? text
  some (← integerOf? false base digits, rest)

/-- The integer at the front. -/
def integer? (text : Text) : Option (Int × Text) :=
  match text with
  | '0' :: 'x' :: rest => based? 16 Text.hexDigit? rest
  | '0' :: 'o' :: rest => based? 8 octalDigit? rest
  | '0' :: 'b' :: rest => based? 2 binaryDigit? rest
  | _ => do
    let (negative, rest) := sign text
    let (digits, rest) ← decimal? rest
    some (← integerOf? negative 10 digits, rest)

/-- The digits after a point, if there is one, and what follows. -/
def fraction? : Text → Option (List Nat × Text)
  | '.' :: rest => digits? Text.digit? rest
  | _ => none

/-- The exponent, if there is one, and what follows. -/
def exponent? : Text → Option (Int × Text)
  | [] => none
  | c :: rest =>
    if c = 'e' || c = 'E' then do
      let (negative, rest) := sign rest
      let (digits, rest) ← digits? Text.digit? rest
      let size := Text.numeral 10 digits
      some (if negative then -size else size, rest)
    else none

/-- The number with a fraction, an exponent or both at the front. -/
def decimalFloat? (text : Text) : Option (Binary64 × Text) := do
  let (negative, rest) := sign text
  let (whole, rest) ← decimal? rest
  let (part, power, rest) ←
    match fraction? rest with
    | some (part, rest) =>
      match exponent? rest with
      | some (power, rest) => some (part, power, rest)
      | none => some (part, 0, rest)
    | none => (exponent? rest).map fun (power, rest) => ([], power, rest)
  let value := Binary64.ofDecimal negative (Text.numeral 10 (whole ++ part)) (power - part.length)
  if value = .infinite false then none else some (value, rest)

/-- Infinity or the value that is not a number, at the front. -/
def specialFloat? (text : Text) : Option (Binary64 × Text) :=
  let (negative, rest) := sign text
  ((Text.after? "inf".toList rest).map (Binary64.infinite negative, ·)).or
    ((Text.after? "nan".toList rest).map (Binary64.undefined, ·))

/-- The number of double precision at the front. -/
def float? (text : Text) : Option (Binary64 × Text) :=
  (decimalFloat? text).or (specialFloat? text)

end Citations.Toml
