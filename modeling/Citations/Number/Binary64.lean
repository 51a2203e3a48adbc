/-!
# Numbers of double precision

A number of double precision is a signed significand of at most 53 bits times a power of two
from -1074 to 971, an infinity, or not a number. Rounding is done once, from an exact quotient
of natural numbers to the nearest number, a tie to the even significand; multiplication and
division round the exact result.
-/
namespace Citations

/-- A number of double precision. -/
inductive Binary64 where
  /-- The significand times two to the exponent, with a sign that zero has too. -/
  | finite (negative : Bool) (significand : Nat) (exponent : Int)
  /-- Beyond every finite number. -/
  | infinite (negative : Bool)
  /-- Not a number. -/
  | undefined
  deriving DecidableEq, Repr

namespace Binary64

/-- The least exponent. -/
def leastExponent : Int := -1074

/-- The greatest exponent. -/
def greatestExponent : Int := 971

/-- Zero with a sign. -/
def zero (negative : Bool) : Binary64 := .finite negative 0 leastExponent

/-- The nearest natural number to a quotient, a tie to the even one. -/
def roundQuotient (num den : Nat) : Nat :=
  let floor := num / den
  let rest := num % den
  if 2 * rest < den ∨ (2 * rest = den ∧ floor % 2 = 0) then floor else floor + 1

/-- A quotient divided by a power of two, as a quotient of natural numbers. -/
def scaleDown (num den : Nat) (exponent : Int) : Nat × Nat :=
  if exponent < 0 then (num * Nat.pow 2 (-exponent).toNat, den)
  else (num, den * Nat.pow 2 exponent.toNat)

/-- The exponent at which the quotient has 53 bits before the point, but not below the least
exponent. -/
def exponentOf (num den : Nat) : Int :=
  let guess := max ((num.log2 : Int) - den.log2 - 53) leastExponent
  let (num, den) := scaleDown num den guess
  if num / den < Nat.pow 2 53 then guess else guess + 1

/-- The number nearest to a quotient with a sign; `den` is not zero. -/
def ofQuotient (negative : Bool) (num den : Nat) : Binary64 :=
  if num = 0 then zero negative
  else
    let exponent := exponentOf num den
    let (num, den) := scaleDown num den exponent
    let significand := roundQuotient num den
    let (significand, exponent) :=
      if significand = Nat.pow 2 53 then (Nat.pow 2 52, exponent + 1) else (significand, exponent)
    if exponent > greatestExponent then .infinite negative
    else .finite negative significand exponent

/-- The number nearest to a natural number. -/
def ofNat (n : Nat) : Binary64 := ofQuotient false n 1

/-- A significand times two to an exponent, as a quotient of natural numbers. -/
def quotient (significand : Nat) (exponent : Int) : Nat × Nat :=
  if exponent < 0 then (significand, Nat.pow 2 (-exponent).toNat)
  else (significand * Nat.pow 2 exponent.toNat, 1)

/-- The product of two numbers, when both are finite. -/
def mul : Binary64 → Binary64 → Binary64
  | .finite s m e, .finite t n f =>
    let (num, den) := quotient (m * n) (e + f)
    ofQuotient (s != t) num den
  | .undefined, _ => .undefined
  | _, .undefined => .undefined
  | .infinite s, .finite t n _ => if n = 0 then .undefined else .infinite (s != t)
  | .finite s m _, .infinite t => if m = 0 then .undefined else .infinite (s != t)
  | .infinite s, .infinite t => .infinite (s != t)

/-- A finite number divided by a finite number that is not zero. -/
def div : Binary64 → Binary64 → Binary64
  | .finite s m e, .finite t n f =>
    if n = 0 then (if m = 0 then .undefined else .infinite (s != t))
    else
      let (num, den) := quotient m e
      let (num', den') := quotient n f
      ofQuotient (s != t) (num * den') (den * num')
  | .undefined, _ => .undefined
  | _, .undefined => .undefined
  | .infinite s, .finite t _ _ => .infinite (s != t)
  | .finite s _ _, .infinite t => zero (s != t)
  | .infinite _, .infinite _ => .undefined

/-- The number with the opposite sign. -/
def neg : Binary64 → Binary64
  | .finite s m e => .finite (!s) m e
  | .infinite s => .infinite (!s)
  | .undefined => .undefined

/-- Whether the number is finite. -/
def isFinite : Binary64 → Bool
  | .finite .. => true
  | _ => false

/-- Whether the number is a zero of either sign. -/
def isZero : Binary64 → Bool
  | .finite _ m _ => m == 0
  | _ => false

/-- The power of ten as a number of double precision. -/
def powerOfTen (n : Nat) : Binary64 := ofNat (Nat.pow 10 n)

/-- The number nearest to decimal digits times a power of ten. Exponents far outside the range
are decided by the number of digits alone. -/
def ofDecimal (negative : Bool) (digits : Nat) (exponent : Int) : Binary64 :=
  if digits = 0 then zero negative
  else
    let magnitude := (Nat.toDigits 10 digits).length + exponent
    if magnitude > 310 then .infinite negative
    else if magnitude < -330 then zero negative
    else if exponent < 0 then ofQuotient negative digits (Nat.pow 10 (-exponent).toNat)
    else ofQuotient negative (digits * Nat.pow 10 exponent.toNat) 1

/-- The nearest integer, a half away from zero, kept within the natural numbers below a bound:
what is negative or undefined becomes zero, what is too large becomes the greatest. -/
def toBoundedNat (bound : Nat) : Binary64 → Nat
  | .finite true .. => 0
  | .finite false m e =>
    let (num, den) := quotient m e
    min ((2 * num + den) / (2 * den)) (bound - 1)
  | .infinite true => 0
  | .infinite false => bound - 1
  | .undefined => 0

end Binary64

end Citations
