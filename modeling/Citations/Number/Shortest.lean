import Citations.Text.Basic
import Citations.Number.Binary64

/-!
# Shortest decimal form

A finite number of double precision is written with the fewest significant digits that read
back as the same number and, among those, with the digits nearest to it. The digits are found
by trying grids of one, two, up to seventeen digits in exact arithmetic; where the point goes
and when an exponent is written is a second decision, made by the writer of a format.
-/
namespace Citations.Shortest

/-- Significant digits and the power of ten of the first one. -/
structure Decimal where
  /-- The digits, most significant first. -/
  digits : Text
  /-- The power of ten of the first digit. -/
  power : Int
  deriving DecidableEq, Repr

/-- The least number of tenfold steps after which `num` reaches `den`, if within `limit`. -/
def stepsUp : (limit num den : Nat) → Nat
  | 0, _, _ => 0
  | limit + 1, num, den => if den ≤ num then 0 else stepsUp limit (num * 10) den + 1

/-- The power of ten of the first digit of a positive quotient. -/
def leadingPower (num den : Nat) : Int :=
  if den ≤ num then (Nat.toDigits 10 (num / den)).length - 1
  else -(stepsUp 400 num den : Int)

/-- Whether `left / den` lies between the ends of the interval that rounds to a number, the
ends themselves only when the significand is even. -/
def within (even : Bool) (low high value : Nat) : Bool :=
  (low < value && value < high) || (even && (low == value || value == high))

/-- The digits on the grid of `count` digits that read back as the number, if any. The number
is `4 * significand` quarter units; `below` is the distance to the lower end of its interval. -/
def onGrid? (significand : Nat) (exponent power : Int) (below : Nat) (count : Nat) :
    Option Nat :=
  let unit := power - count + 1
  -- all quantities are brought to one denominator
  let binary := exponent - 2
  let twos := Nat.pow 2 (if binary < 0 then 0 else binary.toNat)
  let denTwos := Nat.pow 2 (if binary < 0 then (-binary).toNat else 0)
  let tens := Nat.pow 10 (if unit < 0 then 0 else unit.toNat)
  let denTens := Nat.pow 10 (if unit < 0 then (-unit).toNat else 0)
  let value := 4 * significand * twos * denTens
  let low := (4 * significand - below) * twos * denTens
  let high := (4 * significand + 2) * twos * denTens
  let grid := tens * denTwos
  let floor := value / grid
  let even := significand % 2 == 0
  let downFits := within even low high (floor * grid) && floor != 0
  let upFits := within even low high ((floor + 1) * grid)
  if downFits && upFits then
    let rest := 2 * (value % grid)
    if rest < grid ∨ (rest = grid ∧ floor % 2 = 0) then some floor else some (floor + 1)
  else if downFits then some floor
  else if upFits then some (floor + 1)
  else none

/-- The digits of the first grid from `count` digits on, for at most `tries` grids, that reads
back, and the number of digits of that grid. -/
def firstGrid (significand : Nat) (exponent power : Int) (below : Nat) :
    (tries count : Nat) → Nat × Nat
  | 0, count => (significand, count)
  | tries + 1, count =>
    match onGrid? significand exponent power below count with
    | some digits => (digits, count)
    | none => firstGrid significand exponent power below tries (count + 1)

/-- Digits without the zeros that end them. -/
def dropZeros (digits : Text) : Text :=
  match Text.dropEndWhile (· = '0') digits with
  | [] => ['0']
  | kept => kept

/-- The shortest decimal of a positive significand times two to an exponent. -/
def ofFinite (significand : Nat) (exponent : Int) : Decimal :=
  let (num, den) := Binary64.quotient significand exponent
  let power := leadingPower num den
  let below :=
    if significand = Nat.pow 2 52 ∧ exponent > Binary64.leastExponent then 1 else 2
  let (digits, count) := firstGrid significand exponent power below 17 1
  -- the greatest point of a grid is the next power of ten
  ⟨dropZeros (Text.ofNat digits), if digits = Nat.pow 10 count then power + 1 else power⟩

/-- The digits with the point after the first `whole` of them, filled up with zeros. -/
def positional (decimal : Decimal) (ending : Text) : Text :=
  let count := decimal.digits.length
  if decimal.power < 0 then
    "0.".toList ++ List.replicate ((-decimal.power).toNat - 1) '0' ++ decimal.digits
  else
    let whole := decimal.power.toNat + 1
    if count ≤ whole then decimal.digits ++ List.replicate (whole - count) '0' ++ ending
    else decimal.digits.take whole ++ '.' :: decimal.digits.drop whole

/-- One digit before the point, and the power of ten after an `e`. -/
def scientific (decimal : Decimal) : Text :=
  let tail := match decimal.digits with
    | first :: next :: rest => first :: '.' :: next :: rest
    | digits => digits
  let power := decimal.power
  tail ++ 'e' :: (if power < 0 then '-' else '+') :: Text.ofNat power.natAbs

end Citations.Shortest
