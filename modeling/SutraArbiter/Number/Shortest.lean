import SutraArbiter.Number.Double
import SutraArbiter.Text.Digit

namespace SutraArbiter.Double

/-! The shortest decimal that reads back.  Decimals of one, two, three digits
and so on are tried until one falls among the numbers that round to the value;
of two such decimals the nearer is taken. -/

/-- A power of ten as the pair of its numerator and denominator. -/
def tenTo (exponent : Int) : Nat × Nat :=
  if exponent < 0 then (1, Nat.pow 10 exponent.natAbs) else (Nat.pow 10 exponent.natAbs, 1)

/-- Place of the leading decimal digit: zero for the ones, negative behind the
point. -/
def leadingPlace (units : Nat) : Int :=
  (Text.decimal (units * Nat.pow 10 400 / unitsPerOne)).length - 401

/-- Whether `digits` times ten to `exponent` rounds to the value.  Distances are
taken in quarters of a unit; below a power of two the neighbour is half as far. -/
def roundsTo (units digits : Nat) (exponent : Int) : Bool :=
  let (up, down) := tenTo exponent
  let step := spacing units
  let mantissa := units / step
  let gapBelow := if mantissa = Nat.pow 2 52 && 1 < step then step else 2 * step
  let scaled := 4 * digits * unitsPerOne * up
  let low := (4 * units - gapBelow) * down
  let high := (4 * units + 2 * step) * down
  if mantissa % 2 = 0 then low ≤ scaled && scaled ≤ high
  else low < scaled && scaled < high

/-- The better of the two decimals that enclose the value on one grid. -/
def decimalOn (units : Nat) (exponent : Int) : Option Nat :=
  let (up, down) := tenTo exponent
  let floor := units * down / (unitsPerOne * up)
  let rest := units * down % (unitsPerOne * up)
  let preferred := nearest (units * down) (unitsPerOne * up)
  let other := if rest = 0 then floor else if preferred = floor then floor + 1 else floor
  if roundsTo units preferred exponent then some preferred
  else if roundsTo units other exponent then some other
  else none

/-- Digits and exponent; seventeen digits always suffice. -/
def shortest (units : Nat) : Nat × Int :=
  let place := leadingPlace units
  let grids := (List.range 17).map fun (k : Nat) => place - (k : Int)
  match grids.findSome? fun exponent =>
      (decimalOn units exponent).map fun digits => (digits, exponent) with
  | some found => found
  | none => (0, 0)

/-! Written form.  A number from a ten-thousandth up to ten to the sixteenth is
written positionally and keeps one place behind the point; any other takes an
exponent of at least two digits. -/

def withoutTrailingZeros (digits : List Char) : List Char :=
  (digits.reverse.dropWhile (· == '0')).reverse

def exponentText (exponent : Int) : List Char :=
  let digits := Text.decimal exponent.natAbs
  'e' :: (if exponent < 0 then '-' else '+')
    :: (if digits.length < 2 then '0' :: digits else digits)

/-- The digits with the point set behind the first `point` of them. -/
def positional (digits : List Char) (point : Int) : List Char :=
  if point ≤ 0 then
    ['0', '.'] ++ List.replicate point.natAbs '0' ++ digits
  else if digits.length ≤ point.natAbs then
    digits ++ List.replicate (point.natAbs - digits.length) '0' ++ ['.', '0']
  else digits.take point.natAbs ++ '.' :: digits.drop point.natAbs

def scientific (digits : List Char) (point : Int) : List Char :=
  match digits with
  | [] => []
  | [d] => d :: exponentText (point - 1)
  | d :: rest => d :: '.' :: rest ++ exponentText (point - 1)

def writtenMagnitude (units : Nat) : List Char :=
  if units = 0 then ['0', '.', '0']
  else
    let (value, exponent) := shortest units
    let all := Text.decimal value
    let point := all.length + exponent
    let digits := withoutTrailingZeros all
    if -4 < point && point ≤ 16 then positional digits point
    else scientific digits point

def written : Double → String
  | nan => "nan"
  | infinite negative => if negative then "-inf" else "inf"
  | finite negative units =>
      String.ofList
        (if negative then '-' :: writtenMagnitude units else writtenMagnitude units)

end SutraArbiter.Double
