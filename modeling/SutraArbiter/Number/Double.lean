namespace SutraArbiter

/-! Binary floating point.  A finite value is a whole number of units, the unit
being the least positive value, so that comparison and rounding are exact
arithmetic on natural numbers. -/

inductive Double
  | nan
  | infinite (negative : Bool)
  | finite (negative : Bool) (units : Nat)
  deriving DecidableEq

namespace Double

def unitsPerOne : Nat := Nat.pow 2 1074

def unitsLimit : Nat := Nat.pow 2 2098

/-- The whole number nearest to a quotient; a half goes to the even neighbour. -/
def nearest (numerator denominator : Nat) : Nat :=
  let floor := numerator / denominator
  let rest := numerator % denominator
  if 2 * rest < denominator then floor
  else if denominator < 2 * rest then floor + 1
  else floor + floor % 2

/-- Distance from a magnitude to the next larger one: 53 bits are kept. -/
def spacing (units : Nat) : Nat :=
  Nat.pow 2 (units.log2 - 52)

def Representable (units : Nat) : Prop :=
  units % spacing units = 0 ∧ units < unitsLimit

instance (units : Nat) : Decidable (Representable units) := by
  unfold Representable; infer_instance

/-- The magnitude nearest to `numerator / denominator` units. -/
def nearestUnits (numerator denominator : Nat) : Nat :=
  let step := spacing (numerator / denominator)
  nearest numerator (denominator * step) * step

def ofRatio (negative : Bool) (numerator denominator : Nat) : Double :=
  let units := nearestUnits (numerator * unitsPerOne) denominator
  if unitsLimit ≤ units then infinite negative else finite negative units

def finite? : Double → Option Double
  | finite negative units => some (finite negative units)
  | _ => none

/-- No value when the number rounds out of range. -/
def ofInt? (i : Int) : Option Double :=
  (ofRatio (i < 0) i.natAbs 1).finite?

def zero : Double := finite false 0

def one : Double := finite false unitsPerOne

def isNaN : Double → Bool
  | nan => true
  | _ => false

def isZero : Double → Bool
  | finite _ units => units == 0
  | _ => false

def mul : Double → Double → Double
  | finite m u, finite n v =>
      ofRatio (m != n) (u * v) (unitsPerOne * unitsPerOne)
  | infinite m, finite n v => if v = 0 then nan else infinite (m != n)
  | finite m u, infinite n => if u = 0 then nan else infinite (m != n)
  | infinite m, infinite n => infinite (m != n)
  | nan, _ => nan
  | _, nan => nan

/-- Correctly rounded from the exact value, first to `places` decimals and then
to the nearest value. -/
def roundPlaces (places : Nat) : Double → Double
  | finite negative units =>
      ofRatio negative (nearest (units * Nat.pow 10 places) unitsPerOne) (Nat.pow 10 places)
  | x => x

end Double

/-! Where a number stands on the line.  Integers and floating-point numbers are
compared by their exact values; an undefined value stands nowhere. -/

inductive Level
  | undefined
  | bottom
  | units (count : Int)
  | top
  deriving DecidableEq

namespace Level

def ofInt (i : Int) : Level :=
  units (i * Double.unitsPerOne)

def lt : Level → Level → Bool
  | undefined, _ => false
  | _, undefined => false
  | bottom, bottom => false
  | bottom, _ => true
  | units _, bottom => false
  | units m, units n => m < n
  | units _, top => true
  | top, _ => false

def same : Level → Level → Bool
  | undefined, _ => false
  | x, y => x = y

def le (x y : Level) : Bool :=
  x.lt y || x.same y

theorem lt_irrefl (x : Level) : x.lt x = false := by
  cases x <;> simp [lt]

theorem lt_trans {x y z : Level} (hxy : x.lt y = true) (hyz : y.lt z = true) :
    x.lt z = true := by
  cases x <;> cases y <;> cases z <;> simp_all [lt]
  omega

end Level

namespace Double

def level : Double → Level
  | nan => .undefined
  | infinite true => .bottom
  | infinite false => .top
  | finite true units => .units (-units)
  | finite false units => .units units

def lt (x y : Double) : Bool :=
  x.level.lt y.level

/-- Equality of values: the zeros are the same, and no value is the same as what is
no number. -/
def same (x y : Double) : Bool :=
  x.level.same y.level

end Double

def Level.isShare (x : Level) : Bool :=
  (Level.ofInt 0).le x && x.le (Level.ofInt 1)

end SutraArbiter
