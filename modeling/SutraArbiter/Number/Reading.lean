import SutraArbiter.Number.Double
import SutraArbiter.Text.Blank
import SutraArbiter.Text.Digit

namespace SutraArbiter.Number

/-! Numbers read from text.  Blanks around a number are passed over, digits of
every script count, and one underscore may stand between two digits. -/

/-- The four information separators are blanks, but not around a number. -/
def isMargin (c : Char) : Bool :=
  Text.isBlank c && !(0x1C ≤ c.toNat && c.toNat ≤ 0x1F)

/-- Digits shared out by underscores; nothing when a group of them is empty. -/
def digitGroups? (s : List Char) : Option (List Nat) :=
  let groups := s.splitOn '_'
  if groups.any List.isEmpty then none
  else groups.flatten.mapM Text.digitValue?

def unsigned : List Char → Bool × List Char
  | '-' :: rest => (true, rest)
  | '+' :: rest => (false, rest)
  | s => (false, s)

def isRowPart (c : Char) : Bool :=
  Text.isDigit c || c == '_'

def digitLimit : Nat := 4300

inductive IntegerFault
  | malformed
  | tooLong (digits : Nat)
  deriving DecidableEq

/-- Too many digits are refused before what follows them is looked at. -/
def readInteger (s : List Char) : Except IntegerFault Int :=
  let (negative, body) := unsigned (Text.trimBy isMargin s)
  match digitGroups? (body.takeWhile isRowPart) with
  | none => .error .malformed
  | some digits =>
      if digitLimit < digits.length then .error (.tooLong digits.length)
      else if !(body.dropWhile isRowPart).isEmpty then .error .malformed
      else
        let magnitude := Text.ofDigits digits
        .ok (if negative then -magnitude else magnitude)

def hasOverlongText (i : Int) : Bool :=
  Nat.pow 10 digitLimit ≤ i.natAbs

/-- The value of `digits` times ten to `exponent`.  Far out of range the power is
not worked out. -/
def ofDecimal (negative : Bool) (digits : Nat) (exponent : Int) : Double :=
  let place := (Text.decimal digits).length + exponent
  if digits = 0 then .finite negative 0
  else if 320 < place then .infinite negative
  else if place < -340 then .finite negative 0
  else if exponent < 0 then Double.ofRatio negative digits (Nat.pow 10 exponent.natAbs)
  else Double.ofRatio negative (digits * Nat.pow 10 exponent.natAbs) 1

/-- The mantissa on both sides of the point, and what follows it. -/
def mantissa (s : List Char) : List Char × List Char × List Char :=
  let whole := s.takeWhile isRowPart
  match s.dropWhile isRowPart with
  | '.' :: rest => (whole, rest.takeWhile isRowPart, rest.dropWhile isRowPart)
  | rest => (whole, [], rest)

def optionalDigits? (s : List Char) : Option (List Nat) :=
  if s.isEmpty then some [] else digitGroups? s

def exponent? : List Char → Option Int
  | [] => some 0
  | c :: rest =>
      if c == 'e' || c == 'E' then
        let (negative, body) := unsigned rest
        (digitGroups? body).map fun digits =>
          let magnitude := Text.ofDigits digits
          if negative then -magnitude else magnitude
      else none

def readMagnitude? (negative : Bool) (s : List Char) : Option Double :=
  let (whole, behind, rest) := mantissa s
  if whole.isEmpty && behind.isEmpty then none
  else do
    let front ← optionalDigits? whole
    let back ← optionalDigits? behind
    let power ← exponent? rest
    pure (ofDecimal negative (Text.ofDigits (front ++ back))
      (power - back.length))

def smallAscii (c : Char) : Char :=
  if 'A' ≤ c && c ≤ 'Z' then Char.ofNat (c.toNat + 32) else c

def readDouble? (s : List Char) : Option Double :=
  let (negative, body) := unsigned (Text.trimBy isMargin s)
  let word := String.ofList (body.map smallAscii)
  if word = "nan" then some .nan
  else if word = "inf" || word = "infinity" then some (.infinite negative)
  else readMagnitude? negative body

end SutraArbiter.Number
