namespace SutraArbiter.Text

/-! Halves of pairs.  A character beyond the basic plane can be given as a pair of
units; a half that stands alone is no character.  It is held as the character of
the tenth plane with the same last digits, where no character is assigned, and a
quotation tells it as the half that it stands for. -/

def isLeadingHalf (unit : Nat) : Bool :=
  0xD800 ≤ unit && unit < 0xDC00

def isTrailingHalf (unit : Nat) : Bool :=
  0xDC00 ≤ unit && unit < 0xE000

def isHalf (unit : Nat) : Bool :=
  isLeadingHalf unit || isTrailingHalf unit

def joinHalves (leading trailing : Nat) : Nat :=
  0x10000 + (leading - 0xD800) * 0x400 + (trailing - 0xDC00)

def halfPlane : Nat := 0xA0000

def ofHalf (unit : Nat) : Char :=
  Char.ofNat (halfPlane + unit)

def half? (code : Nat) : Option Nat :=
  if halfPlane ≤ code && isHalf (code - halfPlane) then some (code - halfPlane) else none

end SutraArbiter.Text
