import SutraArbiter.Number.Reading

namespace SutraArbiter.Numeral

def components (s : List Char) : List (List Char) :=
  s.splitOn '.'

/-- One line end may follow the numeral. -/
def withoutLineEnd (s : List Char) : List Char :=
  if s.getLast? = some '\n' then s.dropLast else s

/-- Two or more groups of digits with a point between neighbours. -/
def isDotted (s : List Char) : Bool :=
  let groups := components (withoutLineEnd s)
  2 ≤ groups.length && groups.all fun group => !group.isEmpty && group.all Text.isDigit

/-- Where numerals that are not numbers throughout are placed. -/
def lastPlace : List Int :=
  [1000000000]

def componentValue? (group : List Char) : Option Int :=
  (Number.readInteger group).toOption

/-- Numerals are ordered by the values of their components. -/
def place (s : String) : List Int :=
  ((components s.toList).mapM componentValue?).getD lastPlace

def le (s t : String) : Bool :=
  !(place t < place s)

end SutraArbiter.Numeral
