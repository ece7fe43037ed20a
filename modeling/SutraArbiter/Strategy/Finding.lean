import SutraArbiter.Context
import SutraArbiter.Selection

namespace SutraArbiter

inductive Finding
  | selected (selection : Selection) (confidence : Double)
  /-- Nothing is selected.  A near miss met the conditions of the rule and failed
  only its deciding check. -/
  | passed (reason : String) (nearMiss : Bool)
  deriving DecidableEq

namespace Finding

def none : Finding := passed "no-match" false

def tooFewWords : Finding := passed "insufficient-forms" false

def ofPositions (retain drop : List Int) : Finding :=
  selected (Selection.ofPositions retain drop) .one

end Finding

/-- Words that a strategy needs unless its parameters say otherwise. -/
def usualMinimum : Int := 2

def hasMinimum? (words : List Word) (params : Datum) : Except Fault Bool := do
  let given ← params.getD? "min_words" (.int usualMinimum)
  let minimum ← given.toInt?
  pure (minimum ≤ words.length)

end SutraArbiter
