import SutraArbiter.Strategy.Attribute
import SutraArbiter.Strategy.Listing
import SutraArbiter.Strategy.Sameness

namespace SutraArbiter

inductive Strategy
  | identicalForms
  | lexicalRetention
  | seriesRetention
  | attributePairing
  | attributeSelection
  deriving DecidableEq

namespace Strategy

def all : List Strategy :=
  [attributePairing, attributeSelection, identicalForms, lexicalRetention,
    seriesRetention]

def name : Strategy → String
  | .identicalForms => "identical_forms"
  | .lexicalRetention => "lexical_retention"
  | .seriesRetention => "series_retention"
  | .attributePairing => "attribute_pairing"
  | .attributeSelection => "attribute_selection"

def ofName? (name : String) : Option Strategy :=
  all.find? fun strategy => strategy.name = name

theorem ofName?_name (strategy : Strategy) : ofName? strategy.name = some strategy := by
  cases strategy <;> decide

theorem ofName?_eq_some {name : String} {strategy : Strategy} :
    ofName? name = some strategy ↔ name = strategy.name := by
  constructor
  · intro h
    have hname : strategy.name = name := by simpa using List.find?_some h
    exact hname.symm
  · intro h
    rw [h, ofName?_name]

def judge : Strategy → List Word → Context → Datum → Except Fault Finding
  | .identicalForms => judgeIdenticalForms
  | .lexicalRetention => judgeLexicalRetention
  | .seriesRetention => judgeSeriesRetention
  | .attributePairing => judgeAttributePairing
  | .attributeSelection => judgeAttributeSelection

end Strategy

end SutraArbiter
