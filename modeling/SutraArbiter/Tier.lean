import SutraArbiter.Datum.Access
import SutraArbiter.Text.Normal

namespace SutraArbiter

inductive Tier
  | mandatory
  | specific
  | domainConditional
  | general
  deriving DecidableEq

inductive TierFault
  | notText (kind : Kind)
  | unknown (name : String)
  deriving DecidableEq

def TierFault.message : TierFault → String
  | notText kind => s!"priority class must be a string, got {kind.label}"
  | unknown name => s!"{Text.quoteString name} is not a valid PriorityClass"

namespace Tier

def rank : Tier → Nat
  | mandatory => 3
  | specific => 2
  | domainConditional => 1
  | general => 0

theorem rank_injective {t u : Tier} (h : t.rank = u.rank) : t = u := by
  cases t <;> cases u <;> simp_all [rank]

def name : Tier → String
  | mandatory => "mandatory"
  | specific => "specific"
  | domainConditional => "domain_conditional"
  | general => "general"

def all : List Tier :=
  [domainConditional, general, mandatory, specific]

def descending : List Tier :=
  [mandatory, specific, domainConditional, general]

def ofName? (name : String) : Option Tier :=
  all.find? fun tier => tier.name = name

theorem ofName?_name (tier : Tier) : ofName? tier.name = some tier := by
  cases tier <;> decide

theorem ofName?_eq_some {name : String} {tier : Tier} :
    ofName? name = some tier ↔ name = tier.name := by
  constructor
  · intro h
    have hname : tier.name = name := by simpa using List.find?_some h
    exact hname.symm
  · intro h
    rw [h, ofName?_name]

/-- The name of a tier may be spelled in any case style. -/
def read : Datum → Except TierFault Tier
  | .text spelling =>
      match ofName? (Text.snakeCase spelling) with
      | some tier => .ok tier
      | none => .error (.unknown (Text.snakeCase spelling))
  | d => .error (.notText d.kind)

theorem read_name (tier : Tier) : read (.text tier.name) = .ok tier := by
  have hspelled : Text.snakeCase tier.name = tier.name := by
    cases tier <;> decide +kernel
  simp only [read, hspelled, ofName?_name]

end Tier

end SutraArbiter
