import SutraArbiter.Flags
import SutraArbiter.Text.Normal

namespace SutraArbiter

structure Word where
  index : Nat
  surface : String
  headword : String
  base : String
  caseName : String
  gender : String
  category : String
  flags : Flags

inductive Field
  | surface
  | headword
  | base
  | caseName
  | gender
  | category
  deriving DecidableEq

namespace Field

def ofName? : String → Option Field
  | "surface" => some surface
  | "lemma" => some headword
  | "base" => some base
  | "case" => some caseName
  | "gender" => some gender
  | "category" => some category
  | _ => none

/-- The names under which a record may give an attribute. -/
def ofAlias? : String → Option Field
  | "form" => some surface
  | "vibhakti" => some caseName
  | "linga" => some gender
  | name => ofName? name

end Field

namespace Word

def field (word : Word) : Field → String
  | .surface => word.surface
  | .headword => word.headword
  | .base => word.base
  | .caseName => word.caseName
  | .gender => word.gender
  | .category => word.category

def spelling (word : Word) : String :=
  if word.surface = "" then word.headword else word.surface

def form (word : Word) : String :=
  Text.normalForm word.spelling

def forms (word : Word) : List String :=
  (([word.surface, word.headword].filter (· ≠ "")).map Text.normalForm).eraseDups

/-- Words of one base, or without a base of one form, are counterparts. -/
def groupKey (word : Word) : String :=
  if word.base = "" then word.form else Text.normalForm word.base

def value (word : Word) (key : String) : Datum :=
  match Field.ofName? key with
  | some field =>
      if word.field field = "" then .null else .text (word.field field)
  | none => word.flags.value key

def has (word : Word) (key : String) : Bool :=
  (word.value key).holds

/-- Look-up under a key of any kind; only a text can name an attribute. -/
def lookup? (word : Word) (key : Datum) : Except Fault Datum := do
  key.fitKey
  match key with
  | .text name => pure (word.value name)
  | _ => pure .null

def hasAt? (word : Word) (key : Datum) : Except Fault Bool := do
  let value ← word.lookup? key
  pure value.holds

end Word

end SutraArbiter
