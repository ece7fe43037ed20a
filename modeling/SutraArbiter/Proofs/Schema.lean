import SutraArbiter.Envelope

namespace SutraArbiter

/-! Schemas of data, and the one under which envelopes are published.  A clause about
data of one kind says nothing of data of any other. -/

abbrev Schema := Datum → Bool

namespace Schema

def null : Schema := Datum.isNull

def boolean : Schema
  | .bool _ => true
  | _ => false

def yes : Schema
  | .bool value => value
  | _ => false

def text : Schema := Datum.isText

def object : Schema := Datum.isMap

def number : Schema
  | .int _ | .float _ => true
  | _ => false

/-- A number that is whole, however it is written. -/
def integer : Schema
  | .int _ => true
  | .float (.finite _ units) => units % Double.unitsPerOne = 0
  | _ => false

def atLeast (bound : Int) : Schema
  | .int value => bound ≤ value
  | .float value => (Level.ofInt bound).le value.level
  | _ => true

def atMost (bound : Int) : Schema
  | .int value => value ≤ bound
  | .float value => value.level.le (Level.ofInt bound)
  | _ => true

def nonempty : Schema
  | .text s => s ≠ ""
  | _ => true

def oneOf (names : List String) : Schema
  | .text s => names.contains s
  | _ => false

def isAsciiDigit (c : Char) : Bool :=
  '0' ≤ c && c ≤ '9'

/-- Two or more runs of the ten digits, with a point between neighbours. -/
def isNumeral (s : String) : Bool :=
  let runs := Numeral.components s.toList
  2 ≤ runs.length && runs.all fun run => !run.isEmpty && run.all isAsciiDigit

def numeral : Schema
  | .text s => isNumeral s
  | _ => true

def all (schemas : List Schema) : Schema := fun d =>
  schemas.all fun schema => schema d

def either (first second : Schema) : Schema := fun d =>
  first d || second d

/-- One of the two and not the other. -/
def exactlyOne (first second : Schema) : Schema := fun d =>
  first d != second d

def whenever (condition consequence : Schema) : Schema := fun d =>
  !condition d || consequence d

def listOf (item : Schema) : Schema
  | .list items => items.all item
  | _ => false

def required (names : List String) : Schema
  | .map entries => names.all (Entries.has entries)
  | _ => true

/-- What stands under a name, if anything does, is as the schema of the name says. -/
def fields (schemas : List (String × Schema)) : Schema
  | .map entries => schemas.all fun field => (Entries.get? entries field.1).all field.2
  | _ => true

def only (names : List String) : Schema
  | .map entries =>
      (Entries.keys entries).all fun key => names.any fun name => key.sameKey (.text name)
  | _ => true

def share : Schema := all [number, atLeast 0, atMost 1]

def position : Schema := all [integer, atLeast 0]

def tier : Schema := oneOf ["mandatory", "specific", "domain_conditional", "general"]

def traceNames : List String :=
  ["rule_id", "priority_class", "specificity", "confidence", "rank"]

def trace : Schema := all [
  object,
  required traceNames,
  only traceNames,
  fields [
    ("rule_id", text),
    ("priority_class", tier),
    ("specificity", position),
    ("confidence", share),
    ("rank", all [integer, atLeast 1])]]

def diagnosticNames : List String :=
  ["code", "rule_id", "message"]

def diagnostic : Schema := all [
  object,
  required diagnosticNames,
  only diagnosticNames,
  fields [
    ("code", oneOf ["predicate-failure", "action-failure"]),
    ("rule_id", text),
    ("message", text)]]

/-- What an action may add. -/
def payloadFields : List (String × Schema) := [
  ("retained_index", all [either integer null, atLeast 0]),
  ("retained_indices", listOf position),
  ("dropped_indices", listOf position),
  ("retained_forms", listOf text),
  ("dropped_forms", listOf text),
  ("optional", boolean),
  ("gender_override", text),
  ("number_override", text),
  ("domain", text)]

def ownFields : List (String × Schema) := [
  ("applied", boolean),
  ("sutra", exactlyOne (all [text, numeral]) null),
  ("mandatory", boolean),
  ("reason", all [text, nonempty]),
  ("confidence", share),
  ("priority_class", exactlyOne tier null),
  ("explanation", text),
  ("script", exactlyOne (oneOf ["Devanagari", "IAST", "Unknown"]) null),
  ("error", oneOf ["TYPE_ERROR", "EMPTY_INPUT", "INVALID_SCRIPT", "INVALID_CONTEXT"]),
  ("trace", listOf trace),
  ("diagnostics", listOf diagnostic)]

/-- An envelope that applies a rule names it and tells the positions. -/
def appliedClause : Schema :=
  whenever (fields [("applied", yes)])
    (all [fields [("sutra", text)], required ["retained_indices", "dropped_indices"]])

/-- An envelope that turns input away has an error. -/
def invalidClause : Schema :=
  whenever (fields [("reason", oneOf ["invalid-input"])]) (required ["error"])

def resolution : Schema := all [
  object,
  required ["applied", "sutra", "mandatory", "reason", "confidence", "priority_class",
    "explanation", "script", "trace", "diagnostics"],
  fields (ownFields ++ payloadFields),
  appliedClause,
  invalidClause]

end Schema

end SutraArbiter
