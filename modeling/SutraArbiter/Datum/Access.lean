import SutraArbiter.Arrangement
import SutraArbiter.Datum.Fault
import SutraArbiter.Datum.Written

namespace SutraArbiter.Datum

/-! Access to data whose kind is not known beforehand.  Each way in says with
which fault it closes. -/

def ofStrings (texts : List String) : Datum :=
  list (texts.map text)

def plain? (d : Datum) : Except Fault String :=
  if d.isOverlong then .error .overlongInteger else .ok d.plain

theorem plain?_eq_ok {d : Datum} (h : d.isOverlong = false) :
    d.plain? = .ok d.plain := by
  simp [plain?, h]

@[simp] theorem plain?_text (s : String) : (text s).plain? = .ok s :=
  plain?_eq_ok (isOverlong_text s)

def items? : Datum → Except Fault (List Datum)
  | list items => .ok items
  | tuple items => .ok items
  | map entries => .ok (Entries.keys entries)
  | text value => .ok (value.toList.map fun c => text (String.singleton c))
  | bytes octets => .ok (octets.map fun octet => int octet.toNat)
  | buffer octets => .ok (octets.map fun octet => int octet.toNat)
  | d => .error (.notIterable d.kind)

/-- The entries of a map; `member` is what any other datum lacks. -/
def entriesFor? (member : String) : Datum → Except Fault Entries
  | map entries => .ok entries
  | d => .error (.noAttribute d.kind member)

def getD? (d : Datum) (key : String) (default : Datum) : Except Fault Datum := do
  let entries ← d.entriesFor? "get"
  pure (entries.getD key default)

def require? (d : Datum) (key : String) : Except Fault Datum :=
  match d with
  | map entries =>
      match Entries.get? entries key with
      | some value => .ok value
      | none => .error (.missingKey (Text.quoteString key))
  | list _ => .error (.indexKind .list .text)
  | tuple _ => .error (.indexKind .tuple .text)
  | text _ => .error (.indexKind .text .text)
  | bytes _ => .error (.indexKind .bytes .text)
  | buffer _ => .error (.indexKind .buffer .text)
  | _ => .error (.notSubscriptable d.kind)

def fitKey (d : Datum) : Except Fault Unit :=
  match d.unfitKind? with
  | some kind => .error (.unhashable kind)
  | none => .ok ()

/-- Octets read as the characters they stand for. -/
def numeral? : Datum → Option (List Char)
  | text value => some value.toList
  | bytes octets => some (octets.map fun octet => Char.ofNat octet.toNat)
  | buffer octets => some (octets.map fun octet => Char.ofNat octet.toNat)
  | _ => none

def toInt? (d : Datum) : Except Fault Int :=
  match d with
  | bool value => .ok (if value then 1 else 0)
  | int value => .ok value
  | float .nan => .error .integerOfNaN
  | float (.infinite _) => .error .integerOfInfinity
  | float (.finite negative units) =>
      let whole : Int := units / Double.unitsPerOne
      .ok (if negative then -whole else whole)
  | d =>
      match d.numeral? with
      | none => .error (.notInteger d.kind)
      | some numeral =>
          match Number.readInteger numeral with
          | .ok value => .ok value
          | .error .malformed => .error (.malformedInteger d.excerpt)
          | .error (.tooLong digits) => .error (.overlongNumeral digits)

def inRange? : Option Double → Except Fault Double
  | some x => .ok x
  | none => .error .integerTooLarge

def toDouble? (d : Datum) : Except Fault Double :=
  match d with
  | float value => .ok value
  | bool value => .ok (if value then .one else .zero)
  | int value => inRange? (Double.ofInt? value)
  | d =>
      match d.numeral? with
      | none => .error (.notReal d.kind)
      | some numeral =>
          match Number.readDouble? numeral with
          | some x => .ok x
          | none => .error (.malformedReal d.quoted)

/-- No index reaches this far. -/
def indexLimit : Int := 0x8000000000000000

/-- The place that a position names among `length` items; a negative position
counts from the end. -/
def placeAt? (container : Kind) (length : Nat) (i : Int) : Except Fault Nat :=
  let position := if i < 0 then i + length else i
  if 0 ≤ position && position < length then .ok position.toNat
  else if indexLimit ≤ i || i < -indexLimit then .error .indexSize
  else .error (.indexRange container)

def index? (container : Kind) (length : Nat) (d : Datum) : Except Fault Nat :=
  match d with
  | int i => placeAt? container length i
  | bool b => placeAt? container length (if b then 1 else 0)
  | d => .error (.indexKind container d.kind)

/-! Order of keys.  Numbers are ordered with numbers, texts with texts and tuples
by their first difference; between other kinds there is no order. -/

mutual

def precedes? : Datum → Datum → Except Fault Bool
  | text s, text t => .ok (s < t)
  | bytes s, bytes t => .ok (s < t)
  | tuple xs, tuple ys => itemsPrecede? xs ys
  | x, y =>
      match x.level?, y.level? with
      | some m, some n => .ok (m.lt n)
      | _, _ => .error (.unordered x.kind y.kind)

def itemsPrecede? : List Datum → List Datum → Except Fault Bool
  | _, [] => .ok false
  | [], _ :: _ => .ok true
  | x :: xs, y :: ys => if sameKey x y then itemsPrecede? xs ys else precedes? x y

end

def sorted? (keys : List Datum) : Except Fault (List Datum) :=
  Arrangement.arrange precedes? keys

end SutraArbiter.Datum
