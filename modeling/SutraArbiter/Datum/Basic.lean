import SutraArbiter.Number.Double

namespace SutraArbiter

/-! Data as callers and rule files give it.  A map keeps its entries in the order
in which they were written; no two of its keys are the same. -/

inductive Datum
  | null
  | bool (value : Bool)
  | int (value : Int)
  | float (value : Double)
  | text (value : String)
  | bytes (octets : List UInt8)
  | buffer (octets : List UInt8)
  | list (items : List Datum)
  | tuple (items : List Datum)
  | map (entries : List (Datum × Datum))

abbrev Entries := List (Datum × Datum)

inductive Kind
  | null
  | bool
  | int
  | float
  | text
  | bytes
  | buffer
  | list
  | tuple
  | map
  deriving DecidableEq

def Kind.label : Kind → String
  | null => "NoneType"
  | bool => "bool"
  | int => "int"
  | float => "float"
  | text => "str"
  | bytes => "bytes"
  | buffer => "bytearray"
  | list => "list"
  | tuple => "tuple"
  | map => "dict"

namespace Datum

instance : Inhabited Datum := ⟨null⟩

def kind : Datum → Kind
  | null => .null
  | bool _ => .bool
  | int _ => .int
  | float _ => .float
  | text _ => .text
  | bytes _ => .bytes
  | buffer _ => .buffer
  | list _ => .list
  | tuple _ => .tuple
  | map _ => .map

/-- Nothing, zero, falsehood and whatever is empty do not hold. -/
def holds : Datum → Bool
  | null => false
  | bool value => value
  | int value => value != 0
  | float value => !value.isZero
  | text value => value != ""
  | bytes octets => !octets.isEmpty
  | buffer octets => !octets.isEmpty
  | list items => !items.isEmpty
  | tuple items => !items.isEmpty
  | map entries => !entries.isEmpty

/-- The place of a number on the line; truth counts as one. -/
def level? : Datum → Option Level
  | bool value => some (Level.ofInt (if value then 1 else 0))
  | int value => some (Level.ofInt value)
  | float value => some value.level
  | _ => none

def isText : Datum → Bool
  | text _ => true
  | _ => false

def isMap : Datum → Bool
  | map _ => true
  | _ => false

def isNull : Datum → Bool
  | null => true
  | _ => false

mutual

/-- The kind that keeps a datum from being a key: a list, a map or a buffer, also
inside a tuple. -/
def unfitKind? : Datum → Option Kind
  | list _ => some .list
  | map _ => some .map
  | buffer _ => some .buffer
  | tuple items => unfitKindAmong? items
  | _ => none

def unfitKindAmong? : List Datum → Option Kind
  | [] => none
  | item :: rest =>
      match unfitKind? item with
      | some kind => some kind
      | none => unfitKindAmong? rest

end

mutual

def sameKey : Datum → Datum → Bool
  | null, null => true
  | text s, text t => s = t
  | bytes s, bytes t => s = t
  | tuple xs, tuple ys => sameKeys xs ys
  | bool b, y => sameLevel (bool b) y
  | int i, y => sameLevel (int i) y
  | float x, y => sameLevel (float x) y
  | _, _ => false

def sameKeys : List Datum → List Datum → Bool
  | [], [] => true
  | x :: xs, y :: ys => sameKey x y && sameKeys xs ys
  | _, _ => false

def sameLevel (x y : Datum) : Bool :=
  match x.level?, y.level? with
  | some m, some n => m.same n
  | _, _ => false

end

end Datum

namespace Entries

def find? (entries : Entries) (key : Datum) : Option Datum :=
  (List.find? (fun entry => entry.1.sameKey key) entries).map Prod.snd

def get? (entries : Entries) (key : String) : Option Datum :=
  entries.find? (.text key)

def getD (entries : Entries) (key : String) (default : Datum) : Datum :=
  (entries.get? key).getD default

def has (entries : Entries) (key : String) : Bool :=
  (entries.get? key).isSome

/-- Writes an entry; a key that is there already keeps its place. -/
def put (entries : Entries) (key value : Datum) : Entries :=
  match entries with
  | [] => [(key, value)]
  | entry :: rest =>
      if entry.1.sameKey key then (entry.1, value) :: rest
      else entry :: put rest key value

def keys (entries : Entries) : List Datum :=
  List.map Prod.fst entries

def without (entries : Entries) (key : String) : Entries :=
  List.filter (fun entry => !entry.1.sameKey (.text key)) entries

end Entries

end SutraArbiter
