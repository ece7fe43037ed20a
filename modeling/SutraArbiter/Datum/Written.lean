import SutraArbiter.Datum.Basic
import SutraArbiter.Number.Reading
import SutraArbiter.Number.Shortest
import SutraArbiter.Text.Quoted

namespace SutraArbiter.Datum

def joinWith (separator : List Char) : List (List Char) → List Char
  | [] => []
  | [piece] => piece
  | piece :: rest => piece ++ separator ++ joinWith separator rest

def commaSeparated (pieces : List (List Char)) : List Char :=
  joinWith [',', ' '] pieces

def tupleText : List (List Char) → List Char
  | [piece] => '(' :: piece ++ [',', ')']
  | pieces => '(' :: commaSeparated pieces ++ [')']

mutual

def shown : Datum → List Char
  | null => "None".toList
  | bool value => if value then "True".toList else "False".toList
  | int value => Text.decimalInt value
  | float value => value.written.toList
  | text value => Text.quote value.toList
  | bytes octets => 'b' :: Text.quoteOctets octets
  | buffer octets => "bytearray(b".toList ++ Text.quoteBuffer octets ++ [')']
  | list items => '[' :: commaSeparated (shownItems items) ++ [']']
  | tuple items => tupleText (shownItems items)
  | map entries => '\x7b' :: commaSeparated (shownEntries entries) ++ ['\x7d']

def shownItems : List Datum → List (List Char)
  | [] => []
  | item :: rest => shown item :: shownItems rest

def shownEntries : List (Datum × Datum) → List (List Char)
  | [] => []
  | (key, value) :: rest =>
      (shown key ++ ':' :: ' ' :: shown value) :: shownEntries rest

end

def quoted (d : Datum) : String :=
  String.ofList d.shown

def excerptLength : Nat := 200

/-- The beginning of the quoted form, as messages on numerals give it; octets are
shown as octets, in a buffer or not. -/
def excerpt (d : Datum) : String :=
  let whole :=
    match d with
    | bytes octets => shown (bytes (octets.take excerptLength))
    | buffer octets => shown (bytes (octets.take excerptLength))
    | d => shown d
  String.ofList (whole.take excerptLength)

def plain : Datum → String
  | text value => value
  | d => d.quoted

@[simp] theorem plain_text (s : String) : (text s).plain = s := rfl

mutual

def isOverlong : Datum → Bool
  | int value => Number.hasOverlongText value
  | list items => anyOverlong items
  | tuple items => anyOverlong items
  | map entries => anyEntryOverlong entries
  | _ => false

def anyOverlong : List Datum → Bool
  | [] => false
  | item :: rest => isOverlong item || anyOverlong rest

def anyEntryOverlong : List (Datum × Datum) → Bool
  | [] => false
  | (key, value) :: rest =>
      isOverlong key || isOverlong value || anyEntryOverlong rest

end

@[simp] theorem isOverlong_text (s : String) : (text s).isOverlong = false := by
  simp [isOverlong]

end SutraArbiter.Datum
