import SutraArbiter.Datum.Basic

namespace SutraArbiter

/-! What can go wrong with data of an unexpected kind, each with the class and the
message under which it is reported. -/

inductive Fault
  | notIterable (kind : Kind)
  | notCallable (kind : Kind)
  | notSubscriptable (kind : Kind)
  | unhashable (kind : Kind)
  | noAttribute (kind : Kind) (member : String)
  | missingKey (quotedKey : String)
  | indexKind (container key : Kind)
  | indexRange (container : Kind)
  | indexSize
  | unordered (left right : Kind)
  | notInteger (kind : Kind)
  | malformedInteger (quoted : String)
  | overlongNumeral (digits : Nat)
  | overlongInteger
  | integerOfNaN
  | integerOfInfinity
  | notReal (kind : Kind)
  | malformedReal (quoted : String)
  | integerTooLarge
  | notNormalizable (kind : Kind)
  | notJoinable (position : Nat) (kind : Kind)
  | notRecordKey (kind : Kind)
  | notSerializable (kind : Kind)
  | nestedTooDeep (kind : Kind)
  | nulInPath
  | nameTooLong (quotedPath : String)
  | notJsonText (kind : Kind)
  /-- A failure that a rule of the caller's own reports. -/
  | reported (label message : String)
  deriving DecidableEq

namespace Fault

def label : Fault → String
  | noAttribute .. => "AttributeError"
  | missingKey _ => "KeyError"
  | indexRange _ | indexSize => "IndexError"
  | malformedInteger _ | overlongNumeral _ | overlongInteger | integerOfNaN
  | malformedReal _ | nulInPath => "ValueError"
  | nestedTooDeep _ => "RecursionError"
  | nameTooLong _ => "OSError"
  | integerOfInfinity | integerTooLarge => "OverflowError"
  | reported label _ => label
  | _ => "TypeError"

def containerLabel : Kind → String
  | .text => "string"
  | .bytes => "byte"
  | kind => kind.label

def message : Fault → String
  | notIterable kind => s!"'{kind.label}' object is not iterable"
  | notCallable kind => s!"'{kind.label}' object is not callable"
  | notSubscriptable kind => s!"'{kind.label}' object is not subscriptable"
  | unhashable kind => s!"unhashable type: '{kind.label}'"
  | noAttribute kind member =>
      s!"'{kind.label}' object has no attribute '{member}'"
  | missingKey quotedKey => quotedKey
  | indexKind .text key => s!"string indices must be integers, not '{key.label}'"
  | indexKind container key =>
      s!"{containerLabel container} indices must be integers or slices, not {key.label}"
  | indexRange container => s!"{containerLabel container} index out of range"
  | indexSize => "cannot fit 'int' into an index-sized integer"
  | unordered left right =>
      s!"'<' not supported between instances of '{left.label}' and '{right.label}'"
  | notInteger kind =>
      "int() argument must be a string, a bytes-like object or a real number, not "
        ++ s!"'{kind.label}'"
  | malformedInteger quoted =>
      s!"invalid literal for int() with base 10: {quoted}"
  | overlongNumeral digits =>
      s!"Exceeds the limit (4300 digits) for integer string conversion: value has {digits}"
        ++ " digits; use sys.set_int_max_str_digits() to increase the limit"
  | overlongInteger =>
      "Exceeds the limit (4300 digits) for integer string conversion; "
        ++ "use sys.set_int_max_str_digits() to increase the limit"
  | integerOfNaN => "cannot convert float NaN to integer"
  | integerOfInfinity => "cannot convert float infinity to integer"
  | notReal kind =>
      s!"float() argument must be a string or a real number, not '{kind.label}'"
  | malformedReal quoted => s!"could not convert string to float: {quoted}"
  | integerTooLarge => "int too large to convert to float"
  | notNormalizable .null => "normalize() argument 2 must be str, not None"
  | notNormalizable kind => s!"normalize() argument 2 must be str, not {kind.label}"
  | notJoinable position kind =>
      s!"sequence item {position}: expected str instance, {kind.label} found"
  | notRecordKey kind =>
      s!"keys must be str, int, float, bool or None, not {kind.label}"
  | notSerializable kind => s!"Object of type {kind.label} is not JSON serializable"
  | nestedTooDeep kind =>
      let container := if kind = .map then "object" else "array"
      s!"maximum recursion depth exceeded while decoding a JSON {container}"
        ++ " from a unicode string"
  | nulInPath => "embedded null byte"
  | nameTooLong quotedPath => s!"[Errno 36] File name too long: {quotedPath}"
  | notJsonText kind =>
      s!"the JSON object must be str, bytes or bytearray, not {kind.label}"
  | reported _ message => message

def line (fault : Fault) : String :=
  s!"{fault.label}: {fault.message}"

end Fault

end SutraArbiter
