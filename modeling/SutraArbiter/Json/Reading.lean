import SutraArbiter.Datum.Basic
import SutraArbiter.Json.Token
import SutraArbiter.Number.Reading

namespace SutraArbiter.Json

/-! Reading a JSON document, token by token.  Members of one name count once: the
last value at the first place. -/

inductive ReadFault
  | malformed
  | overlong (digits : Nat)
  | tooDeep (kind : Kind)
  deriving DecidableEq

/-- A list or map that is still open; the items of a list stand last first. -/
inductive Frame
  | items (reversed : List Datum)
  | members (done : Entries) (key : String)

inductive Awaiting
  | value (closable : Bool)
  | key (closable : Bool)
  | colon
  | comma
  | nothing (document : Datum)

structure Reader where
  frames : List Frame
  awaiting : Awaiting

namespace Reader

def start : Reader := ⟨[], .value false⟩

def deliver (value : Datum) : List Frame → Reader
  | [] => ⟨[], .nothing value⟩
  | .items reversed :: outer => ⟨.items (value :: reversed) :: outer, .comma⟩
  | .members done key :: outer =>
      ⟨.members (done.put (.text key) value) key :: outer, .comma⟩

def close (c : Char) : List Frame → Except ReadFault Reader
  | .items reversed :: outer =>
      if c = ']' then .ok (deliver (.list reversed.reverse) outer)
      else .error .malformed
  | .members done _ :: outer =>
      if c = '\x7d' then .ok (deliver (.map done) outer) else .error .malformed
  | [] => .error .malformed

def afterComma : List Frame → Except ReadFault Reader
  | .items reversed :: outer => .ok ⟨.items reversed :: outer, .value false⟩
  | .members done key :: outer => .ok ⟨.members done key :: outer, .key false⟩
  | [] => .error .malformed

def isPlainDigit (c : Char) : Bool :=
  '0' ≤ c && c ≤ '9'

def isWhole (s : List Char) : Bool :=
  s.all isPlainDigit && (s = ['0'] || s.head?.any (· ≠ '0'))

def isRow (s : List Char) : Bool :=
  !s.isEmpty && s.all isPlainDigit

def isExponent : List Char → Bool
  | [] => true
  | _ :: '+' :: rest => isRow rest
  | _ :: '-' :: rest => isRow rest
  | _ :: rest => isRow rest

/-- Whether a point and a digit follow, or an exponent. -/
def goesOn (rest : List Char) : Bool :=
  let startsRow (s : List Char) : Bool := s.head?.any isPlainDigit
  match rest with
  | '.' :: behind => startsRow behind
  | c :: behind =>
      (c = 'e' || c = 'E')
        && (startsRow behind
          || ((behind.head? = some '+' || behind.head? = some '-')
            && startsRow (behind.drop 1)))
  | [] => false

/-- Too many digits are refused before what follows them is looked at. -/
def integer (negative : Bool) (whole rest : List Char) : Except ReadFault Datum :=
  if Number.digitLimit < whole.length then .error (.overlong whole.length)
  else if !rest.isEmpty then .error .malformed
  else
    let magnitude : Int := Text.ofDigits (whole.filterMap Text.digitValue?)
    .ok (.int (if negative then -magnitude else magnitude))

/-- A number with a point or an exponent; `rest` stands behind its first digits. -/
def real (negative : Bool) (body rest : List Char) : Except ReadFault Datum :=
  let hasPoint := rest.head? = some '.'
  let power := if hasPoint then (rest.drop 1).dropWhile isPlainDigit else rest
  if !(power.head?.all fun c => c = 'e' || c = 'E') || !isExponent power then
    .error .malformed
  else
    match Number.readMagnitude? negative body with
    | some value => .ok (.float value)
    | none => .error .malformed

def number (word : List Char) : Except ReadFault Datum :=
  let negative := word.head? = some '-'
  let body := if negative then word.drop 1 else word
  let whole := body.takeWhile isPlainDigit
  let rest := body.dropWhile isPlainDigit
  if !isWhole whole then .error .malformed
  else if goesOn rest then real negative body rest
  else integer negative whole rest

def scalar (word : List Char) : Except ReadFault Datum :=
  match String.ofList word with
  | "null" => .ok .null
  | "true" => .ok (.bool true)
  | "false" => .ok (.bool false)
  | "NaN" => .ok (.float .nan)
  | "Infinity" => .ok (.float (.infinite false))
  | "-Infinity" => .ok (.float (.infinite true))
  | _ => number word

def depthLimit : Nat := 988

def openFrame (reader : Reader) (kind : Kind) (frame : Frame) (awaiting : Awaiting) :
    Except ReadFault Reader :=
  if depthLimit ≤ reader.frames.length then .error (.tooDeep kind)
  else .ok ⟨frame :: reader.frames, awaiting⟩

def take (reader : Reader) (token : Token) : Except ReadFault Reader :=
  match reader.awaiting, token with
  | .value _, .string content =>
      .ok (deliver (.text (String.ofList content)) reader.frames)
  | .value _, .word content => do
      let value ← scalar content
      pure (deliver value reader.frames)
  | .value closable, .mark c =>
      if c = '[' then reader.openFrame .list (.items []) (.value true)
      else if c = '\x7b' then reader.openFrame .map (.members [] "") (.key true)
      else if closable then close c reader.frames
      else .error .malformed
  | .key _, .string content =>
      match reader.frames with
      | .members done _ :: outer =>
          .ok ⟨.members done (String.ofList content) :: outer, .colon⟩
      | _ => .error .malformed
  | .key true, .mark c => close c reader.frames
  | .colon, .mark ':' => .ok ⟨reader.frames, .value false⟩
  | .comma, .mark ',' => afterComma reader.frames
  | .comma, .mark c => close c reader.frames
  | _, _ => .error .malformed

def run (reader : Reader) : List Token → Except ReadFault Datum
  | [] =>
      match reader.awaiting with
      | .nothing document => .ok document
      | _ => .error .malformed
  | token :: rest => do
      let next ← reader.take token
      run next rest

end Reader

def read (s : List Char) : Except ReadFault Datum :=
  Reader.start.run (Token.row s)

end SutraArbiter.Json
