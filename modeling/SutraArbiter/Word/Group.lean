import SutraArbiter.Script
import SutraArbiter.Word.Basic

namespace SutraArbiter

inductive InputError
  | wrongType
  | empty
  | unknownScript
  | badContext
  deriving DecidableEq

def InputError.code : InputError → String
  | wrongType => "TYPE_ERROR"
  | empty => "EMPTY_INPUT"
  | unknownScript => "INVALID_SCRIPT"
  | badContext => "INVALID_CONTEXT"

/-- Why input cannot be used, in the words of the answer. -/
structure Rejection where
  error : InputError
  script : Option Script
  message : String
  deriving DecidableEq

/-- Input that is rejected, or data that broke off the reading of it. -/
inductive Unusable
  | rejected (rejection : Rejection)
  | fault (fault : Fault)

def checkSurface (d : Datum) : Except Rejection Script :=
  match d with
  | .text surface =>
      if Text.isBlankString surface then
        .error ⟨.empty, none, "word form is empty"⟩
      else
        match Script.ofString surface with
        | .unknown =>
            let shown := Text.quoteString (Text.trimString surface)
            .error ⟨.unknownScript, some .unknown,
              s!"{shown} is neither Devanagari nor IAST"⟩
        | script => .ok script
  | d => .error ⟨.wrongType, none, s!"word form must be a string, got {d.kind.label}"⟩

structure Particulars where
  fields : List (Field × Datum)
  flags : Flags

namespace Particulars

/-- Takes up one entry.  An attribute counts under the first of its names that
has a value. -/
def take (given : Particulars) (name : String) (datum : Datum) : Particulars :=
  match Field.ofAlias? name with
  | none => { given with flags := given.flags.put name datum }
  | some field =>
      if datum.isNull || (given.fields.lookup field).isSome then given
      else { given with fields := given.fields ++ [(field, datum)] }

def read (given : Particulars) : Entries → Except Fault Particulars
  | [] => .ok given
  | (key, datum) :: rest => do
      let name ← key.plain?
      read (given.take (Text.snakeCase name) datum) rest

/-- The trimmed text of an attribute; one that is not given is empty. -/
def text? (given : Particulars) (field : Field) : Except Fault String :=
  match given.fields.lookup field with
  | none => .ok ""
  | some datum => do
      let text ← datum.plain?
      pure (Text.trimString text)

end Particulars

def genderName : String → String
  | "masc" => "m"
  | "masculine" => "m"
  | "pum" => "m"
  | "fem" => "f"
  | "feminine" => "f"
  | "stri" => "f"
  | "neut" => "n"
  | "neuter" => "n"
  | "napumsaka" => "n"
  | gender => gender

def Word.build (index : Nat) (given : Particulars) : Except Fault Word := do
  let surface ← given.text? .surface
  let headword ← given.text? .headword
  let base ← given.text? .base
  let caseName ← given.text? .caseName
  let gender ← given.text? .gender
  let category ← given.text? .category
  pure {
    index, surface, headword, base
    caseName := Text.lowerString caseName
    gender := genderName (Text.lowerString gender)
    category := Text.lowerString category
    flags := given.flags }

def readParticulars (index : Nat) : Datum → Except Unusable Particulars
  | .text surface => .ok ⟨[(.surface, .text surface)], []⟩
  | .map entries =>
      match Particulars.read ⟨[], []⟩ entries with
      | .ok given => .ok given
      | .error fault => .error (.fault fault)
  | d =>
      .error (.rejected ⟨.wrongType, none,
        s!"word {index} must be a string or a mapping, got {d.kind.label}"⟩)

def Particulars.script? (given : Particulars) : Except Unusable (Option Script) :=
  match given.fields.lookup .surface with
  | none => .ok none
  | some surface =>
      match checkSurface surface with
      | .ok script => .ok (some script)
      | .error rejection => .error (.rejected rejection)

def readWord (index : Nat) (item : Datum) : Except Unusable (Word × Option Script) := do
  let given ← readParticulars index item
  let script ← given.script?
  match Word.build index given with
  | .ok word => pure (word, script)
  | .error fault => .error (.fault fault)

def readWords (index : Nat) : List Datum → Except Unusable (List (Word × Option Script))
  | [] => .ok []
  | item :: rest => do
      let word ← readWord index item
      let words ← readWords (index + 1) rest
      pure (word :: words)

structure WordGroup where
  words : List Word
  script : Option Script

def commonScript? (scripts : List (Option Script)) : Option Script :=
  match (scripts.filterMap id).eraseDups with
  | [script] => some script
  | _ => none

namespace WordGroup

def items : Datum → Except Unusable (List Datum)
  | .text raw =>
      .ok ((Text.tokens raw.toList).map fun token => .text (String.ofList token))
  | .list items => .ok items
  | .tuple items => .ok items
  | d =>
      .error (.rejected ⟨.wrongType, none,
        s!"input must be a string or a sequence, got {d.kind.label}"⟩)

def read (raw : Datum) : Except Unusable WordGroup := do
  let items ← items raw
  if items.isEmpty then
    .error (.rejected ⟨.empty, none, "input contains no words"⟩)
  else
    let words ← readWords 0 items
    pure ⟨words.map Prod.fst, commonScript? (words.map Prod.snd)⟩

end WordGroup

end SutraArbiter
