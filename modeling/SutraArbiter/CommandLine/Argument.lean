import SutraArbiter.Text.Digit

namespace SutraArbiter

/-! The arguments of a command, one by one: options with or without a value, and
operands.  A long option may be shortened as far as no other begins alike. -/

inductive Command
  | resolve
  | rules
  | validateRules
  deriving DecidableEq

def Command.ofName? : String → Option Command
  | "resolve" => some resolve
  | "rules" => some rules
  | "validate-rules" => some validateRules
  | _ => none

inductive Switch
  | help
  | jsonInput
  | verbose
  deriving DecidableEq

inductive Setting
  | context
  | scope
  | config
  | rulesDirectory
  | ruleFile
  deriving DecidableEq

inductive Choosable
  | switch (switch : Switch)
  | setting (setting : Setting)
  deriving DecidableEq

structure Named where
  letter : Option Char
  name : String
  means : Choosable

namespace Command

def help : Named := ⟨some 'h', "--help", .switch .help⟩

def verbose : Named := ⟨some 'v', "--verbose", .switch .verbose⟩

def config : Named := ⟨some 'c', "--config", .setting .config⟩

def ruleSources : List Named :=
  [⟨some 'R', "--rules-dir", .setting .rulesDirectory⟩,
    ⟨some 'f', "--rule-file", .setting .ruleFile⟩]

def options : Command → List Named
  | resolve =>
      [help, ⟨none, "--json-input", .switch .jsonInput⟩,
        ⟨none, "--context", .setting .context⟩,
        ⟨some 's', "--scope", .setting .scope⟩, config]
        ++ ruleSources ++ [verbose]
  | rules => [help, config] ++ ruleSources ++ [verbose]
  | validateRules => [help] ++ ruleSources ++ [verbose]

def ofLetter? (command : Command) (letter : Char) : Option Choosable :=
  (command.options.find? fun named => named.letter = some letter).map Named.means

def ofLongName? (command : Command) (name : List Char) : Option Choosable :=
  (command.options.find? fun named => named.name.toList = name).map Named.means

def beginningWith (command : Command) (start : List Char) : List Choosable :=
  (command.options.filter fun named => start.isPrefixOf named.name.toList).map
    Named.means

end Command

inductive Argument
  | operand (text : String)
  | switches (given : List Switch)
  /-- The last option of the argument takes a value, which may be part of it. -/
  | setting (before : List Switch) (setting : Setting) (value : Option String)
  | separator
  deriving DecidableEq

namespace Argument

def endOfOptions : String := "--"

def bare : Choosable → Argument
  | .switch switch => switches [switch]
  | .setting name => setting [] name none

/-- An option to which the argument itself joins a value. -/
def joined (value : List Char) : Choosable → Option Argument
  | .switch _ => none
  | .setting name => some (setting [] name (some (String.ofList value)))

def putBefore (switch : Switch) : Argument → Argument
  | switches given => switches (switch :: given)
  | setting before name value => setting (switch :: before) name value
  | argument => argument

/-- What follows an option's letter: the value of the option, or, if it takes none,
the letter of a further option and what follows that. -/
def ofLetters? (command : Command) (option : Choosable) : List Char → Option Argument
  | [] => some (bare option)
  | letter :: rest =>
      match option with
      | .setting _ => joined (letter :: rest) option
      | .switch switch =>
          match command.ofLetter? letter with
          | none => none
          | some next => (ofLetters? command next rest).map (putBefore switch)

def beforeEquals (s : List Char) : List Char :=
  s.takeWhile (· ≠ '=')

def afterEquals? (s : List Char) : Option (List Char) :=
  match s.dropWhile (· ≠ '=') with
  | [] => none
  | _ :: value => some value

def ofChoosable (option : Choosable) : Option (List Char) → Option Argument
  | none => some (bare option)
  | some value => joined value option

/-- Digits with at most one point among them, which is not the last character. -/
def isNumber (s : List Char) : Bool :=
  let digits := if s.getLast? = some '\n' then s.dropLast else s
  match digits.dropWhile Text.isDigit with
  | [] => !digits.isEmpty
  | '.' :: behind => !behind.isEmpty && behind.all Text.isDigit
  | _ => false

/-- What begins like an option and names none is an operand if it reads as a
negative number or holds a blank. -/
def ofUnknown? (s : List Char) : Option Argument :=
  if isNumber (s.drop 1) || s.contains ' ' then some (operand (String.ofList s))
  else none

def ofLong? (command : Command) (s : List Char) : Option Argument :=
  match command.ofLongName? (beforeEquals s) with
  | some option => ofChoosable option (afterEquals? s)
  | none =>
      match command.beginningWith (beforeEquals s) with
      | [] => ofUnknown? s
      | [option] => ofChoosable option (afterEquals? s)
      | _ => none

/-- An equals sign may stand behind the first letter, but not behind a further
one. -/
def ofShort? (command : Command) (s : List Char) : Option Argument :=
  match s.drop 1 with
  | [] => some (operand (String.ofList s))
  | letter :: rest =>
      match command.ofLetter? letter, rest with
      | none, _ => ofUnknown? s
      | some option, ['='] => joined [] option
      | some option, '=' :: value => ofLetters? command option value
      | some option, rest => ofLetters? command option rest

def read? (command : Command) (text : String) : Option Argument :=
  match text.toList with
  | '-' :: '-' :: rest => ofLong? command ('-' :: '-' :: rest)
  | '-' :: rest => ofShort? command ('-' :: rest)
  | _ => some (operand text)

def readAll? (command : Command) : List String → Option (List Argument)
  | [] => some []
  | text :: rest =>
      if text = endOfOptions then some (separator :: rest.map operand)
      else
        match read? command text, readAll? command rest with
        | some argument, some arguments => some (argument :: arguments)
        | _, _ => none

end Argument

end SutraArbiter
