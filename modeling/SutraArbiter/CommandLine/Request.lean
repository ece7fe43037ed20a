import SutraArbiter.CommandLine.Argument
import SutraArbiter.Files

namespace SutraArbiter

/-- What an option is given.  The mark of the end of options is taken away where it
stands as a value, which leaves nothing. -/
inductive Given
  | text (value : String)
  | nothing
  deriving DecidableEq

namespace Given

def ofString (value : String) : Given :=
  if value = Argument.endOfOptions then nothing else text value

def toDatum : Given → Datum
  | text value => .text value
  | nothing => .list []

def toPath? : Given → Except Fault Path
  | text value => .ok (Path.ofString value)
  | nothing => .error (.noAttribute .list "resolve")

end Given

structure Request where
  words : List String
  jsonInput : Bool
  verbose : Bool
  context : Option Given
  /-- No tag stands for the usual scope. -/
  scope : List Given
  config : Option Given
  rulesDirectory : Option Given
  ruleFiles : List Given
  deriving DecidableEq

namespace Request

def empty : Request where
  words := []
  jsonInput := false
  verbose := false
  context := none
  scope := []
  config := none
  rulesDirectory := none
  ruleFiles := []

/-- A request for help is a request for nothing else. -/
def turn (request : Request) : Switch → Option Request
  | .help => none
  | .jsonInput => some { request with jsonInput := true }
  | .verbose => some { request with verbose := true }

def turnAll (request : Request) : List Switch → Option Request
  | [] => some request
  | switch :: rest =>
      match request.turn switch with
      | some next => next.turnAll rest
      | none => none

def set (request : Request) (value : Given) : Setting → Request
  | .context => { request with context := some value }
  | .scope => { request with scope := request.scope ++ [value] }
  | .config => { request with config := some value }
  | .rulesDirectory => { request with rulesDirectory := some value }
  | .ruleFile => { request with ruleFiles := request.ruleFiles ++ [value] }

/-- Words stand together: an option behind them closes their row. -/
inductive Row
  | awaited
  | current
  | closed
  deriving DecidableEq

namespace Row

def pass : Row → Row
  | awaited => awaited
  | _ => closed

end Row

def take (request : Request) (row : Row) : List Argument → Option Request
  | [] => some request
  | .operand word :: rest =>
      if row = .closed then none
      else take { request with words := request.words ++ [word] } .current rest
  | .separator :: rest => if row = .closed then none else take request row rest
  | .switches given :: rest =>
      match request.turnAll given with
      | some next => take next row.pass rest
      | none => none
  | .setting before name (some value) :: rest =>
      match request.turnAll before with
      | some next => take (next.set (.ofString value) name) row.pass rest
      | none => none
  | .setting before name none :: .operand value :: rest =>
      match request.turnAll before with
      | some next => take (next.set (.ofString value) name) row.pass rest
      | none => none
  | .setting _ _ none :: _ => none

def firstRow : Command → Row
  | .resolve => .awaited
  | _ => .closed

/-- One command alone judges words, and it needs some; no command takes rules both
from a directory and from files. -/
def isComplete (command : Command) (request : Request) : Bool :=
  (command ≠ .resolve || !request.words.isEmpty)
    && (request.rulesDirectory.isNone || request.ruleFiles.isEmpty)

def read? (command : Command) (arguments : List String) : Option Request :=
  match Argument.readAll? command arguments with
  | none => none
  | some arguments =>
      match take empty (firstRow command) arguments with
      | none => none
      | some request => if isComplete command request then some request else none

end Request

end SutraArbiter
