import SutraArbiter.CommandLine.Run

namespace SutraArbiter.Disk

/-! The documents on disk that a command can ask for.  They are read as JSON, which
is a form of every document that a rule file can hold. -/

/-- What is told of a text that is no JSON. -/
def complaint (_ : String) : String :=
  "not a JSON document"

def readDocument (path : String) : IO Document := do
  let text ← (IO.FS.readFile path).toBaseIO
  match text with
  | .error fault => pure (.unparsable fault.toString)
  | .ok text =>
      match Json.read text.toList with
      | .ok datum => pure (.data datum)
      | .error _ => pure (.unparsable (complaint text))

def isDirectory (path : String) : IO Bool := do
  let place ← IO.FS.realPath path
  place.isDir

def place (name : String) (document : Document) : List String × Document :=
  ((Path.ofString name).resolve.parts, document)

def readEntry (name : String) : IO (List String × Document) := do
  if ← isDirectory name then pure (place name .directory)
  else
    let document ← readDocument name
    pure (place name document)

/-- The rule files in a directory, by the names under which they are found. -/
def ruleNames (directory : String) : IO (List String) := do
  let found ← IO.FS.realPath directory
  let entries ← found.readDir
  let names := entries.toList.map fun entry => entry.fileName
  pure ((names.filter fun name => name.endsWith ".yaml").map fun name =>
    directory ++ "/" ++ name)

/-- What a name stands for: nothing, a file, or a directory with the rule files in
it. -/
def readPlace (name : String) : IO (List (List String × Document)) := do
  let found ← (IO.FS.realPath name).toBaseIO
  match found with
  | .error _ => pure []
  | .ok _ =>
      let entry ← readEntry name
      if ← isDirectory name then
        let names ← ruleNames name
        let entries ← names.mapM readEntry
        pure (entry :: entries)
      else pure [entry]

/-- The texts of a configuration, any of which may name a source of rules. -/
def namesIn : Document → List String
  | .data (.map entries) =>
      (entries.map Prod.snd).flatMap fun datum =>
        match datum with
        | .text name => [name]
        | .list items => items.filterMap Config.text?
        | _ => []
  | _ => []

def gather (arguments : List String) : IO Files := do
  let root ← IO.currentDir
  let named ← (Config.fileName :: arguments).mapM readPlace
  let further ← (named.flatten.flatMap fun file => namesIn file.2).mapM readPlace
  pure ⟨root.toString, named.flatten ++ further.flatten⟩

end SutraArbiter.Disk

open SutraArbiter in
def main (arguments : List String) : IO UInt32 := do
  let files ← Disk.gather arguments
  match Command.run Disk.complaint files arguments with
  | .usage =>
      IO.eprintln "usage: resolve WORDS, rules or validate-rules, with options"
      pure Outcome.usageStatus.toUInt32
  | .done status output errors =>
      IO.eprint errors
      IO.print output
      pure status.toUInt32
  | .broken failure =>
      IO.eprintln s!"{failure.label}: {failure.message}"
      pure 1
