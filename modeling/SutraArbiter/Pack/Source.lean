import SutraArbiter.Failure
import SutraArbiter.Pack.Bundled

namespace SutraArbiter

structure Source where
  directory : Option Path
  files : Option (List Path)

structure RuleFile where
  path : String
  name : String
  document : Document

namespace Source

def bundled : Source := ⟨none, none⟩

def bundledFiles : List RuleFile :=
  Pack.bundled.map fun file => ⟨file.1, file.1, .data file.2⟩

def isRuleName (name : String) : Bool :=
  String.ofList (Text.lower (Path.extension name)) = ".yaml"

def ruleFile (files : Files) (path : Path) : RuleFile :=
  ⟨files.shown path, path.name, files.read path⟩

/-- An explicit rule file has to be there and to bear the extension. -/
def explicitFile (files : Files) (given : Path) : Except Failure RuleFile := do
  let path ← (files.locate? given).mapError .fault
  if !files.isFile path then .error (.config (.fileMissing (files.shown path)))
  else if !isRuleName path.name then .error (.config (.fileExtension path.name))
  else pure (ruleFile files path)

def listed (files : Files) (directory : Path) : List RuleFile :=
  ((files.names directory).filter fun name => name.endsWith ".yaml").map fun name =>
    ruleFile files (directory.join name)

def collect (files : Files) (source : Source) : Except Failure (List RuleFile) :=
  match source.directory, source.files with
  | some _, some _ => .error (.config .sourceConflict)
  | none, some paths => paths.mapM (explicitFile files)
  | some given, none => do
      let directory ← (files.locate? given).mapError .fault
      if files.isDirectory directory then pure (listed files directory)
      else .error (.config (.directoryMissing (files.shown directory)))
  | none, none => .ok bundledFiles

end Source

end SutraArbiter
