import SutraArbiter.Pack.Source
import SutraArbiter.Rule.Grammar

namespace SutraArbiter

structure Problem where
  code : String
  path : String
  field : String
  message : String
  hint : String
  deriving DecidableEq

namespace Problem

def parts (problem : Problem) : List String :=
  [s!"[{problem.code}]", if problem.path = "" then "<rules>" else problem.path]
    ++ (if problem.field = "" then [] else [s!"{problem.field}:"])
    ++ [problem.message]
    ++ (if problem.hint = "" then [] else [s!"({problem.hint})"])

def line (problem : Problem) : String :=
  " ".intercalate problem.parts

def key (problem : Problem) : List String :=
  [problem.code, problem.path, problem.field]

/-- By code, path and field; problems that agree in these keep their order. -/
def sorted (problems : List Problem) : List Problem :=
  problems.mergeSort fun x y => !(y.key < x.key)

def report (problems : List Problem) : String :=
  "\n".intercalate ((sorted problems).map line)

def conflict : Problem where
  code := "RULE007"
  path := ""
  field := ""
  message :=
    "rules source conflict: choose either --rules-dir or --rule-file, not both"
  hint := ""

def missingFile (path : String) : Problem :=
  ⟨"RULE001", path, "", s!"rule file not found: {path}", ""⟩

def missingDirectory (path : String) : Problem :=
  ⟨"RULE001", path, "", s!"rules directory not found: {path}", ""⟩

def extension (path name : String) : Problem :=
  ⟨"RULE002", path, "", s!"rule file must use .yaml extension: {name}",
    "rename the file to use a .yaml extension"⟩

def unreadable (path : String) : Problem :=
  ⟨"RULE001", path, "", s!"failed to read rule file: {directoryReading path}", ""⟩

/-- What the parser tells may take many lines, and is told on one. -/
def unparsable (path told : String) : Problem :=
  let detail := String.ofList (Text.collapse told.toList)
  ⟨"RULE003", path, "", s!"invalid YAML: {detail}", ""⟩

def notMapping (path : String) (kind : Kind) : Problem :=
  ⟨"RULE004", path, "", s!"rule must be a mapping, got {kind.label}", ""⟩

def violation (path : String) (violation : Violation) : Problem :=
  ⟨"RULE005", path, "", violation.message, ""⟩

def duplicate (path id first : String) : Problem :=
  ⟨"RULE006", path, "rule_id",
    s!"duplicate rule_id \x60{id}\x60 (first defined in {first})",
    "give each rule file a distinct rule_id"⟩

end Problem

namespace Pack

/-- What one explicit file adds: the file, or its problem. -/
def inspectExplicit (files : Files) (given : Path) :
    Except Fault (Except Problem RuleFile) := do
  let path ← files.locate? given
  if !files.isFile path then pure (.error (.missingFile (files.shown path)))
  else if !Source.isRuleName path.name then
    pure (.error (.extension (files.shown path) path.name))
  else pure (.ok (Source.ruleFile files path))

def problems (results : List (Except Problem RuleFile)) : List Problem :=
  results.filterMap fun result =>
    match result with
    | .error problem => some problem
    | .ok _ => none

def readable (results : List (Except Problem RuleFile)) : List RuleFile :=
  results.filterMap Except.toOption

/-- The ids of valid files so far, each with the file that bears it. -/
abbrev Owners := List (String × String)

/-- The problem of one file, or the id that it bears. -/
def inspectFile (owners : Owners) (file : RuleFile) :
    Except Fault (Except Problem String) :=
  match file.document with
  | .directory => .ok (.error (.unreadable file.path))
  | .unparsable told => .ok (.error (.unparsable file.path told))
  | .data (.map entries) =>
      match Rule.check (.map entries) with
      | .error (.violation violation) => .ok (.error (.violation file.path violation))
      | .error (.fault fault) => .error fault
      | .ok () =>
          let id := (Entries.getD entries "rule_id" .null).plain
          match owners.lookup id with
          | some first => .ok (.error (.duplicate file.path id first))
          | none => .ok (.ok id)
  | .data datum => .ok (.error (.notMapping file.path datum.kind))

def inspectFiles (owners : Owners) : List RuleFile → Except Fault (List Problem)
  | [] => .ok []
  | file :: rest => do
      let result ← inspectFile owners file
      match result with
      | .error problem => do
          let others ← inspectFiles owners rest
          pure (problem :: others)
      | .ok id => inspectFiles (owners ++ [(id, file.path)]) rest

def inspect (files : Files) (source : Source) : Except Fault (List Problem) :=
  match source.directory, source.files with
  | some _, some _ => .ok [.conflict]
  | none, some paths => do
      let results ← paths.mapM (inspectExplicit files)
      let others ← inspectFiles [] (readable results)
      pure (problems results ++ others)
  | some given, none => do
      let directory ← files.locate? given
      if files.isDirectory directory then
        inspectFiles [] (Source.listed files directory)
      else pure [.missingDirectory (files.shown directory)]
  | none, none => inspectFiles [] Source.bundledFiles

end Pack

end SutraArbiter
