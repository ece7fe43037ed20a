import SutraArbiter.Engine
import SutraArbiter.Pack.Loading

namespace SutraArbiter

structure Config where
  limit : Nat
  tieBreak : TieBreak
  scope : List String
  source : Source
  disabled : List String

namespace Config

def usual : Config where
  limit := 64
  tieBreak := .confidenceFirst
  scope := [Tags.family]
  source := .bundled
  disabled := []

def fileName : String := "paribhasha.yaml"

def keys : List String :=
  ["max_candidates", "tie_break", "default_scope", "rules_dir", "rule_files",
    "disabled_rules"]

def refuse {α : Type} (fault : ConfigFault) : Except Failure α :=
  .error (.config fault)

def text? : Datum → Option String
  | .text s => some s
  | _ => none

def readTexts (key : String) (d : Datum) : Except Failure (List String) :=
  let texts (items : List Datum) : Except Failure (List String) :=
    match items.mapM text? with
    | some texts => .ok texts
    | none => refuse (.notTexts key)
  match d with
  | .null => .ok []
  | .list items => texts items
  | .tuple items => texts items
  | _ => refuse (.notTexts key)

def checkKeys (path : String) (entries : Entries) : Except Failure Unit :=
  let unknown := Rule.unknownKeys keys entries
  if unknown.isEmpty then .ok ()
  else
    match Datum.sorted? unknown with
    | .error fault => .error (.fault fault)
    | .ok unknown =>
        if Datum.anyOverlong unknown then .error (.fault .overlongInteger)
        else refuse (.configKeys path unknown)

def readTieBreak (d : Datum) : Except Failure TieBreak :=
  let named :=
    match d with
    | .text name => TieBreak.ofName? name
    | _ => none
  match named with
  | some policy => .ok policy
  | none =>
      if d.isOverlong then .error (.fault .overlongInteger)
      else refuse (.tieBreak d.quoted)

/-- Tags are trimmed and blank ones left out; one has to remain. -/
def readScope (d : Datum) : Except Failure (List String) := do
  let texts ← readTexts "default_scope" d
  let tags := (texts.filter fun tag => !Text.isBlankString tag).map Text.trimString
  if tags.isEmpty then refuse .noScope else pure tags

/-- The source that a file names, seen from the directory that holds the file. -/
def readSource (base : Path) (directory files : Datum) : Except Failure Source :=
  match directory, files with
  | .null, .null => .ok .bundled
  | .null, files => do
      let names ← readTexts "rule_files" files
      pure ⟨none, some (names.map base.join)⟩
  | .text name, .null => .ok ⟨some (base.join name), none⟩
  | .text _, _ => refuse .sourceConflict
  | _, _ => refuse .rulesDirectory

def readEntries (files : Files) (path : Path) (entries : Entries) :
    Except Failure Config := do
  checkKeys (files.shown path) entries
  let limit ← Engine.readLimit (entries.getD "max_candidates" (.int usual.limit))
  let tieBreak ← readTieBreak (entries.getD "tie_break" (.text usual.tieBreak.name))
  let scope ← readScope (entries.getD "default_scope" (Datum.ofStrings usual.scope))
  let source ← readSource path.parent (entries.getD "rules_dir" .null)
    (entries.getD "rule_files" .null)
  let disabled ← readTexts "disabled_rules" (entries.getD "disabled_rules" (.list []))
  pure ⟨limit, tieBreak, scope, source, disabled⟩

def readFile (files : Files) (path : Path) : Except Failure Config :=
  match files.read path with
  | .directory => .error (.directory (files.shown path))
  | .unparsable told => refuse (.configUnparsable (files.shown path) told)
  | .data .null => readEntries files path []
  | .data (.map entries) => readEntries files path entries
  | .data _ => refuse (.configNotMapping (files.shown path))

/-- The file that is asked for has to be there; without one the usual file is read
if it is there. -/
def load (files : Files) (root : Path) (explicit : Option Path) :
    Except Failure Config := do
  let base ← root.resolve?.mapError .fault
  match explicit with
  | some given =>
      let path ← (files.locate? given).mapError .fault
      if files.has path then readFile files path
      else refuse (.configMissing (files.shown path))
  | none =>
      let path ← (files.seek? (base.join fileName)).mapError .fault
      if files.has path then readFile files path else pure usual

def engine (files : Files) (config : Config) (only : Option (List String)) :
    Logged Engine := do
  let registry ← Pack.load files config.source ⟨only, config.disabled⟩
  pure ⟨registry.freeze, config.limit, config.tieBreak, config.scope⟩

end Config

end SutraArbiter
