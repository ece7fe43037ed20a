import SutraArbiter.Datum.Fault
import SutraArbiter.Text.Quoted

namespace SutraArbiter

inductive Document
  | data (datum : Datum)
  /-- The parser refuses it with a YAML error, whose words are `told`.  A file of octets that
  are no text, or of a scalar whose value cannot be made, is refused otherwise and is none of
  these. -/
  | unparsable (told : String)
  | directory

/-- What the parts of a path are counted from. -/
inductive Anchor
  | root
  /-- A directory that the root lies in; `steps` lie between the two. -/
  | above (steps : Nat)
  | top
  /-- Two slashes at the front, which are kept apart from one until the path is
  resolved. -/
  | doubleTop
  deriving DecidableEq

structure Path where
  anchor : Anchor
  parts : List String
  deriving DecidableEq

namespace Anchor

def ofText? (text : String) : Option Anchor :=
  match (text.toList.takeWhile (· = '/')).length with
  | 0 => none
  | 2 => some doubleTop
  | _ => some top

def resolve : Anchor → Anchor
  | doubleTop => top
  | anchor => anchor

def up : Anchor → Anchor
  | root => above 0
  | above steps => above (steps + 1)
  | top => top
  | doubleTop => doubleTop

def isTop : Anchor → Bool
  | top => true
  | doubleTop => true
  | _ => false

/-- How an anchor is written in front of the parts of a path. -/
def texts (rootName : String) : Anchor → List String
  | root => [rootName]
  | above steps => rootName :: List.replicate (steps + 1) ".."
  | top => [""]
  | doubleTop => ["", ""]

end Anchor

namespace Path

def root : Path := ⟨.root, []⟩

def pieces (text : String) : List String :=
  ((text.toList.splitOn '/').map String.ofList).filter fun piece =>
    piece ≠ "" && piece ≠ "."

def join (path : Path) (text : String) : Path :=
  match Anchor.ofText? text with
  | some anchor => ⟨anchor, pieces text⟩
  | none => ⟨path.anchor, path.parts ++ pieces text⟩

def ofString (text : String) : Path :=
  root.join text

def parent (path : Path) : Path :=
  ⟨path.anchor, path.parts.dropLast⟩

def name (path : Path) : String :=
  path.parts.getLast?.getD ""

/-- Each step upwards takes back the step before it. -/
def resolveFrom (anchor : Anchor) (done : List String) : List String → Path
  | [] => ⟨anchor, done⟩
  | piece :: rest =>
      if piece ≠ ".." then resolveFrom anchor (done ++ [piece]) rest
      else if done.isEmpty then resolveFrom anchor.up [] rest
      else resolveFrom anchor done.dropLast rest

def resolve (path : Path) : Path :=
  resolveFrom path.anchor.resolve [] path.parts

def forbidden : Char := '\x00'

def resolve? (path : Path) : Except Fault Path :=
  if path.parts.any fun part => part.toList.contains forbidden then .error .nulInPath
  else .ok path.resolve

def text (rootName : String) (path : Path) : String :=
  let parts := if path.parts.isEmpty && path.anchor.isTop then [""] else path.parts
  "/".intercalate (path.anchor.texts rootName ++ parts)

/-- What stands from the last point of a name on, unless nothing stands before or
behind the point. -/
def extension (name : String) : List Char :=
  let behind := name.toList.reverse.takeWhile (· ≠ '.')
  let before := (name.toList.reverse.dropWhile (· ≠ '.')).drop 1
  if behind.isEmpty || before.isEmpty then [] else '.' :: behind.reverse

end Path

structure Files where
  rootName : String
  documents : List (List String × Document)

namespace Files

def shown (files : Files) (path : Path) : String :=
  path.text files.rootName

def document? (files : Files) (path : Path) : Option Document :=
  if path.anchor = .root then files.documents.lookup path.parts else none

def isFile (files : Files) (path : Path) : Bool :=
  match files.document? path with
  | some .directory => false
  | some _ => true
  | none => false

def liesBelow (parts : List String) (document : List String × Document) : Bool :=
  parts.length < document.1.length && parts.isPrefixOf document.1

def isDirectory (files : Files) (path : Path) : Bool :=
  match files.document? path with
  | some .directory => true
  | some _ => false
  | none =>
      path.parts.isEmpty
        || (path.anchor = .root && files.documents.any (liesBelow path.parts))

def has (files : Files) (path : Path) : Bool :=
  files.isFile path || files.isDirectory path

def nameLimit : Nat := 255

def pathLimit : Nat := 4095

/-- Whether looking for a place comes upon a name that no directory can hold. -/
def meetsLongName (files : Files) (path : Path) : Bool :=
  let before := path.parts.takeWhile fun part => part.utf8ByteSize ≤ nameLimit
  before.length < path.parts.length && files.isDirectory ⟨path.anchor, before⟩

def seek? (files : Files) (path : Path) : Except Fault Path :=
  if pathLimit < (files.shown path).utf8ByteSize || files.meetsLongName path then
    .error (.nameTooLong (Text.quoteString (files.shown path)))
  else .ok path

def locate? (files : Files) (path : Path) : Except Fault Path := do
  let resolved ← path.resolve?
  files.seek? resolved

/-- What is found on reading a place; a directory that is only implied by what
lies below it reads as one. -/
def read (files : Files) (path : Path) : Document :=
  (files.document? path).getD .directory

def names (files : Files) (path : Path) : List String :=
  let below :=
    if path.anchor = .root then files.documents.filter (liesBelow path.parts) else []
  ((below.filterMap fun document => document.1[path.parts.length]?).eraseDups).mergeSort
    fun s t => !(t < s)

end Files

end SutraArbiter
