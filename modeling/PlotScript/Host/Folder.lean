import PlotScript.CommandLine.Report
import PlotScript.Text.Path

/-!
A folder of named files and folders, and how opening a path from it turns out. A path is walked
component by component; each must be looked up in a folder, and what stops the walk is reported.
-/

namespace PlotScript

inductive Entry
  | file (bytes : List UInt8)
  | folder
  deriving DecidableEq, Repr

abbrev Folder := List (String × Entry)

namespace Folder

open CommandLine (Opening)
open Text

/-- The entry at a place; a place on the way to an entry is a folder. -/
def entry? (folder : Folder) (place : List (List Char)) : Option Entry :=
  match folder.find? fun (name, _) => Path.names name.toList == place with
  | some (_, entry) => some entry
  | none =>
    if folder.any fun (name, _) => place.isPrefixOf (Path.names name.toList) then some .folder
    else none

def top : Folder :=
  ["bin", "boot", "dev", "etc", "home", "lib", "media", "mnt", "opt", "proc", "root", "run", "sbin",
    "srv", "sys", "tmp", "usr", "var"].map (·, .folder) ++ [("dev/null", .file [])]

/-- Where a walk stands: at a place in the folder it is about, at a place below the top of the file
system, or in one of the folders between them, of which only that they exist is known. -/
inductive Standing
  | below (place : List (List Char))
  | between
  | belowTop (place : List (List Char))
  deriving DecidableEq, Repr

def at? (folder : Folder) : Standing → Option Entry
  | .below [] | .belowTop [] | .between => some .folder
  | .below place => folder.entry? place
  | .belowTop place => top.entry? place

def Standing.back : Standing → Standing
  | .below [] | .between => .between
  | .below place => .below place.dropLast
  | .belowTop place => .belowTop place.dropLast

def Standing.on? (name : List Char) : Standing → Option Standing
  | .below place => some (.below (place ++ [name]))
  | .between => none
  | .belowTop place => some (.belowTop (place ++ [name]))

inductive Obstacle
  | missing
  | notFolder
  | isFolder
  | nameTooLong
  deriving DecidableEq, Repr

def octets (text : List Char) : Nat := (String.ofList text).utf8ByteSize

def nameLimit : Nat := 255

def pathLimit : Nat := 4095

def step (folder : Folder) (standing : Standing) (part : List Char) : Except Obstacle Standing :=
  if Path.stays part then .ok standing
  else if part = ['.', '.'] then .ok standing.back
  else if nameLimit < octets part then .error .nameTooLong
  else
    match standing.on? part with
    | none => .error .missing
    | some next => if (folder.at? next).isSome then .ok next else .error .missing

/-- Every component, empty ones and dots included, is looked up in a folder. -/
def walk (folder : Folder) (standing : Standing) : List (List Char) → Except Obstacle Standing
  | [] => .ok standing
  | part :: rest => do
    if folder.at? standing ≠ some .folder then .error .notFolder
    let next ← folder.step standing part
    folder.walk next rest

def start (path : List Char) : Standing :=
  if path.head? = some '/' then .belowTop [] else .below []

def read (folder : Folder) (path : List Char) : Except Obstacle (List UInt8) := do
  if path.isEmpty then .error .missing
  if pathLimit < octets path then .error .nameTooLong
  let standing ← folder.walk (start path) (Path.split path)
  match folder.at? standing with
  | some (.file bytes) => return bytes
  | some .folder => .error .isFolder
  | none => .error .missing

def refusal (code : Nat) (reason path : String) : Opening :=
  .refused ("[Errno " ++ toString code ++ "] " ++ reason ++ ": " ++ quoted path)

def openPath (folder : Folder) (path : String) : Opening :=
  if path.toList.contains '\x00' then .nullInPath
  else
    match folder.read path.toList with
    | .ok bytes => .bytes bytes
    | .error .missing => .missing
    | .error .notFolder => refusal 20 "Not a directory" path
    | .error .isFolder => refusal 21 "Is a directory" path
    | .error .nameTooLong => refusal 36 "File name too long" path

end Folder

end PlotScript
