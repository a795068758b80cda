/-! Paths of files, with their parts and their shortest spelling, and the files that a command can
see from the folder where it runs. -/

namespace Intake

namespace Path

def parts (path : String) : List String :=
  ((path.toList.splitOn '/').map String.ofList).filter fun p => p != "" && p != "."

/-- The slashes that a path starts with, of which exactly two are kept. -/
def root (path : String) : String :=
  match path.toList with
  | '/' :: '/' :: '/' :: _ => "/"
  | '/' :: '/' :: _ => "//"
  | '/' :: _ => "/"
  | _ => ""

def tidy (path : String) : String :=
  let text := root path ++ "/".intercalate (parts path)
  if text == "" then "." else text

def baseName (path : String) : String := ((parts path).getLast?).getD ""

/-- What stands after the slashes of a path has to be a folder. -/
def endsOpen (path : String) : Bool :=
  match (path.toList.splitOn '/').getLast? with
  | some last => last == [] || last == ['.']
  | none => false

end Path

inductive Found where
  | missing
  | directory
  | throughFile
  | file (content : List UInt8)
  deriving Repr, DecidableEq

structure Folder where
  entries : List (String × Option (List UInt8))

namespace Folder

def at? (f : Folder) (parts : List String) : Found :=
  match f.entries.find? fun e => Path.parts e.1 == parts with
  | some (_, some content) => .file content
  | some (_, none) => .directory
  | none =>
    if parts.all (· == "..") || f.entries.any (fun e => parts.isPrefixOf (Path.parts e.1)) then
      .directory
    else .missing

def step (place : List String) (part : String) : List String :=
  if part == ".." && place.getLast?.any (· != "..") then place.dropLast else place ++ [part]

def walk (f : Folder) (place : List String) : List String → Found
  | [] => f.at? place
  | p :: ps =>
    match f.at? place with
    | .directory => walk f (step place p) ps
    | .file _ => .throughFile
    | other => other

def find (f : Folder) (path : String) : Found :=
  if path == "" then .missing
  else
    let found := f.walk [] (Path.parts path)
    match found with
    | .file _ => if Path.endsOpen path then .throughFile else found
    | _ => found

end Folder

end Intake
