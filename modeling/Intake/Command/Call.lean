import Intake.Command.Usage
import Intake.Folder.Basic
import Intake.Submission.MediaType
import Intake.Submission.Upload
import Intake.Text.Case

/-! Calls of the program: which command is to run on which files. -/

namespace Intake.Command

inductive Call where
  | check (form : String)
  | validate (form submission : String) (uploads : List String) (asJson : Bool)
  | publish (form : String)
  deriving Repr, DecidableEq

structure Switch where
  name : String
  takesValue : Bool
  deriving Repr, DecidableEq

abbrev Reading := Except UsageFault

def splitAt (c : Char) (s : String) : String × Option String :=
  let before := s.toList.takeWhile (· != c)
  (String.ofList before,
    if before.length < s.toList.length then some (String.ofList (s.toList.drop (before.length + 1)))
    else none)

/-- An option that is not among those of a command; one with a single dash is reported by its first
letter. Every command can be asked for help. -/
def unknownOption (switches : List Switch) (name : String) : UsageFault :=
  if name.startsWith "--" then .unknownOption name (switches.map (·.name) ++ ["--help"])
  else .unknownOption (String.ofList (name.toList.take 2)) []

/-- The options of a command with their values, in order, and the other arguments. Where options
and arguments may not be `mixed`, the options end at the first argument. -/
def readSwitches (switches : List Switch) (mixed : Bool) :
    List String → Reading (List (String × String) × List String)
  | [] => .ok ([], [])
  | arg :: rest =>
    if arg == "--" then .ok ([], rest)
    else if !arg.startsWith "-" || arg == "-" then
      if mixed then do
        let (options, arguments) ← readSwitches switches mixed rest
        return (options, arg :: arguments)
      else .ok ([], arg :: rest)
    else
      let (name, value) := splitAt '=' arg
      match switches.find? (·.name == name) with
      | none => .error (unknownOption switches name)
      | some s =>
        if s.takesValue == value.isSome then do
          let (options, arguments) ← readSwitches switches mixed rest
          return ((name, value.getD "") :: options, arguments)
        else if !s.takesValue then .error (.needlessValue name)
        else match rest with
          | [] => .error (.missingValue name)
          | v :: rest => do
            let (options, arguments) ← readSwitches switches mixed rest
            return ((name, v) :: options, arguments)

def checkLevel (given : String) : Reading Unit :=
  if levels.contains (Text.lower given) then .ok () else .error (.badLevel given)

def levelVariable : String := "FORMGUARD_LOG_LEVEL"

def givenLevel? (environment : List (String × String)) (options : List (String × String)) :
    Option String :=
  (options.getLast?.map (·.2)).or
    (((environment.find? (·.1 == levelVariable)).map (·.2)).filter (· != ""))

def readFile (folder : Folder) (argument : String) (given : Option String) : Reading String :=
  match given with
  | none => .error (.missingArgument argument)
  | some path =>
    match folder.find path with
    | .file _ => .ok path
    | .directory => .error (.directory argument path)
    | _ => .error (.missingFile argument path)

def refuseExtra (extra : List String) : Reading Unit :=
  if extra.isEmpty then .ok () else .error (.extraArguments extra)

def readForm (folder : Folder) (args : List String) : Reading String := do
  let (_, given) ← readSwitches [] true args
  let form ← readFile folder "FORM_PATH" given.head?
  refuseExtra (given.drop 1)
  return form

def readValidate (folder : Folder) (args : List String) : Reading Call := do
  let (options, given) ← readSwitches [⟨"--upload", true⟩, ⟨"--json", false⟩] true args
  let form ← readFile folder "FORM_PATH" given.head?
  let submission ← readFile folder "SUBMISSION_PATH" given[1]?
  refuseExtra (given.drop 2)
  let uploads := options.filter (·.1 == "--upload")
  return .validate form submission (uploads.map (·.2)) (options.any (·.1 == "--json"))

def readFormCommand (folder : Folder) (args : List String) : Reading Call := do
  if args.isEmpty then throw (.noArguments formCommands)
  let (_, rest) ← readSwitches [] false args
  match rest with
  | [] => throw .missingCommand
  | name :: args =>
    if name == "check" then return .check (← readForm folder args)
    else if name == "validate" then readValidate folder args
    else if name == "public" then return .publish (← readForm folder args)
    else throw (.unknownCommand name (formCommands.map (·.1)))

def Call.ofArguments (folder : Folder) (environment : List (String × String))
    (args : List String) : Reading Call := do
  if args.isEmpty then throw (.noArguments rootCommands)
  let (options, rest) ← readSwitches [⟨"--log-level", true⟩] false args
  match givenLevel? environment options with
  | some level => checkLevel level
  | none => pure ()
  match rest with
  | [] => throw .missingCommand
  | name :: args =>
    if name == "form" then readFormCommand folder args
    else throw (.unknownCommand name (rootCommands.map (·.1)))

/-- An upload from its field, its path and, after a colon, its media type; without one the name of
the file suggests it. -/
def readUpload (folder : Folder) (given : String) : Reading Upload := do
  let (name, rest) := splitAt '=' given
  let rest := rest.getD ""
  if name == "" || rest == "" then throw (.badUpload given)
  let (path, mimetype) := splitAt ':' rest
  let path := Path.tidy path
  match folder.find path with
  | .file content =>
    let file := Path.baseName path
    let mimetype := (mimetype.filter (· != "")).or (MediaType.ofName? file)
    return ⟨.text name, (mimetype.map Value.text).getD .null, .int content.length,
      .bytes content, .text file⟩
  | _ => throw (.missingUpload path)

end Intake.Command
