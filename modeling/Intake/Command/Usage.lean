import Intake.Text.Likeness
import Intake.Text.Quoted

/-! Why arguments are no call of the program. Without any argument the commands are listed. -/

namespace Intake.Command

abbrev Listing := List (String × String)

def rootCommands : Listing := [("form", "Form definition commands.")]

def formCommands : Listing := [
  ("check", "Validate a form definition file."),
  ("public", "Print the form definition with secrets removed, as JSON."),
  ("validate", "Validate a submission against a form definition.")]

inductive UsageFault where
  | noArguments (commands : Listing)
  | missingCommand
  | unknownCommand (name : String) (known : List String)
  | unknownOption (name : String) (known : List String)
  | missingValue (option : String)
  | needlessValue (option : String)
  | missingArgument (name : String)
  | extraArguments (given : List String)
  | badLevel (given : String)
  | missingFile (argument path : String)
  | directory (argument path : String)
  | badUpload (given : String)
  | missingUpload (path : String)
  deriving Repr, DecidableEq

def levels : List String := ["debug", "info", "warning", "error"]

def listingText (commands : Listing) : String :=
  let width := commands.foldl (fun n c => max n c.1.length) 0
  let line (c : String × String) : String :=
    s!"\n  {c.1}" ++ String.ofList (List.replicate (width - c.1.length) ' ') ++ s!"  {c.2}"
  "Commands:" ++ String.join (commands.map line)

def guess (given : String) (known : List String) : String :=
  match known.filter (Text.isLike · given) with
  | [] => ""
  | [name] => s!" Did you mean {Text.quoted name}?"
  | names => " (Did you mean one of: " ++
      ", ".intercalate ((names.mergeSort fun a b => decide (a ≤ b)).map Text.quoted) ++ "?)"

def UsageFault.message : UsageFault → String
  | .noArguments commands => listingText commands
  | .missingCommand => "Missing command."
  | .unknownCommand name known => s!"No such command {Text.quoted name}." ++ guess name known
  | .unknownOption name known => s!"No such option {Text.quoted name}." ++ guess name known
  | .missingValue option => s!"Option {Text.quoted option} requires an argument."
  | .needlessValue option => s!"Option {Text.quoted option} does not take a value."
  | .missingArgument name => s!"Missing argument '{name}'."
  | .extraArguments given =>
    (if given.length == 1 then "Got unexpected extra argument ("
      else "Got unexpected extra arguments (") ++ " ".intercalate given ++ ")"
  | .badLevel given => s!"Invalid value for '--log-level': {Text.quoted given} is not one of " ++
      ", ".intercalate (levels.map Text.quoted) ++ "."
  | .missingFile argument path =>
    s!"Invalid value for '{argument}': File {Text.quoted path} does not exist."
  | .directory argument path =>
    s!"Invalid value for '{argument}': File {Text.quoted path} is a directory."
  | .badUpload given =>
    s!"Invalid value for --upload: Expected NAME=PATH[:MIMETYPE], got '{given}'"
  | .missingUpload path => s!"Invalid value for --upload: File not found: {path}"

def UsageFault.report (f : UsageFault) : String :=
  match f with
  | .noArguments _ => f.message
  | _ => "Error: " ++ f.message

end Intake.Command
