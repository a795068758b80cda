import Intake.Command.Outcome
import Std.Time.DateTime.Timestamp

/-! The program: its arguments, the files that they name, the environment and the date go in, and
the texts and the exit status of the outcome come out. It has no way to the captcha service, so that
no token is accepted. -/

namespace Intake.Command

def mentioned (arg : String) : List String :=
  let path := ((splitAt '=' arg).2).map fun rest => (splitAt ':' rest).1
  arg :: path.toList

def readEntry (path : String) : IO (Option (String × Option (List UInt8))) := do
  let content (file : IO.FS.Handle) : IO (Option (List UInt8)) := do
    try
      return some (← file.readBinToEnd).toList
    catch _ => return none
  try
    let file ← IO.FS.Handle.mk path .read
    return some (path, ← content file)
  catch _ => return none

def readFolder (args : List String) : IO Folder := do
  return ⟨(← (args.flatMap mentioned).mapM readEntry).filterMap id⟩

def readEnvironment : IO (List (String × String)) := do
  let names := [levelVariable, Captcha.urlVariable, Captcha.timeoutVariable]
  let values ← names.mapM fun name => do
    let value ← IO.getEnv name
    return value.map (name, ·)
  return values.filterMap id

def readToday : IO Calendar.Date := do
  let now ← Std.Time.Timestamp.now
  match Calendar.Date.ofEpochDay? (now.toSecondsSinceUnixEpoch.val / 86400) with
  | some d => return d
  | none => throw (IO.userError "the clock is out of range")

end Intake.Command

open Intake.Command in
def main (args : List String) : IO UInt32 := do
  let (outcome, _) := run (← readFolder args) (← readEnvironment) (← readToday) [] args
  IO.print outcome.output
  IO.eprint outcome.errors
  if let some f := outcome.crash then IO.eprintln f.message
  return outcome.status.toUInt32
