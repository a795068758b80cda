import Intake.Field.Basic
import Intake.Value.Display

/-! The paths to the file fields of a form: slugs joined by points, with a pair of brackets for the
entries of a group. -/

namespace Intake.Field

def pathStart (path : String) : String := if path == "" then "" else path ++ "."

mutual

def filePaths (path : String) : Field → List String
  | .leaf .file a => [pathStart path ++ a.slug.display]
  | .group a children => filePathsOf (pathStart path ++ a.slug.display ++ ".[]") children
  | _ => []
termination_by structural f => f

def filePathsOf (path : String) : List Field → List String
  | [] => []
  | f :: fs => filePaths path f ++ filePathsOf path fs
termination_by structural fs => fs

end

end Intake.Field
