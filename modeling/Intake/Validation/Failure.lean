import Intake.Value.Display
import Intake.Value.Equality

/-! Failures of a check and reports, which are valid when they hold none. -/

namespace Intake

structure Failure where
  slug : Value
  message : String
  code : String

namespace Failure

def display (f : Failure) : String := "Slug: " ++ f.slug.display ++ ", Message: " ++ f.message

def toValue (f : Failure) : Value :=
  .map [(.text "slug", f.slug), (.text "message", .text f.message), (.text "code", .text f.code)]

def equal (a b : Failure) : Bool :=
  a.slug.equal b.slug && a.message == b.message && a.code == b.code

end Failure

structure Report where
  failures : List Failure

namespace Report

def isValid (r : Report) : Bool := r.failures.isEmpty

def toEntries (r : Report) : List (Value × Value) :=
  (.text "valid", .bool r.isValid) ::
    if r.isValid then [] else [(.text "errors", .list (r.failures.map Failure.toValue))]

end Report

end Intake
