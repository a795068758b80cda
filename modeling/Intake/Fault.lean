import Intake.Calendar.Moment
import Intake.Number.Numeral
import Intake.Pattern.Fault
import Intake.Text.Decoding
import Intake.Value.Display

/-! What can go wrong with data that no check has seen: each cause is one constructor, and one
function words it. -/

namespace Intake

inductive LoadCause where
  | missing
  | directory
  | throughFile
  | malformed
  | blank
  deriving Repr, DecidableEq

def LoadCause.message (path : String) : LoadCause → String
  | .missing =>
    s!"Cannot read {path}: [Errno 2] No such file or directory: " ++ Text.quoted path
  | .directory => s!"Cannot read {path}: [Errno 21] Is a directory: " ++ Text.quoted path
  | .throughFile => s!"Cannot read {path}: [Errno 20] Not a directory: " ++ Text.quoted path
  | .malformed => s!"Cannot parse {path}: ..."
  | .blank => s!"{path} is empty or contains only whitespace"

inductive DefinitionCause where
  | option (given : Value)
  | field (given : Value)
  | validators (slug : Value)
  | suggestions (slug : Value)
  | children (slug : Value)
  | choices (slug : Value)
  | form
  | load (path : String) (cause : LoadCause)

def DefinitionCause.message : DefinitionCause → String
  | .option v => "Invalid option: " ++ v.describe
  | .field v => "Field definition must be a mapping, got " ++ v.typeName
  | .validators slug =>
    "Field \"" ++ slug.display ++ "\" has invalid validators: expected a mapping."
  | .suggestions slug =>
    "Field \"" ++ slug.display ++ "\" has invalid suggestions: expected a list."
  | .children slug =>
    "Field \"" ++ slug.display ++ "\" is a group but \"fields\" is not a list."
  | .choices slug =>
    "Field \"" ++ slug.display ++ "\" is a select but \"options\" is not a list."
  | .form => "A form must be a list of fields or a mapping with a 'fields' list"
  | .load path cause => cause.message path

inductive SubmissionCause where
  | answer (given : Value)
  | upload (given : Value)
  | shape (messages : List String)
  | load (path : String) (cause : LoadCause)

def SubmissionCause.message : SubmissionCause → String
  | .answer v => "Field result must be a mapping, got " ++ v.typeName
  | .upload v => "Upload descriptor must be a mapping, got " ++ v.typeName
  | .shape messages => "; ".intercalate messages
  | .load path cause => cause.message path

inductive TypeCause where
  | unhashable (type : String)
  | notIterable (type : String)
  | notContainer (type : String)
  | notText (type : String)
  | notBytes (type : String)
  | notOrdered (sign left right : String)
  | notPattern
  | bytesPattern
  | notSerializable (type : String)
  | badKey (type : String)
  deriving Repr, DecidableEq

def TypeCause.message : TypeCause → String
  | .unhashable t => s!"unhashable type: '{t}'"
  | .notIterable t => s!"'{t}' object is not iterable"
  | .notContainer t => s!"argument of type '{t}' is not iterable"
  | .notText t => s!"'in <string>' requires string as left operand, not {t}"
  | .notBytes t => s!"a bytes-like object is required, not '{t}'"
  | .notOrdered sign l r =>
    s!"'{sign}' not supported between instances of '{l}' and '{r}'"
  | .notPattern => "first argument must be string or compiled pattern"
  | .bytesPattern => "cannot use a bytes pattern on a string-like object"
  | .notSerializable t => s!"Object of type {t} is not JSON serializable"
  | .badKey t => s!"keys must be str, int, float, bool or None, not {t}"

inductive ValueCause where
  | date (fault : Calendar.DateFault)
  | clock (fault : Calendar.ClockFault)
  | integer (base : Nat) (text : String)
  | number (text : String)
  | byteRange
  | longInteger (digits : Nat)
  | unwritable
  | codePoint
  | alphabetClash
  | localeClash
  | timeout (given : String)

def ValueCause.message : ValueCause → String
  | .date f => f.message
  | .clock f => f.message
  | .integer base t => s!"invalid literal for int() with base {base}: " ++ Text.quoted t
  | .number t => "could not convert string to float: " ++ Text.quoted t
  | .byteRange => "byte must be in range(0, 256)"
  | .longInteger n => Number.tooManyDigits n
  | .unwritable => Number.unwritable
  | .codePoint => "chr() arg not in range(0x110000)"
  | .alphabetClash => "ASCII and UNICODE flags are incompatible"
  | .localeClash => "ASCII and LOCALE flags are incompatible"
  | .timeout given =>
    "FORMGUARD_RECAPTCHA_TIMEOUT must be a number of seconds, got " ++ Text.quoted given

inductive Fault where
  | definition (cause : DefinitionCause)
  | submission (cause : SubmissionCause)
  | type (cause : TypeCause)
  | missingAttribute (type name : String)
  | integerTooLarge
  | repetitionTooLarge
  | codeTooLarge
  | value (cause : ValueCause)
  | decoding (fault : Text.DecodingFault)
  | pattern (fault : PatternFault)
  | clientCrash (text : String)
  | missingKey (key : Value)
  | emptyText

def Fault.message : Fault → String
  | .definition c => c.message
  | .submission c => c.message
  | .type c => c.message
  | .missingAttribute t n => s!"'{t}' object has no attribute '{n}'"
  | .integerTooLarge => "int too large to convert to float"
  | .repetitionTooLarge => "the repetition number is too large"
  | .codeTooLarge => "Python int too large to convert to C int"
  | .value c => c.message
  | .decoding f => f.message
  | .pattern f => f.message
  | .clientCrash t => t
  | .missingKey k => k.describe
  | .emptyText => "string index out of range"

def DefinitionCause.isWritable : DefinitionCause → Bool
  | .option v => v.isWritable
  | .validators slug => slug.isWritable
  | .suggestions slug => slug.isWritable
  | .children slug => slug.isWritable
  | .choices slug => slug.isWritable
  | _ => true

/-- A cause that cannot be worded becomes a fault of its own. -/
def DefinitionCause.toFault (c : DefinitionCause) : Fault :=
  if c.isWritable then .definition c else .value .unwritable

def PatternRejection.toFault : PatternRejection → Fault
  | .malformed f => .pattern f
  | .repetitionTooLarge => .repetitionTooLarge
  | .codeTooLarge => .codeTooLarge
  | .longCount digits => .value (.longInteger digits)
  | .alphabetClash => .value .alphabetClash
  | .localeClash => .value .localeClash

inductive Yaml.Fault where
  | malformed
  | scalar (fault : Intake.Fault)

end Intake
