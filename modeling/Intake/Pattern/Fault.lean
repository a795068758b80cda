import Intake.Text.Quoted

/-! What is wrong with the text of a pattern, and where. -/

namespace Intake

inductive PatternCause where
  | endsInEscape
  | missingName (what : String)
  | unterminatedName (terminator : Char)
  | incompleteEscape (escape : String)
  | badEscape (escape : String)
  | missingBrace
  | undefinedCharacter (name : String)
  | octalRange (escape : String)
  | openGroup
  | sameLookBehind
  | invalidReference (index : Nat)
  | unterminatedSet
  | badRange (low high : String)
  | minAboveMax
  | nothingToRepeat
  | multipleRepeat
  | unexpectedEnd
  | badGroupName (name : String)
  | unknownGroupName (name : String)
  | unknownExtension (text : String)
  | unterminatedComment
  | unterminatedGroup
  | badGroupNumber
  | tooManyBranches
  | misplacedFlags
  | redefinition (name : String) (index before : Nat)
  | unbalanced
  | localeFlag
  | unicodeFlag
  | incompatibleFlags
  | unknownFlag
  | missingFlagEnd
  | missingFlag
  | missingColon
  | globalOn
  | globalOff
  | alphabetOff
  | onAndOff
  | lookBehindWidth
  | tooFarBehind
  | plainTemplate (operator : String)
  deriving Repr, DecidableEq

def PatternCause.message : PatternCause → String
  | .endsInEscape => "bad escape (end of pattern)"
  | .missingName what => "missing " ++ what
  | .unterminatedName c => "missing " ++ c.toString ++ ", unterminated name"
  | .incompleteEscape e => "incomplete escape " ++ e
  | .badEscape e => "bad escape " ++ e
  | .missingBrace => "missing \x7b"
  | .undefinedCharacter name => "undefined character name " ++ Text.quoted name
  | .octalRange e => "octal escape value " ++ e ++ " outside of range 0-0o377"
  | .openGroup => "cannot refer to an open group"
  | .sameLookBehind => "cannot refer to group defined in the same lookbehind subpattern"
  | .invalidReference n => s!"invalid group reference {n}"
  | .unterminatedSet => "unterminated character set"
  | .badRange low high => "bad character range " ++ low ++ "-" ++ high
  | .minAboveMax => "min repeat greater than max repeat"
  | .nothingToRepeat => "nothing to repeat"
  | .multipleRepeat => "multiple repeat"
  | .unexpectedEnd => "unexpected end of pattern"
  | .badGroupName name => "bad character in group name " ++ Text.quoted name
  | .unknownGroupName name => "unknown group name " ++ Text.quoted name
  | .unknownExtension t => "unknown extension " ++ t
  | .unterminatedComment => "missing ), unterminated comment"
  | .unterminatedGroup => "missing ), unterminated subpattern"
  | .badGroupNumber => "bad group number"
  | .tooManyBranches => "conditional backref with more than two branches"
  | .misplacedFlags => "global flags not at the start of the expression"
  | .redefinition name index before =>
    "redefinition of group name " ++ Text.quoted name ++
      s!" as group {index}; was group {before}"
  | .unbalanced => "unbalanced parenthesis"
  | .localeFlag => "bad inline flags: cannot use 'L' flag with a str pattern"
  | .unicodeFlag => "bad inline flags: cannot use 'u' flag with a bytes pattern"
  | .incompatibleFlags => "bad inline flags: flags 'a', 'u' and 'L' are incompatible"
  | .unknownFlag => "unknown flag"
  | .missingFlagEnd => "missing -, : or )"
  | .missingFlag => "missing flag"
  | .missingColon => "missing :"
  | .globalOn => "bad inline flags: cannot turn on global flag"
  | .globalOff => "bad inline flags: cannot turn off global flag"
  | .alphabetOff => "bad inline flags: cannot turn off flags 'a', 'u' and 'L'"
  | .onAndOff => "bad inline flags: flag turned on and off"
  | .lookBehindWidth => "look-behind requires fixed-width pattern"
  | .tooFarBehind => "looks too much behind"
  | .plainTemplate operator => "internal: unsupported template operator " ++ operator

structure PatternFault where
  isText : Bool
  cause : PatternCause
  position : Option Nat
  place : Option (Nat × Nat)
  deriving Repr, DecidableEq

def PatternFault.message (f : PatternFault) : String :=
  (if f.isText then f.cause.message else Text.escaped f.cause.message) ++
    (match f.position with
      | some p => s!" at position {p}"
      | none => "") ++
    (match f.place with
      | some (line, column) => s!" (line {line}, column {column})"
      | none => "")

def PatternFault.at (isText : Bool) (cause : PatternCause) (pattern : List Char)
    (position : Nat) : PatternFault :=
  let before := pattern.take position
  ⟨isText, cause, some position, if pattern.contains '\n' then
    some (before.count '\n' + 1, (before.reverse.takeWhile (· != '\n')).length + 1) else none⟩

/-- Why a text is no pattern: its syntax, a repetition or a code beyond all bounds, a count of too
many digits, or two alphabets. -/
inductive PatternRejection where
  | malformed (fault : PatternFault)
  | repetitionTooLarge
  | codeTooLarge
  | longCount (digits : Nat)
  | alphabetClash
  | localeClash
  deriving Repr, DecidableEq

end Intake
