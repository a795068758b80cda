import Intake.Main
import Intake.Proofs.Run
import Intake.Proofs.Texts
import Intake.Proofs.Levels
import Intake.Proofs.Values
import Intake.Proofs.Validity
import Intake.Proofs.WellFormed
import Intake.Proofs.Definitions
import Intake.Proofs.Export
import Intake.Proofs.Faults
import Intake.Proofs.Stumbling
import Intake.Proofs.Requests
import Intake.Proofs.Secrecy
import Intake.Proofs.Passing
import Intake.Proofs.FirstMatch
import Intake.Proofs.Isolation
import Intake.Proofs.Unexpected
import Intake.Proofs.Uploads
import Intake.Proofs.Tokens
import Intake.Proofs.Payloads
import Intake.Proofs.Spellings
import Intake.Proofs.Defeats
import Intake.Proofs.Redaction
import Intake.Proofs.Elementwise
import Intake.Proofs.RuleOrder
import Intake.Proofs.OptingOut
import Intake.Proofs.Places
import Intake.Proofs.Rounding
import Intake.Proofs.Numbers
import Intake.Proofs.Bounds
import Intake.Proofs.FileLimits
import Intake.Proofs.Ages
import Intake.Proofs.DayNumbers
import Intake.Proofs.Milliseconds
import Intake.Proofs.Dates
import Intake.Proofs.AgeOrder
import Intake.Proofs.Searches
import Intake.Proofs.Addresses
import Intake.Proofs.Aliases
import Intake.Proofs.Phones
import Intake.Proofs.Conversions
import Intake.Proofs.Shapes
import Intake.Proofs.Shorthand
import Intake.Proofs.Positions
import Intake.Proofs.Paths
import Intake.Proofs.Lengths
import Intake.Proofs.Codes
import Intake.Proofs.SiblingOrder
import Intake.Proofs.MissingSecrets
import Intake.Proofs.Rereading
import Intake.Proofs.Forms
import Intake.Proofs.Contents
import Intake.Proofs.Neighbours
import Intake.Proofs.Shortest
import Intake.Proofs.Numerals
import Intake.Proofs.Quotations
import Intake.Proofs.Printing
import Intake.Proofs.Composition
import Intake.Proofs.Publishing
import Intake.Proofs.NormalForms
import Intake.Proofs.NumericTexts
import Intake.Proofs.Histories
