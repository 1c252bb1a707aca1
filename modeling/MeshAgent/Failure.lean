import MeshAgent.Base64
import MeshAgent.Error

/-!
# Failures

Whatever can end an operation: an agent error, a record whose fields do not fit, an answer of the
operating system, or one of the few refusals that no layer turns into an agent error.
-/
namespace MeshAgent

/-- What is wrong with the value of a field. -/
inductive FieldProblem
  | jsonInvalid
  | missing
  | modelType
  | listType
  | stringType
  | stringUnicode
  | intType
  | intParsing
  | intParsingSize
  | intFromFloat
  | finiteNumber
  | boolType
  | boolParsing
  | bytesType
  | base64 (refusal : Base64.Refusal)
  | addressType
  | datetimeType
  | datetimeParsing
  | datetimeFromDate
deriving DecidableEq, Repr

namespace FieldProblem

def name : FieldProblem → String
  | jsonInvalid => "json_invalid"
  | missing => "missing"
  | modelType => "model_type"
  | listType => "list_type"
  | stringType => "string_type"
  | stringUnicode => "string_unicode"
  | intType => "int_type"
  | intParsing => "int_parsing"
  | intParsingSize => "int_parsing_size"
  | intFromFloat => "int_from_float"
  | finiteNumber => "finite_number"
  | boolType => "bool_type"
  | boolParsing => "bool_parsing"
  | bytesType => "bytes_type"
  | base64 _ => "value_error"
  | addressType => "ip_any_interface"
  | datetimeType => "datetime_type"
  | datetimeParsing => "datetime_parsing"
  | datetimeFromDate => "datetime_from_date_parsing"

/-- Only a refused base64 text is explained. -/
def detail? : FieldProblem → Option String
  | base64 r => some ("Value error, invalid base64: " ++ r.message)
  | _ => none

end FieldProblem

/-- One step from a record to a value inside it. -/
inductive PathStep
  | field (name : String)
  | index (position : Nat)
deriving DecidableEq, Repr

structure FieldError where
  problem : FieldProblem
  path : List PathStep := []
deriving DecidableEq, Repr

inductive OsProblem
  | noEntry
  | isDirectory
  | notDirectory
  | alreadyExists
deriving DecidableEq, Repr

def OsProblem.number : OsProblem → Nat
  | noEntry => 2
  | alreadyExists => 17
  | notDirectory => 20
  | isDirectory => 21

def OsProblem.description : OsProblem → String
  | noEntry => "No such file or directory"
  | alreadyExists => "File exists"
  | notDirectory => "Not a directory"
  | isDirectory => "Is a directory"

/-- An answer of the operating system about a path. -/
structure OsError where
  problem : OsProblem
  path : String
deriving DecidableEq, Repr

def OsError.message (e : OsError) : String :=
  "[Errno " ++ shown e.problem.number ++ "] " ++ e.problem.description ++ ": " ++ Text.quote e.path

inductive Failure
  | agent (error : AgentError)
  | record (errors : List FieldError)
  | system (error : OsError)
  /-- A text that is no member of the named set. -/
  | notMember (text set : String)
  /-- A number that no column can hold. -/
  | integerRange
  /-- A time whose year no calendar date has. -/
  | yearRange (year : Int)
  /-- A time too far away to have a calendar date at all. -/
  | timeOverflow
  /-- A run of more digits than `Decimal.digitLimit`. -/
  | tooManyDigits (count : Nat)
  /-- A text that is no number. -/
  | notNumber (text : String)
  /-- An empty text where a number is meant. -/
  | emptyNumber
  /-- A text that is no date. -/
  | notDate
  /-- A number that is too large for its use, explained by the text. -/
  | tooLarge (text : String)
  /-- A null character in a path. -/
  | nullInPath
  /-- A home directory that is not known. -/
  | homeUnknown
  /-- Markup that closes a style which is not open, explained by the text. -/
  | markup (text : String)
  /-- A column that holds a value already held by another row. -/
  | duplicateValue (columns : String)
  /-- A name that stands for nothing. -/
  | unknownName (name : String)
  /-- Raised by a callback. -/
  | raised (message : String)
  /-- Raised as a warning. -/
  | warning (message : String)
deriving DecidableEq, Repr

namespace Failure

/-- The text of a failure that is no agent error, record error or system error. -/
def message : Failure → String
  | agent e => e.text
  | record _ => "invalid record"
  | system e => e.message
  | notMember t s => Text.quote t ++ " is not a valid " ++ s
  | integerRange => "Python int too large to convert to SQLite INTEGER"
  | yearRange y => "year " ++ shown y ++ " is out of range"
  | timeOverflow => "[Errno 75] Value too large for defined data type"
  | tooManyDigits n =>
    "Exceeds the limit (" ++ shown Decimal.digitLimit ++ " digits) for integer string conversion: value has "
      ++ shown n ++ " digits; use sys.set_int_max_str_digits() to increase the limit"
  | notNumber t => "invalid literal for int() with base 10: " ++ Text.quote t
  | emptyNumber => "string index out of range"
  | notDate => "'NoneType' object has no attribute 'groupdict'"
  | tooLarge t => t
  | nullInPath => "embedded null byte"
  | homeUnknown => "Could not determine home directory."
  | markup t => t
  | duplicateValue c => "UNIQUE constraint failed: " ++ c
  | unknownName n => Text.quote n
  | raised m => m
  | warning m => m

end Failure

instance : Coe AgentError Failure := ⟨Failure.agent⟩

/-- Lets a computation that only has agent errors stand among others. -/
def orFail {α : Type} : Except AgentError α → Except Failure α
  | .ok a => .ok a
  | .error e => .error (.agent e)

end MeshAgent
