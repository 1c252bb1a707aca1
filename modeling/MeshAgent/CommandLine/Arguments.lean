import MeshAgent.Text.Quoted
import MeshAgent.Text.Similar
import MeshAgent.Text.Split

/-!
# Arguments of the command line

Options of the program come before the command, options of a command anywhere after it. What is
wrong with the arguments is found out before anything is done, even before help is shown.
-/
namespace MeshAgent.CommandLine

/-- An option by its long name. -/
structure OptionSpec where
  name : String
  letter : Option Char := none
  takesValue : Bool := false
deriving DecidableEq, Repr

inductive UsageProblem
  | noSuchOption (name : String) (similar : List String)
  | valueMissing (option : String)
  | valueNotTaken (option : String)
  | noSuchCommand (name : String) (similar : List String)
  | commandMissing
  | argumentMissing (name : String)
  | extraArguments (arguments : List String)
deriving DecidableEq, Repr

/-- A question about names that may have been meant, in alphabetical order. -/
def suggestion (names : List String) : String :=
  match names.mergeSort fun a b => a ≤ b with
  | [] => ""
  | [name] => " Did you mean " ++ Text.quote name ++ "?"
  | names => " (Did you mean one of: " ++ String.intercalate ", " (names.map Text.quote) ++ "?)"

def UsageProblem.message : UsageProblem → String
  | noSuchOption name similar => "No such option " ++ Text.quote name ++ "." ++ suggestion similar
  | valueMissing option => "Option " ++ Text.quote option ++ " requires an argument."
  | valueNotTaken option => "Option " ++ Text.quote option ++ " does not take a value."
  | noSuchCommand name similar =>
    "No such command " ++ Text.quote name ++ "." ++ suggestion similar
  | commandMissing => "Missing command."
  | argumentMissing name => "Missing argument '" ++ name ++ "'."
  | extraArguments arguments =>
    "Got unexpected extra argument" ++ (if arguments.length = 1 then "" else "s") ++ " ("
      ++ String.intercalate " " arguments ++ ")"

/-- Whether the usage is told with a problem. It is not if only the value of an option is wrong. -/
def UsageProblem.tellsUsage : UsageProblem → Bool
  | valueMissing _ => false
  | valueNotTaken _ => false
  | _ => true

/-- Options in the order in which they were given, with their values, and other arguments. -/
structure Arguments where
  options : List (String × String) := []
  others : List String := []
deriving DecidableEq, Repr

namespace Arguments

def gives (a : Arguments) (option : String) : Bool := a.options.any fun o => o.1 = option

/-- The last value of an option. -/
def value? (a : Arguments) (option : String) : Option String :=
  (a.options.filter fun o => o.1 = option).getLast?.map (·.2)

def withOption (name value : String) (a : Arguments) : Arguments :=
  { a with options := (name, value) :: a.options }

/-- Options given by single letters in one argument. None of them takes a value. -/
def letters (specs : List OptionSpec) : List Char → Except UsageProblem (List (String × String))
  | [] => .ok []
  | c :: r =>
    match specs.find? fun s => s.letter = some c with
    | some s => do return (s.name, "") :: (← letters specs r)
    | none => .error (.noSuchOption (String.ofList ['-', c]) [])

/-- Reads arguments. Unless they are `mixed`, the first one that is no option ends the options. -/
def read (specs : List OptionSpec) (mixed : Bool) : List String → Except UsageProblem Arguments
  | [] => .ok {}
  | arg :: rest =>
    if arg = "--" then .ok { others := rest }
    else
      match arg.toList with
      | '-' :: c :: r =>
        let (name, given) := Text.cutFirst '=' ('-' :: c :: r)
        let name := String.ofList name
        match specs.find? fun s => s.name = name, given with
        | some s, some v =>
          if s.takesValue then do
            return withOption name (String.ofList v) (← read specs mixed rest)
          else .error (.valueNotTaken name)
        | some s, none =>
          if s.takesValue then
            match rest with
            | v :: rest => do return withOption name v (← read specs mixed rest)
            | [] => .error (.valueMissing name)
          else do return withOption name "" (← read specs mixed rest)
        | none, _ =>
          if c = '-' then
            .error (.noSuchOption name (Text.mostSimilar name (specs.map (·.name))))
          else do
            let found ← letters specs (c :: r)
            let a ← read specs mixed rest
            return { a with options := found ++ a.options }
      | _ =>
        if mixed then do
          let a ← read specs mixed rest
          return { a with others := arg :: a.others }
        else .ok { others := arg :: rest }

end Arguments

end MeshAgent.CommandLine
