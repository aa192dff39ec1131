import SqlFacts.Command.Usage
import SqlFacts.Text.Similarity

/-!
# Arguments of commands

Arguments are options, which begin with a hyphen, and positional arguments. An option with a value
takes it behind an equals sign or from the next argument, whatever that begins with. Two hyphens
end the options.
-/

namespace SqlFacts.Command

/-- An option that a command knows. -/
structure OptionSpec where
  name : String
  takesValue : Bool
  deriving DecidableEq, Repr

/-- Arguments sorted: the options in order, each with its value if it takes one, and the
positional arguments. -/
structure Arguments where
  options : List (String × String)
  positional : List String
  deriving DecidableEq, Repr

namespace Arguments

/-- Puts an option in front. -/
def withOption (args : Arguments) (name value : String) : Arguments :=
  { args with options := (name, value) :: args.options }

/-- Puts a positional argument in front. -/
def withPositional (args : Arguments) (argument : String) : Arguments :=
  { args with positional := argument :: args.positional }

/-- Tests whether an option was given. -/
def has (args : Arguments) (name : String) : Bool := args.options.any (·.1 == name)

/-- The value of an option, the last one if it was given more than once. -/
def value? (args : Arguments) (name : String) : Option String :=
  (args.options.reverse.find? (·.1 == name)).map (·.2)

end Arguments

/-- An argument cut at its first equals sign. -/
def splitValue (argument : String) : String × Option String :=
  let cs := argument.toList
  let name := String.ofList (cs.takeWhile (· != '='))
  match cs.dropWhile (· != '=') with
  | [] => (name, none)
  | _ :: value => (name, some (String.ofList value))

/-- Tests whether an argument is an option. A hyphen alone is not. -/
def isOption (argument : String) : Bool :=
  match argument.toList with
  | '-' :: _ :: _ => true
  | _ => false

/-- The mistake of giving an option that is not known. Behind a single hyphen only the first
letter counts. -/
def unknownOption (specs : List OptionSpec) (argument : String) : UsageError :=
  match argument.toList with
  | '-' :: c :: _ =>
    if c == '-' then
      let name := (splitValue argument).1
      .unknownOption name (Text.closeNames name (specs.map (·.name)))
    else .unknownOption (String.ofList ['-', c]) []
  | _ => .unknownOption argument []

/-- What an option argument is about: an option of the command, with the value behind its equals
sign. -/
def matchOption (specs : List OptionSpec) (argument : String) :
    Except UsageError (OptionSpec × Option String) :=
  let (name, value) := splitValue argument
  match specs.find? (·.name == name) with
  | none => .error (unknownOption specs argument)
  | some spec =>
    if !spec.takesValue && value.isSome then .error (.unwantedValue spec.name)
    else .ok (spec, value)

/-- Sorts arguments. Unless options may stand among positional arguments, the first positional
one ends the options. `pending` is an option that the next argument is the value of. -/
def readArguments (specs : List OptionSpec) (interspersed : Bool) :
    (pending : Option String) → List String → Except UsageError Arguments
  | none, [] => .ok ⟨[], []⟩
  | some name, [] => .error (.missingValue name)
  | some name, value :: rest =>
    (readArguments specs interspersed none rest).map (·.withOption name value)
  | none, argument :: rest =>
    if argument = "--" then .ok ⟨[], rest⟩
    else if isOption argument then
      match matchOption specs argument with
      | .error e => .error e
      | .ok (spec, value) =>
        match spec.takesValue, value with
        | true, none => readArguments specs interspersed (some spec.name) rest
        | _, value =>
          (readArguments specs interspersed none rest).map
            (·.withOption spec.name (value.getD ""))
    else if interspersed then
      (readArguments specs interspersed none rest).map (·.withPositional argument)
    else .ok ⟨[], argument :: rest⟩

/-- The value of an option that has a choice of values, the first one if it is not given. -/
def choice (args : Arguments) (name : String) (choices : List String) (default : String) :
    Except UsageError String :=
  match args.value? name with
  | none => .ok default
  | some value =>
    if choices.contains value then .ok value else .error (.badChoice name value choices)

end SqlFacts.Command
