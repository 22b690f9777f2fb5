import FilterQuery.Sql.Render
import FilterQuery.Text.Split

set_option autoImplicit false
set_option relaxedAutoImplicit false

/-!
The arguments of the command line: a command, its options, each given once and with a value, and one
query. An option may stand before or after the query; after `--` everything is a query.
-/

namespace FilterQuery.CommandLine.Arguments

open FilterQuery.Sql.Render (Dialect)

/-- Why arguments lead to no command. -/
inductive Refusal
  | help
  | version
  | nothingGiven
  | unknownCommand
  | unknownArgument
  | missingArgument
  /-- An option without a value, or with one that is no choice of it. -/
  | invalidValue
  /-- A file that is missing or is no file. -/
  | invalidFile
  | repeatedOption
  | needlessValue
  deriving DecidableEq

/-- The options that take a value. -/
inductive Flag
  | schema
  | root
  | settings
  | dialect
  | data
  deriving DecidableEq

def Flag.name : Flag → String
  | .schema => "schema"
  | .root => "root"
  | .settings => "settings"
  | .dialect => "dialect"
  | .data => "data"

def Flag.isFile : Flag → Bool
  | .schema => true
  | .settings => true
  | .data => true
  | _ => false

/-- What a query is compiled against: a schema file, the name of a root in it, and perhaps a
settings file. -/
structure Target where
  schema : String
  root : String
  settings : Option String

/-- What is asked of the program. -/
inductive Command
  | parse (query : String)
  | sql (target : Target) (dialect : Dialect) (query : String)
  | select (target : Target) (data : String) (query : String)

def dialect? (name : String) : Option Dialect :=
  if name = "postgres" then some .postgres else if name = "sqlite" then some .sqlite else none

/-- The arguments read so far. The value of the option read last, if it has one yet, is not checked
before something else is read. -/
structure Given where
  values : List (Flag × String)
  pending : Option (Flag × Option String)
  query : Option String

def checkValue (isFile : String → Bool) (flag : Flag) (value : String) : Except Refusal Unit :=
  if flag.isFile && !isFile value then .error .invalidFile
  else if flag = .dialect && (dialect? value).isNone then .error .invalidValue
  else .ok ()

def settle (isFile : String → Bool) (given : Given) : Except Refusal Given := do
  match given.pending with
  | none => return given
  | some (_, none) => throw .invalidValue
  | some (flag, some value) =>
    if given.values.any (·.1 == flag) then throw .repeatedOption
    checkValue isFile flag value
    return { given with values := given.values ++ [(flag, value)], pending := none }

def longOption? (arg : String) : Option (String × Option String) :=
  match arg.toList with
  | '-' :: '-' :: rest =>
    match Text.Split.cut? '=' rest with
    | some (name, value) => some (String.ofList name, some (String.ofList value))
    | none => some (String.ofList rest, none)
  | _ => none

def shortOption? (arg : String) : Option Char :=
  match arg.toList with
  | '-' :: c :: _ => if c = '-' then none else some c
  | _ => none

/-- Takes an argument that is no option, as the value of the option before it or as the query. -/
def readOperand (isFile : String → Bool) (trailing : Bool) (given : Given) (arg : String) :
    Except Refusal Given := do
  match given.pending, trailing with
  | some (flag, none), false => return { given with pending := some (flag, some arg) }
  | _, _ =>
    if given.query.isSome then throw .unknownArgument
    return { ← settle isFile given with query := some arg }

def readLong (isFile : String → Bool) (flags : List Flag) (given : Given) (name : String)
    (attached : Option String) :
    Except Refusal Given := do
  if name = "help" then
    if attached.isSome then throw .needlessValue
    discard (settle isFile given)
    throw .help
  match flags.find? (·.name == name) with
  | none => throw .unknownArgument
  | some flag =>
    let given := { ← settle isFile given with pending := some (flag, attached) }
    if attached.isSome then settle isFile given else return given

def readArguments (isFile : String → Bool) (flags : List Flag) :
    Bool → Given → List String → Except Refusal Given
  | _, given, [] => settle isFile given
  | true, given, arg :: args => do
    readArguments isFile flags true (← readOperand isFile true given arg) args
  | false, given, arg :: args =>
    if arg = "--" then readArguments isFile flags true given args
    else
      match longOption? arg, shortOption? arg with
      | some (name, attached), _ => do
        readArguments isFile flags false (← readLong isFile flags given name attached) args
      | none, some c => do
        if c = 'h' then
          discard (settle isFile given)
          throw .help
        else throw .unknownArgument
      | none, none =>
        do readArguments isFile flags false (← readOperand isFile false given arg) args

def Given.value? (given : Given) (flag : Flag) : Option String :=
  (given.values.find? (·.1 == flag)).map (·.2)

def needed (value : Option String) : Except Refusal String :=
  match value with
  | some value => .ok value
  | none => .error .missingArgument

/-- The target of a command. Where no settings file is given, the environment may name one. -/
def targetOf (isFile : String → Bool) (environment : Option String) (given : Given) :
    Except Refusal Target := do
  let settings := (given.value? .settings).or environment
  match settings with
  | some path => if !isFile path then throw .invalidFile
  | none => pure ()
  return ⟨← needed (given.value? .schema), ← needed (given.value? .root), settings⟩

def commandFlags : List (String × List Flag) :=
  [("parse", []), ("sql", [.schema, .root, .settings, .dialect]),
    ("select", [.schema, .root, .settings, .data])]

def readCommand (isFile : String → Bool) (environment : Option String) (name : String)
    (flags : List Flag) (args : List String) : Except Refusal Command := do
  let given ← readArguments isFile flags false ⟨[], none, none⟩ args
  match name with
  | "sql" =>
    let target ← targetOf isFile environment given
    let dialect := ((given.value? .dialect).bind dialect?).getD .postgres
    return .sql target dialect (← needed given.query)
  | "select" =>
    let target ← targetOf isFile environment given
    return .select target (← needed (given.value? .data)) (← needed given.query)
  | _ => return .parse (← needed given.query)

/-- What help is asked about: nothing, or the name of a command. -/
def readHelp : List String → Refusal
  | [] => .help
  | [name] => if name = "help" || commandFlags.any (·.1 == name) then .help else .unknownCommand
  | _ => .unknownCommand

def read (isFile : String → Bool) (environment : Option String) :
    List String → Except Refusal Command
  | [] => .error .nothingGiven
  | arg :: args =>
    if arg = "--" then
      match args with
      | [] => .error .nothingGiven
      | arg :: _ =>
        .error (if commandFlags.any (·.1 == arg) || arg = "help" then .unknownArgument
          else .unknownCommand)
    else
      match longOption? arg, shortOption? arg with
      | some (name, attached), _ =>
        if name = "help" || name = "version" then
          .error (if attached.isSome then .needlessValue
            else if name = "help" then .help else .version)
        else .error .unknownArgument
      | none, some c =>
        .error (if c = 'h' then .help else if c = 'V' then .version else .unknownArgument)
      | none, none =>
        if arg = "help" then .error (readHelp args)
        else
          match commandFlags.find? (·.1 == arg) with
          | some (name, flags) => readCommand isFile environment name flags args
          | none => .error .unknownCommand

end FilterQuery.CommandLine.Arguments
