import FilterQuery.CommandLine.Arguments
import FilterQuery.Configuration.Load
import FilterQuery.Like.Engine
import FilterQuery.Memory
import FilterQuery.Query.Encode
import FilterQuery.Query.Reader
import FilterQuery.Relational
import FilterQuery.Scalar.Coerce

set_option autoImplicit false
set_option relaxedAutoImplicit false

/-!
The program behind the command line: `parse` shows a query, `sql` compiles one for a schema, and
`select` evaluates one over a file of records. What it prints is JSON.
-/

namespace FilterQuery.CommandLine

open FilterQuery.CommandLine.Arguments (Command Refusal Target)
open FilterQuery.Configuration.Load (schemaOfToml settingsOfToml)
open FilterQuery.Query.Encode (encode texts)

/-- Why nothing is printed. -/
inductive Failure
  | arguments (refusal : Refusal)
  /-- A file that holds no text. -/
  | unreadable (path : String)
  | notAList
  | error (e : Error)

def refusalMessage : Refusal → String
  | .help =>
    "usage: parse QUERY | sql --schema FILE --root TYPE [--settings FILE] [--dialect NAME] QUERY | "
      ++
      "select --schema FILE --root TYPE [--settings FILE] --data FILE QUERY"
  | .version => "0.1.0"
  | .nothingGiven => "a command is needed: parse, sql or select"
  | .unknownCommand => "there is no such command"
  | .unknownArgument => "unexpected argument"
  | .missingArgument => "a required argument is missing"
  | .invalidValue => "an option has no value or not a possible one"
  | .invalidFile => "a file is missing or is not a file"
  | .repeatedOption => "an option is given twice"
  | .needlessValue => "an option takes no value"

def Failure.message : Failure → String
  | .arguments refusal => refusalMessage refusal
  | .unreadable path => "cannot read " ++ path
  | .notAList => "data file must hold a JSON array of records"
  | .error e => e.message

abbrev Files := String → Option ByteArray

def readText (files : Files) (path : String) : Except Failure String :=
  match (files path).bind String.fromUTF8? with
  | some text => .ok text
  | none => .error (.unreadable path)

def lift {α : Type} : Except Error α → Except Failure α
  | .ok a => .ok a
  | .error e => .error (.error e)

/-- What a query is compiled against, from the files of a target. -/
def load (files : Files) (target : Target) : Except Failure Context := do
  let schema ← lift (schemaOfToml (← readText files target.schema))
  let registry ← lift (Registry.build schema target.root)
  let settings ← match target.settings with
    | some path => lift (settingsOfToml (← readText files path))
    | none => pure Settings.default
  lift (Context.ofRegistry schema registry Scalar.Coerce.coerce settings Like.refusal)

def answer (files : Files) : Command → Except Failure Json.Value
  | .parse query => do return encode (← lift (Query.Reader.read query))
  | .sql target dialect query => do
    let context ← load files target
    let query ← lift (Query.Reader.read query)
    let plan ← lift (Relational.compile context query)
    return .object [
      ("includes", texts plan.includes),
      ("page", .object [("limit", .integer plan.page.limit),
        ("offset", .integer plan.page.offset)]),
      ("sql", .text (Sql.Render.select dialect plan.toSelect))]
  | .select target data query => do
    let context ← load files target
    let query ← lift (Query.Reader.read query)
    match Json.Reader.read (← readText files data) with
    | none => throw (.error .malformedData)
    | some (.list records) => return .list (← lift (Memory.execute context query id records))
    | some _ => throw .notAList

/-- What the program prints for its arguments, where the environment may name a settings file. -/
def run (files : Files) (environment : Option String) (args : List String) :
    Except Failure String := do
  match Arguments.read (fun path => (files path).isSome) environment args with
  | .error refusal => throw (.arguments refusal)
  | .ok command => return Json.Writer.pretty (← answer files command)

end FilterQuery.CommandLine
