import FilterQuery.CommandLine

set_option autoImplicit false
set_option relaxedAutoImplicit false

/-!
The program: it reads the files that its arguments may name, runs, and prints.
-/

open FilterQuery.CommandLine

def readFile? (path : String) : IO (Option (String × ByteArray)) := do
  try
    return some (path, ← IO.FS.readBinFile path)
  catch _ => return none

/-- The paths that an argument may name: itself, or what follows its first sign of equality. -/
def pathsIn (arg : String) : List String :=
  arg :: ((FilterQuery.Text.Split.cut? '=' arg.toList).map fun (_, path) =>
    String.ofList path).toList

/-- The exit code of a failure. Help and the version are what was asked for, and arguments that make
no sense are told apart from everything else. -/
def exitCode : Failure → UInt32
  | .arguments .help => 0
  | .arguments .version => 0
  | .arguments _ => 2
  | _ => 1

def main (args : List String) : IO UInt32 := do
  let environment ← IO.getEnv "FILTER_SETTINGS"
  let found ← (args.flatMap pathsIn ++ environment.toList).filterMapM readFile?
  let files : Files := fun path => (found.find? (·.1 == path)).map (·.2)
  match run files environment args with
  | .ok text =>
    IO.println text
    return 0
  | .error failure =>
    let code := exitCode failure
    if code = 0 then IO.println failure.message else IO.eprintln failure.message
    return code
