import ClusterPolicy.Command.Arguments
import ClusterPolicy.Manifest.Reading

namespace ClusterPolicy

def usage : String :=
  "Kubernetes to Cedar policy converter\n\n" ++
  "Usage:\n" ++
  "  k8s-cedar convert rbac|admission -f <FILE>... [-o cedar|json] [--config <FILE>]\n" ++
  "      [--name <NAME>] [--strict]\n" ++
  "  k8s-cedar authorize --store <FILE>... --request <FILE> [--json]\n" ++
  "  k8s-cedar help [COMMAND]"

/-- The files that can be read. -/
def readFiles (paths : List String) : IO Command.Files := do
  let mut texts : List (String × String) := []
  for path in paths do
    try
      texts := (path, ← IO.FS.readFile path) :: texts
    catch _ => pure ()
  return fun path => texts.lookup path

def refuse (refusal : Command.Refusal) : IO UInt32 := do
  match refusal with
  | .help =>
    IO.println usage
    return 0
  | .version =>
    IO.println "k8s-cedar 0.1.0"
    return 0
  | .helpForMissingCommand => IO.eprintln usage
  | .unknownCommand => IO.eprintln "error: unrecognized subcommand"
  | .unknownArgument => IO.eprintln "error: unexpected argument"
  | .repeatedOption => IO.eprintln "error: an argument cannot be used multiple times"
  | .invalidValue => IO.eprintln "error: a value is missing or invalid"
  | .unwantedValue => IO.eprintln "error: unexpected value"
  | .missingOption => IO.eprintln "error: required arguments were not provided"
  return 2

end ClusterPolicy

open ClusterPolicy in
def main (args : List String) : IO UInt32 := do
  match Command.Invocation.parse (← IO.getEnv "K8S_CEDAR_CONFIG") args with
  | .error refusal => refuse refusal
  | .ok invocation =>
    match invocation.run .standard (← readFiles invocation.paths) with
    | .ok output =>
      IO.println output
      return 0
    | .error e =>
      IO.eprintln (if e = .overflow then e.message else "Error: " ++ e.message)
      return e.exitCode
