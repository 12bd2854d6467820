import SquarePool.Json.Writer
import SquarePool.Launch

/-!
# The program

Reads the command line, the environment and the files that a run needs, and launches the run. This
program has no line to a database, so a run ends where it would connect to one.
-/

namespace SquarePool.Program

/-- The variables that a run looks at. -/
def watched : List String :=
  [Settings.pathVariable, "SQMGR_CONF_DSN", "DATABASE_URL", "ESPN_BASE_URL",
    "ESPN_REQUESTS_PER_SECOND", "ESPN_TIMEOUT_SECS", "LOG_LEVEL", "RUST_LOG", "SQMGR_LOG_JSON"]

/-- The words of a text, any of which may name a variable. -/
def wordsOf (text : String) : List String :=
  ((text.toList.splitBy fun a b =>
    EnvironmentFile.isNameChar a == EnvironmentFile.isNameChar b).map String.ofList).eraseDups

/-- The text of a file, if it can be read. -/
def readFile? (path : String) : IO (Option String) := do
  try
    return some (← IO.FS.readFile path)
  catch _ =>
    return none

/-- The files at some paths. -/
def readFiles (paths : List String) : IO Files := do
  let found ← paths.filterMapM fun path => do
    return (← readFile? path).map fun text => (path, text)
  return fun path => found.lookup path

/-- The variables with some names. -/
def readEnvironment (names : List String) : IO Environment := do
  let found ← names.filterMapM fun name => do
    return (← IO.getEnv name).map fun value => (name, value)
  return fun name => found.lookup name

/-- Surroundings without a database and without a feed. -/
def nowhere : Outside Unit where
  connect _ := none
  link := { send := fun _ s => (.error "no feed", s), isStopped := fun _ => false, now := fun _ => .epoch }

/-- A line of the log, as a document or as a line of text. -/
def render (json : Bool) (line : LogLine) : String :=
  let level := (key line.level).toUpper
  if json then
    (Json.ofMembers [("level", Json.text level),
      ("fields", Json.ofMembers (("message", Json.text line.message) :: line.fields)),
      ("target", Json.text line.target)]).render
  else
    let fields := line.fields.map fun (name, value) => " " ++ name ++ "=" ++ value.render
    level ++ " " ++ line.target ++ ": " ++ line.message ++ String.join fields

/-- Launches a run and writes what it leaves behind. -/
def launch (arguments : List String) : IO UInt32 := do
  let first ← readFiles [EnvironmentFile.fileName]
  let named := ((first EnvironmentFile.fileName).map wordsOf).getD []
  let env ← readEnvironment (watched ++ named)
  let files ← readFiles (Launch.paths arguments env first)
  let (result, _) := Launch.run nowhere arguments env files ()
  for line in result.log do
    IO.println (render result.logJson line)
  for line in result.output do
    IO.println line
  for line in result.complaint do
    IO.eprintln line
  return result.exitCode.toUInt32

end SquarePool.Program

def main (arguments : List String) : IO UInt32 := SquarePool.Program.launch arguments
