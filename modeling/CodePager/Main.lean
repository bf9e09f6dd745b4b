import CodePager.Program.Start
import CodePager.Tools.Document
import Std.Time.Format

/-! # The program

The outermost layer: it reads the arguments, the environment and the lines of a client, runs what
`start` gives, and prints. It has no network of its own: to it every backend is out of reach, and it
cannot listen at an address. -/

namespace CodePager.Main

/-- The present time, in the zone without an offset. -/
def now : IO String := do
  let t := Std.Time.DateTime.ofTimestampWithZone (← Std.Time.Timestamp.now) .UTC
  return t.toPlainDateTime.toLeanDateTimeString ++ "Z"

/-- The variables of the environment that settings are taken from. -/
def environment : IO (List (String × String)) :=
  (CommandLine.settings.filterMap CommandLine.OptionSpec.variableName).filterMapM fun name => do
    return (← IO.getEnv name).map fun value => (name, value)

/-- Runs a dialogue while no backend can be reached. -/
def runAlone {α : Type} (d : Dialogue α) (c : PageCache) : IO (α × PageCache) := do
  let done := d.run (fun _ _ => .unreachable) { c with now := ← now } []
  return (done.value, done.cache)

/-- Prints what a run has come to and gives its exit code. -/
def finish (o : Outcome) : IO UInt32 := do
  IO.print o.output
  IO.eprint o.errors
  return UInt32.ofNat o.exitCode

/-- Takes the messages of a client, a line each, and prints the answers. -/
partial def talk (s : Service) (phase : Phase) (c : PageCache) : IO Phase := do
  let line ← (← IO.getStdin).getLine
  if line.isEmpty then return phase
  match (Json.parse line).toOption.bind Message.ofJson? with
  | none => return phase
  | some m =>
    let ((reply, phase), c) ← runAlone (Session.receive s phase m) c
    if let some v := reply then
      IO.println v.compact
      (← IO.getStdout).flush
    talk s phase c

/-- Carries a run to its end. -/
def carryOut : Run → IO UInt32
  | .ended o => finish o
  | .serving s => do
    let ((), c) ← runAlone s.announce (.empty s.config.cache (← now))
    finish (.ofPhase (← talk s .fresh c))
  | .servingHttp _ address => finish (.failure "" ("bind failed: cannot listen at " ++ address))
  | .probing s options => do
    let (o, _) ← runAlone (s.probe options) (.empty s.config.cache (← now))
    finish o

/-- Prints the tools document, or writes it to the file that the first argument names. -/
def printDocument : List String → IO UInt32
  | [] => finish (.success Tool.document)
  | path :: _ =>
    try
      IO.FS.writeFile path Tool.document
      return 0
    catch e =>
      IO.eprintln ("failed to write " ++ path ++ ": " ++ toString e)
      return 1

end CodePager.Main

/-- The program: reads the command line and carries out what it asks for. -/
def main (args : List String) : IO UInt32 := do
  CodePager.Main.carryOut (CodePager.start (← CodePager.Main.environment) args)
