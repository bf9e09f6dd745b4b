import CodePager.Net.IpAddress
import CodePager.Program.Probe
import CodePager.Server.Http

/-! # Starting

What a command line sets going. `start` gives the run that the program starts, or the outcome of one
that ends at once; `Service.serve` and `HttpServer.serve` are the two ways of serving. A bridge that
serves first asks the backend how it is, and serves whatever the answer. -/

namespace CodePager

open CommandLine (Halt Invocation HttpOptions ProbeOptions)

/-- What the program is doing once it has started. -/
inductive Run where
  | ended (outcome : Outcome)
  /-- Serving one client. -/
  | serving (service : Service)
  /-- Serving clients over HTTP. -/
  | servingHttp (server : HttpServer) (address : String)
  | probing (service : Service) (options : ProbeOptions)

/-- The name and version of the program. -/
def versionLine : String := "jadx-mcp 0.1.0\n"

/-- How the program is used. -/
def usageText : String :=
  "Usage: jadx-mcp [OPTIONS] [COMMAND]\n\nCommands:\n" ++
    String.join (CommandLine.Command.all.map fun c => "  " ++ c.name ++ "\n") ++ "\nOptions:\n" ++
    String.join (CommandLine.settings.map fun o => "  " ++ o.display ++ "\n")

/-- The outcome of a command line that asks for nothing to be done. -/
def Outcome.ofHalt : Halt → Outcome
  | .help => .success usageText
  | .version => .success versionLine
  | .refused e => .refusal e.message

/-- A server over HTTP that has no sessions yet. -/
def HttpServer.ofOptions (s : Service) (o : HttpOptions) : HttpServer :=
  ⟨s, originsOf o.allowOrigin, !o.stateless, []⟩

/-- Starts a task with a configuration that has been validated. -/
def startTask (s : Service) : CommandLine.Task → Run
  | .serve => .serving s
  | .serveHttp o =>
    if Net.isSocketAddress o.bind then .servingHttp (.ofOptions s o) o.bind
    else .ended (.failure "" "invalid bind address: invalid socket address syntax")
  | .probe o => .probing s o

/-- **Starts the program.** -/
def start (environment : List (String × String)) (words : List String) : Run :=
  match Invocation.ofWords environment words with
  | .error halt => .ended (.ofHalt halt)
  | .ok invocation =>
    match invocation.config.validate with
    | .error e => .ended (.failure "" e.message)
    | .ok config => startTask ⟨config⟩ invocation.task

/-- Asks the backend once how it is; the answer decides nothing. -/
def Service.announce (s : Service) : Dialogue Unit := s.health.run.bind fun _ => .done ()

/-- The outcome of a conversation that has come to an end in a phase. -/
def Outcome.ofPhase : Phase → Outcome
  | .fresh => .failure "" "connection closed: initialized request"
  | .opening => .failure "" "connection closed: initialize notification"
  | .established => .success ""
  | .broken => .failure "" "unexpected message"

/-- Serves one client to the end of its messages: the answers, and the outcome. -/
def Service.serve (s : Service) (messages : List Json) : Dialogue (List Json × Outcome) :=
  s.announce.bind fun _ =>
    (Session.converse s .fresh messages).bind fun (answers, phase) =>
      .done (answers, .ofPhase phase)

end CodePager
