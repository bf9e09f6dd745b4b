import CodePager.CommandLine.Number

/-! # The grammar of the command line

The commands, their options, and how options are written. `Command.options` lists the options of a
command in the order in which their variables are looked up; the settings may be given before and
behind the command. -/

namespace CodePager.CommandLine

/-- What the value of an option is. -/
inductive ValueKind where
  | text
  /-- A port number, of 16 bits. -/
  | port
  /-- A number of 64 bits. -/
  | count
  deriving DecidableEq

/-- The value of an option. -/
inductive OptionValue where
  | text (value : String)
  | number (value : Nat)
  deriving DecidableEq

/-- Reads a value of a kind. -/
def ValueKind.read (kind : ValueKind) (text : String) : Except NumberFault OptionValue :=
  match kind with
  | .text => .ok (.text text)
  | .port => (readWithin 65535 text).map .number
  | .count => (readUnsigned text).map .number

/-- How an option takes values. -/
inductive OptionArity where
  /-- A switch, without a value. -/
  | switch
  /-- One value, in one place. -/
  | single
  /-- One value in each of any number of places. -/
  | repeated
  /-- Values with commas between them, in any number of places. -/
  | commaSeparated
  deriving DecidableEq

/-- An option of the command line. -/
structure OptionSpec where
  /-- The name, which is written behind two dashes. -/
  name : String
  /-- What messages call the value. -/
  valueName : String
  arity : OptionArity
  kind : ValueKind
  /-- The environment variable that gives the value if the command line does not. -/
  variableName : Option String
  deriving DecidableEq

/-- An option as messages write it. -/
def OptionSpec.display (o : OptionSpec) : String :=
  if o.arity = .switch then "--" ++ o.name else "--" ++ o.name ++ " <" ++ o.valueName ++ ">"

/-- The settings of backend and cache, which every command takes. -/
def settings : List OptionSpec :=
  [⟨"jadx-host", "JADX_HOST", .single, .text, some "JADX_MCP_BACKEND_HOST"⟩,
   ⟨"jadx-port", "JADX_PORT", .single, .port, some "JADX_MCP_BACKEND_PORT"⟩,
   ⟨"timeout-secs", "TIMEOUT_SECS", .single, .count, some "JADX_MCP_TIMEOUT_SECS"⟩,
   ⟨"cache-threshold", "CACHE_THRESHOLD", .single, .count, some "JADX_MCP_CACHE_THRESHOLD"⟩,
   ⟨"cache-capacity", "CACHE_CAPACITY", .single, .count, some "JADX_MCP_CACHE_CAPACITY"⟩,
   ⟨"page-size", "PAGE_SIZE", .single, .count, some "JADX_MCP_PAGE_SIZE"⟩]

/-- The commands. -/
inductive Command where
  /-- Speak with one client over standard input and output. -/
  | serve
  /-- Speak with clients over HTTP. -/
  | serveHttp
  /-- Check the backend, and print what one route answers. -/
  | probe
  deriving DecidableEq

namespace Command

/-- Every command. -/
def all : List Command := [.serve, .serveHttp, .probe]

/-- The name of a command. -/
def name : Command → String
  | .serve => "serve"
  | .serveHttp => "serve-http"
  | .probe => "probe"

/-- The options of a command itself. -/
def ownOptions : Command → List OptionSpec
  | .serve => []
  | .serveHttp =>
    [⟨"bind", "BIND", .single, .text, none⟩,
     ⟨"sse-keep-alive-secs", "SSE_KEEP_ALIVE_SECS", .single, .count, none⟩,
     ⟨"stateless", "", .switch, .text, none⟩,
     ⟨"allow-origin", "ALLOW_ORIGIN", .commaSeparated, .text, none⟩]
  | .probe =>
    [⟨"endpoint", "ENDPOINT", .single, .text, none⟩,
     ⟨"param", "KEY=VALUE", .repeated, .text, none⟩]

end Command

/-- Where options stand: before the command, or behind it. -/
abbrev Place := Option Command

namespace Place

/-- The options that may stand in a place. -/
def options : Place → List OptionSpec
  | none => settings
  | some command => command.ownOptions ++ settings

/-- The command that a word names in a place; no command has commands of its own. -/
def command? (place : Place) (word : String) : Option Command :=
  if place.isNone then Command.all.find? fun c => c.name == word else none

end Place

end CodePager.CommandLine
