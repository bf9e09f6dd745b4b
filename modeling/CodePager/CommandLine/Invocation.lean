import CodePager.CommandLine.Scan
import CodePager.Config

/-! # What the program is asked to do

The command with its options, and the configuration. `Invocation.ofWords` reads a command line
together with the environment; what is not given has its default. -/

namespace CodePager.CommandLine

/-- How to serve over HTTP. -/
structure HttpOptions where
  /-- The address to listen at. -/
  bind : String
  /-- After how many seconds a quiet stream is sent a sign of life; zero for never. -/
  keepAliveSecs : Nat
  /-- Whether no sessions are kept. -/
  stateless : Bool
  /-- The origins that may post, as given. -/
  allowOrigin : List String
  deriving DecidableEq

/-- What to ask the backend for. -/
structure ProbeOptions where
  /-- The route to fetch behind the health check. -/
  endpoint : Option String
  /-- The parameters, as given. -/
  params : List String
  deriving DecidableEq

/-- What the program is asked to do. -/
inductive Task where
  | serve
  | serveHttp (options : HttpOptions)
  | probe (options : ProbeOptions)
  deriving DecidableEq

/-- A task and the configuration for it, which has not been validated. -/
structure Invocation where
  config : Config
  task : Task
  deriving DecidableEq

namespace Settings

/-- The values given for an option. -/
def valuesOf (s : Settings) (name : String) : Option (List OptionValue) :=
  (s.lookup name).map Given.values

/-- The texts given for an option. -/
def texts? (s : Settings) (name : String) : Option (List String) :=
  (s.valuesOf name).map fun values => values.filterMap fun
    | .text t => some t
    | .number _ => none

/-- The text given for an option. -/
def text? (s : Settings) (name : String) : Option String :=
  (s.texts? name).bind List.head?

/-- The number given for an option. -/
def number? (s : Settings) (name : String) : Option Nat :=
  match s.valuesOf name with
  | some (.number n :: _) => some n
  | _ => none

/-- The number given for an option, or a default, as a word of 64 bits. -/
def countOr (s : Settings) (name : String) (default : UInt64) : UInt64 :=
  ((s.number? name).map UInt64.ofNat).getD default

/-- The configuration that is given. -/
def config (s : Settings) : Config :=
  let backend := BackendConfig.default
  let cache := CacheConfig.default
  { backend :=
      { host := (s.text? "jadx-host").getD backend.host
        port := ((s.number? "jadx-port").map UInt16.ofNat).getD backend.port
        timeoutSecs := s.countOr "timeout-secs" backend.timeoutSecs }
    cache :=
      { threshold := s.countOr "cache-threshold" cache.threshold
        maxEntries := s.countOr "cache-capacity" cache.maxEntries
        defaultPageSize := s.countOr "page-size" cache.defaultPageSize } }

/-- How to serve over HTTP: by default only pages of the same machine may post. -/
def httpOptions (s : Settings) : HttpOptions :=
  { bind := (s.text? "bind").getD "127.0.0.1:8651"
    keepAliveSecs := (s.number? "sse-keep-alive-secs").getD 15
    stateless := (s.valuesOf "stateless").isSome
    allowOrigin := (s.texts? "allow-origin").getD ["http://localhost", "http://127.0.0.1"] }

/-- What to ask the backend for. -/
def probeOptions (s : Settings) : ProbeOptions :=
  { endpoint := s.text? "endpoint", params := (s.texts? "param").getD [] }

/-- The task of a command. Without a command the program serves. -/
def task (s : Settings) : Option Command → Task
  | none => .serve
  | some .serve => .serve
  | some .serveHttp => .serveHttp s.httpOptions
  | some .probe => .probe s.probeOptions

end Settings

/-- **Reads a command line** together with the environment. -/
def Invocation.ofWords (environment : List (String × String)) (words : List String) :
    Except Halt Invocation :=
  (given environment words).map fun (command, settings) =>
    ⟨settings.config, settings.task command⟩

end CodePager.CommandLine
