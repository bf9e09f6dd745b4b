import CodePager.CommandLine.Invocation
import CodePager.Program.Outcome
import CodePager.Service.Read

/-! # Probing the backend

A check of the backend from the command line: its health is printed, and then what one route
answers, if one is named. Only routes that read can be named, and the health comes first even if
the rest is wrong. -/

namespace CodePager

open CommandLine (ProbeOptions)

/-- Why a route cannot be probed. -/
inductive ProbeError where
  | unknownRoute (path : String)
  | writes (route : Route)
  | notAPair (text : String)
  deriving DecidableEq

/-- The wording of a probe that cannot be made. -/
def ProbeError.message : ProbeError → String
  | .unknownRoute path => "unknown endpoint: " ++ path
  | .writes route => "probe only issues reads; " ++ route.path ++ " changes the project"
  | .notAPair text => "expected KEY=VALUE, got '" ++ text ++ "'"

/-- Reads parameters, each a key and a value with an equals sign between them. -/
def readPairs : Params → List String → Except ProbeError Params
  | params, [] => .ok params
  | params, text :: rest =>
    match text.toList.dropWhile (· ≠ '=') with
    | [] => .error (.notAPair text)
    | _ :: value =>
      let key := Text.trim (String.ofList (text.toList.takeWhile (· ≠ '=')))
      readPairs (params.set key (String.ofList value)) rest

/-- The route and the parameters of a probe. -/
def readProbe (path : String) (pairs : List String) : Except ProbeError (Route × Params) :=
  match Route.ofPath? path with
  | none => .error (.unknownRoute path)
  | some route =>
    if route.isWrite then .error (.writes route)
    else (readPairs .empty pairs).map fun params => (route, params)

/-- A payload as it is printed. -/
def Payload.printed : Payload → String
  | .json v => v.pretty ++ "\n"
  | .text s => s ++ "\n"

namespace Service

/-- Fetches and prints what a route answers, behind what has been printed. -/
def probeRoute (s : Service) (printed path : String) (pairs : List String) : Dialogue Outcome :=
  match readProbe path pairs with
  | .error e => .done (.failure printed e.message)
  | .ok (route, params) =>
    (Gateway.fetch s.config.backend route params).run.bind fun
      | .error e => .done (.failure printed e.message)
      | .ok payload => .done (.success (printed ++ payload.printed))

/-- **Probes the backend.** -/
def probe (s : Service) (options : ProbeOptions) : Dialogue Outcome :=
  s.health.run.bind fun
    | .error e => .done (.failureBecause "" "health check failed" e.message)
    | .ok health =>
      let printed := health.pretty ++ "\n"
      match options.endpoint with
      | none => .done (.success printed)
      | some path => s.probeRoute printed path options.params

end Service

end CodePager
