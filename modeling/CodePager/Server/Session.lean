import CodePager.Server.Instructions
import CodePager.Server.Message

/-! # Sessions

The conversation with one client. A client first asks to open the session, then confirms that it is
open, and from then on its requests are answered, one answer each. `Service.answer` answers a
request, `Session.receive` takes a message in the phase in which the session is, and
`Session.converse` takes all of them. A message out of turn ends the session. -/

namespace CodePager

/-- What the bridge offers to clients. -/
def capabilities : Json := .obj [("tools", .obj [])]

/-- The name and version under which the server answers. -/
def serverIdentity : Json := .obj [("name", .str "rmcp"), ("version", .str "0.13.0")]

namespace Service

/-- What a client is told when it opens a session; the version of the protocol is the client's. -/
def welcome (s : Service) (version : String) : Json :=
  .obj
    [("protocolVersion", .str version), ("capabilities", capabilities),
     ("serverInfo", serverIdentity), ("instructions", .str s.instructions)]

end Service

/-- The answer to a tool call as clients receive it. -/
def ToolAnswer.toResult (a : ToolAnswer) : Json :=
  .obj
    [("content", .arr [.obj [("type", .str "text"), ("text", .str a.text)]]),
     ("isError", .bool a.isError)]

namespace Service

/-- Answers the call of a tool. -/
def answerCall (s : Service) (name : String) (arguments : List (String × Json)) :
    Dialogue (Except RequestRefusal Json) :=
  match ToolCall.decode name arguments with
  | .error reason => .done (.error (.badCall reason))
  | .ok call => (call.perform s).bind fun a => .done (.ok a.toResult)

/-- **Answers a request.** -/
def answer (s : Service) : ClientRequest → Dialogue (Except RequestRefusal Json)
  | .connect version => .done (.ok (s.welcome version))
  | .ping => .done (.ok (.obj []))
  | .listTools => .done (.ok (.obj [("tools", .arr (Tool.all.map Tool.offered))]))
  | .callTool name arguments => s.answerCall name arguments
  | .listPrompts => .done (.ok (.obj [("prompts", .arr [])]))
  | .listResources => .done (.ok (.obj [("resources", .arr [])]))
  | .listResourceTemplates => .done (.ok (.obj [("resourceTemplates", .arr [])]))
  | .unsupported method => .done (.error (.unsupported method))

/-- Answers a request under its identifier. -/
def reply (s : Service) (id : RequestId) (request : ClientRequest) : Dialogue Json :=
  (s.answer request).bind fun result => .done (answerTo id result)

end Service

/-- How far a session has come. -/
inductive Phase where
  /-- Nothing has been received. -/
  | fresh
  /-- The client has asked to open the session and has been answered. -/
  | opening
  /-- The client has confirmed that the session is open. -/
  | established
  /-- A message came out of turn. -/
  | broken
  deriving DecidableEq

namespace Session

/-- Takes a message: the answer, if there is one, and the phase after it. -/
def receive (s : Service) : Phase → Message → Dialogue (Option Json × Phase)
  | .fresh, .request id (.connect version) =>
    (s.reply id (.connect version)).bind fun a => .done (some a, .opening)
  | .fresh, _ => .done (none, .broken)
  | .opening, .notification "notifications/initialized" => .done (none, .established)
  | .opening, _ => .done (none, .broken)
  | .established, .request id request =>
    (s.reply id request).bind fun a => .done (some a, .established)
  | .established, _ => .done (none, .established)
  | .broken, _ => .done (none, .broken)

/-- Takes messages one after another: the answers, and the phase in the end. A value that is no
message ends the conversation, as if nothing came any more. -/
def converse (s : Service) : Phase → List Json → Dialogue (List Json × Phase)
  | phase, [] => .done ([], phase)
  | phase, v :: rest =>
    match Message.ofJson? v with
    | none => .done ([], phase)
    | some m =>
      (receive s phase m).bind fun taken =>
        (converse s taken.2 rest).bind fun later =>
          .done (taken.1.toList ++ later.1, later.2)

end Session

end CodePager
