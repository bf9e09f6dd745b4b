import CodePager.Json.Value
import CodePager.Tools.Call
import CodePager.Word

/-! # Messages

What a client sends: requests, each with an identifier that its answer repeats, and notifications,
which are not answered. `Message.ofJson?` reads a message, `answerTo` writes an answer. A request
whose method is not known, or whose parameters do not fit its method, is a request like any other
and is answered with an error. -/

namespace CodePager

/-- What ties an answer to its request: a number of 64 bits with a sign, or a text. -/
inductive RequestId where
  | number (value : Int64)
  | text (value : String)
  deriving DecidableEq

namespace RequestId

/-- Reads an identifier. -/
def ofJson? : Json → Option RequestId
  | .int n => if IsSigned n then some (.number (Int64.ofInt n)) else none
  | .str s => some (.text s)
  | _ => none

/-- An identifier as a value. -/
def toJson : RequestId → Json
  | .number n => .int n.toInt
  | .text s => .str s

/-- An identifier is read back from its value. -/
theorem ofJson?_toJson (id : RequestId) : ofJson? id.toJson = some id := by
  cases id with
  | text s => rfl
  | number n =>
    rw [toJson, ofJson?, if_pos (isSigned_toInt n), Int64.ofInt_toInt]

end RequestId

/-- What a client asks for. -/
inductive ClientRequest where
  /-- To open a session, in a version of the protocol. -/
  | connect (version : String)
  | ping
  | listTools
  | callTool (name : String) (arguments : List (String × Json))
  | listPrompts
  | listResources
  | listResourceTemplates
  /-- Something that the bridge does not offer. -/
  | unsupported (method : String)

/-- A message of a client. -/
inductive Message where
  | request (id : RequestId) (content : ClientRequest)
  | notification (method : String)
  /-- An answer; the bridge asks nothing, so it waits for none. -/
  | response

namespace ClientRequest

/-- Whether a value can stand for parameters that are all optional: an object whose cursor, if there
is one, is a string. -/
def isPosition : Option Json → Bool
  | none => true
  | some .null => true
  | some (.obj fields) =>
    match Fields.get? "cursor" fields with
    | none => true
    | some .null => true
    | some v => v.isText
  | some _ => false

/-- Whether a client introduces itself: with a name and a version. -/
def isIntroduction (v : Json) : Bool :=
  ((v.field? "name").any Json.isText) && ((v.field? "version").any Json.isText)

/-- Reads the request to open a session. -/
def connectOf? (params : Json) : Option ClientRequest :=
  match params.field? "protocolVersion", params.field? "capabilities",
      params.field? "clientInfo" with
  | some (.str version), some (.obj _), some client =>
    if isIntroduction client then some (.connect version) else none
  | _, _, _ => none

/-- Reads the call of a tool. Without arguments the object of arguments is empty. -/
def callOf? (params : Json) : Option ClientRequest :=
  match params.field? "name", params.field? "arguments" with
  | some (.str name), none => some (.callTool name [])
  | some (.str name), some .null => some (.callTool name [])
  | some (.str name), some (.obj arguments) => some (.callTool name arguments)
  | _, _ => none

/-- Reads the request that a method and its parameters make, if they fit each other. -/
def ofMethod? (method : String) (params : Option Json) : Option ClientRequest :=
  match method with
  | "initialize" => params.bind connectOf?
  | "ping" => some .ping
  | "tools/call" => params.bind callOf?
  | "tools/list" => if isPosition params then some .listTools else none
  | "prompts/list" => if isPosition params then some .listPrompts else none
  | "resources/list" => if isPosition params then some .listResources else none
  | "resources/templates/list" => if isPosition params then some .listResourceTemplates else none
  | _ => none

/-- The request that a method and its parameters make. -/
def ofMethod (method : String) (params : Option Json) : ClientRequest :=
  (ofMethod? method params).getD (.unsupported method)

end ClientRequest

namespace Message

/-- Reads a message. With a method it is a request if it has an identifier and else a notification;
without one it can only be an answer. -/
def ofJson? (v : Json) : Option Message :=
  if (v.field? "jsonrpc").bind Json.asText = some "2.0" then
    let id := (v.field? "id").bind RequestId.ofJson?
    match (v.field? "method").bind Json.asText, id with
    | some method, some id => some (.request id (.ofMethod method (v.field? "params")))
    | some method, none => some (.notification method)
    | none, some _ =>
      if (v.field? "result").isSome || (v.field? "error").isSome then some .response else none
    | none, none => none
  else none

end Message

/-- Why a request is refused. -/
inductive RequestRefusal where
  | unsupported (method : String)
  | badCall (reason : CallRefusal)

namespace RequestRefusal

/-- The number of a refusal in the protocol. -/
def code : RequestRefusal → Int
  | .unsupported _ => -32601
  | .badCall _ => -32602

/-- The wording of a refusal; a method that is not offered is only named. -/
def message : RequestRefusal → String
  | .unsupported method => method
  | .badCall reason => reason.message

/-- A refusal as a value. -/
def toJson (r : RequestRefusal) : Json :=
  .obj [("code", .int r.code), ("message", .str r.message)]

end RequestRefusal

/-- The **answer** to a request: its result, or why it is refused. -/
def answerTo (id : RequestId) (result : Except RequestRefusal Json) : Json :=
  .obj <|
    [("jsonrpc", .str "2.0"), ("id", id.toJson)] ++
      match result with
      | .ok v => [("result", v)]
      | .error r => [("error", r.toJson)]

end CodePager
