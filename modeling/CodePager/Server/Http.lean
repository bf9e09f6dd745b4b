import CodePager.Server.Session

/-! # Serving over HTTP

Many clients over HTTP, each message a `POST` that is answered on its own. `HttpServer.handle` takes
a request: the gate before the service (`originGate`) turns away what comes from a web page of a
foreign origin, a server that keeps sessions leads each message to its session, and one that keeps
none answers every request as it comes. All sessions share one bridge, and with it one cache. -/

namespace CodePager

/-- A request over HTTP: its header fields in their order, with their names in lower case and their
values without the blanks around them (`headerValue`), and what else there is of it. -/
structure HttpRequest (β : Type) where
  headers : List (String × List UInt8)
  content : β

namespace HttpRequest

variable {β : Type}

/-- The value of the first header field with a name. -/
def header? (r : HttpRequest β) (name : String) : Option (List UInt8) := Fields.get? name r.headers

/-- The first header that names the origin of the web page that asks. -/
def origin? (r : HttpRequest β) : Option (List UInt8) := r.header? "origin"

end HttpRequest

/-- A message that is posted. -/
structure Post where
  /-- The header that names the origin of the web page that posts, if there is one. -/
  origin : Option (List UInt8)
  /-- The session that the message belongs to. -/
  session : Option String
  body : Json

/-- The answer to a post. -/
structure PostAnswer where
  status : Nat
  /-- The session that the post has opened. -/
  session : Option String
  /-- The messages that the answer streams. -/
  messages : List Json
  /-- The text of an answer without messages. -/
  text : String

namespace PostAnswer

/-- An answer that streams messages. -/
def stream (messages : List Json) : PostAnswer := ⟨200, none, messages, ""⟩

/-- An answer without messages. -/
def plain (status : Nat) (text : String) : PostAnswer := ⟨status, none, [], text⟩

/-- The answer to a post from a foreign origin. -/
def forbidden : PostAnswer := plain 403 "Forbidden"

/-- The answer to a message that needs none of its own. -/
def accepted : PostAnswer := plain 202 ""

/-- The answer to a post that belongs to a session that there is not. -/
def unknownSession : PostAnswer := plain 404 "Not Found: Session not found"

/-- The answer to a post outside any session that does not open one. -/
def notOpened : PostAnswer := plain 422 "Unexpected message, expect initialize request"

/-- The answer to a post that holds no message. -/
def unreadable : PostAnswer :=
  plain 415 ("fail to deserialize request body data did not match any variant of untagged enum " ++
    "JsonRpcMessage")

end PostAnswer

/-- A server over HTTP. -/
structure HttpServer where
  service : Service
  /-- The origins that may post. -/
  allowedOrigins : List String
  /-- Whether the server keeps sessions. -/
  stateful : Bool
  /-- The sessions, with how far each has come. -/
  sessions : List (String × Phase)

/-- Whether a byte of a header is a visible character, a space or a tab. -/
def isHeaderText (b : UInt8) : Bool := (0x20 ≤ b && b < 0x7F) || b == 0x09

/-- The text of a header. A header with any other byte has none. -/
def headerText? (value : List UInt8) : Option String :=
  if value.all isHeaderText then some (String.ofList (value.map fun b => Char.ofNat b.toNat))
  else none

/-- The value of a header: what is written without the spaces and tabs around it. -/
def headerValue (written : List UInt8) : List UInt8 :=
  let rest := fun (bytes : List UInt8) => (bytes.dropWhile fun b => b == 0x20 || b == 0x09).reverse
  rest (rest written)

/-- The origins of a list: trimmed, and without those that are blank. -/
def originsOf (texts : List String) : List String :=
  (texts.map Text.trim).filter fun o => o ≠ ""

/-- What a request posts. -/
def Post.ofRequest (r : HttpRequest Json) : Post :=
  ⟨r.origin?, (r.header? "mcp-session-id").bind headerText?, r.content⟩

/-- **The gate before a service.** A request whose origin reads as a text that is not allowed is
turned away, with what the service keeps as it is; every other request is handed to the service. -/
def originGate {ρ σ : Type} (allowed : List String) (origin? : ρ → Option (List UInt8)) (kept : σ)
    (service : ρ → Dialogue (PostAnswer × σ)) (request : ρ) : Dialogue (PostAnswer × σ) :=
  match ((origin? request).bind headerText?).filter fun o => !allowed.contains o with
  | some _ => .done (.forbidden, kept)
  | none => service request

namespace HttpServer

/-- Answers a message without a session. -/
def answerAlone (server : HttpServer) : Message → Dialogue PostAnswer
  | .request id request => (server.service.reply id request).bind fun a => .done (.stream [a])
  | _ => .done .accepted

/-- Opens a session under a name. -/
def openSession (server : HttpServer) (name : String) (m : Message) :
    Dialogue (PostAnswer × HttpServer) :=
  match m with
  | .request _ (.connect _) =>
    (Session.receive server.service .fresh m).bind fun taken =>
      .done
        ({ PostAnswer.stream taken.1.toList with session := some name },
         { server with sessions := Fields.put name taken.2 server.sessions })
  | _ => .done (.notOpened, server)

/-- Leads a message to its session. -/
def inSession (server : HttpServer) (name : String) (m : Message) :
    Dialogue (PostAnswer × HttpServer) :=
  match Fields.get? name server.sessions with
  | none => .done (.unknownSession, server)
  | some phase =>
    (Session.receive server.service phase m).bind fun taken =>
      let sessions :=
        if taken.2 = .broken then Fields.erase name server.sessions
        else Fields.put name taken.2 server.sessions
      let answer :=
        match m with
        | .request _ _ => .stream taken.1.toList
        | _ => .accepted
      .done (answer, { server with sessions := sessions })

/-- Takes a post that has passed the gate. A session that it opens gets the name `fresh`. -/
def deliver (server : HttpServer) (fresh : String) (post : Post) :
    Dialogue (PostAnswer × HttpServer) :=
  match Message.ofJson? post.body with
  | none => .done (.unreadable, server)
  | some m =>
    if server.stateful then
      match post.session with
      | some name => server.inSession name m
      | none => server.openSession fresh m
    else (server.answerAlone m).bind fun a => .done (a, server)

/-- **Takes a post**, behind the gate. -/
def receive (server : HttpServer) (fresh : String) : Post → Dialogue (PostAnswer × HttpServer) :=
  originGate server.allowedOrigins Post.origin server (server.deliver fresh)

/-- **Takes a request.** -/
def handle (server : HttpServer) (fresh : String) (r : HttpRequest Json) :
    Dialogue (PostAnswer × HttpServer) :=
  server.receive fresh (.ofRequest r)

end HttpServer

end CodePager
