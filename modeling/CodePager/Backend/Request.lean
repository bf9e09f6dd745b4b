import CodePager.Backend.Params
import CodePager.Backend.Route
import CodePager.Config
import CodePager.Net.Authority
import CodePager.Text.FormEncoding

/-! # Requests and replies

A request to the backend: a route with parameters, sent as a query or as a form. It is one call of
an HTTP client, and a `Reply` is what that call comes to: an answer with its status and bytes, or
one of the ways in which the client can fail. Redirects that the client follows on its own belong to
the call, and so does the time that it waits. -/

namespace CodePager

/-- How a request is sent: with its parameters as the query of a `GET`, or as the form of a
`POST`. -/
inductive Verb where
  | get
  | post
  deriving DecidableEq

/-- A request to the backend. -/
structure Request where
  verb : Verb
  route : Route
  params : Params
  deriving DecidableEq

/-- What **one call of the HTTP client** comes to. The answer is the last one if the client has been
redirected, and a call that takes too long has failed like one without a connection. -/
inductive Reply where
  /-- A complete answer. -/
  | answer (status : Nat) (body : List UInt8)
  /-- No connection, or one that closed or kept silent before it gave an answer. -/
  | unreachable
  /-- A connection that closed or kept silent in the middle of the body. -/
  | cutShort
  /-- Any other failure of the client, in its words, such as redirects that lead nowhere. -/
  | gaveUp (detail : String)
  deriving DecidableEq

/-- The parameters of a request as a form writes them. -/
def Request.form (r : Request) : String := Text.formPairs r.params.pairs

/-- The path of a request and, for a query that is not empty, a question mark and the query. -/
def Request.target (r : Request) : String :=
  "/" ++ r.route.path ++
    (if r.verb = .get ∧ !r.params.isEmpty then "?" ++ r.form else "")

/-- Whether the backend has an address that a request can be sent to. -/
def BackendConfig.isAddressable (c : BackendConfig) : Bool :=
  Net.isAuthority (c.host ++ ":" ++ toString c.port)

/-- The address of the backend in its usual form: the host in lower case, without the port that
HTTP uses anyway. -/
def BackendConfig.origin (c : BackendConfig) : String :=
  "http://" ++ String.ofList (c.host.toList.map Char.toLower) ++
    (if c.port == 80 then "" else ":" ++ toString c.port)

/-- The full address of a request. -/
def Request.url (r : Request) (c : BackendConfig) : String := c.origin ++ r.target

end CodePager
