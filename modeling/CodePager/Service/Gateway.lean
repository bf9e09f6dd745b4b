import CodePager.Backend.Envelope
import CodePager.Backend.Payload
import CodePager.Backend.Status
import CodePager.Service.Dialogue
import CodePager.Text.Decoding

/-! # Talking to the backend

Fetching a payload, submitting a change, and fetching a result that the backend answers page by
page. Each request is one call of the HTTP client and is made once; redirects are followed within
it (`Reply`). `readReply` turns a reply into a payload or a failure, `fetchAll` asks for a result in
one page and, if the backend answers with less, for the pages that follow. -/

namespace CodePager.Gateway

/-- The page size that asks for a whole result at once. -/
def fullPageSize : Int := 0x7FFFFFFF

/-- The failure of a request that found no connection. -/
def unreachable (url : String) : Failure :=
  .transport ("error sending request for url (" ++ url ++ ")")

/-- The failure of a reply that ended early. -/
def cutShort : Failure := .transport "error decoding response body"

/-- What the backend says about an error status: the error that it reports, its text, its value, or
the standard phrase. -/
def errorText (status : Nat) (payload : Payload) : String :=
  match payload.error?, payload with
  | some message, _ => message
  | none, .json v => v.compact
  | none, .text body =>
    if body ≠ "" then body else (reasonPhrase? status).getD "no response body"

/-- The payload of a complete answer. An error status is a failure, and so is an error that is
reported with a success. -/
def readAnswer (status : Nat) (body : List UInt8) : Except Failure Payload :=
  let payload := Payload.ofBody (Text.decodeText body)
  if isSuccess status then
    match payload.error? with
    | some message => .error (.backend none message)
    | none => .ok payload
  else .error (.backend (some status) (errorText status payload))

/-- The **payload of a reply** to a request that was sent to `url`. -/
def readReply (url : String) : Reply → Except Failure Payload
  | .answer status body => readAnswer status body
  | .unreachable => .error (unreachable url)
  | .cutShort => .error cutShort
  | .gaveUp detail => .error (.unexpected detail)

/-- Sends one request: a **single call of the HTTP client**, which is not made again whatever it
comes to. A backend without a usable address is sent nothing. -/
def request (backend : BackendConfig) (verb : Verb) (route : Route) (params : Params) :
    Attempt Payload := do
  let r : Request := ⟨verb, route, params⟩
  if !backend.isAddressable then throw (.unexpected "builder error")
  let reply ← ExceptT.lift (Dialogue.send r)
  Attempt.ofExcept (readReply (r.url backend) reply)

/-- Asks for a payload. -/
def fetch (backend : BackendConfig) (route : Route) (params : Params) : Attempt Payload :=
  request backend .get route params

/-- Submits a change. -/
def submit (backend : BackendConfig) (route : Route) (params : Params) : Attempt Payload :=
  request backend .post route params

/-- The envelope of a payload. -/
def envelope? : Payload → Option Envelope
  | .json body => Envelope.find? body
  | .text _ => none

/-- The number that a 64-bit word stands for when its first bit is a sign. -/
def signedWord (n : Nat) : Int := (Int64.ofNat n).toInt

/-- The page size that the pages behind the first are asked for with: the one that the backend
reported, or the full one. -/
def followUpPageSize (pageSize : Option Nat) : Int :=
  match pageSize with
  | some n => signedWord n
  | none => fullPageSize

/-- Fetches the next `count` pages, `page` first, and gives the items of all of them behind those of
the pages before. Every page must be an envelope. -/
def fetchPages (backend : BackendConfig) (route : Route) (params : Params) :
    Nat → Nat → List Json → Attempt (List Json)
  | 0, _, items => pure items
  | count + 1, page, items => do
    let payload ← fetch backend route (params.set "page_index" (toString page))
    match envelope? payload with
    | some e => fetchPages backend route params count (page + 1) (items ++ e.items)
    | none =>
      throw (.unexpected ("page " ++ toString page ++ " of " ++ route.path ++ " is not paged"))

/-- Fetches a **whole result**. A route that answers page by page is asked for everything in one
page; if pages follow nevertheless, they are fetched in order and joined, and the joined result
stands for the body. -/
def fetchAll (backend : BackendConfig) (route : Route) (params : Params) : Attempt Payload :=
  match route.paging with
  | none => fetch backend route params
  | some unit => do
    let params := (params.setNum "page_index" 1).setNum "page_size" fullPageSize
    let payload ← fetch backend route params
    match envelope? payload with
    | none => pure payload
    | some first =>
      let followUp := params.setNum "page_size" (followUpPageSize first.pageSize)
      let items ← fetchPages backend route followUp (first.totalPages - first.currentPage)
        (first.currentPage + 1) first.items
      pure (.json (assemble unit items))

/-- Asks the backend how it is. -/
def health (backend : BackendConfig) : Attempt Payload := fetch backend .health .empty

end CodePager.Gateway
