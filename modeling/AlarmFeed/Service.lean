/-
**Serving the alarm table.**

The service answers requests on its route. A `GET` there is answered by a table, any other method by
status 405, and any other path by 404; a request whose head cannot be read is answered by 400, one that
expects what is not known by 417, and a table that no character set can carry becomes status 500. The
caller's address and method are the context of everything that is logged while it is served.
-/

import AlarmFeed.Credential
import AlarmFeed.Feed
import AlarmFeed.Service.Head
import AlarmFeed.Service.Route

namespace AlarmFeed

/-- A request of a caller. -/
structure WebRequest where
  method : Text := "GET"
  /-- What is asked for: a path with an optional query, or an address. -/
  target : Text := "/api_csv.php"
  headers : List (Text × Text) := []
  /-- The caller's address, if it is known. -/
  remote : Option Text := none

/-- The answer to a caller. -/
structure WebAnswer where
  status : Nat
  contentType : Option Text
  /-- The announced length, if one is announced. -/
  contentLength : Option Nat
  body : Text
  deriving DecidableEq

namespace WebRequest

/-- The head of a request as it travels. -/
def head (request : WebRequest) : Text :=
  let header (name value : Text) : Text := name ++ (": " : Text) ++ value ++ ("\r\n" : Text)
  request.method ++ (" " : Text) ++ request.target ++ (" HTTP/1.1\r\n" : Text)
    ++ request.headers.flatMap (fun (name, value) => header name value) ++ ("\r\n" : Text)

/-- The caller's address; empty if it is not known. -/
def origin (request : WebRequest) : Text :=
  request.remote.getD []

end WebRequest

namespace Head

/-- The value of the first header of a name, in either case; empty if there is none. -/
def header (head : Head) (name : Text) : Text :=
  ((head.headers.find? fun (known, _) => known.lower == name).map Prod.snd).getD []

/-- The token that the caller brings. -/
def bearer (head : Head) : Option Text :=
  Credential.ofHeaders head.headers

end Head

namespace WebAnswer

/-- A plain text. -/
def plain (status : Nat) (message : Text) : WebAnswer :=
  ⟨status, some "text/plain; charset=utf-8", some (Utf8.length message), message⟩

/-- The answer on any other path. -/
def notFound : WebAnswer :=
  plain 404 "404: Not Found"

/-- The answer to a method that is not allowed. -/
def notAllowed : WebAnswer :=
  ⟨405, none, some 0, []⟩

/-- The answer to a head that cannot be read. -/
def malformed (flaw : HeadFlaw) : WebAnswer :=
  plain 400 flaw.message

/-- The answer to an expectation that is not known. -/
def unexpected (expectation : Text) : WebAnswer :=
  plain 417 (("Unknown Expect: " : Text) ++ expectation)

/-- The answer when serving failed, in plain text or as a page. -/
def broken (asPage : Bool) : WebAnswer :=
  let title : Text := "500 Internal Server Error"
  let message : Text := "Server got itself in trouble"
  if asPage then
    let page := ("<html><head><title>" : Text) ++ title ++ ("</title></head><body>\n<h1>" : Text)
      ++ title ++ ("</h1>\n" : Text) ++ message ++ ("\n</body></html>\n" : Text)
    ⟨500, some "text/html; charset=utf-8", some (Utf8.length page), page⟩
  else plain 500 (title ++ ("\n\n" : Text) ++ message)

/-- The answer that carries a table. -/
def ofTable (table : AlarmTable) : WebAnswer :=
  ⟨200, some "text/csv; charset=utf-8", some (Utf8.length table.body), table.body⟩

/-- The same answer to a request for its head alone: without the body, and without the length of a body
that is empty anyway. -/
def headOnly (answer : WebAnswer) : WebAnswer :=
  { answer with
    body := []
    contentLength := if answer.contentLength = some 0 then none else answer.contentLength }

end WebAnswer

/-- A service over a client. -/
structure Service where
  client : Client
  auth : AuthSettings := {}
  route : Route := .exact "/api_csv.php"

namespace Service

/-- The answer that carries a table, if the table can be carried. -/
def answerTable (table : AlarmTable) : Talk WebAnswer := do
  match Charset.utf8.unencodable? table.body with
  | some run => Exchange.fail (.unencodable run)
  | none =>
    Exchange.note .info "csv_response_sent"
      [("ok", .bool table.ok), ("rows", .int table.rowCount),
        ("content_length", .int (Utf8.length table.body))]
    return WebAnswer.ofTable table

/-- Answers a request on the route. -/
def answerHere (service : Service) (origin : Text) (head : Head) : Talk WebAnswer := do
  if head.method ≠ "GET" then
    Exchange.note .info "csv_request_rejected" []
    return WebAnswer.notAllowed
  else
    let token ← Exchange.ofExcept (Credential.resolve head.bearer origin service.auth)
    let feed : Feed Reply Request := { source := service.client.source, token := token }
    let (_, table) ← feed.render origin
    answerTable table

/-- Answers a request whose head has been read. -/
def answerHead (service : Service) (origin : Text) (head : Head) : Talk WebAnswer := do
  let expectation := head.header "expect"
  if expectation ≠ [] ∧ expectation.lower ≠ "100-continue" then
    return WebAnswer.unexpected expectation
  else if service.route.serves head.path then
    let context : Members := [("origin", .text origin), ("method", .text head.method)]
    match ← ((service.answerHere origin head).within context).attempt with
    | .ok answer => return answer
    | .error _ => return WebAnswer.broken (Text.holds "text/html" (head.header "accept"))
  else return WebAnswer.notFound

/-- Answers a request. -/
def answer (service : Service) (request : WebRequest) : Talk WebAnswer := do
  match Head.read request.head with
  | .error flaw => return WebAnswer.malformed flaw
  | .ok head =>
    let full ← service.answerHead request.origin head
    return if head.method = "HEAD" then full.headOnly else full

/-- Answers requests one after another; each outcome has the replies that the next one starts with. -/
def answerAll (service : Service) : List WebRequest → List Reply → List (Outcome Reply Request WebAnswer)
  | [], _ => []
  | request :: requests, replies =>
    let outcome := (service.answer request).run replies
    outcome :: answerAll service requests outcome.rest

/-- Starts to serve under given settings. -/
def start (client : Client) (server : ServerSettings) (auth : AuthSettings) : Talk Service := do
  let route ← Exchange.ofExcept (Route.read server.path)
  Exchange.note .info "csv_server_started"
    [("host", .text server.host), ("port", .int server.portNumber), ("path", .text server.path)]
  return { client := client, auth := auth, route := route }

end Service

end AlarmFeed
