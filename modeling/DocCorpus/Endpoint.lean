/-
  Answers to web requests. A request is answered at once, or by rendering the collection, which is
  then read once; who may read the export is settled before anything else about its address.
-/
import DocCorpus.Site
import DocCorpus.Text.Percent

namespace DocCorpus

structure Request where
  /-- The path, with the query and the fragment if there are any. -/
  path : String
  method : String
  /-- The bytes of the header that authorizes the request. -/
  authorization : Option ByteArray

structure Response where
  status : Nat
  contentType : Option String
  /-- The methods that are allowed, where that is the answer. -/
  allow : Option String
  body : String

namespace Response

def plainText : String := "text/plain; charset=utf-8"

def plain (status : Nat) (body : String) : Response := ⟨status, some plainText, none, body⟩

def json (body : String) : Response := ⟨200, some "application/json", none, body⟩

def notFound : Response := plain 404 "Not Found"

def unauthorized : Response := plain 401 "Unauthorized"

/-- The answer to a path that leads nowhere. -/
def unknownPath : Response := ⟨404, none, none, ""⟩

def wrongMethod : Response := ⟨405, none, none, ""⟩

/-- The response to a method that is not served, which names those that are. -/
def naming (r : Response) : Response := { r with allow := some "GET,HEAD" }

def badFileName : Response := plain 400 "Invalid URL: Invalid UTF-8 in \x60file\x60"

def failed (failure : Failure) : Response := plain 500 failure.message

def withoutBody (r : Response) : Response := { r with body := "" }

end Response

/-- How a request is answered. -/
inductive Answer
  | ready (response : Response)
  /-- The answer takes one reading of the collection. -/
  | rendered (render : List Document → Except Failure Response)

namespace Answer

/-- How often the collection is read for an answer. -/
def reads : Answer → Nat
  | .ready _ => 0
  | .rendered _ => 1

/-- The response over a collection, which may fail to be read. -/
def respond (collection : Except Failure (List Document)) : Answer → Response
  | .ready response => response
  | .rendered render =>
    match collection >>= render with
    | .ok response => response
    | .error failure => .failed failure

end Answer

namespace Endpoint

/-- What a path leads to. -/
inductive Route
  | export
  | index
  | full
  | small
  /-- A file of the directory of set files, by its encoded name. -/
  | setFile (name : List Char)

/-- The path of a request without its query and its fragment. -/
def pathOf (r : Request) : List Char := Text.before (fun c => c == '?' || c == '#') r.path.toList

def setPathStart : List Char := ("/" ++ LlmsText.setDirectory ++ "/").toList

def route? (path : List Char) : Option Route :=
  if path = "/api/docs.json".toList then some .export
  else if path = ("/" ++ LlmsText.indexName).toList then some .index
  else if path = ("/" ++ LlmsText.fullName).toList then some .full
  else if path = ("/" ++ LlmsText.smallName).toList then some .small
  else
    match Text.dropHead? setPathStart path with
    | some name => if name ≠ [] ∧ '/' ∉ name then some (.setFile name) else none
    | none => none

/-- Whether a byte stands for a visible character, a space or a tab. -/
def isVisible (b : UInt8) : Bool := b == 9 || (0x20 ≤ b && b < 0x7f)

/-- The text of a header that holds nothing but visible characters, spaces and tabs; any other
counts as absent. -/
def visibleHeader? (header : Option ByteArray) : Option String :=
  header.bind fun bytes => if bytes.toList.all isVisible then String.fromUTF8? bytes else none

/-- The answer with the file of a set. -/
def setFileAnswer (site : Site) (name : List Char) : Answer :=
  match Percent.decode? name with
  | none => .ready .badFileName
  | some name =>
    match Text.dropTail? ".txt".toList name with
    | none => .ready .notFound
    | some slug =>
      .rendered fun documents =>
        match site.setText? documents (String.ofList slug) with
        | some text => .ok (.plain 200 text)
        | none => .ok .notFound

/-- The answer to a request to read what a route leads to. -/
def content (site : Site) : Route → Answer
  | .export => .rendered fun documents => (Export.serialize documents).map .json
  | .index => .rendered fun documents => .ok (.plain 200 (site.indexText documents))
  | .full => .rendered fun documents => .ok (.plain 200 (site.fullText documents))
  | .small => .rendered fun documents => .ok (.plain 200 (site.smallText documents))
  | .setFile name => setFileAnswer site name

/-- Whether a request may go on to a route. -/
def admits (site : Site) (r : Request) : Route → Bool
  | .export => site.policy.allows (visibleHeader? r.authorization)
  | _ => true

/-- Whether a method asks to read. -/
def isReading (method : String) : Bool := method == "GET" || method == "HEAD"

/-- The answer to a request that leads to a route, or nowhere. -/
def routed (site : Site) (r : Request) : Option Route → Answer
  | none => .ready .unknownPath
  | some route =>
    match admits site r route, isReading r.method with
    | true, true => content site route
    | false, true => .ready .unauthorized
    | true, false => .ready Response.wrongMethod.naming
    | false, false => .ready Response.unauthorized.naming

def answer (site : Site) (r : Request) : Answer := routed site r (route? (pathOf r))

/-- The response to a request over a collection; a request for the head alone gets no body. -/
def respond (site : Site) (collection : Except Failure (List Document)) (r : Request) : Response :=
  let response := (answer site r).respond collection
  if r.method = "HEAD" then response.withoutBody else response

/-- What is checked before requests are answered: the collection can be read and its sidebar
holds. Gives the number of documents. -/
def preflight (site : Site) (collection : Except Failure (List Document)) : Except Failure Nat := do
  let documents ← collection
  let _ ← site.navigation documents
  return documents.length

end Endpoint
end DocCorpus
