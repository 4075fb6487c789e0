import HybridSearch.Embedding.Gateway
import HybridSearch.Json.Reader
import HybridSearch.Url.Reader

/-!
# Remote models

A remote model is asked for the vector of a text by a request that carries the text. The vector
stands in the response under `embedding`, or in the first of its `data`.

## Main definitions

* `Remote.Request`, `Remote.Response`, `Remote.Transport` — what is exchanged and how.
* `Remote.prepared` — the request as it is sent, or why it cannot be.
* `Remote.embedding` — the vector of a response.
* `Remote.embed`, `Model.remote`, `ModelSource` — the model behind an address.
-/

namespace HybridSearch

namespace Remote

structure Request where
  url : Url
  /-- The key that the request is authorised by. -/
  bearer : Option String
  body : Json

structure Response where
  status : Nat
  body : Bytes

/-- The way of a request to its response, or what went wrong. -/
abbrev Transport := Request → Except String Response

/-- The phrases that belong to the numbers of the statuses. -/
def reasons : List (Nat × String) :=
  [(100, "Continue"), (101, "Switching Protocols"), (102, "Processing"), (200, "OK"),
   (201, "Created"), (202, "Accepted"), (203, "Non Authoritative Information"),
   (204, "No Content"), (205, "Reset Content"), (206, "Partial Content"), (207, "Multi-Status"),
   (208, "Already Reported"), (226, "IM Used"), (300, "Multiple Choices"),
   (301, "Moved Permanently"), (302, "Found"), (303, "See Other"), (304, "Not Modified"),
   (305, "Use Proxy"), (307, "Temporary Redirect"), (308, "Permanent Redirect"),
   (400, "Bad Request"), (401, "Unauthorized"), (402, "Payment Required"), (403, "Forbidden"),
   (404, "Not Found"), (405, "Method Not Allowed"), (406, "Not Acceptable"),
   (407, "Proxy Authentication Required"), (408, "Request Timeout"), (409, "Conflict"),
   (410, "Gone"), (411, "Length Required"), (412, "Precondition Failed"),
   (413, "Payload Too Large"), (414, "URI Too Long"), (415, "Unsupported Media Type"),
   (416, "Range Not Satisfiable"), (417, "Expectation Failed"), (418, "I\x27m a teapot"),
   (421, "Misdirected Request"), (422, "Unprocessable Entity"), (423, "Locked"),
   (424, "Failed Dependency"), (425, "Too Early"), (426, "Upgrade Required"),
   (428, "Precondition Required"), (429, "Too Many Requests"),
   (431, "Request Header Fields Too Large"), (451, "Unavailable For Legal Reasons"),
   (500, "Internal Server Error"), (501, "Not Implemented"), (502, "Bad Gateway"),
   (503, "Service Unavailable"), (504, "Gateway Timeout"), (505, "HTTP Version Not Supported"),
   (506, "Variant Also Negotiates"), (507, "Insufficient Storage"), (508, "Loop Detected"),
   (510, "Not Extended"), (511, "Network Authentication Required")]

def statusText (status : Nat) : String :=
  toString status ++ " " ++ (reasons.lookup status).getD "<unknown status code>"

def isSuccess (status : Nat) : Bool := 200 ≤ status && status < 300

/-- Whether a character can be part of a header. -/
def isHeaderChar (c : Char) : Bool := c = '\t' || (' ' ≤ c && c ≠ '\x7f')

/-- The first item of the data of a response, which may also be a member with that number. -/
def firstData? (body : Json) : Option Json :=
  match body.member? "data" with
  | some (.arr items) => items.head?
  | some other => other.member? "0"
  | none => none

def component? (value : Json) : Except String Single :=
  match value with
  | .num number => .ok (.ofFloat number.toFloat)
  | other => .error ("non-numeric component " ++ other.compact)

/-- The vector of the body of a response. -/
def embedding (body : Json) : Except String Embedding :=
  let found := (body.member? "embedding").or ((firstData? body).bind (·.member? "embedding"))
  match found.bind Json.arr? with
  | some items => items.mapM component?
  | none => .error "response carries no embedding"

def ofResponse (response : Response) : Except String Embedding := do
  if !isSuccess response.status then
    throw ("embedding endpoint returned " ++ statusText response.status)
  match (Text.decode? response.body).bind Json.parse? with
  | some body => embedding body
  | none => throw "error decoding response body"

/-- The most bytes of a URL that a request is sent to. -/
def urlLimit : Nat := 65534

/-- Whether a request can be sent to a URL. Some characters that a domain name may have are not
known to the web. -/
def isSendable (url : Url) : Bool :=
  url.isWeb && url.text.utf8ByteSize ≤ urlLimit &&
    !((url.authority.elim [] Authority.hostText).any ['"', '\x60', '\x7b', '\x7d'].contains)

/-- The request with a URL that names no user, or why it cannot be made: the URL must name a host,
and the key must fit into a header. -/
def prepared (request : Request) : Except String Request := do
  let refused (url : Url) : String := "builder error for url (" ++ url.text ++ ")"
  if !request.url.hasHost then throw (refused request.url)
  if (request.bearer.getD "").toList.any fun c => !isHeaderChar c then throw "builder error"
  let url := request.url.withoutUser
  if !isSendable url then throw (refused url)
  return { request with url }

def exchange (transport : Transport) (request : Request) : Except String Embedding := do
  ofResponse (← transport (← prepared request))

def embed (transport : Transport) (url : Url) (key : Option String) (text : String) :
    Except SearchError Embedding :=
  (exchange transport ⟨url, key, .object [("input", .str text)]⟩).mapError .embeddingUnavailable

end Remote

def Model.remote (transport : Remote.Transport) (url : Url) (key : Option String)
    (dimensions : Nat) : Model :=
  ⟨dimensions, Remote.embed transport url key⟩

/-- Where the model of a gateway comes from. -/
inductive ModelSource where
  | trigram (dimensions : Nat)
  | remote (address : String) (key : Option String) (dimensions : Nat)
  deriving DecidableEq, Repr

/-- The model behind an address, if the text is one. -/
def Remote.model? (transport : Remote.Transport) (address : String) (key : Option String)
    (dimensions : Nat) : Except SearchError Model :=
  match Url.parse? address with
  | .ok url => .ok (.remote transport url key dimensions)
  | .error cause => .error (.badUrl cause.message)

def ModelSource.load (transport : Remote.Transport) : ModelSource → Except SearchError Model
  | trigram dimensions => .ok (.trigram dimensions)
  | remote address key dimensions => Remote.model? transport address key dimensions

end HybridSearch
