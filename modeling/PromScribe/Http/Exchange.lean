import PromScribe.Http.Message
import PromScribe.Http.Url
import PromScribe.Time.Span

/-!
# Exchanges

A dispatch is a request on its way to an address. What comes back is an arrival, whose body may end
too early, or nothing for one of several causes. The status of an arrival has a standard phrase.
-/

namespace PromScribe.Http

/-- The status codes that have a phrase. -/
def phrases : List (Nat × String) :=
  [(100, "Continue"), (101, "Switching Protocols"), (102, "Processing"), (200, "OK"),
    (201, "Created"), (202, "Accepted"), (203, "Non Authoritative Information"),
    (204, "No Content"), (205, "Reset Content"), (206, "Partial Content"), (207, "Multi-Status"),
    (208, "Already Reported"), (226, "IM Used"), (300, "Multiple Choices"),
    (301, "Moved Permanently"), (302, "Found"), (303, "See Other"), (304, "Not Modified"),
    (305, "Use Proxy"), (307, "Temporary Redirect"), (308, "Permanent Redirect"),
    (400, "Bad Request"), (401, "Unauthorized"), (402, "Payment Required"), (403, "Forbidden"),
    (404, "Not Found"), (405, "Method Not Allowed"), (406, "Not Acceptable"),
    (407, "Proxy Authentication Required"), (408, "Request Timeout"), (409, "Conflict"),
    (410, "Gone"), (411, "Length Required"), (412, "Precondition Failed"),
    (413, "Payload Too Large"), (414, "URI Too Long"), (415, "Unsupported Media Type"),
    (416, "Range Not Satisfiable"), (417, "Expectation Failed"), (418, "I'm a teapot"),
    (421, "Misdirected Request"), (422, "Unprocessable Entity"), (423, "Locked"),
    (424, "Failed Dependency"), (426, "Upgrade Required"), (428, "Precondition Required"),
    (429, "Too Many Requests"), (431, "Request Header Fields Too Large"),
    (451, "Unavailable For Legal Reasons"), (500, "Internal Server Error"),
    (501, "Not Implemented"), (502, "Bad Gateway"), (503, "Service Unavailable"),
    (504, "Gateway Timeout"), (505, "HTTP Version Not Supported"),
    (506, "Variant Also Negotiates"), (507, "Insufficient Storage"), (508, "Loop Detected"),
    (510, "Not Extended"), (511, "Network Authentication Required")]

/-- The code with its phrase. -/
def statusText (code : Nat) : String :=
  toString code ++ " " ++ (phrases.lookup code).getD "<unknown status code>"

/-- The code tells that the request was answered as asked. -/
def isSuccess (code : Nat) : Bool :=
  200 ≤ code && code < 300

/-- Answers with the code have a body. -/
def hasBody (code : Nat) : Bool :=
  200 ≤ code && code != 204 && code != 304

/-- A request on its way. Header names are in small letters. -/
structure Dispatch where
  method : String
  url : Url
  /-- It is sent through a host in between. -/
  proxied : Bool
  headers : List (String × String)
  body : String
  /-- How long an answer is waited for. -/
  limit : Option TimeSpan
deriving DecidableEq, Repr

/-- The request as it is received. -/
def Dispatch.request (dispatch : Dispatch) : Request where
  method := dispatch.method
  target := if dispatch.proxied then dispatch.url.absoluteTarget else dispatch.url.target
  headers := dispatch.headers
  body := dispatch.body

/-- Why nothing of use came back. -/
inductive TransportFault where
  /-- There is no such address. -/
  | address (fault : UrlFault)
  /-- A header has a value that cannot be written. -/
  | header
  | unreachable (url : Url)
  | closed (url : Url)
  | overdue (url : Url)
  /-- The body ends too early. -/
  | cutShort
  /-- The body is not what was asked for. -/
  | undecodable
deriving DecidableEq, Repr

namespace TransportFault

/-- The wording for a header value that cannot be written. -/
def headerWording : String := "failed to parse header value"

/-- The causes behind the fault, the nearest one first, as far as their wording is fixed. -/
def causes : TransportFault → List String
  | .address fault => [fault.message]
  | .header => [headerWording]
  | .unreachable _ => ["error trying to connect"]
  | .closed _ => ["connection closed before message completed"]
  | .overdue _ => ["operation timed out"]
  | .cutShort =>
      ["error reading a body from connection: end of file before message length reached",
        "end of file before message length reached"]
  | .undecodable => []

/-- What failed, without the cause. -/
def stage : TransportFault → String
  | .address (.unfit text) => "builder error for url (" ++ text ++ ")"
  | .address _ => "builder error"
  | .header => "builder error"
  | .unreachable url => "error sending request for url (" ++ url.text ++ ")"
  | .closed url => "error sending request for url (" ++ url.text ++ ")"
  | .overdue url => "error sending request for url (" ++ url.text ++ ")"
  | .cutShort => "request or response body error"
  | .undecodable => "error decoding response body"

/-- The wording of the fault: what failed, and the nearest cause. -/
def message (fault : TransportFault) : String :=
  match fault.causes with
  | [] => fault.stage
  | cause :: _ => fault.stage ++ ": " ++ cause

end TransportFault

/-- An answer as it arrives. -/
structure Arrival where
  status : Nat
  body : String
  /-- The body did not end too early. -/
  complete : Bool
deriving DecidableEq, Repr

namespace Arrival

/-- The body, if it is complete. -/
def whole (arrival : Arrival) : Except TransportFault String :=
  if arrival.complete then .ok arrival.body else .error .cutShort

/-- The complete body as text, without a byte order mark. -/
def text (arrival : Arrival) : Except TransportFault String :=
  arrival.whole.map fun body =>
    match body.toList with
    | '\ufeff' :: rest => String.ofList rest
    | _ => body

end Arrival

/-- What came of a dispatch. -/
abbrev Delivery := Except TransportFault Arrival

/-- What is sent, and what its delivery means. A request that cannot be made is not sent. -/
structure Enquiry (ε α : Type) where
  dispatch : Except ε Dispatch
  meaning : Delivery → Except ε α

end PromScribe.Http
