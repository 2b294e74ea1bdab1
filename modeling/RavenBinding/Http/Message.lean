import RavenBinding.Http.MediaType
import RavenBinding.Http.Url
import RavenBinding.Text.Charset.Basic

/-!
# Requests and replies

## Main definitions

- `Method`, `Request`: what a session sends
- `Response`, `Reply`: what comes back, a response or a fault of the connection
- `Response.header?`: the value of a header, whose name is compared in lower case
-/

namespace RavenBinding

/-- The methods in use. -/
inductive Method where
  | get
  | put
  | delete
  deriving DecidableEq, Repr

/-- The name of a method. -/
def Method.name : Method → Text
  | get => "GET"
  | put => "PUT"
  | delete => "DELETE"

/-- How long a request may take, in seconds. -/
inductive Timeout where
  | unlimited
  | whole (seconds : Int)
  | fractional (seconds : Binary64)
  deriving DecidableEq, Repr

/-- Headers in order, with names in lower case. -/
abbrev Headers := List (Text × Text)

/-- The value of a header whose name is given in lower case; several headers of one name are joined
with commas. -/
def Headers.get? (headers : Headers) (name : Text) : Option Text :=
  match headers.filter fun h => h.1.toLowerAscii == name with
  | [] => none
  | found => some (Text.join (Text.ofString ", ") (found.map Prod.snd))

/-- A request. -/
structure Request where
  method : Method
  url : Url
  headers : Headers
  body : Bytes
  timeout : Timeout
  deriving DecidableEq, Repr

/-- A response. -/
structure Response where
  status : Nat
  headers : Headers
  body : Bytes
  deriving DecidableEq, Repr

/-- What comes back for a request. -/
inductive Reply where
  | response (r : Response)
  | fault (f : Fault)
  deriving DecidableEq, Repr

namespace Response

/-- The statuses from 400 to 599 report errors. -/
def isError (r : Response) : Bool := 400 ≤ r.status && r.status ≤ 599

/-- The statuses that send a request elsewhere, if a place is named. -/
def isRedirect (r : Response) : Bool := [301, 302, 303, 307, 308].contains r.status

/-- The status of something that is not there. -/
def isNotFound (r : Response) : Bool := r.status = 404

/-- The value of a header, whose name is given in any case. -/
def header? (r : Response) (name : String) : Option Text :=
  Headers.get? r.headers (Text.ofString name).toLowerAscii

/-- The charset that the response names; an unknown one is taken for UTF-8. -/
def charset (r : Response) : Charset :=
  let named := (r.header? "Content-Type").bind MediaType.charset?
  (named.bind Charset.ofName?).getD .utf8

/-- The body as a text. An empty body is an empty text in every charset. -/
def text (r : Response) : Except Fault Text :=
  if r.body.isEmpty then .ok [] else r.charset.decode r.body

end Response

end RavenBinding
