import AddressBinder.Program
import AddressBinder.Http.Status
import AddressBinder.Http.Url
/-!
# HTTP exchanges

A client's request and the site's answer, and sites that live in memory.  A request fails without being seen when a
header holds a control character or nobody serves the site; it fails after being seen when the site drops it or its
response has no proper status.
-/
namespace AddressBinder
namespace Http

inductive Method where
  | get
  | put
deriving DecidableEq, Inhabited

def Method.name : Method → String
  | .get => "GET"
  | .put => "PUT"

/-- The headers this library sends. -/
inductive Header where
  | token
  /-- The lifetime, in seconds, of the session token that is asked for. -/
  | tokenLifetime
  | accept
deriving DecidableEq, Inhabited

def Header.name : Header → String
  | .token => "X-aws-ec2-metadata-token"
  | .tokenLifetime => "X-aws-ec2-metadata-token-ttl-seconds"
  | .accept => "Accept"

/-- A request as a client makes it. -/
structure Request where
  method : Method
  url : String
  headers : List (Header × String)
deriving DecidableEq, Inhabited

/-- A response as a client reads it. -/
structure Response where
  status : Nat
  body : String
deriving DecidableEq, Inhabited

/-- The requests of an HTTP client; a request that fails is answered with what the transport says about it. -/
def client : Signature := ⟨Request, fun _ => Except String Response⟩

/-! ## Sites in memory -/

/-- What a site does with a request. -/
inductive Answer where
  | respond (response : Response)
  /-- The connection ends before a response. -/
  | drop
deriving DecidableEq, Inhabited

/-- The answer for a path without one of its own. -/
def Answer.notFound : Answer := .respond ⟨404, ""⟩

/-- A request as a site sees it. -/
structure Seen where
  method : Method
  target : String
  headers : List (Header × String)
deriving DecidableEq, Inhabited

/-- A site: its answers by request target, the answer to every other target, and what it has seen. -/
structure Site where
  base : String
  answers : List (String × Answer)
  otherwise : Answer
  seen : List Seen
deriving DecidableEq, Inhabited

/-- Whether a header can have the value: no control characters but the tab. -/
def isHeaderValue (s : String) : Bool :=
  s.toList.all (fun c => (0x20 ≤ c.toNat && c.toNat != 0x7f) || c = '\t')

/-- The body as a client reads it: without one byte-order mark at its start. -/
def readBody (body : String) : String :=
  match body.toList with
  | c :: cs => if c.toNat = 0xfeff then String.ofList cs else body
  | [] => body

/-- The answer of a site to a target. -/
def Site.answer (s : Site) (target : String) : Answer := (s.answers.lookup target).getD s.otherwise

/-- What the transport to sites in memory says about a request that brings no response. -/
def noResponse : String := "no response"

/-- What the client gets from an answer; it cannot read a response whose status is none. -/
def Answer.received : Answer → Except String Response
  | .respond r => if isStatus r.status then .ok ⟨r.status, readBody r.body⟩ else .error noResponse
  | .drop => .error noResponse

/-- Sends a request to the sites: the one with the target's base sees and answers it. -/
def exchange (request : Request) (target : Target) : List Site → Except String Response × List Site
  | [] => (.error noResponse, [])
  | s :: sites =>
    if s.base.toList = target.site then
      let line := String.ofList target.line
      ((s.answer line).received,
        { s with seen := s.seen ++ [⟨request.method, line, request.headers⟩] } :: sites)
    else
      let r := exchange request target sites
      (r.1, s :: r.2)

def serve (request : Request) (sites : List Site) : Except String Response × List Site :=
  if request.headers.all (fun h => isHeaderValue h.2) then
    match Target.ofUrl request.url.toList with
    | none => (.error noResponse, sites)
    | some target => exchange request target sites
  else (.error noResponse, sites)

end Http
end AddressBinder
