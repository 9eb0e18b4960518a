import CanonicalLR.Json.Encoding
import CanonicalLR.Json.Reader
import CanonicalLR.Service.Location
import CanonicalLR.Text.Capital

/-! # Requests to the service

A request has a method, a target, a content type and a body. The body counts as JSON if the content
type says so: `application/json`, or `application/` with an ending `+json`. Case and parameters of the
content type do not matter. A request can be sent if its target has a well-formed authority and its
content type is one line; `location` says where it goes.
-/
namespace CanonicalLR

structure Request where
  method : String
  target : String
  contentType : Option String
  body : String

inductive RequestError where
  | target (e : AuthorityError)
  | brokenHeader
deriving DecidableEq

def RequestError.message : RequestError → String
  | target e => e.message
  | brokenHeader => "Header values must not contain newline characters."

namespace Request

def isMargin (c : Char) : Bool := c == ' ' || c == '\t'

def trimMargin (cs : List Char) : List Char :=
  ((cs.dropWhile isMargin).reverse.dropWhile isMargin).reverse

def isJsonType (contentType : String) : Bool :=
  let mediaType := (trimMargin (contentType.toList.takeWhile (· ≠ ';'))).map Char.toLower
  mediaType = "application/json".toList ||
    "application/".toList.isPrefixOf mediaType && "+json".toList.isSuffixOf mediaType

def isBroken (header : String) : Bool := header.toList.any fun c => c == '\r' || c == '\n'

def location (r : Request) : Except RequestError Location := do
  let location ← (Location.ofTarget r.target).mapError .target
  if r.contentType.any isBroken then throw .brokenHeader
  location.checkHost.mapError .target
  return location

/-- The members of the JSON object in the body, if there is one. -/
def members? (r : Request) : Option (List (String × Json)) :=
  if r.contentType.any isJsonType then
    match (Json.decoded? r.body).bind Json.read? with
    | some (.object members) => some members
    | _ => none
  else none

end Request

end CanonicalLR
