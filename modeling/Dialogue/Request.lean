import Dialogue.Json.Reader
import Dialogue.Json.Record
/-!
# Requests

What a conversation asks of the network: a method, an address, headers and a body that is sent as
JSON. A response is JSON where it reads as JSON, and plain text elsewhere.

## Main definitions

- `Method`, `Method.name`, `Method.ofJson?`
- `Request`
- `Json.ofResponse` — the value of a response
-/

namespace Dialogue

/-- The method of a request. -/
inductive Method where
  | get
  | post
  | put
  | patch
  | delete
  deriving DecidableEq, Repr, Inhabited

namespace Method

/-- The name of a method, in upper case. -/
def name : Method → String
  | .get => "GET"
  | .post => "POST"
  | .put => "PUT"
  | .patch => "PATCH"
  | .delete => "DELETE"

/-- The method that a name in upper or lower case denotes. -/
def ofName? : String → Option Method
  | "GET" | "get" => some .get
  | "POST" | "post" => some .post
  | "PUT" | "put" => some .put
  | "PATCH" | "patch" => some .patch
  | "DELETE" | "delete" => some .delete
  | _ => none

/-- The method that a value names. -/
def ofJson? (j : Json) : Option Method := j.choice?.bind ofName?

end Method

/-- A request, ready to be sent. -/
structure Request where
  url : String
  method : Method
  headers : Keyed String
  body : Option Json
  deriving BEq, Repr, Inhabited

/-- The value of a response. -/
def Json.ofResponse (text : String) : Json := (Json.parse? text).getD (.text text)

end Dialogue
