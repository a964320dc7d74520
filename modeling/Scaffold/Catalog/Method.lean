import Scaffold.Registry
import Scaffold.Text.Letters

/-!
# HTTP methods

The four methods of the API. GET and DELETE carry query parameters, POST and PUT a body.
-/

namespace Scaffold

/-- An HTTP method. -/
inductive HttpMethod where
  | get
  | post
  | put
  | delete
  deriving DecidableEq, Repr

instance : Registry HttpMethod where
  all := [.get, .post, .put, .delete]
  name
    | .get => "GET"
    | .post => "POST"
    | .put => "PUT"
    | .delete => "DELETE"

namespace HttpMethod

/-- The lower-case form, by which routers name their registration functions. -/
def verb : HttpMethod → String
  | get => "get"
  | post => "post"
  | put => "put"
  | delete => "delete"

/-- The name of the decorator that registers a controller method. -/
def decorator : HttpMethod → String
  | get => "Get"
  | post => "Post"
  | put => "Put"
  | delete => "Delete"

/-- Whether the method carries query parameters rather than a body. -/
def usesQuery : HttpMethod → Bool
  | get | delete => true
  | post | put => false

/-- Reads a method in any letter case. -/
def read? (s : String) : Option HttpMethod := Registry.find? (Text.upper s)

end HttpMethod

end Scaffold
