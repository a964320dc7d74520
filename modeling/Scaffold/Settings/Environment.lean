import Scaffold.Registry
import Scaffold.Text.Letters

/-!
# Target environments

The deployments of the API that a client can be generated for, and where each is reached.
-/

namespace Scaffold

/-- A deployment of the API. -/
inductive Environment where
  | production
  | staging
  | development
  deriving DecidableEq, Repr

instance : Registry Environment where
  all := [.production, .staging, .development]
  name
    | .production => "production"
    | .staging => "staging"
    | .development => "development"

namespace Environment

/-- The environment of a client for which none is chosen. -/
instance : Inhabited Environment := ⟨production⟩

/-- The base URL that clients have unless another one is configured. -/
def defaultBaseUrl : Environment → String
  | production => "https://api.schedulingapi.com/v1"
  | staging => "https://staging-api.schedulingapi.com/v1"
  | development => "https://sandbox.schedulingapi.com/v1"

/-- Reads an environment in any letter case. -/
def read? (s : String) : Option Environment := Registry.find? (Text.lower s)

end Environment

/-- The variable from which a generated client takes its base URL at run time. -/
def baseUrlVariable : String := "SCHEDULING_API_URL"

/-- The variable from which generated handlers take the API key at run time. -/
def apiKeyVariable : String := "SCHEDULING_API_KEY"

/-- The variable that replaces the base URL of the development environment at generation time. -/
def developmentUrlVariable : String := "SCHEDULING_API_DEV_URL"

end Scaffold
