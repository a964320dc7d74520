import Scaffold.Registry

/-!
# Commands

What the generator can be asked for by name.
-/

namespace Scaffold

/-- A command. -/
inductive Command where
  | client
  | proxyClient
  | routes
  | types
  | listEndpoints
  deriving DecidableEq, Repr

instance : Registry Command where
  all := [.client, .proxyClient, .routes, .types, .listEndpoints]
  name
    | .client => "generate_client"
    | .proxyClient => "generate_proxy_client"
    | .routes => "generate_routes"
    | .types => "generate_types"
    | .listEndpoints => "list_endpoints"

/-- What a command does, in one sentence. -/
def Command.description : Command → String
  | .client => "Generate a TypeScript client that calls the scheduling API directly"
  | .proxyClient => "Generate a browser client that calls the generated route handlers"
  | .routes => "Generate route handlers for nextjs, express, fastify or nestjs"
  | .types => "Generate the domain types module imported by the clients"
  | .listEndpoints => "List every endpoint in the catalog"

end Scaffold
