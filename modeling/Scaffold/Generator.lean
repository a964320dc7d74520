import Scaffold.Artifact
import Scaffold.Catalog.Builtin
import Scaffold.Client.Module
import Scaffold.Error
import Scaffold.Route.Handlers
import Scaffold.Settings.Options
import Scaffold.Url.Parse

/-!
# The generator

A generator is a catalog together with the URL that replaces that of the development environment,
if there is one. `run` answers a command with an artifact or with the listing of the catalog.
-/

namespace Scaffold

/-- The base URL of a client: the one of its environment, which a text that is not blank replaces
if the environment is that of development. -/
def Environment.baseUrl (e : Environment) (replacement : Option String) :
    Except ArgumentError String :=
  match e, (replacement.map Text.trim).filter (· != "") with
  | .development, some text =>
    match Url.parse text with
    | .ok url => .ok url.baseText
    | .error err => .error (.developmentUrl text err)
  | _, _ => .ok e.defaultBaseUrl

/-- What a command answers. -/
inductive Output where
  | artifact (a : Artifact)
  | endpoints (rows : List EndpointSummary)

/-- A catalog, and what replaces the URL of the development environment. -/
structure Generator where
  catalog : Catalog
  developmentUrl : Option String := none

namespace Generator

/-- The generator for the built-in catalog. -/
def builtin : Generator := { catalog := .builtin }

/-- The operation called `name`. -/
def endpoint (g : Generator) (name : String) : Except Error Endpoint :=
  match g.catalog.get? name with
  | some e => .ok e
  | none => .error (.unknownOperation name)

/-- The base URL of a client for an environment. -/
def baseUrl (g : Generator) (e : Environment) : Except Error String :=
  (e.baseUrl g.developmentUrl).mapError .argument

/-- The direct client. -/
def client (g : Generator) (o : Options) : Except Error Artifact := do
  let environment ← o.readEnvironment.mapError .argument
  let url ← g.baseUrl environment
  let content ← (Client.direct g.catalog environment url o.typesPath).mapError .template
  return .single "scheduling-client.ts" content

/-- The proxy client. -/
def proxyClient (g : Generator) (o : Options) : Except Error Artifact := do
  let content ← (Client.proxy g.catalog o.typesPath).mapError .template
  return .single "scheduling-proxy.ts" content

/-- The route handlers of a framework. -/
def routes (g : Generator) (o : Options) : Except Error Artifact := do
  let framework ← o.readFramework.mapError .argument
  let path := o.clientImportPath.getD framework.clientImportPath
  (Route.handlers g.catalog framework path).mapError .template

/-- The module of domain types. -/
def types (g : Generator) : Except Error Artifact := do
  let content ← (Client.types g.catalog).mapError .template
  return .single "types.ts" content

/-- The answer to a command. -/
def run (g : Generator) (c : Command) (o : Options) : Except Error Output :=
  match c with
  | .client => (g.client o).map .artifact
  | .proxyClient => (g.proxyClient o).map .artifact
  | .routes => (g.routes o).map .artifact
  | .types => g.types.map .artifact
  | .listEndpoints => .ok (.endpoints g.catalog.summaries)

/-- The command called `name`. -/
def readCommand (name : String) : Except Error Command :=
  match (Registry.find? name : Option Command) with
  | some c => .ok c
  | none => .error (.argument (.unknownCommand name))

/-- The answer to the command called `name`. -/
def dispatch (g : Generator) (name : String) (o : Options) : Except Error Output := do
  g.run (← readCommand name) o

/-- The answer to the command called `name` with options in JSON, where null stands for none. The
options are read before the name is looked at. -/
def dispatchJson (g : Generator) (name : String) (options : Json) : Except Error Output :=
  match options with
  | .null => g.dispatch name {}
  | _ =>
    match Options.ofJson options with
    | .ok o => g.dispatch name o
    | .error e => .error (.argument (.options e))

end Generator

end Scaffold
