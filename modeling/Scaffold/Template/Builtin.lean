import Scaffold.Registry
import Scaffold.Template.Client
import Scaffold.Template.Route

/-!
# The built-in templates

The templates by their names. `render` renders one for a context; the context is looked at before
the name.
-/

namespace Scaffold.Template

/-- The built-in templates. -/
inductive Name where
  | directClient
  | proxyClient
  | typesModule
  | nextjsRoute
  | expressRouter
  | fastifyPlugin
  | nestjsController
  | nestjsService
  | nestjsModule
  deriving DecidableEq, Repr

/-- The templates in the order of their names. -/
instance : Registry Name where
  all := [.directClient, .proxyClient, .expressRouter, .fastifyPlugin, .nestjsController,
    .nestjsModule, .nestjsService, .nextjsRoute, .typesModule]
  name
    | .directClient => "direct_client.ts"
    | .proxyClient => "proxy_client.ts"
    | .typesModule => "types.ts"
    | .nextjsRoute => "routes/nextjs_route.ts"
    | .expressRouter => "routes/express_router.ts"
    | .fastifyPlugin => "routes/fastify_plugin.ts"
    | .nestjsController => "routes/nestjs_controller.ts"
    | .nestjsService => "routes/nestjs_service.ts"
    | .nestjsModule => "routes/nestjs_module.ts"

/-- The parts of a template. -/
def Name.parts : Name → List Part
  | .directClient => Template.directClient
  | .proxyClient => Template.proxyClient
  | .typesModule => Template.typesModule
  | .nextjsRoute => Template.nextjsRoute
  | .expressRouter => Template.expressRouter
  | .fastifyPlugin => Template.fastifyPlugin
  | .nestjsController => Template.nestjsController
  | .nestjsService => Template.nestjsService
  | .nestjsModule => Template.nestjsModule

/-- Why a template is not rendered. -/
inductive RenderError where
  /-- The context is no object. -/
  | contextNotObject
  /-- There is no template of that name. -/
  | notFound (name : String)
  /-- The context lacks a value, or has one that cannot be used. -/
  | failed (name : Name)
  deriving DecidableEq, Repr

/-- The wording of an error. -/
def RenderError.message : RenderError → String
  | .contextNotObject => "Context must be a JSON object"
  | .notFound name => "Template not found: " ++ name
  | .failed name => "Failed to render template '" ++ Registry.name name ++ "'"

/-- The text of a template for the members of a context. -/
def Name.render (name : Name) (context : Scope) : Except RenderError String :=
  match renderParts? [context] name.parts with
  | some s => .ok s
  | none => .error (.failed name)

/-- The text of the template of a given name for a context. -/
def render (name : String) (context : Json) : Except RenderError String :=
  match context with
  | .object members =>
    match (Registry.find? name : Option Name) with
    | some n => n.render members
    | none => .error (.notFound name)
  | _ => .error .contextNotObject

end Scaffold.Template
