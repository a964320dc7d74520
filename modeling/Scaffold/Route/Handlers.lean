import Scaffold.Artifact
import Scaffold.Client.Module
import Scaffold.Route.Binding
import Scaffold.Settings.Framework

/-!
# Route handlers

The files that each framework wants. Next.js gets one file for every path, with a handler for every
operation of that path; the others get all handlers together.
-/

namespace Scaffold.Route

open Template (Scope)

/-- The status of a handler that fails. -/
def failureStatus : Nat := 500

/-- Inserts a name into a list that is in order, unless it is there. -/
def insertName (name : String) : List String → List String
  | [] => [name]
  | n :: rest =>
    if name = n then n :: rest
    else if name < n then name :: n :: rest
    else n :: insertName name rest

/-- The names that the controller uses for a handler. -/
def nestNames (b : Binding) : List String :=
  match b.input with
  | .none => [b.method.decorator]
  | .query => [b.method.decorator, "Query"]
  | .body => [b.method.decorator, "Body"]

/-- The names that the controller imports, in order. -/
def nestImports (bindings : List Binding) : List String :=
  (bindings.flatMap nestNames).foldl (fun names n => insertName n names)
    ["Controller", "HttpException"]

/-- The context of the templates of route handlers. -/
def context (clientPath : String) (bindings : List Binding) : Scope := [
  ("header", .string Client.generatedHeader),
  ("client_import_path", .string (TypeScript.quote clientPath)),
  ("api_key_env", .string apiKeyVariable),
  ("route_prefix", .string Client.routePrefix),
  ("controller_path", .string (TypeScript.quote (TypeScript.relativePath Client.routePrefix))),
  ("nest_imports", .string (", ".intercalate (nestImports bindings))),
  ("failure_status", .number (.integer failureStatus)),
  ("bindings", .array (bindings.map Binding.toJson))]

/-- The bindings of the operations of a catalog, in order. -/
def bindings (c : Catalog) : List Binding :=
  c.endpoints.entries.map fun (name, e) => Binding.of name e

/-- The groups with a binding added to that of its path, or in a new one at the end. -/
def addToGroup (groups : Table (List Binding)) (b : Binding) : Table (List Binding) :=
  groups.insert b.relativePath ((groups.get? b.relativePath).getD [] ++ [b])

/-- Bindings by their relative paths, in the order in which the paths come first. -/
def groups (bs : List Binding) : Table (List Binding) := bs.foldl addToGroup .empty

/-- The file that serves a relative path. -/
def nextjsFile (relativePath : String) : String :=
  "app" ++ Client.routePrefix ++ "/" ++ relativePath ++ "/route.ts"

/-- The files of a table of groups. -/
def nextjsFiles (clientPath : String) :
    List (String × List Binding) → Except Template.RenderError (List (String × String))
  | [] => .ok []
  | (path, group) :: rest => do
    let content ← Template.Name.nextjsRoute.render (context clientPath group)
    return (nextjsFile path, content) :: (← nextjsFiles clientPath rest)

/-- The route handlers of a catalog. -/
def handlers (c : Catalog) (framework : Framework) (clientPath : String) :
    Except Template.RenderError Artifact := do
  let bs := bindings c
  match framework with
  | .nextjs => return .files (.ofList (← nextjsFiles clientPath (groups bs).entries))
  | .express =>
    return .single "scheduling.routes.ts"
      (← Template.Name.expressRouter.render (context clientPath bs))
  | .fastify =>
    return .single "scheduling.plugin.ts"
      (← Template.Name.fastifyPlugin.render (context clientPath bs))
  | .nestjs =>
    let controller ← Template.Name.nestjsController.render (context clientPath bs)
    let service ← Template.Name.nestjsService.render (context clientPath bs)
    let module ← Template.Name.nestjsModule.render (context clientPath bs)
    return .files (.ofList [
      ("scheduling.controller.ts", controller),
      ("scheduling.service.ts", service),
      ("scheduling.module.ts", module)])

end Scaffold.Route
