import Scaffold.Proofs.Template.Rendering
import Scaffold.Proofs.Text.Lines
import Scaffold.Route.Handlers

/-!
# Layouts of route handlers

The templates of the route handlers line by line. A `Layout` says which lines a template gives in
front of the handlers, for each handler and behind them. The main statement is `Renders.render_eq`:
the text of a template is the lines of its layout, with a blank line in front of each handler.
-/

namespace Scaffold.Route

open Template
open Text (stacked)

/-! ## Layouts -/

/-- The lines of a template. -/
structure Layout where
  template : Template.Name
  /-- The lines in front of the handlers, below the header; `imports` are the names that the
  controller imports. -/
  front : (clientPath imports : String) → List String
  comment : Binding → List String
  /-- The lines of a handler but the last one. -/
  handler : Binding → List String
  last : String
  /-- The lines behind the handlers. -/
  back : List String

/-- The lines of a handler with its comment. -/
def Layout.block (L : Layout) (b : Binding) : List String :=
  L.comment b ++ (L.handler b ++ [L.last])

/-- The names that the controller imports in one text. -/
def importNames (bs : List Binding) : String := ", ".intercalate (nestImports bs)

/-- The lines of the file for bindings. -/
def Layout.lines (L : Layout) (clientPath : String) (bs : List Binding) : List String :=
  (Client.generatedHeader :: L.front clientPath (importNames bs)) ++
    bs.flatMap (fun b => "" :: L.block b) ++ L.back

/-- The text of the file for bindings. -/
def Layout.text (L : Layout) (clientPath : String) (bs : List Binding) : String :=
  "\n".intercalate (L.lines clientPath bs)

/-- The line of a comment, unless it is empty. -/
def commentLines (margin : String) (b : Binding) : List String :=
  if b.description = "" then [] else [margin ++ "/** " ++ b.description ++ " */"]

/-- The function that gives the message of an error. -/
def errorMessage : List String := [
  "function errorMessage(error: unknown): string \x7b",
  "  return error instanceof Error ? error.message : String(error);",
  "\x7d"]

/-- The import of the client. -/
def clientImport (keyword clientPath : String) : String :=
  keyword ++ " \x7b SchedulingClient \x7d from " ++ TypeScript.quote clientPath ++ ";"

/-- A line that stands for each input. -/
def inputLines (b : Binding) (query body : String) : List String :=
  match b.input with
  | .none => []
  | .query => [query]
  | .body => [body]

/-- The route module of a path. -/
def Layout.nextjs : Layout where
  template := .nextjsRoute
  front clientPath _ := [
    "import \x7b NextRequest, NextResponse \x7d from 'next/server';",
    clientImport "import" clientPath,
    ""] ++ errorMessage
  comment := commentLines ""
  handler b :=
    ("export async function " ++ Registry.name b.method ++ "(request: NextRequest) \x7b") ::
    "  try \x7b" ::
    ("    const client = new SchedulingClient(process.env." ++ apiKeyVariable ++ ");") ::
    (inputLines b
      ("    const query = Object.fromEntries(request.nextUrl.searchParams) as" ++
        " Record<string, string | undefined>;")
      "    const body = await request.json();" ++ [
    "    const result = await client." ++ b.operation ++ "(" ++ b.callArgs ++ ");",
    "    return NextResponse.json(result);",
    "  \x7d catch (error) \x7b",
    "    return NextResponse.json(\x7b error: errorMessage(error) \x7d, \x7b status: 500 \x7d);",
    "  \x7d"])
  last := "\x7d"
  back := [""]

/-- The router. -/
def Layout.express : Layout where
  template := .expressRouter
  front clientPath _ := [
    "import \x7b Request, Response, Router \x7d from 'express';",
    clientImport "import" clientPath,
    "",
    "// Mount with app.use('" ++ Client.routePrefix ++ "', schedulingRouter) after express.json().",
    "export const schedulingRouter = Router();",
    "",
    "function getClient(): SchedulingClient \x7b",
    "  return new SchedulingClient(process.env." ++ apiKeyVariable ++ ");",
    "\x7d",
    ""] ++ errorMessage
  comment := commentLines ""
  handler b :=
    ("schedulingRouter." ++ b.method.verb ++ "(" ++ TypeScript.quote b.path ++
      ", async (req: Request, res: Response) => \x7b") ::
    "  try \x7b" ::
    (inputLines b
      "    const query = req.query as Record<string, string | undefined>;"
      "    const body = req.body;" ++ [
    "    const result = await getClient()." ++ b.operation ++ "(" ++ b.callArgs ++ ");",
    "    res.json(result);",
    "  \x7d catch (error) \x7b",
    "    res.status(500).json(\x7b error: errorMessage(error) \x7d);",
    "  \x7d"])
  last := "\x7d);"
  back := ["", "export default schedulingRouter;", ""]

/-- The plugin. -/
def Layout.fastify : Layout where
  template := .fastifyPlugin
  front clientPath _ := [
    "import \x7b FastifyPluginAsync \x7d from 'fastify';",
    clientImport "import" clientPath,
    "",
    "function getClient(): SchedulingClient \x7b",
    "  return new SchedulingClient(process.env." ++ apiKeyVariable ++ ");",
    "\x7d",
    ""] ++ errorMessage ++ [
    "",
    "// Register with fastify.register(schedulingRoutes, \x7b prefix: '" ++ Client.routePrefix ++
      "' \x7d).",
    "export const schedulingRoutes: FastifyPluginAsync = async (fastify) => \x7b"]
  comment := commentLines "  "
  handler b :=
    ("  fastify." ++ b.method.verb ++ "(" ++ TypeScript.quote b.path ++
      ", async (request, reply) => \x7b") ::
    "    try \x7b" ::
    (inputLines b
      "      const query = request.query as Record<string, string | undefined>;"
      "      const body = request.body;" ++ [
    "      const result = await getClient()." ++ b.operation ++ "(" ++ b.callArgs ++ ");",
    "      return reply.send(result ?? null);",
    "    \x7d catch (error) \x7b",
    "      return reply.status(500).send(\x7b error: errorMessage(error) \x7d);",
    "    \x7d"])
  last := "  \x7d);"
  back := ["\x7d;", "", "export default schedulingRoutes;", ""]

/-- The parameter list of a method of the controller. -/
def nestParameters (b : Binding) : String :=
  match b.input with
  | .none => ""
  | .query => "@Query() query: Record<string, string | undefined>"
  | .body => "@Body() body: unknown"

/-- The controller. -/
def Layout.controller : Layout where
  template := .nestjsController
  front clientPath imports := [
    "import \x7b " ++ imports ++ " \x7d from '@nestjs/common';",
    clientImport "import type" clientPath,
    "import \x7b SchedulingService \x7d from './scheduling.service';",
    ""] ++ errorMessage ++ [
    "",
    "@Controller(" ++ TypeScript.quote (TypeScript.relativePath Client.routePrefix) ++ ")",
    "export class SchedulingController \x7b",
    "  constructor(private readonly schedulingService: SchedulingService) \x7b\x7d"]
  comment := commentLines "  "
  handler b := [
    "  @" ++ b.method.decorator ++ "(" ++ TypeScript.quote b.relativePath ++ ")",
    "  async " ++ b.operation ++ "(" ++ nestParameters b ++ ") \x7b",
    "    try \x7b",
    "      return await this.schedulingService." ++ b.operation ++ "(" ++ b.callArgs ++ ");",
    "    \x7d catch (error) \x7b",
    "      throw new HttpException(\x7b error: errorMessage(error) \x7d, 500);",
    "    \x7d"]
  last := "  \x7d"
  back := ["\x7d", ""]

/-- The parameter list of a method of the service, and the argument that it passes on. -/
def serviceParameters (b : Binding) : String × String :=
  match b.input with
  | .none => ("", "")
  | .query | .body => ("args: Parameters<SchedulingClient['" ++ b.operation ++ "']>[0]", "args")

/-- The service. -/
def Layout.service : Layout where
  template := .nestjsService
  front clientPath _ := [
    "import \x7b Injectable \x7d from '@nestjs/common';",
    clientImport "import" clientPath,
    "",
    "// Provided by SchedulingModule and injected into SchedulingController.",
    "@Injectable()",
    "export class SchedulingService \x7b",
    "  private client(): SchedulingClient \x7b",
    "    return new SchedulingClient(process.env." ++ apiKeyVariable ++ ");",
    "  \x7d"]
  comment _ := []
  handler b := [
    "  async " ++ b.operation ++ "(" ++ (serviceParameters b).1 ++ ") \x7b",
    "    return this.client()." ++ b.operation ++ "(" ++ (serviceParameters b).2 ++ ");"]
  last := "  \x7d"
  back := ["\x7d", ""]

/-- The lines of the module that ties controller and service together. -/
def moduleLines : List String := [
  Client.generatedHeader,
  "import \x7b Module \x7d from '@nestjs/common';",
  "import \x7b SchedulingController \x7d from './scheduling.controller';",
  "import \x7b SchedulingService \x7d from './scheduling.service';",
  "",
  "@Module(\x7b",
  "  controllers: [SchedulingController],",
  "  providers: [SchedulingService],",
  "  exports: [SchedulingService],",
  "\x7d)",
  "export class SchedulingModule \x7b\x7d",
  ""]

/-! ## Rendering -/

/-- The parts of a template are rendered to the lines of its layout. -/
structure Layout.Renders (L : Layout) : Prop where
  /-- The template has one repetition, over the bindings. -/
  cut : L.template.parts =
    beforeEach L.template.parts ++ .each "b" ["bindings"] (eachBody L.template.parts) ::
      afterEach L.template.parts
  front : ∀ clientPath bs, renderParts? [context clientPath bs] (beforeEach L.template.parts) =
    some ("\n".intercalate (Client.generatedHeader :: L.front clientPath (importNames bs)))
  handler : ∀ clientPath bs b,
    renderParts? [[("b", b.toJson)], context clientPath bs] (eachBody L.template.parts) =
      some (stacked ("" :: L.block b))
  back : ∀ clientPath bs, renderParts? [context clientPath bs] (afterEach L.template.parts) =
    some (stacked L.back)

/-- The text of a template is the lines of its layout. -/
theorem Layout.Renders.render_eq {L : Layout} (h : L.Renders) (clientPath : String)
    (bs : List Binding) :
    L.template.render (context clientPath bs) = .ok (L.text clientPath bs) := by
  have hbindings : find? [context clientPath bs] ["bindings"] =
      some (.array (bs.map Binding.toJson)) :=
    rfl
  have heach := render?_each_eq_some "b" hbindings fun b _ => h.handler clientPath bs b
  rw [Template.Name.render, h.cut, renderParts?_append_eq_some (h.front clientPath bs)
    (renderParts?_cons_eq_some heach (h.back clientPath bs))]
  rw [Layout.text, Layout.lines, List.cons_append, List.cons_append, Text.intercalate_cons,
    Text.intercalate_cons, Text.stacked_append, Text.stacked_append, Text.stacked_flatMap]
  simp only [String.append_assoc]

/-! ## The templates -/

theorem writeNumber_failureStatus : Json.writeNumber (.integer failureStatus) = "500" := by decide

/-- A handler is a comment behind a blank line, and the lines below it. -/
theorem renderParts?_handler (b : Binding) {scopes : List Scope} (margin : String)
    {rest : List Part} {lines : List String}
    (hdescription : find? scopes ["b", "description"] = some (.string b.description))
    (hrest : ∃ text, renderParts? scopes rest = some text ∧ stacked lines = "\n" ++ text) :
    renderParts? scopes (.text "\n\n" ::
      .choice (.holds ["b", "description"])
        [.text (margin ++ "/** "), .value ["b", "description"], .text " */\n"] [] :: rest) =
      some (stacked ("" :: (commentLines margin b ++ lines))) := by
  obtain ⟨text, htext, hlines⟩ := hrest
  have hblank : Part.render? scopes (.text "\n\n") = some "\n\n" := by rw [Part.render?]
  rw [renderParts?_cons_eq_some hblank
    (renderParts?_cons_eq_some (render?_comment hdescription) htext), Text.stacked_cons,
    Text.stacked_append, hlines, commentLines]
  by_cases h : b.description = ""
  · simp only [if_pos h, Text.stacked_nil, String.append_empty, String.empty_append]
    simp only [← String.append_assoc, String.reduceAppend]
  · simp only [if_neg h, Text.stacked_cons, Text.stacked_nil, String.append_assoc,
      String.append_empty]
    simp only [← String.append_assoc, String.reduceAppend]

/-- The route module is laid out. -/
theorem renders_nextjs : Layout.nextjs.Renders where
  cut := rfl
  front clientPath bs := by
    simp only [Layout.nextjs, Template.Name.parts, nextjsRoute, beforeEach, renderParts?,
      Part.render?, Option.map_some, print, find?_own "header" (context clientPath bs) rfl,
      find?_own "client_import_path" (context clientPath bs) rfl, clientImport, errorMessage,
      List.cons_append, List.nil_append]
    simp only [↓Text.intercalate_blank, String.intercalate_cons_cons, String.intercalate_singleton,
      String.append_assoc, String.reduceAppend, String.append_empty]
  handler clientPath bs b := by
    refine renderParts?_handler b "" (find?_item "b" _ "description" rfl) ?_
    simp only [Layout.nextjs, renderParts?, Part.render?, Condition.decide?, Option.map_some, print,
      find?_item "b" b.toJson "method" rfl, find?_item "b" b.toJson "input" rfl,
      find?_item "b" b.toJson "operation" rfl, find?_item "b" b.toJson "call_args" rfl,
      find?_outer "api_key_env" "b" rfl, find?_own "api_key_env" (context clientPath bs) rfl,
      find?_outer "failure_status" "b" rfl, find?_own "failure_status" (context clientPath bs) rfl,
      writeNumber_failureStatus, inputLines]
    cases b.input with
    | none | query | body =>
      simp only [Input.name, String.reduceBEq, beq_self_eq_true]
      refine ⟨_, rfl, ?_⟩
      simp only [Text.stacked_cons, Text.stacked_nil, String.append_assoc, List.cons_append,
        List.nil_append, String.empty_append]
      simp only [← String.append_assoc, String.reduceAppend, String.append_empty]
  back clientPath bs := by
    simp only [Layout.nextjs, Template.Name.parts, nextjsRoute, afterEach, renderParts?,
      Part.render?, Text.stacked_cons, Text.stacked_nil, String.append_empty]

/-- The router is laid out. -/
theorem renders_express : Layout.express.Renders where
  cut := rfl
  front clientPath bs := by
    simp only [Layout.express, Template.Name.parts, expressRouter, beforeEach, renderParts?,
      Part.render?, Option.map_some, print, find?_own "header" (context clientPath bs) rfl,
      find?_own "client_import_path" (context clientPath bs) rfl,
      find?_own "api_key_env" (context clientPath bs) rfl,
      find?_own "route_prefix" (context clientPath bs) rfl, clientImport, errorMessage,
      List.cons_append, List.nil_append]
    simp only [↓Text.intercalate_blank, String.intercalate_cons_cons, String.intercalate_singleton,
      String.append_assoc, String.reduceAppend, String.append_empty]
  handler clientPath bs b := by
    refine renderParts?_handler b "" (find?_item "b" _ "description" rfl) ?_
    simp only [Layout.express, renderParts?, Part.render?, Condition.decide?,
      Option.map_some, print, find?_item "b" b.toJson "verb" rfl,
      find?_item "b" b.toJson "path_literal" rfl, find?_item "b" b.toJson "input" rfl,
      find?_item "b" b.toJson "operation" rfl, find?_item "b" b.toJson "call_args" rfl,
      find?_outer "failure_status" "b" rfl, find?_own "failure_status" (context clientPath bs) rfl,
      writeNumber_failureStatus, inputLines]
    cases b.input with
    | none | query | body =>
      simp only [Input.name, String.reduceBEq, beq_self_eq_true]
      refine ⟨_, rfl, ?_⟩
      simp only [Text.stacked_cons, Text.stacked_nil, String.append_assoc, List.cons_append,
        List.nil_append, String.empty_append]
      simp only [← String.append_assoc, String.reduceAppend, String.append_empty]
  back clientPath bs := by
    simp only [Layout.express, Template.Name.parts, expressRouter, afterEach, renderParts?,
      Part.render?, Text.stacked_cons, Text.stacked_nil, String.reduceAppend, String.append_empty]

/-- The plugin is laid out. -/
theorem renders_fastify : Layout.fastify.Renders where
  cut := rfl
  front clientPath bs := by
    simp only [Layout.fastify, Template.Name.parts, fastifyPlugin, beforeEach, renderParts?,
      Part.render?, Option.map_some, print, find?_own "header" (context clientPath bs) rfl,
      find?_own "client_import_path" (context clientPath bs) rfl,
      find?_own "api_key_env" (context clientPath bs) rfl,
      find?_own "route_prefix" (context clientPath bs) rfl, clientImport, errorMessage,
      List.cons_append, List.nil_append]
    simp only [↓Text.intercalate_blank, String.intercalate_cons_cons, String.intercalate_singleton,
      String.append_assoc, String.reduceAppend, String.append_empty]
  handler clientPath bs b := by
    refine renderParts?_handler b "  " (find?_item "b" _ "description" rfl) ?_
    simp only [Layout.fastify, renderParts?, Part.render?, Condition.decide?,
      Option.map_some, print, find?_item "b" b.toJson "verb" rfl,
      find?_item "b" b.toJson "path_literal" rfl, find?_item "b" b.toJson "input" rfl,
      find?_item "b" b.toJson "operation" rfl, find?_item "b" b.toJson "call_args" rfl,
      find?_outer "failure_status" "b" rfl, find?_own "failure_status" (context clientPath bs) rfl,
      writeNumber_failureStatus, inputLines]
    cases b.input with
    | none | query | body =>
      simp only [Input.name, String.reduceBEq, beq_self_eq_true]
      refine ⟨_, rfl, ?_⟩
      simp only [Text.stacked_cons, Text.stacked_nil, String.append_assoc, List.cons_append,
        List.nil_append, String.empty_append]
      simp only [← String.append_assoc, String.reduceAppend, String.append_empty]
  back clientPath bs := by
    simp only [Layout.fastify, Template.Name.parts, fastifyPlugin, afterEach, renderParts?,
      Part.render?, Text.stacked_cons, Text.stacked_nil, String.reduceAppend, String.append_empty]

/-- The controller is laid out. -/
theorem renders_controller : Layout.controller.Renders where
  cut := rfl
  front clientPath bs := by
    simp only [Layout.controller, Template.Name.parts, nestjsController, beforeEach, renderParts?,
      Part.render?, Option.map_some, print, find?_own "header" (context clientPath bs) rfl,
      find?_own "client_import_path" (context clientPath bs) rfl,
      find?_own "nest_imports" (context clientPath bs) rfl,
      find?_own "controller_path" (context clientPath bs) rfl, clientImport, errorMessage,
      importNames, List.cons_append, List.nil_append]
    simp only [↓Text.intercalate_blank, String.intercalate_cons_cons, String.intercalate_singleton,
      String.append_assoc, String.reduceAppend, String.append_empty]
  handler clientPath bs b := by
    refine renderParts?_handler b "  " (find?_item "b" _ "description" rfl) ?_
    simp only [Layout.controller, renderParts?, Part.render?, Condition.decide?,
      Option.map_some, print, find?_item "b" b.toJson "decorator" rfl,
      find?_item "b" b.toJson "relative_path_literal" rfl, find?_item "b" b.toJson "input" rfl,
      find?_item "b" b.toJson "operation" rfl, find?_item "b" b.toJson "call_args" rfl,
      find?_outer "failure_status" "b" rfl, find?_own "failure_status" (context clientPath bs) rfl,
      writeNumber_failureStatus, nestParameters]
    cases b.input with
    | none | query | body =>
      simp only [Input.name, String.reduceBEq, beq_self_eq_true]
      refine ⟨_, rfl, ?_⟩
      simp only [Text.stacked_cons, Text.stacked_nil, String.append_assoc, List.cons_append,
        List.nil_append, String.empty_append]
      simp only [← String.append_assoc, String.reduceAppend, String.append_empty]
  back clientPath bs := by
    simp only [Layout.controller, Template.Name.parts, nestjsController, afterEach, renderParts?,
      Part.render?, Text.stacked_cons, Text.stacked_nil, String.reduceAppend, String.append_empty]

/-- The service is laid out. -/
theorem renders_service : Layout.service.Renders where
  cut := rfl
  front clientPath bs := by
    simp only [Layout.service, Template.Name.parts, nestjsService, beforeEach, renderParts?,
      Part.render?, Option.map_some, print, find?_own "header" (context clientPath bs) rfl,
      find?_own "client_import_path" (context clientPath bs) rfl,
      find?_own "api_key_env" (context clientPath bs) rfl, clientImport]
    simp only [↓Text.intercalate_blank, String.intercalate_cons_cons, String.intercalate_singleton,
      String.append_assoc, String.reduceAppend, String.append_empty]
  handler clientPath bs b := by
    rw [Layout.block]
    simp only [Layout.service, Template.Name.parts, nestjsService, eachBody, renderParts?,
      Part.render?, Condition.decide?, Option.map_some, print, find?_item "b" b.toJson "input" rfl,
      find?_item "b" b.toJson "operation" rfl, serviceParameters]
    cases b.input with
    | none | query | body =>
      simp only [Input.name, String.reduceBEq, beq_self_eq_true, Text.stacked_cons,
        Text.stacked_nil, List.cons_append, List.nil_append, String.append_assoc,
        String.append_empty]
      simp only [← String.append_assoc, String.reduceAppend]
  back clientPath bs := by
    simp only [Layout.service, Template.Name.parts, nestjsService, afterEach, renderParts?,
      Part.render?, Text.stacked_cons, Text.stacked_nil, String.reduceAppend, String.append_empty]

/-- The module that ties controller and service together has its lines. -/
theorem render_nestjsModule (clientPath : String) (bs : List Binding) :
    Template.Name.nestjsModule.render (context clientPath bs) =
      .ok ("\n".intercalate moduleLines) := by
  have hparts :
      renderParts? [context clientPath bs] nestjsModule = some ("\n".intercalate moduleLines) := by
    simp only [nestjsModule, renderParts?, Part.render?, Option.map_some, print,
      find?_own "header" (context clientPath bs) rfl, moduleLines]
    simp only [↓Text.intercalate_blank, String.intercalate_cons_cons, String.intercalate_singleton,
      String.append_assoc, String.reduceAppend, String.append_empty]
  rw [Template.Name.render, Template.Name.parts, hparts]

/-! ## The generated files -/

/-- The files of a table of groups. -/
theorem nextjsFiles_eq (clientPath : String) (l : List (String × List Binding)) :
    nextjsFiles clientPath l =
      .ok (l.map fun p => (nextjsFile p.1, Layout.nextjs.text clientPath p.2)) := by
  induction l with
  | nil => rfl
  | cons p l ih =>
    have htext : Template.Name.nextjsRoute.render _ = _ := renders_nextjs.render_eq clientPath p.2
    rw [nextjsFiles, htext, ih]
    rfl

variable (c : Catalog) (clientPath : String)

/-- For Next.js there is a file for every group of bindings. -/
theorem handlers_nextjs : handlers c .nextjs clientPath = .ok (.files (.ofList
    ((groups (bindings c)).entries.map fun p =>
      (nextjsFile p.1, Layout.nextjs.text clientPath p.2)))) := by
  rw [handlers]
  simp only [nextjsFiles_eq]
  rfl

/-- For Express there is the router. -/
theorem handlers_express : handlers c .express clientPath =
    .ok (.single "scheduling.routes.ts" (Layout.express.text clientPath (bindings c))) := by
  have htext : Template.Name.expressRouter.render _ = _ :=
    renders_express.render_eq clientPath (bindings c)
  rw [handlers]
  simp only [htext]
  rfl

/-- For Fastify there is the plugin. -/
theorem handlers_fastify : handlers c .fastify clientPath =
    .ok (.single "scheduling.plugin.ts" (Layout.fastify.text clientPath (bindings c))) := by
  have htext : Template.Name.fastifyPlugin.render _ = _ :=
    renders_fastify.render_eq clientPath (bindings c)
  rw [handlers]
  simp only [htext]
  rfl

/-- For NestJS there are the controller, the service and the module that ties them together. -/
theorem handlers_nestjs : handlers c .nestjs clientPath = .ok (.files (.ofList [
    ("scheduling.controller.ts", Layout.controller.text clientPath (bindings c)),
    ("scheduling.service.ts", Layout.service.text clientPath (bindings c)),
    ("scheduling.module.ts", "\n".intercalate moduleLines)])) := by
  have hcontroller : Template.Name.nestjsController.render _ = _ :=
    renders_controller.render_eq clientPath (bindings c)
  have hservice : Template.Name.nestjsService.render _ = _ :=
    renders_service.render_eq clientPath (bindings c)
  rw [handlers]
  simp only [hcontroller, hservice, render_nestjsModule]
  rfl

end Scaffold.Route
