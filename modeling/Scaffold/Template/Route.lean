import Scaffold.Template.Basic

/-!
# Templates of the route handlers

One template for each kind of file that a framework wants. All are given the same bindings and
differ in how a handler is declared and how the request is read.
-/

namespace Scaffold.Template

/-- The route module of one path. -/
def nextjsRoute : List Part := [
  .value ["header"], .text "\n",
  .text "import \x7b NextRequest, NextResponse \x7d from 'next/server';\n",
  .text "import \x7b SchedulingClient \x7d from ", .value ["client_import_path"], .text ";\n\n",
  .text "function errorMessage(error: unknown): string \x7b\n",
  .text "  return error instanceof Error ? error.message : String(error);\n",
  .text "\x7d",
  .each "b" ["bindings"] [
    .text "\n\n",
    .choice (.holds ["b", "description"])
      [.text "/** ", .value ["b", "description"], .text " */\n"] [],
    .text "export async function ", .value ["b", "method"], .text "(request: NextRequest) \x7b\n",
    .text "  try \x7b\n",
    .text "    const client = new SchedulingClient(process.env.", .value ["api_key_env"],
    .text ");",
    .choice (.equals ["b", "input"] "query") [
      .text "\n",
      .text "    const query = Object.fromEntries(request.nextUrl.searchParams) as",
      .text " Record<string, string | undefined>;"] [
      .choice (.equals ["b", "input"] "body") [
        .text "\n",
        .text "    const body = await request.json();"] []],
    .text "\n",
    .text "    const result = await client.", .value ["b", "operation"], .text "(",
    .value ["b", "call_args"], .text ");\n",
    .text "    return NextResponse.json(result);\n",
    .text "  \x7d catch (error) \x7b\n",
    .text "    return NextResponse.json(\x7b error: errorMessage(error) \x7d, \x7b status: ",
    .value ["failure_status"], .text " \x7d);\n",
    .text "  \x7d\n",
    .text "\x7d"],
  .text "\n"]

/-- The router module. -/
def expressRouter : List Part := [
  .value ["header"], .text "\n",
  .text "import \x7b Request, Response, Router \x7d from 'express';\n",
  .text "import \x7b SchedulingClient \x7d from ", .value ["client_import_path"], .text ";\n\n",
  .text "// Mount with app.use('", .value ["route_prefix"],
  .text "', schedulingRouter) after express.json().\n",
  .text "export const schedulingRouter = Router();\n\n",
  .text "function getClient(): SchedulingClient \x7b\n",
  .text "  return new SchedulingClient(process.env.", .value ["api_key_env"], .text ");\n",
  .text "\x7d\n\n",
  .text "function errorMessage(error: unknown): string \x7b\n",
  .text "  return error instanceof Error ? error.message : String(error);\n",
  .text "\x7d",
  .each "b" ["bindings"] [
    .text "\n\n",
    .choice (.holds ["b", "description"])
      [.text "/** ", .value ["b", "description"], .text " */\n"] [],
    .text "schedulingRouter.", .value ["b", "verb"], .text "(", .value ["b", "path_literal"],
    .text ", async (req: Request, res: Response) => \x7b\n",
    .text "  try \x7b",
    .choice (.equals ["b", "input"] "query") [
      .text "\n",
      .text "    const query = req.query as Record<string, string | undefined>;"] [
      .choice (.equals ["b", "input"] "body") [
        .text "\n",
        .text "    const body = req.body;"] []],
    .text "\n",
    .text "    const result = await getClient().", .value ["b", "operation"], .text "(",
    .value ["b", "call_args"], .text ");\n",
    .text "    res.json(result);\n",
    .text "  \x7d catch (error) \x7b\n",
    .text "    res.status(", .value ["failure_status"],
    .text ").json(\x7b error: errorMessage(error) \x7d);\n",
    .text "  \x7d\n",
    .text "\x7d);"],
  .text "\n\n",
  .text "export default schedulingRouter;\n"]

/-- The plugin module. -/
def fastifyPlugin : List Part := [
  .value ["header"], .text "\n",
  .text "import \x7b FastifyPluginAsync \x7d from 'fastify';\n",
  .text "import \x7b SchedulingClient \x7d from ", .value ["client_import_path"], .text ";\n\n",
  .text "function getClient(): SchedulingClient \x7b\n",
  .text "  return new SchedulingClient(process.env.", .value ["api_key_env"], .text ");\n",
  .text "\x7d\n\n",
  .text "function errorMessage(error: unknown): string \x7b\n",
  .text "  return error instanceof Error ? error.message : String(error);\n",
  .text "\x7d\n\n",
  .text "// Register with fastify.register(schedulingRoutes, \x7b prefix: '",
  .value ["route_prefix"], .text "' \x7d).\n",
  .text "export const schedulingRoutes: FastifyPluginAsync = async (fastify) => \x7b",
  .each "b" ["bindings"] [
    .text "\n\n",
    .choice (.holds ["b", "description"])
      [.text "  /** ", .value ["b", "description"], .text " */\n"] [],
    .text "  fastify.", .value ["b", "verb"], .text "(", .value ["b", "path_literal"],
    .text ", async (request, reply) => \x7b\n",
    .text "    try \x7b",
    .choice (.equals ["b", "input"] "query") [
      .text "\n",
      .text "      const query = request.query as Record<string, string | undefined>;"] [
      .choice (.equals ["b", "input"] "body") [
        .text "\n",
        .text "      const body = request.body;"] []],
    .text "\n",
    .text "      const result = await getClient().", .value ["b", "operation"], .text "(",
    .value ["b", "call_args"], .text ");\n",
    .text "      return reply.send(result ?? null);\n",
    .text "    \x7d catch (error) \x7b\n",
    .text "      return reply.status(", .value ["failure_status"],
    .text ").send(\x7b error: errorMessage(error) \x7d);\n",
    .text "    \x7d\n",
    .text "  \x7d);"],
  .text "\n",
  .text "\x7d;\n\n",
  .text "export default schedulingRoutes;\n"]

/-- The controller, which declares the routes and hands calls to the service. -/
def nestjsController : List Part := [
  .value ["header"], .text "\n",
  .text "import \x7b ", .value ["nest_imports"], .text " \x7d from '@nestjs/common';\n",
  .text "import type \x7b SchedulingClient \x7d from ", .value ["client_import_path"],
  .text ";\n",
  .text "import \x7b SchedulingService \x7d from './scheduling.service';\n\n",
  .text "function errorMessage(error: unknown): string \x7b\n",
  .text "  return error instanceof Error ? error.message : String(error);\n",
  .text "\x7d\n\n",
  .text "@Controller(", .value ["controller_path"], .text ")\n",
  .text "export class SchedulingController \x7b\n",
  .text "  constructor(private readonly schedulingService: SchedulingService) \x7b\x7d",
  .each "b" ["bindings"] [
    .text "\n\n",
    .choice (.holds ["b", "description"])
      [.text "  /** ", .value ["b", "description"], .text " */\n"] [],
    .text "  @", .value ["b", "decorator"], .text "(", .value ["b", "relative_path_literal"],
    .text ")\n",
    .text "  async ", .value ["b", "operation"], .text "(",
    .choice (.equals ["b", "input"] "query")
      [.text "@Query() query: Record<string, string | undefined>"]
      [.choice (.equals ["b", "input"] "body") [.text "@Body() body: unknown"] []],
    .text ") \x7b\n",
    .text "    try \x7b\n",
    .text "      return await this.schedulingService.", .value ["b", "operation"], .text "(",
    .value ["b", "call_args"], .text ");\n",
    .text "    \x7d catch (error) \x7b\n",
    .text "      throw new HttpException(\x7b error: errorMessage(error) \x7d, ",
    .value ["failure_status"], .text ");\n",
    .text "    \x7d\n",
    .text "  \x7d"],
  .text "\n",
  .text "\x7d\n"]

/-- The service, which hands calls to the client. -/
def nestjsService : List Part := [
  .value ["header"], .text "\n",
  .text "import \x7b Injectable \x7d from '@nestjs/common';\n",
  .text "import \x7b SchedulingClient \x7d from ", .value ["client_import_path"], .text ";\n\n",
  .text "// Provided by SchedulingModule and injected into SchedulingController.\n",
  .text "@Injectable()\n",
  .text "export class SchedulingService \x7b\n",
  .text "  private client(): SchedulingClient \x7b\n",
  .text "    return new SchedulingClient(process.env.", .value ["api_key_env"], .text ");\n",
  .text "  \x7d",
  .each "b" ["bindings"] [
    .text "\n\n",
    .choice (.equals ["b", "input"] "none") [
      .text "  async ", .value ["b", "operation"], .text "() \x7b\n",
      .text "    return this.client().", .value ["b", "operation"], .text "();\n",
      .text "  \x7d"] [
      .text "  async ", .value ["b", "operation"], .text "(args: Parameters<SchedulingClient['",
      .value ["b", "operation"], .text "']>[0]) \x7b\n",
      .text "    return this.client().", .value ["b", "operation"], .text "(args);\n",
      .text "  \x7d"]],
  .text "\n",
  .text "\x7d\n"]

/-- The module that ties controller and service together. -/
def nestjsModule : List Part := [
  .value ["header"], .text "\n",
  .text "import \x7b Module \x7d from '@nestjs/common';\n",
  .text "import \x7b SchedulingController \x7d from './scheduling.controller';\n",
  .text "import \x7b SchedulingService \x7d from './scheduling.service';\n\n",
  .text "@Module(\x7b\n",
  .text "  controllers: [SchedulingController],\n",
  .text "  providers: [SchedulingService],\n",
  .text "  exports: [SchedulingService],\n",
  .text "\x7d)\n",
  .text "export class SchedulingModule \x7b\x7d\n"]

end Scaffold.Template
