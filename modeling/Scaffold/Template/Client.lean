import Scaffold.Template.Basic

/-!
# Templates of the clients

The module of the direct client, that of the proxy client, and the module of domain types that
both import. The context of each is built where the module is assembled.
-/

namespace Scaffold.Template

/-- The module of the direct client: an error class, the client with its request wrapper, and the
methods in one text. -/
def directClient : List Part := [
  .value ["header"], .text "\n",
  .text "import * as Types from ", .value ["types_import_path"], .text ";\n\n",
  .text "/** Base URL for the ", .value ["environment"], .text " environment. */\n",
  .text "const DEFAULT_BASE_URL = ", .value ["default_base_url"], .text ";\n\n",
  .text "const BASE_URL = process.env.", .value ["base_url_env"],
  .text " || DEFAULT_BASE_URL;\n\n",
  .text "export type SchedulingApiErrorKind = 'authentication' | 'http' | 'transport';\n\n",
  .text "export class SchedulingApiError extends Error \x7b\n",
  .text "  constructor(\n",
  .text "    message: string,\n",
  .text "    public readonly kind: SchedulingApiErrorKind,\n",
  .text "    public readonly status?: number,\n",
  .text "  ) \x7b\n",
  .text "    super(message);\n",
  .text "    this.name = 'SchedulingApiError';\n",
  .text "  \x7d\n",
  .text "\x7d\n\n",
  .text "export class SchedulingClient \x7b\n",
  .text "  private readonly apiKey: string;\n",
  .text "  private readonly baseUrl: string;\n\n",
  .text "  constructor(apiKey: string | undefined, baseUrl: string = BASE_URL) \x7b\n",
  .text "    if (!apiKey || apiKey.trim() === '') \x7b\n",
  .text "      throw new SchedulingApiError(\n",
  .text "        'An API key is required to create a SchedulingClient',\n",
  .text "        'authentication',\n",
  .text "      );\n",
  .text "    \x7d\n",
  .text "    this.apiKey = apiKey;\n",
  .text "    this.baseUrl = baseUrl.replace(/\\/+$/, '');\n",
  .text "  \x7d\n\n",
  .text "  private async request<T>(path: string, init: RequestInit = \x7b\x7d):",
  .text " Promise<T> \x7b\n",
  .text "    let response: Response;\n",
  .text "    try \x7b\n",
  .text "      response = await fetch(`$\x7bthis.baseUrl\x7d$\x7bpath\x7d`, \x7b\n",
  .text "        ...init,\n",
  .text "        headers: \x7b\n",
  .text "          ...init.headers,\n",
  .text "          '", .value ["api_key_header"], .text "': this.apiKey,\n",
  .text "          'Content-Type': 'application/json',\n",
  .text "        \x7d,\n",
  .text "      \x7d);\n",
  .text "    \x7d catch (error) \x7b\n",
  .text "      const reason = error instanceof Error ? error.message : String(error);\n",
  .text "      throw new SchedulingApiError(\n",
  .text "        `Cannot connect to the scheduling API at $\x7bthis.baseUrl\x7d:",
  .text " $\x7breason\x7d`,\n",
  .text "        'transport',\n",
  .text "      );\n",
  .text "    \x7d\n\n",
  .text "    if (!response.ok) \x7b\n",
  .text "      let message = `HTTP $\x7bresponse.status\x7d:",
  .text " $\x7bresponse.statusText\x7d`;\n",
  .text "      try \x7b\n",
  .text "        const body = await response.json();\n",
  .text "        if (body && (body.message || body.error)) \x7b\n",
  .text "          message = body.message || body.error;\n",
  .text "        \x7d\n",
  .text "      \x7d catch \x7b\n",
  .text "        // body was not JSON; keep the status line\n",
  .text "      \x7d\n",
  .text "      if (response.status === 401) \x7b\n",
  .text "        message = `Request rejected: authentication failed, check the API",
  .text " key ($\x7bmessage\x7d)`;\n",
  .text "      \x7d else if (response.status === 403) \x7b\n",
  .text "        message = `Request rejected: permission denied for this API key",
  .text " ($\x7bmessage\x7d)`;\n",
  .text "      \x7d\n",
  .text "      throw new SchedulingApiError(message, 'http', response.status);\n",
  .text "    \x7d\n\n",
  .text "    if (response.status === 204) \x7b\n",
  .text "      return undefined as T;\n",
  .text "    \x7d\n",
  .text "    return (await response.json()) as T;\n",
  .text "  \x7d\n\n",
  .value ["methods"], .text "\n",
  .text "\x7d\n"]

/-- What stands in front of the functions of the proxy client: an error class, the request wrapper
and the localization of times. -/
def proxyPreamble : List Part := [
  .value ["header"], .text "\n",
  .text "import * as Types from ", .value ["types_import_path"], .text ";\n\n",
  .text "const PROXY_PREFIX = ", .value ["route_prefix"], .text ";\n\n",
  .text "export class SchedulingProxyError extends Error \x7b\n",
  .text "  constructor(message: string, public readonly status: number) \x7b\n",
  .text "    super(message);\n",
  .text "    this.name = 'SchedulingProxyError';\n",
  .text "  \x7d\n",
  .text "\x7d\n\n",
  .text "async function proxyRequest<T>(path: string, init: RequestInit = \x7b\x7d):",
  .text " Promise<T> \x7b\n",
  .text "  const response = await fetch(`$\x7bPROXY_PREFIX\x7d$\x7bpath\x7d`, \x7b\n",
  .text "    ...init,\n",
  .text "    headers: \x7b\n",
  .text "      ...init.headers,\n",
  .text "      'Content-Type': 'application/json',\n",
  .text "    \x7d,\n",
  .text "  \x7d);\n\n",
  .text "  if (!response.ok) \x7b\n",
  .text "    let message = `HTTP $\x7bresponse.status\x7d: $\x7bresponse.statusText\x7d`;\n",
  .text "    try \x7b\n",
  .text "      const body = await response.json();\n",
  .text "      if (body && body.error) \x7b\n",
  .text "        message = body.error;\n",
  .text "      \x7d\n",
  .text "    \x7d catch \x7b\n",
  .text "      // body was not JSON; keep the status line\n",
  .text "    \x7d\n",
  .text "    throw new SchedulingProxyError(message, response.status);\n",
  .text "  \x7d\n\n",
  .text "  if (response.status === 204) \x7b\n",
  .text "    return undefined as T;\n",
  .text "  \x7d\n",
  .text "  return (await response.json()) as T;\n",
  .text "\x7d\n\n",
  .text "const ISO_UTC_TIMESTAMP =",
  .text " /^\\d\x7b4\x7d-\\d\x7b2\x7d-\\d\x7b2\x7dT\\d\x7b2\x7d:\\d\x7b2\x7d",
  .text "(:\\d\x7b2\x7d(\\.\\d+)?)?(Z|[+-]00:?00)$/;\n\n",
  .text "function pad(value: number): string \x7b\n",
  .text "  return String(Math.abs(value)).padStart(2, '0');\n",
  .text "\x7d\n\n",
  .text "function toLocalIsoString(date: Date): string \x7b\n",
  .text "  const offset = -date.getTimezoneOffset();\n",
  .text "  const sign = offset >= 0 ? '+' : '-';\n",
  .text "  return (\n",
  .text "    `$\x7bdate.getFullYear()\x7d-$\x7bpad(date.getMonth() +",
  .text " 1)\x7d-$\x7bpad(date.getDate())\x7d` +\n",
  .text "    `T$\x7bpad(date.getHours())\x7d:$\x7bpad(date.getMinutes())\x7d",
  .text ":$\x7bpad(date.getSeconds())\x7d` +\n",
  .text "    `$\x7bsign\x7d$\x7bpad(Math.trunc(offset / 60))\x7d:$\x7bpad(offset %",
  .text " 60)\x7d`\n",
  .text "  );\n",
  .text "\x7d\n\n",
  .text "/** Rewrite ISO-8601 UTC timestamps to the browser's local offset, through",
  .text " arrays and objects. */\n",
  .text "export function localizeTimes<T>(value: T): T \x7b\n",
  .text "  if (typeof value === 'string') \x7b\n",
  .text "    if (!ISO_UTC_TIMESTAMP.test(value)) \x7b\n",
  .text "      return value;\n",
  .text "    \x7d\n",
  .text "    const date = new Date(value);\n",
  .text "    return (Number.isNaN(date.getTime()) ? value : toLocalIsoString(date))",
  .text " as unknown as T;\n",
  .text "  \x7d\n",
  .text "  if (Array.isArray(value)) \x7b\n",
  .text "    return value.map((item) => localizeTimes(item)) as unknown as T;\n",
  .text "  \x7d\n",
  .text "  if (value !== null && typeof value === 'object') \x7b\n",
  .text "    const result: Record<string, unknown> = \x7b\x7d;\n",
  .text "    for (const [key, item] of Object.entries(value as Record<string,",
  .text " unknown>)) \x7b\n",
  .text "      result[key] = localizeTimes(item);\n",
  .text "    \x7d\n",
  .text "    return result as T;\n",
  .text "  \x7d\n",
  .text "  return value;\n",
  .text "\x7d"]

/-- The statements by which a function of the proxy client sends its request. -/
def proxyRequest : List Part := [
  .choice (.equals ["f", "shape"] "query-get") [
    .text "\n",
    .text "  const query = new URLSearchParams();\n",
    .text "  for (const [key, value] of Object.entries(params)) \x7b\n",
    .text "    if (value !== undefined) \x7b\n",
    .text "      query.append(key, String(value));\n",
    .text "    \x7d\n",
    .text "  \x7d\n",
    .text "  const queryString = query.toString();\n",
    .text "  const result = await proxyRequest<", .value ["f", "return_type"],
    .text ">(queryString ? `", .value ["f", "path"], .text "?$\x7bqueryString\x7d` : ",
    .value ["f", "path_literal"], .text ");"] [
    .choice (.equals ["f", "shape"] "query-delete") [
      .text "\n",
      .text "  const query = new URLSearchParams();\n",
      .text "  for (const [key, value] of Object.entries(params)) \x7b\n",
      .text "    query.append(key, String(value));\n",
      .text "  \x7d\n",
      .text "  const result = await proxyRequest<", .value ["f", "return_type"], .text ">(`",
      .value ["f", "path"], .text "?$\x7bquery.toString()\x7d`, \x7b method: 'DELETE' \x7d);"] [
      .choice (.equals ["f", "shape"] "body") [
        .text "\n",
        .text "  const result = await proxyRequest<", .value ["f", "return_type"], .text ">(",
        .value ["f", "path_literal"], .text ", \x7b\n",
        .text "    method: '", .value ["f", "method"], .text "',\n",
        .text "    body: JSON.stringify(data),\n",
        .text "  \x7d);"] [
        .choice (.equals ["f", "method"] "GET") [
          .text "\n",
          .text "  const result = await proxyRequest<", .value ["f", "return_type"], .text ">(",
          .value ["f", "path_literal"], .text ");"] [
          .text "\n",
          .text "  const result = await proxyRequest<", .value ["f", "return_type"], .text ">(",
          .value ["f", "path_literal"], .text ", \x7b method: '", .value ["f", "method"],
          .text "' \x7d);"]]]]]

/-- The function of the proxy client for an operation. -/
def proxyFunction : List Part := [
  .text "\n\n",
  .choice (.holds ["f", "description"])
    [.text "/** ", .value ["f", "description"], .text " */\n"] [],
  .text "export async function ", .value ["f", "name"], .text "(", .value ["f", "signature"],
  .text "): Promise<", .value ["f", "return_type"], .text "> \x7b"] ++ proxyRequest ++ [
  .choice (.holds ["f", "localize_times"]) [
    .text "\n",
    .text "  return localizeTimes(result);"] [
    .text "\n",
    .text "  return result;"],
  .text "\n",
  .text "\x7d"]

/-- The module of the proxy client, with a function for every operation. -/
def proxyClient : List Part :=
  proxyPreamble ++ [.each "f" ["functions"] proxyFunction, .text "\n"]

/-- The module of domain types: the unions, then the interfaces. -/
def typesModule : List Part := [
  .value ["header"],
  .each "e" ["enums"] [
    .text "\n\n",
    .text "export type ", .value ["e", "name"], .text " = ", .value ["e", "union"], .text ";"],
  .each "t" ["interfaces"] [
    .text "\n\n",
    .choice (.holds ["t", "description"])
      [.text "/** ", .value ["t", "description"], .text " */\n"] [],
    .text "export interface ", .value ["t", "name"], .text " \x7b",
    .each "m" ["t", "members"] [
      .text "\n",
      .choice (.holds ["m", "description"])
        [.text "  /** ", .value ["m", "description"], .text " */\n"] [],
      .text "  ", .value ["m", "line"]],
    .text "\n",
    .text "\x7d"],
  .text "\n"]

end Scaffold.Template
