import Scaffold.Proofs.Generated.Places
import Scaffold.Proofs.Json.Units

/-!
# The literals of generated files

Import paths, base URLs and paths stand in generated files as single-quoted literals. `readString?`
reads one as a text, and fails if its units are none. The main statement is
`literals_denote_their_texts`: a quoted text is read as the text, whatever stands behind it, so no
text can end its literal early, and the literals of every generated file are read one after the
other as the texts that were put in. The path of a query is written into a template literal as well,
where `StandsInTemplate` says which paths are read as they are.
-/

namespace Scaffold

open Text (Adds Finds adds_nil adds_of_reads stacked)

namespace TypeScript

/-- Reads a single-quoted literal as a text. -/
def readString? (cs : List Char) : Option (String × List Char) :=
  (readLiteral? cs).bind fun p => (Json.textOfUnits? p.1).map fun s => (s, p.2)

/-- A quoted text is read as the text, and reading stops behind it. -/
theorem readString?_quote (s : String) (rest : List Char) :
    readString? ((quote s).toList ++ rest) = some (s, rest) := by
  rw [readString?, readLiteral?_quote, Option.bind_some, Json.textOfUnits?_units, Option.map_some]

/-- Quoted texts differ wherever the texts do, or what stands behind them. -/
theorem quote_append_inj {s t : String} {cs ds : List Char}
    (h : (quote s).toList ++ cs = (quote t).toList ++ ds) : s = t ∧ cs = ds := by
  have hread := readString?_quote s cs
  rw [h, readString?_quote] at hread
  cases hread
  exact ⟨rfl, rfl⟩

/-- A quoted text is read behind what stands in front of it. -/
theorem adds_quote (front s : String) : Adds readString? [(front, s)] (front ++ quote s) :=
  adds_of_reads (readString?_quote s) front

end TypeScript

open TypeScript

/-! ## The clients -/

namespace Client

/-- What stands in front of the quoted path in the arguments of the request wrapper. -/
def argumentsFront (e : Endpoint) : String :=
  match Shape.of e with
  | .queryGet _ => "queryString ? `" ++ e.path ++ "?$\x7bqueryString\x7d` : "
  | .queryDelete _ | .body _ | .noArgs => ""

/-- Where the path of an operation is quoted in the call of the request wrapper. A call that sends
all parameters in its query has the path in a template literal only. -/
def pathPlaces (wrapper : String) (e : Endpoint) : List (String × String) :=
  match Shape.of e with
  | .queryDelete _ => []
  | .queryGet _ | .body _ | .noArgs =>
    [(wrapper ++ "<" ++ returnType e ++ ">(" ++ argumentsFront e, e.path)]

/-- The arguments have the quoted path behind what stands in front of it. -/
theorem exists_arguments (margin : String) {e : Endpoint}
    (h : ∀ params, Shape.of e ≠ .queryDelete params) :
    ∃ rest, arguments margin e = argumentsFront e ++ (quote e.path ++ rest) := by
  rw [arguments, argumentsFront]
  cases hs : Shape.of e with
  | queryGet params => exact ⟨"", by rw [String.append_empty]⟩
  | queryDelete params => exact absurd hs (h params)
  | body fields =>
    refine ⟨", \x7b\n" ++ margin ++ "  method: '" ++ Registry.name e.method ++ "',\n" ++ margin ++
      "  body: JSON.stringify(data),\n" ++ margin ++ "\x7d", ?_⟩
    simp only [String.append_assoc, String.empty_append]
  | noArgs =>
    by_cases hm : e.method = .get
    · exact ⟨"", by simp only [if_pos hm, String.append_empty, String.empty_append]⟩
    · refine ⟨", \x7b method: '" ++ Registry.name e.method ++ "' \x7d", ?_⟩
      simp only [if_neg hm, String.append_assoc, String.empty_append]

/-- The path of an operation is read in the call of the request wrapper. -/
theorem adds_call (wrapper margin : String) (e : Endpoint) : Adds readString? (pathPlaces wrapper e)
    (wrapper ++ "<" ++ returnType e ++ ">(" ++ arguments margin e) := by
  by_cases h : ∀ params, Shape.of e ≠ .queryDelete params
  · obtain ⟨rest, hrest⟩ := exists_arguments margin h
    have hplaces : pathPlaces wrapper e =
        [(wrapper ++ "<" ++ returnType e ++ ">(" ++ argumentsFront e, e.path)] := by
      rw [pathPlaces]
      cases hs : Shape.of e with
      | queryDelete params => exact absurd hs (h params)
      | queryGet params | body fields | noArgs => rfl
    rw [hplaces, hrest, ← String.append_assoc, ← String.append_assoc]
    exact (adds_quote _ e.path).before rest
  · push Not at h
    obtain ⟨params, hs⟩ := h
    rw [pathPlaces, hs]
    exact adds_nil _

/-- The name of the request wrapper in a method, -/
def directWrapper : String := "    return this.request"

/-- and in a function of the proxy client. -/
def proxyWrapper : String := "  const result = await proxyRequest"

/-- A method has the literal of its path. -/
theorem adds_path_methodText (p : String × Endpoint) :
    Adds readString? (pathPlaces directWrapper p.2) (methodText p) := by
  have hmethod : ∃ front, method p.1 p.2 =
      front ++ (directWrapper ++ "<" ++ returnType p.2 ++ ">(" ++
      arguments "    " p.2) ++ (");\n" ++ "  \x7d") ++ "\n" := by
    refine ⟨docComment p.2.description 2 ++ "  async " ++ p.1 ++ "(" ++ signature p.2 ++
      "): Promise<" ++ returnType p.2 ++ "> \x7b\n" ++ queryStatements "    " p.2, ?_⟩
    rw [method, statements, show "  \x7d\n" = "  \x7d" ++ "\n" from rfl,
      show "    return this.request<" = directWrapper ++ "<" from rfl]
    simp only [String.append_assoc]
  obtain ⟨front, hmethod⟩ := hmethod
  rw [(exists_methodText p).1, String.append_left_inj] at hmethod
  rw [hmethod]
  exact ((adds_call directWrapper "    " p.2).behind front).before _

/-- So has a function of the proxy client. -/
theorem adds_path_proxyText (p : String × Endpoint) :
    Adds readString? (pathPlaces proxyWrapper p.2) (proxyText p.1 p.2) := by
  have htext : ∃ front rest, proxyText p.1 p.2 =
      front ++ (proxyWrapper ++ "<" ++ returnType p.2 ++ ">(" ++
      arguments "  " p.2) ++ rest := by
    refine ⟨docComment p.2.description 0 ++ "export async function " ++ p.1 ++ "(" ++
      signature p.2 ++ "): Promise<" ++ returnType p.2 ++ "> \x7b\n" ++ queryStatements "  " p.2,
      ");" ++
      (if p.2.localizeTimes then "\n  return localizeTimes(result);" else "\n  return result;") ++
      "\n\x7d", ?_⟩
    rw [proxyText, proxyStatements,
      show "  const result = await proxyRequest<" = proxyWrapper ++ "<" from rfl]
    simp only [String.append_assoc]
  obtain ⟨front, rest, htext⟩ := htext
  rw [htext]
  exact ((adds_call proxyWrapper "  " p.2).behind front).before rest

/-- The literals in front of the methods of the direct client. -/
theorem adds_directFront (environment : Environment) (baseUrl typesPath : String) :
    Adds readString? [(importOpening, typesPath), (baseUrlOpening environment, baseUrl)]
      (directFront environment baseUrl typesPath) :=
  (adds_quote _ typesPath).append (adds_quote _ baseUrl)

/-- The line that declares the route prefix, up to the prefix. -/
def prefixOpening : String := ";\n\n" ++ "const PROXY_PREFIX = "

/-- The literals in front of the functions of the proxy client. -/
theorem adds_proxyFront (typesPath : String) :
    Adds readString? [(importOpening, typesPath), (prefixOpening, routePrefix)]
      (proxyFront typesPath) :=
  (adds_quote _ typesPath).append (adds_quote _ routePrefix)

end Client

/-! ## Route handlers -/

namespace Route

variable {places : List (String × String)} {L : Layout} {clientPath imports : String}

/-- A line with a quoted text in it has the literal, in front of those in the lines below. -/
theorem adds_stacked_line {more : List String} (h : Adds readString? places (stacked more))
    (lines : List String) (front s rest : String) :
    Adds readString? ((front, s) :: places)
      (stacked (lines ++ (front ++ quote s ++ rest) :: more)) := by
  rw [Text.stacked_append, Text.stacked_cons]
  exact ((((adds_quote front s).before rest).behind "\n").append h).behind _

/-- The line that imports the client, up to the import path. -/
def clientOpening (keyword : String) : String := keyword ++ " \x7b SchedulingClient \x7d from "

/-- The import path of the client is in the second line below the header. -/
theorem Layout.adds_front {keyword first : String} {more : List String}
    (hlines : L.front clientPath imports = [first] ++ clientImport keyword clientPath :: more)
    (h : Adds readString? places (stacked more)) :
    Adds readString? ((clientOpening keyword, clientPath) :: places)
      (Client.generatedHeader ++ stacked (L.front clientPath imports)) := by
  rw [hlines]
  exact (adds_stacked_line h [first] (clientOpening keyword) clientPath ";").behind _

/-- A handler that is registered with a quoted path has its literal below the comment. -/
theorem Layout.adds_registered {b : Binding} {front s rest : String} {more : List String}
    (h : L.handler b = (front ++ quote s ++ rest) :: more) :
    Adds readString? [(front, s)] (stacked ("" :: L.block b)) := by
  rw [Layout.block, h, ← List.cons_append, List.cons_append]
  exact adds_stacked_line (adds_nil _) ("" :: L.comment b) front s rest

end Route

/-! ## All files -/

/-- The literals in the files that are generated from a catalog, in order. Each is read as the text
that was put in: the import path, the base URL, the route prefix and the paths of the operations. -/
structure LiteralsDenote (c : Catalog) : Prop where
  direct : ∀ environment baseUrl typesPath, ∃ text,
    Client.direct c environment baseUrl typesPath = .ok text ∧
      Finds readString?
        ([(Client.importOpening, typesPath), (Client.baseUrlOpening environment, baseUrl)] ++
        (operations c).flatMap fun p => Client.pathPlaces Client.directWrapper p.2) text.toList
  proxy : ∀ typesPath, ∃ text, Client.proxy c typesPath = .ok text ∧
    Finds readString?
      ([(Client.importOpening, typesPath), (Client.prefixOpening, Client.routePrefix)] ++
      (operations c).flatMap fun p => Client.pathPlaces Client.proxyWrapper p.2) text.toList
  nextjs : ∀ clientPath, ∃ a, Route.handlers c .nextjs clientPath = .ok a ∧ ∀ file ∈ a.entries,
    Finds readString? [(Route.clientOpening "import", clientPath)] file.2.toList
  express : ∀ clientPath, ∃ text,
    contentOf (Route.handlers c .express clientPath) "scheduling.routes.ts" = some text ∧
      Finds readString? ([(Route.clientOpening "import", clientPath)] ++
        (operations c).flatMap fun p =>
        [("schedulingRouter." ++ p.2.method.verb ++ "(", p.2.path)]) text.toList
  fastify : ∀ clientPath, ∃ text,
    contentOf (Route.handlers c .fastify clientPath) "scheduling.plugin.ts" = some text ∧
      Finds readString? ([(Route.clientOpening "import", clientPath)] ++
        (operations c).flatMap fun p =>
        [("  fastify." ++ p.2.method.verb ++ "(", p.2.path)]) text.toList
  controller : ∀ clientPath, ∃ text,
    contentOf (Route.handlers c .nestjs clientPath) "scheduling.controller.ts" = some text ∧
      Finds readString? ([(Route.clientOpening "import type", clientPath),
        ("@Controller(", relativePath Client.routePrefix)] ++ (operations c).flatMap fun p =>
        [("  @" ++ p.2.method.decorator ++ "(", relativePath p.2.path)]) text.toList
  service : ∀ clientPath, ∃ text,
    contentOf (Route.handlers c .nestjs clientPath) "scheduling.service.ts" = some text ∧
      Finds readString? [(Route.clientOpening "import", clientPath)] text.toList

/-- A file whose handlers have no paths in them has the import path of the client. -/
theorem Route.Layout.finds_clientImport {L : Layout} {clientPath first : String}
    {l : List (String × Endpoint)} {more : List String}
    (h : L.front clientPath (importNames (bindingsOf l)) =
      [first] ++ clientImport "import" clientPath :: more) :
    Finds readString? [(clientOpening "import", clientPath)]
      (L.text clientPath (bindingsOf l)).toList := by
  have hplaces (p : String × Endpoint) :
      Adds readString? [] (stacked ("" :: L.block (Binding.of p.1 p.2))) := adds_nil _
  have hfinds := Layout.finds_text (Layout.adds_front h (adds_nil _)) hplaces
  rwa [List.flatMap_eq_nil_iff.2 fun _ _ => rfl, List.append_nil] at hfinds

/-- The literals of every generated file are read as the texts that were put in. -/
theorem literalsDenote (c : Catalog) : LiteralsDenote c where
  direct environment baseUrl typesPath := Client.exists_direct_finds
    (Client.adds_directFront environment baseUrl typesPath) Client.adds_path_methodText c
  proxy typesPath :=
    Client.exists_proxy_finds (Client.adds_proxyFront typesPath) Client.adds_path_proxyText c
  nextjs clientPath := by
    obtain ⟨a, ha, hfiles⟩ := Route.exists_of_mem_nextjs c clientPath
    refine ⟨a, ha, fun file hfile => ?_⟩
    obtain ⟨path, -, htext⟩ := hfiles file hfile
    exact htext ▸ Route.Layout.finds_clientImport rfl
  express clientPath := by
    rw [Route.handlers_express]
    exact ⟨_, rfl, Route.Layout.finds_text (Route.Layout.adds_front rfl (adds_nil _))
      fun p => Route.Layout.adds_registered rfl⟩
  fastify clientPath := by
    rw [Route.handlers_fastify]
    exact ⟨_, rfl, Route.Layout.finds_text (Route.Layout.adds_front rfl (adds_nil _))
      fun p => Route.Layout.adds_registered rfl⟩
  controller clientPath := by
    refine ⟨_, (Route.contentOf_nestjs c clientPath).1, ?_⟩
    -- the decorator of the class is below the function that gives the message of an error
    have hdecorator := Route.adds_stacked_line (adds_nil (stacked [
        "export class SchedulingController \x7b",
        "  constructor(private readonly schedulingService: SchedulingService) \x7b\x7d"]))
      (["import \x7b SchedulingService \x7d from './scheduling.service';", ""] ++
        Route.errorMessage ++ [""])
      "@Controller(" (relativePath Client.routePrefix) ")"
    exact Route.Layout.finds_text (Route.Layout.adds_front rfl hdecorator)
      fun p => Route.Layout.adds_registered rfl
  service clientPath :=
    ⟨_, (Route.contentOf_nestjs c clientPath).2, Route.Layout.finds_clientImport rfl⟩

/-- A quoted text is read as the text, whatever stands behind it, so it tells the text and what
stands behind it apart; and the literals of every generated file are read as the texts that were put
in, whatever characters are in those. -/
theorem literals_denote_their_texts :
    (∀ s rest, readString? ((quote s).toList ++ rest) = some (s, rest)) ∧
    (∀ s t cs ds, (quote s).toList ++ cs = (quote t).toList ++ ds → s = t ∧ cs = ds) ∧
    ∀ c, LiteralsDenote c :=
  ⟨readString?_quote, fun _ _ _ _ => quote_append_inj, literalsDenote⟩

/-- A text that ends in a backslash and a quote, with a quote behind its literal. -/
theorem quoted_backslash_is_told_apart :
    readString? ((quote "it\\'").toList ++ "';".toList) = some ("it\\'", "';".toList) ∧
      (quote "it\\'").toList ++ "';".toList = "'it\\\\\\''';".toList ∧
      ("it\\'" = "it\\'" ∧ "';".toList = "';".toList) := by
  obtain ⟨hread, happart, -⟩ := literals_denote_their_texts
  exact ⟨hread _ _, by decide, happart "it\\'" "it\\'" "';".toList "';".toList rfl⟩

end Scaffold
