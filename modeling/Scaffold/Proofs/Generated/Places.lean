import Scaffold.Proofs.Assembly
import Scaffold.Proofs.Route.Groups
import Scaffold.Proofs.Text.Finding

/-!
# Places of generated files

Every generated file is a text that depends on the options alone, followed by fragments: one for
each operation or type definition. So whatever can be read in the fragments can be read in the file,
in the order of the catalog, behind what can be read in front of them. There is one statement for
each kind of file.
-/

namespace Scaffold

open Template (Part find?_own print renderParts? renderParts?_append_eq_some)
open Text (Adds Finds adds_nil stacked)

variable {α : Type} {read : List Char → Option (α × List Char)} {front : List (String × α)}
  {places : String × Endpoint → List (String × α)}

/-- The operations of a catalog that have a relative path. -/
def operationsAt (c : Catalog) (path : String) : List (String × Endpoint) :=
  (operations c).filter fun p => TypeScript.relativePath p.2.path = path

/-! ## The clients -/

namespace Client

/-- The beginning of the direct client, up to the import path. -/
def importOpening : String := generatedHeader ++ "\n" ++ "import * as Types from "

/-- The line that declares the base URL, up to the URL. -/
def baseUrlOpening (environment : Environment) : String :=
  ";\n\n" ++ "/** Base URL for the " ++ Registry.name environment ++ " environment. */\n" ++
    "const DEFAULT_BASE_URL = "

/-- The direct client up to the base URL. -/
def directFront (environment : Environment) (baseUrl typesPath : String) : String :=
  importOpening ++ TypeScript.quote typesPath ++
    (baseUrlOpening environment ++ TypeScript.quote baseUrl)

/-- The proxy client up to the route prefix. -/
def proxyFront (typesPath : String) : String :=
  importOpening ++ TypeScript.quote typesPath ++
    (";\n\n" ++ "const PROXY_PREFIX = " ++ TypeScript.quote routePrefix)

/-- The direct client has its front and its methods between texts that do not depend on the
catalog. -/
theorem exists_direct_front (environment : Environment) (baseUrl typesPath : String) :
    ∃ middle tail, ∀ c, direct c environment baseUrl typesPath =
      .ok (directFront environment baseUrl typesPath ++ middle ++ methods c ++ tail) := by
  -- the template is cut behind the base URL and in front of the methods
  let opening : List Part := [
    .value ["header"], .text "\n", .text "import * as Types from ", .value ["types_import_path"],
    .text ";\n\n", .text "/** Base URL for the ", .value ["environment"],
    .text " environment. */\n", .text "const DEFAULT_BASE_URL = ", .value ["default_base_url"]]
  let between := (Template.directClient.drop 10).take (Template.directClient.length - 13)
  have hcut : Template.directClient =
      opening ++ (between ++ [.value ["methods"], .text "\n", .text "\x7d\n"]) := rfl
  have hopening : ∀ c, renderParts? [directContext c environment baseUrl typesPath] opening =
      some (generatedHeader ++ ("\n" ++ ("import * as Types from " ++ (TypeScript.quote typesPath ++
        (";\n\n" ++ ("/** Base URL for the " ++
          (Registry.name environment ++
            (" environment. */\n" ++ ("const DEFAULT_BASE_URL = " ++
              (TypeScript.quote baseUrl ++ "")))))))))) := fun _ => rfl
  have hbetween : ∃ middle, ∀ c,
      renderParts? [directContext c environment baseUrl typesPath] between = some middle :=
    ⟨_, fun _ => rfl⟩
  have hback : ∀ c, renderParts? [directContext c environment baseUrl typesPath]
      [.value ["methods"], .text "\n", .text "\x7d\n"] =
      some (methods c ++ ("\n" ++ ("\x7d\n" ++ ""))) := fun _ => rfl
  obtain ⟨middle, hmiddle⟩ := hbetween
  refine ⟨middle, "\n" ++ ("\x7d\n" ++ ""), fun c => ?_⟩
  rw [direct, Template.Name.render, Template.Name.parts, hcut,
    renderParts?_append_eq_some (hopening c)
    (renderParts?_append_eq_some (hmiddle c) (hback c)), directFront, importOpening, baseUrlOpening]
  simp only [String.append_assoc, String.append_empty]

/-- The proxy client has its front and its functions behind each other. -/
theorem exists_proxy_front (typesPath : String) : ∃ middle, ∀ c, proxy c typesPath =
    .ok (proxyFront typesPath ++ middle ++
      String.join ((operations c).map fun p => "\n\n" ++ proxyText p.1 p.2) ++ "\n") := by
  let opening : List Part := [
    .value ["header"], .text "\n", .text "import * as Types from ", .value ["types_import_path"],
    .text ";\n\n", .text "const PROXY_PREFIX = ", .value ["route_prefix"]]
  have hcut : Template.proxyPreamble = opening ++ Template.proxyPreamble.drop 7 := rfl
  have hopening : ∀ c, renderParts? [proxyContext c typesPath] opening =
      some (generatedHeader ++ ("\n" ++ ("import * as Types from " ++ (TypeScript.quote typesPath ++
        (";\n\n" ++ ("const PROXY_PREFIX = " ++ (TypeScript.quote routePrefix ++ ""))))))) :=
    fun _ => rfl
  have hrest : ∃ middle, ∀ c,
      renderParts? [proxyContext c typesPath] (Template.proxyPreamble.drop 7) = some middle :=
    ⟨_, fun _ => rfl⟩
  obtain ⟨middle, hmiddle⟩ := hrest
  refine ⟨middle, fun c => ?_⟩
  have hpreamble := renderParts?_append_eq_some (hopening c) (hmiddle c)
  rw [← hcut] at hpreamble
  rw [proxy_of_preamble hpreamble, proxyFront, importOpening, operations]
  simp only [String.append_assoc, String.append_empty]

section
variable {c : Catalog} {environment : Environment} {baseUrl typesPath : String}
  {fields : TypeDefinition → List (String × α)}

/-- The direct client has the places of its front and those of its methods, -/
theorem exists_direct_finds_of_mem
    (hfront : Adds read front (directFront environment baseUrl typesPath))
    (hplaces : ∀ p ∈ operations c, Adds read (places p) (methodText p)) :
    ∃ text, direct c environment baseUrl typesPath = .ok text ∧
      Finds read (front ++ (operations c).flatMap places) text.toList := by
  obtain ⟨middle, tail, hdirect⟩ := exists_direct_front environment baseUrl typesPath
  have hmethods : Adds read ((operations c).flatMap places) (methods c) := by
    by_cases hentries : operations c = []
    · rw [hentries]
      exact adds_nil _
    · rw [methods_eq hentries]
      exact Adds.intercalate hplaces _
  exact ⟨_, hdirect c, (((hfront.before middle).append hmethods).before tail).finds⟩

/-- the proxy client those of its front and those of its functions, -/
theorem exists_proxy_finds_of_mem (hfront : Adds read front (proxyFront typesPath))
    (hplaces : ∀ p ∈ operations c, Adds read (places p) (proxyText p.1 p.2)) :
    ∃ text, proxy c typesPath = .ok text ∧
      Finds read (front ++ (operations c).flatMap places) text.toList := by
  obtain ⟨middle, hproxy⟩ := exists_proxy_front typesPath
  have hfunctions : Adds read ((operations c).flatMap places) _ :=
    Adds.join fun p hp => (hplaces p hp).behind "\n\n"
  exact ⟨_, hproxy c, (((hfront.before middle).append hfunctions).before "\n").finds⟩

/-- and the module of domain types those of its interfaces. -/
theorem exists_types_finds_of_mem
    (hplaces : ∀ t ∈ c.types, Adds read (fields t) (interfaceText t)) :
    ∃ text, types c = .ok text ∧ Finds read (c.types.flatMap fields) text.toList := by
  obtain ⟨head, htypes⟩ := exists_types
  have hinterfaces : Adds read (c.types.flatMap fields) _ :=
    Adds.join fun t ht => (hplaces t ht).behind "\n\n"
  exact ⟨_, htypes c, ((hinterfaces.behind head).before "\n").finds⟩

end

/-- The direct client has the places that every method has. -/
theorem exists_direct_finds {environment : Environment} {baseUrl typesPath : String}
    (hfront : Adds read front (directFront environment baseUrl typesPath))
    (hplaces : ∀ p, Adds read (places p) (methodText p)) (c : Catalog) :
    ∃ text, direct c environment baseUrl typesPath = .ok text ∧
      Finds read (front ++ (operations c).flatMap places) text.toList :=
  exists_direct_finds_of_mem hfront fun p _ => hplaces p

/-- So has the proxy client those that every function has, -/
theorem exists_proxy_finds {typesPath : String} (hfront : Adds read front (proxyFront typesPath))
    (hplaces : ∀ p, Adds read (places p) (proxyText p.1 p.2)) (c : Catalog) :
    ∃ text, proxy c typesPath = .ok text ∧
      Finds read (front ++ (operations c).flatMap places) text.toList :=
  exists_proxy_finds_of_mem hfront fun p _ => hplaces p

/-- and the module of domain types those that every interface has. -/
theorem exists_types_finds {places : TypeDefinition → List (String × α)}
    (hplaces : ∀ t, Adds read (places t) (interfaceText t)) (c : Catalog) :
    ∃ text, types c = .ok text ∧ Finds read (c.types.flatMap places) text.toList :=
  exists_types_finds_of_mem fun t _ => hplaces t

end Client

/-! ## Route handlers -/

namespace Route

/-- The bindings of operations. -/
def bindingsOf (l : List (String × Endpoint)) : List Binding := l.map fun p => Binding.of p.1 p.2

/-- The bindings that have a relative path are those of the operations that have it. -/
theorem filter_bindings (c : Catalog) (path : String) :
    ((bindings c).filter fun b => b.relativePath = path) = bindingsOf (operationsAt c path) := by
  rw [bindings, List.filter_map]
  rfl

/-- A file of route handlers has the places of its front and those of its handlers. -/
theorem Layout.finds_text {L : Layout} {clientPath : String} {l : List (String × Endpoint)}
    (hfront : Adds read front
      (Client.generatedHeader ++ stacked (L.front clientPath (importNames (bindingsOf l)))))
    (hplaces : ∀ p, Adds read (places p) (stacked ("" :: L.block (Binding.of p.1 p.2)))) :
    Finds read (front ++ l.flatMap places) (L.text clientPath (bindingsOf l)).toList := by
  have hhandlers : Adds read (l.flatMap places)
      (stacked ((bindingsOf l).flatMap fun b => "" :: L.block b)) := by
    rw [bindingsOf, List.flatMap_map, Text.stacked_flatMap]
    exact Adds.join fun p _ => hplaces p
  rw [text, lines, List.append_assoc, List.cons_append, Text.intercalate_cons, Text.stacked_append,
    Text.stacked_append, ← String.append_assoc, ← String.append_assoc]
  exact ((hfront.append hhandlers).before _).finds

/-- Every file for Next.js is laid out for the operations of a relative path. -/
theorem exists_of_mem_nextjs (c : Catalog) (clientPath : String) : ∃ a,
    handlers c .nextjs clientPath = .ok a ∧ ∀ file ∈ a.entries, ∃ path, file.1 = nextjsFile path ∧
      file.2 = Layout.nextjs.text clientPath (bindingsOf (operationsAt c path)) := by
  obtain ⟨a, ha, hentries⟩ := exists_handlers_nextjs c clientPath
  refine ⟨a, ha, fun file hfile => ?_⟩
  rw [hentries, List.mem_map] at hfile
  obtain ⟨⟨path, group⟩, hgroup, rfl⟩ := hfile
  exact ⟨path, rfl, by rw [eq_filter_of_mem_groups hgroup, filter_bindings]⟩

end Route

end Scaffold
