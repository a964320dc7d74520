import Scaffold.Proofs.Client.Request
import Scaffold.Proofs.Route.Layout
import Scaffold.Proofs.Table
import Scaffold.Proofs.Text.Lines

/-!
# Assembly

Every module that is made from the entries of a catalog, its operations or its type definitions, is
put together in the same way: a head, a fragment for each entry in order, with a blank line between
two of them, and a tail. The main statement is `modules_are_assembled`: head and tail depend on the
options alone, a fragment on its entry alone, and a change of a stretch of entries changes the
fragments of that stretch.
-/

namespace Scaffold

open Route
open Template (Part RenderError Scope find? find?_item find?_own print renderParts?
  renderParts?_append_eq_some renderParts?_cons_eq_some render?_docComment render?_each_eq_some)

/-- A file is put together from entries. `line` is what of the file is told apart: the beginning up
to the import line of the controller, and nothing elsewhere. -/
structure Assembles {α : Type} (line : Catalog → String) (entries : Catalog → List α)
    (fragment : α → String) (file : Catalog → Option String) (head tail : String) : Prop where
  /-- There is a fragment for each entry, in order, with a blank line between two of them. -/
  whole : ∀ c, entries c ≠ [] →
    file c = some (line c ++ (head ++ "\n\n".intercalate ((entries c).map fragment) ++ tail))
  /-- What stands around the fragments of a stretch of entries does not depend on the stretch. -/
  stretch : ∀ c before mid behind, mid ≠ [] → entries c = before ++ mid ++ behind →
    file c = some (line c ++ (
      head ++ String.join (before.map fun a => fragment a ++ "\n\n") ++
        "\n\n".intercalate (mid.map fragment) ++
      String.join (behind.map fun a => "\n\n" ++ fragment a) ++ tail))

section
variable {α : Type} {line : Catalog → String} {entries : Catalog → List α} {fragment : α → String}
  {file : Catalog → Option String} {head tail : String}

/-- A whole file can be cut at every stretch of its entries. -/
theorem assembles_of_whole (h : ∀ c, entries c ≠ [] →
    file c = some (line c ++ (head ++ "\n\n".intercalate ((entries c).map fragment) ++ tail))) :
    Assembles line entries fragment file head tail where
  whole := h
  stretch c before mid behind hmid hentries := by
    rw [h c (by simp [hentries, hmid]), hentries,
      Text.intercalate_stretch "\n\n" fragment before behind hmid]
    simp only [String.append_assoc]

/-- A file of fragments that have a blank line in front. -/
theorem assembles_of_opened (h : ∀ c, file c = some (line c ++ (head ++
    String.join ((entries c).map fun a => "\n\n" ++ fragment a) ++ tail))) :
    Assembles line entries fragment file (head ++ "\n\n") tail := by
  refine assembles_of_whole fun c hentries => ?_
  rw [h c, Text.join_opened "\n\n" fragment hentries]
  simp only [String.append_assoc]

end

/-- No part of a file is told apart. -/
def noLine (_ : Catalog) : String := ""

/-- The operations of a catalog. -/
def operations (c : Catalog) : List (String × Endpoint) := c.endpoints.entries

/-- The content of a generated file. -/
def contentOf (x : Except RenderError Artifact) (name : String) : Option String :=
  x.toOption.bind fun a => a.get? name

/-! ## The direct client -/

namespace Client

/-- The method of the direct client for an operation without the line break at its end. -/
def methodText (p : String × Endpoint) : String := String.ofList (method p.1 p.2).toList.dropLast

/-- A method ends with a brace and a line break. -/
theorem exists_methodText (p : String × Endpoint) :
    method p.1 p.2 = methodText p ++ "\n" ∧ ∃ front, methodText p = front ++ "\x7d" := by
  have hending (s : String) : s ++ "  \x7d\n" = s ++ "  " ++ "\x7d" ++ "\n" := by
    simp only [String.append_assoc, String.reduceAppend]
  have hmethod : ∃ front, method p.1 p.2 = front ++ "\x7d" ++ "\n" := ⟨_, hending _⟩
  obtain ⟨front, hfront⟩ := hmethod
  have htext : methodText p = front ++ "\x7d" := by
    rw [methodText, hfront, String.toList_append, show "\n".toList = ['\n'] from rfl,
      List.dropLast_concat, String.ofList_toList]
  exact ⟨by rw [hfront, htext], front, htext⟩

/-- Behind a brace, a line break is trimmed and nothing else. -/
theorem trimEnd_brace (front : String) :
    Text.trimEnd (front ++ "\x7d" ++ "\n") = front ++ "\x7d" := by
  have htext : (front ++ "\x7d" ++ "\n").toList.reverse =
      '\n' :: '\x7d' :: front.toList.reverse := by
    rw [String.toList_append, String.toList_append, List.reverse_append, List.reverse_append]
    rfl
  rw [Text.trimEnd, htext, List.dropWhile_cons_of_pos rfl, List.dropWhile_cons_of_neg (by decide),
    List.reverse_cons, List.reverse_reverse, String.ofList_append, String.ofList_toList]

/-- The methods one below the other have a line break at the end. -/
theorem intercalate_method {l : List (String × Endpoint)} (h : l ≠ []) :
    "\n".intercalate (l.map fun p => method p.1 p.2) =
      "\n\n".intercalate (l.map methodText) ++ "\n" := by
  have hclosed := Text.join_closed "\n" (fun p : String × Endpoint => method p.1 p.2) h
  have hbreaks : (fun p : String × Endpoint => method p.1 p.2 ++ "\n") =
      fun p => methodText p ++ "\n\n" := by
    funext p
    rw [(exists_methodText p).1, String.append_assoc]
    rfl
  rw [hbreaks, Text.join_closed "\n\n" methodText h, show "\n\n" = "\n" ++ "\n" from rfl,
    ← String.append_assoc] at hclosed
  exact (String.append_left_inj _).1 hclosed.symm

/-- The methods in one text are the methods less the line break at the end. -/
theorem methods_eq {c : Catalog} (h : operations c ≠ []) :
    methods c = "\n\n".intercalate ((operations c).map methodText) := by
  have hlast : ∃ front, "\n\n".intercalate ((operations c).map methodText) = front ++ "\x7d" := by
    have hcut := Text.intercalate_stretch "\n\n" methodText (operations c).dropLast []
      (List.cons_ne_nil ((operations c).getLast h) [])
    rw [List.append_nil, List.dropLast_append_getLast] at hcut
    obtain ⟨-, front, hfront⟩ := exists_methodText ((operations c).getLast h)
    rw [hcut, List.map_singleton, String.intercalate_singleton, hfront, List.map_nil,
      String.join_nil, String.append_empty, ← String.append_assoc]
    exact ⟨_, rfl⟩
  obtain ⟨front, hfront⟩ := hlast
  have hmethods : methods c =
      Text.trimEnd ("\n".intercalate ((operations c).map fun p => method p.1 p.2)) := rfl
  rw [hmethods, intercalate_method h, hfront, trimEnd_brace]

/-- The direct client is its methods between texts that do not depend on the catalog. -/
theorem exists_direct (environment : Environment) (baseUrl typesPath : String) : ∃ head tail, ∀ c,
    direct c environment baseUrl typesPath = .ok (head ++ methods c ++ tail) := by
  -- only the third part from the end is taken from the catalog
  let front := Template.directClient.take (Template.directClient.length - 3)
  have hcut : Template.directClient = front ++ [.value ["methods"], .text "\n", .text "\x7d\n"] :=
    rfl
  have hfront : ∃ head, ∀ c,
      renderParts? [directContext c environment baseUrl typesPath] front = some head :=
    ⟨_, fun _ => rfl⟩
  obtain ⟨head, hhead⟩ := hfront
  refine ⟨head, "\n" ++ ("\x7d\n" ++ ""), fun c => ?_⟩
  have hback : renderParts? [directContext c environment baseUrl typesPath]
      [.value ["methods"], .text "\n", .text "\x7d\n"] =
      some (methods c ++ ("\n" ++ ("\x7d\n" ++ ""))) := by
    have hmethods : find? [directContext c environment baseUrl typesPath] ["methods"] =
        some (.string (methods c)) := rfl
    simp only [renderParts?, Part.render?, hmethods, Option.map_some, print]
  rw [direct, Template.Name.render, Template.Name.parts, hcut,
    renderParts?_append_eq_some (hhead c) hback, ← String.append_assoc]

/-- The direct client has the method of every operation. -/
theorem exists_direct_methodText {c : Catalog} {p : String × Endpoint} (hp : p ∈ operations c)
    (environment : Environment) (baseUrl typesPath : String) :
    ∃ before behind, direct c environment baseUrl typesPath =
      .ok (before ++ methodText p ++ behind) := by
  obtain ⟨head, tail, hdirect⟩ := exists_direct environment baseUrl typesPath
  obtain ⟨l, r, hsplit⟩ := List.append_of_mem hp
  refine ⟨head ++ String.join (l.map fun q => methodText q ++ "\n\n"),
    String.join (r.map fun q => "\n\n" ++ methodText q) ++ tail, ?_⟩
  have hstretch := Text.intercalate_stretch "\n\n" methodText l r (List.cons_ne_nil p [])
  rw [List.append_assoc, List.singleton_append, ← hsplit, List.map_singleton,
    String.intercalate_singleton] at hstretch
  rw [hdirect, methods_eq (List.ne_nil_of_mem hp), hstretch]
  simp only [String.append_assoc]

/-! ## The module of domain types -/

/-- A line of an interface, below its comment. -/
def memberText (q : String × Field) : String :=
  TypeScript.docComment q.2.description 2 ++ "  " ++ TypeScript.interfaceMember q.1 q.2

/-- The interface of a domain type. -/
def interfaceText (t : TypeDefinition) : String :=
  TypeScript.docComment t.description 0 ++ "export interface " ++ Registry.name t.domain ++
    " \x7b" ++ String.join (t.fields.entries.map fun q => "\n" ++ memberText q) ++ "\n\x7d"

section
variable (scopes : List Scope)

/-- The template makes a field into its line. -/
theorem renderParts?_member (q : String × Field) :
    renderParts? ([("m", interfaceLine q.1 q.2)] :: scopes) [
      .text "\n",
      .choice (.holds ["m", "description"])
        [.text "  /** ", .value ["m", "description"], .text " */\n"] [],
      .text "  ", .value ["m", "line"]] = some ("\n" ++ memberText q) := by
  have hbreak (scopes : List Scope) : Part.render? scopes (.text "\n") = some "\n" := by
    rw [Part.render?]
  have hcomment :=
    render?_docComment (show find? ([("m", interfaceLine q.1 q.2)] :: scopes) _ = _ from
    find?_item "m" _ "description" rfl)
    (show "  /** " = String.ofList (List.replicate 2 ' ') ++ "/** " from rfl)
  have hline :
      renderParts? ([("m", interfaceLine q.1 q.2)] :: scopes) [.text "  ", .value ["m", "line"]] =
      some ("  " ++ (TypeScript.interfaceMember q.1 q.2 ++ "")) := by
    simp only [renderParts?, Part.render?, find?_item "m" (interfaceLine q.1 q.2) "line" rfl,
      Option.map_some, print]
  rw [renderParts?_cons_eq_some (hbreak _) (renderParts?_cons_eq_some hcomment hline), memberText,
    String.append_empty]
  simp only [String.append_assoc]

/-- The template makes a domain type into its interface. -/
theorem renderParts?_interface (t : TypeDefinition) :
    renderParts? ([("t", interface t)] :: scopes)
      (Template.eachBody (Template.afterEach Template.typesModule)) =
      some ("\n\n" ++ interfaceText t) := by
  have hblank : Part.render? ([("t", interface t)] :: scopes) (.text "\n\n") = some "\n\n" := by
    rw [Part.render?]
  have hcomment := render?_docComment (show find? ([("t", interface t)] :: scopes) _ = _ from
    find?_item "t" _ "description" rfl)
    (show "/** " = String.ofList (List.replicate 0 ' ') ++ "/** " from rfl)
  have hname : renderParts? ([("t", interface t)] :: scopes)
      [.text "export interface ", .value ["t", "name"], .text " \x7b"] =
      some ("export interface " ++ Registry.name t.domain ++ " \x7b") := by
    simp only [renderParts?, Part.render?, find?_item "t" (interface t) "name" rfl, Option.map_some,
      print, String.append_empty, String.append_assoc]
  have hmembers := render?_each_eq_some "m" (show find? ([("t", interface t)] :: scopes) _ = _ from
    find?_item "t" _ "members" rfl) fun q _ =>
    renderParts?_member ([("t", interface t)] :: scopes) q
  have hback :
      renderParts? ([("t", interface t)] :: scopes) [.text "\n", .text "\x7d"] = some "\n\x7d" := by
    simp only [renderParts?, Part.render?, String.append_empty, String.reduceAppend]
  have hbody := renderParts?_cons_eq_some hblank (renderParts?_cons_eq_some hcomment
    (renderParts?_append_eq_some hname (renderParts?_cons_eq_some hmembers hback)))
  refine Eq.trans hbody ?_
  rw [interfaceText]
  simp only [String.append_assoc]

end

/-- The module of domain types is the interfaces behind a text that does not depend on the
catalog. -/
theorem exists_types : ∃ head, ∀ c : Catalog, types c =
    .ok (head ++ String.join (c.types.map fun t => "\n\n" ++ interfaceText t) ++ "\n") := by
  have halias : ∃ text : EnumType → String, ∀ scopes e,
      renderParts? ([("e", enumAlias e)] :: scopes) (Template.eachBody Template.typesModule) =
        some (text e) := ⟨_, fun _ _ => rfl⟩
  obtain ⟨text, htext⟩ := halias
  refine ⟨generatedHeader ++ String.join ((Registry.all (α := EnumType)).map text), fun c => ?_⟩
  have hheader : Part.render? [typesContext c] (.value ["header"]) = some generatedHeader := rfl
  have henums : find? [typesContext c] ["enums"] =
      some (.array ((Registry.all (α := EnumType)).map enumAlias)) := rfl
  have hinterfaces : find? [typesContext c] ["interfaces"] =
      some (.array (c.types.map interface)) := rfl
  have hback : renderParts? [typesContext c] [.text "\n"] = some "\n" := rfl
  have htemplate : renderParts? [typesContext c] Template.typesModule = _ :=
    renderParts?_cons_eq_some hheader (renderParts?_cons_eq_some
      (render?_each_eq_some "e" henums fun e _ => htext _ e) (renderParts?_cons_eq_some
        (render?_each_eq_some "t" hinterfaces fun t _ => renderParts?_interface _ t) hback))
  rw [types, Template.Name.render, Template.Name.parts, htemplate]
  simp only [String.append_assoc]

end Client

/-! ## Route handlers -/

namespace Route

/-- The handler for an operation. -/
def Layout.fragment (L : Layout) (p : String × Endpoint) : String :=
  "\n".intercalate (L.block (Binding.of p.1 p.2))

/-- What stands in front of the handlers. -/
def Layout.opening (L : Layout) (clientPath imports : String) : String :=
  "\n".intercalate (Client.generatedHeader :: L.front clientPath imports)

/-- The file of a layout is put together from the handlers. -/
theorem Layout.text_bindings (L : Layout) (clientPath : String) (c : Catalog) :
    L.text clientPath (bindings c) = L.opening clientPath (importNames (bindings c)) ++
      String.join ((operations c).map fun p => "\n\n" ++ L.fragment p) ++ Text.stacked L.back := by
  have hblock (b : Binding) : Text.stacked ("" :: L.block b) =
      "\n\n" ++ "\n".intercalate (L.block b) := by
    rw [Text.stacked_cons, Text.stacked_of_ne_nil (by simp [Layout.block]), ← String.append_assoc]
    rfl
  have hblocks : (bindings c).map (fun b => Text.stacked ("" :: L.block b)) =
      (operations c).map fun p => "\n\n" ++ L.fragment p := by
    rw [bindings, List.map_map]
    exact List.map_congr_left fun p _ => hblock _
  rw [Layout.text, Layout.lines, List.cons_append, List.cons_append, Text.intercalate_cons,
    Text.stacked_append, Text.stacked_append, Text.stacked_flatMap, hblocks, Layout.opening,
    Text.intercalate_cons]
  simp only [String.append_assoc]

/-- A file of handlers is put together from them, if the imported names do not stand in it. -/
theorem Layout.assembles {L : Layout} {clientPath : String} {file : Catalog → Option String}
    (hfront : ∀ imports, L.front clientPath imports = L.front clientPath "")
    (hfile : ∀ c, file c = some (L.text clientPath (bindings c))) :
    ∃ head tail, Assembles noLine operations L.fragment file head tail := by
  refine ⟨L.opening clientPath "" ++ "\n\n", Text.stacked L.back, assembles_of_opened fun c => ?_⟩
  rw [hfile c, L.text_bindings, Layout.opening, hfront, noLine, String.empty_append]
  rfl

/-- The controller and the service are those of their layouts. -/
theorem contentOf_nestjs (c : Catalog) (clientPath : String) :
    contentOf (handlers c .nestjs clientPath) "scheduling.controller.ts" =
        some (Layout.controller.text clientPath (bindings c)) ∧
      contentOf (handlers c .nestjs clientPath) "scheduling.service.ts" =
        some (Layout.service.text clientPath (bindings c)) := by
  rw [handlers_nestjs]
  simp [contentOf, Except.toOption, Artifact.get?, Artifact.entries, Table.entries_ofList,
    List.lookup_cons]

/-- The beginning of the controller, up to its import line. -/
def importLine (c : Catalog) : String :=
  Client.generatedHeader ++ "\n" ++
    "import \x7b " ++ importNames (bindings c) ++ " \x7d from '@nestjs/common';"

end Route

/-! ## All modules -/

/-- The modules that are made from the entries of a catalog are put together from them. -/
structure Assembled (environment : Environment) (baseUrl typesPath clientPath : String) : Prop where
  direct : ∃ head tail, Assembles noLine operations Client.methodText
    (fun c => (Client.direct c environment baseUrl typesPath).toOption) head tail
  /-- A method lacks nothing of its text but the last line break, also behind the last method. -/
  trimmed : ∀ c, operations c ≠ [] → (∀ p, Client.method p.1 p.2 = Client.methodText p ++ "\n") ∧
    Client.methods c ++ "\n" = "\n".intercalate ((operations c).map fun p => Client.method p.1 p.2)
  proxy : ∃ head tail, Assembles noLine operations (fun p => Client.proxyText p.1 p.2)
    (fun c => (Client.proxy c typesPath).toOption) head tail
  express : ∃ head tail, Assembles noLine operations Layout.express.fragment
    (fun c => contentOf (handlers c .express clientPath) "scheduling.routes.ts") head tail
  fastify : ∃ head tail, Assembles noLine operations Layout.fastify.fragment
    (fun c => contentOf (handlers c .fastify clientPath) "scheduling.plugin.ts") head tail
  service : ∃ head tail, Assembles noLine operations Layout.service.fragment
    (fun c => contentOf (handlers c .nestjs clientPath) "scheduling.service.ts") head tail
  controller : ∃ head tail, Assembles importLine operations Layout.controller.fragment
    (fun c => contentOf (handlers c .nestjs clientPath) "scheduling.controller.ts") head tail
  types : ∃ head tail, Assembles noLine Catalog.types Client.interfaceText
    (fun c => (Client.types c).toOption) head tail

/-- Every module is put together from its entries, whatever the options. -/
theorem modules_are_assembled (environment : Environment) (baseUrl typesPath clientPath : String) :
    Assembled environment baseUrl typesPath clientPath where
  direct := by
    obtain ⟨head, tail, h⟩ := Client.exists_direct environment baseUrl typesPath
    refine ⟨head, tail, assembles_of_whole fun c hentries => ?_⟩
    rw [h c, Client.methods_eq hentries, noLine, String.empty_append]
    rfl
  trimmed c hentries :=
    ⟨fun p => (Client.exists_methodText p).1, by
      rw [Client.methods_eq hentries, Client.intercalate_method hentries]⟩
  proxy := by
    obtain ⟨head, h⟩ := Client.exists_proxy typesPath
    refine ⟨head ++ "\n\n", "\n", assembles_of_opened fun c => ?_⟩
    rw [h c, noLine, String.empty_append]
    rfl
  express := Layout.assembles (fun _ => rfl) fun c => by
    rw [handlers_express]
    rfl
  fastify := Layout.assembles (fun _ => rfl) fun c => by
    rw [handlers_fastify]
    rfl
  service := Layout.assembles (fun _ => rfl) fun c =>
    (contentOf_nestjs c clientPath).2
  controller := by
    have hfront (imports : String) : Layout.controller.front clientPath imports =
        ("import \x7b " ++ imports ++ " \x7d from '@nestjs/common';") ::
          (Layout.controller.front clientPath "").tail := rfl
    refine ⟨Text.stacked (Layout.controller.front clientPath "").tail ++ "\n\n",
      Text.stacked Layout.controller.back, assembles_of_opened fun c => ?_⟩
    rw [(contentOf_nestjs c clientPath).1, Layout.text_bindings,
      Layout.opening, Text.intercalate_cons, hfront, Text.stacked_cons, importLine]
    simp only [String.append_assoc]
  types := by
    obtain ⟨head, h⟩ := Client.exists_types
    refine ⟨head ++ "\n\n", "\n", assembles_of_opened fun c => ?_⟩
    rw [h c, noLine, String.empty_append]
    rfl

end Scaffold
