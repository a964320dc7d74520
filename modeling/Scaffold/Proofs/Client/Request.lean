import Scaffold.Client.Module
import Scaffold.Proofs.Template.Rendering

/-!
# The requests of the proxy client

The functions of the proxy client come out of a template. Their text is `proxyText`: they collect
the query in the same statements as the methods of the direct client, and hand the same arguments to
their request wrapper, behind another margin. `exists_proxy` says how the module is put together
from these texts.
-/

namespace Scaffold.Client

open Template

/-- The statements of a function of the proxy client that send the request. -/
def proxyStatements (e : Endpoint) : String :=
  queryStatements "  " e ++
    "  const result = await proxyRequest<" ++ returnType e ++ ">(" ++ arguments "  " e ++ ");"

/-- The function of the proxy client for an operation. -/
def proxyText (name : String) (e : Endpoint) : String :=
  TypeScript.docComment e.description 0 ++
    "export async function " ++ name ++ "(" ++ signature e ++ "): Promise<" ++ returnType e ++
    "> \x7b\n" ++
    proxyStatements e ++
    (if e.localizeTimes then "\n  return localizeTimes(result);" else "\n  return result;") ++
    "\n\x7d"

section
variable (context : Scope) (name : String) (e : Endpoint)

/-- The template finds what the module has to know of an operation. -/
theorem find?_proxyFunction (member : String) {j : Json}
    (h : (proxyFunction name e).member? member = some j) :
    find? [[("f", proxyFunction name e)], context] ["f", member] = some j := by
  simp [find?, Scope.find?, follow?, h]

/-- The request is sent as by the direct client. -/
theorem renderParts?_proxyRequest :
    renderParts? [[("f", proxyFunction name e)], context] proxyRequest =
      some ("\n" ++ proxyStatements e) := by
  have hshape := find?_proxyFunction context name e "shape" rfl
  have hreturn := find?_proxyFunction context name e "return_type" rfl
  have hmethod := find?_proxyFunction context name e "method" rfl
  have hpath := find?_proxyFunction context name e "path" rfl
  have hliteral := find?_proxyFunction context name e "path_literal" rfl
  simp only [proxyRequest, renderParts?, Part.render?, Condition.decide?, hshape, hreturn, hmethod,
    hpath, hliteral, print, Option.map_some]
  -- the two texts differ in where their literals are cut, so literals are joined from the right
  cases hs : Shape.of e with
  | queryGet params =>
    simp only [Shape.name, beq_self_eq_true, proxyStatements, queryStatements, arguments, hs,
      String.append_assoc]
    simp only [← String.append_assoc, String.reduceAppend, String.append_empty]
  | queryDelete params =>
    simp only [Shape.name, String.reduceBEq, beq_self_eq_true, proxyStatements, queryStatements,
      arguments, hs, String.append_assoc]
    simp only [← String.append_assoc, String.reduceAppend, String.append_empty]
  | body fields =>
    simp only [Shape.name, String.reduceBEq, beq_self_eq_true, proxyStatements, queryStatements,
      arguments, hs, String.append_assoc]
    simp only [← String.append_assoc, String.reduceAppend, String.append_empty]
  | noArgs =>
    have hget : (Registry.name e.method == "GET") = decide (e.method = .get) := by
      cases e.method <;> rfl
    by_cases hm : e.method = .get
    · simp only [Shape.name, String.reduceBEq, hget, decide_eq_true hm, proxyStatements,
        queryStatements, arguments, hs, if_pos hm, String.append_assoc]
      simp only [← String.append_assoc, String.reduceAppend, String.append_empty]
    · simp only [Shape.name, String.reduceBEq, hget, decide_eq_false hm, proxyStatements,
        queryStatements, arguments, hs, if_neg hm, String.append_assoc]
      simp only [← String.append_assoc, String.reduceAppend, String.append_empty]

/-- The template makes an operation into its function. -/
theorem renderParts?_proxyFunction :
    renderParts? [[("f", proxyFunction name e)], context] Template.proxyFunction =
      some ("\n\n" ++ proxyText name e) := by
  have hcomment := render?_docComment (find?_proxyFunction context name e "description" rfl)
    (show "/** " = String.ofList (List.replicate 0 ' ') ++ "/** " from rfl)
  have hlocal := find?_proxyFunction context name e "localize_times" rfl
  have hreturn : renderParts? [[("f", proxyFunction name e)], context] [
      .choice (.holds ["f", "localize_times"])
        [.text "\n", .text "  return localizeTimes(result);"]
        [.text "\n", .text "  return result;"],
      .text "\n", .text "\x7d"] =
      some ((if e.localizeTimes then "\n  return localizeTimes(result);"
        else "\n  return result;") ++ "\n\x7d") := by
    simp only [renderParts?, Part.render?, Condition.decide?, hlocal, Option.any_some,
      Template.isTrue]
    cases e.localizeTimes <;> rfl
  have hhead : renderParts? [[("f", proxyFunction name e)], context] [
      .text "export async function ", .value ["f", "name"], .text "(", .value ["f", "signature"],
      .text "): Promise<", .value ["f", "return_type"], .text "> \x7b"] =
      some ("export async function " ++ name ++ "(" ++ signature e ++ "): Promise<" ++
        returnType e ++ "> \x7b") := by
    simp only [renderParts?, Part.render?, Option.map_some, print, String.append_empty,
      find?_proxyFunction context name e "name" rfl,
      find?_proxyFunction context name e "signature" rfl,
      find?_proxyFunction context name e "return_type" rfl]
    simp only [String.append_assoc]
  rw [Template.proxyFunction, renderParts?_append_eq_some (renderParts?_append_eq_some
    (renderParts?_cons_eq_some rfl (renderParts?_cons_eq_some hcomment hhead))
    (renderParts?_proxyRequest context name e)) hreturn, proxyText]
  simp only [String.append_assoc]
  simp only [← String.append_assoc, String.reduceAppend]

end

/-- Behind the preamble, the functions of the proxy client stand one behind the other, in the order
of the catalog. -/
theorem proxy_of_preamble {c : Catalog} {typesPath head : String}
    (hhead : renderParts? [proxyContext c typesPath] proxyPreamble = some head) :
    proxy c typesPath = .ok (head ++
      String.join (c.endpoints.entries.map fun p => "\n\n" ++ proxyText p.1 p.2) ++ "\n") := by
  have hitems : find? [proxyContext c typesPath] ["functions"] =
      some (.array (c.endpoints.entries.map fun p => proxyFunction p.1 p.2)) := rfl
  have hfunctions := render?_each_eq_some "f" hitems fun p _ =>
    renderParts?_proxyFunction (proxyContext c typesPath) p.1 p.2
  rw [proxy, Template.Name.render, Template.Name.parts, Template.proxyClient,
    renderParts?_append_eq_some hhead (renderParts?_cons_eq_some hfunctions rfl)]
  simp only [String.append_assoc]
  rfl

/-- What stands in front of the functions depends on the import path alone. -/
theorem exists_proxy (typesPath : String) : ∃ head, ∀ c : Catalog,
    proxy c typesPath = .ok (head ++
      String.join (c.endpoints.entries.map fun p => "\n\n" ++ proxyText p.1 p.2) ++ "\n") := by
  have hpreamble : ∃ head, ∀ c : Catalog,
      renderParts? [proxyContext c typesPath] proxyPreamble = some head := ⟨_, fun _ => rfl⟩
  obtain ⟨head, hhead⟩ := hpreamble
  exact ⟨head, fun c => proxy_of_preamble (hhead c)⟩

end Scaffold.Client
