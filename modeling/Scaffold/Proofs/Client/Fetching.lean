import Scaffold.Proofs.Client.Outline
import Scaffold.Proofs.Client.QueryPath

/-!
# What the proxy client fetches

The functions of the proxy client hand a path to their request wrapper, which fetches it behind a
constant prefix. `Outline.path?` reads the path off the arguments of the wrapper. The main statement
is `proxy_fetches`: it is the path of the operation, provided that a path with a query behind it can
be written into a template literal as it is.
-/

namespace Scaffold.Client

open Template
open TypeScript

/-! ## Reading -/

/-- Reads the path in the arguments of a request wrapper: the literal that they begin with, or the
first template literal up to the question mark in front of its first expression. -/
def readPath? (arguments : List Char) : Option (List Nat) :=
  match readLiteral? arguments with
  | some (path, _) => some path
  | none =>
    (readTemplate? (arguments.dropWhile (· != '`')).tail).bind fun p =>
      if p.1.head.getLast? = some '?'.toNat then some p.1.head.dropLast else none

/-- The path of a request. -/
def Outline.path? (o : Outline) : Option (List Nat) :=
  o.arguments.head?.bind fun line => readPath? line.toList

/-- The constant in front of the paths. -/
def prefixLine : String := "const PROXY_PREFIX = " ++ quote routePrefix ++ ";\n\n"

/-- The line in which the request wrapper fetches the path behind the constant. -/
def fetchLine : String :=
  "  const response = await fetch(`$\x7bPROXY_PREFIX\x7d$\x7bpath\x7d`, \x7b\n"

/-- For an operation, the proxy client fetches its path behind the route prefix. -/
structure Fetches (c : Catalog) (typesPath name : String) (e : Endpoint) : Prop where
  /-- The constant and the request wrapper stand in front of the function of the operation. -/
  exported : ∃ before between behind after, proxy c typesPath =
    .ok (before ++ prefixLine ++ between ++
    fetchLine ++ behind ++ (Outline.of name e).proxied e.localizeTimes ++ after)
  /-- The constant is read as the route prefix. -/
  constant : ∀ after, readLiteral? ((quote routePrefix).toList ++ after) =
    some (units routePrefix.toList, after)
  /-- The path that the request wrapper is called with is that of the operation. -/
  path : (∀ params, e.payload = .query params → StandsInTemplate e.path.toList) →
    (Outline.of name e).path? = some (units e.path.toList)

/-! ## The path of an operation -/

section
variable {name : String} {e : Endpoint}

/-- A quoted path is read as the path. -/
theorem readPath?_quote (s : String) (rest : List Char) :
    readPath? ((quote s).toList ++ rest) = some (units s.toList) := by
  rw [readPath?, readLiteral?_quote]

/-- A path in front of a query is read as the path, if it can be written into a template literal. -/
theorem readPath?_querySource (h : StandsInTemplate e.path.toList) {opening : List Char}
    (hopening : ∀ c ∈ opening, c ≠ '`')
    (hliteral : ∀ cs, readLiteral? (opening ++ '`' :: cs) = none) (rest : List Char) :
    readPath? (opening ++ '`' :: ((querySource e).toList ++ '`' :: rest)) =
      some (units e.path.toList) := by
  have hbehind : (opening ++ '`' :: ((querySource e).toList ++ '`' :: rest)).dropWhile (· != '`') =
      '`' :: ((querySource e).toList ++ '`' :: rest) := by
    rw [List.dropWhile_append_of_pos fun c hc => by simpa using hopening c hc,
      List.dropWhile_cons_of_neg (by decide)]
  have hquestion : units (e.path.toList ++ ['?']) = units e.path.toList ++ ['?'.toNat] := by
    rw [units_append]
    rfl
  rw [readPath?, hliteral, hbehind, List.tail_cons, readTemplate?_querySource_iff.2 h,
    Option.bind_some, hquestion]
  simp only [List.getLast?_concat, List.dropLast_concat, if_true]

/-- The path of the request for an operation. -/
theorem path?_of (h : ∀ params, e.payload = .query params → StandsInTemplate e.path.toList) :
    (Outline.of name e).path? = some (units e.path.toList) := by
  have harguments : (Outline.of name e).arguments = argumentLines e := rfl
  rw [Outline.path?, harguments, argumentLines]
  cases hp : e.payload with
  | query params =>
    by_cases hd : e.method = .delete
    · have hline :
          ("`" ++ e.path ++ "?$\x7bquery.toString()\x7d`, \x7b method: 'DELETE' \x7d").toList =
            [] ++ '`' ::
              ((querySource e).toList ++ '`' :: ", \x7b method: 'DELETE' \x7d".toList) := by
        simp [querySource, queryExpression, hd]
      simp only [Shape.of, hp, if_pos hd, List.head?_cons, Option.bind_some, hline]
      exact readPath?_querySource (h params hp) (by simp) (fun _ => rfl) _
    · have hline :
          ("queryString ? `" ++ e.path ++ "?$\x7bqueryString\x7d` : " ++ quote e.path).toList =
            "queryString ? ".toList ++ '`' ::
              ((querySource e).toList ++ '`' :: (" : ".toList ++ (quote e.path).toList)) := by
        simp [querySource, queryExpression, hd]
      simp only [Shape.of, hp, if_neg hd, List.head?_cons, Option.bind_some, hline]
      exact readPath?_querySource (h params hp) (by simp) (fun _ => rfl) _
  | body fields =>
    simp only [Shape.of, hp, List.head?_cons, Option.bind_some, String.toList_append]
    exact readPath?_quote e.path _
  | none =>
    by_cases hm : e.method = .get
    · have hquote := readPath?_quote e.path []
      rw [List.append_nil] at hquote
      simpa only [Shape.of, hp, if_pos hm, List.head?_cons, Option.bind_some] using hquote
    · simp only [Shape.of, hp, if_neg hm, List.head?_cons, Option.bind_some, String.toList_append,
        List.append_assoc]
      exact readPath?_quote e.path _

/-! ## The module -/

/-- The constant and the request wrapper stand in front of all functions. -/
theorem exists_proxy_fetchLine (typesPath : String) : ∃ before between behind, ∀ c,
    proxy c typesPath = .ok (before ++ prefixLine ++ between ++ fetchLine ++ behind ++
      String.join (c.endpoints.entries.map fun p => "\n\n" ++ proxyText p.1 p.2) ++ "\n") := by
  -- the preamble is cut at the constant and at the line that fetches
  let front := proxyPreamble.take 5
  let middle := (proxyPreamble.drop 8).take 8
  let rest := proxyPreamble.drop 17
  have hcut : proxyPreamble = front ++
      ([.text "const PROXY_PREFIX = ", .value ["route_prefix"], .text ";\n\n"] ++
        (middle ++ (.text fetchLine :: rest))) := rfl
  have htexts : ∃ before between behind, ∀ c,
      renderParts? [proxyContext c typesPath] front = some before ∧
      renderParts? [proxyContext c typesPath] middle = some between ∧
      renderParts? [proxyContext c typesPath] rest = some behind :=
    ⟨_, _, _, fun _ => ⟨rfl, rfl, rfl⟩⟩
  obtain ⟨before, between, behind, htexts⟩ := htexts
  refine ⟨before, between, behind, fun c => ?_⟩
  obtain ⟨hbefore, hbetween, hbehind⟩ := htexts c
  have hprefix : renderParts? [proxyContext c typesPath]
      [.text "const PROXY_PREFIX = ", .value ["route_prefix"], .text ";\n\n"] =
        some prefixLine := rfl
  have hfetch : Part.render? [proxyContext c typesPath] (.text fetchLine) = some fetchLine := by
    rw [Part.render?]
  have hpreamble : renderParts? [proxyContext c typesPath] proxyPreamble = _ :=
    renderParts?_append_eq_some hbefore (renderParts?_append_eq_some hprefix
      (renderParts?_append_eq_some hbetween (renderParts?_cons_eq_some hfetch hbehind)))
  rw [proxy_of_preamble hpreamble]
  simp only [String.append_assoc]

/-- For every operation of a catalog, the proxy client fetches its path behind the route prefix. -/
theorem proxy_fetches {c : Catalog} (he : (name, e) ∈ c.endpoints.entries) (typesPath : String) :
    Fetches c typesPath name e where
  exported := by
    obtain ⟨before, between, behind, hproxy⟩ := exists_proxy_fetchLine typesPath
    obtain ⟨l, r, hsplit⟩ := List.append_of_mem he
    refine ⟨before, between,
      behind ++ String.join (l.map fun p => "\n\n" ++ proxyText p.1 p.2) ++ "\n\n",
      String.join (r.map fun p => "\n\n" ++ proxyText p.1 p.2) ++ "\n", ?_⟩
    rw [hproxy, hsplit, List.map_append, List.map_cons, String.join_append, String.join_cons,
      ← proxyText_eq_proxied]
    simp only [String.append_assoc]
  constant := readLiteral?_quote routePrefix
  path := path?_of

end

end Scaffold.Client
