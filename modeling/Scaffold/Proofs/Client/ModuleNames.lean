import Scaffold.Proofs.Assembly
import Scaffold.Proofs.Catalog.Acceptance
import Scaffold.Proofs.Route.Argument
import Scaffold.Proofs.Text.Finding
import Scaffold.Proofs.TypeScript.Code

/-!
# The names of the proxy module

The proxy module declares its helpers and one function for each operation side by side, so the name
of an operation may take the place of a name that the code of the module relies on. `freeNames` are
the names in the code of the template that are bound nowhere in it, together with those of the
helpers; the others are `globalNames`. The main statement is `operations_capture_no_name_iff`: the
declared names are distinct in every accepted catalog, but they can all be declared, and all free
names keep their meaning, exactly if no operation is called `eval` or `arguments` or by a global
name, which no check asks for.
-/

namespace Scaffold

open Route (readName readName_reads)
open Template (find?_own renderParts? renderParts?_append_eq_some renderParts?_cons_eq_some)
open Text (Adds Finds adds_nil)

/-! ## The code of a template -/

namespace Template

/-- The bytes of a text as characters. The templates are written in ASCII, so these are theirs. -/
def asciiChars (s : String) : List Char := s.toByteArray.data.toList.map fun b => Char.ofNat b.toNat

mutual

/-- The texts of a part, in all alternatives of a choice, without the values between them. -/
def Part.code : Part → List Char
  | .text s => asciiChars s
  | .value _ => []
  | .choice _ yes no => codeOf yes ++ codeOf no
  | .each _ _ body => codeOf body

/-- The texts of parts one after the other. -/
def codeOf : List Part → List Char
  | [] => []
  | p :: rest => p.code ++ codeOf rest

end

end Template

namespace TypeScript

/-! ## The names of code -/

/-- The names that code binds, at its top or in a function: constants and variables, items of arrays
that are taken apart, and parameters. The keys of objects are among them. -/
def boundNames : List Token → List String
  | .word "const" :: .word n :: ts => n :: boundNames ts
  | .word "let" :: .word n :: ts => n :: boundNames ts
  | .mark '[' :: .word m :: .mark ',' :: .word n :: .mark ']' :: ts => m :: n :: boundNames ts
  | .mark '(' :: .word n :: .mark ')' :: .mark '=' :: .mark '>' :: ts => n :: boundNames ts
  | .word n :: .mark ':' :: ts => n :: boundNames ts
  | _ :: ts => boundNames ts
  | [] => []

/-- The words of code that are no properties. Three dots in front of a name spread its value. -/
def usedWords : List Token → List String
  | .mark '.' :: .mark '.' :: .mark '.' :: ts => usedWords ts
  | .mark '.' :: .word _ :: ts => usedWords ts
  | .word n :: ts => n :: usedWords ts
  | .mark _ :: ts => usedWords ts
  | [] => []

/-! ## Names that can be declared -/

/-- The words that cannot be declared at the top of a module: the reserved ones, those that are
reserved in strict code, and the two that strict code does not bind. -/
def undeclarableWords : List String := [
  "await", "break", "case", "catch", "class", "const", "continue", "debugger", "default",
  "delete", "do", "else", "enum", "export", "extends", "false", "finally", "for", "function", "if",
  "import", "in", "instanceof", "new", "null", "return", "super", "switch", "this", "throw", "true",
  "try", "typeof", "var", "void", "while", "with", "yield", "implements", "interface", "let",
  "package", "private", "protected", "public", "static", "eval", "arguments"]

/-- A name that can be declared at the top of a module. -/
def Declarable (n : String) : Prop := isIdentifierShape n = true ∧ n ∉ undeclarableWords

instance (n : String) : Decidable (Declarable n) := inferInstanceAs (Decidable (_ ∧ _))

/-- The check of names lets the last two words through, and only those. -/
theorem declarable_iff {n : String} (h : isIdentifier n = true) :
    Declarable n ↔ n ≠ "eval" ∧ n ≠ "arguments" := by
  rw [isIdentifier, Bool.and_eq_true, Bool.not_eq_true', ← Bool.not_eq_true,
    List.contains_iff_mem] at h
  obtain ⟨hshape, hfree⟩ := h
  have hwords : ∀ w ∈ undeclarableWords, w ∈ reservedWords ∨ w = "eval" ∨ w = "arguments" := by
    decide
  constructor
  · rintro ⟨-, hn⟩
    exact ⟨fun heval => hn (heval ▸ by decide), fun harguments => hn (harguments ▸ by decide)⟩
  · rintro ⟨heval, harguments⟩
    refine ⟨hshape, fun hn => ?_⟩
    obtain h | h | h := hwords n hn
    · exact hfree h
    · exact heval h
    · exact harguments h

end TypeScript

namespace Client
open TypeScript

/-- The names that the code of the proxy module declares itself. -/
def helperNames : List String := [
  "Types", "PROXY_PREFIX", "SchedulingProxyError", "proxyRequest", "ISO_UTC_TIMESTAMP", "pad",
  "toLocalIsoString", "localizeTimes"]

/-- The names that it takes from outside of the module. -/
def globalNames : List String := [
  "fetch", "URLSearchParams", "Object", "String", "JSON", "Array", "Number", "Date",
  "Math", "Error", "undefined"]

/-- The tokens of the template. -/
def proxyTokens : List Token :=
  tokensFrom [] (stripped [.code] (Template.codeOf Template.proxyClient))

/-- The words of the language, apart from the reserved ones, -/
def languageWords : List String := ["as", "async", "constructor", "from", "of", "readonly"]

/-- the names of types, which no function takes the place of, -/
def typeNames : List String :=
  ["string", "number", "unknown", "T", "Promise", "Record", "RequestInit"]

/-- and the parameters of the functions for operations, which are not in the template. -/
def signatureNames : List String := ["params", "data"]

/-- The names in the code of the template that are bound nowhere in it, and those of the
helpers. Names of the language, of types and of parameters of the functions for operations are
not among them. -/
def freeNames : List String :=
  (usedWords proxyTokens).filter fun n => isIdentifier n &&
    !(languageWords ++ typeNames ++ signatureNames).contains n &&
    (helperNames.contains n || !(boundNames proxyTokens).contains n)

/-- These are the names that the module declares itself, and the global ones. -/
theorem mem_freeNames_iff (n : String) : n ∈ freeNames ↔ n ∈ helperNames ∨ n ∈ globalNames := by
  have hnames : (∀ n ∈ freeNames, n ∈ helperNames ++ globalNames) ∧
      ∀ n ∈ helperNames ++ globalNames, n ∈ freeNames := by decide +kernel
  rw [← List.mem_append]
  exact ⟨hnames.1 n, hnames.2 n⟩

/-! ## The names that the module declares -/

/-- The names that the module declares: those of the helpers and of the operations. -/
def moduleNames (c : Catalog) : List String := helperNames ++ c.names

/-- Where the helpers are declared. -/
def helperPlaces : List (String × String) := [
  ("\nimport * as ", "Types"), ("\nconst ", "PROXY_PREFIX"),
  ("\nexport class ", "SchedulingProxyError"), ("\nasync function ", "proxyRequest"),
  ("\nconst ", "ISO_UTC_TIMESTAMP"), ("\nfunction ", "pad"), ("\nfunction ", "toLocalIsoString"),
  ("\nexport function ", "localizeTimes")]

/-- Where the functions for operations are declared. -/
def functionPlaces (c : Catalog) : List (String × String) :=
  c.names.map fun n => ("\nexport async function ", n)

/-- What a name stands for in the code of the module. -/
inductive Meaning where
  /-- The function for an operation. -/
  | operation
  /-- What the module declares itself. -/
  | helper
  /-- What it takes from outside. -/
  | outside
  deriving DecidableEq

/-- What a name stands for next to operations. -/
def meaning (operations : List String) (n : String) : Meaning :=
  if n ∈ operations then .operation else if n ∈ helperNames then .helper else .outside

section
variable {typesPath : String} {places : List (String × String)} {parts : List Template.Part}

/-- A name is read where it is declared, if what stands behind it is no part of it. -/
theorem adds_name {name behind : String} (hname : isIdentifier name = true) (front : String)
    (hbehind : ∃ c cs, behind.toList = c :: cs ∧ isIdentifierPart c = false) :
    Adds readName [(front, name)] (front ++ (name ++ behind)) where
  step more rest h := by
    obtain ⟨c, cs, htext, hc⟩ := hbehind
    have hread : readName (name.toList ++ (behind.toList ++ rest)) =
        some (name, behind.toList ++ rest) := by
      refine readName_reads hname fun d hd => ?_
      rw [htext] at hd
      cases hd
      exact hc
    refine ⟨[], name.toList ++ (behind.toList ++ rest), behind.toList ++ rest, ?_, hread,
      (adds_nil behind).step more rest h⟩
    simp only [String.toList_append, List.append_assoc, List.nil_append]

/-- Parts of the template that come out alike for all catalogs, with names that are declared in
their text. -/
def Declares (typesPath : String) (places : List (String × String)) (parts : List Template.Part) :
    Prop :=
  ∃ s, (∀ c, renderParts? [proxyContext c typesPath] parts = some s) ∧ Adds readName places s

/-- Parts in front take no declaration away, -/
theorem Declares.behind (h : Declares typesPath places parts) {front : List Template.Part}
    (hfront : ∃ s, ∀ c, renderParts? [proxyContext c typesPath] front = some s) :
    Declares typesPath places (front ++ parts) := by
  obtain ⟨s, hs, hplaces⟩ := h
  obtain ⟨t, ht⟩ := hfront
  exact ⟨t ++ s, fun c => renderParts?_append_eq_some (ht c) (hs c), hplaces.behind t⟩

/-- and a declaration may begin behind the break of the line in front. -/
theorem Declares.cons (p q before front name behind : String)
    (htext : p ++ q = before ++ (front ++ (name ++ behind))) (hname : isIdentifier name = true)
    (hbehind : ∃ c cs, behind.toList = c :: cs ∧ isIdentifierPart c = false)
    (h : Declares typesPath places parts) :
    Declares typesPath ((front, name) :: places) (.text p :: .text q :: parts) := by
  obtain ⟨s, hs, hplaces⟩ := h
  have hdeclared : Adds readName ((front, name) :: places) (p ++ q ++ s) := by
    rw [htext]
    exact ((adds_name hname front hbehind).behind before).append hplaces
  refine ⟨p ++ (q ++ s), fun c => ?_, by rwa [← String.append_assoc]⟩
  have htext (t : String) :
      Template.Part.render? [proxyContext c typesPath] (.text t) = some t := by
    rw [Template.Part.render?]
  exact renderParts?_cons_eq_some (htext p) (renderParts?_cons_eq_some (htext q) (hs c))

/-- The preamble declares the helpers. -/
theorem declares_preamble (typesPath : String) :
    Declares typesPath helperPlaces Template.proxyPreamble := by
  let stretch (i n : Nat) : List Template.Part := (Template.proxyPreamble.drop i).take n
  have hcut : Template.proxyPreamble =
      stretch 0 1 ++ (stretch 1 2 ++ (stretch 3 1 ++ (stretch 4 2 ++ (stretch 6 1 ++ (stretch 7 2 ++
      (stretch 9 4 ++ (stretch 13 2 ++ (stretch 15 24 ++ (stretch 39 2 ++ (stretch 41 1 ++
      (stretch 42 2 ++ (stretch 44 1 ++ (stretch 45 2 ++ (stretch 47 12 ++ (stretch 59 2 ++
      stretch 61 21))))))))))))))) := rfl
  have hrest : Declares typesPath [] (stretch 61 21) := ⟨_, fun _ => rfl, adds_nil _⟩
  rw [hcut]
  refine .behind (.cons "\n" "import * as Types from " "" "\nimport * as " "Types" " from "
    (by decide +kernel) (by decide) ⟨_, _, rfl, by decide⟩ ?_) ⟨_, fun _ => rfl⟩
  refine .behind (.cons ";\n\n" "const PROXY_PREFIX = " ";\n" "\nconst " "PROXY_PREFIX" " = "
    (by decide +kernel) (by decide) ⟨_, _, rfl, by decide⟩ ?_) ⟨_, fun _ => rfl⟩
  refine .behind (.cons ";\n\n" "export class SchedulingProxyError extends Error \x7b\n" ";\n"
    "\nexport class " "SchedulingProxyError" " extends Error \x7b\n"
    (by decide +kernel) (by decide) ⟨_, _, rfl, by decide⟩ ?_) ⟨_, fun _ => rfl⟩
  refine .behind (.cons "\x7d\n\n"
    "async function proxyRequest<T>(path: string, init: RequestInit = \x7b\x7d):" "\x7d\n"
    "\nasync function " "proxyRequest" "<T>(path: string, init: RequestInit = \x7b\x7d):"
    (by decide +kernel) (by decide) ⟨_, _, rfl, by decide⟩ ?_) ⟨_, fun _ => rfl⟩
  refine .behind (.cons "\x7d\n\n" "const ISO_UTC_TIMESTAMP =" "\x7d\n"
    "\nconst " "ISO_UTC_TIMESTAMP" " ="
    (by decide +kernel) (by decide) ⟨_, _, rfl, by decide⟩ ?_) ⟨_, fun _ => rfl⟩
  refine .behind (.cons "(:\\d\x7b2\x7d(\\.\\d+)?)?(Z|[+-]00:?00)$/;\n\n"
    "function pad(value: number): string \x7b\n"
    "(:\\d\x7b2\x7d(\\.\\d+)?)?(Z|[+-]00:?00)$/;\n"
    "\nfunction " "pad" "(value: number): string \x7b\n"
    (by decide +kernel) (by decide) ⟨_, _, rfl, by decide⟩ ?_) ⟨_, fun _ => rfl⟩
  refine .behind (.cons "\x7d\n\n" "function toLocalIsoString(date: Date): string \x7b\n" "\x7d\n"
    "\nfunction " "toLocalIsoString" "(date: Date): string \x7b\n"
    (by decide +kernel) (by decide) ⟨_, _, rfl, by decide⟩ ?_) ⟨_, fun _ => rfl⟩
  exact .behind (.cons " arrays and objects. */\n"
    "export function localizeTimes<T>(value: T): T \x7b\n"
    " arrays and objects. */" "\nexport function " "localizeTimes" "<T>(value: T): T \x7b\n"
    (by decide +kernel) (by decide) ⟨_, _, rfl, by decide⟩ hrest) ⟨_, fun _ => rfl⟩

/-- A function is declared behind its comment. -/
theorem adds_function {p : String × Endpoint} (hname : isIdentifier p.1 = true) :
    Adds readName [("\nexport async function ", p.1)] ("\n\n" ++ proxyText p.1 p.2) := by
  have hbreak : ∃ before, "\n\n" ++ docComment p.2.description 0 = before ++ "\n" := by
    rw [docComment]
    split
    · exact ⟨"\n", rfl⟩
    · exact ⟨"\n\n" ++ String.ofList (List.replicate 0 ' ') ++ "/** " ++
        commentText p.2.description ++ " */",
        by simp only [String.append_assoc, String.reduceAppend]⟩
  obtain ⟨before, hbefore⟩ := hbreak
  let behind := "(" ++ (signature p.2 ++ ("): Promise<" ++ (returnType p.2 ++ ("> \x7b\n" ++
    (proxyStatements p.2 ++
      ((if p.2.localizeTimes then "\n  return localizeTimes(result);" else "\n  return result;") ++
        "\n\x7d"))))))
  have htext : "\n\n" ++ proxyText p.1 p.2 =
      before ++ ("\nexport async function " ++ (p.1 ++ behind)) := by
    rw [show "\nexport async function " = "\n" ++ "export async function " from rfl, proxyText]
    simp only [← String.append_assoc, behind, ← hbefore]
  have hbehind : ∃ c cs, behind.toList = c :: cs ∧ isIdentifierPart c = false :=
    ⟨'(', _, by rw [String.toList_append]; rfl, by decide⟩
  rw [htext]
  exact (adds_name hname _ hbehind).behind before

/-- The module declares its helpers and then a function for each operation, in order. -/
theorem exists_declarations {c : Catalog} (hc : c.Accepted) (typesPath : String) : ∃ text,
    proxy c typesPath = .ok text ∧
      Finds readName (helperPlaces ++ functionPlaces c) text.toList := by
  obtain ⟨head, hhead, hhelpers⟩ := declares_preamble typesPath
  have hfunctions : Adds readName (functionPlaces c)
      (String.join (c.endpoints.entries.map fun p => "\n\n" ++ proxyText p.1 p.2)) := by
    rw [functionPlaces, Catalog.names, Table.names, List.map_map, List.map_eq_flatMap]
    exact Adds.join fun p hp => adds_function (hc.identifier hp)
  exact ⟨_, proxy_of_preamble (hhead c), ((hhelpers.append hfunctions).before "\n").finds⟩

end

/-! ## Names that are kept -/

/-- The names of the proxy module: declared where they are looked for, distinct, fit to be declared,
and without a free name of its code among those of the operations. -/
structure KeepsNames (c : Catalog) (typesPath : String) : Prop where
  declared : ∃ text, proxy c typesPath = .ok text ∧
    Finds readName (helperPlaces ++ functionPlaces c) text.toList
  distinct : (moduleNames c).Nodup
  declarable : ∀ n ∈ moduleNames c, Declarable n
  kept : ∀ n ∈ freeNames, meaning c.names n = meaning [] n

section
variable {c : Catalog}

/-- In an accepted catalog, an operation is not called like a helper. -/
theorem not_mem_helperNames (hc : c.Accepted) {n : String} (hn : n ∈ c.names) :
    n ∉ helperNames := by
  obtain ⟨⟨name, e⟩, he, rfl⟩ := List.mem_map.1 hn
  obtain ⟨d, hd, -⟩ := hc.exists_wellFormed he
  have hhelpers : ∀ h ∈ helperNames, h ∈ Catalog.memberNames := by decide
  exact fun hhelper => hd.free (hhelpers _ hhelper)

/-- So the names of the module are distinct. -/
theorem nodup_moduleNames (hc : c.Accepted) : (moduleNames c).Nodup := by
  rw [moduleNames, List.nodup_append]
  refine ⟨by decide, c.endpoints.distinct, ?_⟩
  rintro n hhelper m hm rfl
  exact not_mem_helperNames hc hm hhelper

/-- They can be declared if no operation has a name that strict code does not bind. -/
theorem declarable_moduleNames_iff (hc : c.Accepted) :
    (∀ n ∈ moduleNames c, Declarable n) ↔ "eval" ∉ c.names ∧ "arguments" ∉ c.names := by
  have hhelpers : ∀ n ∈ helperNames, Declarable n := by decide
  have hoperation (n : String) (hn : n ∈ c.names) : isIdentifier n = true := by
    obtain ⟨p, hp, rfl⟩ := List.mem_map.1 hn
    exact hc.identifier hp
  constructor
  · intro h
    have hne {n : String} (hn : n ∈ c.names) : n ≠ "eval" ∧ n ≠ "arguments" :=
      (declarable_iff (hoperation n hn)).1 (h n (List.mem_append_right _ hn))
    exact ⟨fun hn => (hne hn).1 rfl, fun hn => (hne hn).2 rfl⟩
  · rintro ⟨heval, harguments⟩ n hn
    obtain hn | hn := List.mem_append.1 hn
    · exact hhelpers n hn
    · exact (declarable_iff (hoperation n hn)).2
        ⟨fun h => heval (h ▸ hn), fun h => harguments (h ▸ hn)⟩

/-- A free name keeps its meaning if no operation has it. -/
theorem meaning_eq_iff {names : List String} {n : String} :
    meaning names n = meaning [] n ↔ n ∉ names := by
  have hempty : meaning [] n ≠ .operation := by
    rw [meaning, if_neg List.not_mem_nil]
    split <;> nofun
  by_cases hn : n ∈ names
  · have hoperation : meaning names n = .operation := by rw [meaning, if_pos hn]
    rw [hoperation]
    exact ⟨fun h => absurd h.symm hempty, fun h => absurd hn h⟩
  · refine ⟨fun _ => hn, fun _ => ?_⟩
    rw [meaning, meaning, if_neg hn, if_neg List.not_mem_nil]

/-- So all free names keep theirs if no operation is called by a global one. -/
theorem kept_iff (hc : c.Accepted) :
    (∀ n ∈ freeNames, meaning c.names n = meaning [] n) ↔ ∀ n ∈ globalNames, n ∉ c.names := by
  simp only [meaning_eq_iff]
  constructor
  · exact fun h n hn => h n ((mem_freeNames_iff n).2 (.inr hn))
  · intro h n hn hname
    obtain hhelper | hglobal := (mem_freeNames_iff n).1 hn
    · exact not_mem_helperNames hc hname hhelper
    · exact h n hglobal hname

end

/-- In every accepted catalog, the names of the proxy module are declared where they are looked for
and distinct. The free names of its code are those of the helpers and the global ones; all names can
be declared, and all free names keep their meaning, exactly if no operation is called `eval` or
`arguments` or by a global name. -/
theorem operations_capture_no_name_iff (c : Catalog) (typesPath : String) (hc : c.Accepted) :
    (∀ n, n ∈ freeNames ↔ n ∈ helperNames ∨ n ∈ globalNames) ∧
    (∃ text, proxy c typesPath = .ok text ∧
      Finds readName (helperPlaces ++ functionPlaces c) text.toList) ∧
    (moduleNames c).Nodup ∧
    ((∀ n ∈ moduleNames c, Declarable n) ↔ "eval" ∉ c.names ∧ "arguments" ∉ c.names) ∧
    ((∀ n ∈ freeNames, meaning c.names n = meaning [] n) ↔ ∀ n ∈ globalNames, n ∉ c.names) ∧
    (KeepsNames c typesPath ↔ ∀ n ∈ "eval" :: "arguments" :: globalNames, n ∉ c.names) := by
  have hdeclarable := declarable_moduleNames_iff hc
  have hkept := kept_iff hc
  refine ⟨mem_freeNames_iff, exists_declarations hc typesPath, nodup_moduleNames hc, hdeclarable,
    hkept, ?_, fun h => ?_⟩
  · rintro ⟨-, -, hall, hmeaning⟩
    obtain ⟨heval, harguments⟩ := hdeclarable.1 hall
    exact List.forall_mem_cons.2 ⟨heval, List.forall_mem_cons.2 ⟨harguments, hkept.1 hmeaning⟩⟩
  · obtain ⟨heval, h⟩ := List.forall_mem_cons.1 h
    obtain ⟨harguments, hglobal⟩ := List.forall_mem_cons.1 h
    exact {
      declared := exists_declarations hc typesPath
      distinct := nodup_moduleNames hc
      declarable := hdeclarable.2 ⟨heval, harguments⟩
      kept := hkept.2 hglobal }

/-- The operations of the built-in catalog capture no name. -/
theorem builtin_keepsNames : Catalog.builtin.Accepted ∧ KeepsNames Catalog.builtin "./types" := by
  obtain ⟨-, -, -, -, -, h⟩ := operations_capture_no_name_iff _ "./types" Catalog.builtin_accepted
  have hnames : ∀ n ∈ "eval" :: "arguments" :: globalNames, n ∉ Catalog.builtin.names := by
    decide +kernel
  exact ⟨Catalog.builtin_accepted, h.2 hnames⟩

/-! ## Operations that capture names -/

/-- An operation without a payload. -/
def bareEndpoint (path : String) : Endpoint where
  path := path
  method := .get
  description := ""
  payload := .none
  response := ⟨.scalar .string, ""⟩
  requiredHeaders := [apiKeyHeader]
  localizeTimes := false

/-- A catalog with an operation called like the function that sends requests, and one called by a
name that strict code does not bind. -/
def capturingCatalog : Catalog :=
  ⟨⟨[("fetch", bareEndpoint "/fetch"), ("eval", bareEndpoint "/eval")], by simp⟩,
    Catalog.Builtin.types⟩

/-- The catalog is accepted, though its module cannot declare all names, and its request wrapper
calls an operation in place of the function that sends requests. -/
theorem capturing_names_are_accepted :
    capturingCatalog.Accepted ∧ ¬(∀ n ∈ moduleNames capturingCatalog, Declarable n) ∧
    "fetch" ∈ freeNames ∧ meaning capturingCatalog.names "fetch" = .operation ∧
    meaning [] "fetch" = .outside := by
  have hnames : capturingCatalog.names = ["fetch", "eval"] := rfl
  refine ⟨⟨.of capturingCatalog, by decide +kernel⟩, fun h => ?_,
    (mem_freeNames_iff _).2 (.inr (.head _)), ?_, ?_⟩
  · have heval : "eval" ∈ moduleNames capturingCatalog := List.mem_append_right _ (by simp [hnames])
    exact (h _ heval).2 (by decide)
  · rw [hnames]
    decide
  · decide

end Client

end Scaffold
