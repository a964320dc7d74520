import Mathlib.Data.List.Sort
import Mathlib.Data.String.Basic
import Scaffold.Proofs.Assembly
import Scaffold.Proofs.Catalog.Acceptance
import Scaffold.Proofs.Route.Argument
import Scaffold.Proofs.Route.Forwarding
import Scaffold.Proofs.Route.OneLine
import Scaffold.Proofs.TypeScript.Code

/-!
# The imports of the controller

The names that the controller imports are collected from the bindings, one by one and in order,
while their uses are written by the template: in the decorators of the class, of the handlers and of
their parameters, and where a handler throws. Every text of the controller is read by itself,
whatever names, paths and descriptions stand in it, so the uses are those in its front
(`reads_front`) and in each handler (`reads_block`). The main statement is
`controller_imports_used_names`: the imported names are in order and exactly those that are used,
but `HttpException` is imported even if there is no handler to throw it.
-/

namespace Scaffold.Route

open Text (stacked)
open TypeScript (IsCode Reads Region Use isIdentifier isIdentifierPart quote usesIn)

/-! ## Names in order -/

section
variable {name : String} {names : List String} {bs bs' : List Binding}

/-- A name is put in its place. -/
theorem pairwise_insertName (h : names.Pairwise (· < ·)) :
    (insertName name names).Pairwise (· < ·) := by
  fun_induction insertName name names with
  | case1 => exact List.pairwise_singleton _ name
  | case2 => exact h
  | case3 n rest hne hlt =>
    refine List.pairwise_cons.2 ⟨List.forall_mem_cons.2 ⟨hlt, fun m hm => ?_⟩, h⟩
    exact hlt.trans ((List.pairwise_cons.1 h).1 m hm)
  | case4 n rest hne hlt ih =>
    obtain ⟨hrest, hpairwise⟩ := List.pairwise_cons.1 h
    refine List.pairwise_cons.2 ⟨fun m hm => ?_, ih hpairwise⟩
    obtain rfl | hm := mem_insertName_iff.1 hm
    · exact lt_of_le_of_ne (not_lt.1 hlt) (Ne.symm hne)
    · exact hrest m hm

/-- The imported names are in order. -/
theorem pairwise_nestImports (bs : List Binding) : (nestImports bs).Pairwise (· < ·) := by
  have hfold (names base : List String) (h : base.Pairwise (· < ·)) :
      (names.foldl (fun acc n => insertName n acc) base).Pairwise (· < ·) := by
    induction names generalizing base with
    | nil => exact h
    | cons name names ih => exact ih _ (pairwise_insertName h)
  exact hfold _ _ (by decide)

/-- They are the same for handlers in another order. -/
theorem nestImports_eq_of_perm (h : bs.Perm bs') : nestImports bs = nestImports bs' := by
  refine (pairwise_nestImports bs).eq_of_mem_iff (pairwise_nestImports bs') fun n => ?_
  rw [mem_nestImports_iff, mem_nestImports_iff]
  simp only [h.mem_iff]

end

/-- The bytes of a text in UTF-8. -/
def bytes (s : String) : List UInt8 := s.toByteArray.data.toList

/-- The names that a controller may import. -/
def nestVocabulary : List String :=
  ["Body", "Controller", "Delete", "Get", "HttpException", "Post", "Put", "Query"]

theorem mem_nestVocabulary {bs : List Binding} {n : String} (h : n ∈ nestImports bs) :
    n ∈ nestVocabulary := by
  have hbase : ∀ n ∈ ["Controller", "HttpException"], n ∈ nestVocabulary := by decide
  have hnames (b : Binding) : ∀ n ∈ nestNames b, n ∈ nestVocabulary := by
    rw [nestNames]
    cases b.input <;> cases b.method <;> decide
  obtain hn | ⟨b, -, hn⟩ := mem_nestImports_iff.1 h
  · exact hbase n hn
  · exact hnames b n hn

/-- Among these, the order of texts is that of their bytes. -/
theorem pairwise_bytes (bs : List Binding) :
    (nestImports bs).Pairwise fun m n => bytes m < bytes n := by
  have hbytes : ∀ m ∈ nestVocabulary, ∀ n ∈ nestVocabulary, m < n → bytes m < bytes n := by decide
  exact (pairwise_nestImports bs).imp_of_mem fun hm hn hlt =>
    hbytes _ (mem_nestVocabulary hm) _ (mem_nestVocabulary hn) hlt

/-! ## Arguments -/

section
variable {name : String} {c : Char} {cs : List Char} {us : List Use} {outer regions : List Region}

/-- An identifier is quoted as it stands, -/
theorem quote_eq (h : isIdentifier name = true) : quote name = "'" ++ name ++ "'" := by
  have hchar : ∀ c ∈ name.toList, TypeScript.escapeChar c = [c] := by
    intro c hc
    have hpart := (forall_isIdentifierPart h).2 c hc
    fun_cases TypeScript.escapeChar c
    case case5 => rfl
    all_goals exact absurd hpart (by decide)
  have hchars : name.toList.flatMap TypeScript.escapeChar = name.toList :=
    (List.flatMap_congr hchar).trans (List.flatMap_singleton' _)
  rw [← String.toList_inj, quote, String.toList_ofList, TypeScript.quoteChars, hchars,
    String.toList_append, String.toList_append]
  rfl

/-- and it uses no name. -/
theorem reads_identifier (h : isIdentifier name = true) (hc : isIdentifierPart c = false)
    (hcs : IsCode (.code :: outer) (c :: cs) us regions) :
    Reads (.code :: outer) (name ++ String.ofList (c :: cs)) us regions := by
  refine .name (forall_isIdentifierPart h) ?_ hc hcs
  rintro rfl
  exact absurd h (by decide)

/-- Nor does a value of the query, -/
theorem reads_queryValue (h : isIdentifier name = true) (p : Param)
    (hc : isIdentifierPart c = false) (hcs : IsCode (.code :: outer) (c :: cs) us regions) :
    Reads (.code :: outer) (queryValue name p ++ String.ofList (c :: cs)) us regions := by
  have hquery : Reads (.code :: outer) "query." [] (.code :: outer) := .code ⟨rfl, by decide⟩
  rw [queryValue]
  split
  · split
    · have has : Reads (.code :: outer) (name ++ " as ") [] (.code :: outer) :=
        reads_identifier h (by decide) ⟨rfl, by decide⟩
      have htype : Reads (.code :: outer) ("string" ++ String.ofList (c :: cs)) us regions :=
        reads_identifier (by decide) hc hcs
      rw [show " as string" = " as " ++ "string" from rfl]
      simpa only [String.append_assoc] using hquery.before (has.before htype)
    · rw [String.append_assoc]
      exact hquery.before (reads_identifier h hc hcs)
  · have hcall : Reads (.code :: outer) "Number(" [] (.code :: outer) := .code ⟨rfl, by decide⟩
    have hname : Reads (.code :: outer) (name ++ ")") [] (.code :: outer) :=
      reads_identifier h (by decide) ⟨rfl, by decide⟩
    simpa only [String.append_assoc] using hcall.before (hquery.before (hname.before (.code hcs)))
  · have hname : Reads (.code :: outer) (name ++ " === ") [] (.code :: outer) :=
      reads_identifier h (by decide) ⟨rfl, by decide⟩
    rw [show " === 'true'" = " === " ++ quote "true" from rfl]
    simpa only [String.append_assoc] using
      hquery.before (hname.before ((Reads.quote "true").before (.code hcs)))

/-- a member of an argument, -/
theorem reads_queryMember (h : isIdentifier name = true) (p : Param)
    (hc : isIdentifierPart c = false) (hcs : IsCode (.code :: outer) (c :: cs) us regions) :
    Reads (.code :: outer) (queryMember name p ++ String.ofList (c :: cs)) us regions := by
  have hkey (outer : List Region) : Reads (.code :: outer) (name ++ ": ") [] (.code :: outer) :=
    reads_identifier h (by decide) ⟨rfl, by decide⟩
  rw [queryMember]
  split
  · rw [String.append_assoc]
    exact (hkey outer).before (reads_queryValue h p hc hcs)
  · have hspread : Reads (.code :: outer) "...(query." [] (.code :: outer) := .code ⟨rfl, by decide⟩
    have htest :
        Reads (.code :: outer) (name ++ " !== undefined ? \x7b ") [] (.code :: .code :: outer) :=
      reads_identifier h (by decide) ⟨rfl, by decide⟩
    have hvalue : Reads (.code :: .code :: outer) (queryValue name p ++ " \x7d : \x7b\x7d)") []
        (.code :: outer) :=
      reads_queryValue h p (by decide) ⟨rfl, by decide⟩
    simpa only [String.append_assoc] using
      hspread.before (htest.before ((hkey _).before (hvalue.before (.code hcs))))

/-- the members of an argument with its brace, -/
theorem reads_members {l : List (String × Param)} (h : ∀ q ∈ l, isIdentifier q.1 = true)
    (outer : List Region) : Reads (.code :: .code :: outer)
      (", ".intercalate (l.map fun q => queryMember q.1 q.2) ++ " \x7d") [] (.code :: outer) := by
  induction l with
  | nil => exact .code ⟨rfl, by decide⟩
  | cons q l ih =>
    obtain ⟨hq, hl⟩ := List.forall_mem_cons.1 h
    cases l with
    | nil => exact reads_queryMember hq q.2 (by decide) ⟨rfl, by decide⟩
    | cons r l =>
      have hmember : Reads (.code :: .code :: outer) (queryMember q.1 q.2 ++ ", ") []
          (.code :: .code :: outer) :=
        reads_queryMember hq q.2 (by decide) ⟨rfl, by decide⟩
      rw [List.map_cons, List.map_cons, String.intercalate_cons_cons, String.append_assoc]
      exact hmember.before (ih hl)

/-- and the argument of an accepted operation. -/
theorem reads_callArgs {c : Catalog} (hc : c.Accepted) {e : Endpoint}
    (he : (name, e) ∈ c.endpoints.entries) (outer : List Region) :
    Reads (.code :: outer) (Binding.of name e).callArgs [] (.code :: outer) := by
  rw [Binding.of]
  cases hp : e.payload with
  | none => exact .empty
  | query params =>
    have hopen : Reads (.code :: outer) "\x7b " [] (.code :: .code :: outer) :=
      .code ⟨rfl, by decide⟩
    have hmembers :=
      reads_members (fun q hq => (hc.query_params he hp).2 q.1 (List.mem_map_of_mem hq)) outer
    simpa only [String.append_assoc] using hopen.before hmembers
  | body fields =>
    -- nothing in the name is escaped, so it stands in the brackets as a literal
    have hfront :
        Reads (.code :: outer) "body as Parameters<SchedulingClient[" [] (.code :: outer) :=
      .code ⟨rfl, by decide⟩
    have hback : Reads (.code :: outer) "]>[0]" [] (.code :: outer) := .code ⟨rfl, by decide⟩
    have htext : "body as Parameters<SchedulingClient['" ++ name ++ "']>[0]" =
        "body as Parameters<SchedulingClient[" ++ (quote name ++ "]>[0]") := by
      rw [quote_eq (hc.identifier he), show "body as Parameters<SchedulingClient['" =
        "body as Parameters<SchedulingClient[" ++ "'" from rfl, show "']>[0]" =
        "'" ++ "]>[0]" from rfl]
      simp only [String.append_assoc]
    rw [htext]
    exact hfront.before ((Reads.quote name).before hback)

end

/-! ## Handlers -/

/-- The names that a handler uses. -/
def handlerUses (b : Binding) : List Use :=
  (nestNames b).map .decorator ++ [.thrown "HttpException"]

/-- The regions in code behind open braces. -/
def nested (n : Nat) : List Region := List.replicate (n + 1) .code

section
variable {c : Catalog} {name : String} {e : Endpoint}

/-- A method is registered by its decorator, -/
theorem reads_registration (m : HttpMethod) (path : String) :
    Reads (nested 1) ("  @" ++ m.decorator ++ "(" ++ quote path ++ ")") [.decorator m.decorator]
      (nested 1) := by
  have hdecorator :
      Reads (nested 1) ("  @" ++ m.decorator ++ "(") [.decorator m.decorator] (nested 1) := by
    rw [← @String.ofList_toList ("  @" ++ m.decorator ++ "(")]
    exact .code (by cases m <;> decide)
  have hclose : Reads (nested 1) ")" [] (nested 1) := .code (by decide)
  exact (hdecorator.append (Reads.quote path)).append hclose

/-- and its parameter has the decorator of its input. -/
theorem reads_parameters (b : Binding) :
    Reads (nested 1) (nestParameters b ++ ") \x7b") ((nestNames b).tail.map .decorator)
      (nested 2) := by
  rw [nestParameters, nestNames]
  cases b.input with
  | none =>
    show Reads (nested 1) ("" ++ ") \x7b") [] (nested 2)
    rw [String.empty_append]
    exact .code (by decide)
  | query =>
    show Reads (nested 1) ("@Query() query: Record<string, string | undefined>" ++ ") \x7b")
        [.decorator "Query"]
      (nested 2)
    simp only [String.reduceAppend]
    exact .code (by decide)
  | body =>
    show Reads (nested 1) ("@Body() body: unknown" ++ ") \x7b") [.decorator "Body"] (nested 2)
    simp only [String.reduceAppend]
    exact .code (by decide)

/-- The line that opens a method uses the decorator of the parameter alone, -/
theorem reads_signature (hname : isIdentifier name = true) (b : Binding) :
    Reads (nested 1) ("  async " ++ name ++ "(" ++ nestParameters b ++ ") \x7b")
      ((nestNames b).tail.map .decorator) (nested 2) := by
  have hasync : Reads (nested 1) "  async " [] (nested 1) := .code (by decide)
  have hopen : Reads (nested 1) (name ++ "(") [] (nested 1) :=
    reads_identifier hname (by decide) (by decide)
  simpa only [String.append_assoc] using hasync.before (hopen.before (reads_parameters b))

/-- the call of the service uses no name, -/
theorem reads_call (hc : c.Accepted) (he : (name, e) ∈ c.endpoints.entries) :
    Reads (nested 3) ("      return await this.schedulingService." ++ name ++ "(" ++
      (Binding.of name e).callArgs ++ ");") [] (nested 3) := by
  have hservice : Reads (nested 3) "      return await this.schedulingService." [] (nested 3) :=
    .code (by decide)
  have hopen : Reads (nested 3) (name ++ "(") [] (nested 3) :=
    reads_identifier (hc.identifier he) (by decide) (by decide)
  have hclose : Reads (nested 3) ");" [] (nested 3) := .code (by decide)
  simpa only [String.append_assoc] using
    hservice.before (hopen.before ((reads_callArgs hc he _).before hclose))

/-- and neither does a comment. -/
theorem reads_comment (name : String) (e : Endpoint) :
    Reads (nested 1) (stacked (Layout.controller.comment (Binding.of name e))) [] (nested 1) := by
  have hmargin : Reads (nested 1) "  " [] (nested 1) := .code (by decide)
  have hcomment :
      Reads (nested 1) ("/** " ++ (Binding.of name e).description ++ " */") [] (nested 1) :=
    .blockComment e.description
  rw [show Layout.controller.comment = commentLines "  " from rfl, commentLines]
  split
  · exact .empty
  · have hline := hmargin.before hcomment
    rw [← String.append_assoc, ← String.append_assoc] at hline
    exact hline.lastLine

/-- A handler uses its decorators, and the error that it throws. -/
theorem reads_block (hc : c.Accepted) (he : (name, e) ∈ c.endpoints.entries) :
    Reads (nested 1) (stacked ("" :: Layout.controller.block (Binding.of name e)))
      (handlerUses (Binding.of name e)) (nested 1) := by
  have hregistration := reads_registration e.method (Binding.of name e).relativePath
  have hsignature := reads_signature (hc.identifier he) (Binding.of name e)
  -- inside of the class, the braces of the method and of its try block are opened and closed again
  have htry : Reads (nested 2) "    try \x7b" [] (nested 3) := .code (by decide)
  have hcatch : Reads (nested 3) "    \x7d catch (error) \x7b" [] (nested 3) := .code (by decide)
  have hthrow :
      Reads (nested 3) "      throw new HttpException(\x7b error: errorMessage(error) \x7d, 500);"
        [.thrown "HttpException"] (nested 3) := .code (by decide)
  have hcaught : Reads (nested 3) "    \x7d" [] (nested 2) := .code (by decide)
  have hlast : Reads (nested 2) "  \x7d" [] (nested 1) := .code (by decide)
  have hlines := hregistration.line <| hsignature.line <| htry.line <| (reads_call hc he).line <|
    hcatch.line <| hthrow.line <| hcaught.line hlast.lastLine
  have hnames : nestNames (Binding.of name e) =
      e.method.decorator :: (nestNames (Binding.of name e)).tail := by
    rw [nestNames]
    cases (Binding.of name e).input <;> rfl
  rw [handlerUses, hnames]
  exact Reads.empty.line ((reads_comment name e).lines hlines)

/-- The handlers use their names one after the other. -/
theorem reads_handlers (hc : c.Accepted) {l : List (String × Endpoint)}
    (hl : ∀ p ∈ l, p ∈ c.endpoints.entries) :
    Reads (nested 1)
      (stacked ((l.map fun p => Binding.of p.1 p.2).flatMap fun b => "" ::
        Layout.controller.block b))
      ((l.map fun p => Binding.of p.1 p.2).flatMap handlerUses) (nested 1) := by
  induction l with
  | nil => exact .empty
  | cons p l ih =>
    obtain ⟨hp, hl⟩ := List.forall_mem_cons.1 hl
    exact (reads_block hc hp).lines (ih hl)

end

/-! ## The controller -/

/-- The names that the controller uses. -/
def controllerUses (bs : List Binding) : List Use :=
  .decorator "Controller" :: bs.flatMap handlerUses

section
variable {bs : List Binding} {n : String}

/-- It imports its decorators, and the error that its handlers throw. -/
theorem mem_nestImports_iff_used :
    n ∈ nestImports bs ↔ .decorator n ∈ controllerUses bs ∨ n = "HttpException" := by
  have hdecorators : .decorator n ∈ bs.flatMap handlerUses ↔ ∃ b ∈ bs, n ∈ nestNames b := by
    simp [handlerUses]
  rw [mem_nestImports_iff, controllerUses, List.mem_cons, List.mem_singleton, List.mem_cons,
    hdecorators, Use.decorator.injEq]
  exact or_right_comm

/-- It throws that error if there is a handler. -/
theorem thrown_mem_controllerUses_iff :
    .thrown n ∈ controllerUses bs ↔ n = "HttpException" ∧ bs ≠ [] := by
  have hhandler (b : Binding) : .thrown n ∈ handlerUses b ↔ n = "HttpException" := by
    simp [handlerUses]
  rw [controllerUses, List.mem_cons, List.mem_flatMap]
  constructor
  · rintro (h | ⟨b, hb, hn⟩)
    · cases h
    · exact ⟨(hhandler b).1 hn, List.ne_nil_of_mem hb⟩
  · rintro ⟨hn, hne⟩
    obtain ⟨b, hb⟩ := List.exists_mem_of_ne_nil bs hne
    exact .inr ⟨b, hb, (hhandler b).2 hn⟩

end

/-- The line that imports names. -/
def commonImport (names : List String) : String :=
  "import \x7b " ++ ", ".intercalate names ++ " \x7d from '@nestjs/common';"

/-- The lines of the controller below that one. -/
def linesBelow (clientPath : String) (bs : List Binding) : List String :=
  (Layout.controller.front clientPath "").tail ++
    bs.flatMap (fun b => "" :: Layout.controller.block b) ++ Layout.controller.back

/-- What the controller is made of. -/
theorem controller_text (clientPath : String) (bs : List Binding) :
    Layout.controller.text clientPath bs =
    Client.generatedHeader ++ "\n" ++ commonImport (nestImports bs) ++
      stacked (linesBelow clientPath bs) := by
  have hlines : Layout.controller.lines clientPath bs =
      Client.generatedHeader :: commonImport (nestImports bs) :: linesBelow clientPath bs := rfl
  rw [Layout.text, hlines, Text.intercalate_cons, Text.stacked_cons]
  simp only [String.append_assoc]

/-- The imports of its own modules use no name, -/
theorem reads_ownImports (clientPath : String) : Reads (nested 0)
    (stacked [clientImport "import type" clientPath,
      "import \x7b SchedulingService \x7d from './scheduling.service';", ""]) [] (nested 0) := by
  have hend : Reads (nested 0) ";" [] (nested 0) := .code (by decide)
  have hclient : Reads (nested 0) (clientImport "import type" clientPath) [] (nested 0) := by
    have hfront : Reads (nested 0) "import type \x7b SchedulingClient \x7d from " [] (nested 0) :=
      .code (by decide)
    simp only [clientImport, String.reduceAppend]
    exact (hfront.append (Reads.quote clientPath)).append hend
  have hservice :
      Reads (nested 0) "import \x7b SchedulingService \x7d from './scheduling.service';" []
        (nested 0) := by
    have hfront : Reads (nested 0) "import \x7b SchedulingService \x7d from " [] (nested 0) :=
      .code (by decide)
    have hquote : quote "./scheduling.service" = "'./scheduling.service'" := by
      rw [quote, String.toList_ofList]
      rfl
    have hline := (hfront.append (Reads.quote "./scheduling.service")).append hend
    simpa only [hquote, String.reduceAppend, List.append_nil] using hline
  have hblank : Reads (nested 0) "" [] (nested 0) := .empty
  exact hclient.line <| hservice.line hblank.lastLine

/-- nor does the function for messages. -/
theorem reads_errorMessage : Reads (nested 0) (stacked errorMessage) [] (nested 0) := by
  have hopen :
      Reads (nested 0) "function errorMessage(error: unknown): string \x7b" [] (nested 1) :=
    .code (by decide)
  have hreturn :
      Reads (nested 1) "  return error instanceof Error ? error.message : String(error);" []
        (nested 1) := .code (by decide)
  have hclose : Reads (nested 1) "\x7d" [] (nested 0) := .code (by decide)
  exact hopen.line <| hreturn.line hclose.lastLine

/-- The front uses the decorator of the class. -/
theorem reads_front (clientPath : String) :
    Reads (nested 0) (stacked (Layout.controller.front clientPath "").tail)
      [.decorator "Controller"]
      (nested 1) := by
  have hdecorator : Reads (nested 0)
      ("@Controller(" ++ quote (TypeScript.relativePath Client.routePrefix) ++ ")")
        [.decorator "Controller"]
      (nested 0) := by
    have hopen : Reads (nested 0) "@Controller(" [.decorator "Controller"] (nested 0) :=
      .code (by decide)
    have hclose : Reads (nested 0) ")" [] (nested 0) := .code (by decide)
    exact (hopen.append (Reads.quote _)).append hclose
  have hclass : Reads (nested 0) "export class SchedulingController \x7b" [] (nested 1) :=
    .code (by decide)
  have hconstructor : Reads (nested 1)
    "  constructor(private readonly schedulingService: SchedulingService) \x7b\x7d" [] (nested 1) :=
    .code (by decide)
  have hblank : Reads (nested 0) "" [] (nested 0) := .empty
  have hlines := hblank.line <| hdecorator.line <| hclass.line hconstructor.lastLine
  exact ((reads_ownImports clientPath).lines reads_errorMessage).lines hlines

section
variable {c : Catalog} (hc : c.Accepted) (clientPath : String)
include hc

/-- Below the line of its imports, the controller uses the decorator of the class and the names of
the handlers. -/
theorem reads_linesBelow : Reads (nested 0) (stacked (linesBelow clientPath (bindings c)))
    (controllerUses (bindings c)) (nested 0) := by
  have hback : Reads (nested 1) (stacked Layout.controller.back) [] (nested 0) := by
    have hclose : Reads (nested 1) "\x7d" [] (nested 0) := .code (by decide)
    have hend : Reads (nested 0) "" [] (nested 0) := .empty
    exact hclose.line hend.lastLine
  have hbindings : bindings c = c.endpoints.entries.map fun p => Binding.of p.1 p.2 := rfl
  have hlines := ((reads_front clientPath).lines (reads_handlers hc fun p hp => hp)).lines hback
  rw [List.append_nil, ← hbindings] at hlines
  exact hlines

/-- Its header uses no name. -/
theorem usesIn_linesBelow :
    usesIn [.code] (Client.generatedHeader ++ stacked (linesBelow clientPath (bindings c))).toList =
      controllerUses (bindings c) := by
  have hheader : Client.generatedHeader =
      "//" ++ " Generated by schedgen from the scheduling API catalog. Do not edit by hand." := by
    simp only [Client.generatedHeader, String.reduceAppend]
  have hline :
      Text.IsLine
        " Generated by schedgen from the scheduling API catalog. Do not edit by hand." := by
    apply Text.isLine_literal; rfl
  have hfile := Reads.lineComment hline (reads_linesBelow hc clientPath) []
  rw [List.append_nil, ← hheader] at hfile
  exact hfile.trans (List.append_nil _)

end

/-- The uses of names in the controller beside the line of its imports; `rest` is what stands behind
that line. -/
def usesBeside (rest : String) : List Use := usesIn [.code] (Client.generatedHeader ++ rest).toList

/-- A controller imports the names that it uses, in the order of their bytes, and `HttpException` in
any case. -/
structure ImportsUsedNames (c : Catalog) (clientPath : String) (names : List String)
    (rest : String) : Prop where
  /-- The names stand in the import line below the header. -/
  file : contentOf (handlers c .nestjs clientPath) "scheduling.controller.ts" =
    some (Client.generatedHeader ++ "\n" ++ commonImport names ++ rest)
  ordered : names.Pairwise fun m n => bytes m < bytes n
  /-- A name is imported for a decorator, or it is that of the error, -/
  used : ∀ n, n ∈ names ↔ .decorator n ∈ usesBeside rest ∨ n = "HttpException"
  /-- which is thrown if there is a handler. -/
  thrown : ∀ n, .thrown n ∈ usesBeside rest ↔ n = "HttpException" ∧ operations c ≠ []
  /-- Operations in another order give the same line. -/
  reordered : ∀ c' : Catalog, c'.endpoints.entries.Perm c.endpoints.entries → ∃ rest',
    contentOf (handlers c' .nestjs clientPath) "scheduling.controller.ts" =
      some (Client.generatedHeader ++ "\n" ++ commonImport names ++ rest')

/-- The controller of every accepted catalog imports exactly the names that it uses, in order. -/
theorem controller_imports_used_names {c : Catalog} (hc : c.Accepted) (clientPath : String) :
    ∃ rest, ImportsUsedNames c clientPath (nestImports (bindings c)) rest := by
  have hfile (c : Catalog) : contentOf (handlers c .nestjs clientPath) "scheduling.controller.ts" =
      some (Client.generatedHeader ++ "\n" ++ commonImport (nestImports (bindings c)) ++
        stacked (linesBelow clientPath (bindings c))) := by
    rw [(contentOf_nestjs c clientPath).1, controller_text]
  have huses : usesBeside (stacked (linesBelow clientPath (bindings c))) = _ :=
    usesIn_linesBelow hc clientPath
  exact ⟨stacked (linesBelow clientPath (bindings c)), {
    file := hfile c
    ordered := pairwise_bytes _
    used := fun n => by rw [huses, mem_nestImports_iff_used]
    thrown := fun n => by
      rw [huses, thrown_mem_controllerUses_iff, bindings, ne_eq, List.map_eq_nil_iff, operations]
    reordered := fun c' hperm => by
      have hbindings : (bindings c').Perm (bindings c) := hperm.map _
      rw [← nestImports_eq_of_perm hbindings]
      exact ⟨_, hfile c'⟩ }⟩

/-- The operation with parameters in the query. -/
theorem cancel_imports_used_names : cancelCatalog.Accepted ∧ ∃ rest,
    ImportsUsedNames cancelCatalog "./client" ["Controller", "Delete", "HttpException",
      "Query"] rest := by
  have hnames : nestImports (bindings cancelCatalog) =
      ["Controller", "Delete", "HttpException", "Query"] := by
    decide
  exact ⟨cancelCatalog_accepted,
    hnames ▸ controller_imports_used_names cancelCatalog_accepted "./client"⟩

end Scaffold.Route
