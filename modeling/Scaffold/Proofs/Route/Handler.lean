import Scaffold.Proofs.Route.Dialect
import Scaffold.Proofs.Route.OneLine

/-!
# Generated handlers

What is read back from the text of a layout. Every handler is read, and nothing else is taken for
one: this is `ReadIn.readText?_text`. It asks of a layout that no line outside of its handlers
begins like a handler, which `readIn_nextjs` and its siblings say of the layouts.
-/

namespace Scaffold.Route

open Text (Apart IsLine apart_ofList isLine_literal not_isPrefix)

/-! ## Lines outside of handlers -/

/-- A binding that is printed line by line, and whose operation ends where its argument begins. -/
structure Binding.Readable (b : Binding) : Prop where
  lines : b.OneLine
  bracket : '(' ∉ b.operation.toList

/-- A layout whose handlers are read in a dialect, as the steps of their bindings. -/
structure Layout.ReadIn (L : Layout) (D : Dialect) (steps : Binding → List Step) : Prop where
  lawful : D.Lawful
  lines : L.OneLine
  closing : L.last = D.closing
  /-- No line outside of the handlers begins like a handler. -/
  front : ∀ clientPath imports, ∀ l ∈ L.front clientPath imports, ¬D.Opens l
  comment : ∀ b, ∀ l ∈ L.comment b, ¬D.Opens l
  back : ∀ l ∈ L.back, ¬D.Opens l
  header : ¬D.Opens Client.generatedHeader
  blank : ¬D.Opens ""
  opens : ∀ b, ∃ line ls, L.handler b = line :: ls ∧ D.Opens line
  knows : ∀ b : Binding, b.Readable → D.Knows (L.handler b) (steps b)

section
variable {D : Dialect} {line more keyword clientPath : String}

theorem Dialect.opens_opening : D.Opens D.opening := List.prefix_refl _

theorem Dialect.Opens.append (h : D.Opens line) : D.Opens (line ++ more) := by
  rw [Opens, String.toList_append]
  exact List.IsPrefix.trans h (List.prefix_append _ _)

/-- A line that begins otherwise is not the first one of a handler. -/
theorem not_opens_append (h : Apart D.opening line) : ¬D.Opens (line ++ more) := h.append.1

/-- The import of the client begins with its keyword. -/
theorem not_opens_clientImport (h : Apart D.opening keyword) :
    ¬D.Opens (clientImport keyword clientPath) :=
  h.append.append.append.1

/-- A comment begins with its margin. -/
theorem not_opens_comment {margin : String} (h : Apart D.opening (margin ++ "/** ")) (b : Binding) :
    ∀ l ∈ commentLines margin b, ¬D.Opens l := by
  rw [commentLines]
  split
  · exact List.forall_mem_nil _
  · exact List.forall_mem_singleton.2 h.append.append.1

end

/-! ## What is read -/

namespace Layout.ReadIn

section
variable {L : Layout} {D : Dialect} {steps : Binding → List Step} {b : Binding} {bs : List Binding}

/-- A handler is read as the steps of its binding. -/
theorem read?_handler (h : L.ReadIn D steps) (hb : b.Readable) (rest : List String) :
    D.read? none ("" :: L.block b ++ rest) = (D.read? none rest).map (steps b :: ·) := by
  obtain ⟨line, ls, hhandler, hopens⟩ := h.opens b
  have hknows := h.knows b hb
  rw [hhandler] at hknows
  have houtside : ∀ l ∈ "" :: L.comment b, ¬D.Opens l :=
    List.forall_mem_cons.2 ⟨h.blank, h.comment b⟩
  have hblock : "" :: L.block b ++ rest =
      ("" :: L.comment b) ++ line :: (ls ++ D.closing :: rest) := by
    rw [Layout.block, hhandler, h.closing]
    simp
  rw [hblock, Dialect.read?_outside houtside, h.lawful.read?_block hknows hopens]

/-- In the text of a layout, all handlers are read and nothing else. -/
theorem readText?_text (h : L.ReadIn D steps) (clientPath : String) (hbs : ∀ b ∈ bs, b.Readable) :
    D.readText? (L.text clientPath bs) = some (bs.map steps) := by
  have hfront : ∀ l ∈ Client.generatedHeader :: L.front clientPath (importNames bs), ¬D.Opens l :=
    List.forall_mem_cons.2 ⟨h.header, h.front clientPath _⟩
  have hhandlers (rest : List String) :
      D.read? none (bs.flatMap (fun b => "" :: L.block b) ++ rest) =
        (D.read? none rest).map (bs.map steps ++ ·) :=
    Dialect.read?_flatMap fun b hb => h.read?_handler (hbs b hb)
  rw [Dialect.readText?, h.lines.lines_text clientPath fun b hb => (hbs b hb).lines, Layout.lines,
    List.append_assoc, Dialect.read?_outside hfront, hhandlers, Dialect.read?_eq_nil h.back,
    Option.map_some, List.append_nil]

end

end Layout.ReadIn

/-! ## The layouts -/

/-- The route modules are read, -/
theorem readIn_nextjs : Layout.nextjs.ReadIn Dialect.nextjs Binding.steps where
  lawful := Dialect.lawful_of_mem_all _ (.head _)
  lines := oneLine_nextjs
  closing := rfl
  front clientPath imports := by
    have hclient : ¬Dialect.nextjs.Opens (clientImport "import" clientPath) :=
      not_opens_clientImport (by apply apart_ofList <;> rfl)
    simp only [Layout.nextjs, errorMessage, List.cons_append, List.nil_append, List.forall_mem_cons,
      hclient, List.not_mem_nil, false_implies, implies_true, not_false_iff, true_and, and_true]
    and_intros <;> (apply not_isPrefix; rfl)
  comment := not_opens_comment (by apply apart_ofList <;> rfl)
  back := List.forall_mem_singleton.2 (by apply not_isPrefix; rfl)
  header := by apply not_isPrefix; rfl
  blank := by apply not_isPrefix; rfl
  opens b := ⟨_, _, rfl, Dialect.opens_opening.append.append⟩
  knows b hb := knows_nextjs b hb.bracket

/-- so is the router, -/
theorem readIn_express : Layout.express.ReadIn Dialect.express Binding.steps where
  lawful := Dialect.lawful_of_mem_all _ (.tail _ (.head _))
  lines := oneLine_express
  closing := rfl
  front clientPath imports := by
    have hclient : ¬Dialect.express.Opens (clientImport "import" clientPath) :=
      not_opens_clientImport (by apply apart_ofList <;> rfl)
    simp only [Layout.express, errorMessage, apiKeyVariable, Client.routePrefix,
      String.reduceAppend, List.cons_append, List.nil_append, List.forall_mem_cons, hclient,
      List.not_mem_nil, false_implies, implies_true, not_false_iff, true_and, and_true]
    and_intros <;> (apply not_isPrefix; rfl)
  comment := not_opens_comment (by apply apart_ofList <;> rfl)
  back := by
    simp only [Layout.express, List.forall_mem_cons, List.not_mem_nil, false_implies, implies_true,
      and_true]
    and_intros <;> (apply not_isPrefix; rfl)
  header := by apply not_isPrefix; rfl
  blank := by apply not_isPrefix; rfl
  opens b := ⟨_, _, rfl, Dialect.opens_opening.append.append.append.append⟩
  knows b hb := knows_express b hb.bracket

/-- so is the plugin -/
theorem readIn_fastify : Layout.fastify.ReadIn Dialect.fastify Binding.steps where
  lawful := Dialect.lawful_of_mem_all _ (.tail _ (.tail _ (.head _)))
  lines := oneLine_fastify
  closing := rfl
  front clientPath imports := by
    have hclient : ¬Dialect.fastify.Opens (clientImport "import" clientPath) :=
      not_opens_clientImport (by apply apart_ofList <;> rfl)
    simp only [Layout.fastify, errorMessage, apiKeyVariable, Client.routePrefix,
      String.reduceAppend, List.cons_append, List.nil_append, List.forall_mem_cons, hclient,
      List.not_mem_nil, false_implies, implies_true, not_false_iff, true_and, and_true]
    and_intros <;> (apply not_isPrefix; rfl)
  comment := not_opens_comment (by simp only [String.reduceAppend]; apply apart_ofList <;> rfl)
  back := by
    simp only [Layout.fastify, List.forall_mem_cons, List.not_mem_nil, false_implies, implies_true,
      and_true]
    and_intros <;> (apply not_isPrefix; rfl)
  header := by apply not_isPrefix; rfl
  blank := by apply not_isPrefix; rfl
  opens b := ⟨_, _, rfl, Dialect.opens_opening.append.append.append.append⟩
  knows b hb := knows_fastify b hb.bracket

/-- and so is the controller. -/
theorem readIn_controller : Layout.controller.ReadIn Dialect.controller Binding.steps where
  lawful := Dialect.lawful_of_mem_all _ (.tail _ (.tail _ (.tail _ (.head _))))
  lines := oneLine_controller
  closing := rfl
  front clientPath imports := by
    have hclient : ¬Dialect.controller.Opens (clientImport "import type" clientPath) :=
      not_opens_clientImport (by apply apart_ofList <;> rfl)
    have hopening : Apart Dialect.controller.opening "import \x7b " := by apply apart_ofList <;> rfl
    have hpath : Apart Dialect.controller.opening "@Controller(" := by apply apart_ofList <;> rfl
    simp only [Layout.controller, errorMessage, List.cons_append, List.nil_append,
      List.forall_mem_cons, hclient, not_opens_append hopening.append,
      not_opens_append hpath.append, List.not_mem_nil, false_implies, implies_true, not_false_iff,
      true_and, and_true]
    and_intros <;> (apply not_isPrefix; rfl)
  comment := not_opens_comment (by simp only [String.reduceAppend]; apply apart_ofList <;> rfl)
  back := by
    simp only [Layout.controller, List.forall_mem_cons, List.not_mem_nil, false_implies,
      implies_true, and_true]
    and_intros <;> (apply not_isPrefix; rfl)
  header := by apply not_isPrefix; rfl
  blank := by apply not_isPrefix; rfl
  opens b := ⟨_, _, rfl, Dialect.opens_opening.append.append.append.append⟩
  knows b hb := knows_controller b hb.bracket

/-- The methods of the service are read likewise. -/
theorem readIn_service : Layout.service.ReadIn Dialect.service Binding.serviceSteps where
  lawful := Dialect.lawful_of_mem_all _ (.tail _ (.tail _ (.tail _ (.tail _ (.head _)))))
  lines := oneLine_service
  closing := rfl
  front clientPath imports := by
    have hclient : ¬Dialect.service.Opens (clientImport "import" clientPath) :=
      not_opens_clientImport (by apply apart_ofList <;> rfl)
    simp only [Layout.service, apiKeyVariable, String.reduceAppend, List.forall_mem_cons, hclient,
      List.not_mem_nil, false_implies, implies_true, not_false_iff, true_and, and_true]
    and_intros <;> (apply not_isPrefix; rfl)
  comment _ := List.forall_mem_nil _
  back := by
    simp only [Layout.service, List.forall_mem_cons, List.not_mem_nil, false_implies, implies_true,
      and_true]
    and_intros <;> (apply not_isPrefix; rfl)
  header := by apply not_isPrefix; rfl
  blank := by apply not_isPrefix; rfl
  opens b := ⟨_, _, rfl, Dialect.opens_opening.append.append.append.append⟩
  knows b hb := knows_service b hb.bracket

/-! ## Files without handlers -/

/-- The service has no handlers, -/
theorem readText?_service (clientPath : String) {bs : List Binding} (hbs : ∀ b ∈ bs, b.OneLine) :
    Dialect.controller.readText? (Layout.service.text clientPath bs) = some [] := by
  have hclient : ¬Dialect.controller.Opens (clientImport "import" clientPath) :=
    not_opens_clientImport (by apply apart_ofList <;> rfl)
  have hfront : ∀ l ∈ Client.generatedHeader :: Layout.service.front clientPath (importNames bs),
      ¬Dialect.controller.Opens l := by
    simp only [Layout.service, apiKeyVariable, String.reduceAppend, List.forall_mem_cons, hclient,
      List.not_mem_nil, false_implies, implies_true, not_false_iff, true_and, and_true]
    and_intros <;> (apply not_isPrefix; rfl)
  have hmethod (b : Binding) : ∀ l ∈ "" :: Layout.service.block b, ¬Dialect.controller.Opens l := by
    have hdeclaration : Apart Dialect.controller.opening "  async " := by apply apart_ofList <;> rfl
    have hcall : Apart Dialect.controller.opening "    return this.client()." := by
      apply apart_ofList <;> rfl
    simp only [Layout.block, Layout.service, List.nil_append, List.cons_append,
      List.forall_mem_cons, not_opens_append hdeclaration.append.append.append,
      not_opens_append hcall.append.append.append, List.not_mem_nil, false_implies, implies_true,
      not_false_iff, true_and, and_true]
    and_intros <;> (apply not_isPrefix; rfl)
  have hback : ∀ l ∈ Layout.service.back, ¬Dialect.controller.Opens l := by
    simp only [Layout.service, List.forall_mem_cons, List.not_mem_nil, false_implies, implies_true,
      and_true]
    and_intros <;> (apply not_isPrefix; rfl)
  have hmethods :
      ∀ l ∈ bs.flatMap (fun b => "" :: Layout.service.block b), ¬Dialect.controller.Opens l := by
    intro l hl
    obtain ⟨b, -, hl⟩ := List.mem_flatMap.1 hl
    exact hmethod b l hl
  have houtside : ∀ l ∈ Layout.service.lines clientPath bs, ¬Dialect.controller.Opens l :=
    List.forall_mem_append.2 ⟨List.forall_mem_append.2 ⟨hfront, hmethods⟩, hback⟩
  rw [Dialect.readText?, oneLine_service.lines_text clientPath hbs, Dialect.read?_eq_nil houtside]

/-- nor has the module that ties controller and service together. -/
theorem readText?_module :
    Dialect.controller.readText? ("\n".intercalate moduleLines) = some [] := by
  have hlines : ∀ l ∈ moduleLines, IsLine l := by
    simp only [moduleLines, Client.generatedHeader, List.forall_mem_cons, List.not_mem_nil,
      false_implies, implies_true, and_true]
    and_intros <;> (apply isLine_literal; rfl)
  have houtside : ∀ l ∈ moduleLines, ¬Dialect.controller.Opens l := by
    simp only [moduleLines, Client.generatedHeader, List.forall_mem_cons, List.not_mem_nil,
      false_implies, implies_true, and_true]
    and_intros <;> (apply not_isPrefix; rfl)
  have hne : moduleLines ≠ [] := List.cons_ne_nil _ _
  rw [Dialect.readText?, Text.lines_intercalate hne hlines, Dialect.read?_eq_nil houtside]

end Scaffold.Route
