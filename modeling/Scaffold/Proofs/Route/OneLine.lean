import Scaffold.Proofs.Catalog.Acceptance
import Scaffold.Proofs.Route.Argument
import Scaffold.Proofs.Route.Layout
import Scaffold.Proofs.TypeScript.OneLine

/-!
# Lines of route handlers

The lines of the layouts have no line breaks of their own if what is printed as it stands in a
binding has none. So the lines of a file are those of its layout: this is `OneLine.lines_text`.
-/

namespace Scaffold.Route

open Text (IsLine isLine_append_iff isLine_empty isLine_literal)

/-! ## Lines without line breaks -/

/-- What of a binding is printed as it is stands on one line. -/
structure Binding.OneLine (b : Binding) : Prop where
  operation : IsLine b.operation
  description : IsLine b.description
  callArgs : IsLine b.callArgs

/-- The lines of a layout have no line breaks. -/
structure Layout.OneLine (L : Layout) : Prop where
  front : ∀ clientPath imports, IsLine imports → ∀ l ∈ L.front clientPath imports, IsLine l
  comment : ∀ b : Binding, b.OneLine → ∀ l ∈ L.comment b, IsLine l
  handler : ∀ b : Binding, b.OneLine → ∀ l ∈ L.handler b, IsLine l
  last : IsLine L.last
  back : ∀ l ∈ L.back, IsLine l

/-- A comment has no line break if the margin has none. -/
theorem isLine_commentLines {margin : String} (hmargin : IsLine margin) (b : Binding)
    (hb : b.OneLine) : ∀ l ∈ commentLines margin b, IsLine l := by
  intro l hl
  rw [commentLines] at hl
  split at hl
  · cases hl
  · rw [List.mem_singleton.1 hl]
    refine ((hmargin.append ?_).append hb.description).append ?_ <;> (apply isLine_literal; rfl)

theorem isLine_method (m : HttpMethod) :
    IsLine (Registry.name m) ∧ IsLine m.verb ∧ IsLine m.decorator := by
  cases m <;> (and_intros <;> (apply isLine_literal; rfl))

theorem isLine_nestParameters (b : Binding) : IsLine (nestParameters b) := by
  rw [nestParameters]
  cases b.input <;> (apply isLine_literal; rfl)

theorem isLine_serviceParameters (b : Binding) (hoperation : IsLine b.operation) :
    IsLine (serviceParameters b).1 ∧ IsLine (serviceParameters b).2 := by
  rw [serviceParameters]
  cases b.input with
  | none => exact ⟨isLine_empty, isLine_empty⟩
  | query | body =>
    refine ⟨((?_ : IsLine _).append hoperation).append ?_, ?_⟩ <;> (apply isLine_literal; rfl)

/-- The lines of the route modules have no line breaks, -/
theorem oneLine_nextjs : Layout.nextjs.OneLine where
  front clientPath imports _ := by
    simp only [Layout.nextjs, clientImport, errorMessage, List.cons_append, List.nil_append,
      List.forall_mem_cons, List.not_mem_nil, false_implies, implies_true, isLine_append_iff,
      TypeScript.isLine_quote, and_true]
    and_intros <;> (apply isLine_literal; rfl)
  comment := isLine_commentLines isLine_empty
  handler b hb := by
    simp only [Layout.nextjs, inputLines, List.forall_mem_append, List.forall_mem_cons,
      isLine_append_iff, apiKeyVariable, (isLine_method b.method).1, hb.operation, hb.callArgs,
      and_true]
    cases b.input with
    | none | query | body =>
      simp only [List.forall_mem_cons, List.not_mem_nil, isLine_append_iff, false_implies,
        implies_true, true_and, and_true]
      and_intros <;> (apply isLine_literal; rfl)
  last := by apply isLine_literal; rfl
  back := by
    simp only [Layout.nextjs, List.forall_mem_cons, List.not_mem_nil, false_implies, implies_true,
      and_true]
    exact isLine_empty

/-- nor have those of the router, -/
theorem oneLine_express : Layout.express.OneLine where
  front clientPath imports _ := by
    simp only [Layout.express, clientImport, errorMessage, Client.routePrefix, apiKeyVariable,
      List.cons_append, List.nil_append, List.forall_mem_cons, List.not_mem_nil, false_implies,
      implies_true, isLine_append_iff, TypeScript.isLine_quote, and_true]
    and_intros <;> (apply isLine_literal; rfl)
  comment := isLine_commentLines isLine_empty
  handler b hb := by
    simp only [Layout.express, inputLines, List.forall_mem_append, List.forall_mem_cons,
      isLine_append_iff, TypeScript.isLine_quote, (isLine_method b.method).2.1, hb.operation,
      hb.callArgs, and_true]
    cases b.input with
    | none | query | body =>
      simp only [List.forall_mem_cons, List.not_mem_nil, false_implies, implies_true, true_and,
        and_true]
      and_intros <;> (apply isLine_literal; rfl)
  last := by apply isLine_literal; rfl
  back := by
    simp only [Layout.express, List.forall_mem_cons, List.not_mem_nil, false_implies, implies_true,
      and_true]
    and_intros <;> (apply isLine_literal; rfl)

/-- those of the plugin, -/
theorem oneLine_fastify : Layout.fastify.OneLine where
  front clientPath imports _ := by
    simp only [Layout.fastify, clientImport, errorMessage, Client.routePrefix, apiKeyVariable,
      List.cons_append, List.nil_append, List.forall_mem_cons, List.not_mem_nil, false_implies,
      implies_true, isLine_append_iff, TypeScript.isLine_quote, and_true]
    and_intros <;> (apply isLine_literal; rfl)
  comment := isLine_commentLines (by apply isLine_literal; rfl)
  handler b hb := by
    simp only [Layout.fastify, inputLines, List.forall_mem_append, List.forall_mem_cons,
      isLine_append_iff, TypeScript.isLine_quote, (isLine_method b.method).2.1, hb.operation,
      hb.callArgs, and_true]
    cases b.input with
    | none | query | body =>
      simp only [List.forall_mem_cons, List.not_mem_nil, false_implies, implies_true, true_and,
        and_true]
      and_intros <;> (apply isLine_literal; rfl)
  last := by apply isLine_literal; rfl
  back := by
    simp only [Layout.fastify, List.forall_mem_cons, List.not_mem_nil, false_implies, implies_true,
      and_true]
    and_intros <;> (apply isLine_literal; rfl)

/-- those of the controller -/
theorem oneLine_controller : Layout.controller.OneLine where
  front clientPath imports himports := by
    simp only [Layout.controller, clientImport, errorMessage, List.cons_append, List.nil_append,
      List.forall_mem_cons, List.not_mem_nil, false_implies, implies_true, isLine_append_iff,
      TypeScript.isLine_quote, himports, and_true]
    and_intros <;> (apply isLine_literal; rfl)
  comment := isLine_commentLines (by apply isLine_literal; rfl)
  handler b hb := by
    simp only [Layout.controller, List.forall_mem_cons, List.not_mem_nil, false_implies,
      implies_true, isLine_append_iff, TypeScript.isLine_quote, (isLine_method b.method).2.2,
      isLine_nestParameters, hb.operation, hb.callArgs, and_true]
    and_intros <;> (apply isLine_literal; rfl)
  last := by apply isLine_literal; rfl
  back := by
    simp only [Layout.controller, List.forall_mem_cons, List.not_mem_nil, false_implies,
      implies_true, and_true]
    and_intros <;> (apply isLine_literal; rfl)

/-- and those of the service. -/
theorem oneLine_service : Layout.service.OneLine where
  front clientPath imports _ := by
    simp only [Layout.service, clientImport, apiKeyVariable, List.forall_mem_cons, List.not_mem_nil,
      false_implies, implies_true, isLine_append_iff, TypeScript.isLine_quote, and_true]
    and_intros <;> (apply isLine_literal; rfl)
  comment := fun _ _ => List.forall_mem_nil _
  handler b hb := by
    simp only [Layout.service, List.forall_mem_cons, List.not_mem_nil, false_implies, implies_true,
      isLine_append_iff, (isLine_serviceParameters b hb.operation).1,
      (isLine_serviceParameters b hb.operation).2, hb.operation, and_true]
    and_intros <;> (apply isLine_literal; rfl)
  last := by apply isLine_literal; rfl
  back := by
    simp only [Layout.service, List.forall_mem_cons, List.not_mem_nil, false_implies, implies_true,
      and_true]
    and_intros <;> (apply isLine_literal; rfl)

/-! ## Files of accepted catalogs -/

theorem mem_insertName_iff {name n : String} {names : List String} :
    n ∈ insertName name names ↔ n = name ∨ n ∈ names := by
  fun_induction insertName name names <;> grind

/-- The imported names are those that the controller always uses and those of the handlers. -/
theorem mem_nestImports_iff {bs : List Binding} {n : String} :
    n ∈ nestImports bs ↔ n ∈ ["Controller", "HttpException"] ∨ ∃ b ∈ bs, n ∈ nestNames b := by
  have hfold (names base : List String) :
      n ∈ names.foldl (fun acc n => insertName n acc) base ↔ n ∈ base ∨ n ∈ names := by
    induction names generalizing base with
    | nil => simp
    | cons name names ih =>
      rw [List.foldl_cons, ih, mem_insertName_iff, List.mem_cons, @or_comm (n = name), or_assoc]
  rw [nestImports, hfold, List.mem_flatMap]

/-- The imports of the controller stand on one line. -/
theorem isLine_importNames (bs : List Binding) : IsLine (importNames bs) := by
  have hbase : ∀ n ∈ ["Controller", "HttpException"], IsLine n := by
    simp only [List.forall_mem_cons, List.not_mem_nil, false_implies, implies_true, and_true]
    and_intros <;> (apply isLine_literal; rfl)
  have hnames (b : Binding) : ∀ n ∈ nestNames b, IsLine n := by
    rw [nestNames]
    cases b.input with
    | none => exact List.forall_mem_singleton.2 (isLine_method b.method).2.2
    | query | body =>
      refine List.forall_mem_cons.2 ⟨(isLine_method b.method).2.2, List.forall_mem_singleton.2 ?_⟩
      apply isLine_literal; rfl
  refine IsLine.intercalate (by apply isLine_literal; rfl) fun n hn => ?_
  obtain hn | ⟨b, -, hn⟩ := mem_nestImports_iff.1 hn
  · exact hbase n hn
  · exact hnames b n hn

/-- The lines of a file are those of its layout. -/
theorem Layout.OneLine.lines_text {L : Layout} (h : L.OneLine) (clientPath : String)
    {bs : List Binding} (hbs : ∀ b ∈ bs, b.OneLine) :
    Text.lines (L.text clientPath bs) = L.lines clientPath bs := by
  have hheader : IsLine Client.generatedHeader := by apply isLine_literal; rfl
  refine Text.lines_intercalate (List.append_ne_nil_of_left_ne_nil (List.cons_ne_nil _ _) _) ?_
  rw [Layout.lines, List.forall_mem_append, List.forall_mem_append, List.forall_mem_cons]
  refine ⟨⟨⟨hheader, h.front clientPath _ (isLine_importNames bs)⟩, fun l hl => ?_⟩, h.back⟩
  obtain ⟨b, hb, hl⟩ := List.mem_flatMap.1 hl
  obtain rfl | hl := List.mem_cons.1 hl
  · exact isLine_empty
  · rw [Layout.block, List.mem_append, List.mem_append, List.mem_singleton] at hl
    obtain hl | hl | rfl := hl
    · exact h.comment b (hbs b hb) l hl
    · exact h.handler b (hbs b hb) l hl
    · exact h.last

section
variable {name : String}

/-- An identifier has no line break. -/
theorem isLine_of_isIdentifier (h : TypeScript.isIdentifier name = true) : IsLine name :=
  fun hbreak => absurd ((forall_isIdentifierPart h).2 _ hbreak) (by decide)

/-- A member of an argument has no line break if its name has none. -/
theorem isLine_queryMember (h : IsLine name) (p : Param) : IsLine (queryMember name p) := by
  have hvalue : IsLine (queryValue name p) := by
    have hraw : IsLine ("query." ++ name) := .append (by apply isLine_literal; rfl) h
    rw [queryValue]
    split
    · split
      · refine hraw.append ?_
        apply isLine_literal; rfl
      · exact hraw
    · refine ((?_ : IsLine _).append hraw).append ?_ <;> (apply isLine_literal; rfl)
    · refine hraw.append ?_
      apply isLine_literal; rfl
  rw [queryMember]
  split
  all_goals
    simp only [isLine_append_iff, h, hvalue, and_true, true_and]
    and_intros <;> (apply isLine_literal; rfl)

end

/-- What is printed as it stands in the bindings of an accepted catalog has no line break. -/
theorem oneLine_of {c : Catalog} (hc : c.Accepted) {name : String} {e : Endpoint}
    (he : (name, e) ∈ c.endpoints.entries) : (Binding.of name e).OneLine := by
  have hname : IsLine name := isLine_of_isIdentifier (hc.identifier he)
  refine ⟨hname, TypeScript.isLine_commentText _, ?_⟩
  rw [Binding.of]
  cases hp : e.payload with
  | none => exact isLine_empty
  | query params =>
    have hmembers :
        IsLine (", ".intercalate (params.entries.map fun q => queryMember q.1 q.2)) := by
      refine IsLine.intercalate (by apply isLine_literal; rfl)
        (List.forall_mem_map.2 fun q hq => ?_)
      exact isLine_queryMember
        (isLine_of_isIdentifier ((hc.query_params he hp).2 q.1 (List.mem_map_of_mem hq))) q.2
    refine ((?_ : IsLine _).append hmembers).append ?_ <;> (apply isLine_literal; rfl)
  | body fields => refine ((?_ : IsLine _).append hname).append ?_ <;> (apply isLine_literal; rfl)

end Scaffold.Route
