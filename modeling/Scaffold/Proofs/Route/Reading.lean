import Mathlib.Data.List.Basic
import Scaffold.Artifact
import Scaffold.Catalog.Method
import Scaffold.Proofs.Table
import Scaffold.Proofs.Text.Lines

/-!
# Reading handlers

Generated route handlers are read back line by line. A `Dialect` knows the lines that stand in the
handlers of a framework, and what each of them does; `Dialect.read?` lists the handlers of a file as
their steps. A handler goes from a line with the opening of the dialect to its closing line. Every
line of it has to be known; lines outside of handlers do not matter. The main statement is
`Lawful.read?_block`: a block of lines that the dialect knows is read as the steps of its lines.
-/

namespace Scaffold.Route

/-! ## Steps -/

/-- What a line of a handler does. -/
inductive Step where
  /-- Registers the handler for a method. -/
  | register (method : HttpMethod)
  /-- Declares a function with its parameter list. -/
  | declare (name parameters : String)
  /-- Binds a name to a part of the request. -/
  | bind (name : String)
  /-- Calls an operation with an argument. -/
  | call (operation argument : String)
  /-- Begins what is done if a step in front of it fails. -/
  | onFailure
  /-- Answers with an object and a status. -/
  | answer (body : String) (status : Nat)
  deriving DecidableEq, Repr

/-- A step calls an operation. -/
def Step.calls (operation : String) : Step → Bool
  | call other _ => other == operation
  | _ => false

/-- The method that a step registers its handler for. -/
def Step.registered? : Step → Option HttpMethod
  | register method => some method
  | _ => none

/-! ## Lines -/

/-- A form of lines: an opening, a name, a bracket, what is named there, and an ending. -/
structure Form where
  opening : String
  ending : String
  /-- What a line does, by its name and by what stands in the bracket. -/
  meaning : (name inner : String) → Option (List Step)

/-- What a line of a form does. -/
def Form.read? (form : Form) (line : String) : Option (List Step) :=
  ((line.toList.dropPrefix? form.opening.toList).bind fun cs =>
    cs.dropSuffix? form.ending.toList).bind
    fun cs => match cs.dropWhile (· != '(') with
      | [] => none
      | _ :: inner => form.meaning (String.ofList (cs.takeWhile (· != '('))) (String.ofList inner)

/-- The line of a form. -/
def Form.line (form : Form) (name inner : String) : String :=
  form.opening ++ name ++ "(" ++ inner ++ form.ending

section
variable {form : Form} {name inner line : String}

/-- A line of a form is read by its meaning. -/
theorem Form.read?_line (hname : '(' ∉ name.toList) :
    form.read? (form.line name inner) = form.meaning name inner := by
  have hline : (form.line name inner).toList =
      form.opening.toList ++ (name.toList ++ '(' :: inner.toList ++ form.ending.toList) := by
    simp only [Form.line, String.toList_append, List.append_assoc]
    rfl
  have hending :
      (name.toList ++ '(' :: inner.toList ++ form.ending.toList).dropSuffix? form.ending.toList =
      some (name.toList ++ '(' :: inner.toList) := List.dropSuffix?_eq_some_iff.2 ⟨_, rfl, by simp⟩
  have hall : ∀ c ∈ name.toList, (c != '(') = true := fun c hc => by
    simpa using fun h : c = '(' => hname (h ▸ hc)
  rw [Form.read?, hline, List.dropPrefix?_append_of_beq _ (by simp), Option.bind_some, hending,
    Option.bind_some, List.dropWhile_append_of_pos hall, List.takeWhile_append_of_pos hall,
    List.dropWhile_cons_of_neg (by decide), List.takeWhile_cons_of_neg (by decide), List.append_nil,
    String.ofList_toList]
  exact congrArg _ String.ofList_toList

/-- A line that begins otherwise is of another form. -/
theorem Form.read?_eq_none (h : ¬ form.opening.toList <+: line.toList) :
    form.read? line = none := by
  cases hdrop : line.toList.dropPrefix? form.opening.toList with
  | none => rw [Form.read?, hdrop]; rfl
  | some cs =>
    obtain ⟨pre, hpre, heq⟩ := List.dropPrefix?_eq_some_iff.1 hdrop
    rw [eq_of_beq heq] at hpre
    exact absurd (hpre ▸ List.prefix_append _ _) h

theorem Form.isPrefix_line : form.opening.toList <+: (form.line name inner).toList := by
  simp only [Form.line, String.toList_append, List.append_assoc]
  exact List.prefix_append _ _

end

/-- The lines that stand in the handlers of a framework. -/
structure Dialect where
  /-- How the first line of a handler begins. -/
  opening : String
  /-- The last line of a handler. -/
  closing : String
  forms : List Form
  /-- The lines that are the same in every handler. -/
  fixed : List (String × List Step)

namespace Dialect

section
variable (D : Dialect)

/-- What a line does. -/
def readLine? (line : String) : Option (List Step) :=
  match D.forms.findSome? (·.read? line) with
  | some steps => some steps
  | none => D.fixed.lookup line

/-- A line is the first one of a handler. -/
def Opens (line : String) : Prop := D.opening.toList <+: line.toList

instance (line : String) : Decidable (D.Opens line) := inferInstanceAs (Decidable (_ <+: _))

/-- The handlers in lines. Inside of a handler, the steps of the lines before are given. -/
def read? : Option (List Step) → List String → Option (List (List Step))
  | none, [] => some []
  | some _, [] => none
  | none, line :: rest =>
    if D.Opens line then (D.readLine? line).bind fun steps => read? (some steps) rest
    else read? none rest
  | some steps, line :: rest =>
    if line = D.closing then (read? none rest).map (steps :: ·)
    else (D.readLine? line).bind fun more => read? (some (steps ++ more)) rest

/-- The handlers in a text. -/
def readText? (s : String) : Option (List (List Step)) := D.read? none (Text.lines s)

/-- The handlers in generated files. -/
def readFiles? (a : Artifact) : Option (List (List Step)) :=
  (a.entries.mapM fun p => D.readText? p.2).map List.flatten

/-- The lines of a dialect that are of no form. -/
def plainLines : List String := D.closing :: D.fixed.map Prod.fst

/-- The lines of a dialect can be told apart. -/
structure Lawful : Prop where
  /-- No form begins like another one -/
  forms : D.forms.Pairwise fun form other => Text.Apart form.opening other.opening
  /-- or like a line that is of no form, -/
  plain : ∀ line ∈ D.plainLines, ∀ form ∈ D.forms, ¬ form.opening.toList <+: line.toList
  /-- and these lines are distinct. -/
  distinct : D.plainLines.Nodup

/-- Lines of a dialect with their steps. -/
inductive Knows : List String → List Step → Prop
  | nil : Knows [] []
  | fixed {line rest steps more} : (line, steps) ∈ D.fixed → Knows rest more →
    Knows (line :: rest) (steps ++ more)
  | form (form : Form) (name inner : String) {rest steps more} :
    form ∈ D.forms → '(' ∉ name.toList →
    form.meaning name inner = some steps → Knows rest more →
    Knows (form.line name inner :: rest) (steps ++ more)

end

section
variable {D : Dialect} {line : String} {ls rest : List String} {steps more : List Step}

/-- A fixed line that does nothing, by its place among them. -/
theorem Knows.idle (i : Nat) (h : D.fixed[i]? = some (line, [])) (hrest : D.Knows rest more) :
    D.Knows (line :: rest) more := .fixed (List.mem_of_getElem? h) hrest

/-- A fixed line of one step, by its place among them. -/
theorem Knows.step {step : Step} (i : Nat) (h : D.fixed[i]? = some (line, [step]))
    (hrest : D.Knows rest more) : D.Knows (line :: rest) (step :: more) :=
  .fixed (List.mem_of_getElem? h) hrest

theorem Knows.append (h : D.Knows ls steps) (hrest : D.Knows rest more) :
    D.Knows (ls ++ rest) (steps ++ more) := by
  induction h with
  | nil => exact hrest
  | fixed hline _ ih =>
    rw [List.append_assoc]
    exact .fixed hline ih
  | form form name inner hform hname hmeaning _ ih =>
    rw [List.append_assoc]
    exact .form form name inner hform hname hmeaning ih

end

/-! ## What is read -/

section
variable {D : Dialect} {form : Form} {name inner line : String} {rest ls : List String}
  {acc steps : List Step}

/-- A fixed line does what is said of it. -/
theorem Lawful.readLine?_fixed (hD : D.Lawful) (h : (line, steps) ∈ D.fixed) :
    D.readLine? line = some steps := by
  have hforms : D.forms.findSome? (·.read? line) = none :=
    List.findSome?_eq_none_iff.2 fun form hform =>
      Form.read?_eq_none (hD.plain line (.tail _ (List.mem_map.2 ⟨_, h, rfl⟩)) form hform)
  rw [readLine?, hforms]
  exact (Table.lookup_eq_some_iff (List.nodup_cons.1 hD.distinct).2).2 h

/-- A line of a form does what the form says. -/
theorem Lawful.readLine?_form (hD : D.Lawful) (hform : form ∈ D.forms) (hname : '(' ∉ name.toList)
    (hmeaning : form.meaning name inner = some steps) :
    D.readLine? (form.line name inner) = some steps := by
  obtain ⟨before, behind, hsplit⟩ := List.append_of_mem hform
  have hbefore : before.findSome? (·.read? (form.line name inner)) = none := by
    refine List.findSome?_eq_none_iff.2 fun other hother => Form.read?_eq_none fun hprefix => ?_
    have happart := hD.forms
    rw [hsplit, List.pairwise_append] at happart
    have hother := happart.2.2 other hother form (.head _)
    exact (List.prefix_or_prefix_of_prefix hprefix Form.isPrefix_line).elim hother.1 hother.2
  rw [readLine?, hsplit, List.findSome?_append, hbefore, List.findSome?_cons, Form.read?_line hname,
    hmeaning]
  rfl

/-- The lines of a dialect are read one after the other, and none of them is the last one. -/
theorem Lawful.read?_knows (hD : D.Lawful) (h : D.Knows ls steps) :
    D.read? (some acc) (ls ++ rest) = D.read? (some (acc ++ steps)) rest := by
  induction h generalizing acc with
  | nil => rw [List.nil_append, List.append_nil]
  | fixed hline _ ih =>
    have hopen : _ ≠ D.closing := fun h =>
      (List.nodup_cons.1 hD.distinct).1 (h ▸ List.mem_map_of_mem hline)
    rw [List.cons_append, read?, if_neg hopen, hD.readLine?_fixed hline, Option.bind_some, ih,
      List.append_assoc]
  | form form name inner hform hname hmeaning _ ih =>
    have hopen : form.line name inner ≠ D.closing := fun h =>
      hD.plain _ (.head _) _ hform (h ▸ Form.isPrefix_line)
    rw [List.cons_append, read?, if_neg hopen, hD.readLine?_form hform hname hmeaning,
      Option.bind_some, ih, List.append_assoc]

/-- A line with the opening and the lines of the dialect up to the last one are a handler. -/
theorem Lawful.read?_block (hD : D.Lawful) (h : D.Knows (line :: ls) steps)
    (hopens : D.Opens line) :
    D.read? none (line :: (ls ++ D.closing :: rest)) = (D.read? none rest).map (steps :: ·) := by
  have hfirst : D.read? none (line :: (ls ++ D.closing :: rest)) =
      D.read? (some steps) (D.closing :: rest) := by
    rw [read?, if_pos hopens]
    cases h with
    | fixed hline hrest => rw [hD.readLine?_fixed hline, Option.bind_some, hD.read?_knows hrest]
    | form _ _ _ hform hname hmeaning hrest =>
      rw [hD.readLine?_form hform hname hmeaning, Option.bind_some, hD.read?_knows hrest]
  rw [hfirst, read?, if_pos rfl]

/-- Lines without the opening are outside of handlers. -/
theorem read?_outside (h : ∀ l ∈ ls, ¬D.Opens l) :
    D.read? none (ls ++ rest) = D.read? none rest := by
  induction ls with
  | nil => rfl
  | cons l ls ih =>
    rw [List.cons_append, read?, if_neg (h l (.head _)), ih fun l hl => h l (.tail _ hl)]

/-- No handler is read in them. -/
theorem read?_eq_nil (h : ∀ l ∈ ls, ¬D.Opens l) : D.read? none ls = some [] := by
  rw [← List.append_nil ls, read?_outside h]
  rfl

/-- Handlers one behind the other are read in order. -/
theorem read?_flatMap {α : Type} {lines : α → List String} {handler : α → List Step} {l : List α}
    (h : ∀ a ∈ l, ∀ rest, D.read? none (lines a ++ rest) =
      (D.read? none rest).map (handler a :: ·)) :
    D.read? none (l.flatMap lines ++ rest) = (D.read? none rest).map (l.map handler ++ ·) := by
  induction l with
  | nil => simp
  | cons a l ih =>
    rw [List.flatMap_cons, List.append_assoc, h a (.head _), ih fun a ha => h a (.tail _ ha),
      Option.map_map]
    rfl

/-- Files whose handlers are read one by one. -/
theorem readFiles?_eq_some {a : Artifact} {hss : List (List (List Step))}
    (h : a.entries.map (fun p => D.readText? p.2) = hss.map some) :
    D.readFiles? a = some hss.flatten := by
  have hmapM : ∀ {entries : List (String × String)} {hss : List (List (List Step))},
      entries.map (fun p => D.readText? p.2) = hss.map some →
        entries.mapM (fun p => D.readText? p.2) = some hss := by
    intro entries
    induction entries with
    | nil =>
      intro hss h
      rw [List.map_nil, eq_comm, List.map_eq_nil_iff] at h
      rw [h]
      rfl
    | cons p entries ih =>
      intro hss h
      obtain ⟨hs, hss, rfl, hp, hrest⟩ := List.map_eq_cons_iff.1 h.symm
      have hread : D.readText? p.2 = some hs := hp.symm
      rw [List.mapM_cons, hread, ih hrest.symm]
      rfl
  rw [readFiles?, hmapM h, Option.map_some]

/-- A single file. -/
theorem readFiles?_single {name content : String} {hs : List (List Step)}
    (h : D.readText? content = some hs) : D.readFiles? (.single name content) = some hs := by
  have hread : (Artifact.single name content).entries.map (fun p => D.readText? p.2) =
      [hs].map some :=
    congrArg ([·]) h
  rw [readFiles?_eq_some hread, List.flatten_singleton]

end

end Dialect

end Scaffold.Route
