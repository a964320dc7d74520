import Scaffold.Proofs.Generated.Places
import Scaffold.Proofs.TypeScript.Comment

/-!
# The comments of generated files

Descriptions of the catalog become documentation comments, in modules that are put together from
texts as in those that are rendered from templates. `readCommentLine?` reads a comment up to the end
of its line, and fails if the comment goes on over a line end or if something stands behind it. The
main statement is `comments_end_on_their_lines`: in every generated file, the comments of the
descriptions are read one after the other, each as what was written into it, so none of them ends
early or takes anything of the code in.
-/

namespace Scaffold

open Text (Adds Blanks Finds adds_nil adds_of_reads stacked)
open TypeScript

/-! ## Comments on lines of their own -/

/-- Reads a block comment that ends on its line, with the end of the line. -/
def readCommentLine? (cs : List Char) : Option (List Char × List Char) :=
  match readComment? cs with
  | some (text, '\n' :: rest) => if text.any isLineEnd then none else some (text, rest)
  | _ => none

/-- A comment that is written around the text of one takes up its line. -/
theorem readCommentLine?_commentText (s : String) (rest : List Char) :
    readCommentLine? (("/** " ++ commentText s ++ " */\n").toList ++ rest) =
      some (("* " ++ commentText s ++ " ").toList, rest) := by
  have hread := readComment?_commentText s ('\n' :: rest)
  have hcut : ("/** " ++ commentText s ++ " */\n").toList ++ rest =
      ("/** " ++ commentText s ++ " */").toList ++ '\n' :: rest := by simp
  have htext : (commentText s).toList.any isLineEnd = false := by
    rw [commentText, String.toList_ofList]
    exact List.any_eq_false.2 fun c hc => by
      simp [(commentText_commentChars s.toList).no_line_end c hc]
  have hline : ("* " ++ commentText s ++ " ").toList.any isLineEnd = false := by
    rw [String.toList_append, String.toList_append, List.any_append, List.any_append, htext]
    rfl
  rw [readCommentLine?, hcut, hread]
  simp only [hline, Bool.false_eq_true, if_false]

/-- The place of the comment for a description, behind a margin; none if the description is
blank. -/
def commentPlaces (margin description : String) : List (String × List Char) :=
  if commentText description = "" then []
  else [(margin, ("* " ++ commentText description ++ " ").toList)]

/-- A documentation comment is read behind its margin. -/
theorem adds_docComment (margin : String) (indent : Nat) (description : String)
    (h : margin = String.ofList (List.replicate indent ' ')) :
    Adds readCommentLine? (commentPlaces margin description) (docComment description indent) := by
  rw [commentPlaces, docComment, h]
  by_cases htext : commentText description = ""
  · simp only [htext, if_true]
    exact adds_nil _
  · have hcut (margin : String) : margin ++ "/** " ++ commentText description ++ " */\n" =
        margin ++ ("/** " ++ commentText description ++ " */\n") := by
          simp only [String.append_assoc]
    simp only [if_neg htext, String.isEmpty_iff, hcut]
    exact adds_of_reads (readCommentLine?_commentText description) _

/-! ## The clients -/

namespace Client

/-- A method begins with its comment. -/
theorem adds_methodText (p : String × Endpoint) :
    Adds readCommentLine? (commentPlaces "  " p.2.description) (methodText p) := by
  have hmethod : ∃ rest, method p.1 p.2 = docComment p.2.description 2 ++ rest ++ "\n" := by
    refine ⟨"  async " ++ p.1 ++ "(" ++ signature p.2 ++ "): Promise<" ++ returnType p.2 ++
      "> \x7b\n" ++ statements p.2 ++ "  \x7d", ?_⟩
    rw [method, show "  \x7d\n" = "  \x7d" ++ "\n" from rfl]
    simp only [String.append_assoc]
  obtain ⟨rest, hmethod⟩ := hmethod
  rw [(exists_methodText p).1, String.append_left_inj] at hmethod
  rw [hmethod]
  exact (adds_docComment "  " 2 p.2.description rfl).before rest

/-- So does a function of the proxy client. -/
theorem adds_proxyText (p : String × Endpoint) :
    Adds readCommentLine? (commentPlaces "" p.2.description) (proxyText p.1 p.2) := by
  simp only [proxyText, String.append_assoc]
  exact (adds_docComment "" 0 p.2.description rfl).before _

/-- The comments of a domain type: its own and those of its fields. -/
def interfaceComments (t : TypeDefinition) : List (String × List Char) :=
  commentPlaces "" t.description ++ t.fields.entries.flatMap fun q =>
    commentPlaces "  " q.2.description

/-- An interface has the comments of its type. -/
theorem adds_interfaceText (t : TypeDefinition) :
    Adds readCommentLine? (interfaceComments t) (interfaceText t) := by
  have hmember (q : String × Field) :
      Adds readCommentLine? (commentPlaces "  " q.2.description) ("\n" ++ memberText q) := by
    rw [memberText, String.append_assoc]
    exact ((adds_docComment "  " 2 q.2.description rfl).before _).behind "\n"
  have hmembers : Adds readCommentLine?
      (t.fields.entries.flatMap fun q => commentPlaces "  " q.2.description)
      (String.join (t.fields.entries.map fun q => "\n" ++ memberText q)) :=
        Adds.join fun q _ => hmember q
  have hhead : Adds readCommentLine? (commentPlaces "" t.description)
      (docComment t.description 0 ++ "export interface " ++ Registry.name t.domain ++ " \x7b") := by
    simp only [String.append_assoc]
    exact (adds_docComment "" 0 t.description rfl).before _
  exact (hhead.append hmembers).before "\n\x7d"

end Client

/-! ## Route handlers -/

namespace Route

/-- A handler with a comment in front has the comment on a line of its own. -/
theorem Layout.adds_block {L : Layout} {margin : String}
    (hcomment : L.comment = commentLines margin) (p : String × Endpoint) :
    Adds readCommentLine? (commentPlaces margin p.2.description)
      (stacked ("" :: L.block (Binding.of p.1 p.2))) := by
  have hlines : ∃ rest, stacked (L.handler (Binding.of p.1 p.2) ++ [L.last]) = "\n" ++ rest :=
    ⟨_, Text.stacked_of_ne_nil (by simp)⟩
  obtain ⟨rest, hrest⟩ := hlines
  have hdescription : (Binding.of p.1 p.2).description = commentText p.2.description := rfl
  rw [Layout.block, hcomment, Text.stacked_cons, Text.stacked_append, hrest, commentLines,
    hdescription, commentPlaces]
  by_cases h : commentText p.2.description = ""
  · simp only [h, if_true]
    exact adds_nil _
  · simp only [if_neg h, Text.stacked_cons, Text.stacked_nil, String.append_assoc,
      String.empty_append]
    have hread := (adds_of_reads (readCommentLine?_commentText p.2.description) margin).before rest
    have hcut : " */\n" = " */" ++ "\n" := rfl
    simp only [hcut, String.append_assoc] at hread
    exact (hread.behind "\n").behind "\n"

end Route

/-! ## All files -/

/-- The comments for the descriptions of operations, in order. -/
def operationComments (margin : String) (l : List (String × Endpoint)) :
    List (String × List Char) :=
  l.flatMap fun p => commentPlaces margin p.2.description

/-- The comments for descriptions in the files that are generated from a catalog. None is read as
longer or shorter than it was written, and each ends on its own line. -/
structure CommentsEnd (c : Catalog) : Prop where
  direct : ∀ environment baseUrl typesPath, ∃ text,
    Client.direct c environment baseUrl typesPath = .ok text ∧
      Finds readCommentLine? (operationComments "  " (operations c)) text.toList
  proxy : ∀ typesPath, ∃ text, Client.proxy c typesPath = .ok text ∧
    Finds readCommentLine? (operationComments "" (operations c)) text.toList
  types : ∃ text, Client.types c = .ok text ∧
    Finds readCommentLine? (c.types.flatMap Client.interfaceComments) text.toList
  nextjs : ∀ clientPath, ∃ a, Route.handlers c .nextjs clientPath = .ok a ∧ ∀ file ∈ a.entries,
    ∃ path, file.1 = Route.nextjsFile path ∧
      Finds readCommentLine? (operationComments "" (operationsAt c path)) file.2.toList
  express : ∀ clientPath, ∃ text,
    contentOf (Route.handlers c .express clientPath) "scheduling.routes.ts" = some text ∧
      Finds readCommentLine? (operationComments "" (operations c)) text.toList
  fastify : ∀ clientPath, ∃ text,
    contentOf (Route.handlers c .fastify clientPath) "scheduling.plugin.ts" = some text ∧
      Finds readCommentLine? (operationComments "  " (operations c)) text.toList
  controller : ∀ clientPath, ∃ text,
    contentOf (Route.handlers c .nestjs clientPath) "scheduling.controller.ts" = some text ∧
      Finds readCommentLine? (operationComments "  " (operations c)) text.toList

/-- The comments of a file of route handlers. -/
theorem Route.Layout.finds_comments {L : Layout} {margin : String}
    (hcomment : L.comment = commentLines margin) (clientPath : String)
    (l : List (String × Endpoint)) :
    Finds readCommentLine? (operationComments margin l)
      (L.text clientPath (bindingsOf l)).toList := by
  have hfront : Adds readCommentLine? []
      (Client.generatedHeader ++ stacked (L.front clientPath (importNames (bindingsOf l)))) :=
    adds_nil _
  exact Layout.finds_text hfront (Layout.adds_block hcomment)

/-- Every comment for a description ends on its own line. -/
theorem commentsEnd (c : Catalog) : CommentsEnd c where
  direct environment baseUrl typesPath := by
    have hfront : Adds readCommentLine? [] (Client.directFront environment baseUrl typesPath) :=
      adds_nil _
    exact Client.exists_direct_finds hfront Client.adds_methodText c
  proxy typesPath := by
    have hfront : Adds readCommentLine? [] (Client.proxyFront typesPath) := adds_nil _
    exact Client.exists_proxy_finds hfront Client.adds_proxyText c
  types := Client.exists_types_finds Client.adds_interfaceText c
  nextjs clientPath := by
    obtain ⟨a, ha, hfiles⟩ := Route.exists_of_mem_nextjs c clientPath
    refine ⟨a, ha, fun file hfile => ?_⟩
    obtain ⟨path, hname, htext⟩ := hfiles file hfile
    exact ⟨path, hname, htext ▸ Route.Layout.finds_comments rfl clientPath _⟩
  express clientPath := by
    rw [Route.handlers_express]
    exact ⟨_, rfl, Route.Layout.finds_comments rfl clientPath _⟩
  fastify clientPath := by
    rw [Route.handlers_fastify]
    exact ⟨_, rfl, Route.Layout.finds_comments rfl clientPath _⟩
  controller clientPath :=
    ⟨_, (Route.contentOf_nestjs c clientPath).1, Route.Layout.finds_comments rfl clientPath _⟩

/-- What a description becomes cannot end a comment or a line, has single spaces between its words
and none around them, and is not changed again. A documentation comment is nothing for a blank
text, and else a comment behind its margin that ends on its line, and so it does in every
generated file. -/
theorem comments_end_on_their_lines :
    (∀ s, CommentText s.toList (commentText s).toList ∧
      commentText (commentText s) = commentText s) ∧
    (∀ s indent, docComment s indent = "" ∧ Blanks s.toList ∨
      ¬ Blanks s.toList ∧ docComment s indent =
        String.ofList (List.replicate indent ' ') ++ ("/** " ++ commentText s ++ " */\n")) ∧
    (∀ s rest, readCommentLine? (("/** " ++ commentText s ++ " */\n").toList ++ rest) =
      some (("* " ++ commentText s ++ " ").toList, rest)) ∧
    ∀ c, CommentsEnd c := by
  refine ⟨fun s => ?_, fun s indent => ?_, readCommentLine?_commentText, commentsEnd⟩
  · have htext := commentText_commentChars s.toList
    rw [commentText, commentText, String.toList_ofList, htext.fixed]
    exact ⟨htext, rfl⟩
  · have hnil : commentText s = "" ↔ Blanks s.toList := by
      rw [← (commentText_commentChars s.toList).eq_nil_iff, commentText, String.ofList_eq_empty_iff]
    rw [docComment]
    by_cases h : commentText s = ""
    · exact .inl ⟨by simp only [h]; rfl, hnil.1 h⟩
    · refine .inr ⟨mt hnil.2 h, ?_⟩
      simp only [if_neg h, String.isEmpty_iff, String.append_assoc]

end Scaffold
