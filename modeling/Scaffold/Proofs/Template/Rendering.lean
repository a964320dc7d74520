import Scaffold.Template.Basic
import Scaffold.TypeScript.Comment

/-!
# Rendering

What templates render to, part by part: parts one after the other are rendered to their texts one
after the other, and a repetition to the texts of its body. These are the equations by which the
text of a module is computed from its template.
-/

namespace Scaffold.Template

variable {scopes : List Scope}

theorem renderParts?_nil : renderParts? scopes [] = some "" := by rw [renderParts?]

/-- A part and the parts behind it are rendered one after the other. -/
theorem renderParts?_cons_eq_some {p : Part} {rest : List Part} {s t : String}
    (hp : p.render? scopes = some s) (hrest : renderParts? scopes rest = some t) :
    renderParts? scopes (p :: rest) = some (s ++ t) := by
  rw [renderParts?, hp, hrest]

/-- Two lists of parts are rendered one after the other. -/
theorem renderParts?_append_eq_some {ps qs : List Part} {s t : String}
    (hps : renderParts? scopes ps = some s) (hqs : renderParts? scopes qs = some t) :
    renderParts? scopes (ps ++ qs) = some (s ++ t) := by
  induction ps generalizing s with
  | nil =>
    rw [renderParts?_nil] at hps
    cases hps
    rw [List.nil_append, hqs, String.empty_append]
  | cons p ps ih =>
    rw [renderParts?] at hps
    split at hps
    · rename_i s₁ s₂ hp hrest
      cases hps
      rw [List.cons_append, renderParts?_cons_eq_some hp (ih hrest), String.append_assoc]
    · cases hps

/-- A choice is rendered to the alternative that its condition picks. -/
theorem render?_choice {condition : Condition} {b : Bool} {yes no : List Part}
    (h : condition.decide? scopes = some b) :
    Part.render? scopes (.choice condition yes no) =
      renderParts? scopes (if b then yes else no) := by
  rw [Part.render?, h]
  cases b <;> rfl

/-- A choice by a text that is not empty is rendered to a comment on a line of its own. -/
theorem render?_comment {path : Path} {text margin : String}
    (hpath : find? scopes path = some (.string text)) :
    Part.render? scopes
      (.choice (.holds path) [.text (margin ++ "/** "), .value path, .text " */\n"] []) =
      some (if text = "" then "" else margin ++ "/** " ++ text ++ " */\n") := by
  have hcondition : (Condition.holds path).decide? scopes = some (text != "") := by
    rw [Condition.decide?, hpath]
    rfl
  rw [render?_choice hcondition]
  by_cases hempty : text = ""
  · simp [hempty, renderParts?_nil]
  · simp [hempty, renderParts?, Part.render?, hpath, print, String.append_assoc]

/-- A choice by a description is rendered to its documentation comment. -/
theorem render?_docComment {path : Path} {description opening : String} {indent : Nat}
    (hpath : find? scopes path = some (.string (TypeScript.commentText description)))
    (hopening : opening = String.ofList (List.replicate indent ' ') ++ "/** ") :
    Part.render? scopes (.choice (.holds path) [.text opening, .value path, .text " */\n"] []) =
      some (TypeScript.docComment description indent) := by
  rw [hopening, render?_comment hpath, TypeScript.docComment]
  simp only [String.isEmpty_iff]

/-! ## Values -/

section
variable (name : String) {j k : Json}

/-- A name is looked up in the innermost scope, -/
theorem find?_own (scope : Scope) (h : scope.lookup name = some j) :
    find? (scope :: scopes) [name] = some j := by
  simp [find?, Scope.find?, follow?, h]

/-- and a member of the item of a repetition in the item. -/
theorem find?_item (item : String) (j : Json) (member : String) (h : j.member? member = some k) :
    find? ([(item, j)] :: scopes) [item, member] = some k := by
  simp [find?, Scope.find?, follow?, h]

/-- Another name is looked up outside of the repetition. -/
theorem find?_outer (item : String) (hname : (name == item) = false) :
    find? ([(item, k)] :: scopes) [name] = find? scopes [name] := by
  simp [find?, Scope.find?, List.lookup_cons, hname]

end

/-! ## Repetitions -/

/-- The parts in front of the first repetition. -/
def beforeEach : List Part → List Part
  | [] => []
  | .each _ _ _ :: _ => []
  | p :: rest => p :: beforeEach rest

/-- The body of the first repetition. -/
def eachBody : List Part → List Part
  | [] => []
  | .each _ _ body :: _ => body
  | _ :: rest => eachBody rest

/-- The parts behind the first repetition. -/
def afterEach : List Part → List Part
  | [] => []
  | .each _ _ _ :: rest => rest
  | _ :: rest => afterEach rest

/-- Texts that are all there are put one after the other. -/
theorem concat?_map_some {α : Type} (f : α → String) (l : List α) :
    concat? (l.map fun a => some (f a)) = some (String.join (l.map f)) := by
  induction l with
  | nil => rfl
  | cons a l ih => rw [List.map_cons, concat?, ih, List.map_cons, String.join_cons]; rfl

/-- A repetition over an array is rendered to the texts of its body, one for each item. -/
theorem render?_each_eq_some {α : Type} (name : String) {path : Path} {body : List Part}
    {item : α → Json} {f : α → String} {l : List α}
    (hpath : find? scopes path = some (.array (l.map item)))
    (hbody : ∀ a ∈ l, renderParts? ([(name, item a)] :: scopes) body = some (f a)) :
    Part.render? scopes (.each name path body) = some (String.join (l.map f)) := by
  rw [Part.render?, hpath]
  simp only [Option.bind_some, items?, List.map_map]
  rw [← concat?_map_some]
  exact congrArg concat? (List.map_congr_left hbody)

end Scaffold.Template
