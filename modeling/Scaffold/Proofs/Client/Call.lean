import Scaffold.Proofs.Client.Loop
import Scaffold.Proofs.Client.QueryPath
import Scaffold.Proofs.Route.Argument

/-!
# The call of a request wrapper

Every function of either client calls its request wrapper once. `readCall` reads such a call from
behind its opening bracket: the path, which may carry a query, and what the wrapper is passed behind
it. A method that is left out is GET. `Call.of` is the call that an operation declares. The main
statement is `readCall_callSource_iff`: the call that the clients write for an operation is read as
the one that it declares exactly if a path that carries a query can be written into a template
literal as it is.
-/

namespace Scaffold.Client

open Route (Reader bind_eq_none bind_reads exists_of_bind_reads expect expect_eq_some_iff
  orElse_eq_right orElse_reads readName readName_reads)
open TypeScript

/-! ## Calls -/

/-- What a request wrapper is called for. -/
structure Call where
  /-- The code units of the path without the query. -/
  path : List Nat
  /-- The expression for the text of the query. -/
  query : Option String
  verb : HttpMethod
  /-- The variable that is sent as JSON. -/
  body : Option String
  deriving DecidableEq, Repr

/-- The call that an operation declares. -/
def Call.of (e : Endpoint) : Call where
  path := units e.path.toList
  query := match e.payload with
    | .query _ => some (queryExpression e)
    | .body _ | .none => none
  verb := e.method
  body := match e.payload with
    | .body _ => some "data"
    | .query _ | .none => none

/-- The expression for the text of the query that the statements in front of a call collect. -/
def Outline.collected? (o : Outline) : Option String :=
  (Loop.read? o.query).bind fun loop => loop.queryText? o.query

/-- A call of a request wrapper from behind its opening bracket. -/
def Outline.callSource (margin : String) (o : Outline) : String :=
  ("\n" ++ margin).intercalate o.arguments ++ ");"

/-! ## Reading -/

/-- A path, and the expression for the text of the query that it carries. -/
abbrev Target := List Nat × Option String

/-- What a template literal stands for: a path, or a path and a query behind a question mark. -/
def target? (t : TemplateLiteral) : Option Target :=
  match t.substitutions with
  | [] => some (t.head, none)
  | [(source, [])] =>
    if t.head.getLast? = some '?'.toNat then
      some (t.head.dropLast, some (String.ofList source))
    else none
  | _ => none

/-- Reads a template literal. -/
def readTemplateTarget : Reader Target := do
  expect "`"
  let template ← (readTemplate? : Reader TemplateLiteral)
  StateT.lift (target? template)

/-- Reads a path that carries a query if the text of that is not empty. -/
def readChoice : Reader Target := do
  let text ← readName
  expect " ? "
  let target ← readTemplateTarget
  expect " : "
  let path ← (readLiteral? : Reader (List Nat))
  if target = (path, some text) then return target else failure

/-- Reads what is requested. -/
def readTarget : Reader Target :=
  (do let path ← (readLiteral? : Reader (List Nat)); return (path, none)) <|>
    readTemplateTarget <|> readChoice

/-- Whether a character can stand between the members of an object. -/
def isBlank (c : Char) : Bool := c == ' ' || c == '\n'

/-- Skips blanks and line breaks. -/
def skipBlanks : Reader Unit := fun cs => some ((), cs.dropWhile isBlank)

/-- Reads what separates a member from the next one or from the closing brace. -/
def readSeparator : Reader Unit := do
  (expect "," <|> return ())
  skipBlanks

/-- Reads a member of an object, if it is there. -/
def readPassed {α : Type} (member : Reader α) : Reader (Option α) :=
  (do
    let value ← member
    readSeparator
    return some value) <|> return none

/-- Reads the method. -/
def readMethod : Reader HttpMethod := do
  expect "method: '"
  let name ← readName
  expect "'"
  StateT.lift (Registry.find? name)

/-- Reads the body. -/
def readBody : Reader String := do
  expect "body: JSON.stringify("
  let name ← readName
  expect ")"
  return name

/-- Reads the object that is passed behind the path, if there is one. -/
def readInit : Reader (Option HttpMethod × Option String) :=
  (do
    expect ", \x7b"
    skipBlanks
    let method ← readPassed readMethod
    let body ← readPassed readBody
    expect "\x7d"
    return (method, body)) <|> return (none, none)

/-- Reads a call from behind its opening bracket. -/
def readCall : Reader Call := do
  let (path, query) ← readTarget
  let (method, body) ← readInit
  expect ");"
  return ⟨path, query, method.getD .get, body⟩

/-! ## What is passed behind the path -/

/-- How a method is passed to the request wrapper behind the path. -/
def passing (m : HttpMethod) : String := ", \x7b method: '" ++ Registry.name m ++ "' \x7d"

section
variable {α : Type} {member : Reader α} {value : α} {cs mid blanks rest after : List Char}

/-- Blanks are skipped up to what is none. -/
theorem skipBlanks_reads (hblanks : ∀ c ∈ blanks, isBlank c = true)
    (hrest : ∀ c ∈ rest.head?, isBlank c = false) :
    skipBlanks (blanks ++ rest) = some ((), rest) := by
  have hstop : rest.dropWhile isBlank = rest := by
    cases rest with
    | nil => rfl
    | cons c rest => exact List.dropWhile_cons_of_neg (by simp [hrest c rfl])
  rw [skipBlanks, List.dropWhile_append_of_pos hblanks, hstop]

/-- A comma separates a member from the next one. -/
theorem readSeparator_comma (hblanks : ∀ c ∈ blanks, isBlank c = true)
    (hrest : ∀ c ∈ rest.head?, isBlank c = false) :
    readSeparator (",".toList ++ (blanks ++ rest)) = some ((), rest) :=
  bind_reads (orElse_reads (expect_eq_some_iff.2 rfl)) (skipBlanks_reads hblanks hrest)

/-- A member is read with what separates it from the next one, -/
theorem readPassed_reads (h : member cs = some (value, mid))
    (hmid : readSeparator mid = some ((), rest)) : readPassed member cs = some (some value, rest) :=
  orElse_reads (bind_reads h (bind_reads hmid rfl))

/-- or it is not there. -/
theorem readPassed_eq_none (h : member cs = none) : readPassed member cs = some (none, cs) :=
  orElse_eq_right (bind_eq_none h)

/-- A method is read by its name, -/
theorem readMethod_reads (m : HttpMethod) (rest : List Char) :
    readMethod ("method: '".toList ++ ((Registry.name m).toList ++ ("'".toList ++ rest))) =
      some (m, rest) := by
  have hname : isIdentifier (Registry.name m) = true := by cases m <;> decide
  have hmethod : (StateT.lift (Registry.find? (Registry.name m)) : Reader HttpMethod) rest =
      some (m, rest) := by cases m <;> rfl
  exact bind_reads (expect_eq_some_iff.2 rfl) (bind_reads (readName_reads hname (by simp; decide))
    (bind_reads (expect_eq_some_iff.2 rfl) hmethod))

/-- and a body by its variable. -/
theorem readBody_reads (rest : List Char) :
    readBody ("body: JSON.stringify(data)".toList ++ rest) = some ("data", rest) := by
  have hdata : isIdentifier "data" = true := by decide
  have hbody : "body: JSON.stringify(data)" = "body: JSON.stringify(" ++ ("data" ++ ")") := rfl
  rw [hbody, String.toList_append, String.toList_append, List.append_assoc, List.append_assoc]
  exact bind_reads (expect_eq_some_iff.2 rfl) (bind_reads (readName_reads hdata (by simp; decide))
    (bind_reads (expect_eq_some_iff.2 rfl) rfl))

/-- Nothing is passed, -/
theorem readInit_absent (after : List Char) :
    readInit (");".toList ++ after) = some ((none, none), ");".toList ++ after) :=
  orElse_eq_right (bind_eq_none rfl)

/-- or a method, -/
theorem readInit_passing (m : HttpMethod) (after : List Char) :
    readInit ((passing m).toList ++ after) = some ((some m, none), after) := by
  have hpassing : (passing m).toList ++ after =
      ", \x7b".toList ++ (" ".toList ++ ("method: '".toList ++
      ((Registry.name m).toList ++ ("'".toList ++ (" ".toList ++ ("\x7d".toList ++ after)))))) := by
    simp [passing]
  have hmethod := readPassed_reads (readMethod_reads m (" ".toList ++ ("\x7d".toList ++ after))) rfl
  have hbody : readBody ("\x7d".toList ++ after) = none := bind_eq_none rfl
  rw [hpassing]
  exact orElse_reads (bind_reads (expect_eq_some_iff.2 rfl)
    (bind_reads (skipBlanks_reads (List.all_eq_true.1 rfl) (by simp; decide)) (bind_reads hmethod
      (bind_reads (readPassed_eq_none hbody) (bind_reads (expect_eq_some_iff.2 rfl) rfl)))))

/-- or a method and a body. -/
theorem readInit_body {margin : String} (hmargin : ∀ c ∈ margin.toList, isBlank c = true)
    (m : HttpMethod) (after : List Char) :
    readInit ((", \x7b\n" ++ margin ++ "  method: '" ++ Registry.name m ++ "',\n" ++ margin ++
      "  body: JSON.stringify(data),\n" ++ margin ++ "\x7d").toList ++ after) =
      some ((some m, some "data"), after) := by
  -- the line breaks with the margins behind them
  let line := '\n' :: margin.toList
  have hline : ∀ c ∈ line, isBlank c = true := List.forall_mem_cons.2 ⟨rfl, hmargin⟩
  have hindented : ∀ c ∈ line ++ "  ".toList, isBlank c = true :=
    List.forall_mem_append.2 ⟨hline, List.all_eq_true.1 rfl⟩
  let closing := ",".toList ++ (line ++ ("\x7d".toList ++ after))
  let second := "body: JSON.stringify(data)".toList ++ closing
  let first := "method: '".toList ++ ((Registry.name m).toList ++ ("'".toList ++
    (",".toList ++ ((line ++ "  ".toList) ++ second))))
  have hmethod : readPassed readMethod first = some (some m, second) :=
    readPassed_reads (readMethod_reads m _)
      (readSeparator_comma hindented (by simp [second]; decide))
  have hbody : readPassed readBody second = some (some "data", "\x7d".toList ++ after) :=
    readPassed_reads (readBody_reads closing) (readSeparator_comma hline (by simp; decide))
  have hinit : (", \x7b\n" ++ margin ++ "  method: '" ++ Registry.name m ++ "',\n" ++ margin ++
      "  body: JSON.stringify(data),\n" ++ margin ++ "\x7d").toList ++ after =
      ", \x7b".toList ++ ((line ++ "  ".toList) ++ first) := by
    simp [line, first, second, closing]
  rw [hinit]
  exact orElse_reads (bind_reads (expect_eq_some_iff.2 rfl)
    (bind_reads (skipBlanks_reads hindented (by simp [first]; decide)) (bind_reads hmethod
      (bind_reads hbody (bind_reads (expect_eq_some_iff.2 rfl) rfl)))))

end

/-! ## The parts of a call -/

/-- The path of a call, which carries the query if there is one. -/
def targetSource (e : Endpoint) : String :=
  match e.payload with
  | .query _ =>
    if e.method = .delete then "`" ++ querySource e ++ "`"
    else "queryString ? `" ++ querySource e ++ "` : " ++ quote e.path
  | .body _ | .none => quote e.path

/-- What the wrapper is passed behind the path. -/
def initSource (margin : String) (e : Endpoint) : String :=
  match e.payload with
  | .body _ => ", \x7b\n" ++ margin ++ "  method: '" ++ Registry.name e.method ++ "',\n" ++
      margin ++ "  body: JSON.stringify(data),\n" ++ margin ++ "\x7d"
  | .query _ | .none => if e.method = .get then "" else passing e.method

section
variable {e : Endpoint} {margin : String} {rest after : List Char}

/-- The arguments of a call are these two parts, if parameters are carried by GET and DELETE
alone. -/
theorem arguments_eq
    (hm : ∀ params, e.payload = .query params → e.method = .get ∨ e.method = .delete) :
    arguments margin e = targetSource e ++ initSource margin e := by
  simp only [arguments, targetSource, initSource, Shape.of]
  cases hp : e.payload with
  | query params =>
    rcases hm params hp with hget | hdelete
    · simp only [hget, querySource, queryExpression, reduceCtorEq, if_false, if_true,
        String.append_assoc, String.append_empty]
      simp only [← String.append_assoc, String.reduceAppend]
    · have hpassing : passing .delete = ", \x7b method: 'DELETE' \x7d" := rfl
      simp only [hdelete, hpassing, querySource, queryExpression, if_true, reduceCtorEq, if_false,
        String.append_assoc]
      simp only [← String.append_assoc, String.reduceAppend]
  | body fields => simp only [String.append_assoc]
  | none =>
    by_cases hget : e.method = .get
    · simp only [if_pos hget, String.append_empty]
    · rw [if_neg hget, if_neg hget, passing]
      simp only [String.append_assoc]

/-- What is passed behind the path is the method of the operation, or that is GET; and the body, if
there is one. -/
theorem readInit_initSource (hmargin : ∀ c ∈ margin.toList, isBlank c = true) (e : Endpoint)
    (after : List Char) : ∃ m, m.getD .get = e.method ∧
      readInit ((initSource margin e).toList ++ (");".toList ++ after)) =
        some ((m, (Call.of e).body), ");".toList ++ after) := by
  have hplain : ∃ m, m.getD .get = e.method ∧
      readInit ((if e.method = .get then "" else passing e.method).toList ++
        (");".toList ++ after)) =
        some ((m, none), ");".toList ++ after) := by
    by_cases hget : e.method = .get
    · rw [if_pos hget]
      exact ⟨none, hget.symm, readInit_absent after⟩
    · rw [if_neg hget]
      exact ⟨some e.method, rfl, readInit_passing e.method _⟩
  rw [initSource, Call.of]
  cases e.payload with
  | query | none => exact hplain
  | body => exact ⟨some e.method, rfl, readInit_body hmargin e.method _⟩

/-! ## The path -/

/-- A template literal carries a query if it has one expression, behind a question mark. -/
theorem target?_eq_query_iff {t : TemplateLiteral} {path : List Nat} {text : String} :
    target? t = some (path, some text) ↔ t = ⟨path ++ ['?'.toNat], [(text.toList, [])]⟩ := by
  obtain ⟨head, substitutions⟩ := t
  rw [target?]
  constructor
  · intro h
    split at h
    · cases h
    · rename_i source hsource
      split at h
      · rename_i hmark
        cases h
        rw [List.dropLast_append_getLast? _ hmark, String.toList_ofList]
        exact congrArg (TemplateLiteral.mk head) hsource
      · cases h
    · cases h
  · intro h
    cases h
    simp

/-- A template literal is read for what it stands for. -/
theorem readTemplateTarget_eq_some_iff {cs rest : List Char} {target : Target} :
    readTemplateTarget ("`".toList ++ cs) = some (target, rest) ↔
      ∃ template, readTemplate? cs = some (template, rest) ∧ target? template = some target := by
  constructor
  · intro h
    obtain ⟨⟨⟩, mid, hmid, hrest⟩ := exists_of_bind_reads h
    cases List.append_cancel_left (expect_eq_some_iff.1 hmid)
    obtain ⟨template, mid', htemplate, hlift⟩ := exists_of_bind_reads hrest
    obtain ⟨target', htarget, heq⟩ := Option.bind_eq_some_iff.1 hlift
    cases heq
    exact ⟨template, htemplate, htarget⟩
  · rintro ⟨template, htemplate, htarget⟩
    refine bind_reads (expect_eq_some_iff.2 rfl) (bind_reads htemplate ?_)
    rw [htarget]
    rfl

/-- A path in a template literal is read as it was meant exactly if it can be written into one. -/
theorem readTemplateTarget_querySource_iff :
    readTemplateTarget ("`".toList ++ ((querySource e).toList ++ '`' :: after)) =
      some ((units e.path.toList, some (queryExpression e)), rest) ↔
    StandsInTemplate e.path.toList ∧ rest = after := by
  have hmark : units e.path.toList ++ ['?'.toNat] = units (e.path.toList ++ ['?']) := by
    rw [units_append]
    rfl
  have hsource : (querySource e).toList ++ '`' :: after = e.path.toList ++
      '?' :: '$' :: '\x7b' :: ((queryExpression e).toList ++ '\x7d' :: '`' :: after) := by
    simp [querySource]
  simp only [readTemplateTarget_eq_some_iff, target?_eq_query_iff, exists_eq_right, hmark]
  constructor
  · intro h
    have hstands := (readTemplate?_question_iff (plain_queryExpression e)).1 ⟨rest, hsource ▸ h⟩
    cases (readTemplate?_querySource_iff.2 hstands).symm.trans h
    exact ⟨hstands, rfl⟩
  · rintro ⟨hstands, rfl⟩
    exact readTemplate?_querySource_iff.2 hstands

/-- A quoted path is read as it is. -/
theorem readTarget_quote (path : String) (rest : List Char) :
    readTarget ((quote path).toList ++ rest) = some ((units path.toList, none), rest) :=
  orElse_reads (bind_reads (readLiteral?_quote path rest) rfl)

/-- What begins with a backtick is read as a template literal. -/
theorem readTarget_template {cs : List Char} :
    readTarget ("`".toList ++ cs) = readTemplateTarget ("`".toList ++ cs) := by
  have hliteral : readLiteral? ("`".toList ++ cs) = none := rfl
  have hname : readName ("`".toList ++ cs) = none := rfl
  rw [readTarget, orElse_eq_right (bind_eq_none hliteral)]
  cases htarget : readTemplateTarget ("`".toList ++ cs) with
  | some p => exact orElse_reads htarget
  | none =>
    rw [orElse_eq_right htarget]
    exact bind_eq_none hname

/-- A path that is chosen by the text of the query carries that, and is the same without it. -/
theorem readTarget_choice_iff {cs : List Char} {target : Target} :
    readTarget ("queryString ? ".toList ++ cs) = some (target, rest) ↔
      ∃ path mid, target = (path, some "queryString") ∧
        readTemplateTarget cs = some (target, " : ".toList ++ mid) ∧
        readLiteral? mid = some (path, rest) := by
  have hliteral : readLiteral? ("queryString ? ".toList ++ cs) = none := rfl
  have htemplate : readTemplateTarget ("queryString ? ".toList ++ cs) = none := bind_eq_none rfl
  have hname : readName ("queryString ? ".toList ++ cs) =
      some ("queryString", " ? ".toList ++ cs) := by
    have hidentifier : isIdentifier "queryString" = true := by decide
    have hopening : "queryString ? " = "queryString" ++ " ? " := rfl
    rw [hopening, String.toList_append, List.append_assoc]
    exact readName_reads hidentifier (by simp; decide)
  rw [readTarget, orElse_eq_right (bind_eq_none hliteral), orElse_eq_right htemplate]
  constructor
  · intro h
    obtain ⟨text, _, htext, htail⟩ := exists_of_bind_reads h
    cases hname.symm.trans htext
    obtain ⟨⟨⟩, _, hmark, hbehind⟩ := exists_of_bind_reads htail
    cases List.append_cancel_left (expect_eq_some_iff.1 hmark)
    obtain ⟨target', _, htarget, hcolon⟩ := exists_of_bind_reads hbehind
    obtain ⟨⟨⟩, mid, hread, hpath⟩ := exists_of_bind_reads hcolon
    cases expect_eq_some_iff.1 hread
    obtain ⟨path, _, hliteral, hchosen⟩ := exists_of_bind_reads hpath
    split at hchosen
    · cases hchosen
      exact ⟨path, mid, ‹_›, htarget, hliteral⟩
    · cases hchosen
  · rintro ⟨path, mid, htarget, hread, hpath⟩
    refine bind_reads hname (bind_reads (expect_eq_some_iff.2 rfl) (bind_reads hread
      (bind_reads (expect_eq_some_iff.2 rfl) (bind_reads hpath ?_))))
    rw [if_pos htarget]
    rfl

/-- The path of a call is read with the query that it carries, exactly if a path that carries one
can be written into a template literal as it is. -/
theorem readTarget_targetSource_iff :
    readTarget ((targetSource e).toList ++ after) =
      some (((Call.of e).path, (Call.of e).query), rest) ↔
    (∀ params, e.payload = .query params → StandsInTemplate e.path.toList) ∧ rest = after := by
  rw [targetSource, Call.of]
  cases hp : e.payload with
  | body | none =>
    rw [readTarget_quote, and_iff_right nofun]
    simp [eq_comm]
  | query params =>
    have hstands : (∀ t, Payload.query params = .query t → StandsInTemplate e.path.toList) ↔
        StandsInTemplate e.path.toList := ⟨fun h => h params rfl, fun h _ _ => h⟩
    rw [hstands]
    by_cases hd : e.method = .delete
    · have hsource : ("`" ++ querySource e ++ "`").toList ++ after =
          "`".toList ++ ((querySource e).toList ++ '`' :: after) := by simp
      simp only [if_pos hd, hsource, readTarget_template]
      exact readTemplateTarget_querySource_iff
    · have hsource :
          ("queryString ? `" ++ querySource e ++ "` : " ++ quote e.path).toList ++ after =
          "queryString ? ".toList ++ ("`".toList ++ ((querySource e).toList ++ '`' ::
            (" : ".toList ++ ((quote e.path).toList ++ after)))) := by simp
      have htext : queryExpression e = "queryString" := if_neg hd
      simp only [if_neg hd, hsource, readTarget_choice_iff]
      constructor
      · rintro ⟨path, mid, -, hread, hpath⟩
        obtain ⟨hstands, hmid⟩ := readTemplateTarget_querySource_iff.1 hread
        cases List.append_cancel_left hmid
        cases (readLiteral?_quote e.path after).symm.trans hpath
        exact ⟨hstands, rfl⟩
      · rintro ⟨hstands, rfl⟩
        exact ⟨_, _, by rw [htext], readTemplateTarget_querySource_iff.2 ⟨hstands, rfl⟩,
          readLiteral?_quote e.path rest⟩

/-! ## The call of an operation -/

/-- The call of an operation is its path and what the wrapper is passed, with the closing
bracket. -/
theorem callSource_of
    (hm : ∀ params, e.payload = .query params → e.method = .get ∨ e.method = .delete)
    (margin name : String) : ((Outline.of name e).callSource margin).toList =
      (targetSource e).toList ++ ((initSource margin e).toList ++ ");".toList) := by
  have harguments : (Outline.of name e).arguments = argumentLines e := rfl
  rw [Outline.callSource, harguments, intercalate_argumentLines, arguments_eq hm]
  simp only [String.toList_append, List.append_assoc]

/-- If the call of an operation is read with its path and the query that it declares, then a path
that carries a query can be written into a template literal as it is. -/
theorem standsInTemplate_of_readCall
    (hm : ∀ params, e.payload = .query params → e.method = .get ∨ e.method = .delete)
    {name : String} {call : Call}
    (h : readCall (((Outline.of name e).callSource margin).toList ++ after) = some (call, rest))
    (hpath : call.path = (Call.of e).path) (hquery : call.query = (Call.of e).query) :
    ∀ params, e.payload = .query params → StandsInTemplate e.path.toList := by
  rw [callSource_of hm, List.append_assoc] at h
  obtain ⟨⟨path, query⟩, mid, htarget, hpassed⟩ := exists_of_bind_reads h
  obtain ⟨⟨method, body⟩, mid', -, hend⟩ := exists_of_bind_reads hpassed
  obtain ⟨⟨⟩, mid'', -, hcall⟩ := exists_of_bind_reads hend
  cases hcall
  obtain rfl : path = (Call.of e).path := hpath
  obtain rfl : query = (Call.of e).query := hquery
  exact (readTarget_targetSource_iff.1 htarget).1

/-- The call that the clients write for an operation is read as the one that it declares exactly if
a path that carries a query can be written into a template literal as it is. -/
theorem readCall_callSource_iff (hmargin : ∀ c ∈ margin.toList, isBlank c = true)
    (hm : ∀ params, e.payload = .query params → e.method = .get ∨ e.method = .delete)
    (name : String) (after : List Char) :
    readCall (((Outline.of name e).callSource margin).toList ++ after) = some (Call.of e, after) ↔
      ∀ params, e.payload = .query params → StandsInTemplate e.path.toList := by
  refine ⟨fun h => standsInTemplate_of_readCall hm h rfl rfl, fun h => ?_⟩
  obtain ⟨m, hmethod, hinit⟩ := readInit_initSource hmargin e after
  rw [callSource_of hm, List.append_assoc, List.append_assoc]
  refine bind_reads (readTarget_targetSource_iff.2 ⟨h, rfl⟩) (bind_reads hinit
    (bind_reads (expect_eq_some_iff.2 rfl) ?_))
  rw [hmethod]
  rfl

/-- In front of the call, the query that it carries is collected, and none where it carries none. -/
theorem collected?_of (name : String) (e : Endpoint) :
    (Outline.of name e).collected? = (Call.of e).query := by
  have hquery : (Outline.of name e).query = queryLines e := rfl
  rw [Outline.collected?, hquery, Call.of]
  cases hp : e.payload with
  | query params =>
    obtain ⟨hloop, htext⟩ := read?_queryLines hp
    rw [hloop, Option.bind_some, htext]
  | body | none => simp only [queryLines, Shape.of, hp]; rfl

end

end Scaffold.Client
