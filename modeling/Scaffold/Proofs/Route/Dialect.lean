import Scaffold.Proofs.Route.Layout
import Scaffold.Proofs.Route.Reading

/-!
# Dialects of the frameworks

The lines in which each framework has its handlers, and what these lines do. The dialects are stated
on their own, without the layouts; `knows_nextjs` and its siblings say that every line of a layout
is one of its dialect, and that the handlers of a binding take the same steps in all of them.
-/

namespace Scaffold.Route

open Text (Apart apart_ofList not_isPrefix)

/-! ## Dialects -/

/-- The method that is written as a word. -/
def methodOf? (written : HttpMethod → String) (word : String) : Option HttpMethod :=
  Registry.all.find? fun m => written m == word

/-- A line that calls an operation and ends with the call. -/
def Form.call (opening : String) : Form :=
  ⟨opening, ");", fun operation argument => some [.call operation argument]⟩

/-- A line that registers a handler under a method. -/
def Form.registration (opening ending : String) (written : HttpMethod → String) : Form :=
  ⟨opening, ending, fun word _ => (methodOf? written word).map fun m => [.register m]⟩

/-- The route modules. -/
def Dialect.nextjs : Dialect where
  opening := "export async function "
  closing := "\x7d"
  forms := [.call "    const result = await client.",
    .registration "export async function " "request: NextRequest) \x7b" Registry.name]
  fixed := [
    ("  try \x7b", []),
    ("    const client = new SchedulingClient(process.env.SCHEDULING_API_KEY);", []),
    ("    const query = Object.fromEntries(request.nextUrl.searchParams) as" ++
      " Record<string, string | undefined>;", [.bind "query"]),
    ("    const body = await request.json();", [.bind "body"]),
    ("    return NextResponse.json(result);", []),
    ("  \x7d catch (error) \x7b", [.onFailure]),
    ("    return NextResponse.json(\x7b error: errorMessage(error) \x7d, \x7b status: 500 \x7d);",
      [.answer "\x7b error: errorMessage(error) \x7d" 500]),
    ("  \x7d", [])]

/-- The router. -/
def Dialect.express : Dialect where
  opening := "schedulingRouter."
  closing := "\x7d);"
  forms := [.call "    const result = await getClient().",
    .registration "schedulingRouter." ", async (req: Request, res: Response) => \x7b"
      HttpMethod.verb]
  fixed := [
    ("  try \x7b", []),
    ("    const query = req.query as Record<string, string | undefined>;", [.bind "query"]),
    ("    const body = req.body;", [.bind "body"]),
    ("    res.json(result);", []),
    ("  \x7d catch (error) \x7b", [.onFailure]),
    ("    res.status(500).json(\x7b error: errorMessage(error) \x7d);",
      [.answer "\x7b error: errorMessage(error) \x7d" 500]),
    ("  \x7d", [])]

/-- The plugin. -/
def Dialect.fastify : Dialect where
  opening := "  fastify."
  closing := "  \x7d);"
  forms := [.call "      const result = await getClient().",
    .registration "  fastify." ", async (request, reply) => \x7b" HttpMethod.verb]
  fixed := [
    ("    try \x7b", []),
    ("      const query = request.query as Record<string, string | undefined>;", [.bind "query"]),
    ("      const body = request.body;", [.bind "body"]),
    ("      return reply.send(result ?? null);", []),
    ("    \x7d catch (error) \x7b", [.onFailure]),
    ("      return reply.status(500).send(\x7b error: errorMessage(error) \x7d);",
      [.answer "\x7b error: errorMessage(error) \x7d" 500]),
    ("    \x7d", [])]

/-- The parameter lists of the methods of the controller, with what they bind. -/
def parameterLists : List (String × List Step) := [
  ("", []),
  ("@Query() query: Record<string, string | undefined>", [.bind "query"]),
  ("@Body() body: unknown", [.bind "body"])]

/-- The controller. -/
def Dialect.controller : Dialect where
  opening := "  @"
  closing := "  \x7d"
  forms := [.call "      return await this.schedulingService.",
    .registration "  @" ")" HttpMethod.decorator,
    ⟨"  async ", ") \x7b", fun _ parameters => parameterLists.lookup parameters⟩]
  fixed := [
    ("    try \x7b", []),
    ("    \x7d catch (error) \x7b", [.onFailure]),
    ("      throw new HttpException(\x7b error: errorMessage(error) \x7d, 500);",
      [.answer "\x7b error: errorMessage(error) \x7d" 500]),
    ("    \x7d", [])]

/-- The service. -/
def Dialect.service : Dialect where
  opening := "  async "
  closing := "  \x7d"
  forms := [.call "    return this.client().",
    ⟨"  async ", ") \x7b", fun name parameters => some [.declare name parameters]⟩]
  fixed := []

/-- The dialects of all files that have handlers or are called by them. -/
def Dialect.all : List Dialect := [nextjs, express, fastify, controller, service]

/-- In every dialect, the lines can be told apart. -/
theorem Dialect.lawful_of_mem_all : ∀ D ∈ all, D.Lawful := by
  simp only [all, List.forall_mem_cons, List.not_mem_nil, false_implies, implies_true, and_true]
  and_intros
  all_goals
    refine ⟨?_, ?_, ?_⟩
    · simp only [nextjs, express, fastify, controller, service, Form.call, Form.registration,
        List.pairwise_cons, List.forall_mem_cons, List.Pairwise.nil, List.not_mem_nil,
        false_implies, implies_true, and_true]
      and_intros <;> (apply not_isPrefix; rfl)
    · simp only [plainLines, nextjs, express, fastify, controller, service, Form.call,
        Form.registration, String.reduceAppend, List.map_cons, List.map_nil, List.forall_mem_cons,
        List.not_mem_nil, false_implies, implies_true, and_true]
      and_intros <;> (apply not_isPrefix; rfl)
    · simp [plainLines, nextjs, express, fastify, controller, service]

/-! ## Steps of a binding -/

/-- The names that an input is bound to. -/
def Input.names : Input → List String
  | none => []
  | query => ["query"]
  | body => ["body"]

/-- The steps from the call on. -/
def Binding.callSteps (b : Binding) : List Step :=
  [.call b.operation b.callArgs, .onFailure, .answer "\x7b error: errorMessage(error) \x7d" 500]

/-- The steps of the handler of a binding. -/
def Binding.steps (b : Binding) : List Step :=
  .register b.method :: (b.input.names.map .bind ++ b.callSteps)

/-- The steps of the method of the service. -/
def Binding.serviceSteps (b : Binding) : List Step :=
  [.declare b.operation (serviceParameters b).1, .call b.operation (serviceParameters b).2]

section
variable (b : Binding)

theorem methodOf?_name (m : HttpMethod) : methodOf? Registry.name (Registry.name m) = some m := by
  cases m <;> rfl

theorem methodOf?_verb (m : HttpMethod) : methodOf? HttpMethod.verb m.verb = some m := by
  cases m <;> rfl

theorem methodOf?_decorator (m : HttpMethod) :
    methodOf? HttpMethod.decorator m.decorator = some m := by
  cases m <;> rfl

/-- A registration does nothing but register. -/
theorem meaning_registration {opening ending inner : String} {written : HttpMethod → String}
    {m : HttpMethod} (h : methodOf? written (written m) = some m) :
    (Form.registration opening ending written).meaning (written m) inner = some [.register m] :=
  congrArg (Option.map fun m => [Step.register m]) h

/-- The line of an input binds its name. -/
theorem knows_inputLines {D : Dialect} {query body : String} (i j : Nat)
    (hquery : D.fixed[i]? = some (query, [.bind "query"]))
    (hbody : D.fixed[j]? = some (body, [.bind "body"])) :
    D.Knows (inputLines b query body) (b.input.names.map .bind) := by
  rw [inputLines]
  cases b.input with
  | none => exact .nil
  | query => exact .step i hquery .nil
  | body => exact .step j hbody .nil

/-- The lines of the handlers in route modules are known, -/
theorem knows_nextjs (hoperation : '(' ∉ b.operation.toList) :
    Dialect.nextjs.Knows (Layout.nextjs.handler b) b.steps := by
  have hname : '(' ∉ (Registry.name b.method).toList := by cases b.method <;> decide
  have hline : "export async function " ++ Registry.name b.method ++ "(request: NextRequest) \x7b" =
      (Form.registration "export async function " "request: NextRequest) \x7b" Registry.name).line
        (Registry.name b.method) "" := by
    simp only [Form.line, Form.registration, String.append_assoc, String.reduceAppend]
  have hcall : Dialect.nextjs.Knows _ b.callSteps :=
    .form (.call "    const result = await client.") b.operation b.callArgs
      (.head _) hoperation rfl <|
    .idle 4 rfl <| .step 5 rfl <| .step 6 rfl <| .idle 7 rfl .nil
  have hlines : Dialect.nextjs.Knows _ b.steps :=
    .form _ (Registry.name b.method) "" (.tail _ (.head _)) hname
      (meaning_registration (methodOf?_name _)) <|
    .idle 0 rfl <| .idle 1 rfl <| (knows_inputLines b 2 3 rfl rfl).append hcall
  rw [← hline] at hlines
  exact hlines

/-- and so are those in the router, -/
theorem knows_express (hoperation : '(' ∉ b.operation.toList) :
    Dialect.express.Knows (Layout.express.handler b) b.steps := by
  have hverb : '(' ∉ b.method.verb.toList := by cases b.method <;> decide
  have hcall : Dialect.express.Knows _ b.callSteps :=
    .form (.call "    const result = await getClient().") b.operation b.callArgs
      (.head _) hoperation rfl <|
    .idle 3 rfl <| .step 4 rfl <| .step 5 rfl <| .idle 6 rfl .nil
  have hlines : Dialect.express.Knows _ b.steps :=
    .form _ b.method.verb (TypeScript.quote b.path) (.tail _ (.head _)) hverb
      (meaning_registration (methodOf?_verb _)) <|
    .idle 0 rfl <| (knows_inputLines b 1 2 rfl rfl).append hcall
  exact hlines

/-- in the plugin -/
theorem knows_fastify (hoperation : '(' ∉ b.operation.toList) :
    Dialect.fastify.Knows (Layout.fastify.handler b) b.steps := by
  have hverb : '(' ∉ b.method.verb.toList := by cases b.method <;> decide
  have hcall : Dialect.fastify.Knows _ b.callSteps :=
    .form (.call "      const result = await getClient().") b.operation b.callArgs
      (.head _) hoperation
      rfl <|
    .idle 3 rfl <| .step 4 rfl <| .step 5 rfl <| .idle 6 rfl .nil
  have hlines : Dialect.fastify.Knows _ b.steps :=
    .form _ b.method.verb (TypeScript.quote b.path) (.tail _ (.head _)) hverb
      (meaning_registration (methodOf?_verb _)) <|
    .idle 0 rfl <| (knows_inputLines b 1 2 rfl rfl).append hcall
  exact hlines

/-- and in the controller. -/
theorem knows_controller (hoperation : '(' ∉ b.operation.toList) :
    Dialect.controller.Knows (Layout.controller.handler b) b.steps := by
  have hdecorator : '(' ∉ b.method.decorator.toList := by cases b.method <;> decide
  have hcall : Dialect.controller.Knows _ b.callSteps :=
    .idle 0 rfl <|
    .form (.call "      return await this.schedulingService.") b.operation b.callArgs
      (.head _) hoperation
      rfl <|
    .step 1 rfl <| .step 2 rfl <| .idle 3 rfl .nil
  have hparameters : parameterLists.lookup (nestParameters b) = some (b.input.names.map .bind) := by
    rw [nestParameters]
    cases b.input <;> simp [parameterLists, List.lookup_cons, Input.names]
  have hlines : Dialect.controller.Knows _ b.steps :=
    .form _ b.method.decorator (TypeScript.quote b.relativePath) (.tail _ (.head _)) hdecorator
      (meaning_registration (methodOf?_decorator _)) <|
    .form _ b.operation (nestParameters b) (.tail _ (.tail _ (.head _))) hoperation
      hparameters hcall
  exact hlines

/-- The lines of the methods of the service are known. -/
theorem knows_service (hoperation : '(' ∉ b.operation.toList) :
    Dialect.service.Knows (Layout.service.handler b) b.serviceSteps := by
  have hlines : Dialect.service.Knows _ b.serviceSteps :=
    .form _ b.operation (serviceParameters b).1 (.tail _ (.head _)) hoperation
      (show _ = some [Step.declare b.operation (serviceParameters b).1] from rfl) <|
    .form (.call "    return this.client().") b.operation (serviceParameters b).2
      (.head _) hoperation
      rfl .nil
  exact hlines

end

end Scaffold.Route
